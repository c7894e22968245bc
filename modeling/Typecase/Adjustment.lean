/-! The distance in bytes from a handle to a view of it. Distances are measured once and
replayed on other handles of the same type, so measuring and replaying undo each other
on 64-bit addresses that wrap around. -/

namespace Typecase

structure Adjustment where
  bytes : Int64
  deriving DecidableEq

namespace Adjustment

def zero : Adjustment := ⟨0⟩

instance : Inhabited Adjustment := ⟨zero⟩

def ofOffset (offset : UInt64) : Adjustment := ⟨offset.toInt64⟩

/-- How far the view lies behind the handle. -/
def measure (handle view : UInt64) : Adjustment := ofOffset (view - handle)

/-- The address of the view that lies this far behind the handle. -/
def replay (adjustment : Adjustment) (handle : UInt64) : UInt64 :=
  handle + adjustment.bytes.toUInt64

/-- The sign is always written. -/
def text (adjustment : Adjustment) : String :=
  let bytes := adjustment.bytes.toInt
  "Adjustment(" ++ (if bytes < 0 then "-" else "+") ++ toString bytes.natAbs ++ ")"

@[simp] theorem replay_ofOffset (offset handle : UInt64) :
    (ofOffset offset).replay handle = handle + offset := by
  simp [replay, ofOffset]

@[simp] theorem replay_measure (handle view : UInt64) :
    (measure handle view).replay handle = view := by
  rw [measure, replay_ofOffset, UInt64.add_comm, UInt64.sub_add_cancel]

@[simp] theorem measure_add (handle offset : UInt64) :
    measure handle (handle + offset) = ofOffset offset := by
  rw [measure, UInt64.add_comm, UInt64.add_sub_cancel]

@[simp] theorem replay_zero (handle : UInt64) : zero.replay handle = handle :=
  UInt64.add_zero handle

@[simp] theorem measure_replay (handle : UInt64) (adjustment : Adjustment) :
    measure handle (adjustment.replay handle) = adjustment := by
  rw [replay, measure_add, ofOffset, Int64.toInt64_toUInt64]

@[simp] theorem measure_self (handle : UInt64) : measure handle handle = zero := by
  simp [measure, ofOffset, zero]

end Adjustment

end Typecase
