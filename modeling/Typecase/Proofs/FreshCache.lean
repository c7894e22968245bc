import Typecase.Proofs.Slots

/-! A cache as it is made. Under a valid configuration only a lack of room prevents that, and
what is made has vacant slots, an empty store and the size that the hint asks for. -/

namespace Typecase

theorem Config.checkedBitsFor_of_room (config : Config) (valid : config.Valid) (hint : Nat)
    (room : slotsFor hint < Word.limit64) :
    config.checkedBitsFor hint = .ok (config.bitsFor hint) := by
  have ordered := valid.ordered
  rw [checkedBitsFor, if_neg (by omega), if_neg (by omega)]

namespace Cache

def fresh (hint : Nat) (config : Config) (backing : Backing) : Cache where
  slots := vacantSlots (config.bitsFor hint)
  bits := config.bitsFor hint
  shift := config.defaultShift
  store := .empty
  config := config
  backing := backing
  pressure := 0
  exhaustedAt := none
  counts := {}

theorem sized_eq_ok_iff (hint : Nat) (config : Config) (backing : Backing) (cache : Cache)
    (valid : config.Valid) :
    sized hint config backing = .ok cache ↔ Config.slotsFor hint < Word.limit64 ∧
      backing.holds hint = true ∧ cache = fresh hint config backing := by
  by_cases room : Config.slotsFor hint < Word.limit64
  · by_cases capacity : backing.holds hint = true
    · have made : sized hint config backing = .ok (fresh hint config backing) := by
        simp only [sized, config.checkedBitsFor_of_room valid hint room, Store.reserve,
          if_pos capacity]
        rfl
      simp [made, room, capacity, eq_comm]
    · simp [sized, config.checkedBitsFor_of_room valid hint room, Store.reserve, capacity, bind,
        Except.bind]
  · simp [sized, Config.checkedBitsFor, Nat.le_of_not_lt room, room, bind, Except.bind]

/-- A cache is made exactly if the configuration is valid, a word holds the wanted number of
slots and the map under the store has room for the expected types. -/
theorem create_eq_ok_iff (hint : Nat) (config : Config) (backing : Backing) (cache : Cache) :
    create hint config backing = .ok cache ↔ config.Valid ∧
      Config.slotsFor hint < Word.limit64 ∧ backing.holds hint = true ∧
      cache = fresh hint config backing := by
  unfold create
  cases checked : config.check with
  | error refusal =>
    have invalid : ¬config.Valid := by simp [← config.check_eq_ok_iff, checked]
    simp [invalid]
  | ok done =>
    have valid : config.Valid := (config.check_eq_ok_iff).1 checked
    rw [← sized_eq_ok_iff hint config backing cache valid]
    cases sized hint config backing <;> simp [Except.mapError, valid]

theorem exists_create_iff (hint : Nat) (config : Config) (backing : Backing) :
    (∃ cache, create hint config backing = .ok cache) ↔ config.Valid ∧
      Config.slotsFor hint < Word.limit64 ∧ backing.holds hint = true := by
  simp [create_eq_ok_iff]

section Fresh
variable (hint : Nat) (config : Config) (backing : Backing)

theorem vacant_fresh (index : Nat) :
    (fresh hint config backing).slots.getD index .vacant = .vacant := by
  by_cases inside : index < slotsOf (config.bitsFor hint)
  · simp [fresh, vacantSlots, inside]
  · simp [fresh, vacantSlots, inside]

theorem formed_fresh (valid : config.Valid) : (fresh hint config backing).Formed where
  valid := valid
  full := by simp [fresh, vacantSlots]
  least := by
    have ordered := valid.ordered
    simp only [fresh, Config.bitsFor]
    omega
  most := Nat.min_le_left _ _
  shifted := valid.start
  placed index _ taken := by
    rw [vacant_fresh] at taken
    cases taken

theorem faithful_fresh (agreement : Agreement) :
    (fresh hint config backing).Faithful agreement := by
  intro token present
  unfold resident at present ⊢
  rw [vacant_fresh] at present ⊢
  cases present
  exact agreement.vacant

end Fresh

end Cache

end Typecase
