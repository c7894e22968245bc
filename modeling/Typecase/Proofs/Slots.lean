import Mathlib.Data.List.Perm.Basic
import Typecase.Cache
import Typecase.Proofs.Ledger

/-! The slots of a cache repeat what the store knows, so each of them may grow stale. What
every operation keeps is stated here once: the shape of the slot table, and an agreement
between the record of a token in its slot and the record of that token in the store. -/

namespace Typecase

/-- How a record in a slot may relate to what the store knows of its token. The record of
the store will always do, and a vacant slot agrees with a store that has not met the token
that marks it. -/
structure Agreement where
  holds : Token → Option Record → Record → Prop
  stored : ∀ token record, holds token (some record) record
  vacant : holds .empty none .unresolved

namespace Cache

/-- What the slots hold after the visited entries were brought back, in any order: a slot
that one of them falls into holds one of those, and any other slot is vacant. -/
structure Filled (bits shift : Nat) (visited : List Entry) (slots : Array Entry) : Prop where
  full : slots.size = slotsOf bits
  filled : ∀ index < slotsOf bits,
    (slots.getD index .vacant ∈ visited ∧
      (slots.getD index .vacant).token.slot bits shift = index) ∨
    (slots.getD index .vacant = .vacant ∧
      ∀ entry ∈ visited, entry.token.slot bits shift ≠ index)

theorem getD_setIfInBounds (slots : Array Entry) (target index : Nat) (entry : Entry)
    (inside : target < slots.size) :
    (slots.setIfInBounds target entry).getD index .vacant =
      if index = target then entry else slots.getD index .vacant := by
  by_cases same : index = target
  · subst same
    simp [inside]
  · simp [same, Ne.symm same]

theorem filled_vacantSlots (bits shift : Nat) : Filled bits shift [] (vacantSlots bits) where
  full := by simp [vacantSlots]
  filled index inside := by
    right
    simp [vacantSlots, inside]

theorem Filled.settleIn {bits shift : Nat} {visited : List Entry} {slots : Array Entry}
    (before : Filled bits shift visited slots) (entry : Entry) :
    Filled bits shift (visited ++ [entry]) (Cache.settleIn bits shift slots entry) := by
  have target : entry.token.slot bits shift < slots.size := by
    rw [before.full]
    exact entry.token.slot_lt bits shift
  by_cases free : (slots.getD (entry.token.slot bits shift) .vacant).isVacant = true
  · simp only [Cache.settleIn, if_pos free]
    refine ⟨by simpa using before.full, fun index inside => ?_⟩
    rw [getD_setIfInBounds _ _ _ _ target]
    by_cases here : index = entry.token.slot bits shift
    · left
      simp [here]
    · rw [if_neg here]
      rcases before.filled index inside with ⟨member, own⟩ | ⟨vacant, absent⟩
      · exact Or.inl ⟨List.mem_append_left _ member, own⟩
      · refine Or.inr ⟨vacant, fun other member => ?_⟩
        rcases List.mem_append.1 member with earlier | last
        · exact absent other earlier
        · rw [List.mem_singleton.1 last]
          exact Ne.symm here
  · simp only [Cache.settleIn, if_neg free]
    refine ⟨before.full, fun index inside => ?_⟩
    rcases before.filled index inside with ⟨member, own⟩ | ⟨vacant, absent⟩
    · exact Or.inl ⟨List.mem_append_left _ member, own⟩
    · refine Or.inr ⟨vacant, fun other member => ?_⟩
      rcases List.mem_append.1 member with earlier | last
      · exact absent other earlier
      · rw [List.mem_singleton.1 last]
        rintro rfl
        exact free (by rw [vacant]; rfl)

theorem filled_refill (bits shift : Nat) (entries : List Entry) :
    Filled bits shift entries (refill bits shift entries) := by
  have bringBack (entries visited : List Entry) (slots : Array Entry)
      (before : Filled bits shift visited slots) :
      Filled bits shift (visited ++ entries) (entries.foldl (settleIn bits shift) slots) := by
    induction entries generalizing visited slots with
    | nil => simpa using before
    | cons entry rest ih => simpa using ih _ _ (before.settleIn entry)
  exact bringBack entries [] _ (filled_vacantSlots bits shift)

theorem bestShift_le (tokens : List Token) (bits current maxShift : Nat)
    (bounded : current ≤ maxShift) : bestShift tokens bits current maxShift ≤ maxShift := by
  unfold bestShift
  refine List.foldlRecOn (motive := (· ≤ maxShift)) _ _ bounded fun best small shift member => ?_
  have tried : shift ≤ maxShift := Nat.le_of_lt_succ (List.mem_range.1 member)
  split
  next => exact tried
  next => exact small

/-- The shape of the slot table: as many slots as its size says, a size and a shift within
the configured range, and every token in its own slot. -/
structure Formed (cache : Cache) : Prop where
  valid : cache.config.Valid
  full : cache.slots.size = slotsOf cache.bits
  least : cache.config.minBits ≤ cache.bits
  most : cache.bits ≤ cache.config.maxBits
  shifted : cache.shift ≤ cache.config.maxShift
  placed : ∀ index < cache.slots.size,
    (cache.slots.getD index .vacant).isVacant = false →
    cache.slotNumber (cache.slots.getD index .vacant).token = index

theorem slotNumber_lt (cache : Cache) (formed : cache.Formed) (token : Token) :
    cache.slotNumber token < cache.slots.size := by
  rw [formed.full]
  exact token.slot_lt _ _

@[simp] theorem store_occupy (cache : Cache) (token : Token) (record : Record) :
    (cache.occupy token record).store = cache.store := rfl

@[simp] theorem store_countHit (cache : Cache) : cache.countHit.store = cache.store := rfl

@[simp] theorem store_rehash (cache : Cache) : cache.rehash.store = cache.store := rfl

theorem getD_occupy (cache : Cache) (formed : cache.Formed) (token : Token) (record : Record)
    (index : Nat) :
    (cache.occupy token record).slots.getD index .vacant =
      if index = cache.slotNumber token then ⟨token, record⟩
      else cache.slots.getD index .vacant :=
  getD_setIfInBounds _ _ _ _ (cache.slotNumber_lt formed token)

theorem resident_occupy (cache : Cache) (formed : cache.Formed) (token other : Token)
    (record : Record) :
    (cache.occupy token record).resident other =
      if cache.slotNumber other = cache.slotNumber token then ⟨token, record⟩
      else cache.resident other :=
  cache.getD_occupy formed token record (cache.slotNumber other)

theorem resident_occupy_self (cache : Cache) (formed : cache.Formed) (token : Token)
    (record : Record) : (cache.occupy token record).resident token = ⟨token, record⟩ := by
  rw [resident_occupy cache formed, if_pos rfl]

theorem formed_occupy (cache : Cache) (formed : cache.Formed) (token : Token)
    (record : Record) : (cache.occupy token record).Formed where
  valid := formed.valid
  full := by simpa [occupy] using formed.full
  least := formed.least
  most := formed.most
  shifted := formed.shifted
  placed index inside taken := by
    have before : index < cache.slots.size := by simpa [occupy] using inside
    rw [getD_occupy cache formed] at taken ⊢
    by_cases here : index = cache.slotNumber token
    · rw [if_pos here, here]
      rfl
    · rw [if_neg here] at taken ⊢
      exact formed.placed index before taken

theorem rehashedBits_le (cache : Cache) : cache.rehashedBits ≤ cache.config.maxBits :=
  Nat.min_le_left _ _

theorem bits_le_rehashedBits (cache : Cache) (formed : cache.Formed) :
    cache.bits ≤ cache.rehashedBits := by
  have most := formed.most
  unfold rehashedBits
  omega

theorem filled_rehash (cache : Cache) :
    Filled cache.rehash.bits cache.rehash.shift
      (cache.backing.visit cache.counts.rehashes cache.store.entries) cache.rehash.slots :=
  filled_refill ..

theorem formed_rehash (cache : Cache) (formed : cache.Formed) : cache.rehash.Formed where
  valid := formed.valid
  full := cache.filled_rehash.full
  least := Nat.le_trans formed.least (cache.bits_le_rehashedBits formed)
  most := cache.rehashedBits_le
  shifted := bestShift_le _ _ _ _ formed.shifted
  placed index inside taken := by
    rw [cache.filled_rehash.full] at inside
    rcases cache.filled_rehash.filled index inside with ⟨-, own⟩ | ⟨vacant, -⟩
    · exact own
    · rw [vacant] at taken
      cases taken

/-- The token, if it is in its slot, is there with a record that agrees with the store. -/
def AgreesAt (agreement : Agreement) (cache : Cache) (token : Token) : Prop :=
  (cache.resident token).token = token →
    agreement.holds token (cache.store.get? token) (cache.resident token).record

/-- Every token in its slot is there with a record that agrees with the store. -/
def Faithful (agreement : Agreement) (cache : Cache) : Prop :=
  ∀ token, cache.AgreesAt agreement token

theorem faithful_occupy (agreement : Agreement) (cache : Cache) (formed : cache.Formed)
    (token : Token) (record : Record)
    (here : agreement.holds token (cache.store.get? token) record)
    (elsewhere : ∀ other ≠ token, cache.AgreesAt agreement other) :
    (cache.occupy token record).Faithful agreement := by
  intro other present
  rw [resident_occupy cache formed] at present ⊢
  by_cases shared : cache.slotNumber other = cache.slotNumber token
  · rw [if_pos shared] at present ⊢
    cases present
    exact here
  · rw [if_neg shared] at present ⊢
    have different : other ≠ token := fun same => shared (congrArg cache.slotNumber same)
    exact elsewhere other different present

/-- A rehash takes every record from the store, so it forgets whatever was stale. -/
theorem faithful_rehash (agreement : Agreement) (cache : Cache) :
    cache.rehash.Faithful agreement := by
  intro token present
  have inside : cache.rehash.slotNumber token < slotsOf cache.rehash.bits := token.slot_lt _ _
  have visited (entry : Entry) :
      entry ∈ cache.backing.visit cache.counts.rehashes cache.store.entries ↔
        cache.store.get? entry.token = some entry.record := by
    rw [(cache.backing.perm _ _).mem_iff, cache.store.mem_entries_iff]
  rcases cache.filled_rehash.filled _ inside with ⟨member, -⟩ | ⟨vacant, absent⟩
  · have known := (visited _).1 member
    change (cache.rehash.resident token).token = token at present
    change cache.store.get? (cache.rehash.resident token).token =
      some (cache.rehash.resident token).record at known
    rw [present] at known
    rw [store_rehash, known]
    exact agreement.stored ..
  · change cache.rehash.resident token = .vacant at vacant
    rw [vacant] at present ⊢
    cases present
    have unknown : cache.store.get? .empty = none := by
      cases found : cache.store.get? .empty with
      | none => rfl
      | some record => exact absurd rfl (absent ⟨.empty, record⟩ ((visited _).2 found))
    rw [store_rehash]
    change agreement.holds .empty (cache.store.get? .empty) .unresolved
    rw [unknown]
    exact agreement.vacant

end Cache

end Typecase
