import Mathlib.Data.Finset.Card
import Mathlib.Data.List.Permutation
import Typecase.Proofs.SlotTable

/-! A rehash looks for a layout, a size and a shift, in which as many of the known tokens as
possible have a slot to themselves. It finds the best one there is, and afterwards every slot that a
token falls into is taken by such a token. -/

namespace Typecase

/-- Indices that occur again later are those beyond the first of their kind. -/
theorem repeats_add_card (indices : List Nat) :
    repeats indices + indices.toFinset.card = indices.length := by
  induction indices with
  | nil => rfl
  | cons index rest ih =>
    rw [repeats, List.toFinset_cons, List.length_cons]
    by_cases again : index ∈ rest
    · rw [if_pos again, Finset.insert_eq_of_mem (List.mem_toFinset.2 again)]
      omega
    · rw [if_neg again, Finset.card_insert_of_notMem (mt List.mem_toFinset.1 again)]
      omega

/-- The slots that tokens fall into. -/
def slotsTaken (tokens : List Token) (bits shift : Nat) : Finset Nat :=
  (tokens.map fun token => token.slot bits shift).toFinset

theorem mem_slotsTaken (tokens : List Token) (bits shift index : Nat) :
    index ∈ slotsTaken tokens bits shift ↔ ∃ token ∈ tokens, token.slot bits shift = index := by
  simp [slotsTaken]

theorem conflicts_add_card (tokens : List Token) (bits shift : Nat) :
    conflicts tokens bits shift + (slotsTaken tokens bits shift).card = tokens.length := by
  rw [conflicts, slotsTaken, repeats_add_card, List.length_map]

theorem conflicts_perm (tokens others : List Token) (same : others.Perm tokens) :
    conflicts others = conflicts tokens := by
  funext bits shift
  have taken : slotsTaken others bits shift = slotsTaken tokens bits shift :=
    List.toFinset_eq_of_perm _ _ (same.map _)
  have first := conflicts_add_card tokens bits shift
  have second := conflicts_add_card others bits shift
  rw [taken, same.length_eq] at second
  omega

theorem bestShift_perm (tokens others : List Token) (same : others.Perm tokens)
    (bits current maxShift : Nat) :
    bestShift others bits current maxShift = bestShift tokens bits current maxShift := by
  unfold bestShift
  rw [conflicts_perm tokens others same]

/-- The outcome of a search below a limit that starts with a current shift. Only a shift with a
lower cost makes the search move, and then it goes to the smallest of the cheapest shifts. -/
structure Cheapest (cost : Nat → Nat) (current limit best : Nat) : Prop where
  within : best = current ∨ best < limit
  improved : cost best ≤ cost current
  least : ∀ shift < limit, cost best ≤ cost shift
  moved : best ≠ current → cost best < cost current ∧ ∀ shift < best, cost best < cost shift

section Cheapest
variable {cost : Nat → Nat} {current limit best : Nat}

theorem Cheapest.next (cheapest : Cheapest cost current limit best) :
    Cheapest cost current (limit + 1) (if cost limit < cost best then limit else best) := by
  obtain ⟨within, improved, least, moved⟩ := cheapest
  by_cases cheaper : cost limit < cost best
  · rw [if_pos cheaper]
    have below : ∀ shift < limit, cost limit < cost shift := fun shift earlier =>
      Nat.lt_of_lt_of_le cheaper (least shift earlier)
    refine ⟨Or.inr (Nat.lt_succ_self limit), ?_, fun shift inside => ?_, fun _ => ⟨?_, below⟩⟩
    · exact Nat.le_trans (Nat.le_of_lt cheaper) improved
    · rcases Nat.lt_succ_iff_lt_or_eq.1 inside with earlier | rfl
      · exact Nat.le_of_lt (below shift earlier)
      · exact Nat.le_refl _
    · exact Nat.lt_of_lt_of_le cheaper improved
  · rw [if_neg cheaper]
    refine ⟨within.imp_right Nat.lt_succ_of_lt, improved, fun shift inside => ?_, moved⟩
    rcases Nat.lt_succ_iff_lt_or_eq.1 inside with earlier | rfl
    · exact least shift earlier
    · exact Nat.le_of_not_lt cheaper

/-- A current shift that no other beats is kept. -/
theorem Cheapest.stays (cheapest : Cheapest cost current limit best)
    (optimal : ∀ shift < limit, cost current ≤ cost shift) : best = current := by
  by_contra different
  have inside := cheapest.within.resolve_left different
  have cheaper := (cheapest.moved different).1
  have beaten := optimal best inside
  omega

/-- A current shift that another beats is given up for the smallest of the cheapest. -/
theorem Cheapest.leaves (cheapest : Cheapest cost current limit best)
    (beaten : ¬∀ shift < limit, cost current ≤ cost shift) :
    best < limit ∧ ∀ shift < best, cost best < cost shift := by
  have different : best ≠ current := by
    rintro rfl
    exact beaten cheapest.least
  exact ⟨cheapest.within.resolve_left different, (cheapest.moved different).2⟩

end Cheapest

theorem cheapest_bestShift (tokens : List Token) (bits current maxShift : Nat) :
    Cheapest (conflicts tokens bits) current (maxShift + 1)
      (bestShift tokens bits current maxShift) := by
  unfold bestShift
  induction maxShift + 1 with
  | zero => exact ⟨Or.inl rfl, Nat.le_refl _, by simp, fun different => absurd rfl different⟩
  | succ limit ih =>
    rw [List.range_succ, List.foldl_append]
    exact ih.next

namespace Cache

/-- Only the zero token falls into a slot that the refill leaves without a token. -/
theorem vacant_refill (bits shift : Nat) (entries : List Entry) (index : Nat)
    (vacant : ((refill bits shift entries).getD index .vacant).isVacant = true) :
    ∀ entry ∈ entries, entry.token.slot bits shift = index → entry.token = .empty := by
  induction entries using List.reverseRecOn generalizing index with
  | nil => simp
  | append_singleton entries last ih =>
    have before := filled_refill bits shift entries
    have target : last.token.slot bits shift < (refill bits shift entries).size := by
      rw [before.full]
      exact last.token.slot_lt bits shift
    have refilled : refill bits shift (entries ++ [last]) =
        settleIn bits shift (refill bits shift entries) last := by
      simp [refill]
    rw [refilled] at vacant
    intro entry member here
    by_cases free : ((refill bits shift entries).getD (last.token.slot bits shift)
        .vacant).isVacant = true
    · simp only [settleIn, if_pos free] at vacant
      rw [getD_setIfInBounds _ _ _ _ target] at vacant
      by_cases own : index = last.token.slot bits shift
      · rw [if_pos own] at vacant
        rcases List.mem_append.1 member with earlier | new
        · exact ih _ free entry earlier (here.trans own)
        · rw [List.mem_singleton.1 new]
          exact (Token.isEmpty_iff _).1 vacant
      · rw [if_neg own] at vacant
        rcases List.mem_append.1 member with earlier | new
        · exact ih index vacant entry earlier here
        · rw [List.mem_singleton.1 new] at here
          exact absurd here.symm own
    · simp only [settleIn, if_neg free] at vacant
      rcases List.mem_append.1 member with earlier | new
      · exact ih index vacant entry earlier here
      · rw [List.mem_singleton.1 new] at here
        rw [here] at free
        exact absurd vacant free

section Rehash
variable (cache : Cache)

theorem mem_visited_iff (entry : Entry) :
    entry ∈ cache.backing.visit cache.counts.rehashes cache.store.entries ↔
      entry ∈ cache.store.entries :=
  (cache.backing.perm _ _).mem_iff

/-- A slot is left without a token exactly if no other token than zero falls into it. -/
theorem isVacant_rehash_iff (index : Nat) (inside : index < slotsOf cache.rehash.bits) :
    (cache.rehash.slots.getD index .vacant).isVacant = true ↔
      ∀ token ∈ cache.store.tokens, token ≠ .empty → cache.rehash.slotNumber token ≠ index := by
  constructor
  · intro vacant token known telling here
    obtain ⟨entry, listed, rfl⟩ := List.mem_map.1 known
    have visited := (cache.mem_visited_iff entry).2 listed
    exact telling (vacant_refill _ _ _ index vacant entry visited here)
  · intro free
    rcases cache.filled_rehash.filled index inside with ⟨visited, own⟩ | ⟨vacant, -⟩
    · have known := List.mem_map_of_mem (f := Entry.token) ((cache.mem_visited_iff _).1 visited)
      by_contra taken
      rw [Entry.isVacant, Token.isEmpty_iff] at taken
      exact free _ known taken own
    · rw [vacant]
      rfl

/-- In each slot that a known token falls into there is one that does. -/
theorem exists_resident (token : Token) (known : token ∈ cache.store.tokens) :
    ∃ other ∈ cache.store.tokens, (cache.rehash.resident other).token = other ∧
      cache.rehash.slotNumber other = cache.rehash.slotNumber token := by
  obtain ⟨entry, listed, rfl⟩ := List.mem_map.1 known
  have inside := entry.token.slot_lt cache.rehash.bits cache.rehash.shift
  rcases cache.filled_rehash.filled _ inside with ⟨visited, own⟩ | ⟨-, absent⟩
  · have here : cache.rehash.slotNumber (cache.rehash.resident entry.token).token =
      cache.rehash.slotNumber entry.token := own
    exact ⟨_, List.mem_map_of_mem ((cache.mem_visited_iff _).1 visited),
      congrArg (fun index => (cache.rehash.slots.getD index .vacant).token) here, here⟩
  · exact absurd rfl (absent entry ((cache.mem_visited_iff entry).2 listed))

/-- The known tokens that a rehash leaves in their own slots. -/
def residents : List Token :=
  cache.store.tokens.filter fun token => (cache.rehash.resident token).token = token

theorem length_residents :
    cache.residents.length =
      (slotsTaken cache.store.tokens cache.rehash.bits cache.rehash.shift).card := by
  have apart : (cache.residents.map cache.rehash.slotNumber).Nodup := by
    refine List.Nodup.map_on ?_ (cache.store.distinct.filter _)
    intro first firstIn second secondIn same
    have own := of_decide_eq_true (List.mem_filter.1 firstIn).2
    have other := of_decide_eq_true (List.mem_filter.1 secondIn).2
    rw [resident, same] at own
    exact own.symm.trans other
  have image : (cache.residents.map cache.rehash.slotNumber).toFinset =
      slotsTaken cache.store.tokens cache.rehash.bits cache.rehash.shift := by
    ext index
    rw [mem_slotsTaken, List.mem_toFinset, List.mem_map]
    constructor
    · rintro ⟨token, kept, rfl⟩
      exact ⟨token, (List.mem_filter.1 kept).1, rfl⟩
    · rintro ⟨token, known, rfl⟩
      obtain ⟨other, listed, own, here⟩ := cache.exists_resident token known
      exact ⟨other, List.mem_filter.2 ⟨listed, decide_eq_true own⟩, here⟩
  rw [← image, List.toFinset_card_of_nodup apart, List.length_map]

end Rehash

/-- What a rehash makes of a cache. The size has room for the known tokens, no other shift has fewer
conflicts, and the current shift stays if none is better. As many tokens as have no conflict are in
their slots, and no record and no counter of look-ups changes. -/
structure Rehashed (before after : Cache) : Prop where
  bits : after.bits =
    min before.config.maxBits (max before.bits (before.config.bitsFor before.size))
  counted : ∀ bits shift, conflicts before.store.tokens bits shift =
    before.size - (slotsTaken before.store.tokens bits shift).card
  least : ∀ shift ≤ before.config.maxShift,
    conflicts before.store.tokens after.bits after.shift ≤
      conflicts before.store.tokens after.bits shift
  stays : (∀ shift ≤ before.config.maxShift,
      conflicts before.store.tokens after.bits before.shift ≤
        conflicts before.store.tokens after.bits shift) →
    after.shift = before.shift
  leaves : (¬∀ shift ≤ before.config.maxShift,
      conflicts before.store.tokens after.bits before.shift ≤
        conflicts before.store.tokens after.bits shift) →
    after.shift ≤ before.config.maxShift ∧ ∀ shift < after.shift,
      conflicts before.store.tokens after.bits after.shift <
        conflicts before.store.tokens after.bits shift
  residents : (before.store.tokens.filter fun token =>
      (after.resident token).token = token).length =
    before.size - conflicts before.store.tokens after.bits after.shift
  vacant : ∀ (index : Nat) (inside : index < after.slots.size),
    after.slots[index].isVacant = true ↔
      ∀ token ∈ before.store.tokens, token ≠ .empty → after.slotNumber token ≠ index
  store : after.store = before.store
  hits : after.counts.hits = before.counts.hits
  misses : after.counts.misses = before.counts.misses
  collisions : after.counts.collisions = before.counts.collisions

theorem rehashed_rehash (cache : Cache) : cache.Rehashed cache.rehash := by
  have size : cache.store.tokens.length = cache.size := List.length_map ..
  have total (bits shift : Nat) := conflicts_add_card cache.store.tokens bits shift
  have cheapest : Cheapest (conflicts cache.store.tokens cache.rehash.bits) cache.shift
      (cache.config.maxShift + 1) cache.rehash.shift := cheapest_bestShift ..
  refine ⟨rfl, fun bits shift => ?_, fun shift bounded => ?_, fun optimal => ?_, fun beaten => ?_,
    ?_, fun index inside => ?_, rfl, rfl, rfl, rfl⟩
  · have sum := total bits shift
    omega
  · exact cheapest.least shift (Nat.lt_succ_of_le bounded)
  · exact cheapest.stays fun shift inside => optimal shift (Nat.le_of_lt_succ inside)
  · obtain ⟨inside, below⟩ := cheapest.leaves fun optimal =>
      beaten fun shift bounded => optimal shift (Nat.lt_succ_of_le bounded)
    exact ⟨Nat.le_of_lt_succ inside, below⟩
  · have sum := total cache.rehash.bits cache.rehash.shift
    have kept := cache.length_residents
    unfold Cache.residents at kept
    omega
  · have held : cache.rehash.slots.getD index .vacant = cache.rehash.slots[index] := by
      simp [inside]
    rw [← held]
    exact cache.isVacant_rehash_iff index (cache.filled_rehash.full ▸ inside)

/-- A rehash finds the best layout for the known tokens and fills the slots by it, in whatever order
the store brings its tokens forward. On that order neither the layout nor the number of conflicts
depends. -/
theorem rehash_picks_best_layout (cache : Cache) :
    cache.Rehashed cache.rehash ∧
    ∀ (store : Store) (backing : Backing), store.entries.Perm cache.store.entries →
      let twin : Cache := { cache with store := store, backing := backing }
      twin.Rehashed twin.rehash ∧
      twin.rehash.bits = cache.rehash.bits ∧
      twin.rehash.shift = cache.rehash.shift ∧
      conflicts store.tokens twin.rehash.bits twin.rehash.shift =
        conflicts cache.store.tokens cache.rehash.bits cache.rehash.shift := by
  refine ⟨cache.rehashed_rehash, ?_⟩
  intro store backing same twin
  have tokens : store.tokens.Perm cache.store.tokens := same.map Entry.token
  have bits : twin.rehash.bits = cache.rehash.bits := by
    change twin.rehashedBits = cache.rehashedBits
    unfold rehashedBits Cache.size Store.size
    rw [same.length_eq]
  have shift : twin.rehash.shift = cache.rehash.shift := by
    change bestShift store.tokens twin.rehash.bits cache.shift cache.config.maxShift = _
    rw [bestShift_perm _ _ tokens, bits]
    rfl
  refine ⟨twin.rehashed_rehash, bits, shift, ?_⟩
  rw [bits, shift, conflicts_perm _ _ tokens]

/-- Four tokens, the zero token among them, share one slot under the first shift. Also if the store
brings them forward in reverse, the smaller of two shifts that keep them all apart is found. -/
theorem rehash_picks_best_layout_spread :
    let config :=
      { Config.default with minBits := 2, maxBits := 4, defaultShift := 0, maxShift := 8 }
    let cache := (fresh 2 config .arrival).run
      [.settle ⟨0⟩ .noMatch, .lookup ⟨256⟩, .lookup ⟨512⟩, .lookup ⟨768⟩]
    ∃ store : Store, store.entries.Perm cache.store.entries ∧
      store.tokens = [⟨768⟩, ⟨512⟩, ⟨256⟩, ⟨0⟩] ∧
      conflicts store.tokens cache.bits cache.shift = 3 ∧
      let twin : Cache := { cache with store := store }
      twin.rehash.bits = 3 ∧ twin.rehash.shift = 7 ∧ twin.residents.length = 4 := by
  intro config cache
  have tokens : cache.store.tokens = [⟨0⟩, ⟨256⟩, ⟨512⟩, ⟨768⟩] := by unfold cache config; cbv
  have before : cache.bits = 2 ∧ cache.shift = 0 := by unfold cache config; cbv
  have layout : cache.rehash.bits = 3 ∧ cache.rehash.shift = 7 := by unfold cache config; cbv
  clear_value cache
  have same : cache.store.entries.reverse.Perm cache.store.entries := List.reverse_perm _
  have listed : cache.store.entries.reverse.map Entry.token = [⟨768⟩, ⟨512⟩, ⟨256⟩, ⟨0⟩] := by
    rw [List.map_reverse]
    exact congrArg List.reverse tokens
  let store : Store := ⟨cache.store.entries.reverse, by rw [listed]; decide⟩
  have reversed : store.tokens = [⟨768⟩, ⟨512⟩, ⟨256⟩, ⟨0⟩] := listed
  obtain ⟨rehashed, bits, shift, conflicting⟩ :=
    (rehash_picks_best_layout cache).2 store cache.backing same
  refine ⟨store, same, reversed, ?_, bits.trans layout.1, shift.trans layout.2, ?_⟩
  · rw [reversed, before.1, before.2]
    decide
  · refine rehashed.residents.trans ?_
    have size : store.size = store.tokens.length := (List.length_map ..).symm
    change store.size - _ = 4
    rw [conflicting, size, reversed, layout.1, layout.2, tokens]
    decide

end Cache

end Typecase
