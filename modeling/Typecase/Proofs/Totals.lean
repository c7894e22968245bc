import Mathlib.Algebra.BigOperators.Group.List.Basic
import Mathlib.Algebra.GroupWithZero.Nat
import Typecase.Switchboard

/-! The sum of counters over several sites. Without a bound the counters form a commutative monoid.
The sum that is checked at every site agrees with the sum there, because a partial sum never exceeds
the whole: whether it leaves the 64-bit range shows in the end, in whatever order the sites come. -/

namespace Typecase.SiteCounts

/-- The ten counters, each by its name. -/
def fields : List (SiteCounts → Nat) :=
  [(·.resolves), (·.hits), (·.misses), (·.collisions), (·.rehashes), (·.probes),
    (·.firstResolutions), (·.noMatches), (·.continuations), (·.tagDispatches)]

theorem counters_eq (counts : SiteCounts) : counts.counters = fields.map (· counts) := rfl

/-- Counts that agree in each of the ten counters are the same. -/
theorem eq_of_fields (left right : SiteCounts) (same : ∀ field ∈ fields, field left = field right) :
    left = right := by
  have listed : left.counters = right.counters := by
    rw [counters_eq, counters_eq]
    exact List.map_congr_left same
  have read := congrArg ofCounters? listed
  rw [ofCounters?_counters, ofCounters?_counters] at read
  exact Option.some.inj read

instance : Zero SiteCounts := ⟨zero⟩

section Field
variable (field : SiteCounts → Nat) (member : field ∈ fields)
include member

theorem field_zero : field 0 = 0 := by
  simp only [fields, List.mem_cons, List.not_mem_nil, or_false] at member
  rcases member with rfl | rfl | rfl | rfl | rfl | rfl | rfl | rfl | rfl | rfl <;> rfl

theorem field_add (left right : SiteCounts) : field (left + right) = field left + field right := by
  simp only [fields, List.mem_cons, List.not_mem_nil, or_false] at member
  rcases member with rfl | rfl | rfl | rfl | rfl | rfl | rfl | rfl | rfl | rfl <;> rfl

end Field

instance : AddCommMonoid SiteCounts where
  zero_add counts := by
    apply eq_of_fields
    intro field member
    rw [field_add field member, field_zero field member, Nat.zero_add]
  add_zero counts := by
    apply eq_of_fields
    intro field member
    rw [field_add field member, field_zero field member, Nat.add_zero]
  add_assoc first second third := by
    apply eq_of_fields
    intro field member
    simp only [field_add field member, Nat.add_assoc]
  add_comm left right := by
    apply eq_of_fields
    intro field member
    rw [field_add field member, field_add field member, Nat.add_comm]
  nsmul := nsmulRec

theorem field_sum (field : SiteCounts → Nat) (member : field ∈ fields) (sites : List SiteCounts) :
    field sites.sum = (sites.map field).sum := by
  induction sites with
  | nil => exact field_zero field member
  | cons site rest ih =>
    rw [List.sum_cons, field_add field member, ih]
    rfl

theorem fits_iff (counts : SiteCounts) :
    counts.Fits ↔ ∀ field ∈ fields, field counts < Word.limit64 := by
  unfold Fits
  rw [counters_eq]
  exact List.forall_mem_map

/-- Partial sums only grow. -/
theorem Fits.of_add (left right : SiteCounts) (fits : (left + right).Fits) : left.Fits := by
  rw [fits_iff] at fits ⊢
  intro field member
  have whole := fits field member
  rw [field_add field member] at whole
  omega

theorem merge_eq_ok_iff (left right sum : SiteCounts) :
    merge left right = .ok sum ↔ (left + right).Fits ∧ sum = left + right := by
  by_cases fits : (left + right).Fits
  · rw [merge, if_pos fits]
    simp [fits, eq_comm]
  · rw [merge, if_neg fits]
    simp [fits]

theorem merge_eq_error_iff (left right : SiteCounts) (fault : Fault) :
    merge left right = .error fault ↔ ¬(left + right).Fits ∧ fault = .counterOverflow := by
  by_cases fits : (left + right).Fits
  · rw [merge, if_pos fits]
    simp [fits]
  · rw [merge, if_neg fits]
    simp [fits, eq_comm]

theorem merge_comm (left right : SiteCounts) : merge left right = merge right left := by
  rw [merge, merge, add_comm]

/-- A sum that leaves the range halfway would leave it in the end. -/
theorem merge_merge (first second third : SiteCounts) :
    (merge first second).bind (merge · third) = merge first (second + third) := by
  by_cases fits : (first + second).Fits
  · rw [merge, if_pos fits]
    change merge (first + second) third = _
    rw [merge, merge, add_assoc]
  · have beyond : ¬(first + (second + third)).Fits := by
      rw [← add_assoc]
      exact fun whole => fits (Fits.of_add _ _ whole)
    rw [merge, if_neg fits, merge, if_neg beyond]
    rfl

theorem merge_assoc (first second third : SiteCounts) :
    (merge first second).bind (merge · third) = (merge second third).bind (merge first ·) := by
  calc
    (merge first second).bind (merge · third) = merge first (second + third) := merge_merge ..
    _ = merge second (third + first) := by
      rw [merge, merge, add_rotate']
    _ = (merge second third).bind (merge · first) := (merge_merge ..).symm
    _ = (merge second third).bind (merge first ·) := by
      simp only [merge_comm first]

/-- One check in the end does for the checks at every site. -/
theorem foldlM_merge (sites : List SiteCounts) (start : SiteCounts) (fits : start.Fits) :
    sites.foldlM merge start = merge start sites.sum := by
  -- Whatever has been summed up so far fits, or the sum would have ended before.
  induction sites generalizing start with
  | nil => exact ((merge_eq_ok_iff start 0 start).2 ⟨fits, (add_zero start).symm⟩).symm
  | cons site rest ih =>
    rw [List.foldlM_cons, List.sum_cons, ← merge_merge]
    cases merged : merge start site with
    | error fault => rfl
    | ok next =>
      obtain ⟨within, rfl⟩ := (merge_eq_ok_iff start site next).1 merged
      exact ih (start + site) within

theorem total_eq (sites : List SiteCounts) : total sites = merge 0 sites.sum :=
  foldlM_merge sites 0 (by decide)

theorem total_perm (order sites : List SiteCounts) (visited : order.Perm sites) :
    total order = total sites := by
  rw [total_eq, total_eq, visited.sum_eq]

theorem fits_sum_iff (sites : List SiteCounts) :
    sites.sum.Fits ↔ ∀ field ∈ fields, (sites.map field).sum < Word.limit64 := by
  rw [fits_iff]
  apply forall₂_congr
  intro field member
  rw [field_sum field member]

/-- The sum of the counters of all sites is exact, or one of the ten true sums is no 64-bit word.
Neither depends on the order in which the sites are visited, or on how the sums are grouped. -/
theorem total_sums_counters (sites : List SiteCounts) :
    (∀ order : List SiteCounts, order.Perm sites →
      ((∃ fault, total order = .error fault) ↔
        ∃ field ∈ fields, Word.limit64 ≤ (sites.map field).sum) ∧
      ((∀ field ∈ fields, (sites.map field).sum < Word.limit64) →
        ∃ sum, total order = .ok sum ∧ ∀ field ∈ fields, field sum = (sites.map field).sum)) ∧
    (∀ first second third : SiteCounts, merge first second = merge second first ∧
      (merge first second).bind (merge · third) = (merge second third).bind (merge first ·)) ∧
    ∀ (τ : Type) (table : Switchboard τ),
      (table.sites.map fun entry => entry.2.counts).Perm sites → table.counts = total sites := by
  refine ⟨?visits, ?merges, ?tables⟩
  case visits =>
    intro order visited
    rw [total_perm order sites visited, total_eq]
    constructor
    · simp only [merge_eq_error_iff, zero_add, fits_sum_iff, exists_and_left, exists_eq, and_true,
        not_forall, exists_prop, Nat.not_lt]
    · intro small
      refine ⟨sites.sum, (merge_eq_ok_iff 0 sites.sum sites.sum).2 ⟨?_, (zero_add _).symm⟩, ?_⟩
      · rw [zero_add]
        exact (fits_sum_iff sites).2 small
      · intro field member
        exact field_sum field member sites
  case merges =>
    intro first second third
    exact ⟨merge_comm first second, merge_assoc first second third⟩
  case tables =>
    intro τ table stored
    exact total_perm _ sites stored

/-- A counter may reach the largest word but not pass it. -/
theorem total_sums_counters_full :
    let busy : SiteCounts := { resolves := 18446744073709551615, hits := 3 }
    let idle : SiteCounts := { probes := 5 }
    let last : SiteCounts := { resolves := 1 }
    (∃ sum, total [idle, busy] = .ok sum ∧ sum.resolves = 18446744073709551615 ∧
      sum.hits = 3 ∧ sum.probes = 5) ∧
    ∃ fault, total [last, idle, busy] = .error fault := by
  intro busy idle last
  have full := ((total_sums_counters [busy, idle]).1 [idle, busy] (.swap ..)).2 (by decide)
  have passed := ((total_sums_counters [last, idle, busy]).1 _ (.refl _)).1
  obtain ⟨sum, summed, exact⟩ := full
  constructor
  · exact ⟨sum, summed, exact (·.resolves) (by simp [fields]), exact (·.hits) (by simp [fields]),
      exact (·.probes) (by simp [fields])⟩
  · exact passed.2 ⟨(·.resolves), by simp [fields], by decide⟩

end Typecase.SiteCounts
