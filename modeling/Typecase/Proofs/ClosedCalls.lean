import Typecase.Proofs.JumpAgreement
import Typecase.Proofs.OpenCalls

/-! What a call does to a closed site: the call is counted, and the jump table answers it. -/

namespace Typecase

variable {τ : Type} [DecidableEq τ]

theorem Tabled.answer_asked {kinds : Kinds τ} {candidates : List (Candidate τ)} {site : Site τ}
    (tabled : Tabled kinds candidates site) (few : candidates.length ≤ maxCases) (call : Call τ)
    (asked : Asked candidates.length call.after) :
    (site.answer call).result = .ok (site.rebuild call.value
      ((JumpTable.ofKinds kinds candidates).choose call.value call.after).1) ∧
    (site.answer call).state = site.countCall call.after := by
  rw [site.answer_eq, Site.countCall]
  by_cases start : call.after = unresolvedCase
  · rw [if_pos start, start, site.resolveBehind_start,
      site.resolve_chosen call.value _ site.strategy _ (by rw [tabled.jumps]; rfl)]
    exact ⟨rfl, rfl⟩
  · have inside := (asked_iff _ _ few start).1 asked
    rw [if_neg start, site.resolveBehind_chosen call.value call.after _ _ start
      (by rwa [tabled.among]) (by rw [tabled.jumps]; rfl)]
    exact ⟨rfl, rfl⟩

end Typecase
