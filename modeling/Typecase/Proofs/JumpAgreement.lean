import Typecase.Proofs.Calls
import Typecase.Proofs.Declared

/-! A closed site answers as a probe would. The jump table lists the cases of a member from
its fixed views; where the views of a value lie as those of its member, the first listed case
behind another is the case at which a probe stops. -/

namespace Typecase

variable {τ : Type} [DecidableEq τ]

namespace JumpTable

/-- The cases of a member among candidates of which the first stands at `position`. -/
def casesFrom (member : Member τ) (position : Nat) (candidates : List (Candidate τ)) :
    List Record :=
  (candidates.zipIdx position).filterMap fun (candidate, index) =>
    (member.view candidate.type).map fun view => ⟨index + 1, view.adjustment⟩

theorem memberCases_eq (member : Member τ) (candidates : List (Candidate τ)) :
    memberCases member candidates = casesFrom member 0 candidates := rfl

theorem casesFrom_cons (member : Member τ) (position : Nat) (candidate : Candidate τ)
    (rest : List (Candidate τ)) :
    casesFrom member position (candidate :: rest) =
      match member.view candidate.type with
      | some view => ⟨position + 1, view.adjustment⟩ :: casesFrom member (position + 1) rest
      | none => casesFrom member (position + 1) rest := by
  unfold casesFrom
  rw [List.zipIdx_cons]
  cases offered : member.view candidate.type <;> simp [offered]

theorem casesFrom_append (member : Member τ) (position : Nat) (early late : List (Candidate τ)) :
    casesFrom member position (early ++ late) =
      casesFrom member position early ++ casesFrom member (position + early.length) late := by
  unfold casesFrom
  rw [List.zipIdx_append, List.filterMap_append]

/-- The listed cases belong to the candidates that they were listed for. -/
theorem case_mem_casesFrom (member : Member τ) (position : Nat)
    (candidates : List (Candidate τ)) (record : Record)
    (listed : record ∈ casesFrom member position candidates) :
    position < record.case ∧ record.case ≤ position + candidates.length := by
  obtain ⟨⟨candidate, index⟩, place, offered⟩ := List.mem_filterMap.1 listed
  obtain ⟨view, -, rfl⟩ := Option.map_eq_some_iff.1 offered
  have bounds := List.mem_zipIdx place
  constructor
  · show position < index + 1
    omega
  · show index + 1 ≤ position + candidates.length
    omega

/-- The views of a value lie where those of a member do. -/
def Mirrors (member : Member τ) (value : Value τ) : Prop :=
  ∀ type, (member.view type).map FixedView.adjustment = value.offsetAs type

/-- The first case of a mirrored member is where a probe of the value stops. -/
theorem head?_casesFrom (member : Member τ) (value : Value τ) (mirrors : Mirrors member value)
    (position : Nat) (candidates : List (Candidate τ)) :
    (casesFrom member position candidates).head?.getD .noMatch =
      (Probe.run value position candidates).record := by
  induction candidates generalizing position with
  | nil => rfl
  | cons candidate rest ih =>
    have here := mirrors candidate.type
    unfold Value.offsetAs at here
    rw [casesFrom_cons]
    cases fixed : member.view candidate.type with
    | some view =>
      cases offered : value.viewAs candidate.type with
      | none => simp [fixed, offered] at here
      | some found =>
        simp only [fixed, offered, Option.map_some, Option.some.injEq] at here
        simp only [Probe.run, offered, List.head?_cons, Option.getD_some, here]
    | none =>
      cases offered : value.viewAs candidate.type with
      | none => simpa only [Probe.run, offered] using ih (position + 1)
      | some found => simp [fixed, offered] at here

/-- Behind a case only the candidates declared later are listed. -/
theorem find?_casesFrom (member : Member τ) (candidates : List (Candidate τ)) (after : Nat)
    (inside : after ≤ candidates.length) :
    (casesFrom member 0 candidates).find? (after < ·.case) =
      (casesFrom member after (candidates.drop after)).head? := by
  have early : (casesFrom member 0 (candidates.take after)).find? (after < ·.case) = none := by
    rw [List.find?_eq_none]
    intro record listed
    have bound := (case_mem_casesFrom member 0 _ record listed).2
    rw [List.length_take] at bound
    simp only [decide_eq_true_eq]
    omega
  have late : (casesFrom member after (candidates.drop after)).find? (after < ·.case) =
      (casesFrom member after (candidates.drop after)).head? := by
    cases listed : casesFrom member after (candidates.drop after) with
    | nil => rfl
    | cons first rest =>
      have bound := (case_mem_casesFrom member after (candidates.drop after) first
        (by rw [listed]; exact List.mem_cons_self ..)).1
      rw [List.find?_cons_of_pos (by simpa using bound), List.head?_cons]
  calc (casesFrom member 0 candidates).find? (after < ·.case)
      = (casesFrom member 0 (candidates.take after) ++
          casesFrom member after (candidates.drop after)).find? (after < ·.case) := by
        rw [← congrArg (casesFrom member 0) (List.take_append_drop after candidates),
          casesFrom_append, List.length_take, Nat.min_eq_left inside, Nat.zero_add]
    _ = (casesFrom member after (candidates.drop after)).head? := by
        rw [List.find?_append, early, Option.none_or, late]

theorem get?_ofKinds (kinds : Kinds τ) (candidates : List (Candidate τ)) (kind : Nat) :
    (ofKinds kinds candidates).get? kind =
      (kinds.member kind).map fun member =>
        ⟨member.candidate.type, memberCases member candidates⟩ := by
  unfold get? ofKinds Kinds.member
  rw [List.getElem?_map]
  cases kinds.byKind[kind]? <;> rfl

/-- A value without a kind, with a kind that nobody declared or with the kind of another type
goes to no case. -/
theorem choose_foreign (kinds : Kinds τ) (candidates : List (Candidate τ)) (value : Value τ)
    (foreign : ∀ kind member, value.kind = some kind → kinds.member kind = some member →
      member.candidate.type ≠ value.type) (after : Nat) :
    ((ofKinds kinds candidates).choose value after).1 = .noMatch := by
  unfold choose entryFor
  cases tagged : value.kind with
  | none => rfl
  | some kind =>
    cases declared : kinds.member kind with
    | none => simp [get?_ofKinds, declared]
    | some member => simp [get?_ofKinds, declared, foreign kind member tagged declared]

theorem choose_declared (kinds : Kinds τ) (candidates : List (Candidate τ)) (value : Value τ)
    (kind : Nat) (member : Member τ) (tagged : value.kind = some kind)
    (declared : kinds.member kind = some member)
    (own : member.candidate.type = value.type) (after : Nat) :
    ((ofKinds kinds candidates).choose value after).1 =
      ((memberCases member candidates).find? (after < ·.case)).getD .noMatch := by
  simp [choose, entryFor, tagged, get?_ofKinds, declared, own]

/-- The table picks what a probe behind the case records. -/
theorem choose_mirrored (kinds : Kinds τ) (candidates : List (Candidate τ)) (value : Value τ)
    (kind : Nat) (member : Member τ) (tagged : value.kind = some kind)
    (declared : kinds.member kind = some member)
    (own : member.candidate.type = value.type) (mirrors : Mirrors member value) (after : Nat)
    (inside : after ≤ candidates.length) (unreserved : after ≠ noMatchCase) :
    ((ofKinds kinds candidates).choose value after).1 =
      (probe candidates value after).record := by
  rw [choose_declared kinds candidates value kind member tagged declared own after,
    memberCases_eq, find?_casesFrom member candidates after inside,
    head?_casesFrom member value mirrors, probe, if_neg unreserved]

end JumpTable

/-- A closed site over the candidates with the table for the kinds. -/
structure Tabled (kinds : Kinds τ) (candidates : List (Candidate τ)) (site : Site τ) : Prop where
  among : site.candidates = candidates
  jumps : site.strategy = .closedWorld (.ofKinds kinds candidates)

namespace Tabled

variable {kinds : Kinds τ} {candidates : List (Candidate τ)} {site : Site τ}

theorem resolve (tabled : Tabled kinds candidates site) (value : Value τ) :
    (site.resolve value).result =
        .ok (site.rebuild value ((JumpTable.ofKinds kinds candidates).choose value 0).1) ∧
      Tabled kinds candidates (site.resolve value).state := by
  rw [site.resolve_chosen value ((JumpTable.ofKinds kinds candidates).choose value 0).1
    site.strategy ((JumpTable.ofKinds kinds candidates).choose value 0).2
    (by rw [tabled.jumps]; rfl)]
  exact ⟨rfl, tabled.among, tabled.jumps⟩

theorem resolveBehind (tabled : Tabled kinds candidates site) (value : Value τ) (after : Nat)
    (started : after ≠ unresolvedCase)
    (inside : ¬(after = noMatchCase ∨ candidates.length ≤ after)) :
    (site.resolveBehind value after).result =
        .ok (site.rebuild value ((JumpTable.ofKinds kinds candidates).choose value after).1) ∧
      Tabled kinds candidates (site.resolveBehind value after).state := by
  rw [site.resolveBehind_chosen value after
    ((JumpTable.ofKinds kinds candidates).choose value after).1
    ((JumpTable.ofKinds kinds candidates).choose value after).2 started
    (by rwa [tabled.among]) (by rw [tabled.jumps]; rfl)]
  exact ⟨rfl, tabled.among, tabled.jumps⟩

/-- Behind the last case the table is not even asked. -/
theorem resolveBehind_outside (tabled : Tabled kinds candidates site) (value : Value τ)
    (after : Nat) (started : after ≠ unresolvedCase)
    (outside : after = noMatchCase ∨ candidates.length ≤ after) :
    site.resolveBehind value after = ⟨.ok .noMatch, site, []⟩ :=
  site.resolveBehind_outside value after started (by rwa [tabled.among])

/-- No call leaves a trace in the answers of a closed site. -/
theorem answer (tabled : Tabled kinds candidates site) (call : Call τ) :
    Tabled kinds candidates (site.answer call).state := by
  rw [Site.answer_eq]
  by_cases start : call.after = unresolvedCase
  · rw [start, Site.resolveBehind_start]
    exact (tabled.resolve call.value).2
  by_cases outside : call.after = noMatchCase ∨ candidates.length ≤ call.after
  · rw [tabled.resolveBehind_outside call.value call.after start outside]
    exact tabled
  exact (tabled.resolveBehind call.value call.after start outside).2

theorem run (tabled : Tabled kinds candidates site) (calls : List (Call τ)) :
    Tabled kinds candidates (site.run calls) :=
  Step.run_keeps (Tabled kinds candidates) Site.answer site calls tabled
    fun call _ _ before => before.answer call

theorem resolveBehind_foreign (tabled : Tabled kinds candidates site) (value : Value τ)
    (foreign : ∀ kind member, value.kind = some kind → kinds.member kind = some member →
      member.candidate.type ≠ value.type) (after : Nat) :
    (site.resolveBehind value after).result = .ok .noMatch := by
  by_cases start : after = unresolvedCase
  · rw [start, Site.resolveBehind_start, (tabled.resolve value).1,
      JumpTable.choose_foreign kinds candidates value foreign]
    rfl
  by_cases outside : after = noMatchCase ∨ candidates.length ≤ after
  · rw [tabled.resolveBehind_outside value after start outside]
  rw [(tabled.resolveBehind value after start outside).1,
    JumpTable.choose_foreign kinds candidates value foreign]
  rfl

theorem resolveBehind_mirrored (tabled : Tabled kinds candidates site)
    (few : candidates.length ≤ maxCases) (value : Value τ) (kind : Nat) (member : Member τ)
    (tagged : value.kind = some kind) (declared : kinds.member kind = some member)
    (own : member.candidate.type = value.type) (mirrors : JumpTable.Mirrors member value)
    (after : Nat) :
    (site.resolveBehind value after).result = .ok (probe candidates value after).dispatch := by
  obtain ⟨rfl, -⟩ := id tabled
  by_cases start : after = unresolvedCase
  · rw [start, Site.resolveBehind_start, (tabled.resolve value).1,
      JumpTable.choose_mirrored kinds site.candidates value kind member tagged declared own
        mirrors 0 (Nat.zero_le _) (by decide)]
    exact congrArg Except.ok (rebuild_probe site few value 0)
  by_cases outside : after = noMatchCase ∨ site.candidates.length ≤ after
  · rw [tabled.resolveBehind_outside value after start outside,
      probe_outside site.candidates value after outside]
    rfl
  · obtain ⟨unreserved, inside⟩ := not_or.1 outside
    rw [(tabled.resolveBehind value after start outside).1,
      JumpTable.choose_mirrored kinds site.candidates value kind member tagged declared own
        mirrors after (Nat.le_of_not_le inside) unreserved,
      rebuild_probe site few]

end Tabled

theorem tabled_build (plan : SitePlan τ) (kinds : Kinds τ)
    (closed : plan.hierarchy = .closedWorld kinds) (few : plan.candidates.length ≤ maxCases)
    (valid : plan.settings.Valid) :
    ∃ site created, plan.build = .ok (site, created) ∧ Tabled kinds plan.candidates site := by
  obtain ⟨created, built⟩ := plan.build_of_strategyFor few
    (.closedWorld (.ofKinds kinds plan.candidates)) (by
      simp [closed, Hierarchy.strategyFor, (plan.settings.check_eq_ok_iff).2 valid, bind,
        Except.bind, pure, Except.pure])
  exact ⟨_, created, built, rfl, rfl⟩

/-- Whatever was called before on a closed site, a value of a declared type is answered by a
probe, provided that its views lie where the declaration says. Any other value goes to no
case. -/
theorem closed_answer (members : List (Nat × Member τ)) (plan : SitePlan τ)
    (accepted : Hierarchy.ofMembers members = .ok plan.hierarchy)
    (few : plan.candidates.length ≤ maxCases) (valid : plan.settings.Valid) :
    ∃ site created, plan.build = .ok (site, created) ∧
      ∀ (history : List (Call τ)) (call : Call τ),
        (∀ kind member, call.value.kind = some kind → (kind, member) ∈ members →
          member.candidate.type = call.value.type → JumpTable.Mirrors member call.value →
          ((site.run history).answer call).result = .ok (call.probed plan.candidates)) ∧
        ((∀ kind member, call.value.kind = some kind → (kind, member) ∈ members →
          member.candidate.type ≠ call.value.type) →
          ((site.run history).answer call).result = .ok .noMatch) := by
  obtain ⟨kinds, closed, declared⟩ := Hierarchy.ofMembers_eq_ok members plan.hierarchy accepted
  obtain ⟨site, created, built, tabled⟩ := tabled_build plan kinds closed few valid
  refine ⟨site, created, built, fun history call => ?_⟩
  have later := tabled.run history
  rw [Site.answer_eq]
  constructor
  · intro kind member tagged listed own mirrors
    exact later.resolveBehind_mirrored few call.value kind member tagged
      ((declared kind member).2 listed) own mirrors call.after
  · intro foreign
    exact later.resolveBehind_foreign call.value
      (fun kind member tagged known => foreign kind member tagged ((declared kind member).1 known))
      call.after

/-- The part of a whole is a candidate twice. The whole alone has a kind, with gaps below it;
another type that carries the same kind goes to no case. -/
theorem closed_answer_gapped :
    let whole : Layout Nat := ⟨⟨16⟩, 0, "Whole", some 3, [⟨1, 8⟩]⟩
    let liar : Layout Nat := ⟨⟨24⟩, 2, "Liar", some 3, [⟨1, 8⟩]⟩
    let members : List (Nat × Member Nat) := [(3, ⟨⟨0, "Whole"⟩, whole.fixedViews⟩)]
    ∃ hierarchy, Hierarchy.ofMembers members = .ok hierarchy ∧
      ∃ site created,
        SitePlan.build { SitePlan.ofCandidates [⟨1, "Part"⟩, ⟨0, "Whole"⟩, ⟨1, "Part"⟩] with
          hierarchy := hierarchy } = .ok (site, created) ∧
        ((site.run [.resolve (liar.valueAt 64)]).answer
          (.resolveBehind (whole.valueAt 4096) 2)).result = .ok ⟨⟨3, ⟨8⟩⟩, some ⟨1, 4104⟩⟩ ∧
        ((site.run [.resolve (whole.valueAt 64)]).answer
          (.resolve (liar.valueAt 4096))).result = .ok .noMatch := by
  intro whole liar members
  have mirrors : JumpTable.Mirrors ⟨⟨0, "Whole"⟩, whole.fixedViews⟩ (whole.valueAt 4096) := by
    intro type
    match type with
    | 0 => decide
    | 1 => decide
    | _ + 2 => rfl
  refine ⟨_, rfl, ?_⟩
  obtain ⟨site, created, built, answered⟩ := closed_answer members
    { SitePlan.ofCandidates [⟨1, "Part"⟩, ⟨0, "Whole"⟩, ⟨1, "Part"⟩] with
      hierarchy := .closedWorld ⟨[none, none, none, some ⟨⟨0, "Whole"⟩, whole.fixedViews⟩]⟩ }
    rfl (by decide) ⟨by decide, by decide, by decide, by decide⟩
  refine ⟨site, created, built, ?_, ?_⟩
  · rw [(answered _ (.resolveBehind (whole.valueAt 4096) 2)).1 3 _ rfl (List.mem_cons_self ..)
      rfl mirrors]
    exact congrArg Except.ok (by decide)
  · refine (answered _ _).2 fun kind member _ listed => ?_
    cases List.mem_singleton.1 listed
    decide

end Typecase
