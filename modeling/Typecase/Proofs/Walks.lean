import Typecase.Proofs.Accounts
import Typecase.Proofs.Matches
import Typecase.Proofs.Transparency

/-! Walking a site, from one match of a value to the next until there is none, meets every match
of the value once. The walk is a run of calls on the one value, so what was remembered for its
token before and what the walk itself leaves behind both count. -/

namespace Typecase

variable {τ : Type} [DecidableEq τ]

/-- The calls that look behind each of the cases. -/
def tour (value : Value τ) (cases : List Nat) : List (Call τ) :=
  cases.map (Call.resolveBehind value)

/-- The cases behind which a walk looks. -/
def stops (candidates : List (Candidate τ)) (value : Value τ) (after : Nat) : List Nat :=
  after :: (matchesBehind candidates value after).map Dispatch.case

theorem walkFrom_eq (candidates : List (Candidate τ)) (few : candidates.length ≤ maxCases)
    (value : Value τ) (steps after : Nat) (enough : candidates.length - after < steps)
    (site : Site τ)
    (answers : ∀ cases behind, ((site.run (tour value cases)).resolveBehind value behind).result =
      .ok (probe candidates value behind).dispatch) :
    (site.walkFrom value after steps).result =
        .ok (matchesBehind candidates value after ++ [.noMatch]) ∧
      (site.walkFrom value after steps).state =
        site.run (tour value (stops candidates value after)) := by
  -- Each visit changes the site, so the answers are assumed of all sites that a tour leads to.
  induction steps generalizing after site with
  | zero => exact absurd enough (Nat.not_lt_zero _)
  | succ steps ih =>
    have here := answers [] after
    change (site.resolveBehind value after).result = _ at here
    rcases matchesBehind_cases candidates few value after with ⟨none, vain, -⟩ |
      ⟨dispatch, more, found, later, inside, -⟩
    · rw [vain] at here
      simp only [Site.walkFrom, here, stops, none]
      exact ⟨rfl, rfl⟩
    · have matched : dispatch.isNoMatch = false := by
        unfold maxCases at few
        have unreserved : dispatch.record.case ≠ noMatchCase := by
          change dispatch.case ≠ noMatchCase
          omega
        simpa [Dispatch.isNoMatch, Record.isNoMatch] using unreserved
      rw [found] at here
      have rest := ih dispatch.case (by omega) (site.resolveBehind value after).state
        fun cases behind => answers (after :: cases) behind
      simp only [Site.walkFrom, here, matched, stops, more]
      rw [rest.1, rest.2]
      exact ⟨rfl, rfl⟩

section Bills
variable {candidates : List (Candidate τ)} {value : Value τ}

/-- Calls on topics that all came up before are not charged. -/
theorem bill_tour_known (cases : List Nat) (calls : List (Call τ))
    (known : ∀ case ∈ cases, Asked candidates.length case →
      firstOn calls ⟨value.token, case⟩ ≠ none) :
    bill candidates (calls ++ tour value cases) = bill candidates calls := by
  induction cases generalizing calls with
  | nil => exact congrArg (bill candidates) (List.append_nil calls)
  | cons case rest ih =>
    have split : calls ++ tour value (case :: rest) =
        (calls ++ [.resolveBehind value case]) ++ tour value rest := by
      simp [tour]
    have free : ¬(Asked candidates.length case ∧ firstOn calls ⟨value.token, case⟩ = none) :=
      fun both => known case (List.mem_cons_self ..) both.1 both.2
    have later : ∀ other ∈ rest, Asked candidates.length other →
        firstOn (calls ++ [.resolveBehind value case]) ⟨value.token, other⟩ ≠ none := by
      intro other member asked
      have before := known other (List.mem_cons_of_mem _ member) asked
      rw [firstOn_append, Option.or_of_isSome (Option.isSome_iff_ne_none.2 before)]
      exact before
    have onward := ih (calls ++ [.resolveBehind value case]) later
    calc bill candidates (calls ++ tour value (case :: rest))
        = bill candidates (calls ++ [.resolveBehind value case] ++ tour value rest) := by
          rw [split]
      _ = bill candidates (calls ++ [.resolveBehind value case]) := by rw [onward]
      _ = bill candidates calls := by
          rw [bill_concat]
          exact congrArg (bill candidates calls + ·) (if_neg free)

/-- A walk on topics that never came up asks every candidate behind its start once. -/
theorem bill_walk_fresh (few : candidates.length ≤ maxCases) (steps after : Nat)
    (enough : candidates.length - after < steps) (calls : List (Call τ))
    (fresh : ∀ case, after ≤ case → firstOn calls ⟨value.token, case⟩ = none) :
    bill candidates (calls ++ tour value (stops candidates value after)) =
      bill candidates calls + (candidates.length - after) := by
  induction steps generalizing after calls with
  | zero => exact absurd enough (Nat.not_lt_zero _)
  | succ steps ih =>
    have charge : bill candidates (calls ++ [.resolveBehind value after]) =
        bill candidates calls + if Asked candidates.length after
          then (probe candidates value after).attempts else 0 := by
      have unknown : firstOn calls (Call.resolveBehind value after).topic = none :=
        fresh after (Nat.le_refl _)
      rw [bill_concat]
      simp only [unknown, and_true]
      rfl
    rcases matchesBehind_cases candidates few value after with ⟨none, -, tried⟩ |
      ⟨dispatch, more, -, later, inside, tried⟩
    · rw [stops, none]
      refine charge.trans ?_
      by_cases asked : Asked candidates.length after
      · rw [if_pos asked, tried]
      · rw [if_neg asked, Nat.sub_eq_zero_of_le ((unasked_iff _ _).1 asked).2]
    · have split : calls ++ tour value (stops candidates value after) =
          calls ++ [.resolveBehind value after] ++
            tour value (stops candidates value dispatch.case) := by
        simp [tour, stops, more]
      have asked : Asked candidates.length after := Or.inr (by omega)
      have still : ∀ case, dispatch.case ≤ case →
          firstOn (calls ++ [.resolveBehind value after]) ⟨value.token, case⟩ = none := by
        intro case beyond
        have other : (Call.resolveBehind value after).topic ≠ ⟨value.token, case⟩ := by
          intro same
          have here : after = case := (Topic.mk.inj same).2
          omega
        rw [firstOn_append, fresh case (by omega), Option.none_or, firstOn_eq_none_iff]
        simpa using other
      have onward := ih dispatch.case (by omega) (calls ++ [.resolveBehind value after]) still
      calc bill candidates (calls ++ tour value (stops candidates value after))
          = bill candidates (calls ++ [.resolveBehind value after]) +
              (candidates.length - dispatch.case) := by
            rw [split, onward]
        _ = bill candidates calls + (dispatch.case - after) +
              (candidates.length - dispatch.case) := by rw [charge, if_pos asked, tried]
        _ = bill candidates calls + (candidates.length - after) := by omega

end Bills

/-- If the strategy fails to choose, so does the first call of a walk. -/
theorem Site.start_failed (site : Site τ) (value : Value τ) (fault : Fault)
    (failed : (site.strategy.choose value).result = .error fault) :
    (site.resolveBehind value unresolvedCase).result = .error fault := by
  have counted : (site.countResolve.strategy.choose value).result = .error fault := failed
  rw [resolveBehind_start]
  simp only [resolve, counted]

theorem Site.walk_failed (site : Site τ) (value : Value τ) (fault : Fault)
    (failed : (site.strategy.choose value).result = .error fault) :
    (site.walk value).result = .error fault := by
  simp only [walk, walkFrom, site.start_failed value fault failed]

/-- When a walk of the value meets its matches. On an open site the values that came by under its
token have to be like it; on a closed one its type has to be declared with its views. -/
inductive SitePlan.Suits (plan : SitePlan τ) (history : List (Call τ)) (value : Value τ) : Prop
  | inOpen (opened : plan.hierarchy = .openWorld)
      (creatable : plan.settings.enabled = true →
        ∃ cache, Cache.create plan.expectedTypes plan.settings plan.backing = .ok cache)
      (alike : ∀ call ∈ history, call.token = value.token →
        Alike plan.candidates call.value value)
  | inClosed (kinds : Kinds τ) (kind : Nat) (member : Member τ)
      (closed : plan.hierarchy = .closedWorld kinds) (tagged : value.kind = some kind)
      (declared : kinds.member kind = some member) (own : member.candidate.type = value.type)
      (mirrors : JumpTable.Mirrors member value)

/-- Whatever was remembered before, a call is answered by a probe of its own value. -/
theorem SitePlan.Suits.answer {plan : SitePlan τ} {history : List (Call τ)} {call : Call τ}
    (suits : plan.Suits history call.value) (site : Site τ) (created : Event)
    (built : plan.build = .ok (site, created)) :
    ((site.run history).answer call).result =
      .ok (call.found plan.candidates).dispatch := by
  have few := (plan.build_cases site created built).1
  cases suits with
  | inClosed kinds kind member closed tagged declared own mirrors =>
    have tabled := (tagged_run plan site created built history kinds closed).tabled
    rw [Site.answer_eq]
    exact tabled.resolveBehind_mirrored few call.value kind member tagged declared own mirrors
      call.after
  | inOpen opened creatable alike =>
    cases enabled : plan.settings.enabled with
    | false =>
      obtain ⟨among, ⟨memory, strategy, disabled, -⟩, -⟩ :=
        forgetful_run plan site created built history opened enabled
      rw [← among] at few ⊢
      by_cases asked : Asked (site.run history).candidates.length call.after
      · exact ((site.run history).answer_disabled few memory strategy call asked disabled).1
      · rw [Site.answer_unasked _ call asked, Call.found_unasked _ call asked]
        rfl
    | true =>
      obtain ⟨among, attentive, notes⟩ := recalls_run plan site created built
        ⟨opened, enabled, creatable enabled⟩ history
      rw [← among] at few alike notes ⊢
      rcases (site.run history).answer_cases few attentive call with ⟨unasked, same⟩ |
        ⟨asked, record, known, answered, -⟩ | ⟨-, -, answered, -⟩
      · rw [same, Call.found_unasked _ call unasked]
        rfl
      · rw [notes _ asked, firstNote, Option.map_eq_some_iff] at known
        -- The note is what the first value of the token was found to be, which is like this one.
        obtain ⟨first, found, rfl⟩ := known
        obtain ⟨listed, topic⟩ := firstOn_eq_some history _ first found
        obtain ⟨token, after⟩ := Topic.mk.inj topic
        have agreed : (first.found (site.run history).candidates).record =
            (call.found (site.run history).candidates).record := by
          unfold Call.found
          rw [after]
          exact (alike first listed token).probe_record call.after
        rw [answered, agreed]
        exact congrArg Except.ok (rebuild_probe _ few call.value call.after)
      · exact answered

theorem SitePlan.Suits.visited {plan : SitePlan τ} {history : List (Call τ)} {value : Value τ}
    (suits : plan.Suits history value) (cases : List Nat) :
    plan.Suits (history ++ tour value cases) value := by
  cases suits with
  | inClosed kinds kind member closed tagged declared own mirrors =>
    exact .inClosed kinds kind member closed tagged declared own mirrors
  | inOpen opened creatable alike =>
    refine .inOpen opened creatable fun call listed token => ?_
    rcases List.mem_append.1 listed with before | visit
    · exact alike call before token
    · obtain ⟨case, -, rfl⟩ := List.mem_map.1 visit
      exact fun _ _ => rfl

/-- A walk meets the matches of its value, and is a tour of the cases behind which it looks. -/
theorem SitePlan.Suits.walk {plan : SitePlan τ} {history : List (Call τ)} {value : Value τ}
    (suits : plan.Suits history value) (site : Site τ) (created : Event)
    (built : plan.build = .ok (site, created)) (steps : Nat)
    (enough : plan.candidates.length < steps) :
    ((site.run history).walkFrom value unresolvedCase steps).result =
        .ok (matchesBehind plan.candidates value unresolvedCase ++ [.noMatch]) ∧
      ((site.run history).walkFrom value unresolvedCase steps).state =
        site.run (history ++ tour value (stops plan.candidates value unresolvedCase)) := by
  have few := (plan.build_cases site created built).1
  rw [Site.run_append]
  apply walkFrom_eq plan.candidates few value steps unresolvedCase enough (site.run history)
  intro cases behind
  have later : plan.Suits (history ++ tour value cases)
    (Call.resolveBehind value behind).value := suits.visited cases
  rw [← Site.run_append]
  exact later.answer site created built

/-- Whatever was called before, a walk of a value meets all its matches, each once and in order,
and then the first answer that there is none. On a site that remembers, the first walk under a
token asks each candidate once, and a second walk asks none. -/
theorem walk_enumerates (plan : SitePlan τ) (site : Site τ) (created : Event)
    (built : plan.build = .ok (site, created)) (history : List (Call τ)) (value : Value τ)
    (suits : plan.Suits history value) (steps : Nat) (enough : plan.candidates.length < steps) :
    (∃ found, ((site.run history).walkFrom value unresolvedCase steps).result =
        .ok (found ++ [.noMatch]) ∧ Enumerates plan.candidates value found) ∧
    (plan.Remembers → (∀ call ∈ history, call.token ≠ value.token) →
      ((site.run history).walkFrom value unresolvedCase steps).state.counts.probes =
        (site.run history).counts.probes + plan.candidates.length ∧
      (((site.run history).walkFrom value unresolvedCase steps).state.walkFrom value
          unresolvedCase steps).state.counts.probes =
        ((site.run history).walkFrom value unresolvedCase steps).state.counts.probes) := by
  have few := (plan.build_cases site created built).1
  obtain ⟨result, state⟩ := suits.walk site created built steps enough
  refine ⟨⟨_, result, enumerates_matchesBehind plan.candidates value⟩, fun remembers new => ?_⟩
  have probes (calls : List (Call τ)) :
      (site.run calls).counts.probes = bill plan.candidates calls :=
    (accounted_run plan site created built calls remembers).probes
  have visited := suits.visited (stops plan.candidates value unresolvedCase)
  have again := (visited.walk site created built steps enough).2
  rw [state, again, probes, probes, probes]
  constructor
  · apply bill_walk_fresh few steps unresolvedCase enough history
    intro case _
    rw [firstOn_eq_none_iff]
    intro call listed same
    exact new call listed (Topic.mk.inj same).1
  · apply bill_tour_known
    intro case listed _
    rw [ne_eq, firstOn_eq_none_iff]
    intro never
    exact never (.resolveBehind value case)
      (List.mem_append_right _ (List.mem_map_of_mem listed)) rfl

/-- A part has taken the only slot. A walk of its whole finds the part under both of the cases that
name it, and the whole between them. -/
theorem walk_enumerates_repeated :
    let part : Layout Nat := ⟨⟨8⟩, 1, "Part", none, []⟩
    let whole : Layout Nat := ⟨⟨16⟩, 0, "Whole", none, [⟨1, 8⟩]⟩
    let plan : SitePlan Nat :=
      { SitePlan.ofCandidates [⟨1, "Part"⟩, ⟨0, "Whole"⟩, ⟨1, "Part"⟩] with
        config := some { Config.default with minBits := 0, maxBits := 0 } }
    let history : List (Call Nat) :=
      [.resolve (part.valueAt 64), .resolveBehind (part.valueAt 64) 1]
    let value := whole.valueAt 4096
    ∃ site created, plan.build = .ok (site, created) ∧ plan.Suits history value ∧
      (∃ found, ((site.run history).walkFrom value unresolvedCase 4).result =
          .ok (found ++ [.noMatch]) ∧
        Enumerates plan.candidates value found ∧ ⟨⟨3, ⟨8⟩⟩, some ⟨1, 4104⟩⟩ ∈ found) ∧
      ((site.run history).walkFrom value unresolvedCase 4).state.counts.probes =
        (site.run history).counts.probes + 3 := by
  intro part whole plan history value
  have valid : plan.settings.Valid := ⟨by decide, by decide, by decide, by decide⟩
  have remembers : plan.Remembers :=
    ⟨rfl, rfl, (Cache.exists_create_iff _ _ _).2 ⟨valid, by cbv, by decide⟩⟩
  have other : ∀ call ∈ history, call.token ≠ value.token := by decide
  have suits : plan.Suits history value :=
    .inOpen rfl (fun _ => remembers.creatable) fun call listed same =>
      absurd same (other call listed)
  obtain ⟨created, built⟩ := build_open plan rfl (by decide) valid
  obtain ⟨⟨found, result, enumerates⟩, bills⟩ :=
    walk_enumerates plan _ created built history value suits 4 (by decide)
  refine ⟨_, created, built, suits, ⟨found, result, enumerates, ?_⟩, (bills remembers other).1⟩
  exact (enumerates.exactly _).2 ⟨2, ⟨1, "Part"⟩, ⟨1, 4104⟩, rfl, rfl, rfl, by decide⟩

/-- The memory of an open site has not made its cache. -/
def SitePlan.Waits (plan : SitePlan τ) (site : Site τ) : Prop :=
  ∃ continuations, site.strategy =
    .openWorld ⟨plan.expectedTypes, plan.settings, plan.backing, none, continuations⟩

section Unmade
variable {plan : SitePlan τ} (valid : plan.settings.Valid)
  (enabled : plan.settings.enabled = true)
  (never : ¬∃ cache, Cache.create plan.expectedTypes plan.settings plan.backing = .ok cache)
include valid enabled never

theorem SitePlan.Waits.choose {site : Site τ} (waits : plan.Waits site) (value : Value τ) :
    ∃ fault events,
      Cache.create plan.expectedTypes plan.settings plan.backing = .error (.fault fault) ∧
      site.strategy.choose value = ⟨.error fault, site.strategy, events⟩ := by
  obtain ⟨continuations, strategy⟩ := waits
  let memory : Memory :=
    ⟨plan.expectedTypes, plan.settings, plan.backing, none, continuations⟩
  obtain ⟨fault, events, unmade, failed⟩ := memory.onCache_unmade valid rfl never
    fun cache => ⟨.ok (cache.lookup value.token).record.settled?, (cache.lookup value.token).cache,
      (cache.lookup value.token).events⟩
  have choice : memory.choose value.token = ⟨.error fault, memory, events⟩ := by
    rw [← failed, Memory.choose, if_pos enabled]
  refine ⟨fault, events, unmade, ?_⟩
  rw [strategy, Strategy.choose, choice]
  rfl

theorem SitePlan.Waits.resolveBehind {site : Site τ} (waits : plan.Waits site) (value : Value τ)
    (after : Nat) : plan.Waits (site.resolveBehind value after).state := by
  by_cases start : after = unresolvedCase
  · subst start
    obtain ⟨fault, events, -, choice⟩ := waits.choose valid enabled never value
    have counted : site.countResolve.strategy.choose value =
        ⟨.error fault, site.strategy, events⟩ := choice
    rw [Site.resolveBehind_start]
    simp only [Site.resolve, counted]
    exact waits
  · by_cases outside : after = noMatchCase ∨ site.candidates.length ≤ after
    · rw [site.resolveBehind_outside value after start outside]
      exact waits
    · obtain ⟨continuations, strategy⟩ := waits
      cases chosen : site.strategy.chooseBehind value after with
      | mk choice events =>
        cases choice with
        | some record =>
          rw [site.resolveBehind_chosen value after record events start outside chosen]
          exact ⟨continuations, strategy⟩
        | none =>
          rw [site.resolveBehind_probed value after events start outside chosen]
          simp only [SitePlan.Waits, strategy, Strategy.reportBehind, Memory.reportBehind]
          split
          next => exact ⟨_, rfl⟩
          next => exact ⟨_, rfl⟩

theorem SitePlan.Waits.run {site : Site τ} (waits : plan.Waits site) (calls : List (Call τ)) :
    plan.Waits (site.run calls) := by
  refine Step.run_keeps plan.Waits Site.answer site calls waits fun call _ site before => ?_
  rw [Site.answer_eq]
  exact before.resolveBehind valid enabled never _ _

end Unmade

/-- Where the cache of an open site is enabled but cannot be made, the first call of every walk
fails as the making of the cache does, whatever was called before. -/
theorem walk_fails_without_cache (plan : SitePlan τ) (site : Site τ) (created : Event)
    (built : plan.build = .ok (site, created)) (opened : plan.hierarchy = .openWorld)
    (enabled : plan.settings.enabled = true)
    (never : ¬∃ cache, Cache.create plan.expectedTypes plan.settings plan.backing = .ok cache)
    (history : List (Call τ)) (value : Value τ) :
    ∃ fault, Cache.create plan.expectedTypes plan.settings plan.backing = .error (.fault fault) ∧
      ((site.run history).resolveBehind value unresolvedCase).result = .error fault ∧
      ((site.run history).walk value).result = .error fault := by
  obtain ⟨-, valid, ⟨-, rfl⟩ | ⟨kinds, closed, -⟩⟩ := plan.build_cases site created built
  · have fresh : plan.Waits ⟨plan.candidates,
        .openWorld ⟨plan.expectedTypes, plan.settings, plan.backing, none, []⟩, {}⟩ := ⟨[], rfl⟩
    have waits := fresh.run valid enabled never history
    obtain ⟨fault, events, unmade, choice⟩ := waits.choose valid enabled never value
    have failed := congrArg Step.result choice
    refine ⟨fault, unmade, Site.start_failed _ value fault failed, ?_⟩
    exact Site.walk_failed _ value fault failed
  · cases opened.symm.trans closed

/-- The map under the store makes room for `7 * 2 ^ 55` entries at most. More types are expected, so
the cache of the walk is never made. -/
theorem walk_fails_without_room :
    ¬∀ (plan : SitePlan Nat) (site : Site Nat) (created : Event),
      plan.build = .ok (site, created) → plan.hierarchy = .openWorld →
      ∀ (history : List (Call Nat)) (value : Value Nat),
      (∀ call ∈ history, call.token = value.token → Alike plan.candidates call.value value) →
      ∃ found, ((site.run history).walk value).result = .ok (found ++ [.noMatch]) ∧
        Enumerates plan.candidates value found := by
  intro always
  let whole : Layout Nat := ⟨⟨16⟩, 0, "Whole", none, []⟩
  let plan : SitePlan Nat :=
    { SitePlan.ofCandidates [⟨0, "Whole"⟩] with
      hint := some 1152921504606846976
      backing := { Backing.arrival with holds := (· ≤ 252201579132747776) } }
  have valid : plan.settings.Valid := ⟨by decide, by decide, by decide, by decide⟩
  have never :
      ¬∃ cache, Cache.create plan.expectedTypes plan.settings plan.backing = .ok cache := by
    rw [Cache.exists_create_iff]
    exact fun made => absurd made.2.2 (by decide)
  obtain ⟨created, built⟩ := build_open plan rfl (by decide) valid
  obtain ⟨found, result, -⟩ := always plan _ created built rfl [] (whole.valueAt 4096) (by simp)
  obtain ⟨fault, -, -, failed⟩ := walk_fails_without_cache plan _ created built rfl rfl never []
    (whole.valueAt 4096)
  exact absurd (result.symm.trans failed) (by simp)

end Typecase
