import Typecase.Proofs.OpenCalls

/-! An open site that remembers answers every call on a topic by what the first call on it found.
Values of one token need not agree for that: the first of them speaks for all. -/

namespace Typecase

variable {τ : Type}

/-- The first call on a topic. -/
def firstOn (calls : List (Call τ)) (topic : Topic) : Option (Call τ) :=
  calls.find? (·.topic = topic)

theorem firstOn_append (calls later : List (Call τ)) (topic : Topic) :
    firstOn (calls ++ later) topic = (firstOn calls topic).or (firstOn later topic) :=
  List.find?_append ..

theorem firstOn_eq_none_iff (calls : List (Call τ)) (topic : Topic) :
    firstOn calls topic = none ↔ ∀ call ∈ calls, call.topic ≠ topic := by
  simp [firstOn]

theorem firstOn_eq_some (calls : List (Call τ)) (topic : Topic) (first : Call τ)
    (found : firstOn calls topic = some first) : first ∈ calls ∧ first.topic = topic :=
  ⟨List.mem_of_find?_eq_some found, by simpa using List.find?_some found⟩

variable [DecidableEq τ]

/-- What the first call on a topic found. -/
def firstNote (candidates : List (Candidate τ)) (calls : List (Call τ)) (topic : Topic) :
    Option Record :=
  (firstOn calls topic).map fun first => (first.found candidates).record

theorem firstNote_append (candidates : List (Candidate τ)) (calls later : List (Call τ))
    (topic : Topic) :
    firstNote candidates (calls ++ later) topic =
      (firstNote candidates calls topic).or (firstNote candidates later topic) := by
  unfold firstNote
  rw [firstOn_append]
  cases firstOn calls topic <;> rfl

/-- An attentive site over the candidates after the calls: on every topic that it was asked
about it has noted what the first call found. -/
structure Recalls (candidates : List (Candidate τ)) (calls : List (Call τ))
    (site : Site τ) : Prop where
  among : site.candidates = candidates
  attentive : site.Attentive
  notes : ∀ topic, Asked candidates.length topic.after →
    site.noted topic = firstNote candidates calls topic

namespace Recalls

variable {candidates : List (Candidate τ)} {calls : List (Call τ)} {site : Site τ}

theorem noted_eq_none_iff (recalls : Recalls candidates calls site) (topic : Topic)
    (asked : Asked candidates.length topic.after) :
    site.noted topic = none ↔ firstOn calls topic = none := by
  rw [recalls.notes topic asked, firstNote, Option.map_eq_none_iff]

theorem answer (few : candidates.length ≤ maxCases) (recalls : Recalls candidates calls site)
    (call : Call τ) : Recalls candidates (calls ++ [call]) (site.answer call).state := by
  obtain ⟨rfl, attentive, notes⟩ := recalls
  have single (topic : Topic) : firstNote site.candidates [call] topic =
      if call.topic = topic then some (call.found site.candidates).record else none := by
    unfold firstNote firstOn
    by_cases own : call.topic = topic <;> simp [own]
  rcases site.answer_cases few attentive call with ⟨unasked, same⟩ |
    ⟨asked, record, known, -, leaves⟩ | ⟨asked, fresh, -, leaves⟩
  · rw [same]
    refine ⟨rfl, attentive, fun topic asked => ?_⟩
    have other : call.topic ≠ topic := by
      rintro rfl
      exact unasked asked
    rw [notes topic asked, firstNote_append, single, if_neg other, Option.or_none]
  · refine ⟨leaves.among, leaves.attentive, fun topic ask => ?_⟩
    rw [leaves.notes, notes topic ask, firstNote_append, single]
    by_cases own : call.topic = topic
    · rw [← own, ← notes call.topic asked, known]
      rfl
    · rw [if_neg own, Option.or_none]
  · refine ⟨leaves.among, leaves.attentive, fun topic ask => ?_⟩
    rw [leaves.notes, firstNote_append, single, ← notes topic ask, Function.update_apply]
    by_cases own : call.topic = topic
    · rw [if_pos own, if_pos own.symm, ← own, fresh]
      rfl
    · rw [if_neg own, if_neg (Ne.symm own), Option.or_none]

/-- A topic that came up before is answered by what was found then. -/
theorem answer_repeated (few : candidates.length ≤ maxCases)
    (recalls : Recalls candidates calls site) (call : Call τ)
    (asked : Asked candidates.length call.after) (record : Record)
    (known : firstNote candidates calls call.topic = some record) :
    (site.answer call).result = .ok (site.rebuild call.value record) := by
  have noted := (recalls.notes call.topic asked).trans known
  obtain ⟨rfl, attentive, -⟩ := recalls
  rcases site.answer_cases few attentive call with ⟨unasked, -⟩ |
    ⟨-, kept, found, answered, -⟩ | ⟨-, fresh, -⟩
  · exact absurd asked unasked
  · cases noted.symm.trans found
    exact answered
  · cases noted.symm.trans fresh

end Recalls

/-- A plan of an open site whose cache is enabled and can be made when it is needed. -/
structure SitePlan.Remembers (plan : SitePlan τ) : Prop where
  opened : plan.hierarchy = .openWorld
  enabled : plan.settings.enabled = true
  creatable : ∃ cache, Cache.create plan.expectedTypes plan.settings plan.backing = .ok cache

theorem recalls_run (plan : SitePlan τ) (site : Site τ) (created : Event)
    (built : plan.build = .ok (site, created)) (remembers : plan.Remembers)
    (calls : List (Call τ)) : Recalls plan.candidates calls (site.run calls) := by
  obtain ⟨few, valid, ⟨-, rfl⟩ | ⟨kinds, closed, -⟩⟩ := plan.build_cases site created built
  · refine Step.run_follows (Recalls plan.candidates) Site.answer _ calls ?_
      fun done call state before => before.answer few call
    have sound : Memory.Sound
        ⟨plan.expectedTypes, plan.settings, plan.backing, none, []⟩ :=
      ⟨valid, fun _ => remembers.creatable, fun _ held => by cases held⟩
    refine ⟨rfl, ⟨_, rfl, sound, remembers.enabled⟩, fun topic _ => ?_⟩
    simp only [Site.noted, Memory.noted]
    split <;> rfl
  · rw [remembers.opened] at closed
    cases closed

end Typecase
