import Typecase.Proofs.OpenCalls

/-! An open site answers as if it remembered nothing. The answer to a call may come from a
slot, from the store, from an earlier continuation or from a fresh probe; as long as values
of one token offer the same views, it is the answer of a probe of the value at hand. -/

namespace Typecase

variable {τ : Type} [DecidableEq τ]

namespace Value

/-- What the value offers as a type, as any other value of its kind would: the actual type of
the view and how far it lies from the value. -/
def fixedView (value : Value τ) (type : τ) : Option (FixedView τ) :=
  (value.view type).map fun view => ⟨view.type, .measure value.address view.address⟩

theorem offsetAs_eq (value : Value τ) (type : τ) :
    value.offsetAs type =
      ((value.fixedView type).filter (·.type == type)).map FixedView.adjustment := by
  unfold offsetAs viewAs fixedView
  cases value.view type with
  | none => rfl
  | some view =>
    by_cases own : view.type = type
    · simp [Option.filter, own]
    · simp [Option.filter, own]

end Value

/-- Two values offer the same views as each of the candidates. -/
def Alike (candidates : List (Candidate τ)) (first second : Value τ) : Prop :=
  ∀ candidate ∈ candidates, first.fixedView candidate.type = second.fixedView candidate.type

theorem Alike.probe_record {candidates : List (Candidate τ)} {first second : Value τ}
    (alike : Alike candidates first second) (after : Nat) :
    (probe candidates first after).record = (probe candidates second after).record := by
  apply probe_record_congr
  intro candidate listed
  rw [Value.offsetAs_eq, Value.offsetAs_eq, alike candidate listed]

/-- Values of one token offer the same views as each of the candidates. -/
def Uniform (candidates : List (Candidate τ)) (values : List (Value τ)) : Prop :=
  ∀ first ∈ values, ∀ second ∈ values, first.token = second.token →
    ∀ candidate ∈ candidates,
      first.fixedView candidate.type = second.fixedView candidate.type

theorem Uniform.probe_record {candidates : List (Candidate τ)} {values : List (Value τ)}
    (uniform : Uniform candidates values) (first second : Value τ) (known : first ∈ values)
    (member : second ∈ values) (same : first.token = second.token) (after : Nat) :
    (probe candidates first after).record = (probe candidates second after).record :=
  Alike.probe_record (uniform first known second member same) after

/-- Whatever the memory knows about the token of one of the values is what a probe of that
value says. -/
structure Informed (candidates : List (Candidate τ)) (values : List (Value τ))
    (memory : Memory) : Prop where
  sound : memory.Sound
  first : ∀ value ∈ values, ∀ record, memory.ledger value.token = some record →
    record = (probe candidates value unresolvedCase).record
  behind : ∀ value ∈ values, ∀ after record,
    memory.continuation? value.token after = some record →
    record = (probe candidates value after).record

namespace Informed

variable {candidates : List (Candidate τ)} {values : List (Value τ)} {memory : Memory}

theorem withCache (informed : Informed candidates values memory) (cache : Cache)
    (means : cache.Means memory.ledger) :
    Informed candidates values (memory.withCache cache) where
  sound := Memory.sound_withCache memory informed.sound cache _ means
  first value member record known := by
    rw [Memory.ledger_withCache, means.ledger_eq] at known
    exact informed.first value member record known
  behind := informed.behind

/-- Settling a token by a probe of one value informs about all values of the token. -/
theorem settle (informed : Informed candidates values memory)
    (uniform : Uniform candidates values) (value : Value τ) (member : value ∈ values)
    (cache : Cache) (means : cache.Means (memory.ledger.settle value.token
      (probe candidates value unresolvedCase).record)) :
    Informed candidates values (memory.withCache cache) where
  sound := Memory.sound_withCache memory informed.sound cache _ means
  first other listed record known := by
    rw [Memory.ledger_withCache, means.ledger_eq] at known
    rcases Ledger.settle_source _ _ _ _ _ known with before | ⟨same, fresh⟩
    · exact informed.first other listed record before
    · rw [← fresh]
      exact uniform.probe_record value other member listed same.symm unresolvedCase
  behind := informed.behind

theorem reportBehind (informed : Informed candidates values memory)
    (uniform : Uniform candidates values) (enabled : memory.config.enabled = true)
    (value : Value τ) (member : value ∈ values) (after : Nat) :
    Informed candidates values (memory.reportBehind value.token after
      (probe candidates value after).record) := by
  refine ⟨memory.sound_reportBehind informed.sound _ _ _, ?_, ?_⟩
  · rw [memory.ledger_reportBehind]
    exact informed.first
  · intro other listed behind record known
    rw [Memory.continuation?_reportBehind memory enabled] at known
    split at known
    next same =>
      obtain ⟨token, rfl⟩ := same
      cases Option.some.inj known
      cases stored : memory.continuation? value.token behind with
      | some earlier =>
        rw [Option.getD_some]
        rw [← token] at stored
        exact informed.behind other listed behind earlier stored
      | none =>
        rw [Option.getD_none]
        exact uniform.probe_record value other member listed token.symm behind
    next => exact informed.behind other listed behind record known

theorem noted (informed : Informed candidates values memory) (call : Call τ)
    (member : call.value ∈ values) (record : Record)
    (known : memory.noted call.topic = some record) :
    record = (call.found candidates).record := by
  unfold Memory.noted at known
  split at known
  next start =>
    have first : call.after = unresolvedCase := start
    rw [Call.found, first]
    exact informed.first call.value member record known
  next => exact informed.behind call.value member call.after record known

theorem recalled (informed : Informed candidates values memory) (topic : Topic) :
    Informed candidates values (memory.recalled topic) := by
  unfold Memory.recalled
  split
  next =>
    exact informed.withCache _
      (Cache.means_lookup _ _ (memory.means_ready informed.sound) topic.token)
  next => exact informed

theorem learned (informed : Informed candidates values memory)
    (uniform : Uniform candidates values) (enabled : memory.config.enabled = true)
    (call : Call τ) (member : call.value ∈ values) :
    Informed candidates values
      (memory.learned call.topic (call.found candidates).record) := by
  unfold Memory.learned
  split
  next start =>
    have first : call.after = unresolvedCase := start
    have consulted := informed.recalled ⟨call.value.token, unresolvedCase⟩
    rw [Call.found, first]
    exact consulted.settle uniform call.value member _
      (Cache.means_report _ _ (Memory.means_ready _ consulted.sound) call.value.token _)
  next => exact informed.reportBehind uniform enabled call.value member call.after

end Informed

/-- An open site over the candidates whose memory is informed about the values. -/
def Transparent (candidates : List (Candidate τ)) (values : List (Value τ))
    (site : Site τ) : Prop :=
  site.candidates = candidates ∧
    ∃ memory, site.strategy = .openWorld memory ∧ Informed candidates values memory

section Steps

variable {candidates : List (Candidate τ)} {values : List (Value τ)}

/-- One call is answered as a probe and keeps the site transparent. -/
theorem transparent_answer (few : candidates.length ≤ maxCases)
    (uniform : Uniform candidates values) (site : Site τ)
    (transparent : Transparent candidates values site) (call : Call τ)
    (member : call.value ∈ values) :
    (site.answer call).result = .ok (call.probed candidates) ∧
      Transparent candidates values (site.answer call).state := by
  obtain ⟨rfl, memory, opened, informed⟩ := transparent
  by_cases asked : Asked site.candidates.length call.after
  case neg =>
    have silent : call.probed site.candidates = .noMatch :=
      congrArg Probe.dispatch (call.found_unasked site.candidates asked)
    rw [site.answer_unasked call asked, silent]
    exact ⟨rfl, rfl, memory, opened, informed⟩
  by_cases enabled : memory.config.enabled = true
  · cases known : memory.noted call.topic with
    | some record =>
      obtain ⟨result, state⟩ := site.answer_noted few memory opened call asked informed.sound
        enabled record known
      rw [result, state, informed.noted call member record known]
      exact ⟨congrArg Except.ok (rebuild_probe site few ..), site.candidates_countCall _, _, rfl,
        informed.recalled _⟩
    | none =>
      obtain ⟨result, state⟩ := site.answer_unnoted few memory opened call asked informed.sound
        enabled known
      rw [result, state]
      exact ⟨rfl, by simp, _, rfl, informed.learned uniform enabled call member⟩
  · obtain ⟨result, state⟩ := site.answer_disabled few memory opened call asked
      (by simpa using enabled)
    rw [result, state]
    exact ⟨rfl, by simp, memory, by simpa using opened, informed⟩

theorem transparent_run (few : candidates.length ≤ maxCases)
    (uniform : Uniform candidates values) (site : Site τ)
    (transparent : Transparent candidates values site) (calls : List (Call τ))
    (members : ∀ call ∈ calls, call.value ∈ values) :
    Transparent candidates values (site.run calls) :=
  Step.run_keeps (Transparent candidates values) Site.answer site calls transparent
    fun call called state before =>
      (transparent_answer few uniform state before call (members call called)).2

end Steps

theorem informed_fresh (candidates : List (Candidate τ)) (values : List (Value τ))
    (hint : Nat) (config : Config) (backing : Backing) (valid : config.Valid)
    (creatable : config.enabled = true → ∃ cache, Cache.create hint config backing = .ok cache) :
    Informed candidates values ⟨hint, config, backing, none, []⟩ where
  sound := ⟨valid, creatable, fun _ held => by cases held⟩
  first _ _ _ known := by cases known
  behind _ _ _ _ known := by cases known

/-- Whatever was called before on an open site, each call returns the record and the target
of a probe of its value, provided that values of one token offer the same views. -/
theorem answer_eq_probe (plan : SitePlan τ) (opened : plan.hierarchy = .openWorld)
    (few : plan.candidates.length ≤ maxCases) (valid : plan.settings.Valid)
    (creatable : plan.settings.enabled = true →
      ∃ cache, Cache.create plan.expectedTypes plan.settings plan.backing = .ok cache) :
    ∃ site created, plan.build = .ok (site, created) ∧
      ∀ (history : List (Call τ)) (call : Call τ),
        Uniform plan.candidates ((history ++ [call]).map Call.value) →
        ((site.run history).answer call).result = .ok (call.probed plan.candidates) := by
  obtain ⟨created, built⟩ := build_open plan opened few valid
  refine ⟨_, created, built, fun history call uniform => ?_⟩
  have fresh := informed_fresh plan.candidates ((history ++ [call]).map Call.value)
    plan.expectedTypes plan.settings plan.backing valid creatable
  have members : ∀ other ∈ history ++ [call],
      other.value ∈ (history ++ [call]).map Call.value :=
    fun other listed => List.mem_map_of_mem listed
  have before := transparent_run few uniform
    ⟨plan.candidates, .openWorld ⟨plan.expectedTypes, plan.settings, plan.backing, none, []⟩, {}⟩
    ⟨rfl, _, rfl, fresh⟩ history fun other listed => members other (List.mem_append_left _ listed)
  exact (transparent_answer few uniform _ before call (members call (by simp))).1

/-- A whole evicts its part from the only slot and is evicted in turn. At another address the
whole is answered from the store, and behind the case of the part from its continuation. -/
theorem answer_eq_probe_evicted :
    let part : Layout Nat := ⟨⟨8⟩, 1, "Part", none, []⟩
    let whole : Layout Nat := ⟨⟨16⟩, 0, "Whole", none, [⟨1, 8⟩]⟩
    let plan : SitePlan Nat :=
      { SitePlan.ofCandidates [⟨1, "Part"⟩, ⟨0, "Whole"⟩] with
        config := some { Config.default with minBits := 0, maxBits := 0 } }
    ∃ site created, plan.build = .ok (site, created) ∧
      ((site.run [.resolve (whole.valueAt 4096), .resolveBehind (whole.valueAt 4096) 1,
          .resolve (part.valueAt 64)]).answer (.resolve (whole.valueAt 8192))).result =
        .ok ⟨⟨1, ⟨8⟩⟩, some ⟨1, 8200⟩⟩ ∧
      ((site.run [.resolve (whole.valueAt 4096), .resolveBehind (whole.valueAt 4096) 1,
          .resolve (part.valueAt 64)]).answer (.resolveBehind (whole.valueAt 8192) 1)).result =
        .ok ⟨⟨2, .zero⟩, some ⟨0, 8192⟩⟩ := by
  intro part whole plan
  have valid : plan.settings.Valid := ⟨by decide, by decide, by decide, by decide⟩
  obtain ⟨site, created, built, answered⟩ := answer_eq_probe plan rfl (by decide) valid
    fun _ => (Cache.exists_create_iff _ _ _).2 ⟨valid, by cbv, by decide⟩
  refine ⟨site, created, built, ?_, ?_⟩
  · rw [answered _ _ (by unfold Uniform; decide)]
    exact congrArg Except.ok (by decide)
  · rw [answered _ _ (by unfold Uniform; decide)]
    exact congrArg Except.ok (by decide)

end Typecase
