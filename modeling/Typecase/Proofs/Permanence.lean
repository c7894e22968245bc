import Typecase.Proofs.Bounds

/-! No call on a site goes wrong, and what a type was settled to stays. Neither needs values to be
what they claim: a choice and the report that follows it are about one token, so a report never
meets a settled record, and whatever is settled is answered to all values of the token. -/

namespace Typecase

/-- Each token has a slot, found by shifts that a word allows, also among those that a rehash
tries and fills. -/
structure Cache.Addressable (cache : Cache) : Prop where
  bits : cache.bits ≤ Config.largestBits
  shift : cache.shift ≤ Config.largestShift
  inside : ∀ token, cache.slotNumber token < cache.slots.size
  tried : ∀ (token : Token) (shift : Nat),
    token.slot cache.rehashedBits shift < (vacantSlots cache.rehashedBits).size

theorem Cache.Formed.addressable {cache : Cache} (formed : cache.Formed) : cache.Addressable where
  bits := Nat.le_trans formed.most formed.valid.bounded
  shift := Nat.le_trans formed.shifted formed.valid.shifts
  inside := cache.slotNumber_lt formed
  tried token shift := by
    rw [vacantSlots, Array.size_replicate]
    exact token.slot_lt cache.rehashedBits shift

/-- Slots are found in every cache that a call may touch: the one at hand or made on the first use,
the one that has met a missed token, the one that a rehash leaves for it, and the one that the
outcome is reported to. -/
structure Memory.Addressable (memory : Memory) : Prop where
  ready : memory.ready.Addressable
  missed : ∀ token, (memory.ready.missed token).Addressable
  readied : ∀ token, (memory.ready.readied token).Addressable
  looked : ∀ token, (memory.ready.lookup token).cache.Addressable

theorem Memory.Kept.addressable {count : Nat} {memory : Memory} (kept : memory.Kept count) :
    memory.Addressable := by
  have formed := kept.means_ready.formed
  refine ⟨formed.addressable, ?_, ?_, ?_⟩
  · intro token
    exact (memory.ready.formed_missed formed token).addressable
  · intro token
    exact (memory.ready.formed_readied formed token).addressable
  · intro token
    exact (memory.ready.formed_lookup formed token).addressable

variable {τ : Type}

/-- What is kept on the first answers for a type is what it was settled to. -/
theorem Site.noted_start_iff (site : Site τ) (value : Value τ) (record : Record) :
    site.noted ⟨value.token, unresolvedCase⟩ = some record ↔
      site.settled? value = some record ∧ record.isUnresolved = false := by
  unfold noted settled? Strategy.known?
  cases site.strategy with
  | closedWorld table => simp
  | openWorld memory =>
    simp only [Memory.noted, Memory.ledger, Memory.known?, ↓reduceIte]
    cases memory.cache with
    | none => simp [Ledger.blank]
    | some cache => exact cache.store.ledger_eq_some_iff value.token record

variable [DecidableEq τ]

section Runs
variable (plan : SitePlan τ) (site : Site τ) (created : Event)
  (built : plan.build = .ok (site, created)) (calls : List (Call τ))
include built

/-- An answer is settled, and if there is a target its record is one that a match may have. -/
theorem answer_settled_run (call : Call τ) (dispatch : Dispatch τ)
    (answered : ((site.run calls).answer call).result = .ok dispatch) :
    dispatch.record.isUnresolved = false ∧
    (dispatch.target.isSome = true →
      Record.resolved dispatch.record.case dispatch.record.adjustment = .ok dispatch.record) := by
  have few := (plan.build_cases site created built).1
  obtain ⟨among, kept⟩ := kept_run plan site created built calls
  rw [← among] at few kept
  obtain ⟨-, -, rebuilt⟩ := (site.run calls).kept_answer few kept call
  obtain ⟨record, reaches, rfl⟩ := rebuilt dispatch answered
  have formed := (site.run calls).wellFormed_rebuild few call.value call.after record reaches
  refine ⟨reaches.settled, fun targeted => ?_⟩
  rw [formed.target] at targeted
  exact Record.resolved_of_isResolved _ targeted

theorem addressable_run (memory : Memory)
    (opened : (site.run calls).strategy = .openWorld memory) : memory.Addressable := by
  have kept := (kept_run plan site created built calls).2
  rw [opened] at kept
  exact Memory.Kept.addressable kept

theorem settled_run (remembers : plan.Remembers) (value other : Value τ)
    (same : other.token = value.token) (record : Record)
    (found : (site.run calls).settled? value = some record)
    (telling : record.isUnresolved = false) (later : List (Call τ)) :
    (site.run (calls ++ later)).settled? other = some record ∧
    ∀ call : Call τ, call.value = other → call.after = unresolvedCase → ∃ target,
      ((site.run (calls ++ later)).answer call).result = .ok ⟨record, target⟩ := by
  have few := (plan.build_cases site created built).1
  have before := recalls_run plan site created built remembers calls
  have after := recalls_run plan site created built remembers (calls ++ later)
  have noted := ((site.run calls).noted_start_iff value record).2 ⟨found, telling⟩
  -- What was first found for the token is not found anew in a longer run.
  have known : firstNote plan.candidates (calls ++ later) ⟨other.token, unresolvedCase⟩ =
      some record := by
    rw [firstNote_append, same, ← before.notes _ (Or.inl rfl), noted]
    rfl
  have stays := (after.notes _ (Or.inl rfl)).trans known
  constructor
  · exact ((Site.noted_start_iff _ other record).1 stays).1
  · rintro call rfl start
    refine ⟨_, after.answer_repeated few call (Or.inl start) record ?_⟩
    rw [Call.topic, start]
    exact known

end Runs

/-- Whatever was called before and with which values, a call gets an answer that says more than
that nothing is known, no slot is out of reach, and once a type is settled every later resolution
under its token returns that record. -/
theorem settled_answers_stay (plan : SitePlan τ) (site : Site τ) (created : Event)
    (built : plan.build = .ok (site, created))
    (creatable : plan.hierarchy = .openWorld → plan.settings.enabled = true →
      ∃ cache, Cache.create plan.expectedTypes plan.settings plan.backing = .ok cache)
    (calls : List (Call τ)) :
    (∀ call, ∃ dispatch, ((site.run calls).answer call).result = .ok dispatch ∧
      dispatch.record.isUnresolved = false ∧
      (dispatch.target.isSome = true →
        Record.resolved dispatch.record.case dispatch.record.adjustment = .ok dispatch.record)) ∧
    (∀ memory, (site.run calls).strategy = .openWorld memory → memory.Addressable) ∧
    (plan.hierarchy = .openWorld → plan.settings.enabled = true →
      ∀ value record, (site.run calls).settled? value = some record →
      record.isUnresolved = false → ∀ later other, other.token = value.token →
      (site.run (calls ++ later)).settled? other = some record ∧
      ∀ call : Call τ, call.value = other → call.after = unresolvedCase → ∃ target,
        ((site.run (calls ++ later)).answer call).result = .ok ⟨record, target⟩) := by
  refine ⟨fun call => ?_, ?_, ?_⟩
  · obtain ⟨dispatch, answered⟩ := answers_run plan site created built calls creatable call
    exact ⟨dispatch, answered,
      answer_settled_run plan site created built calls call dispatch answered⟩
  · exact addressable_run plan site created built calls
  · intro opened enabled value record found telling later other same
    exact settled_run plan site created built calls ⟨opened, enabled, creatable opened enabled⟩
      value other same record found telling later

/-- A whole settles the token that marks a vacant slot. An impostor under that token is sent where
the whole went, also after another type took the only slot over. -/
theorem settled_answers_stay_zero_token :
    let whole : Layout Nat := ⟨.empty, 0, "Whole", some 7, [⟨1, 8⟩]⟩
    let impostor : Layout Nat := ⟨.empty, 2, "Impostor", none, []⟩
    let part : Layout Nat := ⟨⟨8⟩, 1, "Part", none, []⟩
    let plan : SitePlan Nat :=
      { SitePlan.ofCandidates [⟨2, "Impostor"⟩, ⟨1, "Part"⟩] with
        config := some { Config.default with minBits := 0, maxBits := 0 } }
    ∃ site created, plan.build = .ok (site, created) ∧
      (site.run [.resolve (whole.valueAt 64)]).settled? (whole.valueAt 64) = some ⟨2, ⟨8⟩⟩ ∧
      ∃ target, ((site.run [.resolve (whole.valueAt 64), .resolve (part.valueAt 4096)]).answer
        (.resolve (impostor.valueAt 8192))).result = .ok ⟨⟨2, ⟨8⟩⟩, target⟩ := by
  intro whole impostor part plan
  have valid : plan.settings.Valid := ⟨by decide, by decide, by decide, by decide⟩
  obtain ⟨created, built⟩ := build_open plan rfl (by decide) valid
  have creatable : ∃ cache,
      Cache.create plan.expectedTypes plan.settings plan.backing = .ok cache :=
    (Cache.exists_create_iff _ _ _).2 ⟨valid, by cbv, by decide⟩
  have recalls := recalls_run plan _ created built ⟨rfl, rfl, creatable⟩
    [.resolve (whole.valueAt 64)]
  have noted := (recalls.notes ⟨whole.token, unresolvedCase⟩ (Or.inl rfl)).trans
    (show _ = some ⟨2, ⟨8⟩⟩ by decide)
  have settled := ((Site.noted_start_iff _ (whole.valueAt 64) _).1 noted).1
  obtain ⟨-, -, stays⟩ := settled_answers_stay plan _ created built (fun _ _ => creatable)
    [.resolve (whole.valueAt 64)]
  obtain ⟨-, answered⟩ := stays rfl rfl _ _ settled rfl [.resolve (part.valueAt 4096)]
    (impostor.valueAt 8192) rfl
  exact ⟨_, created, built, settled, answered (.resolve (impostor.valueAt 8192)) rfl rfl⟩

end Typecase
