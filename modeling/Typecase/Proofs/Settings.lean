import Typecase.Proofs.Calls
import Typecase.Proofs.Numerals
import Typecase.Proofs.Sizes

/-! What an environment makes of a configuration. Each variable has fields of its own, and a text
that is no numeral in range leaves them at their defaults. Whatever the texts are, the
configuration can be used: no cache and no site is refused because of it. -/

namespace Typecase

section Build
variable {τ : Type} [DecidableEq τ]

theorem Hierarchy.exists_strategyFor (hierarchy : Hierarchy τ) (candidates : List (Candidate τ))
    (hint : Nat) (config : Config) (backing : Backing) (valid : config.Valid) :
    ∃ strategy, hierarchy.strategyFor candidates hint config backing = .ok strategy := by
  have checked := (config.check_eq_ok_iff).2 valid
  cases hierarchy with
  | openWorld =>
    simp [strategyFor, Memory.create, checked, bind, Except.bind, pure, Except.pure]
  | closedWorld kinds =>
    simp [strategyFor, checked, bind, Except.bind, pure, Except.pure]

theorem SitePlan.exists_build (plan : SitePlan τ) (few : plan.candidates.length ≤ maxCases)
    (valid : plan.settings.Valid) : ∃ site created, plan.build = .ok (site, created) := by
  obtain ⟨strategy, selected⟩ := plan.hierarchy.exists_strategyFor plan.candidates
    plan.expectedTypes plan.settings plan.backing valid
  obtain ⟨created, built⟩ := plan.build_of_strategyFor few strategy selected
  exact ⟨_, created, built⟩

end Build

namespace Cache

/-- A valid configuration is never refused. -/
theorem create_not_refused (hint : Nat) (config : Config) (backing : Backing)
    (valid : config.Valid) (refusal : Refusal) :
    create hint config backing ≠ .error (.refused refusal) := by
  rw [create, (config.check_eq_ok_iff).2 valid]
  cases sized hint config backing with
  | error fault => simp [Except.mapError]
  | ok cache => simp [Except.mapError]

/-- A cache is made for any number of types that has a power of two above its double in a word, if
the map under its store has room for them. -/
theorem exists_create_of_holds (hint : Nat) (config : Config) (backing : Backing)
    (valid : config.Valid) (small : hint ≤ slotsOf 62) (room : backing.holds hint = true) :
    ∃ cache, create hint config backing = .ok cache := by
  have sized : Config.slotsFor hint < Word.limit64 :=
    Nat.lt_of_not_le fun overflow =>
      absurd small ((Config.limit64_le_slotsFor_iff hint).1 overflow).not_ge
  exact (exists_create_iff hint config backing).2 ⟨valid, sized, room⟩

end Cache

namespace Config

variable (lookup : String → Option String)

/-- The environment gives a variable a number below a limit. -/
def Sets (name : String) (limit number : Nat) : Prop :=
  ∃ text, lookup name = some text ∧ Numeral.Spells text.toList number ∧ number < limit

/-- The number below a limit that a variable gives. -/
def setting? (name : String) (limit : Nat) : Option Nat :=
  (lookup name).bind fun text => Numeral.read? limit text.toList

theorem setting?_eq_some_iff (name : String) (limit number : Nat) :
    setting? lookup name limit = some number ↔ Sets lookup name limit number := by
  unfold setting? Sets
  rw [Option.bind_eq_some_iff]
  simp only [Numeral.read?_eq_some_iff]

theorem setting?_eq_none (name : String) (limit : Nat)
    (unset : ¬∃ number, Sets lookup name limit number) : setting? lookup name limit = none := by
  apply Option.eq_none_iff_forall_ne_some.2
  intro number given
  exact unset ⟨number, (setting?_eq_some_iff lookup name limit number).1 given⟩

/-- The configuration as a whole. -/
theorem ofEnvironment_eq :
    ofEnvironment lookup =
      let bits := setting? lookup "TS_CACHE_MAX_BITS" Word.limit32
      let threshold := setting? lookup "TS_CACHE_REHASH" Word.limit64
      { default with
        enabled := lookup "TS_CACHE_DISABLE" != some "1"
        maxBits := bits.elim default.maxBits (min · largestBits)
        minBits := bits.elim default.minBits (min default.minBits <| min · largestBits)
        rehashThreshold := threshold.getD default.rehashThreshold } := by
  dsimp only [ofEnvironment, setting?]
  cases (lookup "TS_CACHE_MAX_BITS").bind fun text => Numeral.read? Word.limit32 text.toList with
  | none =>
    cases (lookup "TS_CACHE_REHASH").bind fun text => Numeral.read? Word.limit64 text.toList with
    | none => rfl
    | some threshold => rfl
  | some bits =>
    cases (lookup "TS_CACHE_REHASH").bind fun text => Numeral.read? Word.limit64 text.toList with
    | none => rfl
    | some threshold => rfl

theorem valid_ofEnvironment : (ofEnvironment lookup).Valid := by
  rw [ofEnvironment_eq]
  have shifts : default.maxShift ≤ largestShift := by decide
  have start : default.defaultShift ≤ default.maxShift := by decide
  cases setting? lookup "TS_CACHE_MAX_BITS" Word.limit32 with
  | none =>
    have ordered : default.minBits ≤ default.maxBits := by decide
    have bounded : default.maxBits ≤ largestBits := by decide
    exact ⟨ordered, bounded, shifts, start⟩
  | some bits =>
    have ordered : min default.minBits (min bits largestBits) ≤ min bits largestBits :=
      Nat.min_le_right _ _
    have bounded : min bits largestBits ≤ largestBits := Nat.min_le_right _ _
    exact ⟨ordered, bounded, shifts, start⟩

/-- Only a text that is exactly one digit one switches the caches off. -/
theorem enabled_ofEnvironment :
    (ofEnvironment lookup).enabled = false ↔ lookup "TS_CACHE_DISABLE" = some "1" := by
  rw [ofEnvironment_eq]
  exact bne_eq_false_iff_eq

/-- The smallest size gives way where the largest one falls below it. -/
theorem bits_ofEnvironment (bits : Nat)
    (given : Sets lookup "TS_CACHE_MAX_BITS" Word.limit32 bits) :
    (ofEnvironment lookup).maxBits = min bits 20 ∧
      (ofEnvironment lookup).minBits = min 1 (ofEnvironment lookup).maxBits := by
  rw [ofEnvironment_eq, (setting?_eq_some_iff lookup _ _ _).2 given]
  exact ⟨rfl, rfl⟩

theorem bits_ofEnvironment_of_unset
    (unset : ¬∃ bits, Sets lookup "TS_CACHE_MAX_BITS" Word.limit32 bits) :
    (ofEnvironment lookup).maxBits = default.maxBits ∧
      (ofEnvironment lookup).minBits = default.minBits := by
  rw [ofEnvironment_eq, setting?_eq_none lookup _ _ unset]
  exact ⟨rfl, rfl⟩

theorem threshold_ofEnvironment (threshold : Nat)
    (given : Sets lookup "TS_CACHE_REHASH" Word.limit64 threshold) :
    (ofEnvironment lookup).rehashThreshold = threshold := by
  rw [ofEnvironment_eq, (setting?_eq_some_iff lookup _ _ _).2 given]
  rfl

theorem threshold_ofEnvironment_of_unset
    (unset : ¬∃ threshold, Sets lookup "TS_CACHE_REHASH" Word.limit64 threshold) :
    (ofEnvironment lookup).rehashThreshold = default.rehashThreshold := by
  rw [ofEnvironment_eq, setting?_eq_none lookup _ _ unset]
  rfl

/-- No variable moves a shift. -/
theorem shifts_ofEnvironment :
    (ofEnvironment lookup).defaultShift = default.defaultShift ∧
      (ofEnvironment lookup).maxShift = default.maxShift := by
  rw [ofEnvironment_eq]
  exact ⟨rfl, rfl⟩

/-- Whatever an environment holds, its configuration passes the check and serves any cache whose
store has room and any site of few enough candidates. Each variable decides its own fields. -/
theorem ofEnvironment_usable {τ : Type} [DecidableEq τ] :
    (ofEnvironment lookup).check = .ok () ∧
    (∀ hint backing,
      (hint ≤ slotsOf 62 → backing.holds hint = true →
        ∃ cache, Cache.create hint (ofEnvironment lookup) backing = .ok cache) ∧
      ∀ refusal, Cache.create hint (ofEnvironment lookup) backing ≠ .error (.refused refusal)) ∧
    (∀ plan : SitePlan τ, plan.settings = ofEnvironment lookup →
      plan.candidates.length ≤ maxCases → ∃ site created, plan.build = .ok (site, created)) ∧
    ((ofEnvironment lookup).enabled = false ↔ lookup "TS_CACHE_DISABLE" = some "1") ∧
    (∀ bits, Sets lookup "TS_CACHE_MAX_BITS" Word.limit32 bits →
      (ofEnvironment lookup).maxBits = min bits 20 ∧
        (ofEnvironment lookup).minBits = min 1 (ofEnvironment lookup).maxBits) ∧
    ((¬∃ bits, Sets lookup "TS_CACHE_MAX_BITS" Word.limit32 bits) →
      (ofEnvironment lookup).maxBits = default.maxBits ∧
        (ofEnvironment lookup).minBits = default.minBits) ∧
    (∀ threshold, Sets lookup "TS_CACHE_REHASH" Word.limit64 threshold →
      (ofEnvironment lookup).rehashThreshold = threshold) ∧
    ((¬∃ threshold, Sets lookup "TS_CACHE_REHASH" Word.limit64 threshold) →
      (ofEnvironment lookup).rehashThreshold = default.rehashThreshold) ∧
    (ofEnvironment lookup).defaultShift = default.defaultShift ∧
    (ofEnvironment lookup).maxShift = default.maxShift := by
  have valid := valid_ofEnvironment lookup
  refine ⟨((ofEnvironment lookup).check_eq_ok_iff).2 valid, ?caches, ?sites,
    enabled_ofEnvironment lookup, bits_ofEnvironment lookup, bits_ofEnvironment_of_unset lookup,
    threshold_ofEnvironment lookup, threshold_ofEnvironment_of_unset lookup,
    shifts_ofEnvironment lookup⟩
  case caches =>
    intro hint backing
    constructor
    · exact Cache.exists_create_of_holds hint (ofEnvironment lookup) backing valid
    · exact Cache.create_not_refused hint (ofEnvironment lookup) backing valid
  case sites =>
    intro plan same few
    apply plan.exists_build few
    rw [same]
    exact valid

/-- A plus sign and zeros are read. A space is not, nor a number beyond the largest word. -/
theorem ofEnvironment_usable_unread :
    let lookup : String → Option String
      | "TS_CACHE_DISABLE" => some "1 "
      | "TS_CACHE_MAX_BITS" => some "+00"
      | "TS_CACHE_REHASH" => some "18446744073709551616"
      | _ => none
    let plan : SitePlan Bool :=
      { SitePlan.ofCandidates [⟨true, "true"⟩] with config := some (ofEnvironment lookup) }
    (∃ cache, Cache.create 3 (ofEnvironment lookup) .arrival = .ok cache) ∧
    (∃ site created, plan.build = .ok (site, created)) ∧
    (ofEnvironment lookup).maxBits = 0 ∧ (ofEnvironment lookup).minBits = 0 ∧
    (ofEnvironment lookup).rehashThreshold = 4 ∧ (ofEnvironment lookup).enabled ≠ false := by
  intro lookup plan
  obtain ⟨-, caches, sites, enabled, bits, -, -, threshold, -⟩ :=
    ofEnvironment_usable (τ := Bool) lookup
  have given : Sets lookup "TS_CACHE_MAX_BITS" Word.limit32 0 :=
    ⟨"+00", rfl, ⟨[0, 0], by decide, by decide, Or.inr rfl, rfl⟩, by decide⟩
  have unset : ¬∃ number, Sets lookup "TS_CACHE_REHASH" Word.limit64 number := by
    rintro ⟨number, set⟩
    have read := (setting?_eq_some_iff lookup _ _ _).2 set
    rw [show setting? lookup "TS_CACHE_REHASH" Word.limit64 = none from by decide] at read
    cases read
  have sizes := bits 0 given
  have most : (ofEnvironment lookup).maxBits = 0 := sizes.1
  refine ⟨(caches 3 .arrival).1 (by decide) rfl, sites plan rfl (by decide), most, ?_,
    threshold unset, ?_⟩
  · rw [sizes.2, most]
    rfl
  · intro disabled
    exact absurd (enabled.1 disabled) (by decide)

end Config

end Typecase
