import Typecase.Proofs.Accounts
import Typecase.Proofs.Sizes
import Typecase.Proofs.Totals

/-! How far counters get. They are natural numbers here and words of 64 bits on a machine, which
makes no difference as long as they stay in range. A request adds at most one to each counter of a
cache, and a call at most one to each counter of a site, except that a probe asks as many candidates
as there are. -/

namespace Typecase

namespace Store

theorem size_fetch_le (store : Store) (token : Token) :
    (store.fetch token).2.size ≤ store.size + 1 := by
  unfold fetch
  split
  next => exact Nat.le_succ _
  next => exact Nat.le_of_eq List.length_append

theorem size_settle_le (store later : Store) (token : Token) (record : Record)
    (accepted : store.settle token record = .ok later) : later.size ≤ store.size + 1 := by
  rcases store.settle_cases later token record accepted with
    ⟨rfl, -⟩ | ⟨-, fresh, rfl⟩ | ⟨-, -, rfl⟩
  · exact Nat.le_succ _
  · exact Nat.le_of_eq List.length_append
  · rw [← length_tokens, tokens_replace, length_tokens]
    exact Nat.le_succ _

end Store

/-- What so many look-ups and rehashes can have counted. -/
structure CacheCounts.Spent (uses : Nat) (counts : CacheCounts) : Prop where
  lookups : counts.hits + counts.misses ≤ uses
  collided : counts.collisions ≤ counts.misses
  rehashes : counts.rehashes ≤ uses

theorem CacheCounts.spent_zero (uses : Nat) : CacheCounts.Spent uses {} :=
  ⟨Nat.zero_le uses, Nat.le_refl 0, Nat.zero_le uses⟩

theorem CacheCounts.Spent.mono {uses : Nat} {counts : CacheCounts} (spent : counts.Spent uses)
    (more : Nat) (le : uses ≤ more) : counts.Spent more :=
  ⟨Nat.le_trans spent.lookups le, spent.collided, Nat.le_trans spent.rehashes le⟩

namespace Cache

/-- The pressure counts no collision that is not counted as such. -/
structure Spent (uses : Nat) (cache : Cache) : Prop where
  counts : cache.counts.Spent uses
  pressed : cache.pressure ≤ cache.counts.collisions

/-- Words of 64 bits hold all that a cache counts. -/
structure InRange (cache : Cache) : Prop where
  hits : cache.counts.hits < Word.limit64
  misses : cache.counts.misses < Word.limit64
  collisions : cache.counts.collisions < Word.limit64
  rehashes : cache.counts.rehashes < Word.limit64
  pressure : cache.pressure < Word.limit64

section Spent
variable {uses : Nat} {cache : Cache}

theorem spent_sized (hint : Nat) (config : Config) (backing : Backing)
    (sized : Cache.sized hint config backing = .ok cache) : cache.Spent uses := by
  unfold Cache.sized at sized
  cases chosen : config.checkedBitsFor hint with
  | error fault => simp [chosen, bind, Except.bind] at sized
  | ok bits =>
    cases reserved : Store.reserve backing hint with
    | error fault => simp [chosen, reserved, bind, Except.bind] at sized
    | ok store =>
      simp only [chosen, reserved, bind, Except.bind, pure, Except.pure] at sized
      cases sized
      exact ⟨CacheCounts.spent_zero uses, Nat.le_refl 0⟩

variable (spent : cache.Spent uses)
include spent

theorem Spent.mono (more : Nat) (le : uses ≤ more) : cache.Spent more :=
  ⟨spent.counts.mono more le, spent.pressed⟩

theorem Spent.inRange (few : uses < Word.limit64) : cache.InRange := by
  obtain ⟨⟨lookups, collided, rehashes⟩, pressed⟩ := spent
  refine ⟨?_, ?_, ?_, ?_, ?_⟩ <;> omega

theorem Spent.rehash : cache.rehash.Spent (uses + 1) where
  counts := ⟨Nat.le_succ_of_le spent.counts.lookups, spent.counts.collided,
    Nat.succ_le_succ spent.counts.rehashes⟩
  pressed := Nat.zero_le _

/-- A miss counts itself and at most one collision, which adds to the pressure as well. -/
theorem Spent.missed (token : Token) : (cache.missed token).Spent (uses + 1) := by
  have single : (if (cache.resident token).isVacant then 0 else 1) ≤ 1 := by split <;> decide
  exact ⟨⟨Nat.succ_le_succ spent.counts.lookups, Nat.add_le_add spent.counts.collided single,
    Nat.le_succ_of_le spent.counts.rehashes⟩, Nat.add_le_add_right spent.pressed _⟩

theorem Spent.lookup (token : Token) : (cache.lookup token).cache.Spent (uses + 1) := by
  by_cases present : (cache.resident token).token = token
  · rw [lookup_hit cache token present]
    refine ⟨⟨?_, spent.counts.collided, Nat.le_succ_of_le spent.counts.rehashes⟩, spent.pressed⟩
    rw [countHit, Nat.add_right_comm]
    exact Nat.succ_le_succ spent.counts.lookups
  · have missed := spent.missed token
    have readied : (cache.readied token).Spent (uses + 1) := by
      unfold Cache.readied
      split
      next =>
        -- The rehash is counted along with the miss that sets it off.
        exact ⟨⟨missed.counts.lookups, missed.counts.collided,
          Nat.succ_le_succ spent.counts.rehashes⟩, Nat.zero_le _⟩
      next => exact missed
    rw [lookup_miss_cache cache token present]
    exact ⟨readied.counts, readied.pressed⟩

theorem Spent.report (token : Token) (record : Record) :
    (cache.report token record).state.Spent uses := by
  rcases cache.report_cases token record with ⟨_, -, report⟩ | ⟨_, -, report⟩
  · rw [report]
    exact spent
  · rw [report]
    exact ⟨spent.counts, spent.pressed⟩

theorem Spent.perform (request : Request) : (cache.perform request).state.Spent (uses + 1) := by
  cases request with
  | lookup token => exact spent.lookup token
  | settle token record => exact (spent.report token record).mono _ (Nat.le_succ uses)
  | peek token => exact spent.mono _ (Nat.le_succ uses)
  | rehash => exact spent.rehash

end Spent

section Run
variable (hint : Nat) (config : Config) (backing : Backing) (requests : List Request)

theorem spent_run : ((fresh hint config backing).run requests).Spent requests.length := by
  have unused : (fresh hint config backing).Spent 0 := ⟨CacheCounts.spent_zero 0, Nat.le_refl 0⟩
  refine Step.run_follows (fun done cache => cache.Spent done.length) perform _ requests unused
    fun done request cache spent => ?_
  rw [List.length_append]
  exact spent.perform request

/-- A request adds at most one token. -/
theorem size_perform_le (cache : Cache) (request : Request) :
    (cache.perform request).state.size ≤ cache.size + 1 := by
  cases request with
  | lookup token =>
    change (cache.lookup token).cache.store.size ≤ _
    by_cases present : (cache.resident token).token = token
    · rw [lookup_hit cache token present]
      exact Nat.le_succ _
    · rw [lookup_miss_cache cache token present, store_occupy, store_readied]
      exact cache.store.size_fetch_le token
  | settle token record =>
    change (cache.report token record).state.store.size ≤ _
    rcases cache.report_cases token record with ⟨_, -, report⟩ | ⟨store, accepted, report⟩
    · rw [report]
      exact Nat.le_succ _
    · rw [report, store_occupy]
      exact cache.store.size_settle_le store token record accepted
  | peek token => exact Nat.le_succ _
  | rehash => exact Nat.le_succ _

theorem size_run_le : ((fresh hint config backing).run requests).size ≤ requests.length := by
  have empty : (fresh hint config backing).size ≤ 0 := Nat.le_refl 0
  refine Step.run_follows (fun done cache => cache.size ≤ done.length) perform _ requests empty
    fun done request cache before => ?_
  rw [List.length_append]
  exact Nat.le_trans (cache.size_perform_le request) (Nat.succ_le_succ before)

/-- In fewer requests than a word can count, no counter of a cache leaves the range. -/
theorem inRange_run (few : requests.length < Word.limit64) :
    ((fresh hint config backing).run requests).InRange :=
  (spent_run hint config backing requests).inRange few

/-- Nor does one on the way, where a miss is counted and it is judged whether the cache is
crowded. -/
theorem inRange_missed_run (few : requests.length + 1 < Word.limit64) (token : Token) :
    (((fresh hint config backing).run requests).missed token).InRange :=
  ((spent_run hint config backing requests).missed token).inRange few

/-- So a cache is judged as it would be with a product that stops at the largest word. -/
theorem isCrowded_missed_run (few : requests.length + 1 < Word.limit64) (token : Token) :
    let missed := ((fresh hint config backing).run requests).missed token
    missed.isCrowded = (0 < missed.config.rehashThreshold
      && missed.exhaustedAt != some missed.size
      && min (missed.config.rehashThreshold * missed.slotCount) (Word.limit64 - 1)
        < missed.pressure) :=
  isCrowded_eq_saturating _ (inRange_missed_run hint config backing requests few token).pressure

/-- Up to `2 ^ 62` requests a rehash finds a number of tokens for which no size overflows. -/
theorem checkedBitsFor_size_run (ordered : config.minBits ≤ config.maxBits)
    (few : requests.length ≤ slotsOf 62) :
    config.checkedBitsFor ((fresh hint config backing).run requests).size =
      .ok (config.bitsFor ((fresh hint config backing).run requests).size) :=
  config.checkedBitsFor_of_le ordered _
    (Nat.le_trans (size_run_le hint config backing requests) few)

end Run

end Cache

/-- The cache of a memory, if there is one yet, has counted no more than these uses can. -/
def Memory.Spent (uses : Nat) (memory : Memory) : Prop :=
  ∀ cache, memory.cache = some cache → cache.Spent uses

namespace Memory

variable {uses : Nat} {memory : Memory} (spent : memory.Spent uses)
include spent

theorem Spent.mono (more : Nat) (le : uses ≤ more) : memory.Spent more :=
  fun cache held => (spent cache held).mono more le

theorem Spent.cacheCounts : memory.cacheCounts.Spent uses := by
  unfold Memory.cacheCounts
  split
  next cache held => exact (spent cache held).counts
  next => exact CacheCounts.spent_zero uses

theorem Spent.onCache {α : Type} (more : Nat) (le : uses ≤ more)
    (use : Cache → Step Fault Cache α)
    (step : ∀ cache : Cache, cache.Spent uses → (use cache).state.Spent more) :
    (memory.onCache use).state.Spent more := by
  unfold Memory.onCache
  split
  next cache held =>
    rintro _ ⟨⟩
    exact step cache (spent cache held)
  next =>
    split
    next => exact spent.mono more le
    next =>
      split
      next => exact spent.mono more le
      next cache sized =>
        rintro _ ⟨⟩
        exact step cache (Cache.spent_sized _ _ _ sized)

theorem Spent.choose (token : Token) : (memory.choose token).state.Spent (uses + 1) := by
  unfold Memory.choose
  split
  next => exact spent.onCache _ (Nat.le_succ uses) _ fun cache before => before.lookup token
  next => exact spent.mono _ (Nat.le_succ uses)

theorem Spent.report (token : Token) (record : Record) :
    (memory.report token record).state.Spent uses := by
  unfold Memory.report
  split
  next => exact spent.onCache _ (Nat.le_refl uses) _ fun cache before => before.report token record
  next => exact spent

theorem Spent.reportBehind (token : Token) (after : Nat) (record : Record) :
    (memory.reportBehind token after record).Spent uses := by
  intro cache held
  rw [cache_reportBehind] at held
  exact spent cache held

end Memory

variable {τ : Type}

def Strategy.Spent (uses : Nat) : Strategy τ → Prop
  | openWorld memory => memory.Spent uses
  | closedWorld _ => True

namespace Strategy

variable {uses : Nat} {strategy : Strategy τ} (spent : strategy.Spent uses)
include spent

theorem Spent.cacheCounts : strategy.cacheCounts.Spent uses := by
  cases strategy with
  | openWorld memory => exact Memory.Spent.cacheCounts spent
  | closedWorld table => exact CacheCounts.spent_zero uses

theorem Spent.mono (more : Nat) (le : uses ≤ more) : strategy.Spent more := by
  cases strategy with
  | openWorld memory => exact Memory.Spent.mono spent more le
  | closedWorld table => trivial

theorem Spent.report (value : Value τ) (record : Record) :
    (strategy.report value record).state.Spent uses := by
  cases strategy with
  | openWorld memory => exact Memory.Spent.report spent value.token record
  | closedWorld table => trivial

theorem Spent.reportBehind (value : Value τ) (after : Nat) (record : Record) :
    (strategy.reportBehind value after record).Spent uses := by
  cases strategy with
  | openWorld memory => exact Memory.Spent.reportBehind spent value.token after record
  | closedWorld table => trivial

variable [DecidableEq τ]

theorem Spent.choose (value : Value τ) : (strategy.choose value).state.Spent (uses + 1) := by
  cases strategy with
  | openWorld memory => exact Memory.Spent.choose spent value.token
  | closedWorld table => trivial

end Strategy

namespace Probe

theorem attempts_run_le [DecidableEq τ] (value : Value τ) (position : Nat)
    (candidates : List (Candidate τ)) :
    (run value position candidates).attempts ≤ candidates.length := by
  induction candidates generalizing position with
  | nil => exact Nat.le_refl 0
  | cons candidate rest ih =>
    unfold run
    split
    next => exact Nat.succ_le_succ (Nat.zero_le _)
    next => exact Nat.succ_le_succ (ih (position + 1))

end Probe

theorem attempts_probe_le [DecidableEq τ] (candidates : List (Candidate τ)) (value : Value τ)
    (after : Nat) : (probe candidates value after).attempts ≤ candidates.length := by
  unfold probe
  split
  next => exact Nat.zero_le _
  next =>
    have asked := Probe.attempts_run_le value after (candidates.drop after)
    rw [List.length_drop] at asked
    exact Nat.le_trans asked (Nat.sub_le ..)

/-- What a site with so many candidates can have counted in so many calls. -/
structure Tally.Spent (width calls : Nat) (tally : Tally) : Prop where
  resolves : tally.resolves ≤ calls
  outcomes : tally.outcomes ≤ calls
  continuations : tally.continuations ≤ calls
  tagDispatches : tally.tagDispatches ≤ calls
  probes : tally.probes ≤ calls * width

theorem Tally.Spent.mono {width calls : Nat} {tally : Tally} (spent : tally.Spent width calls)
    (more : Nat) (le : calls ≤ more) : tally.Spent width more where
  resolves := Nat.le_trans spent.resolves le
  outcomes := Nat.le_trans spent.outcomes le
  continuations := Nat.le_trans spent.continuations le
  tagDispatches := Nat.le_trans spent.tagDispatches le
  probes := Nat.le_trans spent.probes (Nat.mul_le_mul_right width le)

namespace Site

section Counting
variable {width calls : Nat} {site : Site τ} (spent : site.tally.Spent width calls) (after : Nat)
include spent

theorem spent_countCall : (site.countCall after).tally.Spent width (calls + 1) := by
  have tagged := site.tagDispatches_countCall after
  have single :
      (if after = unresolvedCase ∧ site.strategy.kind = .closedWorld then 1 else 0) ≤ 1 := by
    split <;> decide
  have counted : (site.countCall after).tally.resolves ≤ site.tally.resolves + 1 ∧
      (site.countCall after).tally.continuations ≤ site.tally.continuations + 1 := by
    unfold countCall
    split
    next => exact ⟨Nat.le_refl _, Nat.le_succ _⟩
    next => exact ⟨Nat.le_succ _, Nat.le_refl _⟩
  refine ⟨?_, ?_, ?_, ?_, ?_⟩
  · exact Nat.le_trans counted.1 (Nat.succ_le_succ spent.resolves)
  · rw [outcomes_countCall]
    exact Nat.le_succ_of_le spent.outcomes
  · exact Nat.le_trans counted.2 (Nat.succ_le_succ spent.continuations)
  · exact tagged.trans_le (Nat.add_le_add spent.tagDispatches single)
  · rw [probes_countCall, Nat.succ_mul]
    exact Nat.le_add_right_of_le spent.probes

theorem spent_countFound (found : Probe τ) (within : found.attempts ≤ width) :
    ((site.countCall after).countFound after found).tally.Spent width (calls + 1) := by
  have counted := spent_countCall spent after
  have single : (if after = unresolvedCase then 1 else 0) ≤ 1 := by split <;> decide
  have kept : ((site.countCall after).countFound after found).tally.resolves =
      (site.countCall after).tally.resolves ∧
      ((site.countCall after).countFound after found).tally.continuations =
        (site.countCall after).tally.continuations := by
    unfold countFound countOutcome
    split
    next => split <;> exact ⟨rfl, rfl⟩
    next => exact ⟨rfl, rfl⟩
  refine ⟨?_, ?_, ?_, ?_, ?_⟩
  · exact kept.1.trans_le counted.resolves
  · rw [outcomes_countFound, outcomes_countCall]
    exact Nat.add_le_add spent.outcomes single
  · exact kept.2.trans_le counted.continuations
  · rw [tagDispatches_countFound]
    exact counted.tagDispatches
  · rw [probes_countFound, probes_countCall, Nat.succ_mul]
    exact Nat.add_le_add spent.probes within

end Counting

/-- The candidates stay, and neither the site nor what it remembers has counted more than so many
calls can. -/
structure Spent (candidates : List (Candidate τ)) (calls : Nat) (site : Site τ) : Prop where
  among : site.candidates = candidates
  tally : site.tally.Spent candidates.length calls
  strategy : site.strategy.Spent calls

variable [DecidableEq τ] {candidates : List (Candidate τ)} {calls : Nat} {site : Site τ}

theorem Spent.resolve (spent : site.Spent candidates calls) (value : Value τ) :
    (site.resolve value).state.Spent candidates (calls + 1) := by
  obtain ⟨rfl, tally, strategy⟩ := spent
  have counted := spent_countCall tally unresolvedCase
  have found := spent_countFound tally unresolvedCase _
    (attempts_probe_le site.candidates value unresolvedCase)
  rw [countCall, if_pos rfl] at counted
  rw [countFound, countCall, if_pos rfl, if_pos rfl] at found
  unfold Site.resolve
  dsimp only
  split
  next => exact ⟨rfl, counted, strategy.choose value⟩
  next => exact ⟨rfl, counted, strategy.choose value⟩
  next => exact ⟨rfl, found, (strategy.choose value).report value _⟩

theorem Spent.answer (spent : site.Spent candidates calls) (call : Call τ) :
    (site.answer call).state.Spent candidates (calls + 1) := by
  rw [site.answer_eq]
  by_cases start : call.after = unresolvedCase
  · rw [start, site.resolveBehind_start]
    exact spent.resolve call.value
  obtain ⟨rfl, tally, strategy⟩ := spent
  have later := strategy.mono _ (Nat.le_succ calls)
  by_cases outside : call.after = noMatchCase ∨ site.candidates.length ≤ call.after
  · rw [site.resolveBehind_outside call.value call.after start outside]
    exact ⟨rfl, tally.mono _ (Nat.le_succ calls), later⟩
  have counted := spent_countCall tally call.after
  have found := spent_countFound tally call.after _
    (attempts_probe_le site.candidates call.value call.after)
  rw [countCall, if_neg start] at counted
  rw [countFound, countCall, if_neg start, if_neg start] at found
  rcases chosen : site.strategy.chooseBehind call.value call.after with ⟨known, events⟩
  cases known with
  | some record =>
    rw [site.resolveBehind_chosen call.value call.after record events start outside chosen]
    exact ⟨rfl, counted, later⟩
  | none =>
    rw [site.resolveBehind_probed call.value call.after events start outside chosen]
    exact ⟨rfl, found, later.reportBehind call.value call.after _⟩

theorem spent_run (spent : site.Spent candidates 0) (calls : List (Call τ)) :
    (site.run calls).Spent candidates calls.length := by
  refine Step.run_follows (fun done state => state.Spent candidates done.length) answer site calls
    spent fun done call state before => ?_
  rw [List.length_append]
  exact before.answer call

end Site

theorem SitePlan.spent_build [DecidableEq τ] (plan : SitePlan τ) (site : Site τ) (created : Event)
    (built : plan.build = .ok (site, created)) : site.Spent plan.candidates 0 := by
  have unused : Tally.Spent plan.candidates.length 0 {} :=
    ⟨Nat.le_refl 0, Nat.le_refl 0, Nat.le_refl 0, Nat.le_refl 0, Nat.zero_le _⟩
  obtain ⟨-, -, ⟨-, rfl⟩ | ⟨kinds, -, rfl⟩⟩ := plan.build_cases site created built
  · refine ⟨rfl, unused, fun cache held => ?_⟩
    cases held
  · exact ⟨rfl, unused, trivial⟩

/-- In fewer calls than words can count, each with a probe of all candidates, no counter of a site
leaves the range. -/
theorem counts_fit [DecidableEq τ] (plan : SitePlan τ) (site : Site τ) (created : Event)
    (built : plan.build = .ok (site, created)) (calls : List (Call τ))
    (few : calls.length * max 1 plan.candidates.length < Word.limit64) :
    (site.run calls).counts.Fits := by
  obtain ⟨-, ⟨resolves, outcomes, continuations, tagged, probes⟩, strategy⟩ :=
    Site.spent_run (plan.spent_build site created built) calls
  obtain ⟨lookups, collided, rehashes⟩ := strategy.cacheCounts
  unfold Tally.outcomes at outcomes
  have calls_le : calls.length ≤ calls.length * max 1 plan.candidates.length :=
    Nat.le_mul_of_pos_right _ (Nat.le_max_left ..)
  have probes_le : calls.length * plan.candidates.length ≤
      calls.length * max 1 plan.candidates.length :=
    Nat.mul_le_mul_left _ (Nat.le_max_right ..)
  simp only [SiteCounts.Fits, SiteCounts.counters, Site.counts, List.forall_mem_cons]
  refine ⟨?_, ?_, ?_, ?_, ?_, ?_, ?_, ?_, ?_, ?_, List.forall_mem_nil _⟩ <;> omega

end Typecase
