import Typecase.Proofs.Accounts
import Typecase.Proofs.FirstMatch
import Typecase.Proofs.Sides

/-! What the log of an open site says about its counters. Each stage of a call logs what it counts:
the making of the cache, a missed slot, a rehash, the outcome of a probe. So the messages in the log
of a run can be counted instead of asking the site, and within a call they come in the order of its
stages. -/

namespace Typecase

namespace Event

/-- How often a message occurs in a log. -/
def occurrences (message : String) (events : List Event) : Nat :=
  (events.map Event.message).count message

theorem occurrences_append (message : String) (events later : List Event) :
    occurrences message (events ++ later) =
      occurrences message events + occurrences message later := by
  unfold occurrences
  rw [List.map_append, List.count_append]

/-- A miss that drove another token out of the slot. -/
def drivesOut : Event → Bool
  | slotMiss _ _ evicted => !evicted.isEmpty
  | _ => false

/-- If the event is the outcome of a probe, it names the type of the value and tells the record. -/
def Reports {τ : Type} (value : Value τ) (record : Record) : Event → Prop
  | caseResolved type case _ adjustment =>
    type = value.name ∧ record.isResolved = true ∧ record = ⟨case, adjustment⟩
  | noCandidate type _ => type = value.name ∧ record = .noMatch
  | _ => True

/-- An event that is no outcome has nothing to report. -/
theorem reports_early {τ : Type} (value : Value τ) (record : Record) (event : Event)
    (early : event.message ∈
      ["creating slot cache", "slot cache miss", "rehashing slot cache"]) :
    event.Reports value record := by
  cases event with
  | caseResolved type case candidate adjustment => exact absurd early (by simp [message])
  | noCandidate type candidates => exact absurd early (by simp [message])
  | _ => trivial

end Event

/-- A look-up counts what it logs, and it misses a slot before it rehashes. -/
structure Cache.LookupTold (cache : Cache) (found : Cache.Lookup) : Prop where
  misses : found.cache.counts.misses =
    cache.counts.misses + Event.occurrences "slot cache miss" found.events
  collisions : found.cache.counts.collisions =
    cache.counts.collisions + found.events.countP Event.drivesOut
  rehashes : found.cache.counts.rehashes =
    cache.counts.rehashes + Event.occurrences "rehashing slot cache" found.events
  order : (found.events.map Event.message).Sublist ["slot cache miss", "rehashing slot cache"]
  eviction : ∀ token slot evicted, .slotMiss token slot evicted ∈ found.events →
    found.cache.counts.collisions = cache.counts.collisions + if evicted.isEmpty then 0 else 1

theorem Cache.lookup_told (cache : Cache) (token : Token) :
    cache.LookupTold (cache.lookup token) := by
  by_cases present : (cache.resident token).token = token
  · rw [cache.lookup_hit token present]
    refine ⟨rfl, rfl, rfl, List.nil_sublist _, ?_⟩
    intro missed slot evicted absent
    cases absent
  have driven (slot : Nat) (later : List Event) (quiet : later.countP Event.drivesOut = 0) :
      (Event.slotMiss token slot (cache.resident token).token :: later).countP Event.drivesOut =
        if (cache.resident token).isVacant then 0 else 1 := by
    rw [List.countP_cons, quiet, Event.drivesOut, Entry.isVacant, Nat.zero_add]
    cases (cache.resident token).token.isEmpty <;> rfl
  rw [cache.lookup_miss token present]
  split
  next =>
    refine ⟨rfl, ?_, rfl, List.Sublist.refl _, ?_⟩
    · rw [driven _ _ rfl]
      rfl
    · intro missed slot evicted member
      rcases List.mem_cons.1 member with same | rehashed
      · cases same
        rfl
      · cases List.mem_singleton.1 rehashed
  next =>
    refine ⟨rfl, ?_, rfl, List.sublist_append_left ["slot cache miss"] _, ?_⟩
    · rw [driven _ _ rfl]
      rfl
    · intro missed slot evicted member
      cases List.mem_singleton.1 member
      rfl

theorem Memory.order_creation (memory : Memory) :
    (memory.creation.map Event.message).Sublist ["creating slot cache"] := by
  unfold creation
  split
  next => exact List.Sublist.refl _
  next => exact List.nil_sublist _

variable {τ : Type}

namespace Site

/-- How many slot caches a site has made. -/
def caches (site : Site τ) : Nat := if site.slotCache.isSome then 1 else 0

/-- The events account for the counters on the way from one site to another. -/
structure Tells (before after : Site τ) (events : List Event) : Prop where
  creations : after.caches = before.caches + Event.occurrences "creating slot cache" events
  misses : after.counts.misses =
    before.counts.misses + Event.occurrences "slot cache miss" events
  collisions : after.counts.collisions =
    before.counts.collisions + events.countP Event.drivesOut
  rehashes : after.counts.rehashes =
    before.counts.rehashes + Event.occurrences "rehashing slot cache" events
  firstResolutions : after.counts.firstResolutions =
    before.counts.firstResolutions + Event.occurrences "type switch case resolved" events
  noMatches : after.counts.noMatches =
    before.counts.noMatches + Event.occurrences "no candidate matches type" events

theorem Tells.append {first second third : Site τ} {events later : List Event}
    (before : Tells first second events) (after : Tells second third later) :
    Tells first third (events ++ later) := by
  refine ⟨?_, ?_, ?_, ?_, ?_, ?_⟩
  · rw [after.creations, before.creations, Event.occurrences_append, Nat.add_assoc]
  · rw [after.misses, before.misses, Event.occurrences_append, Nat.add_assoc]
  · rw [after.collisions, before.collisions, List.countP_append, Nat.add_assoc]
  · rw [after.rehashes, before.rehashes, Event.occurrences_append, Nat.add_assoc]
  · rw [after.firstResolutions, before.firstResolutions, Event.occurrences_append, Nat.add_assoc]
  · rw [after.noMatches, before.noMatches, Event.occurrences_append, Nat.add_assoc]

/-- Without events only what no event tells may change. -/
theorem tells_silence (site later : Site τ) (caches : later.caches = site.caches)
    (cacheCounts : later.strategy.cacheCounts = site.strategy.cacheCounts)
    (firstResolutions : later.tally.firstResolutions = site.tally.firstResolutions)
    (noMatches : later.tally.noMatches = site.tally.noMatches) : Tells site later [] :=
  ⟨caches, congrArg CacheCounts.misses cacheCounts, congrArg CacheCounts.collisions cacheCounts,
    congrArg CacheCounts.rehashes cacheCounts, firstResolutions, noMatches⟩

/-- The first use of the cache logs that it is made. -/
theorem tells_creation (site : Site τ) (memory : Memory)
    (opened : site.strategy = .openWorld memory) :
    Tells site { site with strategy := .openWorld (memory.withCache memory.ready) }
      memory.creation := by
  have counts : memory.ready.counts = site.strategy.cacheCounts := by
    rw [opened]
    exact memory.counts_ready
  unfold Memory.creation
  cases held : memory.cache with
  | some cache =>
    refine tells_silence _ _ ?_ counts rfl rfl
    simp only [caches, slotCache, opened, held]
    rfl
  | none =>
    refine ⟨?_, congrArg CacheCounts.misses counts, congrArg CacheCounts.collisions counts,
      congrArg CacheCounts.rehashes counts, rfl, rfl⟩
    simp only [caches, slotCache, opened, held]
    rfl

theorem tells_lookup (site later : Site τ) (memory : Memory) (cache : Cache) (token : Token)
    (opened : site.strategy = .openWorld (memory.withCache cache))
    (looked : later.strategy = .openWorld (memory.withCache (cache.lookup token).cache))
    (firstResolutions : later.tally.firstResolutions = site.tally.firstResolutions)
    (noMatches : later.tally.noMatches = site.tally.noMatches) :
    Tells site later (cache.lookup token).events := by
  have told := cache.lookup_told token
  have absent (message : String)
      (other : message ∉ ["slot cache miss", "rehashing slot cache"]) :
      Event.occurrences message (cache.lookup token).events = 0 :=
    List.count_eq_zero.2 fun member => other (told.order.subset member)
  have before : site.counts = { site.tally, cache.counts with } := by
    rw [Site.counts, opened]
    rfl
  have after : later.counts = { later.tally, (cache.lookup token).cache.counts with } := by
    rw [Site.counts, looked]
    rfl
  refine ⟨?_, ?_, ?_, ?_, ?_, ?_⟩
  · rw [absent _ (by decide), caches, caches, slotCache, slotCache, opened, looked]
    rfl
  · rw [before, after]
    exact told.misses
  · rw [before, after]
    exact told.collisions
  · rw [before, after]
    exact told.rehashes
  · rw [absent _ (by decide)]
    exact firstResolutions
  · rw [absent _ (by decide)]
    exact noMatches

/-- The event of an outcome tells which of the two counters it raised. -/
theorem tells_outcome (site later : Site τ) (value : Value τ) (attempts : Nat) (record : Record)
    (tally : later.tally = ((site.countProbe attempts).countOutcome record).tally)
    (caches : later.caches = site.caches)
    (cacheCounts : later.strategy.cacheCounts = site.strategy.cacheCounts) :
    Tells site later [site.outcomeEvent value record] := by
  have misses := congrArg CacheCounts.misses cacheCounts
  have collisions := congrArg CacheCounts.collisions cacheCounts
  have rehashes := congrArg CacheCounts.rehashes cacheCounts
  unfold countOutcome at tally
  unfold outcomeEvent
  split at tally
  next nowhere =>
    have firstResolutions := congrArg Tally.firstResolutions tally
    have noMatches := congrArg Tally.noMatches tally
    rw [if_pos nowhere]
    exact ⟨caches, misses, collisions, rehashes, firstResolutions, noMatches⟩
  next matched =>
    have firstResolutions := congrArg Tally.firstResolutions tally
    have noMatches := congrArg Tally.noMatches tally
    rw [if_neg matched]
    exact ⟨caches, misses, collisions, rehashes, firstResolutions, noMatches⟩

end Site

variable [DecidableEq τ]

/-- A probe finds a case or the record that says that there is none. -/
theorem probe_record_cases (candidates : List (Candidate τ)) (few : candidates.length ≤ maxCases)
    (value : Value τ) (after : Nat) :
    (probe candidates value after).record.isResolved = true ∨
      (probe candidates value after).record = .noMatch := by
  rcases probe_cases candidates value few after with ⟨position, view, first, found⟩ | ⟨-, found⟩
  · left
    have inside := first.matched.lt_length
    have unreserved : position + 1 ≠ noMatchCase := by
      unfold maxCases at few
      omega
    rw [found]
    simp [Record.isResolved, Record.isUnresolved, Record.isNoMatch, unresolvedCase, unreserved]
  · right
    rw [found]

namespace Site

/-- The outcome of a probe is logged as it is answered. -/
theorem reports_outcomeEvent (site : Site τ) (few : site.candidates.length ≤ maxCases)
    (value : Value τ) (after : Nat) :
    (site.outcomeEvent value (probe site.candidates value after).record).Reports value
      (probe site.candidates value after).record := by
  rcases probe_record_cases site.candidates few value after with matched | nowhere
  · have somewhere : ¬(probe site.candidates value after).record.isNoMatch = true := by
      rw [Record.isResolved, Bool.and_eq_true, Bool.not_eq_true'] at matched
      simpa using matched.2
    rw [outcomeEvent, if_neg somewhere]
    exact ⟨rfl, matched, rfl⟩
  · rw [nowhere]
    exact ⟨rfl, rfl⟩

section Open
variable (site : Site τ) (few : site.candidates.length ≤ maxCases) (memory : Memory)
  (opened : site.strategy = .openWorld memory) (call : Call τ)
include opened

/-- A call behind a case logs nothing, and changes no counter that an event would tell. -/
theorem tells_behind (started : call.after ≠ unresolvedCase) :
    (site.answer call).events = [] ∧ Tells site (site.answer call).state [] := by
  rw [answer_eq]
  by_cases outside : call.after = noMatchCase ∨ site.candidates.length ≤ call.after
  · rw [resolveBehind_outside site call.value call.after started outside]
    exact ⟨rfl, tells_silence _ _ rfl rfl rfl rfl⟩
  · cases chosen : memory.chooseBehind call.value.token call.after with
    | some record =>
      rw [resolveBehind_chosen site call.value call.after record [] started outside
        (by simp only [opened, Strategy.chooseBehind, chosen])]
      exact ⟨rfl, tells_silence _ _ rfl rfl rfl rfl⟩
    | none =>
      rw [resolveBehind_probed site call.value call.after [] started outside
        (by simp only [opened, Strategy.chooseBehind, chosen])]
      refine ⟨rfl, tells_silence _ _ ?_ ?_ rfl rfl⟩
      · simp only [caches, slotCache, opened, Strategy.reportBehind, Memory.cache_reportBehind]
      · simp only [opened, Strategy.reportBehind, Strategy.cacheCounts, Memory.cacheCounts,
          Memory.cache_reportBehind]

variable (sound : memory.Sound) (enabled : memory.config.enabled = true)
include sound enabled

/-- A resolution logs what the look-up logs, and behind that the outcome if there was no note. -/
theorem events_resolution (start : call.after = unresolvedCase) :
    (site.answer call).events =
      memory.creation ++ (memory.ready.lookup call.value.token).events ++
        if (memory.noted call.topic).isSome then []
        else [site.outcomeEvent call.value (call.found site.candidates).record] := by
  have noted : memory.noted call.topic = memory.ledger call.value.token := if_pos start
  have found : call.found site.candidates = probe site.candidates call.value unresolvedCase := by
    rw [Call.found, start]
  have chooses : site.strategy.choose call.value =
      ⟨.ok (memory.ledger call.value.token), .openWorld (memory.consulted call.value.token),
        memory.creation ++ (memory.ready.lookup call.value.token).events⟩ := by
    simp only [opened, Strategy.choose, memory.choose_enabled sound enabled, Step.embed]
  rw [answer_eq, start, resolveBehind_start, noted]
  cases known : memory.ledger call.value.token with
  | some record =>
    rw [known] at chooses
    rw [resolve_chosen site call.value record _ _ chooses]
    exact (List.append_nil _).symm
  | none =>
    rw [known] at chooses
    have reports := memory.report_unknown sound enabled call.value.token known
      (call.found site.candidates).record
    rw [found] at reports ⊢
    rw [events_resolve_probed site call.value _ _ _ _ chooses
      (by simp only [Strategy.report, reports, Step.embed]; rfl)]
    rfl

/-- A resolution logs in the order of its stages. -/
theorem order_resolution (start : call.after = unresolvedCase) :
    ∃ outcome ∈ ["type switch case resolved", "no candidate matches type"],
      ((site.answer call).events.map Event.message).Sublist
        ["creating slot cache", "slot cache miss", "rehashing slot cache", outcome] := by
  have early := memory.order_creation.append (memory.ready.lookup_told call.value.token).order
  rw [events_resolution site memory opened call sound enabled start, List.map_append,
    List.map_append]
  by_cases known : (memory.noted call.topic).isSome = true
  · rw [if_pos known]
    exact ⟨_, List.mem_cons_self .., early.append (List.nil_sublist [_])⟩
  · rw [if_neg known]
    refine ⟨(site.outcomeEvent call.value (call.found site.candidates).record).message, ?_,
      early.append (List.Sublist.refl [_])⟩
    unfold outcomeEvent
    split
    next => exact List.mem_cons_of_mem _ (List.mem_singleton_self _)
    next => exact List.mem_cons_self ..

include few

/-- The events of a resolution tell what it counts, and it leaves a cache behind. -/
theorem tells_resolution (start : call.after = unresolvedCase) :
    Tells site (site.answer call).state (site.answer call).events ∧
    (site.answer call).state.caches = 1 ∧
    (site.answer call).state.counts.collisions =
      (memory.ready.lookup call.value.token).cache.counts.collisions := by
  have first : call.topic.after = unresolvedCase := start
  have chosen := (tells_creation site memory opened).append
    (tells_lookup _ { site.countResolve with
      strategy := .openWorld (memory.consulted call.value.token) } memory memory.ready
      call.value.token rfl rfl rfl rfl)
  rw [events_resolution site memory opened call sound enabled start]
  cases known : memory.noted call.topic with
  | some record =>
    obtain ⟨-, state⟩ :=
      site.answer_noted few memory opened call (Or.inl start) sound enabled record known
    rw [state, Memory.recalled, if_pos first, countCall, if_pos start, Option.isSome_some,
      if_pos rfl, List.append_nil]
    exact ⟨chosen, rfl, rfl⟩
  | none =>
    obtain ⟨-, state⟩ :=
      site.answer_unnoted few memory opened call (Or.inl start) sound enabled known
    have informed := (memory.consulted call.value.token).cacheCounts_informed call.value.token
      (call.found site.candidates).record
    rw [state, Memory.learned, if_pos first, countCall, if_pos start, countFound, if_pos start,
      Option.isSome_none, if_neg Bool.false_ne_true]
    refine ⟨chosen.append ?_, rfl, congrArg CacheCounts.collisions informed⟩
    exact tells_outcome _ _ call.value (call.found site.candidates).attempts _ rfl rfl informed

end Open

section Answer
variable (site : Site τ) (few : site.candidates.length ≤ maxCases) (attentive : site.Attentive)
include few attentive

theorem tells_answer (call : Call τ) :
    Tells site (site.answer call).state (site.answer call).events := by
  obtain ⟨memory, opened, sound, enabled⟩ := attentive
  by_cases start : call.after = unresolvedCase
  · exact (tells_resolution site few memory opened call sound enabled start).1
  · obtain ⟨silent, tells⟩ := tells_behind site memory opened call start
    rw [silent]
    exact tells

theorem caches_answer (call : Call τ) :
    (site.answer call).state.caches = if call.after = unresolvedCase then 1 else site.caches := by
  obtain ⟨memory, opened, sound, enabled⟩ := attentive
  split
  next start => exact (tells_resolution site few memory opened call sound enabled start).2.1
  next started => exact (tells_behind site memory opened call started).2.creations

theorem attentive_answer (call : Call τ) :
    (site.answer call).state.Attentive ∧
    (site.answer call).state.candidates = site.candidates := by
  rcases site.answer_cases few attentive call with ⟨-, same⟩ | ⟨-, _, -, -, leaves⟩ |
    ⟨-, -, -, leaves⟩
  · rw [same]
    exact ⟨attentive, rfl⟩
  · exact ⟨leaves.attentive, leaves.among⟩
  · exact ⟨leaves.attentive, leaves.among⟩

end Answer

/-- All events of a run of calls. -/
def log (site : Site τ) (calls : List (Call τ)) : List Event := Step.log answer site calls

section Run
variable (site : Site τ) (few : site.candidates.length ≤ maxCases) (attentive : site.Attentive)
  (calls : List (Call τ))
include few attentive

theorem tells_run : Tells site (site.run calls) (site.log calls) := by
  induction calls generalizing site with
  | nil => exact tells_silence _ _ rfl rfl rfl rfl
  | cons call rest ih =>
    obtain ⟨later, among⟩ := site.attentive_answer few attentive call
    exact (site.tells_answer few attentive call).append (ih _ (among ▸ few) later)

/-- A run makes a cache if it asks for any first match, unless there is one already. -/
theorem caches_run :
    (site.run calls).caches = if Call.resolutions calls = [] then site.caches else 1 := by
  induction calls generalizing site with
  | nil => rfl
  | cons call rest ih =>
    obtain ⟨later, among⟩ := site.attentive_answer few attentive call
    change ((site.answer call).state.run rest).caches = _
    rw [ih _ (among ▸ few) later, site.caches_answer few attentive call, Call.resolutions,
      Call.resolutions]
    by_cases start : call.after = unresolvedCase
    · simp [start]
    · simp [start]

end Run

/-- How the events of a call that follows a run of others fit what the call does. -/
structure Narrated (site : Site τ) (done : List (Call τ)) (call : Call τ) : Prop where
  /-- The cache is made by the first call that asks for a first match. -/
  creation : Event.occurrences "creating slot cache" (site.answer call).events =
    if call.after = unresolvedCase ∧ Call.resolutions done = [] then 1 else 0
  order : ∃ outcome ∈ ["type switch case resolved", "no candidate matches type"],
    ((site.answer call).events.map Event.message).Sublist
      ["creating slot cache", "slot cache miss", "rehashing slot cache", outcome]
  outcome : ∃ dispatch, (site.answer call).result = .ok dispatch ∧
    ∀ event ∈ (site.answer call).events, event.Reports call.value dispatch.record
  eviction : ∀ token slot evicted, .slotMiss token slot evicted ∈ (site.answer call).events →
    (site.answer call).state.counts.collisions =
      site.counts.collisions + if evicted = .empty then 0 else 1
  silence : call.after ≠ unresolvedCase → (site.answer call).events = []

section Narrated
variable (site : Site τ) (few : site.candidates.length ≤ maxCases) (attentive : site.Attentive)
  (call : Call τ)
include attentive

/-- An event comes from an early stage, or it is the outcome on a topic without a note. -/
theorem mem_events_cases (event : Event) (logged : event ∈ (site.answer call).events) :
    event.message ∈ ["creating slot cache", "slot cache miss", "rehashing slot cache"] ∨
    (site.noted call.topic = none ∧
      event = site.outcomeEvent call.value (call.found site.candidates).record) := by
  obtain ⟨memory, opened, sound, enabled⟩ := attentive
  by_cases start : call.after = unresolvedCase
  case neg =>
    rw [(tells_behind site memory opened call start).1] at logged
    cases logged
  have noted : site.noted call.topic = memory.noted call.topic := by simp only [noted, opened]
  rw [events_resolution site memory opened call sound enabled start] at logged
  rcases List.mem_append.1 logged with early | late
  · left
    have message := List.mem_map_of_mem (f := Event.message) early
    rw [List.map_append] at message
    exact (memory.order_creation.append
      (memory.ready.lookup_told call.value.token).order).subset message
  · split at late
    next => cases late
    next unknown =>
      right
      rw [noted]
      exact ⟨by simpa using unknown, List.mem_singleton.1 late⟩

include few

theorem answer_reports : ∃ dispatch, (site.answer call).result = .ok dispatch ∧
    ∀ event ∈ (site.answer call).events, event.Reports call.value dispatch.record := by
  have cases := site.mem_events_cases attentive call
  rcases site.answer_cases few attentive call with ⟨-, same⟩ | ⟨-, record, known, answered, -⟩ |
    ⟨-, -, answered, -⟩
  · refine ⟨.noMatch, by rw [same], fun event logged => ?_⟩
    rw [same] at logged
    cases logged
  · refine ⟨_, answered, fun event logged => ?_⟩
    rcases cases event logged with early | ⟨unknown, -⟩
    · exact event.reports_early _ _ early
    · cases known.symm.trans unknown
  · refine ⟨_, answered, fun event logged => ?_⟩
    rcases cases event logged with early | ⟨-, rfl⟩
    · exact event.reports_early _ _ early
    · exact site.reports_outcomeEvent few call.value call.after

theorem answer_evicts (token : Token) (slot : Nat) (evicted : Token)
    (missed : .slotMiss token slot evicted ∈ (site.answer call).events) :
    (site.answer call).state.counts.collisions =
      site.counts.collisions + if evicted = .empty then 0 else 1 := by
  obtain ⟨memory, opened, sound, enabled⟩ := attentive
  by_cases start : call.after = unresolvedCase
  case neg =>
    rw [(tells_behind site memory opened call start).1] at missed
    cases missed
  have counts : site.counts.collisions = memory.ready.counts.collisions := by
    rw [memory.counts_ready, counts, opened]
    rfl
  have lookup : .slotMiss token slot evicted ∈
      (memory.ready.lookup call.value.token).events := by
    rw [events_resolution site memory opened call sound enabled start] at missed
    rcases List.mem_append.1 missed with early | late
    · rcases List.mem_append.1 early with created | looked
      · unfold Memory.creation at created
        split at created
        next => cases List.mem_singleton.1 created
        next => cases created
      · exact looked
    · split at late
      next => cases late
      next =>
        have same := List.mem_singleton.1 late
        unfold outcomeEvent at same
        split at same <;> cases same
  have told := (memory.ready.lookup_told call.value.token).eviction token slot evicted lookup
  rw [(tells_resolution site few memory opened call sound enabled start).2.2, told, counts]
  simp only [Token.isEmpty_iff]

theorem narrated_answer (done : List (Call τ))
    (made : site.caches = if Call.resolutions done = [] then 0 else 1) :
    Narrated site done call where
  creation := by
    have tells := (site.tells_answer few attentive call).creations
    rw [site.caches_answer few attentive call, made] at tells
    by_cases start : call.after = unresolvedCase
    · by_cases first : Call.resolutions done = []
      · simp only [start, first, if_true] at tells
        rw [if_pos ⟨start, first⟩]
        omega
      · simp only [start, first, if_true, if_false] at tells
        rw [if_neg fun both => first both.2]
        omega
    · simp only [start, if_false] at tells
      rw [if_neg fun both => start both.1]
      omega
  order := by
    obtain ⟨memory, opened, sound, enabled⟩ := attentive
    by_cases start : call.after = unresolvedCase
    · exact order_resolution site memory opened call sound enabled start
    · rw [(tells_behind site memory opened call start).1]
      exact ⟨_, List.mem_cons_self .., List.nil_sublist _⟩
  outcome := site.answer_reports few attentive call
  eviction := site.answer_evicts few attentive call
  silence started := by
    obtain ⟨memory, opened, -⟩ := attentive
    exact (tells_behind site memory opened call started).1

end Narrated

end Site

section Log
variable (plan : SitePlan τ) (site : Site τ) (created : Event)
  (built : plan.build = .ok (site, created)) (remembers : plan.Remembers) (calls : List (Call τ))
include built remembers

/-- After any run of calls the log holds as many events of each kind as the counters say, a call
logs in the order of its stages, and what it logs fits what it answers. -/
theorem log_tells_counters :
    Event.occurrences "creating slot cache" (site.log calls) =
      (if Call.resolutions calls = [] then 0 else 1) ∧
    Event.occurrences "slot cache miss" (site.log calls) = (site.run calls).counts.misses ∧
    (site.log calls).countP Event.drivesOut = (site.run calls).counts.collisions ∧
    Event.occurrences "rehashing slot cache" (site.log calls) = (site.run calls).counts.rehashes ∧
    Event.occurrences "type switch case resolved" (site.log calls) =
      (site.run calls).counts.firstResolutions ∧
    Event.occurrences "no candidate matches type" (site.log calls) =
      (site.run calls).counts.noMatches ∧
    ∀ call, (site.run calls).Narrated calls call := by
  have few := (plan.build_cases site created built).1
  have fresh := recalls_run plan site created built remembers []
  have last := recalls_run plan site created built remembers calls
  obtain ⟨uncached, uncounted⟩ : site.caches = 0 ∧ site.counts = .zero := by
    obtain ⟨-, -, ⟨-, rfl⟩ | ⟨_, -, rfl⟩⟩ := plan.build_cases site created built <;>
      exact ⟨rfl, rfl⟩
  have start : site.candidates.length ≤ maxCases := fresh.among ▸ few
  have caches := site.caches_run start fresh.attentive calls
  obtain ⟨creations, misses, collisions, rehashes, firstResolutions, noMatches⟩ :=
    site.tells_run start fresh.attentive calls
  rw [uncached, Nat.zero_add] at creations
  rw [uncounted] at misses collisions rehashes firstResolutions noMatches
  rw [uncached] at caches
  refine ⟨creations.symm.trans caches, ?_, ?_, ?_, ?_, ?_, fun call => ?_⟩
  · exact (misses.trans (Nat.zero_add _)).symm
  · exact (collisions.trans (Nat.zero_add _)).symm
  · exact (rehashes.trans (Nat.zero_add _)).symm
  · exact (firstResolutions.trans (Nat.zero_add _)).symm
  · exact (noMatches.trans (Nat.zero_add _)).symm
  · exact (site.run calls).narrated_answer (last.among ▸ few) last.attentive call calls caches

end Log

/-- Two types drive each other out of the only slot until the cache rehashes in vain. -/
theorem log_tells_counters_rehashed :
    let whole : Layout Nat := ⟨⟨16⟩, 0, "Whole", none, [⟨1, 8⟩]⟩
    let stranger : Layout Nat := ⟨⟨24⟩, 2, "Stranger", none, []⟩
    let plan : SitePlan Nat :=
      { SitePlan.ofCandidates [⟨1, "Part"⟩] with
        config := some { Config.default with minBits := 0, maxBits := 0, rehashThreshold := 1 } }
    let calls : List (Call Nat) := [.resolveBehind (whole.valueAt 64) 1,
      .resolve (whole.valueAt 64), .resolveBehind (stranger.valueAt 64) 0,
      .resolve (whole.valueAt 64), .resolve (whole.valueAt 64)]
    ∃ site created, plan.build = .ok (site, created) ∧ plan.Remembers ∧
      Event.occurrences "creating slot cache" (site.log calls) = 1 ∧
      Event.occurrences "slot cache miss" (site.log calls) = 3 ∧
      (site.log calls).countP Event.drivesOut = 2 ∧
      Event.occurrences "rehashing slot cache" (site.log calls) = 1 ∧
      Event.occurrences "type switch case resolved" (site.log calls) = 1 ∧
      Event.occurrences "no candidate matches type" (site.log calls) = 1 := by
  intro whole stranger plan calls
  have valid : plan.settings.Valid := ⟨by decide, by decide, by decide, by decide⟩
  have remembers : plan.Remembers :=
    ⟨rfl, rfl, (Cache.exists_create_iff _ _ _).2 ⟨valid, by cbv, by decide⟩⟩
  obtain ⟨created, built⟩ := build_open plan rfl (by decide) valid
  obtain ⟨creations, misses, collisions, rehashes, firstResolutions, noMatches, -⟩ :=
    log_tells_counters plan _ created built remembers calls
  refine ⟨_, created, built, remembers, ?_, ?_, ?_, ?_, ?_, ?_⟩
  · rw [creations]
    decide
  · rw [misses]
    decide +kernel
  · rw [collisions]
    decide +kernel
  · rw [rehashes]
    decide +kernel
  · rw [firstResolutions]
    decide +kernel
  · rw [noMatches]
    decide +kernel

end Typecase
