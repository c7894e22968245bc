import Typecase.Proofs.Calls
import Typecase.Proofs.Recall

/-! A call asks about a topic: the type of its value and the case behind which to look. A memory
keeps the first answer for a type in its cache and the answers behind a case beside it. Seen
from outside these are notes on topics, of which a call reads or writes one. -/

namespace Typecase

variable {τ : Type}

structure Topic where
  token : Token
  after : Nat
  deriving DecidableEq

/-- Whether a site of so many candidates asks any of them behind the case. Behind case zero it
always goes ahead, even if there are none. -/
def Asked (count after : Nat) : Prop := after = unresolvedCase ∨ after < count

instance (count after : Nat) : Decidable (Asked count after) :=
  inferInstanceAs (Decidable (after = unresolvedCase ∨ after < count))

theorem unasked_iff (count after : Nat) :
    ¬Asked count after ↔ after ≠ unresolvedCase ∧ count ≤ after := by
  unfold Asked
  omega

theorem asked_iff (count after : Nat) (few : count ≤ maxCases)
    (started : after ≠ unresolvedCase) :
    Asked count after ↔ ¬(after = noMatchCase ∨ count ≤ after) := by
  unfold maxCases noMatchCase at few
  unfold Asked noMatchCase
  omega

namespace Call

def topic (call : Call τ) : Topic := ⟨call.value.token, call.after⟩

def found [DecidableEq τ] (candidates : List (Candidate τ)) (call : Call τ) : Probe τ :=
  probe candidates call.value call.after

theorem found_unasked [DecidableEq τ] (candidates : List (Candidate τ)) (call : Call τ)
    (unasked : ¬Asked candidates.length call.after) : call.found candidates = .noMatch :=
  probe_outside candidates call.value call.after
    (Or.inr ((unasked_iff _ _).1 unasked).2)

end Call

namespace Memory

/-- The record that is kept on a topic. -/
def noted (memory : Memory) (topic : Topic) : Option Record :=
  if topic.after = unresolvedCase then memory.ledger topic.token
  else memory.continuation? topic.token topic.after

/-- The memory once it was asked about a topic. -/
def recalled (memory : Memory) (topic : Topic) : Memory :=
  if topic.after = unresolvedCase then memory.consulted topic.token else memory

/-- The memory once it was told the record of a topic. -/
def learned (memory : Memory) (topic : Topic) (record : Record) : Memory :=
  if topic.after = unresolvedCase then
    (memory.consulted topic.token).informed topic.token record
  else memory.reportBehind topic.token topic.after record

section Notes
variable (memory : Memory) (sound : memory.Sound) (topic : Topic) (record : Record)
include sound

theorem sound_recalled : (memory.recalled topic).Sound := by
  unfold recalled
  split
  next => exact memory.sound_consulted sound topic.token
  next => exact sound

theorem sound_learned : (memory.learned topic record).Sound := by
  unfold learned
  split
  next => exact sound_informed _ (memory.sound_consulted sound topic.token) _ _
  next => exact memory.sound_reportBehind sound _ _ _

theorem noted_recalled : (memory.recalled topic).noted = memory.noted := by
  unfold recalled
  split
  next =>
    funext other
    simp only [noted, memory.ledger_consulted sound]
    rfl
  next => rfl

/-- A new note changes no other. -/
theorem noted_learned (enabled : memory.config.enabled = true)
    (telling : record.isUnresolved = false) (fresh : memory.noted topic = none) :
    (memory.learned topic record).noted = Function.update memory.noted topic (some record) := by
  obtain ⟨own, behind⟩ := topic
  funext ⟨token, after⟩
  by_cases start : behind = unresolvedCase
  · subst start
    have settled : ((memory.consulted own).informed own record).ledger =
        Function.update memory.ledger own (some record) := by
      rw [ledger_informed _ (memory.sound_consulted sound own), memory.ledger_consulted sound]
      exact Ledger.settle_of_unknown _ _ _ telling fresh
    have learned : memory.learned ⟨own, unresolvedCase⟩ record =
        (memory.consulted own).informed own record := rfl
    rw [learned, Function.update_apply]
    by_cases first : after = unresolvedCase
    · subst first
      simp only [noted, ↓reduceIte, settled, Function.update_apply, Topic.mk.injEq, and_true]
    · have other : (⟨token, after⟩ : Topic) ≠ ⟨own, unresolvedCase⟩ := by simp [first]
      rw [if_neg other]
      simp only [noted, if_neg first]
      rfl
  · have absent : memory.continuation? own behind = none := by
      simpa only [noted, if_neg start] using fresh
    have learned : memory.learned ⟨own, behind⟩ record =
        memory.reportBehind own behind record := if_neg start
    rw [learned, Function.update_apply]
    by_cases first : after = unresolvedCase
    · have other : (⟨token, after⟩ : Topic) ≠ ⟨own, behind⟩ := by
        simp [first, Ne.symm start]
      rw [if_neg other]
      simp only [noted, if_pos first, memory.ledger_reportBehind]
    · simp only [noted, if_neg first, memory.continuation?_reportBehind enabled, absent,
        Option.getD_none, Topic.mk.injEq]

end Notes

theorem config_recalled (memory : Memory) (topic : Topic) :
    (memory.recalled topic).config = memory.config := by
  unfold recalled
  split <;> rfl

theorem config_learned (memory : Memory) (topic : Topic) (record : Record) :
    (memory.learned topic record).config = memory.config := by
  unfold learned reportBehind
  split
  next => rfl
  next => split <;> rfl

/-- Only the first answer for a type is looked up in the slot cache. -/
theorem lookups_recalled (memory : Memory) (topic : Topic) :
    (memory.recalled topic).cacheCounts.lookups =
      memory.cacheCounts.lookups + if topic.after = unresolvedCase then 1 else 0 := by
  unfold recalled
  split
  next => exact memory.lookups_consulted topic.token
  next => rfl

theorem lookups_learned (memory : Memory) (topic : Topic) (record : Record) :
    (memory.learned topic record).cacheCounts.lookups =
      memory.cacheCounts.lookups + if topic.after = unresolvedCase then 1 else 0 := by
  unfold learned
  split
  next =>
    rw [cacheCounts_informed]
    exact memory.lookups_consulted topic.token
  next =>
    unfold reportBehind
    split <;> rfl

end Memory

end Typecase
