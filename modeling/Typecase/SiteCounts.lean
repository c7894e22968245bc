import Typecase.Failure
import Typecase.Cache
import Typecase.Word

/-! The counters of a site and their sum over several sites. A sum that leaves the 64-bit range is
a fault. A site by itself only adds to its counters, and none of them leaves that range in a run
whose calls, times the candidates that each may ask, are fewer than a word can count. -/

namespace Typecase

/-- What a site counts itself. -/
structure Tally where
  resolves : Nat := 0
  /-- Candidates asked in all probes. -/
  probes : Nat := 0
  firstResolutions : Nat := 0
  noMatches : Nat := 0
  continuations : Nat := 0
  /-- Resolutions answered by the kind of the value. -/
  tagDispatches : Nat := 0
  deriving DecidableEq

/-- The counters of a site together with those of its slot cache. -/
structure SiteCounts extends Tally, CacheCounts where
  deriving DecidableEq

namespace SiteCounts

def zero : SiteCounts := {}

def counters (counts : SiteCounts) : List Nat :=
  [counts.resolves, counts.hits, counts.misses, counts.collisions, counts.rehashes,
    counts.probes, counts.firstResolutions, counts.noMatches, counts.continuations,
    counts.tagDispatches]

/-- Reads the counters back in the order in which `counters` lists them. -/
def ofCounters? : List Nat → Option SiteCounts
  | [resolves, hits, misses, collisions, rehashes, probes, firstResolutions, noMatches,
      continuations, tagDispatches] =>
    some ⟨⟨resolves, probes, firstResolutions, noMatches, continuations, tagDispatches⟩,
      ⟨hits, misses, collisions, rehashes⟩⟩
  | _ => none

theorem ofCounters?_counters (counts : SiteCounts) :
    ofCounters? counts.counters = some counts := rfl

instance : Add SiteCounts where
  add left right := {
    resolves := left.resolves + right.resolves
    hits := left.hits + right.hits
    misses := left.misses + right.misses
    collisions := left.collisions + right.collisions
    rehashes := left.rehashes + right.rehashes
    probes := left.probes + right.probes
    firstResolutions := left.firstResolutions + right.firstResolutions
    noMatches := left.noMatches + right.noMatches
    continuations := left.continuations + right.continuations
    tagDispatches := left.tagDispatches + right.tagDispatches }

def Fits (counts : SiteCounts) : Prop := ∀ counter ∈ counts.counters, counter < Word.limit64

instance (counts : SiteCounts) : Decidable counts.Fits :=
  inferInstanceAs (Decidable (∀ counter ∈ counts.counters, counter < Word.limit64))

/-- Adds the counters of another site. -/
def merge (total counts : SiteCounts) : Except Fault SiteCounts :=
  if (total + counts).Fits then .ok (total + counts) else .error .counterOverflow

/-- The sum over sites visited in the given order. -/
def total (sites : List SiteCounts) : Except Fault SiteCounts := sites.foldlM merge zero

end SiteCounts

end Typecase
