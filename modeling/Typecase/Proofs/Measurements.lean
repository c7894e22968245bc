import Mathlib.Data.List.Induction
import Typecase.Bench.Results
import Typecase.Proofs.Pieces

/-! What the benchmark prints as a table. A line that cannot be read is an error wherever it stands
and whatever it measures. Otherwise the table holds, for each case and strategy, what the last line
says that measures them at the scale; and other lines may stand anywhere. -/

namespace Typecase.Bench

namespace Results

end Results

variable (read : Reader) (scale : Nat)

/-- The line measures a case with a strategy at the scale. -/
def Measures (caseName strategy : String) (duration : Milliseconds) (line : List Char) : Prop :=
  read line = .ok ⟨caseName, strategy, scale, duration⟩

/-- The last of the lines that measure a case with a strategy says this duration. -/
def LastMeasures (lines : List (List Char)) (caseName strategy : String)
    (duration : Milliseconds) : Prop :=
  ∃ before line after, lines = before ++ line :: after ∧
    Measures read scale caseName strategy duration line ∧
    ∀ later ∈ after, ∀ other, ¬Measures read scale caseName strategy other later

/-- The table holds what the lines say last about the scale. -/
structure Results.Collects (results : Results) (lines : List (List Char)) : Prop where
  durations : ∀ caseName strategy duration,
    results.get? caseName strategy = some duration ↔
      LastMeasures read scale lines caseName strategy duration
  cases : ∀ caseName, caseName ∈ results ↔
    ∃ line ∈ lines, ∃ strategy duration, Measures read scale caseName strategy duration line

namespace Results

theorem Collects.isEmpty_iff {results : Results} {lines : List (List Char)}
    (collects : results.Collects read scale lines) :
    results.isEmpty = true ↔ ∀ line ∈ lines, ∀ caseName strategy duration,
      ¬Measures read scale caseName strategy duration line := by
  rw [Std.TreeMap.isEmpty_iff_forall_not_mem]
  simp only [collects.cases]
  constructor
  · intro absent line member caseName strategy duration measures
    exact absent caseName ⟨line, member, strategy, duration, measures⟩
  · rintro absent caseName ⟨line, member, strategy, duration, measures⟩
    exact absent line member caseName strategy duration measures

end Results

section Collected
variable (text : List Char)

end Collected

end Typecase.Bench
