import Std.Data.TreeMap
import Typecase.Bench.Milliseconds
import Typecase.Text.Blank

/-! What the benchmark prints, collected by case and strategy. A measurement stands on a
line of its own as a JSON object, for which a reader is given; all other lines are talk. When a
pair of case and strategy is measured again, the last measurement counts. -/

namespace Typecase.Bench

structure Measurement where
  caseName : String
  strategy : String
  scale : Nat
  duration : Milliseconds

/-- Durations by strategy. -/
abbrev Durations := Std.TreeMap String Milliseconds

/-- Durations by case and strategy. -/
abbrev Results := Std.TreeMap String Durations

def Results.add (results : Results) (measurement : Measurement) : Results :=
  results.insert measurement.caseName
    ((results.getD measurement.caseName ∅).insert measurement.strategy measurement.duration)

def Results.get? (results : Results) (caseName strategy : String) : Option Milliseconds :=
  (results[caseName]?).bind (·[strategy]?)

inductive ResultsError where
  /-- A line that opens like a measurement is none. The reader may say why. -/
  | badLine (line : List Char) (reason : Option String)
  | noResults (scale : Nat)

def ResultsError.message : ResultsError → String
  | badLine line (some reason) => s!"Bad JSON in perf output: {reason}: {String.ofList line}"
  | badLine _ none => "Bad JSON in perf output"
  | noResults scale => s!"perf_dispatch printed no results at scale {scale}"

/-- The lines that open like an object, freed of blanks at their ends. -/
def measurementLines (text : List Char) : List (List Char) :=
  ((text.splitOn '\n').map Text.trim).filter (·.head? = some '\x7b')

/-- What reads a line as a measurement, or fails with a reason if it has one. -/
abbrev Reader := List Char → Except (Option String) Measurement

/-- Adds the measurement of a line if it belongs to the scale. -/
def Results.note (read : Reader) (scale : Nat) (results : Results) (line : List Char) :
    Except ResultsError Results :=
  match read line with
  | .error reason => .error (.badLine line reason)
  | .ok measurement =>
    .ok (if measurement.scale = scale then results.add measurement else results)

/-- Collects the measurements of one scale. Any bad line is an error, whatever its scale. -/
def collectWith (read : Reader) (scale : Nat) (text : List Char) :
    Except ResultsError Results := do
  let results ← (measurementLines text).foldlM (Results.note read scale) ∅
  if results.isEmpty then .error (.noResults scale) else .ok results

end Typecase.Bench
