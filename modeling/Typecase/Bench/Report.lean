import Typecase.Bench.Results

/-! The table of one scale in the benchmark report. Two cases that everyone looks at come
first; the others follow in the order of their names. -/

namespace Typecase.Bench

/-- The strategies that compete, in the order in which a tie is decided. -/
def competitors : List String := ["open", "closed", "uncached"]

/-- The cases that stand at the top of a table. -/
def leadingCases : List String := ["mixed", "monomorphic"]

/-- The cases of a table in the order of its rows. -/
def rowOrder (results : Results) : List String :=
  leadingCases.filter results.contains
    ++ results.keys.filter fun caseName => !leadingCases.contains caseName

/-- The fastest of some strategies, the first of them on a tie. -/
def fastest : List (String × Milliseconds) → Option (String × Milliseconds)
  | [] => none
  | first :: rest =>
    match fastest rest with
    | some best => if best.2.rank < first.2.rank then some best else some first
    | none => some first

def winner (durations : Durations) : Option String :=
  (fastest (competitors.filterMap fun strategy =>
    durations[strategy]?.map fun duration => (strategy, duration))).map Prod.fst

/-- A line of cells between bars. -/
def tableRow (cells : List String) : String := "| " ++ " | ".intercalate cells ++ " |\n"

def caseRow (caseName : String) (durations : Durations) : String :=
  tableRow [caseName, Milliseconds.text durations["open"]?,
    Milliseconds.text durations["closed"]?, Milliseconds.text durations["uncached"]?,
    (winner durations).getD "-",
    Milliseconds.speedup durations["open"]? durations["uncached"]?]

def header : String :=
  "| case | open (ms) | closed (ms) | uncached (ms) | winner | open vs uncached |\n"
    ++ "|---|---:|---:|---:|---|---:|\n"

def scaleTable (scale : Nat) (results : Results) : String :=
  s!"## Scale {scale}\n\n" ++ header
    ++ String.join ((rowOrder results).map fun caseName =>
      caseRow caseName (results.getD caseName ∅))
    ++ "\n"

end Typecase.Bench
