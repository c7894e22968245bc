import Mathlib.Data.List.Basic
import Typecase.Bench.Report
import Typecase.Proofs.Durations

/-! What the table of a scale shows. Its rows are the cases of the results, each once, in an order
that only the names of the cases decide. In each row the winner is the first competitor whose
duration no other competitor undercuts, and other strategies have no say in it. -/

namespace Typecase.Bench

/-- The order of the rows. -/
def StandsBefore (first second : String) : Prop :=
  first = "mixed" ∧ second ≠ "mixed" ∨
  first = "monomorphic" ∧ second ∉ ["mixed", "monomorphic"] ∨
  first ∉ ["mixed", "monomorphic"] ∧ second ∉ ["mixed", "monomorphic"] ∧
    compare first second = .lt

theorem StandsBefore.not_behind {first second : String} (before : StandsBefore first second) :
    ¬StandsBefore second first := by
  have top : "mixed" ∈ ["mixed", "monomorphic"] := by decide
  have next : "monomorphic" ∈ ["mixed", "monomorphic"] := by decide
  rintro (⟨rfl, other⟩ | ⟨rfl, other⟩ | ⟨second, first, above⟩)
  · rcases before with ⟨-, same⟩ | ⟨-, below⟩ | ⟨-, below, -⟩
    · exact same rfl
    · exact below top
    · exact below top
  · rcases before with ⟨rfl, -⟩ | ⟨rfl, -⟩ | ⟨-, below, -⟩
    · exact other top
    · exact other next
    · exact below next
  · rcases before with ⟨rfl, -⟩ | ⟨rfl, -⟩ | ⟨-, -, below⟩
    · exact first top
    · exact first next
    · exact Std.OrientedCmp.not_lt_of_lt below above

theorem StandsBefore.ne {first second : String} (before : StandsBefore first second) :
    first ≠ second := by
  rintro rfl
  exact before.not_behind before

section Rows
variable (results : Results)

theorem mem_rowOrder_iff (caseName : String) :
    caseName ∈ rowOrder results ↔ caseName ∈ results := by
  unfold rowOrder
  by_cases leading : caseName ∈ leadingCases
  · simp [leading]
  · simp [leading]

theorem pairwise_rowOrder : (rowOrder results).Pairwise StandsBefore := by
  have sorted : results.keys.Pairwise (compare · · = .lt) := Std.TreeMap.ordered_keys
  refine List.pairwise_append.2 ⟨?_, ?_, ?_⟩
  · refine List.Pairwise.filter _ (List.pairwise_pair.2 (Or.inl ⟨rfl, by decide⟩))
  · refine (sorted.filter _).imp_of_mem fun first second below => ?_
    simp only [List.mem_filter, Bool.not_eq_true', List.contains_eq_mem,
      decide_eq_false_iff_not] at first second
    exact Or.inr (Or.inr ⟨first.2, second.2, below⟩)
  · intro first leading second other
    simp only [List.mem_filter, Bool.not_eq_true', List.contains_eq_mem,
      decide_eq_false_iff_not] at leading other
    rcases List.mem_pair.1 leading.1 with rfl | rfl
    · exact Or.inl ⟨rfl, fun same => other.2 (same ▸ leading.1)⟩
    · exact Or.inr (Or.inl ⟨rfl, other.2⟩)

theorem nodup_rowOrder : (rowOrder results).Nodup :=
  (pairwise_rowOrder results).imp StandsBefore.ne

end Rows

/-- The entry is faster than those before it, and none behind it is faster. -/
def LeadsIn (entries : List (String × Milliseconds)) (best : String × Milliseconds) : Prop :=
  ∃ before after, entries = before ++ best :: after ∧
    (∀ other ∈ before, best.2.rank < other.2.rank) ∧ ∀ other ∈ after, best.2.rank ≤ other.2.rank

theorem LeadsIn.mem {entries : List (String × Milliseconds)} {best : String × Milliseconds}
    (leads : LeadsIn entries best) : best ∈ entries := by
  obtain ⟨before, after, rfl, -, -⟩ := leads
  exact List.mem_append_right _ List.mem_cons_self

theorem LeadsIn.rank_le {entries : List (String × Milliseconds)} {best : String × Milliseconds}
    (leads : LeadsIn entries best) : ∀ other ∈ entries, best.2.rank ≤ other.2.rank := by
  obtain ⟨before, after, rfl, slower, notFaster⟩ := leads
  exact List.forall_mem_append.2 ⟨fun other member => (slower other member).le,
    List.forall_mem_cons.2 ⟨Int.le_refl _, notFaster⟩⟩

theorem leadsIn_cons_iff (first : String × Milliseconds) (rest : List (String × Milliseconds))
    (best : String × Milliseconds) :
    LeadsIn (first :: rest) best ↔
      (best = first ∧ ∀ other ∈ rest, first.2.rank ≤ other.2.rank) ∨
      (best.2.rank < first.2.rank ∧ LeadsIn rest best) := by
  constructor
  · rintro ⟨before, after, split, slower, notFaster⟩
    cases before with
    | nil =>
      obtain ⟨rfl, rfl⟩ := List.cons.inj split
      exact Or.inl ⟨rfl, notFaster⟩
    | cons head before =>
      obtain ⟨rfl, rfl⟩ := List.cons.inj split
      obtain ⟨faster, slower⟩ := List.forall_mem_cons.1 slower
      exact Or.inr ⟨faster, before, after, rfl, slower, notFaster⟩
  · rintro (⟨rfl, notFaster⟩ | ⟨faster, before, after, rfl, slower, notFaster⟩)
    · exact ⟨[], rest, rfl, List.forall_mem_nil _, notFaster⟩
    · exact ⟨first :: before, after, rfl, List.forall_mem_cons.2 ⟨faster, slower⟩, notFaster⟩

theorem fastest_eq_none_iff (entries : List (String × Milliseconds)) :
    fastest entries = none ↔ entries = [] := by
  cases entries with
  | nil => simp [fastest]
  | cons first rest =>
    unfold fastest
    split
    · split <;> simp
    · simp

theorem fastest_eq_some_iff (entries : List (String × Milliseconds))
    (best : String × Milliseconds) : fastest entries = some best ↔ LeadsIn entries best := by
  induction entries generalizing best with
  | nil => simp [fastest, LeadsIn]
  | cons first rest ih =>
    rw [fastest, leadsIn_cons_iff]
    cases found : fastest rest with
    | none =>
      obtain rfl := (fastest_eq_none_iff rest).1 found
      simp [LeadsIn, eq_comm]
    | some other =>
      have leads := (ih other).1 found
      have only : LeadsIn rest best ↔ other = best := by rw [← ih best, found, Option.some_inj]
      simp only [only]
      by_cases faster : other.2.rank < first.2.rank
      · rw [if_pos faster, Option.some_inj]
        constructor
        · rintro rfl
          exact Or.inr ⟨faster, rfl⟩
        · rintro (⟨-, notFaster⟩ | ⟨-, same⟩)
          · exact absurd faster (Int.not_lt.2 (notFaster other leads.mem))
          · exact same
      · rw [if_neg faster, Option.some_inj]
        constructor
        · rintro rfl
          exact Or.inl ⟨rfl, fun entry member =>
            (Int.not_lt.1 faster).trans (leads.rank_le entry member)⟩
        · rintro (⟨same, -⟩ | ⟨quicker, rfl⟩)
          · exact same.symm
          · exact absurd quicker faster

/-- The strategy is measured in the least time of all competitors, and in less than those that come
before it. -/
def Wins (durations : Durations) (strategy : String) : Prop :=
  ∃ before after duration, ["open", "closed", "uncached"] = before ++ strategy :: after ∧
    durations[strategy]? = some duration ∧
    (∀ other ∈ before, ∀ slower, durations[other]? = some slower → ¬slower.AtMost duration) ∧
    ∀ other ∈ after, ∀ slower, durations[other]? = some slower → duration.AtMost slower

section Winner
variable (durations : Durations)

/-- The strategies among these that are measured, with their durations. -/
def measured (strategies : List String) : List (String × Milliseconds) :=
  strategies.filterMap fun strategy =>
    durations[strategy]?.map fun duration => (strategy, duration)

theorem mem_measured_iff (strategies : List String) (strategy : String) (duration : Milliseconds) :
    (strategy, duration) ∈ measured durations strategies ↔
      strategy ∈ strategies ∧ durations[strategy]? = some duration := by
  simp [measured, List.mem_filterMap]

theorem leadsIn_measured_iff (strategies : List String) (strategy : String)
    (duration : Milliseconds) :
    LeadsIn (measured durations strategies) (strategy, duration) ↔
      ∃ before after, strategies = before ++ strategy :: after ∧
        durations[strategy]? = some duration ∧
        (∀ other ∈ before, ∀ slower, durations[other]? = some slower → ¬slower.AtMost duration) ∧
        ∀ other ∈ after, ∀ slower, durations[other]? = some slower → duration.AtMost slower := by
  simp only [← Milliseconds.rank_le_iff, Int.not_le]
  constructor
  · rintro ⟨before, after, split, slower, notFaster⟩
    obtain ⟨front, rest, rfl, rfl, onward⟩ := List.filterMap_eq_append_iff.1 split
    obtain ⟨skipped, own, back, rfl, unmeasured, found, rfl⟩ := List.filterMap_eq_cons_iff.1 onward
    obtain ⟨_, known, same⟩ := Option.map_eq_some_iff.1 found
    cases same
    refine ⟨front ++ skipped, back, by simp, known, ?_, ?_⟩
    · intro other listed slow recorded
      rcases List.mem_append.1 listed with early | late
      · exact slower (other, slow) ((mem_measured_iff durations front _ _).2 ⟨early, recorded⟩)
      · have absent := unmeasured other late
        simp [recorded] at absent
    · intro other listed slow recorded
      exact notFaster (other, slow) ((mem_measured_iff durations back _ _).2 ⟨listed, recorded⟩)
  · rintro ⟨before, after, rfl, known, slower, notFaster⟩
    refine ⟨measured durations before, measured durations after, by simp [measured, known], ?_, ?_⟩
    · rintro ⟨other, slow⟩ member
      obtain ⟨listed, recorded⟩ := (mem_measured_iff durations before _ _).1 member
      exact slower other listed slow recorded
    · rintro ⟨other, slow⟩ member
      obtain ⟨listed, recorded⟩ := (mem_measured_iff durations after _ _).1 member
      exact notFaster other listed slow recorded

theorem winner_eq_some_iff (strategy : String) :
    winner durations = some strategy ↔ Wins durations strategy := by
  have leads (duration : Milliseconds) :=
    leadsIn_measured_iff durations competitors strategy duration
  have chosen : winner durations = some strategy ↔
      ∃ duration, LeadsIn (measured durations competitors) (strategy, duration) := by
    simp only [winner, Option.map_eq_some_iff, Prod.exists, ← fastest_eq_some_iff]
    simp [measured]
  rw [chosen, Wins]
  simp only [leads]
  rw [exists_comm]
  exact exists_congr fun before => exists_comm

theorem winner_eq_none_iff :
    winner durations = none ↔ ∀ strategy ∈ competitors, durations[strategy]? = none := by
  unfold winner
  rw [Option.map_eq_none_iff, fastest_eq_none_iff, List.filterMap_eq_nil_iff]
  simp only [Option.map_eq_none_iff]

end Winner

/-- What the last cell but one of a row says of its case. -/
structure NamesWinner (durations : Durations) (cell : String) : Prop where
  competes : cell ∈ ["open", "closed", "uncached"] ∨ cell = "-"
  wins : ∀ strategy ∈ ["open", "closed", "uncached"], cell = strategy ↔ Wins durations strategy
  nobody : cell = "-" ↔
    ∀ strategy ∈ ["open", "closed", "uncached"], durations[strategy]? = none

theorem namesWinner_winner (durations : Durations) :
    NamesWinner durations ((winner durations).getD "-") := by
  have named : ∀ strategy ∈ competitors, strategy ≠ "-" := by decide
  cases found : winner durations with
  | none =>
    have absent := (winner_eq_none_iff durations).1 found
    refine ⟨Or.inr rfl, fun strategy listed => ?_, ⟨fun _ => absent, fun _ => rfl⟩⟩
    rw [← winner_eq_some_iff, found]
    simp [(named strategy listed).symm]
  | some strategy =>
    have wins := (winner_eq_some_iff durations strategy).1 found
    obtain ⟨before, after, duration, among, known, -⟩ := id wins
    have listed : strategy ∈ ["open", "closed", "uncached"] :=
      among ▸ List.mem_append_right _ List.mem_cons_self
    refine ⟨Or.inl listed, fun other _ => ?_, ⟨fun same => ?_, fun absent => ?_⟩⟩
    · rw [← winner_eq_some_iff, found, Option.some_inj, Option.getD_some]
    · exact absurd same (named strategy listed)
    · cases (absent strategy listed).symm.trans known

/-- The row has the name of a case, the durations of the competitors, the winner among them and how
much the first of them gains on the last. -/
def ShowsCase (results : Results) (caseName row : String) : Prop :=
  ∃ durations cell, results[caseName]? = some durations ∧ NamesWinner durations cell ∧
    row = "| " ++ caseName ++ " | " ++ Milliseconds.text durations["open"]? ++ " | " ++
      Milliseconds.text durations["closed"]? ++ " | " ++
      Milliseconds.text durations["uncached"]? ++ " | " ++ cell ++ " | " ++
      Milliseconds.speedup durations["open"]? durations["uncached"]? ++ " |\n"

theorem caseRow_eq (caseName : String) (durations : Durations) :
    caseRow caseName durations =
      "| " ++ caseName ++ " | " ++ Milliseconds.text durations["open"]? ++ " | " ++
        Milliseconds.text durations["closed"]? ++ " | " ++
        Milliseconds.text durations["uncached"]? ++ " | " ++ (winner durations).getD "-" ++
        " | " ++ Milliseconds.speedup durations["open"]? durations["uncached"]? ++ " |\n" := by
  simp [caseRow, tableRow, String.intercalate_cons_cons, String.append_assoc]

theorem showsCase_caseRow (results : Results) (caseName : String) (present : caseName ∈ results) :
    ShowsCase results caseName (caseRow caseName (results.getD caseName ∅)) := by
  obtain ⟨durations, known⟩ := Option.isSome_iff_exists.1
    (Std.TreeMap.isSome_getElem?_iff_mem.2 present)
  rw [Std.TreeMap.getD_eq_getD_getElem?, known]
  exact ⟨durations, _, known, namesWinner_winner durations, caseRow_eq caseName durations⟩

theorem append_header (title : String) :
    title ++ header =
      title ++ "| case | open (ms) | closed (ms) | uncached (ms) | winner | open vs uncached |\n" ++
        "|---|---:|---:|---:|---|---:|\n" :=
  String.append_assoc.symm

theorem scaleTable_eq (scale : Nat) (results : Results) :
    scaleTable scale results =
      "## Scale " ++ toString scale ++ "\n\n" ++
        "| case | open (ms) | closed (ms) | uncached (ms) | winner | open vs uncached |\n" ++
        "|---|---:|---:|---:|---|---:|\n" ++
        String.join ((rowOrder results).map fun caseName =>
          caseRow caseName (results.getD caseName ∅)) ++ "\n" := by
  have heading : scaleTable scale results =
      "## Scale " ++ toString scale ++ "\n\n" ++ header ++
        String.join ((rowOrder results).map fun caseName =>
          caseRow caseName (results.getD caseName ∅)) ++ "\n" := rfl
  rw [heading, append_header]

/-- The table of a scale has one row for each case of the results and no other. The rows stand in
the only order in which none comes after one that it stands before, and each names the winner of
its case. -/
theorem scaleTable_shows_each_case (scale : Nat) (results : Results) :
    ∃ cases rows, (∀ caseName, caseName ∈ cases ↔ caseName ∈ results) ∧ cases.Nodup ∧
      cases.Pairwise StandsBefore ∧
      (∀ others : List String, (∀ caseName, caseName ∈ others ↔ caseName ∈ results) →
        others.Pairwise StandsBefore → others = cases) ∧
      List.Forall₂ (ShowsCase results) cases rows ∧
      scaleTable scale results =
        "## Scale " ++ toString scale ++ "\n\n" ++
          "| case | open (ms) | closed (ms) | uncached (ms) | winner | open vs uncached |\n" ++
          "|---|---:|---:|---:|---|---:|\n" ++ String.join rows ++ "\n" := by
  refine ⟨rowOrder results,
    (rowOrder results).map fun caseName => caseRow caseName (results.getD caseName ∅),
    mem_rowOrder_iff results, nodup_rowOrder results,
    pairwise_rowOrder results, fun others covers ordered => ?_, ?_, ?_⟩
  · have same : others.Perm (rowOrder results) :=
      (List.perm_ext_iff_of_nodup (ordered.imp StandsBefore.ne) (nodup_rowOrder results)).2
        fun caseName => (covers caseName).trans (mem_rowOrder_iff results caseName).symm
    exact same.eq_of_pairwise (fun _ _ _ _ before behind => absurd behind before.not_behind)
      ordered (pairwise_rowOrder results)
  · rw [List.forall₂_map_right_iff, List.forall₂_same]
    exact fun caseName listed =>
      showsCase_caseRow results caseName ((mem_rowOrder_iff results caseName).1 listed)
  · exact scaleTable_eq scale results

/-- Two competitors are tied, and one case is measured with a strategy that does not compete. -/
theorem scaleTable_shows_each_case_tied :
    let second : Milliseconds := ⟨0x408f400000000000⟩
    let tied : Durations := ((∅ : Durations).insert "closed" second).insert "open" second
    let foreign : Durations := (∅ : Durations).insert "other" second
    let results : Results :=
      (((∅ : Results).insert "zeta" tied).insert "alpha" tied).insert "mixed" foreign
    ∃ mixed alpha zeta, ShowsCase results "mixed" mixed ∧ ShowsCase results "alpha" alpha ∧
      ShowsCase results "zeta" zeta ∧ Wins tied "open" ∧ ¬Wins tied "closed" ∧
      (∀ strategy ∈ ["open", "closed", "uncached"], foreign[strategy]? = none) ∧
      scaleTable 10 results =
        "## Scale 10\n\n" ++
          "| case | open (ms) | closed (ms) | uncached (ms) | winner | open vs uncached |\n" ++
          "|---|---:|---:|---:|---|---:|\n" ++ String.join [mixed, alpha, zeta] ++ "\n" := by
  intro second tied foreign results
  obtain ⟨cases, rows, -, -, -, only, shows, table⟩ := scaleTable_shows_each_case 10 results
  have order : ["mixed", "alpha", "zeta"] = cases := by
    refine only _ (fun caseName => ?_) ?_
    · simp only [results, Std.TreeMap.mem_insert, Std.LawfulEqOrd.compare_eq_iff_eq,
        Std.TreeMap.not_mem_emptyc, List.mem_cons, List.not_mem_nil, @eq_comm _ caseName]
    · have before : compare "alpha" "zeta" = .lt := by decide
      simp [StandsBefore, before]
  subst order
  obtain _ | ⟨first, _ | ⟨next, _ | ⟨last, _ | _⟩⟩⟩ := shows
  have winner : winner tied = some "open" := by decide +kernel
  refine ⟨_, _, _, first, next, last, (winner_eq_some_iff tied "open").1 winner,
    fun wins => ?_, (winner_eq_none_iff foreign).1 (by decide +kernel), table⟩
  have same := winner.symm.trans ((winner_eq_some_iff tied "closed").2 wins)
  exact absurd (Option.some.inj same) (by decide)

end Typecase.Bench
