import Mathlib.Data.List.Induction
import Mathlib.Data.List.Nodup
import Typecase.Proofs.Declared

/-! Which lists of kinds make a closed hierarchy, and what it is then. A list is refused for its
first pair whose kind is too large or taken, whatever gaps the table below has at that moment. An
accepted list is a finite map from kinds to members, and the hierarchy shows that map alone: it does
not depend on the order of the list. -/

namespace Typecase

variable {τ : Type}

namespace Kinds

/-- The refusal that a kind deserves behind other pairs. -/
def refusalFor? (earlier : List (Nat × Member τ)) (kind : Nat) : Option Refusal :=
  if maxKind < kind then some (.kindOutOfRange kind maxKind)
  else if kind ∈ earlier.map Prod.fst then some (.duplicateKind kind)
  else none

def refusalAt? (members : List (Nat × Member τ)) (index : Nat) : Option Refusal :=
  members[index]?.bind fun pair => refusalFor? (members.take index) pair.1

/-- What the pairs of a list deserve to be refused for, in the order of the list. -/
def refusals (members : List (Nat × Member τ)) : List Refusal :=
  (List.range members.length).filterMap (refusalAt? members)

section Refusals
variable (members : List (Nat × Member τ))

theorem refusalFor?_eq_none_iff (kind : Nat) :
    refusalFor? members kind = none ↔ kind ≤ maxKind ∧ kind ∉ members.map Prod.fst := by
  unfold refusalFor?
  by_cases large : maxKind < kind
  · rw [if_pos large]
    simp [Nat.not_le_of_lt large]
  · rw [if_neg large]
    by_cases taken : kind ∈ members.map Prod.fst
    · rw [if_pos taken]
      simp [taken]
    · rw [if_neg taken]
      simp [taken, Nat.le_of_not_lt large]

theorem refusalAt?_isSome_iff (index : Nat) :
    (refusalAt? members index).isSome = true ↔ ∃ pair, members[index]? = some pair ∧
      (maxKind < pair.1 ∨ pair.1 ∈ (members.take index).map Prod.fst) := by
  unfold refusalAt?
  cases here : members[index]? with
  | none => simp
  | some pair =>
    have fine := refusalFor?_eq_none_iff (members.take index) pair.1
    rw [Option.bind_some, Option.isSome_iff_ne_none, ne_eq, fine, not_and_or, Nat.not_le, not_not]
    simp

theorem refusals_concat (last : Nat × Member τ) :
    refusals (members ++ [last]) =
      refusals members ++ (refusalFor? members last.1).toList := by
  have earlier : (List.range members.length).filterMap (refusalAt? (members ++ [last])) =
      refusals members := by
    apply List.filterMap_congr
    intro index inside
    have within := List.mem_range.1 inside
    rw [refusalAt?, refusalAt?, List.getElem?_append_left within,
      List.take_append_of_le_length (Nat.le_of_lt within)]
  have final : refusalAt? (members ++ [last]) members.length = refusalFor? members last.1 := by
    simp [refusalAt?]
  rw [refusals, List.length_append, List.length_singleton, List.range_succ,
    List.filterMap_append, earlier, List.filterMap_cons, final]
  cases refusalFor? members last.1 <;> rfl

/-- No pair is refused exactly if all kinds are small and none is used twice. -/
theorem refusals_eq_nil_iff :
    refusals members = [] ↔
      (∀ pair ∈ members, pair.1 ≤ maxKind) ∧ (members.map Prod.fst).Nodup := by
  induction members using List.reverseRecOn with
  | nil => simp [refusals]
  | append_singleton members last ih =>
    rw [refusals_concat, List.append_eq_nil_iff, ih, Option.toList_eq_nil_iff,
      refusalFor?_eq_none_iff, List.forall_mem_append, List.forall_mem_singleton, List.map_append,
      List.map_singleton, (List.perm_append_singleton _ _).nodup_iff, List.nodup_cons,
      and_and_and_comm, and_comm (a := (members.map Prod.fst).Nodup)]

theorem exists_refusal_iff :
    (∃ refusal, (refusals members).head? = some refusal) ↔
      ∃ index, (refusalAt? members index).isSome = true := by
  constructor
  · rintro ⟨refusal, head⟩
    obtain ⟨index, -, refused⟩ := List.mem_filterMap.1 (List.mem_of_head? head)
    exact ⟨index, by rw [refused]; rfl⟩
  · rintro ⟨index, refused⟩
    obtain ⟨pair, place, -⟩ := (refusalAt?_isSome_iff members index).1 refused
    obtain ⟨refusal, here⟩ := Option.isSome_iff_exists.1 refused
    have inside := List.mem_range.2 (List.getElem?_eq_some_iff.1 place).1
    have listed : refusal ∈ refusals members := List.mem_filterMap.2 ⟨index, inside, here⟩
    exact ⟨_, List.head?_eq_some_head (List.ne_nil_of_mem listed)⟩

end Refusals

section Declared
variable (members : List (Nat × Member τ)) (kinds : Kinds τ)

theorem declareAll_concat (last : Nat × Member τ) :
    kinds.declareAll (members ++ [last]) =
      (kinds.declareAll members).bind (·.declare last.1 last.2) := by
  simp only [declareAll, List.foldlM_append, List.foldlM_cons, List.foldlM_nil, bind_pure]
  rfl

variable (declared : empty.declareAll members = .ok kinds)
include declared

theorem member_eq_some_iff (kind : Nat) (member : Member τ) :
    kinds.member kind = some member ↔ (kind, member) ∈ members := by
  simpa using empty.member_declareAll kinds members declared kind member

theorem isSome_member_iff (kind : Nat) :
    (kinds.member kind).isSome = true ↔ kind ∈ members.map Prod.fst := by
  simp [Option.isSome_iff_exists, member_eq_some_iff members kinds declared]

/-- The next pair is refused for what it deserves. -/
theorem declare_error_iff (kind : Nat) (member : Member τ) (refusal : Refusal) :
    kinds.declare kind member = .error refusal ↔ refusalFor? members kind = some refusal := by
  unfold declare refusalFor?
  by_cases large : maxKind < kind
  · simp [large]
  · rw [if_neg large, if_neg large]
    by_cases taken : kind ∈ members.map Prod.fst
    · rw [if_pos ((isSome_member_iff members kinds declared kind).2 taken), if_pos taken]
      simp
    · rw [if_neg (mt (isSome_member_iff members kinds declared kind).1 taken), if_neg taken]
      simp

end Declared

/-- Declaring pair by pair stops at the first pair that deserves to be refused. -/
theorem declareAll_error_iff (members : List (Nat × Member τ)) (refusal : Refusal) :
    empty.declareAll members = .error refusal ↔ (refusals members).head? = some refusal := by
  induction members using List.reverseRecOn generalizing refusal with
  | nil => simp [refusals, declareAll, pure, Except.pure]
  | append_singleton members last ih =>
    rw [declareAll_concat, refusals_concat, List.head?_append, Option.head?_toList]
    cases declared : empty.declareAll members with
    | error first =>
      rw [(ih first).1 declared, Option.some_or]
      simp [Except.bind]
    | ok kinds =>
      have none : (refusals members).head? = none :=
        Option.eq_none_iff_forall_ne_some.2 fun first head =>
          nomatch declared.symm.trans ((ih first).2 head)
      rw [none, Option.none_or]
      exact declare_error_iff members kinds declared last.1 last.2 refusal

theorem exists_declareAll_iff (members : List (Nat × Member τ)) :
    (∃ kinds, empty.declareAll members = .ok kinds) ↔ refusals members = [] := by
  rw [← List.head?_eq_none_iff]
  cases outcome : empty.declareAll members with
  | error refusal => simp [(declareAll_error_iff members refusal).1 outcome]
  | ok kinds =>
    refine iff_of_true ⟨kinds, rfl⟩ (Option.eq_none_iff_forall_ne_some.2 fun refusal head => ?_)
    cases outcome.symm.trans ((declareAll_error_iff members refusal).2 head)

theorem length_declare_le_iff (kinds later : Kinds τ) (kind : Nat) (member : Member τ)
    (declared : kinds.declare kind member = .ok later) (limit : Nat) :
    later.byKind.length ≤ limit ↔ kinds.byKind.length ≤ limit ∧ kind < limit := by
  obtain ⟨-, -, rfl⟩ := (kinds.declare_eq_ok_iff later kind member).1 declared
  rw [List.length_set, List.rightpad, List.length_append, List.length_replicate]
  omega

/-- The table is just long enough for the largest kind. -/
theorem length_declareAll_le_iff (kinds later : Kinds τ) (members : List (Nat × Member τ))
    (declared : kinds.declareAll members = .ok later) (limit : Nat) :
    later.byKind.length ≤ limit ↔
      kinds.byKind.length ≤ limit ∧ ∀ pair ∈ members, pair.1 < limit := by
  induction members generalizing kinds with
  | nil =>
    cases Except.ok.inj declared
    simp
  | cons first rest ih =>
    obtain ⟨kind, member⟩ := first
    rw [declareAll_cons] at declared
    cases step : kinds.declare kind member with
    | error refusal => simp [step, Except.bind] at declared
    | ok next =>
      simp only [step, Except.bind] at declared
      rw [ih next declared, length_declare_le_iff kinds next kind member step,
        List.forall_mem_cons, and_assoc]

section Listed
variable (kinds : Kinds τ)

theorem mem_toList_iff (kind : Nat) (candidate : Candidate τ) :
    (kind, candidate) ∈ kinds.toList ↔
      ∃ member, kinds.member kind = some member ∧ member.candidate = candidate := by
  simp only [toList, List.mem_filterMap, List.mem_zipIdx_iff_getElem?, Option.map_eq_some_iff,
    Prod.exists, Prod.mk.injEq, Kinds.member, Option.join_eq_some_iff]
  constructor
  · rintro ⟨_, _, place, member, rfl, rfl, same⟩
    exact ⟨member, place, same⟩
  · rintro ⟨member, place, same⟩
    exact ⟨some member, kind, place, member, rfl, rfl, same⟩

theorem pairwise_toList : (kinds.toList.map Prod.fst).Pairwise (· < ·) := by
  have increasing : kinds.byKind.zipIdx.Pairwise (·.2 < ·.2) := by
    rw [← List.pairwise_map (f := Prod.snd), List.zipIdx_map_snd]
    exact List.pairwise_lt_range'
  rw [List.pairwise_map, toList, List.pairwise_filterMap]
  refine increasing.imp fun {first second} before left leftShown right rightShown => ?_
  obtain ⟨_, -, rfl⟩ := Option.map_eq_some_iff.1 leftShown
  obtain ⟨_, -, rfl⟩ := Option.map_eq_some_iff.1 rightShown
  exact before

theorem length_toList : kinds.toList.length = kinds.size := by
  calc kinds.toList.length
      = kinds.byKind.zipIdx.countP (·.1.isSome) := by
        rw [toList, List.length_filterMap_eq_countP]
        exact List.countP_congr fun _ _ => by simp
    _ = (kinds.byKind.zipIdx.map Prod.fst).countP Option.isSome := by
        rw [List.countP_map]
        rfl
    _ = kinds.size := by
        rw [List.zipIdx_map_fst]
        rfl

/-- Two tables of one length with the same members are the same: a gap looks the same everywhere. -/
theorem eq_of_member_eq (other : Kinds τ) (length : kinds.byKind.length = other.byKind.length)
    (same : kinds.member = other.member) : kinds = other := by
  have entries : kinds.byKind = other.byKind := by
    apply List.ext_getElem length
    intro kind inside within
    have here := congrFun same kind
    rwa [Kinds.member, Kinds.member, List.getElem?_eq_getElem inside,
      List.getElem?_eq_getElem within] at here
  cases kinds
  cases other
  exact congrArg Kinds.mk entries

end Listed

/-- A hierarchy that shows the pairs of a list: each of them once, by their kinds. -/
structure Shows (members : List (Nat × Member τ)) (kinds : Kinds τ) : Prop where
  member : ∀ kind member, kinds.member kind = some member ↔ (kind, member) ∈ members
  size : kinds.size = members.length
  increasing : (kinds.toList.map Prod.fst).Pairwise (· < ·)
  listed : kinds.toList.Perm (members.map fun pair => (pair.1, pair.2.candidate))

section Accepted
variable (members : List (Nat × Member τ)) (kinds : Kinds τ)
  (declared : empty.declareAll members = .ok kinds)
include declared

theorem shows_of_declareAll : kinds.Shows members := by
  have unrefused := (exists_declareAll_iff members).1 ⟨kinds, declared⟩
  have distinct := ((refusals_eq_nil_iff members).1 unrefused).2
  have listed : kinds.toList.Perm (members.map fun pair => (pair.1, pair.2.candidate)) := by
    have once : kinds.toList.Nodup := kinds.pairwise_toList.nodup.of_map
    have onceGiven : (members.map fun pair => (pair.1, pair.2.candidate)).Nodup :=
      List.Nodup.of_map Prod.fst (by simpa [Function.comp_def] using distinct)
    rw [List.perm_ext_iff_of_nodup once onceGiven]
    rintro ⟨kind, candidate⟩
    simp only [mem_toList_iff, member_eq_some_iff members kinds declared, List.mem_map,
      Prod.mk.injEq, Prod.exists]
    constructor
    · rintro ⟨member, given, same⟩
      exact ⟨kind, member, given, rfl, same⟩
    · rintro ⟨_, member, given, rfl, same⟩
      exact ⟨member, given, same⟩
  refine ⟨member_eq_some_iff members kinds declared, ?_, kinds.pairwise_toList, listed⟩
  rw [← length_toList, listed.length_eq, List.length_map]

/-- Any order of the pairs gives the same table. -/
theorem declareAll_perm (others : List (Nat × Member τ)) (same : others.Perm members) :
    empty.declareAll others = .ok kinds := by
  have unrefused := (exists_declareAll_iff members).1 ⟨kinds, declared⟩
  obtain ⟨small, distinct⟩ := (refusals_eq_nil_iff members).1 unrefused
  have fine : refusals others = [] := (refusals_eq_nil_iff others).2
    ⟨fun pair listed => small pair (same.mem_iff.1 listed),
      ((same.map Prod.fst).nodup_iff).2 distinct⟩
  obtain ⟨table, outcome⟩ := (exists_declareAll_iff others).2 fine
  have spans (limit : Nat) : table.byKind.length ≤ limit ↔ kinds.byKind.length ≤ limit := by
    rw [length_declareAll_le_iff _ _ _ outcome, length_declareAll_le_iff _ _ _ declared]
    simp only [same.mem_iff]
  have length : table.byKind.length = kinds.byKind.length :=
    Nat.le_antisymm ((spans _).2 (Nat.le_refl _)) ((spans _).1 (Nat.le_refl _))
  have shown : table.member = kinds.member := by
    funext kind
    ext member
    rw [member_eq_some_iff others table outcome, member_eq_some_iff members kinds declared,
      same.mem_iff]
  rw [outcome, table.eq_of_member_eq kinds length shown]

end Accepted

end Kinds

namespace Hierarchy

variable (members : List (Nat × Member τ))

theorem ofMembers_of_declareAll_ok (kinds : Kinds τ)
    (declared : Kinds.empty.declareAll members = .ok kinds) :
    ofMembers members =
      if members = [] then .error .emptyHierarchy else .ok (.closedWorld kinds) := by
  have vacant : kinds.byKind.isEmpty = true ↔ members = [] := by
    have spans := Kinds.length_declareAll_le_iff _ _ _ declared 0
    rw [List.isEmpty_iff_length_eq_zero, ← Nat.le_zero, spans]
    simp [Kinds.empty, List.eq_nil_iff_forall_not_mem]
  simp only [ofMembers, declared, bind, Except.bind, vacant, pure, Except.pure]

theorem ofMembers_ok_iff (hierarchy : Hierarchy τ) :
    ofMembers members = .ok hierarchy ↔ members ≠ [] ∧
      ∃ kinds, Kinds.empty.declareAll members = .ok kinds ∧ hierarchy = .closedWorld kinds := by
  cases declared : Kinds.empty.declareAll members with
  | error refusal => simp [ofMembers, declared, bind, Except.bind]
  | ok kinds =>
    rw [ofMembers_of_declareAll_ok members kinds declared]
    by_cases none : members = []
    · simp [none]
    · simp [none, eq_comm]

theorem ofMembers_error_iff (refusal : Refusal) :
    ofMembers members = .error refusal ↔ (members = [] ∧ refusal = .emptyHierarchy) ∨
      (Kinds.refusals members).head? = some refusal := by
  rw [← Kinds.declareAll_error_iff]
  cases declared : Kinds.empty.declareAll members with
  | error first =>
    have given : members ≠ [] := by
      rintro rfl
      cases declared
    simp [ofMembers, declared, bind, Except.bind, given]
  | ok kinds =>
    rw [ofMembers_of_declareAll_ok members kinds declared]
    by_cases none : members = []
    · simp [none, eq_comm]
    · simp [none]

end Hierarchy

/-- A list of kinds is refused exactly if it is empty or some kind in it is too large or was used by
a pair before, and then for the first such pair. Any other list makes a hierarchy that shows each
of its pairs once, by ascending kinds, and every order of the list makes the same hierarchy. -/
theorem ofMembers_accepts_distinct_kinds (members : List (Nat × Member τ)) :
    ((∃ refusal, Hierarchy.ofMembers members = .error refusal) ↔
      members = [] ∨ ∃ (index : Nat) (pair : Nat × Member τ), members[index]? = some pair ∧
        (maxKind < pair.1 ∨ pair.1 ∈ (members.take index).map Prod.fst)) ∧
    (∀ refusal, Hierarchy.ofMembers members = .error refusal ↔
      (members = [] ∧ refusal = .emptyHierarchy) ∨
        (Kinds.refusals members).head? = some refusal) ∧
    ∀ hierarchy, Hierarchy.ofMembers members = .ok hierarchy →
      (∃ kinds, hierarchy = .closedWorld kinds ∧ kinds.Shows members) ∧
      ∀ others : List (Nat × Member τ), others.Perm members →
        Hierarchy.ofMembers others = .ok hierarchy := by
  have refused := Hierarchy.ofMembers_error_iff members
  refine ⟨?_, refused, fun hierarchy accepted => ?_⟩
  · simp only [refused, ← Kinds.refusalAt?_isSome_iff, exists_or, exists_and_left, exists_eq,
      and_true, Kinds.exists_refusal_iff]
  · obtain ⟨given, kinds, declared, rfl⟩ := (Hierarchy.ofMembers_ok_iff members _).1 accepted
    refine ⟨⟨kinds, rfl, kinds.shows_of_declareAll members declared⟩, fun others same => ?_⟩
    rw [Hierarchy.ofMembers_ok_iff]
    refine ⟨?_, kinds, Kinds.declareAll_perm members kinds declared others same, rfl⟩
    rintro rfl
    exact given same.symm.eq_nil

/-- Two kinds with gaps around them, declared in either order; behind them one kind too many. -/
theorem ofMembers_accepts_distinct_kinds_sparse :
    let whole : Member Nat := ⟨⟨0, "Whole"⟩, [⟨0, .zero⟩, ⟨1, ⟨8⟩⟩]⟩
    let part : Member Nat := ⟨⟨1, "Part"⟩, [⟨1, .zero⟩]⟩
    ∃ kinds, Hierarchy.ofMembers [(5, whole), (2, part)] = .ok (.closedWorld kinds) ∧
      kinds.Shows [(5, whole), (2, part)] ∧
      Hierarchy.ofMembers [(2, part), (5, whole)] = .ok (.closedWorld kinds) ∧
      Hierarchy.ofMembers [(5, whole), (5, part), (4096, part)] = .error (.duplicateKind 5) := by
  intro whole part
  obtain ⟨-, -, accepted⟩ := ofMembers_accepts_distinct_kinds [(5, whole), (2, part)]
  obtain ⟨⟨kinds, table, shows⟩, ordered⟩ := accepted _ rfl
  refine ⟨kinds, congrArg Except.ok table, shows, ?_, ?_⟩
  · rw [ordered _ (List.Perm.swap ..), table]
  · obtain ⟨-, refused, -⟩ :=
      ofMembers_accepts_distinct_kinds [(5, whole), (5, part), (4096, part)]
    exact (refused _).2 (Or.inr (by decide))

end Typecase
