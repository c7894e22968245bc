import Mathlib.Data.List.Induction
import Typecase.Proofs.JumpAgreement
import Typecase.Proofs.Transparency

/-! The fixed views of a layout are the views of its values, told without a value. A value looks for
the first part of a type each time it is asked; the layout keeps one view of each type while it is
read. Either way the first part of a type is the one that counts. -/

namespace Typecase

variable {τ : Type} [DecidableEq τ]

namespace FixedView

/-- The first view of each type. -/
def firsts (views : List (FixedView τ)) : List (FixedView τ) := views.foldl insertNew []

variable (views : List (FixedView τ)) (last : FixedView τ)

theorem firsts_concat : firsts (views ++ [last]) = insertNew (firsts views) last := by
  simp [firsts]

theorem insertNew_eq :
    insertNew views last =
      if last.type ∈ views.map FixedView.type then views else views ++ [last] := by
  simp [insertNew]

/-- A view of a known type stays out, and behind the known one it would not have been found. -/
theorem find?_insertNew (type : τ) :
    (insertNew views last).find? (·.type == type) = (views ++ [last]).find? (·.type == type) := by
  rw [insertNew_eq]
  by_cases known : last.type ∈ views.map FixedView.type
  · rw [if_pos known, List.find?_append]
    by_cases own : last.type = type
    · subst own
      obtain ⟨first, listed, same⟩ := List.mem_map.1 known
      have found : (views.find? (·.type == last.type)).isSome = true :=
        List.find?_isSome.2 ⟨first, listed, beq_iff_eq.2 same⟩
      rw [Option.or_of_isSome found]
    · simp [own]
  · rw [if_neg known]

theorem map_type_insertNew :
    (insertNew views last).map FixedView.type =
      if last.type ∈ views.map FixedView.type then views.map FixedView.type
      else views.map FixedView.type ++ [last.type] := by
  rw [insertNew_eq, apply_ite (List.map FixedView.type), List.map_append, List.map_singleton]

theorem head?_insertNew : (insertNew views last).head? = (views ++ [last]).head? := by
  rw [insertNew_eq]
  by_cases known : last.type ∈ views.map FixedView.type
  · rw [if_pos known]
    cases views with
    | nil => cases known
    | cons first rest => rfl
  · rw [if_neg known]

theorem head?_firsts : (firsts views).head? = views.head? := by
  induction views using List.reverseRecOn with
  | nil => rfl
  | append_singleton views last ih =>
    rw [firsts_concat, head?_insertNew, List.head?_append, ih, List.head?_append]

theorem find?_firsts (type : τ) :
    (firsts views).find? (·.type == type) = views.find? (·.type == type) := by
  induction views using List.reverseRecOn with
  | nil => rfl
  | append_singleton views last ih =>
    rw [firsts_concat, find?_insertNew, List.find?_append, ih, List.find?_append]

theorem map_type_firsts :
    (firsts views).map FixedView.type = (views.map FixedView.type).eraseDups := by
  induction views using List.reverseRecOn with
  | nil => rfl
  | append_singleton views last ih =>
    simp only [firsts_concat, map_type_insertNew, ih, List.map_append, List.map_singleton,
      List.eraseDups_append, List.mem_eraseDups]
    by_cases known : last.type ∈ views.map FixedView.type
    · have nothing : [last.type].removeAll (views.map FixedView.type) = [] := by
        simpa [List.removeAll] using known
      rw [if_pos known, nothing, List.eraseDups_nil, List.append_nil]
    · have rest : [last.type].removeAll (views.map FixedView.type) = [last.type] := by
        simpa [List.removeAll] using known
      rw [if_neg known, rest]
      rfl

theorem nodup_map_type_firsts : ((firsts views).map FixedView.type).Nodup := by
  induction views using List.reverseRecOn with
  | nil => exact List.nodup_nil
  | append_singleton views last ih =>
    rw [firsts_concat, map_type_insertNew]
    by_cases known : last.type ∈ (firsts views).map FixedView.type
    · rwa [if_pos known]
    · rw [if_neg known, (List.perm_append_singleton _ _).nodup_iff, List.nodup_cons]
      exact ⟨known, ih⟩

end FixedView

theorem Member.type_of_view (member : Member τ) (type : τ) (fixed : FixedView τ)
    (found : member.view type = some fixed) : fixed.type = type := by
  unfold Member.view at found
  simpa using List.find?_some found

def Part.fixed (part : Part τ) : FixedView τ := ⟨part.type, .ofOffset part.offset⟩

namespace Layout

variable (layout : Layout τ)

/-- The value itself and then its parts, also those that hide behind others of their type. -/
def offers : List (FixedView τ) := ⟨layout.type, .zero⟩ :: layout.parts.map Part.fixed

theorem fixedViews_eq : layout.fixedViews = FixedView.firsts layout.offers := by
  rw [FixedView.firsts, offers, List.foldl_cons, List.foldl_map]
  rfl

theorem viewAt_eq (address : UInt64) (type : τ) :
    layout.viewAt address type =
      (layout.offers.find? (·.type == type)).map fun fixed =>
        ⟨fixed.type, fixed.adjustment.replay address⟩ := by
  unfold viewAt offers
  by_cases own : type = layout.type
  · subst own
    rw [if_pos rfl, List.find?_cons_of_pos (by simp), Option.map_some, Adjustment.replay_zero]
  · rw [if_neg own, List.find?_cons_of_neg (by simpa using Ne.symm own), List.find?_map,
      Option.map_map]
    congr 1

/-- What a value offers, as any other value of its type would, is told by its layout. -/
theorem fixedView_valueAt (candidate : Candidate τ) (address : UInt64) (type : τ) :
    (layout.valueAt address).fixedView type =
      Member.view ⟨candidate, layout.fixedViews⟩ type := by
  calc (layout.valueAt address).fixedView type
      = (layout.viewAt address type).map fun view =>
          ⟨view.type, .measure address view.address⟩ := rfl
    _ = layout.offers.find? (·.type == type) := by
        rw [viewAt_eq, Option.map_map]
        simp [Function.comp_def]
    _ = Member.view ⟨candidate, layout.fixedViews⟩ type := by
        rw [Member.view, fixedViews_eq, FixedView.find?_firsts]

theorem type_of_viewAt (address : UInt64) (type : τ) (view : View τ)
    (offered : layout.viewAt address type = some view) : view.type = type := by
  rw [viewAt_eq] at offered
  obtain ⟨fixed, found, rfl⟩ := Option.map_eq_some_iff.1 offered
  simpa using List.find?_some found

/-- A jump table may be made of the fixed views, whichever value comes. -/
theorem mirrors_valueAt (candidate : Candidate τ) (address : UInt64) :
    JumpTable.Mirrors ⟨candidate, layout.fixedViews⟩ (layout.valueAt address) := by
  intro type
  rw [Value.offsetAs_eq, layout.fixedView_valueAt candidate address type]
  cases found : Member.view ⟨candidate, layout.fixedViews⟩ type with
  | none => rfl
  | some fixed =>
    have own := Member.type_of_view _ type fixed found
    simp [Option.filter, own]

/-- The fixed views of a type are its own view and then one view of each type among its parts, in
the order of the declaration. A member with these views and a value of the type, wherever it
lies, agree on every type that they may be asked for: on whether there is a view, and on how far
it lies from the value. -/
theorem fixedViews_mirror_views (candidate : Candidate τ) :
    (layout.fixedViews.map FixedView.type).Nodup ∧
    layout.fixedViews.head? = some ⟨layout.type, .zero⟩ ∧
    layout.fixedViews.map FixedView.type =
      (layout.type :: layout.parts.map Part.type).eraseDups ∧
    ∀ (address : UInt64) (type : τ),
      (∀ adjustment : Adjustment,
        (∃ fixed, Member.view ⟨candidate, layout.fixedViews⟩ type = some fixed ∧
          fixed.adjustment = adjustment) ↔
        ∃ place, (layout.valueAt address).view type = some ⟨type, place⟩ ∧
          Adjustment.measure address place = adjustment) ∧
      (Member.view ⟨candidate, layout.fixedViews⟩ type = none ↔
        (layout.valueAt address).view type = none) := by
  have listed : layout.fixedViews.map FixedView.type =
      (layout.type :: layout.parts.map Part.type).eraseDups := by
    rw [fixedViews_eq, FixedView.map_type_firsts, offers, List.map_cons, List.map_map]
    rfl
  refine ⟨?_, ?_, listed, fun address type => ?_⟩
  · rw [fixedViews_eq]
    exact FixedView.nodup_map_type_firsts _
  · rw [fixedViews_eq, FixedView.head?_firsts]
    rfl
  · rw [← layout.fixedView_valueAt candidate address type, Value.fixedView]
    cases offered : (layout.valueAt address).view type with
    | none => simp
    | some view =>
      have own := layout.type_of_viewAt address type view offered
      obtain ⟨kind, place⟩ := view
      subst own
      simp [valueAt]

/-- The second part of a type has no view. -/
example : fixedViews (τ := Nat) ⟨⟨16⟩, 0, "Whole", none, [⟨1, 8⟩, ⟨2, 0⟩, ⟨1, 16⟩]⟩ =
    [⟨0, .zero⟩, ⟨1, ⟨8⟩⟩, ⟨2, .zero⟩] := by decide

end Layout

end Typecase
