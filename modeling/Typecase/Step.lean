import Typecase.Event

/-! An operation on a state leaves three things behind: its answer or the reason why there
is none, the state as it was left, and the events it logged. A failure keeps whatever
changed before it. -/

namespace Typecase

structure Step (ε σ α : Type) where
  result : Except ε α
  state : σ
  events : List Event := []

namespace Step

variable {ε σ ρ α ι : Type}

/-- The step as seen from a larger state that holds the changed one. -/
def embed (whole : σ → ρ) (step : Step ε σ α) : Step ε ρ α :=
  ⟨step.result, whole step.state, step.events⟩

/-- The step with earlier events put before its own. -/
def after (events : List Event) (step : Step ε σ α) : Step ε σ α :=
  { step with events := events ++ step.events }

@[simp] theorem after_nil (step : Step ε σ α) : step.after [] = step := rfl

/-- The state that a run of inputs leaves behind. A failed input leaves what it changed,
and the run goes on. -/
def run (act : σ → ι → Step ε σ α) (start : σ) (inputs : List ι) : σ :=
  inputs.foldl (fun state input => (act state input).state) start

theorem run_append (act : σ → ι → Step ε σ α) (start : σ) (earlier later : List ι) :
    run act start (earlier ++ later) = run act (run act start earlier) later :=
  List.foldl_append

/-- What every input of a run keeps, the run keeps. -/
theorem run_keeps (kept : σ → Prop) (act : σ → ι → Step ε σ α) (start : σ) (inputs : List ι)
    (initially : kept start)
    (step : ∀ input ∈ inputs, ∀ state, kept state → kept (act state input).state) :
    kept (run act start inputs) := by
  induction inputs generalizing start with
  | nil => exact initially
  | cons input inputs ih =>
    apply ih
    · exact step input (List.mem_cons_self ..) start initially
    · exact fun later member => step later (List.mem_cons_of_mem _ member)

/-- What every input takes on from the inputs before it holds of all inputs at the end of the
run. -/
theorem run_follows (follows : List ι → σ → Prop) (act : σ → ι → Step ε σ α) (start : σ)
    (inputs : List ι) (initially : follows [] start)
    (step : ∀ done input state, follows done state →
      follows (done ++ [input]) (act state input).state) :
    follows inputs (run act start inputs) := by
  have onward (rest done : List ι) (state : σ) (before : follows done state) :
      follows (done ++ rest) (run act state rest) := by
    induction rest generalizing done state with
    | nil => rwa [List.append_nil]
    | cons input rest ih =>
      have next := ih (done ++ [input]) _ (step done input state before)
      rwa [List.append_assoc] at next
  exact onward inputs [] start initially

/-- All that a run of inputs logs. -/
def log (act : σ → ι → Step ε σ α) (start : σ) : List ι → List Event
  | [] => []
  | input :: rest => (act start input).events ++ log act (act start input).state rest

/-- The inputs of a run, each with what it was answered. -/
def replies (act : σ → ι → Step ε σ α) (start : σ) : List ι → List (ι × Except ε α)
  | [] => []
  | input :: rest =>
    (input, (act start input).result) :: replies act (act start input).state rest

/-- A side of a state answers its own inputs without a look at the rest of the state, and no
other input changes it. -/
structure Side (act : σ → ι → Step ε σ α) (own : ι → Bool) (side : σ → σ) : Prop where
  result : ∀ state input, own input = true →
    (act (side state) input).result = (act state input).result
  next : ∀ state input, own input = true →
    side (act (side state) input).state = side (act state input).state
  still : ∀ state input, own input = false → side (act state input).state = side state

/-- Without the inputs of others a side ends up the same, and its own inputs are answered the
same. -/
theorem Side.run_filter {act : σ → ι → Step ε σ α} {own : ι → Bool} {side : σ → σ}
    (apart : Side act own side) (inputs : List ι) (state other : σ)
    (same : side state = side other) :
    side (run act state inputs) = side (run act other (inputs.filter own)) ∧
    (replies act state inputs).filter (own ·.1) = replies act other (inputs.filter own) := by
  induction inputs generalizing state other with
  | nil => exact ⟨same, rfl⟩
  | cons input rest ih =>
    cases mine : own input with
    | true =>
      have answered : (act state input).result = (act other input).result := by
        rw [← apart.result state input mine, same, apart.result other input mine]
      have onward : side (act state input).state = side (act other input).state := by
        rw [← apart.next state input mine, same, apart.next other input mine]
      obtain ⟨ended, replied⟩ := ih _ _ onward
      rw [List.filter_cons_of_pos mine]
      refine ⟨ended, ?_⟩
      simp only [replies, List.filter_cons, mine, ↓reduceIte, replied, answered]
    | false =>
      have foreign : ¬own input = true := by simp [mine]
      rw [List.filter_cons_of_neg foreign]
      obtain ⟨ended, replied⟩ := ih _ other ((apart.still state input mine).trans same)
      refine ⟨ended, ?_⟩
      simp only [replies, List.filter_cons, mine, Bool.false_eq_true, ↓reduceIte, replied]

end Step

end Typecase
