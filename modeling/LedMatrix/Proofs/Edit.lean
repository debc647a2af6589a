/-
# Runs of edits

An edit either succeeds or fails, and in both cases it leaves a state behind.
`Edit.after` is that state and `Edit.answer` is what the caller is told. A run is
a list of edits, each begun in the state that the one before has left, and a
failure does not end it.

An edit is atomic in a state if its failure leaves the state as it was
(`Edit.Atomic`). What one edit keeps, a run keeps (`Edit.afterAll_keeps`), and two
runs of the same edits on related states stay related and give the same answers if
every single edit does so (`Edit.answers_eq`).
-/

import LedMatrix.CanvasError

namespace LedMatrix.Edit

variable {σ α β : Type}

/-- The state that an edit leaves behind, whether or not it succeeds. -/
def after (edit : Edit σ α) (state : σ) : σ :=
  match edit state with
  | .ok _ left => left
  | .error _ left => left

/-- What the caller of an edit is told. -/
def answer (edit : Edit σ α) (state : σ) : Except CanvasError α :=
  match edit state with
  | .ok answer _ => .ok answer
  | .error cause _ => .error cause

/-- The state that a run of edits leaves behind. -/
def afterAll (edits : List (Edit σ α)) (state : σ) : σ :=
  edits.foldl (fun left edit => edit.after left) state

/-- What the caller of a run is told, one answer for each edit. -/
def answers : List (Edit σ α) → σ → List (Except CanvasError α)
  | [], _ => []
  | edit :: rest, state => edit.answer state :: answers rest (edit.after state)

theorem after_of_ok {edit : Edit σ α} {state left : σ} {value : α}
    (run : edit state = .ok value left) : edit.after state = left := by
  rw [after, run]

theorem after_of_error {edit : Edit σ α} {state left : σ} {cause : CanvasError}
    (run : edit state = .error cause left) : edit.after state = left := by
  rw [after, run]

theorem answer_of_ok {edit : Edit σ α} {state left : σ} {value : α}
    (run : edit state = .ok value left) : edit.answer state = .ok value := by
  rw [answer, run]

theorem answer_of_error {edit : Edit σ α} {state left : σ} {cause : CanvasError}
    (run : edit state = .error cause left) : edit.answer state = .error cause := by
  rw [answer, run]

/-- The state that an edit leaves, if it succeeds. -/
def left? (edit : Edit σ α) (state : σ) : Option σ :=
  match edit state with
  | .ok _ left => some left
  | .error _ _ => none

theorem left?_of_ok {edit : Edit σ α} {state left : σ} {value : α}
    (run : edit state = .ok value left) : edit.left? state = some left := by
  rw [left?, run]

theorem map_of_ok {edit : Edit σ α} {state left : σ} {value : α}
    (run : edit state = .ok value left) (make : α → β) :
    (make <$> edit) state = .ok (make value) left := by
  change EStateM.map make edit state = _
  rw [EStateM.map, run]

theorem map_of_error {edit : Edit σ α} {state left : σ} {cause : CanvasError}
    (run : edit state = .error cause left) (make : α → β) :
    (make <$> edit) state = .error cause left := by
  change EStateM.map make edit state = _
  rw [EStateM.map, run]

/-- Going on after a success. -/
theorem bind_of_ok {edit : Edit σ α} {next : α → Edit σ β} {state left : σ} {value : α}
    (run : edit state = .ok value left) : (edit >>= next) state = next value left := by
  change EStateM.bind edit next state = next value left
  rw [EStateM.bind, run]

/-- A failure ends the edit and keeps the state it was met in. -/
theorem bind_of_error {edit : Edit σ α} {next : α → Edit σ β} {state left : σ}
    {cause : CanvasError} (run : edit state = .error cause left) :
    (edit >>= next) state = .error cause left := by
  change EStateM.bind edit next state = .error cause left
  rw [EStateM.bind, run]

/-- Going on with the state itself. -/
theorem get_bind (next : σ → Edit σ β) (state : σ) : (get >>= next) state = next state state := rfl

/-- Going on after a change that cannot fail. -/
theorem modify_bind (change : σ → σ) (next : PUnit → Edit σ β) (state : σ) :
    (modify change >>= next) state = next ⟨⟩ (change state) := rfl

/-- The last of several steps is taken where the others have led. -/
theorem forM_concat_of_ok {step : α → Edit σ PUnit} {earlier : List α} {state left : σ}
    (ran : earlier.forM step state = .ok ⟨⟩ left) (last : α) :
    (earlier ++ [last]).forM step state = step last left := by
  have split : (earlier ++ [last]).forM step = (earlier.forM step >>= fun _ => [last].forM step) :=
    List.forM_append
  rw [split, bind_of_ok ran]
  change EStateM.bind (step last) (fun _ => pure ⟨⟩) left = step last left
  unfold EStateM.bind
  cases step last left <;> rfl

/-- What is made of the answer does not matter for the state. -/
theorem after_map (make : α → β) (edit : Edit σ α) (state : σ) :
    (make <$> edit).after state = edit.after state := by
  change after (EStateM.map make edit) state = _
  unfold after EStateM.map
  cases edit state <;> rfl

/-- An outcome that is a success or leaves the given state. -/
def Harmless (state : σ) : EStateM.Result CanvasError σ α → Prop
  | .ok _ _ => True
  | .error _ left => left = state

/-- If the edit fails in this state, it leaves the state as it was. -/
def Atomic (edit : Edit σ α) (state : σ) : Prop := Harmless state (edit state)

/-- What is made of the answer does not matter for a failure. -/
theorem Atomic.map {edit : Edit σ α} {state : σ} (atomic : edit.Atomic state) (make : α → β) :
    (make <$> edit : Edit σ β).Atomic state := by
  change Harmless state (EStateM.map make edit state)
  unfold Atomic at atomic
  unfold EStateM.map
  cases ran : edit state with
  | ok answer left => trivial
  | error cause left =>
      rw [ran] at atomic
      exact atomic

theorem Atomic.eq_of_error {edit : Edit σ α} {state left : σ} {cause : CanvasError}
    (atomic : edit.Atomic state) (failed : edit state = .error cause left) : left = state := by
  rw [Atomic, failed] at atomic
  exact atomic

/-- A run goes on where an earlier one has ended. -/
theorem afterAll_append (earlier later : List (Edit σ α)) (state : σ) :
    afterAll (earlier ++ later) state = afterAll later (afterAll earlier state) :=
  List.foldl_append

/-- A property that every edit of a run keeps holds at its end. -/
theorem afterAll_keeps {motive : σ → Prop} {edits : List (Edit σ α)}
    (step : ∀ edit ∈ edits, ∀ state, motive state → motive (edit.after state))
    {state : σ} (holds : motive state) : motive (afterAll edits state) := by
  induction edits generalizing state with
  | nil => exact holds
  | cons edit rest ih =>
      exact ih (fun later member => step later (List.mem_cons_of_mem edit member))
        (step edit List.mem_cons_self state holds)

/-- Two outcomes that tell the caller the same and leave related states behind. -/
inductive Agree (related : σ → σ → Prop) :
    EStateM.Result CanvasError σ α → EStateM.Result CanvasError σ α → Prop
  | /-- Both succeed. -/
    ok (value : α) {first second : σ} (left : related first second) :
      Agree related (.ok value first) (.ok value second)
  | /-- Both fail for the same reason. -/
    error (cause : CanvasError) {first second : σ} (left : related first second) :
      Agree related (.error cause first) (.error cause second)

theorem Agree.answer_eq {related : σ → σ → Prop} {edit : Edit σ α} {first second : σ}
    (agree : Agree related (edit first) (edit second)) :
    edit.answer first = edit.answer second := by
  unfold answer
  generalize edit first = one at agree ⊢
  generalize edit second = other at agree ⊢
  cases agree with
  | ok value left => rfl
  | error cause left => rfl

theorem Agree.after {related : σ → σ → Prop} {edit : Edit σ α} {first second : σ}
    (agree : Agree related (edit first) (edit second)) :
    related (edit.after first) (edit.after second) := by
  unfold Edit.after
  generalize edit first = one at agree ⊢
  generalize edit second = other at agree ⊢
  cases agree with
  | ok value left => exact left
  | error cause left => exact left

/-- Two runs of the same edits cannot be told apart by their answers if no
single edit tells related states apart. -/
theorem answers_eq {related : σ → σ → Prop} {edits : List (Edit σ α)}
    (step : ∀ edit ∈ edits, ∀ first second, related first second →
      Agree related (edit first) (edit second))
    {first second : σ} (start : related first second) :
    answers edits first = answers edits second ∧
      related (afterAll edits first) (afterAll edits second) := by
  induction edits generalizing first second with
  | nil => exact ⟨rfl, start⟩
  | cons edit rest ih =>
      have agree := step edit List.mem_cons_self first second start
      obtain ⟨later, last⟩ :=
        ih (fun other member => step other (List.mem_cons_of_mem edit member)) agree.after
      exact ⟨by rw [answers, answers, agree.answer_eq, later], last⟩

end LedMatrix.Edit
