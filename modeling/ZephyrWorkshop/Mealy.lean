import Mathlib.Tactic.Common

/-!
Machines that answer each input. A step takes a state and an input to the next
state and an output, so a session is the list of its inputs, and what it shows
is the list of its outputs. `final_preserves` is the invariant rule of sessions,
and `refines` the simulation rule: two machines that agree on each answer, in
related states, agree on every session.
-/

namespace ZephyrWorkshop.Mealy

variable {State Input Output : Type*} (step : State → Input → State × Output)

/-- The state after a session. -/
def final : State → List Input → State
  | s, [] => s
  | s, i :: rest => final (step s i).1 rest

/-- The answers of a session. -/
def outputs : State → List Input → List Output
  | _, [] => []
  | s, i :: rest => (step s i).2 :: outputs (step s i).1 rest

/-- Every input of a session meets `C` in the state that gets it. -/
def EachInput (C : State → Input → Prop) : State → List Input → Prop
  | _, [] => True
  | s, i :: rest => C s i ∧ EachInput C (step s i).1 rest

instance decidableEachInput (C : State → Input → Prop) [∀ s i, Decidable (C s i)] (s : State) (inputs : List Input) :
    Decidable (EachInput step C s inputs) :=
  match inputs with
  | [] => .isTrue trivial
  | i :: rest => have := decidableEachInput C (step s i).1 rest; inferInstanceAs (Decidable (_ ∧ _))

/-- Every state of a session satisfies `P`, the first and the last included. -/
def Always (P : State → Prop) : State → List Input → Prop
  | s, [] => P s
  | s, i :: rest => P s ∧ Always P (step s i).1 rest

@[simp] theorem final_nil (s : State) : final step s [] = s := rfl

@[simp] theorem final_cons (s : State) (i : Input) (rest : List Input) :
    final step s (i :: rest) = final step (step s i).1 rest := rfl

@[simp] theorem outputs_nil (s : State) : outputs step s [] = [] := rfl

@[simp] theorem outputs_cons (s : State) (i : Input) (rest : List Input) :
    outputs step s (i :: rest) = (step s i).2 :: outputs step (step s i).1 rest := rfl

theorem final_append (s : State) (first second : List Input) :
    final step s (first ++ second) = final step (final step s first) second := by
  induction first generalizing s with
  | nil => rfl
  | cons i rest ih => exact ih (step s i).1

theorem final_concat (s : State) (inputs : List Input) (i : Input) :
    final step s (inputs ++ [i]) = (step (final step s inputs) i).1 := final_append step s inputs [i]

variable {step}

theorem Always.head {P : State → Prop} {s : State} {inputs : List Input} (always : Always step P s inputs) : P s := by
  cases inputs with
  | nil => exact always
  | cons i rest => exact always.1

theorem Always.concat {P : State → Prop} {s : State} {inputs : List Input} {i : Input}
    (always : Always step P s inputs) (holds : P (step (final step s inputs) i).1) :
    Always step P s (inputs ++ [i]) := by
  induction inputs generalizing s with
  | nil => exact ⟨always, holds⟩
  | cons j rest ih => exact ⟨always.1, ih always.2 holds⟩

/-- What a step preserves, where its input is one of `Q`, holds after every session of such inputs. -/
theorem final_preserves_of_mem {P : State → Prop} {Q : Input → Prop}
    (preserved : ∀ s i, P s → Q i → P (step s i).1) {s : State} {inputs : List Input} (holds : P s)
    (each : ∀ i ∈ inputs, Q i) : P (final step s inputs) := by
  induction inputs generalizing s with
  | nil => exact holds
  | cons i rest ih =>
    have first : P (step s i).1 := preserved s i holds (each i List.mem_cons_self)
    exact ih first (fun j member => each j (List.mem_cons_of_mem i member))

/-- What every step preserves holds after every session. -/
theorem final_preserves {P : State → Prop} (preserved : ∀ s i, P s → P (step s i).1) {s : State}
    (inputs : List Input) (holds : P s) : P (final step s inputs) :=
  final_preserves_of_mem (Q := fun _ => True) (fun s i holds _ => preserved s i holds) holds (fun _ _ => trivial)

/-! ### What a session shows -/

/-- A note that is kept of the inputs and their answers alone. -/
def noted {Note : Type*} (note : Note → Input → Output → Note) : Note → List Input → List Output → Note
  | n, i :: inputs, o :: outputs => noted note (note n i o) inputs outputs
  | n, _, _ => n

/-- Where a step keeps a relation between the state and the note, so does a session. -/
theorem final_noted {Note : Type*} {note : Note → Input → Output → Note} {R : State → Note → Prop}
    (kept : ∀ s n i, R s n → R (step s i).1 (note n i (step s i).2)) {s : State} {n : Note} (inputs : List Input)
    (related : R s n) : R (final step s inputs) (noted note n inputs (outputs step s inputs)) := by
  induction inputs generalizing s n with
  | nil => exact related
  | cons i rest ih => exact ih (kept s n i related)

/-! ### Refinement -/

variable {Abstract : Type*} {spec : Abstract → Input → Abstract × Output}

/-- Where related states give the same answer and stay related, as long as the
    inputs meet `C`, such a session has the same answers and ends in related states. -/
theorem refines {R : State → Abstract → Prop} {C : State → Input → Prop}
    (simulates : ∀ s a i, R s a → C s i → (step s i).2 = (spec a i).2 ∧ R (step s i).1 (spec a i).1)
    {s : State} {a : Abstract} {inputs : List Input} (related : R s a) (each : EachInput step C s inputs) :
    outputs step s inputs = outputs spec a inputs ∧ R (final step s inputs) (final spec a inputs) := by
  induction inputs generalizing s a with
  | nil => exact ⟨rfl, related⟩
  | cons i rest ih =>
    obtain ⟨same, next⟩ := simulates s a i related each.1
    obtain ⟨later, ends⟩ := ih next each.2
    exact ⟨by rw [outputs_cons, outputs_cons, same, later], ends⟩

end ZephyrWorkshop.Mealy
