import Mathlib.Data.ENat.Basic
import Mathlib.Data.List.Infix
import Mathlib.Tactic.Common

/-!
Runs of a deterministic labelled transition system. A step function says, for
each state and action, the state after it, or `none` where the action is not
enabled. A run is the list of its actions. `Always` and `EachStep` say what
holds in every state of a run and before every step of it; both follow the
recursion of the run, so that an invariant is proved by one step lemma.
-/

namespace ZephyrWorkshop.Transition

variable {State : Type*} {Action : Type*} (step : State → Action → Option State)

/-- The state after the actions, or `none` once one of them is not enabled. -/
def run : State → List Action → Option State
  | s, [] => some s
  | s, a :: rest => (step s a).bind (fun next => run next rest)

theorem run_cons (s : State) (a : Action) (rest : List Action) :
    run step s (a :: rest) = (step s a).bind (fun next => run step next rest) := rfl

theorem run_append (s : State) (first second : List Action) :
    run step s (first ++ second) = (run step s first).bind (fun middle => run step middle second) := by
  induction first generalizing s with
  | nil => rfl
  | cons a rest ih =>
    rw [List.cons_append, run_cons, run_cons]
    cases step s a with
    | none => rfl
    | some next => simpa using ih next

theorem run_concat (s : State) (acts : List Action) (a : Action) :
    run step s (acts ++ [a]) = (run step s acts).bind (fun middle => step middle a) := by
  rw [run_append]
  congr 1
  funext middle
  rw [run_cons]
  cases step middle a <;> rfl

/-- Some run from the initial state ends in this state. -/
def Reachable (init s : State) : Prop := ∃ acts, run step init acts = some s

variable {step}

theorem Reachable.initial (init : State) : Reachable step init init := ⟨[], rfl⟩

theorem Reachable.next {init s next : State} {a : Action} (reached : Reachable step init s)
    (taken : step s a = some next) : Reachable step init next := by
  obtain ⟨acts, executed⟩ := reached
  exact ⟨acts ++ [a], by rw [run_concat, executed, Option.bind_some, taken]⟩

theorem Reachable.run {init s last : State} {acts : List Action} (reached : Reachable step init s)
    (executed : run step s acts = some last) : Reachable step init last := by
  obtain ⟨before, executedBefore⟩ := reached
  exact ⟨before ++ acts, by rw [run_append, executedBefore, Option.bind_some, executed]⟩

/-- What every enabled step preserves holds at the end of every run. -/
theorem run_preserves {P : State → Prop}
    (preserved : ∀ s a next, P s → step s a = some next → P next)
    {acts : List Action} {s last : State} (holds : P s) (executed : run step s acts = some last) :
    P last := by
  induction acts generalizing s with
  | nil =>
    cases executed
    exact holds
  | cons a rest ih =>
    rw [run_cons] at executed
    obtain ⟨next, taken, tail⟩ := Option.bind_eq_some_iff.mp executed
    exact ih (preserved s a next holds taken) tail

theorem Reachable.preserves {P : State → Prop}
    (preserved : ∀ s a next, P s → step s a = some next → P next)
    {init s : State} (holds : P init) (reached : Reachable step init s) : P s := by
  obtain ⟨acts, executed⟩ := reached
  exact run_preserves preserved holds executed

variable (step)

/-- Every state of the run satisfies `P`, the first and the last included. -/
def Always (P : State → Prop) : State → List Action → Prop
  | s, [] => P s
  | s, a :: rest => P s ∧ ∀ next, step s a = some next → Always P next rest

/-- Every step that the run takes meets `C` in the state before it. -/
def EachStep (C : State → Action → Prop) : State → List Action → Prop
  | _, [] => True
  | s, a :: rest => ∀ next, step s a = some next → C s a ∧ EachStep C next rest

variable {step}

theorem Always.head {P : State → Prop} {s : State} {acts : List Action}
    (always : Always step P s acts) : P s := by
  cases acts with
  | nil => exact always
  | cons a rest => exact always.1

/-- Where every step by an action in `Q` keeps `I`, and keeps `P` exactly when it
    meets `C`, a run of such actions stays in `P` exactly when each of its steps
    meets `C`. -/
theorem always_iff_eachStep_of_mem {I P : State → Prop} {Q : Action → Prop} {C : State → Action → Prop}
    (kept : ∀ s a next, I s → step s a = some next → I next)
    (exact_step : ∀ s a next, I s → P s → Q a → step s a = some next → (P next ↔ C s a))
    {s : State} {acts : List Action} (each : ∀ a ∈ acts, Q a) (invariant : I s) (holds : P s) :
    Always step P s acts ↔ EachStep step C s acts := by
  induction acts generalizing s with
  | nil => exact ⟨fun _ => trivial, fun _ => holds⟩
  | cons a rest ih =>
    have first : Q a := each a List.mem_cons_self
    have others : ∀ b ∈ rest, Q b := fun b later => each b (List.mem_cons_of_mem a later)
    constructor
    · rintro ⟨_, later⟩ next taken
      have always := later next taken
      have holdsNext : P next := always.head
      exact ⟨(exact_step s a next invariant holds first taken).mp holdsNext,
        (ih others (kept s a next invariant taken) holdsNext).mp always⟩
    · intro steps
      refine ⟨holds, fun next taken => ?_⟩
      obtain ⟨meets, tail⟩ := steps next taken
      have holdsNext : P next := (exact_step s a next invariant holds first taken).mpr meets
      exact (ih others (kept s a next invariant taken) holdsNext).mpr tail

/-- The same, where it holds of every step. -/
theorem always_iff_eachStep {I P : State → Prop} {C : State → Action → Prop}
    (kept : ∀ s a next, I s → step s a = some next → I next)
    (exact_step : ∀ s a next, I s → P s → step s a = some next → (P next ↔ C s a))
    {s : State} {acts : List Action} (invariant : I s) (holds : P s) :
    Always step P s acts ↔ EachStep step C s acts := by
  refine always_iff_eachStep_of_mem (Q := fun _ => True) kept ?_ (fun _ _ => trivial) invariant holds
  exact fun s a next keeps before _ taken => exact_step s a next keeps before taken

/-- Where `P`, once lost, stays lost, and a step keeps it exactly when it meets
    `C`, a run ends in `P` exactly when each of its steps meets `C`. -/
theorem last_iff_eachStep {I P : State → Prop} {C : State → Action → Prop}
    (kept : ∀ s a next, I s → step s a = some next → I next)
    (exact_step : ∀ s a next, I s → P s → step s a = some next → (P next ↔ C s a))
    (lost : ∀ s a next, I s → ¬ P s → step s a = some next → ¬ P next)
    {s last : State} {acts : List Action} (invariant : I s) (holds : P s) (executed : run step s acts = some last) :
    P last ↔ EachStep step C s acts := by
  induction acts generalizing s with
  | nil =>
    cases executed
    exact ⟨fun _ => trivial, fun _ => holds⟩
  | cons a rest ih =>
    rw [run_cons] at executed
    obtain ⟨next, taken, tail⟩ := Option.bind_eq_some_iff.mp executed
    have invariantNext : I next := kept s a next invariant taken
    by_cases holdsNext : P next
    · rw [ih invariantNext holdsNext tail]
      constructor
      · intro later other again
        rw [taken] at again
        cases again
        exact ⟨(exact_step s a next invariant holds taken).mp holdsNext, later⟩
      · intro steps
        exact (steps next taken).2
    · have ended : ¬ P last := (run_preserves (P := fun s => I s ∧ ¬ P s)
        (fun s a next before moved => ⟨kept s a next before.1 moved, lost s a next before.1 before.2 moved⟩)
        ⟨invariantNext, holdsNext⟩ tail).2
      refine ⟨fun ends => absurd ends ended, ?_⟩
      intro steps
      exact absurd ((exact_step s a next invariant holds taken).mpr (steps next taken).1) holdsNext

/-- What every step that meets a condition preserves holds at the end of a run of such steps. -/
theorem EachStep.preserves {P : State → Prop} {C : State → Action → Prop}
    (preserved : ∀ s a next, P s → C s a → step s a = some next → P next) {s last : State} {acts : List Action}
    (holds : P s) (each : EachStep step C s acts) (executed : run step s acts = some last) : P last := by
  induction acts generalizing s with
  | nil =>
    cases executed
    exact holds
  | cons a rest ih =>
    rw [run_cons] at executed
    obtain ⟨next, taken, tail⟩ := Option.bind_eq_some_iff.mp executed
    obtain ⟨meets, later⟩ := each next taken
    exact ih (preserved s a next holds meets taken) later tail

/-- A record that is kept beside the run, action by action, relates to its last
    state as every step that meets a condition leaves it. -/
theorem EachStep.records {Record : Type*} (record : Record → Action → Record) {R : Record → State → Prop}
    {C : State → Action → Prop}
    (recorded : ∀ r s a next, R r s → C s a → step s a = some next → R (record r a) next) {r : Record} {s last : State}
    {acts : List Action} (holds : R r s) (each : EachStep step C s acts) (executed : run step s acts = some last) :
    R (acts.foldl record r) last := by
  induction acts generalizing r s with
  | nil =>
    cases executed
    exact holds
  | cons a rest ih =>
    rw [run_cons] at executed
    obtain ⟨next, taken, tail⟩ := Option.bind_eq_some_iff.mp executed
    obtain ⟨meets, later⟩ := each next taken
    exact ih (recorded r s a next holds meets taken) later tail

/-- A condition on the actions alone. -/
theorem eachStep_of_mem {Q : Action → Prop} (s : State) {acts : List Action} (each : ∀ a ∈ acts, Q a) :
    EachStep step (fun _ a => Q a) s acts := by
  induction acts generalizing s with
  | nil => trivial
  | cons a rest ih =>
    exact fun next _ => ⟨each a List.mem_cons_self, ih next (fun b member => each b (List.mem_cons_of_mem a member))⟩

/-- The same, where it holds of every step. -/
theorem run_records {Record : Type*} (record : Record → Action → Record) {R : Record → State → Prop}
    (recorded : ∀ r s a next, R r s → step s a = some next → R (record r a) next) {r : Record} {s last : State}
    {acts : List Action} (holds : R r s) (executed : run step s acts = some last) : R (acts.foldl record r) last :=
  EachStep.records record (R := R) (fun r s a next before _ taken => recorded r s a next before taken) holds
    (eachStep_of_mem (Q := fun _ => True) s (fun _ _ => trivial)) executed

/-- A condition that keeps an invariant, and with it implies another condition. -/
theorem EachStep.imp {I : State → Prop} {C D : State → Action → Prop}
    (kept : ∀ s a next, I s → C s a → step s a = some next → I next) (implies : ∀ s a, I s → C s a → D s a)
    {s : State} {acts : List Action} (invariant : I s) (each : EachStep step C s acts) : EachStep step D s acts := by
  induction acts generalizing s with
  | nil => trivial
  | cons a rest ih =>
    intro next taken
    obtain ⟨meets, later⟩ := each next taken
    exact ⟨implies s a invariant meets, ih (kept s a next invariant meets taken) later⟩

/-- Where a step by an action in `Q` preserves `P`, a run of such actions ends in `P`. -/
theorem run_preserves_of_mem {P : State → Prop} {Q : Action → Prop}
    (preserved : ∀ s a next, P s → Q a → step s a = some next → P next)
    {acts : List Action} {s last : State} (holds : P s) (each : ∀ a ∈ acts, Q a)
    (executed : run step s acts = some last) : P last := by
  induction acts generalizing s with
  | nil =>
    cases executed
    exact holds
  | cons a rest ih =>
    rw [run_cons] at executed
    obtain ⟨next, taken, tail⟩ := Option.bind_eq_some_iff.mp executed
    have first : Q a := each a List.mem_cons_self
    exact ih (preserved s a next holds first taken) (fun b later => each b (List.mem_cons_of_mem a later)) tail

/-- A run whose steps are each a step of another system, or none, between the
    images of their states ends in the image of a state that the other reaches. -/
theorem run_simulates {State' Action' : Type*} {step' : State' → Action' → Option State'} {image : State → State'}
    {I : State → Prop} {Q : Action → Prop} (kept : ∀ s a next, I s → Q a → step s a = some next → I next)
    (matched : ∀ s a next, I s → Q a → step s a = some next →
      image next = image s ∨ ∃ b, step' (image s) b = some (image next))
    {acts : List Action} {s last : State} {init : State'} (invariant : I s) (each : ∀ a ∈ acts, Q a)
    (reached : Reachable step' init (image s)) (executed : run step s acts = some last) :
    Reachable step' init (image last) := by
  refine (run_preserves_of_mem (P := fun s => I s ∧ Reachable step' init (image s)) ?_ ⟨invariant, reached⟩ each
    executed).2
  rintro s a next ⟨holds, before⟩ allowed taken
  refine ⟨kept s a next holds allowed taken, ?_⟩
  rcases matched s a next holds allowed taken with same | ⟨b, moved⟩
  · rw [same]
    exact before
  · exact before.next moved

/-! ### Countdowns -/

section
variable {I : State → Prop} {tick : Action} {μ : State → ℕ∞}

/-- Where the steps by one action take one from a measure and the other steps of
    a run leave it, the run takes as many from it as it has such steps. -/
theorem run_lowers [DecidableEq Action] {Q : Action → Prop}
    (kept : ∀ s a next, I s → step s a = some next → I next)
    (ticked : ∀ s next, I s → step s tick = some next → μ next = μ s - 1)
    (other : ∀ s a next, I s → Q a → a ≠ tick → step s a = some next → μ next = μ s)
    {acts : List Action} {s last : State} (invariant : I s) (each : ∀ a ∈ acts, Q a)
    (executed : run step s acts = some last) : μ last = μ s - acts.count tick := by
  induction acts generalizing s with
  | nil =>
    cases executed
    simp
  | cons a rest ih =>
    rw [run_cons] at executed
    obtain ⟨next, taken, tail⟩ := Option.bind_eq_some_iff.mp executed
    have later := ih (kept s a next invariant taken) (fun b member => each b (List.mem_cons_of_mem a member)) tail
    by_cases isTick : a = tick
    · subst isTick
      rw [later, ticked s next invariant taken, List.count_cons_self, tsub_tsub, Nat.cast_add, Nat.cast_one, add_comm]
    · rw [later, other s a next invariant (each a List.mem_cons_self) isTick taken, List.count_cons_of_ne isTick]

/-- Where such a step is enabled until the measure is used up, as many of them
    can be taken as the measure says. -/
theorem run_ticks (kept : ∀ s a next, I s → step s a = some next → I next)
    (ticked : ∀ s next, I s → step s tick = some next → μ next = μ s - 1)
    (enabled : ∀ s, I s → μ s ≠ 0 → ∃ next, step s tick = some next)
    {n : Nat} {s : State} (invariant : I s) (long : n ≤ μ s) :
    ∃ last, run step s (List.replicate n tick) = some last ∧ I last ∧ μ last = μ s - n := by
  induction n generalizing s with
  | zero => exact ⟨s, rfl, invariant, by simp⟩
  | succ n ih =>
    have positive : μ s ≠ 0 := by
      intro zero
      rw [zero] at long
      simp at long
    obtain ⟨next, taken⟩ := enabled s invariant positive
    have lowered := ticked s next invariant taken
    have enough : n ≤ μ next := by
      have shorter : ((n + 1 : Nat) : ℕ∞) - 1 ≤ μ s - 1 := tsub_le_tsub_right long 1
      rw [lowered]
      exact_mod_cast shorter
    obtain ⟨last, executed, holds, used⟩ := ih (kept s tick next invariant taken) enough
    refine ⟨last, ?_, holds, ?_⟩
    · rw [List.replicate_succ, run_cons, taken, Option.bind_some, executed]
    · rw [used, lowered, tsub_tsub, Nat.cast_add, Nat.cast_one, add_comm]

end

end ZephyrWorkshop.Transition
