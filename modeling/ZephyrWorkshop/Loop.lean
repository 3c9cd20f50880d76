import Mathlib.Tactic.Common

/-!
Loops of an imperative program. A loop runs its body until the body leaves it;
the fuel bounds the number of rounds, and a loop that runs out of it has no
result. A body may hold loops of its own and so takes fuel as well. `LoopsTo` says
that a loop ends with a result under every fuel that is large enough.
-/

namespace ZephyrWorkshop.Loop

variable {State Result : Type*}

/-- The result with which the body leaves the loop. -/
def loop (body : State → Option (State ⊕ Result)) : Nat → State → Option Result
  | 0, _ => none
  | fuel + 1, s =>
    match body s with
    | none => none
    | some (.inl next) => loop body fuel next
    | some (.inr result) => some result

/-- A computation that takes fuel has this result under all large enough fuel. -/
def Eventually (f : Nat → Option Result) (result : Result) : Prop :=
  ∃ enough, ∀ fuel, enough ≤ fuel → f fuel = some result

/-- The loop ends with this result, once its own fuel and that of its body suffice. -/
def LoopsTo (body : Nat → State → Option (State ⊕ Result)) (s : State) (result : Result) : Prop :=
  ∃ enough, ∀ inner, enough ≤ inner → ∀ fuel, enough ≤ fuel → loop (body inner) fuel s = some result

theorem Eventually.unique {f : Nat → Option Result} {one two : Result} (first : Eventually f one)
    (second : Eventually f two) : one = two := by
  obtain ⟨n, runs⟩ := first
  obtain ⟨m, runs'⟩ := second
  exact Option.some.inj ((runs (max n m) (by omega)).symm.trans (runs' (max n m) (by omega)))

theorem Eventually.of_all {f : Nat → Option Result} {result : Result} (always : ∀ fuel, f fuel = some result) :
    Eventually f result := ⟨0, fun fuel _ => always fuel⟩

/-- Partial correctness. What every round preserves gives, in the round that leaves
    the loop, what is known of its result. -/
theorem loop_invariant {body : State → Option (State ⊕ Result)} {I : State → Prop} {Q : Result → Prop}
    (goesOn : ∀ s next, I s → body s = some (.inl next) → I next)
    (leaves : ∀ s result, I s → body s = some (.inr result) → Q result) {fuel : Nat} {s : State} {result : Result}
    (holds : I s) (ends : loop body fuel s = some result) : Q result := by
  induction fuel generalizing s with
  | zero => cases ends
  | succ fuel ih =>
    rw [loop] at ends
    split at ends
    · cases ends
    · rename_i next round
      exact ih (goesOn s next holds round) ends
    · rename_i last round
      cases ends
      exact leaves s result holds round

/-- Where a map of states takes every round of one body to a round of another,
    it takes the loop of the one to the loop of the other. -/
theorem loop_map {State' Result' : Type*} {body : State → Option (State ⊕ Result)}
    {body' : State' → Option (State' ⊕ Result')} (onState : State → State') (onResult : Result → Result')
    (simulates : ∀ s, body' (onState s) = (body s).map (Sum.map onState onResult)) (fuel : Nat) (s : State) :
    loop body' fuel (onState s) = (loop body fuel s).map onResult := by
  induction fuel generalizing s with
  | zero => rfl
  | succ fuel ih =>
    rw [loop, loop, simulates]
    cases body s with
    | none => rfl
    | some round =>
      cases round with
      | inl next => exact ih next
      | inr result => rfl

variable {body : Nat → State → Option (State ⊕ Result)} {s next : State} {result : Result}

theorem LoopsTo.eventually (loops : LoopsTo body s result) :
    Eventually (fun fuel => loop (body fuel) fuel s) result := by
  obtain ⟨enough, runs⟩ := loops
  exact ⟨enough, fun fuel large => runs fuel large fuel large⟩

/-- A round that leaves the loop. -/
theorem LoopsTo.done (leaves : Eventually (fun fuel => body fuel s) (.inr result)) : LoopsTo body s result := by
  obtain ⟨enough, runs⟩ := leaves
  refine ⟨enough + 1, fun inner large fuel positive => ?_⟩
  obtain ⟨fuel, rfl⟩ : ∃ n, fuel = n + 1 := ⟨fuel - 1, by omega⟩
  have round := runs inner (by omega)
  dsimp only at round
  rw [loop, round]

/-- A round that goes on, and the rounds after it. -/
theorem LoopsTo.again (goesOn : Eventually (fun fuel => body fuel s) (.inl next)) (rest : LoopsTo body next result) :
    LoopsTo body s result := by
  obtain ⟨enough, runs⟩ := goesOn
  obtain ⟨later, loops⟩ := rest
  refine ⟨max enough later + 1, fun inner large fuel positive => ?_⟩
  obtain ⟨fuel, rfl⟩ : ∃ n, fuel = n + 1 := ⟨fuel - 1, by omega⟩
  have round := runs inner (by omega)
  dsimp only at round
  rw [loop, round]
  exact loops inner (by omega) fuel (by omega)

/-- Total correctness. Where each round from a state in `I` either goes on in `I`
    with a smaller measure or leaves with a result in `Q`, the loop ends with
    such a result. -/
theorem LoopsTo.of_measure {I : State → Prop} {Q : Result → Prop} (measure : State → Nat)
    (round : ∀ s, I s →
      (∃ next, Eventually (fun fuel => body fuel s) (.inl next) ∧ I next ∧ measure next < measure s) ∨
      ∃ result, Eventually (fun fuel => body fuel s) (.inr result) ∧ Q result)
    {s : State} (holds : I s) : ∃ result, LoopsTo body s result ∧ Q result := by
  induction bound : measure s using Nat.strongRecOn generalizing s with
  | ind n ih =>
    rcases round s holds with ⟨next, goesOn, holdsNext, smaller⟩ | ⟨result, leaves, ends⟩
    · rw [bound] at smaller
      obtain ⟨result, loops, ends⟩ := ih _ smaller holdsNext rfl
      exact ⟨result, .again goesOn loops, ends⟩
    · exact ⟨result, .done leaves, ends⟩

end ZephyrWorkshop.Loop
