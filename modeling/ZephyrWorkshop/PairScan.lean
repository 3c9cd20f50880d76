import Mathlib.Data.List.Infix
import Mathlib.Tactic.Common

/-!
Two elements side by side in a list that comes in chunks. A pair of the whole
list is in one of the chunks or has one element on each side of a boundary
(`pair_append_iff`), so that a scanner which looks at one chunk at a time needs
the last element before it and nothing else.
-/

namespace ZephyrWorkshop.PairScan

variable {α : Type*} {a b : α}

/-- The pair is somewhere in the list. -/
def Pair (a b : α) (l : List α) : Prop := [a, b] <:+: l

theorem not_pair_nil : ¬ Pair a b [] := by
  intro pair
  simpa using pair.length_le

theorem pair_cons_iff {x : α} {l : List α} : Pair a b (x :: l) ↔ (x = a ∧ l.head? = some b) ∨ Pair a b l := by
  unfold Pair
  rw [List.infix_cons_iff]
  apply or_congr_left
  rw [List.cons_prefix_cons, eq_comm (a := a)]
  apply and_congr_right
  intro _
  cases l with
  | nil => simp
  | cons y rest => simp [List.cons_prefix_cons, eq_comm]

/-- A pair of two chunks is in one of them or across the boundary. -/
theorem pair_append_iff {l m : List α} :
    Pair a b (l ++ m) ↔ Pair a b l ∨ (l.getLast? = some a ∧ m.head? = some b) ∨ Pair a b m := by
  induction l with
  | nil => simp [not_pair_nil]
  | cons x rest ih =>
    rw [List.cons_append, pair_cons_iff, pair_cons_iff, ih]
    cases rest with
    | nil => simp [not_pair_nil]
    | cons y rest => simp [or_assoc]

/-- The last element of a chunk is all that the next one needs of it. -/
theorem pair_append_last {l m : List α} {x : α} (last : l.getLast? = some x) :
    Pair a b (l ++ m) ↔ Pair a b l ∨ Pair a b (x :: m) := by
  rw [pair_append_iff, pair_cons_iff, last, Option.some.injEq]

/-- The scan of one chunk, where neighbours are compared. -/
def adjacent [DecidableEq α] (a b : α) : List α → Bool
  | x :: y :: rest => (x = a ∧ y = b) || adjacent a b (y :: rest)
  | _ => false

theorem adjacent_iff [DecidableEq α] {l : List α} : adjacent a b l = true ↔ Pair a b l := by
  induction l with
  | nil => simp [adjacent, not_pair_nil]
  | cons x rest ih =>
    rw [pair_cons_iff]
    cases rest with
    | nil => simp [adjacent, not_pair_nil]
    | cons y rest => simp [adjacent, ih]

end ZephyrWorkshop.PairScan
