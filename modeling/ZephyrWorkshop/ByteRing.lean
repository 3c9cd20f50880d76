import Mathlib.Tactic.Ring

/-!
A byte ring with two cursors. The unread bytes start at the read cursor and may
go on at the start of the array; a reader claims some of them, as far as they
are contiguous, and finishes its claims by consuming a number of bytes.
-/

namespace ZephyrWorkshop.ByteRing

structure Ring where
  bytes : List UInt8
  /-- Where the oldest unread byte is. -/
  read : Nat
  unread : Nat
  /-- How many of the unread bytes are claimed. -/
  claimed : Nat
  read_lt : read < bytes.length
  unread_le : unread ≤ bytes.length
  claimed_le : claimed ≤ unread
  size_lt : bytes.length < 2 ^ 32
deriving DecidableEq, Repr

namespace Ring

def capacity (r : Ring) : Nat := r.bytes.length

/-- Where the claim cursor is. -/
def cursor (r : Ring) : Nat := (r.read + r.claimed) % r.capacity

/-- The bytes of the next claim: unclaimed, contiguous, and no more than asked for. -/
def grant (r : Ring) (size : Nat) : Nat := min size (min (r.unread - r.claimed) (r.capacity - r.cursor))

def claim (r : Ring) (size : Nat) : Ring :=
  { r with
    claimed := r.claimed + r.grant size
    claimed_le := by
      have := r.claimed_le
      unfold grant
      omega }

/-- Gives the claims back and consumes nothing. -/
def rewind (r : Ring) : Ring := { r with claimed := 0, claimed_le := Nat.zero_le _ }

/-- Where the unread byte of an index is, oldest first. -/
def position (r : Ring) (index : Nat) : Nat := (r.read + index) % r.capacity

@[simp] theorem bytes_claim (r : Ring) (size : Nat) : (r.claim size).bytes = r.bytes := rfl

@[simp] theorem rewind_claim (r : Ring) (size : Nat) : (r.claim size).rewind = r.rewind := rfl

theorem rewind_eq_self {r : Ring} (unclaimed : r.claimed = 0) : r.rewind = r := by
  cases r
  simp only [rewind] at unclaimed ⊢
  subst unclaimed
  rfl

theorem cursor_unclaimed {r : Ring} (unclaimed : r.claimed = 0) : r.cursor = r.read := by
  rw [cursor, unclaimed, Nat.add_zero]
  exact Nat.mod_eq_of_lt r.read_lt

theorem grant_unclaimed {r : Ring} (unclaimed : r.claimed = 0) (size : Nat) :
    r.grant size = min size (min r.unread (r.capacity - r.read)) := by
  rw [grant, cursor_unclaimed unclaimed, unclaimed, Nat.sub_zero]

/-- Up to the end of the array, the unread bytes are contiguous. -/
theorem position_contiguous {r : Ring} {index : Nat} (inside : r.read + index < r.capacity) :
    r.position index = r.read + index := Nat.mod_eq_of_lt inside

end Ring

end ZephyrWorkshop.ByteRing
