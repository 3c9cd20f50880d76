import Mathlib.Algebra.Order.Field.Rat
import Mathlib.Tactic.Ring

/-!
Decimal numerals as texts and as numbers: an optional sign, at least one digit,
and an optional point with further digits.
-/

namespace ZephyrWorkshop.Decimal

def Digit (c : Char) : Prop := '0' ≤ c ∧ c ≤ '9'

instance (c : Char) : Decidable (Digit c) := inferInstanceAs (Decidable (_ ∧ _))

def digitValue (c : Char) : Nat := c.toNat - '0'.toNat

/-- Digits read after a number that was already read, most significant first. -/
def readOn (n : Nat) (digits : List Char) : Nat := digits.foldl (fun n c => n * 10 + digitValue c) n

/-- The number that digits denote. -/
def natural (digits : List Char) : Nat := readOn 0 digits

inductive Sign
  | Unsigned
  | Plus
  | Minus
deriving DecidableEq, Repr

def Sign.text : Sign → List Char
  | .Unsigned => []
  | .Plus => ['+']
  | .Minus => ['-']

def Sign.factor : Sign → Int
  | .Minus => -1
  | _ => 1

structure Numeral where
  sign : Sign
  whole : List Char
  /-- The digits after the point, if there is one. -/
  fraction : Option (List Char)
  whole_nonempty : whole ≠ []
  whole_digits : ∀ c ∈ whole, Digit c
  fraction_digits : ∀ digits ∈ fraction, ∀ c ∈ digits, Digit c

/-- The digits after the point; none without one. -/
def Numeral.places (n : Numeral) : List Char := n.fraction.getD []

def Numeral.tail (n : Numeral) : List Char :=
  match n.fraction with
  | none => []
  | some digits => '.' :: digits

def Numeral.text (n : Numeral) : List Char := n.sign.text ++ (n.whole ++ n.tail)

/-- The signed number that a numeral denotes. -/
def Numeral.value (n : Numeral) : ℚ :=
  n.sign.factor * (natural n.whole + natural n.places / 10 ^ n.places.length)

/-- A text is a numeral of this number. -/
def Denotes (text : List Char) (x : ℚ) : Prop := ∃ n : Numeral, n.text = text ∧ n.value = x

/-- A check of all the characters of a text. -/
theorem digits_of_all {text : List Char} (checked : text.all (fun c => decide (Digit c)) = true) :
    ∀ c ∈ text, Digit c := by
  simpa using checked

theorem digitValue_lt {c : Char} (digit : Digit c) : digitValue c < 10 := by
  have high : c.toNat ≤ '9'.toNat := UInt32.le_iff_toNat_le.mp digit.2
  have nine : '9'.toNat = 57 := rfl
  have zero : '0'.toNat = 48 := rfl
  unfold digitValue
  omega

@[simp] theorem readOn_nil (n : Nat) : readOn n [] = n := rfl

@[simp] theorem readOn_cons (n : Nat) (c : Char) (digits : List Char) :
    readOn n (c :: digits) = readOn (n * 10 + digitValue c) digits := by
  simp only [readOn, List.foldl_cons]

theorem le_readOn (n : Nat) (digits : List Char) : n ≤ readOn n digits := by
  induction digits generalizing n with
  | nil => exact le_rfl
  | cons c rest ih =>
    have later := ih (n * 10 + digitValue c)
    rw [readOn_cons]
    omega

theorem readOn_lt {n k : Nat} {digits : List Char} (all : ∀ c ∈ digits, Digit c) (small : n < 10 ^ k) :
    readOn n digits < 10 ^ (k + digits.length) := by
  induction digits generalizing n k with
  | nil => exact small
  | cons c rest ih =>
    have digit := digitValue_lt (all c (by simp))
    have next : n * 10 + digitValue c < 10 ^ (k + 1) := by
      rw [pow_succ]
      omega
    have later := ih (fun d member => all d (by simp [member])) next
    rw [readOn_cons, List.length_cons, ← Nat.add_assoc, Nat.add_right_comm]
    exact later

theorem natural_lt {digits : List Char} (all : ∀ c ∈ digits, Digit c) : natural digits < 10 ^ digits.length := by
  have bound := readOn_lt all (by omega : 0 < 10 ^ 0)
  rwa [Nat.zero_add] at bound

theorem Numeral.places_digits (n : Numeral) : ∀ c ∈ n.places, Digit c := by
  unfold Numeral.places
  cases fraction : n.fraction with
  | none => simp
  | some digits => exact n.fraction_digits digits fraction

/-- A numeral without its sign starts with a digit. -/
theorem Numeral.head_digit (n : Numeral) : ∃ c rest, n.whole ++ n.tail = c :: rest ∧ Digit c := by
  cases whole : n.whole with
  | nil => exact absurd whole n.whole_nonempty
  | cons c rest => exact ⟨c, rest ++ n.tail, rfl, n.whole_digits c (by simp [whole])⟩

theorem Numeral.tail_chars (n : Numeral) : ∀ c ∈ n.tail, Digit c ∨ c = '.' := by
  intro c member
  unfold Numeral.tail at member
  cases fraction : n.fraction with
  | none =>
    rw [fraction] at member
    cases member
  | some digits =>
    rw [fraction] at member
    rcases List.mem_cons.mp member with point | digit
    · exact .inr point
    · exact .inl (n.fraction_digits digits fraction c digit)

theorem Numeral.magnitude_chars (n : Numeral) : ∀ c ∈ n.whole ++ n.tail, Digit c ∨ c = '.' := by
  intro c member
  rcases List.mem_append.mp member with digit | later
  · exact .inl (n.whole_digits c digit)
  · exact n.tail_chars c later

/-- Behind its first character a numeral has no sign. -/
theorem Numeral.later_chars (n : Numeral) : ∀ c ∈ n.text.tail, Digit c ∨ c = '.' := by
  intro c member
  unfold Numeral.text at member
  cases sign : n.sign with
  | Unsigned =>
    rw [sign] at member
    exact n.magnitude_chars c (List.mem_of_mem_tail member)
  | Plus | Minus =>
    rw [sign] at member
    exact n.magnitude_chars c member

/-- The digits in front of the point are those up to the first other character. -/
theorem Numeral.takeWhile_whole (n : Numeral) : (n.whole ++ n.tail).takeWhile (fun c => decide (Digit c)) = n.whole := by
  have ends : n.tail.takeWhile (fun c => decide (Digit c)) = [] := by
    unfold Numeral.tail
    cases n.fraction with
    | none => rfl
    | some digits => rfl
  rw [List.takeWhile_append_of_pos (by simpa using n.whole_digits), ends, List.append_nil]

/-- The text of a numeral determines its parts. -/
theorem Numeral.text_injective {n m : Numeral} (same : n.text = m.text) :
    n.sign = m.sign ∧ n.whole = m.whole ∧ n.fraction = m.fraction := by
  obtain ⟨c, rest, head, digit⟩ := n.head_digit
  obtain ⟨d, rest', head', digit'⟩ := m.head_digit
  have plus : ¬ Digit '+' := by decide
  have minus : ¬ Digit '-' := by decide
  have parts : n.sign = m.sign ∧ n.whole ++ n.tail = m.whole ++ m.tail := by
    unfold Numeral.text at same
    rw [head, head'] at same ⊢
    cases sign : n.sign <;> cases sign' : m.sign <;> rw [sign, sign'] at same <;>
      simp only [Sign.text, List.nil_append, List.cons_append, List.cons.injEq] at same
    case Unsigned.Unsigned => exact ⟨rfl, by rw [same.1, same.2]⟩
    case Unsigned.Plus => exact absurd (same.1 ▸ digit) plus
    case Unsigned.Minus => exact absurd (same.1 ▸ digit) minus
    case Plus.Unsigned => exact absurd (same.1 ▸ digit') plus
    case Plus.Plus => exact ⟨rfl, by rw [same.2.1, same.2.2]⟩
    case Plus.Minus => exact absurd same.1 (by decide)
    case Minus.Unsigned => exact absurd (same.1 ▸ digit') minus
    case Minus.Plus => exact absurd same.1 (by decide)
    case Minus.Minus => exact ⟨rfl, by rw [same.2.1, same.2.2]⟩
  obtain ⟨sign, rest⟩ := parts
  have whole : n.whole = m.whole := by rw [← n.takeWhile_whole, rest, m.takeWhile_whole]
  rw [whole] at rest
  have tail : n.tail = m.tail := List.append_cancel_left rest
  refine ⟨sign, whole, ?_⟩
  unfold Numeral.tail at tail
  cases fraction : n.fraction <;> cases fraction' : m.fraction <;> simp_all

/-- A text is a numeral of one number at most. -/
theorem Denotes.unique {text : List Char} {x y : ℚ} (first : Denotes text x) (second : Denotes text y) : x = y := by
  obtain ⟨n, written, rfl⟩ := first
  obtain ⟨m, written', rfl⟩ := second
  obtain ⟨sign, whole, fraction⟩ := Numeral.text_injective (written.trans written'.symm)
  simp only [Numeral.value, Numeral.places, sign, whole, fraction]

end ZephyrWorkshop.Decimal
