import ZephyrWorkshop.Decimal
import Mathlib.Tactic.FieldSimp
import Mathlib.Tactic.NormNum

/-!
What `printf` writes for the conversions `%s`, `%d` and `%0Nd`. An integer is
written as its sign and its digits, filled up with zeros to the width, in which
the sign counts. A text that two characters delimit can be read back, since
digits are no delimiters.
-/

namespace ZephyrWorkshop.Printf
open ZephyrWorkshop.Decimal

/-! ### Digits -/

/-- The digits of a number, filled up with zeros. -/
def zeroPadded (width n : Nat) : List Char := (Nat.toDigits 10 n).leftpad width '0'

/-- `%d`, with the width `0`, and `%0Nd`. -/
def decimal (width : Nat) (n : Int) : List Char :=
  if n < 0 then '-' :: zeroPadded (width - 1) n.natAbs else zeroPadded width n.natAbs

theorem natural_eq_ofDigitChars (digits : List Char) : natural digits = Nat.ofDigitChars 10 digits 0 := by
  unfold natural readOn Nat.ofDigitChars
  congr 1
  funext n c
  rw [Nat.mul_comm]
  rfl

@[simp] theorem natural_zeroPadded (width n : Nat) : natural (zeroPadded width n) = n := by
  rw [natural_eq_ofDigitChars, zeroPadded, List.leftpad, Nat.ofDigitChars_append, Nat.ofDigitChars_replicate_zero,
    Nat.mul_zero, Nat.ofDigitChars_ten_toDigits]

theorem digit_of_isDigit {c : Char} (isDigit : c.isDigit = true) : Digit c := by
  have bounds : 48 ≤ c.val ∧ c.val ≤ 57 := by simpa [Char.isDigit] using isDigit
  exact bounds

theorem zeroPadded_digits (width n : Nat) : ∀ c ∈ zeroPadded width n, Digit c := by
  intro c member
  rw [zeroPadded, List.leftpad, List.mem_append] at member
  rcases member with padding | digit
  · rw [List.eq_of_mem_replicate padding]
    decide
  · exact digit_of_isDigit (Nat.isDigit_of_mem_toDigits (by decide) (by decide) digit)

theorem zeroPadded_nonempty (width n : Nat) : zeroPadded width n ≠ [] := by
  simp [zeroPadded, List.leftpad, Nat.toDigits_ne_nil]

/-- A number that fits is written with exactly as many digits as the width says. -/
theorem length_zeroPadded {width n : Nat} (positive : 0 < width) (fits : n < 10 ^ width) :
    (zeroPadded width n).length = width := by
  have short : (Nat.toDigits 10 n).length ≤ width := (Nat.length_toDigits_le_iff (by decide) positive).mpr fits
  rw [zeroPadded, List.leftpad, List.length_append, List.length_replicate]
  omega

/-! ### Integers -/

theorem decimal_nonnegative {n : Int} (width : Nat) (nonnegative : 0 ≤ n) :
    decimal width n = zeroPadded width n.natAbs := if_neg (by omega)

theorem decimal_negative {n : Int} (width : Nat) (negative : n < 0) :
    decimal width n = '-' :: zeroPadded (width - 1) n.natAbs := if_pos negative

theorem natural_decimal (width : Nat) {n : Int} (nonnegative : 0 ≤ n) : (natural (decimal width n) : Int) = n := by
  rw [decimal_nonnegative width nonnegative, natural_zeroPadded, Int.natAbs_of_nonneg nonnegative]

theorem decimal_nonempty (width : Nat) (n : Int) : decimal width n ≠ [] := by
  unfold decimal
  by_cases negative : n < 0
  · simp [negative]
  · simp [negative, zeroPadded_nonempty]

/-- An integer is written with digits and the minus sign alone. -/
theorem decimal_chars (width : Nat) (n : Int) : ∀ c ∈ decimal width n, Digit c ∨ c = '-' := by
  intro c member
  by_cases negative : n < 0
  · rw [decimal_negative width negative, List.mem_cons] at member
    rcases member with sign | digit
    · exact .inr sign
    · exact .inl (zeroPadded_digits _ _ c digit)
  · rw [decimal_nonnegative width (by omega)] at member
    exact .inl (zeroPadded_digits _ _ c member)

theorem notMem_decimal {c : Char} (noDigit : ¬ Digit c) (noSign : c ≠ '-') (width : Nat) (n : Int) :
    c ∉ decimal width n := by
  intro member
  rcases decimal_chars width n c member with digit | sign
  · exact noDigit digit
  · exact noSign sign

/-- Two integers that are written alike are equal. -/
theorem decimal_injective {width : Nat} {n m : Int} (same : decimal width n = decimal width m) : n = m := by
  have signs : ∀ {i j : Int}, i < 0 → 0 ≤ j → decimal width i ≠ decimal width j := by
    intro i j negative nonnegative alike
    have member : '-' ∈ zeroPadded width j.natAbs := by
      rw [← decimal_nonnegative width nonnegative, ← alike, decimal_negative width negative]
      exact List.mem_cons_self
    exact absurd (zeroPadded_digits _ _ _ member) (by decide)
  by_cases first : n < 0
  · by_cases second : m < 0
    · rw [decimal_negative width first, decimal_negative width second, List.cons.injEq] at same
      have values := congrArg natural same.2
      rw [natural_zeroPadded, natural_zeroPadded] at values
      omega
    · exact absurd same (signs first (by omega))
  · by_cases second : m < 0
    · exact absurd same.symm (signs second (by omega))
    · rw [decimal_nonnegative width (by omega), decimal_nonnegative width (by omega)] at same
      have values := congrArg natural same
      rw [natural_zeroPadded, natural_zeroPadded] at values
      omega

/-! ### Fixed-point numbers -/

/-- The numeral with so many places for an integer in units of the last one. -/
def fixedPoint (places : Nat) (n : Int) : Numeral where
  sign := if n < 0 then .Minus else .Unsigned
  whole := zeroPadded 0 (n.natAbs / 10 ^ places)
  fraction := some (zeroPadded places (n.natAbs % 10 ^ places))
  whole_nonempty := zeroPadded_nonempty _ _
  whole_digits := zeroPadded_digits _ _
  fraction_digits := by
    rintro _ ⟨⟩
    exact zeroPadded_digits _ _

theorem fixedPoint_text (places : Nat) (n : Int) :
    (fixedPoint places n).text = (if n < 0 then ['-'] else []) ++
      (zeroPadded 0 (n.natAbs / 10 ^ places) ++ '.' :: zeroPadded places (n.natAbs % 10 ^ places)) := by
  by_cases negative : n < 0 <;> simp [Numeral.text, Numeral.tail, fixedPoint, negative, Sign.text]

theorem fixedPoint_whole (places : Nat) (n : Int) :
    natural (fixedPoint places n).whole = n.natAbs / 10 ^ places := natural_zeroPadded _ _

theorem fixedPoint_places (places : Nat) (n : Int) :
    natural (fixedPoint places n).places = n.natAbs % 10 ^ places := natural_zeroPadded _ _

theorem fixedPoint_length {places : Nat} (positive : 0 < places) (n : Int) :
    (fixedPoint places n).places.length = places :=
  length_zeroPadded positive (Nat.mod_lt _ (Nat.pow_pos (by decide)))

theorem fixedPoint_sign (places : Nat) (n : Int) :
    (fixedPoint places n).sign.factor * (n.natAbs : Int) = n := by
  have sign : (fixedPoint places n).sign = if n < 0 then .Minus else .Unsigned := rfl
  rw [sign]
  by_cases negative : n < 0
  · rw [if_pos negative]
    show -1 * (n.natAbs : Int) = n
    omega
  · rw [if_neg negative]
    show 1 * (n.natAbs : Int) = n
    omega

theorem fixedPoint_value {places : Nat} (positive : 0 < places) (n : Int) :
    (fixedPoint places n).value = n / 10 ^ places := by
  have nonzero : (10 : ℚ) ^ places ≠ 0 := pow_ne_zero _ (by norm_num)
  have split : (n.natAbs : ℚ) = (n.natAbs / 10 ^ places : Nat) * 10 ^ places + (n.natAbs % 10 ^ places : Nat) := by
    exact_mod_cast (Nat.div_add_mod' n.natAbs (10 ^ places)).symm
  have sign : ((fixedPoint places n).sign.factor : ℚ) * (n.natAbs : ℚ) = n := by
    rw [← Int.cast_natCast, ← Int.cast_mul, fixedPoint_sign]
  rw [Numeral.value, fixedPoint_whole, fixedPoint_places, fixedPoint_length positive, ← sign, split]
  field_simp

/-- The text of `n`, by its sign and its two parts. -/
theorem fixedPoint_parts {places whole fraction : Nat} {n : Int} (parts : n.natAbs = whole * 10 ^ places + fraction)
    (small : fraction < 10 ^ places) :
    (fixedPoint places n).text =
      (if n < 0 then ['-'] else []) ++ (zeroPadded 0 whole ++ '.' :: zeroPadded places fraction) := by
  have quotient : n.natAbs / 10 ^ places = whole := by
    rw [parts, Nat.add_comm, Nat.add_mul_div_right _ _ (by omega), Nat.div_eq_of_lt small, Nat.zero_add]
  have remainder : n.natAbs % 10 ^ places = fraction := by
    rw [parts, Nat.add_comm, Nat.add_mul_mod_self_right, Nat.mod_eq_of_lt small]
  rw [fixedPoint_text, quotient, remainder]

/-- What `%d.%0Nd` writes for two parts with one sign, in units of the last place. -/
def pairValue (places : Nat) (a b : Int) : Int := if a < 0 then a * 10 ^ places - b else a * 10 ^ places + b

theorem decimal_pair {places : Nat} {a b : Int} (nonnegative : 0 ≤ b) (small : b < 10 ^ places) :
    decimal 0 a ++ '.' :: decimal places b = (fixedPoint places (pairValue places a b)).text := by
  obtain ⟨fraction, rfl⟩ := Int.eq_ofNat_of_zero_le nonnegative
  have inside : fraction < 10 ^ places := by exact_mod_cast small
  have shown : decimal places fraction = zeroPadded places fraction := by
    rw [decimal_nonnegative places nonnegative, Int.natAbs_natCast]
  unfold pairValue
  by_cases negative : a < 0
  · obtain ⟨whole, rfl⟩ := Int.eq_negSucc_of_lt_zero negative
    have value : Int.negSucc whole * 10 ^ places - fraction = -(((whole + 1) * 10 ^ places + fraction : Nat) : Int) := by
      rw [Int.negSucc_eq]
      push_cast
      ring
    have magnitude : (Int.negSucc whole * 10 ^ places - fraction).natAbs = (whole + 1) * 10 ^ places + fraction := by
      rw [value, Int.natAbs_neg, Int.natAbs_natCast]
    have below : Int.negSucc whole * 10 ^ places - fraction < 0 := by
      have positive : 0 < (whole + 1) * 10 ^ places := Nat.mul_pos (Nat.succ_pos _) (by omega)
      rw [value]
      omega
    rw [if_pos negative, fixedPoint_parts magnitude inside, if_pos below, decimal_negative 0 negative, shown]
    rfl
  · obtain ⟨whole, rfl⟩ := Int.eq_ofNat_of_zero_le (by omega : 0 ≤ a)
    have value : (whole : Int) * 10 ^ places + fraction = ((whole * 10 ^ places + fraction : Nat) : Int) := by
      push_cast
      rfl
    have magnitude : ((whole : Int) * 10 ^ places + fraction).natAbs = whole * 10 ^ places + fraction := by
      rw [value, Int.natAbs_natCast]
    have notBelow : ¬ (whole : Int) * 10 ^ places + fraction < 0 := by
      rw [value]
      omega
    rw [if_neg negative, fixedPoint_parts magnitude inside, if_neg notBelow,
      decimal_nonnegative 0 (Int.natCast_nonneg _), Int.natAbs_natCast, shown]
    rfl

/-- What `%d.%0Nd` writes is a numeral just if the second number has no sign, and
    then the sign of the first counts for both. -/
theorem decimal_pair_denotes {places : Nat} (positive : 0 < places) {a b : Int} (small : b < 10 ^ places) {x : ℚ} :
    Denotes (decimal 0 a ++ '.' :: decimal places b) x ↔ 0 ≤ b ∧ x = pairValue places a b / 10 ^ places := by
  have written : 0 ≤ b → Denotes (decimal 0 a ++ '.' :: decimal places b) (pairValue places a b / 10 ^ places) := by
    intro nonnegative
    exact ⟨fixedPoint places (pairValue places a b), (decimal_pair nonnegative small).symm, fixedPoint_value positive _⟩
  constructor
  · intro denotes
    have nonnegative : 0 ≤ b := by
      by_contra negative
      obtain ⟨n, same, _⟩ := denotes
      rw [decimal_negative places (by omega)] at same
      obtain ⟨c, rest, shown⟩ := List.exists_cons_of_ne_nil (decimal_nonempty 0 a)
      have sign : '-' ∈ n.text.tail := by simp [same, shown]
      exact absurd (n.later_chars _ sign) (by decide)
    exact ⟨nonnegative, denotes.unique (written nonnegative)⟩
  · rintro ⟨nonnegative, rfl⟩
    exact written nonnegative

/-! ### Format strings -/

/-- A character that is written as it is, or a conversion. -/
inductive Piece
  | text (c : Char)
  | str
  | int (width : Nat)
deriving DecidableEq, Repr

/-- The pieces of a format string; within a conversion, with the width read so
    far. A length modifier changes nothing that is written. -/
def pieces : Option Nat → List Char → List Piece
  | _, [] => []
  | none, c :: rest => if c = '%' then pieces (some 0) rest else .text c :: pieces none rest
  | some width, c :: rest =>
    if c = 's' then .str :: pieces none rest
    else if c = 'd' then .int width :: pieces none rest
    else if c = '%' then .text '%' :: pieces none rest
    else if c = 'l' then pieces (some width) rest
    else pieces (some (width * 10 + digitValue c)) rest

inductive Arg
  | str (text : List Char)
  | num (value : Int)
deriving DecidableEq, Repr

/-- What is written. A conversion without an argument of its type is undefined
    in C and writes nothing here. -/
def render : List Piece → List Arg → List Char
  | .text c :: rest, args => c :: render rest args
  | .str :: rest, .str text :: args => text ++ render rest args
  | .int width :: rest, .num value :: args => decimal width value ++ render rest args
  | _, _ => []

@[simp] theorem render_text (literal : List Char) (rest : List Piece) (args : List Arg) :
    render (literal.map .text ++ rest) args = literal ++ render rest args := by
  induction literal with
  | nil => rfl
  | cons c literal ih => rw [List.map_cons, List.cons_append, render, ih, List.cons_append]

def printf (format : String) (args : List Arg) : List Char := render (pieces none format.toList) args

/-! ### Reading back -/

/-- What comes before a delimiter and what comes after it can be told apart. -/
theorem delimited {α : Type*} {before before' after after' : List α} {delimiter : α} (first : delimiter ∉ before)
    (second : delimiter ∉ before') (same : before ++ delimiter :: after = before' ++ delimiter :: after') :
    before = before' ∧ after = after' := by
  induction before generalizing before' with
  | nil =>
    cases before' with
    | nil => exact ⟨rfl, (List.cons.inj same).2⟩
    | cons b rest =>
      rw [List.nil_append, List.cons_append, List.cons.injEq] at same
      exact absurd (same.1 ▸ List.mem_cons_self) second
  | cons b rest ih =>
    cases before' with
    | nil =>
      rw [List.nil_append, List.cons_append, List.cons.injEq] at same
      exact absurd (same.1 ▸ List.mem_cons_self) first
    | cons b' rest' =>
      rw [List.cons_append, List.cons_append, List.cons.injEq] at same
      obtain ⟨rfl, rfl⟩ := ih (fun member => first (List.mem_cons_of_mem _ member))
        (fun member => second (List.mem_cons_of_mem _ member)) same.2
      exact ⟨by rw [same.1], rfl⟩

/-- What is in front of the point of a numeral, and behind it. -/
theorem numeral_point {n : Numeral} {before after : List Char} (noPoint : '.' ∉ before) (places : n.places ≠ [])
    (text : n.text = before ++ '.' :: after) : n.sign.text ++ n.whole = before ∧ n.places = after := by
  have split : n.text = (n.sign.text ++ n.whole) ++ '.' :: n.places := by
    unfold Numeral.places at places
    cases fraction : n.fraction with
    | none => simp [fraction] at places
    | some digits => simp [Numeral.text, Numeral.tail, Numeral.places, fraction]
  have front : '.' ∉ n.sign.text ++ n.whole := by
    rw [List.mem_append]
    rintro (sign | digit)
    · cases kind : n.sign <;> simp [kind, Sign.text] at sign
    · exact absurd (n.whole_digits _ digit) (by decide)
  exact delimited front noPoint (split.symm.trans text)

end ZephyrWorkshop.Printf
