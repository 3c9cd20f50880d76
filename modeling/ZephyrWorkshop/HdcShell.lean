import Mathlib.Tactic.FieldSimp
import Mathlib.Tactic.Linarith
import Mathlib.Tactic.Positivity
import ZephyrWorkshop.Decimal
import ZephyrWorkshop.HdcEmul
import ZephyrWorkshop.Words

/-!
The shell command `sensor_emul set` of the emulated sensor,
`emulators/sensor/ti_hdc_emul/ti_hdc_emul_shell.c`: the parser of a decimal
number into micro-units, the conversion to a `q31_t` value with a shift, and the
two subcommands. `parse_micro` is settled on every numeral (`parse_micro_text`).
-/

namespace ZephyrWorkshop.HdcShell
open ZephyrWorkshop.Zephyr ZephyrWorkshop.HdcEmul ZephyrWorkshop.Decimal ZephyrWorkshop.Words

def INT32_MAX : Int := 2 ^ 31 - 1
def INT32_MIN : Int := -2 ^ 31

/-! ### The parser -/

/-- Whether the number is negative, and the string after its sign. -/
def parse_sign (str : CString) : Bool × CString :=
  if CString.head str = '-' then (true, str.tail)
  else if CString.head str = '+' then (false, str.tail)
  else (false, str)

/-- `*pos - '0'`, where `*pos` is a digit. -/
def digit (c : Char) : UInt64 := UInt64.ofNat (c.toNat - '0'.toNat)

/-- The loop over the integer part: the number read and the rest of the string. -/
def parse_whole (whole : UInt64) : CString → Except Errno (UInt64 × CString)
  | [] => .ok (whole, [])
  | c :: pos =>
    if c ≥ '0' ∧ c ≤ '9' then
      let whole := whole * 10 + digit c
      if whole > UInt64.ofInt INT32_MAX then .error .ERange else parse_whole whole pos
    else .ok (whole, c :: pos)

/-- The loop over the digits after the point. -/
def parse_fraction (fraction : UInt64) (fraction_digits : Nat) : CString → Except Errno (UInt64 × Nat × CString)
  | [] => .ok (fraction, fraction_digits, [])
  | c :: pos =>
    if c ≥ '0' ∧ c ≤ '9' then
      if fraction_digits = 6 then .error .EInval
      else parse_fraction (fraction * 10 + digit c) (fraction_digits + 1) pos
    else .ok (fraction, fraction_digits, c :: pos)

/-- The padding loop, for the number of digits that are missing. -/
def pad_fraction : Nat → UInt64 → UInt64
  | 0, fraction => fraction
  | missing + 1, fraction => pad_fraction missing (fraction * 10)

/-- `*value` after the call, and what the call returns. -/
def parse_micro (str : CString) (value : Int64) : Int64 × Status :=
  let (negative, pos) := parse_sign str
  if CString.head pos < '0' ∨ CString.head pos > '9' then (value, .error .EInval)
  else
    match parse_whole 0 pos with
    | .error e => (value, .error e)
    | .ok (whole, pos) =>
      match (if CString.head pos = '.' then parse_fraction 0 0 pos.tail else .ok (0, 0, pos)) with
      | .error e => (value, .error e)
      | .ok (fraction, fraction_digits, pos) =>
        if CString.head pos ≠ Char.ofNat 0 then (value, .error .EInval)
        else
          let fraction := pad_fraction (6 - fraction_digits) fraction
          let value := (whole * 1000000 + fraction).toInt64
          (if negative then -value else value, .ok ())

/-! ### The subcommands -/

/-- The emulator after the command, the lines it writes, and what it returns.
    The locals that the two pointer arguments refer to start out as zero here;
    the code never reads what they hold before the calls. -/
def set_channel (data : TiHdcEmulData) (value_str : CString) (channel : SensorChannel) (name : CString) :
    TiHdcEmulData × List ShellLine × Status :=
  let ch : SensorChanSpec := ⟨channel, 0⟩
  match parse_micro value_str 0 with
  | (_, .error err) => (data, [.error "Invalid value: %s" [.str value_str]], .error err)
  | (micro, .ok ()) =>
    match ti_hdc_emul_get_sample_range ch ⟨some 0, some 0, some 0, some 0⟩ with
    | (_, .error err) => (data, [.error "Channel is not supported: %d" [.err err]], .error err)
    | (range, .ok ()) =>
      let shift := range.shift.getD 0
      let scaled : Int64 := ((micro / 1000000).toUInt64 * BIT64 31).toInt64
      let scaled := (scaled.toUInt64 + (micro % 1000000).toUInt64 * BIT64 31 / 1000000).toInt64
      let scaled := (scaled.toUInt64 / BIT64 shift.toInt.toNat).toInt64
      if scaled < Int64.ofInt INT32_MIN ∨ scaled > Int64.ofInt INT32_MAX then
        (data, [.error "Value is outside the supported range" []], .error .ERange)
      else
        let value := scaled.toInt32
        match ti_hdc_emul_set_channel data ch (some value) shift with
        | (data, .error err) =>
          (data, [.error "Value is outside the supported range: %d" [.err err]], .error err)
        | (data, .ok ()) => (data, [.print "%s set to %s" [.str name, .str value_str]], .ok ())

/-- The arguments start with the name of the subcommand; the table below
    requires one more. -/
def cmd_set_temp (data : TiHdcEmulData) (argv : List CString) : TiHdcEmulData × List ShellLine × Status :=
  set_channel data (argv.getD 1 []) .AmbientTemp "Temperature".toList

def cmd_set_humidity (data : TiHdcEmulData) (argv : List CString) : TiHdcEmulData × List ShellLine × Status :=
  set_channel data (argv.getD 1 []) .Humidity "Humidity".toList

/-- `sensor_emul_set_cmds`: the subcommands, each with its handler. -/
inductive SetCommand
  | Temp
  | Humidity
deriving DecidableEq, Repr

def SetCommand.subcommand : SetCommand → CString
  | .Temp => "temp".toList
  | .Humidity => "humidity".toList

def SetCommand.handler : SetCommand → TiHdcEmulData → List CString → TiHdcEmulData × List ShellLine × Status
  | .Temp => cmd_set_temp
  | .Humidity => cmd_set_humidity

/-- `sensor_emul set <command> <str>` -/
def sensor_emul_set (command : SetCommand) (str : CString) (data : TiHdcEmulData) :
    TiHdcEmulData × List ShellLine × Status :=
  command.handler data [command.subcommand, str]

/-! ### The parser on numerals -/

private theorem digit_toNat {c : Char} (isDigit : Digit c) : (digit c).toNat = digitValue c := by
  have small := digitValue_lt isDigit
  exact UInt64.toNat_ofNat_of_lt' (by show digitValue c < 2 ^ 64; omega)

/-- One more digit, without a wrap. -/
private theorem append_digit {n : UInt64} {c : Char} (isDigit : Digit c) (small : n.toNat < 2 ^ 60) :
    (n * 10 + digit c).toNat = n.toNat * 10 + digitValue c := by
  have low := digitValue_lt isDigit
  rw [UInt64.toNat_add, UInt64.toNat_mul, digit_toNat isDigit]
  have ten : (10 : UInt64).toNat = 10 := rfl
  rw [ten]
  omega

/-- No further digit follows. -/
def Ends (rest : CString) : Prop := ∀ c ∈ rest.head?, ¬ Digit c

private theorem parse_whole_ends {rest : CString} (ends : Ends rest) (whole : UInt64) :
    parse_whole whole rest = .ok (whole, rest) := by
  cases rest with
  | nil => rfl
  | cons c pos =>
    have other : ¬ Digit c := ends c rfl
    rw [parse_whole]
    exact if_neg other

private theorem parse_whole_digits {whole : UInt64} {digits rest : CString} (all : ∀ c ∈ digits, Digit c)
    (ends : Ends rest) (small : whole.toNat < 2 ^ 31) :
    parse_whole whole (digits ++ rest) =
      if readOn whole.toNat digits < 2 ^ 31 then .ok (UInt64.ofNat (readOn whole.toNat digits), rest)
      else .error .ERange := by
  induction digits generalizing whole with
  | nil =>
    rw [List.nil_append, parse_whole_ends ends, readOn_nil, if_pos small, UInt64.ofNat_toNat]
  | cons c digits ih =>
    have isDigit : c ≥ '0' ∧ c ≤ '9' := all c (by simp)
    have next := append_digit (n := whole) isDigit (by omega)
    have limit : (UInt64.ofInt INT32_MAX).toNat = 2 ^ 31 - 1 := rfl
    rw [List.cons_append, parse_whole, if_pos isDigit, readOn_cons, ← next]
    by_cases fits : (whole * 10 + digit c).toNat < 2 ^ 31
    · rw [if_neg (by rw [gt_iff_lt, UInt64.lt_iff_toNat_lt, limit]; omega)]
      exact ih (fun d member => all d (by simp [member])) fits
    · have grows := le_readOn (whole * 10 + digit c).toNat digits
      rw [if_pos (by rw [gt_iff_lt, UInt64.lt_iff_toNat_lt, limit]; omega), if_neg (by omega)]

private theorem parse_fraction_ends {rest : CString} (ends : Ends rest) (fraction : UInt64) (k : Nat) :
    parse_fraction fraction k rest = .ok (fraction, k, rest) := by
  cases rest with
  | nil => rfl
  | cons c pos =>
    have other : ¬ Digit c := ends c rfl
    rw [parse_fraction]
    exact if_neg other

private theorem parse_fraction_digits {fraction : UInt64} {k : Nat} {digits rest : CString}
    (all : ∀ c ∈ digits, Digit c) (ends : Ends rest) (few : k ≤ 6) (small : fraction.toNat < 10 ^ k) :
    parse_fraction fraction k (digits ++ rest) =
      if k + digits.length ≤ 6 then
        .ok (UInt64.ofNat (readOn fraction.toNat digits), k + digits.length, rest)
      else .error .EInval := by
  induction digits generalizing fraction k with
  | nil =>
    rw [List.nil_append, parse_fraction_ends ends, readOn_nil, UInt64.ofNat_toNat]
    exact (if_pos few).symm
  | cons c digits ih =>
    have isDigit : c ≥ '0' ∧ c ≤ '9' := all c (by simp)
    have bounded : 10 ^ k ≤ 10 ^ 6 := Nat.pow_le_pow_right (by omega) few
    have next := append_digit (n := fraction) isDigit (by omega)
    have digitSmall := digitValue_lt isDigit
    rw [List.cons_append, parse_fraction, if_pos isDigit, List.length_cons]
    by_cases full : k = 6
    · rw [if_pos full, if_neg (by omega)]
    · rw [if_neg full, ih (fun d member => all d (by simp [member])) (by omega) (by rw [next, pow_succ]; omega),
        next, readOn_cons, Nat.add_right_comm, Nat.add_assoc]

private theorem pad_fraction_toNat {n : Nat} {fraction : UInt64} (small : fraction.toNat * 10 ^ n < 2 ^ 64) :
    (pad_fraction n fraction).toNat = fraction.toNat * 10 ^ n := by
  induction n generalizing fraction with
  | zero => simp [pad_fraction]
  | succ n ih =>
    have positive : 0 < 10 ^ n := by positivity
    have ten : (10 : UInt64).toNat = 10 := rfl
    have next : (fraction * 10).toNat = fraction.toNat * 10 := by
      rw [UInt64.toNat_mul, ten, Nat.mod_eq_of_lt]
      rw [pow_succ] at small
      nlinarith
    rw [pad_fraction, ih (by rw [next]; rw [pow_succ] at small; linarith), next, pow_succ]
    ring

/-- The micro-units that a numeral denotes, as `parse_micro` puts them together. -/
def micro (n : Numeral) : Int :=
  n.sign.factor * (natural n.whole * 10 ^ 6 + natural n.places * 10 ^ (6 - n.places.length))

private theorem parse_sign_text (n : Numeral) :
    parse_sign n.text = (decide (n.sign = .Minus), n.whole ++ n.tail) := by
  obtain ⟨c, rest, whole, digit⟩ := n.head_digit
  have notMinus : c ≠ '-' := by rintro rfl; revert digit; decide
  have notPlus : c ≠ '+' := by rintro rfl; revert digit; decide
  unfold Numeral.text parse_sign
  rw [whole]
  cases sign : n.sign with
  | Unsigned => simp [Sign.text, CString.head, notMinus, notPlus]
  | Plus => simp [Sign.text, CString.head]
  | Minus => simp [Sign.text, CString.head]

private theorem tail_ends (n : Numeral) : Ends n.tail := by
  unfold Numeral.tail
  cases n.fraction with
  | none => simp [Ends]
  | some digits =>
    rintro c member
    rw [List.head?_cons, Option.mem_some_iff] at member
    subst member
    decide

/-- What the code does with the digits after the integer part. -/
private theorem parse_tail (n : Numeral) :
    (if CString.head n.tail = '.' then parse_fraction 0 0 n.tail.tail else .ok (0, 0, n.tail)) =
      if n.places.length ≤ 6 then .ok (UInt64.ofNat (natural n.places), n.places.length, [])
      else .error .EInval := by
  cases fraction : n.fraction with
  | none => simp [Numeral.tail, Numeral.places, fraction, CString.head, natural]
  | some digits =>
    have read : parse_fraction 0 0 (digits ++ []) = _ :=
      parse_fraction_digits (n.fraction_digits digits fraction) (by simp [Ends]) (by omega) (by decide)
    simpa [Numeral.tail, Numeral.places, fraction, CString.head, natural] using read

/-- The places, padded with zeros to six. -/
private theorem padded_lt {n : Numeral} (places : n.places.length ≤ 6) :
    natural n.places * 10 ^ (6 - n.places.length) < 10 ^ 6 := by
  have scale : 10 ^ n.places.length * 10 ^ (6 - n.places.length) = 10 ^ 6 := by
    rw [← pow_add, Nat.add_sub_cancel' places]
  rw [← scale]
  exact Nat.mul_lt_mul_of_pos_right (natural_lt n.places_digits) (by positivity)

/-- The last lines of `parse_micro`, without an overflow. -/
private theorem micro_word (n : Numeral) (places : n.places.length ≤ 6) :
    (if decide (n.sign = .Minus) = true then
      -(UInt64.ofNat (natural n.whole) * 1000000 +
        pad_fraction (6 - n.places.length) (UInt64.ofNat (natural n.places))).toInt64
    else (UInt64.ofNat (natural n.whole) * 1000000 +
        pad_fraction (6 - n.places.length) (UInt64.ofNat (natural n.places))).toInt64) =
      Int64.ofInt (micro n) := by
  have padded := padded_lt places
  have small : natural n.places ≤ natural n.places * 10 ^ (6 - n.places.length) :=
    Nat.le_mul_of_pos_right _ (by positivity)
  have read : (UInt64.ofNat (natural n.places)).toNat = natural n.places :=
    UInt64.toNat_ofNat_of_lt' (by show _ < 2 ^ 64; omega)
  have fraction : pad_fraction (6 - n.places.length) (UInt64.ofNat (natural n.places)) =
      UInt64.ofInt (natural n.places * 10 ^ (6 - n.places.length)) := by
    have exact := pad_fraction_toNat (n := 6 - n.places.length) (by rw [read]; omega)
    rw [read] at exact
    rw [← ofInt_toNat (pad_fraction _ _), exact]
    push_cast
    rfl
  have sum : (UInt64.ofNat (natural n.whole) * 1000000 +
      pad_fraction (6 - n.places.length) (UInt64.ofNat (natural n.places))).toInt64 =
      Int64.ofInt (natural n.whole * 10 ^ 6 + natural n.places * 10 ^ (6 - n.places.length)) := by
    rw [fraction, ofNat_eq_ofInt, show (1000000 : UInt64) = UInt64.ofInt (10 ^ 6) from rfl, ← UInt64.ofInt_mul,
      ← UInt64.ofInt_add, toInt64_ofInt]
  rw [sum]
  unfold micro
  cases n.sign with
  | Unsigned => simp [Sign.factor]
  | Plus => simp [Sign.factor]
  | Minus =>
    rw [if_pos (by decide), ← Int64.ofInt_neg]
    simp [Sign.factor]

/-- On a numeral, `parse_micro` fails exactly for an integer part or a number of
    places that is too large, and otherwise stores the micro-units. -/
theorem parse_micro_text (n : Numeral) (value : Int64) :
    parse_micro n.text value =
      if 2 ^ 31 ≤ natural n.whole then (value, .error .ERange)
      else if 6 < n.places.length then (value, .error .EInval)
      else (Int64.ofInt (micro n), .ok ()) := by
  obtain ⟨c, rest, whole, digit⟩ := n.head_digit
  have first : ¬ (CString.head (n.whole ++ n.tail) < '0' ∨ CString.head (n.whole ++ n.tail) > '9') := by
    rw [whole]
    exact fun outside => outside.elim (fun low => absurd digit.1 (Char.not_le.mpr low))
      (fun high => absurd digit.2 (Char.not_le.mpr high))
  unfold parse_micro
  rw [parse_sign_text]
  dsimp only
  have zero : readOn (0 : UInt64).toNat n.whole = natural n.whole := rfl
  rw [if_neg first, parse_whole_digits n.whole_digits (tail_ends n) (by decide), zero]
  by_cases large : 2 ^ 31 ≤ natural n.whole
  · rw [if_neg (by omega), if_pos large]
  rw [if_pos (by omega), if_neg large]
  dsimp only
  rw [parse_tail]
  by_cases long : 6 < n.places.length
  · rw [if_neg (by omega), if_pos long]
  rw [if_pos (by omega), if_neg long]
  dsimp only
  rw [if_neg (by decide)]
  congr 1
  exact micro_word n (by omega)

/-- What `parse_micro` accepts, it stores exactly. -/
theorem parse_micro_accepts {n : Numeral} {value stored : Int64} (accepted : parse_micro n.text value = (stored, .ok ())) :
    stored = Int64.ofInt (micro n) ∧ natural n.whole < 2 ^ 31 ∧ n.places.length ≤ 6 := by
  rw [parse_micro_text] at accepted
  split at accepted
  · cases accepted
  split at accepted
  · cases accepted
  · refine ⟨?_, by omega, by omega⟩
    cases accepted
    rfl

theorem micro_eq_value {n : Numeral} (places : n.places.length ≤ 6) : (micro n : ℚ) = n.value * 10 ^ 6 := by
  have scale : (10 : ℚ) ^ 6 = 10 ^ n.places.length * 10 ^ (6 - n.places.length) := by
    rw [← pow_add, Nat.add_sub_cancel' places]
  have nonzero : (10 : ℚ) ^ n.places.length ≠ 0 := by positivity
  unfold micro Numeral.value
  simp only [Int.cast_mul, Int.cast_add, Int.cast_natCast, Int.cast_pow, Int.cast_ofNat, scale]
  field_simp

theorem micro_bounds {n : Numeral} (whole : natural n.whole < 2 ^ 31) (places : n.places.length ≤ 6) :
    -2 ^ 31 * 10 ^ 6 < micro n ∧ micro n < 2 ^ 31 * 10 ^ 6 := by
  have padded : (natural n.places : Int) * 10 ^ (6 - n.places.length) < 10 ^ 6 := by exact_mod_cast padded_lt places
  have nonnegative : (0 : Int) ≤ natural n.places * 10 ^ (6 - n.places.length) := by positivity
  unfold micro
  cases n.sign with
  | Unsigned => simp only [Sign.factor]; omega
  | Plus => simp only [Sign.factor]; omega
  | Minus => simp only [Sign.factor]; omega

/-! ### Accepted strings are numerals -/

private theorem parse_whole_splits {whole after : UInt64} {str rest : CString}
    (parsed : parse_whole whole str = .ok (after, rest)) :
    ∃ digits, str = digits ++ rest ∧ (∀ c ∈ digits, Digit c) ∧ Ends rest := by
  induction str generalizing whole with
  | nil =>
    cases parsed
    exact ⟨[], rfl, by simp, by simp [Ends]⟩
  | cons c pos ih =>
    rw [parse_whole] at parsed
    by_cases isDigit : c ≥ '0' ∧ c ≤ '9'
    · rw [if_pos isDigit] at parsed
      dsimp only at parsed
      split at parsed
      · cases parsed
      · obtain ⟨digits, rfl, all, ends⟩ := ih parsed
        refine ⟨c :: digits, rfl, ?_, ends⟩
        rintro d (_ | ⟨_, member⟩)
        · exact isDigit
        · exact all d member
    · rw [if_neg isDigit] at parsed
      cases parsed
      refine ⟨[], rfl, by simp, ?_⟩
      rintro d ⟨⟩
      exact isDigit

private theorem parse_fraction_splits {fraction after : UInt64} {k count : Nat} {str rest : CString}
    (parsed : parse_fraction fraction k str = .ok (after, count, rest)) :
    ∃ digits, str = digits ++ rest ∧ ∀ c ∈ digits, Digit c := by
  induction str generalizing fraction k with
  | nil =>
    cases parsed
    exact ⟨[], rfl, by simp⟩
  | cons c pos ih =>
    rw [parse_fraction] at parsed
    by_cases isDigit : c ≥ '0' ∧ c ≤ '9'
    · rw [if_pos isDigit] at parsed
      split at parsed
      · cases parsed
      · obtain ⟨digits, rfl, all⟩ := ih parsed
        refine ⟨c :: digits, rfl, ?_⟩
        rintro d (_ | ⟨_, member⟩)
        · exact isDigit
        · exact all d member
    · rw [if_neg isDigit] at parsed
      cases parsed
      exact ⟨[], rfl, by simp⟩

private theorem parse_sign_splits (str : CString) : ∃ sign : Sign, str = sign.text ++ (parse_sign str).2 := by
  unfold parse_sign
  cases str with
  | nil => exact ⟨.Unsigned, rfl⟩
  | cons c pos =>
    by_cases minus : c = '-'
    · exact ⟨.Minus, by simp [Sign.text, CString.head, minus]⟩
    by_cases plus : c = '+'
    · exact ⟨.Plus, by simp [Sign.text, CString.head, plus]⟩
    · exact ⟨.Unsigned, by simp [Sign.text, CString.head, minus, plus]⟩

/-- Every string that `parse_micro` accepts denotes a number. -/
theorem accepted_denotes {str : CString} {value stored : Int64} (terminated : Char.ofNat 0 ∉ str)
    (accepted : parse_micro str value = (stored, .ok ())) : ∃ x, Denotes str x := by
  obtain ⟨sign, split⟩ := parse_sign_splits str
  unfold parse_micro at accepted
  generalize parse_sign str = start at accepted split
  obtain ⟨negative, pos⟩ := start
  dsimp only at accepted split
  split at accepted
  · cases accepted
  rename_i first
  split at accepted
  · cases accepted
  rename_i whole rest parsed
  obtain ⟨digits, rfl, all, ends⟩ := parse_whole_splits parsed
  have nonempty : digits ≠ [] := by
    rintro rfl
    cases rest with
    | nil => exact first (.inl (by decide))
    | cons c pos =>
      exact ends c rfl ⟨Char.not_lt.mp (fun low => first (.inl low)), Char.not_lt.mp (fun high => first (.inr high))⟩
  split at accepted
  · cases accepted
  rename_i fraction count last parsedFraction
  split at accepted
  · cases accepted
  rename_i terminator
  have atEnd : Char.ofNat 0 ∉ last → last = [] := by
    cases last with
    | nil => exact fun _ => rfl
    | cons c pos =>
      have same : c = Char.ofNat 0 := not_not.mp terminator
      simp [same]
  split at parsedFraction
  · rename_i point
    obtain ⟨places, splitPlaces, allPlaces⟩ := parse_fraction_splits parsedFraction
    cases rest with
    | nil => exact absurd point (by decide)
    | cons c tail =>
      obtain rfl : c = '.' := point
      rw [List.tail_cons] at splitPlaces
      obtain rfl := atEnd (fun member => terminated (by rw [split, splitPlaces]; simp [member]))
      refine ⟨_, ⟨sign, digits, some places, nonempty, all, ?_⟩, ?_, rfl⟩
      · rintro _ ⟨⟩
        exact allPlaces
      · rw [split, splitPlaces, List.append_nil]
        rfl
  · cases parsedFraction
    obtain rfl := atEnd (fun member => terminated (by rw [split]; simp [member]))
    exact ⟨_, ⟨sign, digits, none, nonempty, all, by simp⟩, split.symm, rfl⟩

/-- A call that fails has not stored anything. -/
theorem parse_micro_failure {str : CString} {value : Int64} (failed : (parse_micro str value).2 ≠ .ok ()) :
    (parse_micro str value).1 = value := by
  unfold parse_micro at failed ⊢
  generalize parse_sign str = start at failed ⊢
  obtain ⟨negative, pos⟩ := start
  dsimp only at failed ⊢
  by_cases first : CString.head pos < '0' ∨ CString.head pos > '9'
  · rw [if_pos first]
  rw [if_neg first] at failed ⊢
  cases whole : parse_whole 0 pos with
  | error e => rfl
  | ok parsed =>
    obtain ⟨whole, rest⟩ := parsed
    rw [whole] at failed
    dsimp only at failed ⊢
    generalize (if CString.head rest = '.' then parse_fraction 0 0 rest.tail else .ok (0, 0, rest)) = places
      at failed ⊢
    cases places with
    | error e => rfl
    | ok parsed =>
      obtain ⟨fraction, fraction_digits, last⟩ := parsed
      dsimp only at failed ⊢
      by_cases terminator : CString.head last ≠ Char.ofNat 0
      · rw [if_pos terminator]
      · rw [if_neg terminator] at failed
        exact absurd rfl failed

theorem micro_word_exact {n : Numeral} (whole : natural n.whole < 2 ^ 31) (places : n.places.length ≤ 6) :
    ((Int64.ofInt (micro n)).toInt : ℚ) = n.value * 10 ^ 6 := by
  obtain ⟨low, high⟩ := micro_bounds whole places
  rw [Int64.toInt_ofInt_of_le (by omega) (by omega), micro_eq_value places]

/-- The parser is exact on every string: it succeeds exactly on the numerals
    with at most six places and an integer part up to `INT32_MAX`, then stores
    the number times 10^6, and otherwise leaves `*value` alone. -/
theorem parse_micro_exact {str : CString} (terminated : Char.ofNat 0 ∉ str) (value : Int64) :
    ((parse_micro str value).2 = .ok () ↔
      ∃ n : Numeral, n.text = str ∧ n.places.length ≤ 6 ∧ (natural n.whole : Int) ≤ INT32_MAX) ∧
    (∀ n : Numeral, n.text = str → (parse_micro str value).2 = .ok () →
      ((parse_micro str value).1.toInt : ℚ) = n.value * 10 ^ 6) ∧
    ((parse_micro str value).2 ≠ .ok () → (parse_micro str value).1 = value) := by
  have limit : INT32_MAX = 2 ^ 31 - 1 := rfl
  refine ⟨⟨?_, ?_⟩, ?_, parse_micro_failure⟩
  · intro ok
    have accepted : parse_micro str value = ((parse_micro str value).1, .ok ()) := Prod.ext rfl ok
    obtain ⟨x, n, rfl, _⟩ := accepted_denotes terminated accepted
    obtain ⟨_, whole, places⟩ := parse_micro_accepts accepted
    exact ⟨n, rfl, places, by omega⟩
  · rintro ⟨n, rfl, places, whole⟩
    rw [parse_micro_text, if_neg (by omega), if_neg (by omega)]
  · rintro n rfl ok
    have accepted : parse_micro n.text value = ((parse_micro n.text value).1, .ok ()) := Prod.ext rfl ok
    obtain ⟨stored, whole, places⟩ := parse_micro_accepts accepted
    rw [stored, micro_word_exact whole places]

/-- The numeral `-0.05`. -/
def minusFiveHundredths : Numeral where
  sign := .Minus
  whole := "0".toList
  fraction := some "05".toList
  whole_nonempty := by decide
  whole_digits := digits_of_all (by decide)
  fraction_digits := by
    rintro _ ⟨⟩
    exact digits_of_all (by decide)

/-- The sign of `-0.05` is kept, and its missing places are zeros. -/
theorem parse_micro_exact_small :
    (parse_micro "-0.05".toList 7).2 = .ok () ∧
      ((parse_micro "-0.05".toList 7).1.toInt : ℚ) = minusFiveHundredths.value * 10 ^ 6 := by
  obtain ⟨accepts, exact, _⟩ := parse_micro_exact (by decide : Char.ofNat 0 ∉ "-0.05".toList) 7
  have ok := accepts.mpr ⟨minusFiveHundredths, rfl, by decide, by decide⟩
  exact ⟨ok, exact minusFiveHundredths rfl ok⟩

end ZephyrWorkshop.HdcShell
