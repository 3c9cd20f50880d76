import ZephyrWorkshop.HdcEncode
import ZephyrWorkshop.HdcShell

/-!
The shell command `sensor_emul set` from its string to the register. The command
turns micro-units into a `q31_t` value with shift 8 in mixed 64 bit words;
`converted` is that value as an integer. It is the number asked for as long as
that number is not negative, and otherwise the residue of something else.
-/

namespace ZephyrWorkshop.HdcCommand
open ZephyrWorkshop.Zephyr ZephyrWorkshop.HdcEmul ZephyrWorkshop.HdcEncode ZephyrWorkshop.HdcShell
open ZephyrWorkshop.Decimal ZephyrWorkshop.Words

/-! ### The conversion of micro-units -/

/-- What `set_channel` of the shell computes from micro-units, in units of `2^8 / 2^31`. -/
def converted (micro : Int) : Int :=
  (micro.tdiv (10 ^ 6) * 2 ^ 31 + micro.tmod (10 ^ 6) * 2 ^ 31 % 2 ^ 64 / 10 ^ 6) % 2 ^ 64 / 2 ^ 8

theorem converted_range (micro : Int) : 0 ≤ converted micro ∧ converted micro < 2 ^ 56 := by
  unfold converted
  omega

/-- The three assignments to `scaled`, with the shift that the range comes with. -/
theorem converted_word (micro : Int64) :
    ((((micro / 1000000).toUInt64 * BIT64 31).toInt64.toUInt64 +
      (micro % 1000000).toUInt64 * BIT64 31 / 1000000).toInt64.toUInt64 / BIT64 8).toInt64 =
      Int64.ofInt (converted micro.toInt) := by
  have million : (1000000 : UInt64) = UInt64.ofInt (10 ^ 6) := rfl
  have whole : (micro / 1000000).toInt = micro.toInt.tdiv (10 ^ 6) :=
    Int64.toInt_div_of_ne_right micro 1000000 (by decide)
  have part : (micro % 1000000).toInt = micro.toInt.tmod (10 ^ 6) := Int64.toInt_mod micro 1000000
  rw [UInt64.toUInt64_toInt64, UInt64.toUInt64_toInt64, toUInt64_eq_ofInt, toUInt64_eq_ofInt, whole, part,
    BIT64_eq_ofInt (by omega), BIT64_eq_ofInt (by omega), ← UInt64.ofInt_mul, ← UInt64.ofInt_mul, million,
    ofInt_emod_div _ (by omega) (by omega), ← UInt64.ofInt_add, ofInt_emod_div _ (by omega) (by omega), toInt64_ofInt]
  rfl

/-- For numbers that are not negative, the conversion is exact. -/
theorem converted_nonnegative {micro : Int} (low : 0 ≤ micro) (high : micro < 2 ^ 31 * 10 ^ 6) :
    converted micro = micro * 2 ^ 23 / 10 ^ 6 := by
  unfold converted
  rw [Int.tdiv_eq_ediv_of_nonneg low, Int.tmod_eq_emod_of_nonneg low]
  have part : micro % 10 ^ 6 * 2 ^ 31 % 2 ^ 64 = micro % 10 ^ 6 * 2 ^ 31 := by omega
  have sum : micro / 10 ^ 6 * 2 ^ 31 + micro % 10 ^ 6 * 2 ^ 31 / 10 ^ 6 = micro * 2 ^ 31 / 10 ^ 6 := by omega
  have small : micro * 2 ^ 31 / 10 ^ 6 % 2 ^ 64 = micro * 2 ^ 31 / 10 ^ 6 := by omega
  rw [part, sum, small]
  omega

/-- For a negative number, the fractional part is a residue modulo `2^64` when it is divided. -/
theorem converted_negative {m : Int} (low : 0 < m) (high : m < 2 ^ 31 * 10 ^ 6) :
    converted (-m) = if m % 10 ^ 6 = 0 then (2 ^ 64 - m / 10 ^ 6 * 2 ^ 31) / 2 ^ 8
      else (2 ^ 64 - m * 2 ^ 31) / 10 ^ 6 % 2 ^ 64 / 2 ^ 8 := by
  unfold converted
  rw [Int.neg_tdiv, Int.neg_tmod, Int.tdiv_eq_ediv_of_nonneg (by omega), Int.tmod_eq_emod_of_nonneg (by omega)]
  by_cases whole : m % 10 ^ 6 = 0
  · rw [if_pos whole, whole]
    omega
  · rw [if_neg whole]
    have part : -(m % 10 ^ 6) * 2 ^ 31 % 2 ^ 64 = 2 ^ 64 - m % 10 ^ 6 * 2 ^ 31 := by omega
    have sum : -(m / 10 ^ 6) * 2 ^ 31 + (2 ^ 64 - m % 10 ^ 6 * 2 ^ 31) / 10 ^ 6 =
        (2 ^ 64 - m * 2 ^ 31) / 10 ^ 6 := by omega
    rw [part, sum]

/-- The numbers whose conversion is in range: those that are, and the negative
    ones that wrap around into the range. -/
theorem converted_inside {micro top : Int} (known : top = 125 ∨ top = 100)
    (low : -2 ^ 31 * 10 ^ 6 < micro) (high : micro < 2 ^ 31 * 10 ^ 6) :
    converted micro ≤ top * 2 ^ 23 ↔ (0 ≤ micro ∧ micro ≤ top * 10 ^ 6) ∨
      (micro % 10 ^ 6 ≠ 0 ∧ -2 ^ 33 ≤ micro ∧ micro ≤ top * 10 ^ 6 - 2 ^ 33) := by
  by_cases sign : 0 ≤ micro
  · rw [converted_nonnegative sign high]
    rcases known with rfl | rfl <;> omega
  · obtain ⟨m, rfl⟩ : ∃ m, micro = -m := ⟨-micro, (neg_neg _).symm⟩
    rw [converted_negative (by omega) (by omega)]
    by_cases whole : m % 10 ^ 6 = 0
    · rw [if_pos whole]
      rcases known with rfl | rfl <;> omega
    · rw [if_neg whole]
      have residue : (2 ^ 64 - m * 2 ^ 31) / 10 ^ 6 % 2 ^ 64 =
          if m ≤ 2 ^ 33 then (2 ^ 64 - m * 2 ^ 31) / 10 ^ 6 else 2 ^ 64 + (2 ^ 64 - m * 2 ^ 31) / 10 ^ 6 := by
        split <;> omega
      rw [residue]
      rcases known with rfl | rfl <;> split <;> omega

/-! ### The command on micro-units -/

def channel : SetCommand → SensorChannel
  | .Temp => .AmbientTemp
  | .Humidity => .Humidity

theorem channel_supported (command : SetCommand) : Supported (channel command) := by
  cases command with
  | Temp => exact .inl rfl
  | Humidity => exact .inr rfl

/-- The upper end of a channel's range. -/
def hi (ch : SensorChannel) : Int := lo ch + span ch

theorem channel_range {ch : SensorChannel} (known : Supported ch) :
    -40 ≤ lo ch ∧ lo ch ≤ 0 ∧ (hi ch = 125 ∨ hi ch = 100) := by
  rcases known with rfl | rfl
  · exact ⟨by decide, by decide, .inl rfl⟩
  · exact ⟨by decide, by decide, .inr rfl⟩

private theorem sensor_emul_set_eq (command : SetCommand) (str : CString) (data : TiHdcEmulData) :
    ∃ name, sensor_emul_set command str data = HdcShell.set_channel data str (channel command) name := by
  cases command with
  | Temp => exact ⟨_, rfl⟩
  | Humidity => exact ⟨_, rfl⟩

/-- The shell's range check, on a converted value. -/
private theorem fits_q31 (micro : Int) :
    (Int64.ofInt (converted micro) < Int64.ofInt INT32_MIN ∨ Int64.ofInt (converted micro) > Int64.ofInt INT32_MAX) ↔
      2 ^ 31 ≤ converted micro := by
  have range := converted_range micro
  have value := Int64.toInt_ofInt_of_le (n := converted micro) (by omega) (by omega)
  have bottom : (Int64.ofInt INT32_MIN).toInt = -2 ^ 31 := rfl
  have top : (Int64.ofInt INT32_MAX).toInt = 2 ^ 31 - 1 := rfl
  rw [gt_iff_lt, Int64.lt_iff_toInt_lt, Int64.lt_iff_toInt_lt, value, bottom, top]
  omega

/-- What the backend makes of a converted value that fits a `q31_t`. -/
private theorem backend_spec {ch : SensorChannel} (known : Supported ch) (data : TiHdcEmulData) {c : Int}
    (low : 0 ≤ c) (fits : c < 2 ^ 31) :
    (c ≤ hi ch * 2 ^ 23 ∧ ti_hdc_emul_set_channel data ⟨ch, 0⟩ (some (Int64.ofInt c).toInt32) 8 =
      (pin data ch (encode ch (c * 2 ^ 8)), .ok ())) ∨
    (hi ch * 2 ^ 23 < c ∧ ∃ e, ti_hdc_emul_set_channel data ⟨ch, 0⟩ (some (Int64.ofInt c).toInt32) 8 =
      (data, .error e)) := by
  obtain ⟨_, lowest, _⟩ := channel_range known
  have value : (Int64.ofInt c).toInt32.toInt = c := by
    rw [Int64.toInt_toInt32, Int64.toInt_ofInt_of_le (by omega) (by omega)]
    exact Int.bmod_eq_of_le (by omega) (by omega)
  have eight : (8 : Int8).toInt = 8 := rfl
  have scaled : scaledValue (Int64.ofInt c).toInt32 8 = c * 2 ^ 8 := by rw [scaledValue, value, eight]; rfl
  have spec := set_channel_spec data ⟨ch, 0⟩ (Int64.ofInt c).toInt32 8
  rw [scaled] at spec
  rcases spec with ⟨accepted, run⟩ | ⟨refused, failed⟩
  · have high : _ ≤ (lo ch + span ch) * 2 ^ 31 := accepted.high
    rw [scaled] at high
    exact .inl ⟨by unfold hi; omega, run⟩
  · refine .inr ⟨?_, failed⟩
    by_contra inside
    unfold hi at inside
    exact refused ⟨by decide, by decide, rfl, known, by rw [scaled]; show lo ch * 2 ^ 31 ≤ _; omega,
      by rw [scaled]; show _ ≤ (lo ch + span ch) * 2 ^ 31; omega⟩

/-- Once the string is parsed, the command pins what the conversion gives where
    that is in range, and fails without a change anywhere else. -/
theorem sensor_emul_set_spec (command : SetCommand) {str : CString} {micro : Int64} (data : TiHdcEmulData)
    (parsed : parse_micro str 0 = (micro, .ok ())) :
    (converted micro.toInt ≤ hi (channel command) * 2 ^ 23 ∧
      ∃ lines, sensor_emul_set command str data =
        (pin data (channel command) (encode (channel command) (converted micro.toInt * 2 ^ 8)), lines, .ok ())) ∨
    (hi (channel command) * 2 ^ 23 < converted micro.toInt ∧
      ∃ lines e, sensor_emul_set command str data = (data, lines, .error e)) := by
  have known := channel_supported command
  obtain ⟨_, _, top⟩ := channel_range known
  obtain ⟨name, run⟩ := sensor_emul_set_eq command str data
  obtain ⟨lower, upper, epsilon, range⟩ := exists_advertised ⟨channel command, 0⟩ rfl known
  have eight : (8 : Int8).toInt.toNat = 8 := rfl
  have converts := converted_range micro.toInt
  rw [run, HdcShell.set_channel, parsed]
  dsimp only
  rw [range]
  dsimp only [Option.getD_some]
  simp only [eight, converted_word]
  by_cases fits : converted micro.toInt < 2 ^ 31
  · rw [if_neg (by rw [fits_q31]; omega)]
    rcases backend_spec known data converts.1 fits with ⟨inside, backend⟩ | ⟨outside, e, backend⟩
    · exact .inl ⟨inside, by rw [backend]; exact ⟨_, rfl⟩⟩
    · exact .inr ⟨outside, by rw [backend]; exact ⟨_, _, rfl⟩⟩
  · rw [if_pos (by rw [fits_q31]; omega)]
    exact .inr ⟨by rcases top with top | top <;> omega, _, _, rfl⟩

/-! ### The command against the number it was given -/

/-- What the command owes to a string that denotes `x`: a register that decodes
    to `x` up to one step, or an error that changes nothing. -/
def EndToEnd (command : SetCommand) (str : CString) (data : TiHdcEmulData) (x : ℚ) : Prop :=
  ((lo (channel command) : ℚ) ≤ x ∧ x ≤ hi (channel command) →
    (sensor_emul_set command str data).2.2 = .ok () ∧
    |decode (channel command) (register (sensor_emul_set command str data).1 (channel command)) - x| ≤
      (span (channel command) : ℚ) / 65536) ∧
  (x < lo (channel command) ∨ hi (channel command) < x →
    (∃ e, (sensor_emul_set command str data).2.2 = .error e) ∧ (sensor_emul_set command str data).1 = data)

/-- The negative numbers with a fractional part that come out in range again
    once their fractional part was divided as a residue modulo `2^64`. -/
def Wraps (ch : SensorChannel) (x : ℚ) : Prop :=
  (∀ n : Int, x ≠ n) ∧ -8589.934592 ≤ x ∧ x ≤ hi ch - 8589.934592

/-- The register for a number in range is off by one step at most. -/
theorem register_error {ch : SensorChannel} (known : Supported ch) {M : Int} (low : 0 ≤ M)
    (high : M ≤ hi ch * 10 ^ 6) :
    |decode ch (encode ch (M * 2 ^ 23 / 10 ^ 6 * 2 ^ 8)) - M / 10 ^ 6| ≤ (span ch : ℚ) / 65536 := by
  obtain ⟨_, lowest, top⟩ := channel_range known
  have above : lo ch * 2 ^ 31 ≤ M * 2 ^ 23 / 10 ^ 6 * 2 ^ 8 := by omega
  have below : M * 2 ^ 23 / 10 ^ 6 * 2 ^ 8 ≤ (lo ch + span ch) * 2 ^ 31 := by
    unfold hi at high
    rcases span_known known with width | width <;> omega
  have steps : |(encode ch (M * 2 ^ 23 / 10 ^ 6 * 2 ^ 8)).toNat * (span ch * 10 ^ 6) + lo ch * (65536 * 10 ^ 6) -
      M * 65536| ≤ span ch * 10 ^ 6 := by
    rw [encode_toNat known above below, abs_le]
    unfold rounded
    unfold hi at high top
    rcases span_known known with width | width <;> rw [width] at high top ⊢ <;> omega
  have scaledSteps : (|(encode ch (M * 2 ^ 23 / 10 ^ 6 * 2 ^ 8)).toNat * (span ch * 10 ^ 6) +
      lo ch * (65536 * 10 ^ 6) - M * 65536| : ℚ) ≤ span ch * 10 ^ 6 := by exact_mod_cast steps
  have same : decode ch (encode ch (M * 2 ^ 23 / 10 ^ 6 * 2 ^ 8)) - M / 10 ^ 6 =
      ((encode ch (M * 2 ^ 23 / 10 ^ 6 * 2 ^ 8)).toNat * (span ch * 10 ^ 6) + lo ch * (65536 * 10 ^ 6) -
        M * 65536) / (65536 * 10 ^ 6) := by
    unfold decode
    ring
  rw [same, abs_div, abs_of_pos (by norm_num : (0 : ℚ) < 65536 * 10 ^ 6), div_le_iff₀ (by norm_num)]
  calc _ ≤ (span ch : ℚ) * 10 ^ 6 := scaledSteps
    _ = span ch / 65536 * (65536 * 10 ^ 6) := by ring

private theorem le_micro (a M : Int) : (a : ℚ) ≤ M / 10 ^ 6 ↔ a * 10 ^ 6 ≤ M := by
  rw [le_div_iff₀ (by norm_num)]
  exact_mod_cast Iff.rfl

private theorem micro_le (a M : Int) : (M : ℚ) / 10 ^ 6 ≤ a ↔ M ≤ a * 10 ^ 6 := by
  rw [div_le_iff₀ (by norm_num)]
  exact_mod_cast Iff.rfl

private theorem wraps_micro (ch : SensorChannel) (M : Int) :
    Wraps ch (M / 10 ^ 6) ↔ M % 10 ^ 6 ≠ 0 ∧ -2 ^ 33 ≤ M ∧ M ≤ hi ch * 10 ^ 6 - 2 ^ 33 := by
  have fractional : (∀ n : Int, (M : ℚ) / 10 ^ 6 ≠ n) ↔ M % 10 ^ 6 ≠ 0 := by
    constructor
    · intro never whole
      refine never (M / 10 ^ 6) ((div_eq_iff (by norm_num)).mpr ?_)
      exact_mod_cast (Int.ediv_mul_cancel (Int.dvd_of_emod_eq_zero whole)).symm
    · rintro part n same
      have product : M = n * 10 ^ 6 := by exact_mod_cast (div_eq_iff (by norm_num)).mp same
      omega
  have low : (-8589.934592 : ℚ) ≤ M / 10 ^ 6 ↔ -2 ^ 33 ≤ M := by
    rw [show (-8589.934592 : ℚ) = ((-2 ^ 33 : Int) : ℚ) / 10 ^ 6 by norm_num, div_le_div_iff_of_pos_right (by norm_num)]
    exact_mod_cast Iff.rfl
  have high : (M : ℚ) / 10 ^ 6 ≤ hi ch - 8589.934592 ↔ M ≤ hi ch * 10 ^ 6 - 2 ^ 33 := by
    rw [show (hi ch - 8589.934592 : ℚ) = ((hi ch * 10 ^ 6 - 2 ^ 33 : Int) : ℚ) / 10 ^ 6 by push_cast; ring,
      div_le_div_iff_of_pos_right (by norm_num)]
    exact_mod_cast Iff.rfl
  unfold Wraps
  rw [fractional, low, high]

/-- For every string that `parse_micro` accepts, and the number it denotes, the
    command does what it owes exactly where that number is not negative, or below
    the range and not one that wraps. -/
theorem end_to_end_iff (command : SetCommand) (data : TiHdcEmulData) {str : CString} {stored : Int64} {x : ℚ}
    (accepted : parse_micro str 0 = (stored, .ok ())) (denotes : Denotes str x) :
    EndToEnd command str data x ↔
      0 ≤ x ∨ (x < lo (channel command) ∧ ¬ Wraps (channel command) x) := by
  obtain ⟨n, rfl, rfl⟩ := denotes
  obtain ⟨same, whole, places⟩ := parse_micro_accepts accepted
  obtain ⟨bottom, top⟩ := micro_bounds whole places
  have value : n.value = micro n / 10 ^ 6 := by rw [micro_eq_value places]; ring
  have word : stored.toInt = micro n := by rw [same, Int64.toInt_ofInt_of_le (by omega) (by omega)]
  have spec := sensor_emul_set_spec command data accepted
  have known := channel_supported command
  obtain ⟨lowest, highest, tops⟩ := channel_range known
  rw [word, ← not_le, converted_inside tops bottom top] at spec
  have zero : (0 : ℚ) ≤ micro n / 10 ^ 6 ↔ 0 ≤ micro n := by simpa using le_micro 0 (micro n)
  unfold EndToEnd
  rw [value, wraps_micro, zero, ← not_le, ← not_le, le_micro, micro_le]
  rcases spec with ⟨inside, lines, run⟩ | ⟨outside, lines, e, run⟩
  · rw [run]
    constructor
    · rintro ⟨_, beyond⟩
      rcases inside with ⟨nonnegative, _⟩ | ⟨_, _, wrapped⟩
      · exact .inl nonnegative
      · obtain ⟨⟨e, failed⟩, _⟩ := beyond (.inl (by omega))
        cases failed
    · intro exact
      obtain ⟨nonnegative, high⟩ : 0 ≤ micro n ∧ micro n ≤ hi (channel command) * 10 ^ 6 := by omega
      refine ⟨fun _ => ⟨rfl, ?_⟩, fun beyond => by omega⟩
      rw [register_pin known, converted_nonnegative nonnegative top]
      exact register_error known nonnegative high
  · rw [run]
    constructor
    · rintro ⟨within, _⟩
      by_contra wrong
      obtain ⟨failed, _⟩ := within (by omega)
      cases failed
    · intro _
      exact ⟨fun within => by omega, fun _ => ⟨⟨e, rfl⟩, rfl⟩⟩

def zeroed : TiHdcEmulData := ⟨0, 0, 0, 0, 0, 0, false, false⟩

/-- The numeral `22.5`. -/
def warm : Numeral where
  sign := .Unsigned
  whole := "22".toList
  fraction := some "5".toList
  whole_nonempty := by decide
  whole_digits := digits_of_all (by decide)
  fraction_digits := by
    rintro _ ⟨⟩
    exact digits_of_all (by decide)

theorem end_to_end_iff_warm : EndToEnd .Temp "22.5".toList zeroed 22.5 := by
  have accepted : parse_micro "22.5".toList 0 = (22500000, .ok ()) := by decide
  exact (end_to_end_iff .Temp zeroed accepted ⟨warm, by decide, by decide +kernel⟩).mpr (.inl (by norm_num))

/-- The numeral `-10`. -/
def cold : Numeral where
  sign := .Minus
  whole := "10".toList
  fraction := none
  whole_nonempty := by decide
  whole_digits := digits_of_all (by decide)
  fraction_digits := by rintro _ ⟨⟩

/-- `sensor_emul set temp -10` fails, although the sensor measures down to -40. -/
theorem negative_temperature_refused :
    parse_micro "-10".toList 0 = (-10000000, .ok ()) ∧ Denotes "-10".toList (-10) ∧
      ¬ EndToEnd .Temp "-10".toList zeroed (-10) := by
  refine ⟨by decide, ⟨cold, by decide, by decide +kernel⟩, ?_⟩
  rintro ⟨within, _⟩
  have range : (lo .AmbientTemp : ℚ) ≤ -10 ∧ -10 ≤ (hi .AmbientTemp : ℚ) := by decide +kernel
  have refused : (sensor_emul_set .Temp "-10".toList zeroed).2.2 = .error .ERange := by decide
  rw [(within range).1] at refused
  cases refused

end ZephyrWorkshop.HdcCommand
