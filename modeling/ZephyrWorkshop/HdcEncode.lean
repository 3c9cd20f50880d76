import Mathlib.Data.Rat.Floor
import Mathlib.Tactic.Linarith
import Mathlib.Tactic.FieldSimp
import ZephyrWorkshop.HdcEmul
import ZephyrWorkshop.Words

/-!
The encoder of the emulated sensor against its decode formula. A channel covers
the physical range from `lo` to `lo + span`; a `q31_t` value `v` with a shift
`n` stands for `v * 2^n / 2^31`. `set_channel` is first brought from mixed 64 bit
words down to integers (`set_channel_spec`), and its register is then compared
with the rounded quotient that the decode formula asks for.
-/

namespace ZephyrWorkshop.HdcEncode
open ZephyrWorkshop.Zephyr ZephyrWorkshop.HdcEmul ZephyrWorkshop.Words

/-! ### The channels in physical units -/

/-- The lowest value of a channel, in degrees Celsius or percent. -/
def lo : SensorChannel → Int
  | .AmbientTemp => -40
  | .Humidity => 0
  | .Other _ => 0

/-- The width of a channel's range. -/
def span : SensorChannel → Int
  | .AmbientTemp => 165
  | .Humidity => 100
  | .Other _ => 0

def Supported (ch : SensorChannel) : Prop := ch = .AmbientTemp ∨ ch = .Humidity

/-- `v * 2^shift`, the value in units of `2^-31`. -/
def scaledValue (value : Int32) (shift : Int8) : Int := value.toInt * 2 ^ shift.toInt.toNat

/-- The physical value that a `q31_t` value and its shift stand for. -/
def physical (value : Int32) (shift : Int8) : ℚ := scaledValue value shift / 2 ^ 31

/-- The rounded quotient of an offset in units of `2^-31` by one register step. -/
def rounded (span offset : Int) : Int := (offset * 2 ^ 16 + span * 2 ^ 30) / (span * 2 ^ 31)

/-- The register for a value in units of `2^-31`. -/
def encode (ch : SensorChannel) (scaled : Int) : UInt16 :=
  UInt16.ofNat (min 65535 (rounded (span ch) (scaled - lo ch * 2 ^ 31))).toNat

/-- The register of a channel. -/
def register (data : TiHdcEmulData) : SensorChannel → UInt16
  | .AmbientTemp => data.reg_temp
  | .Humidity => data.reg_humidity
  | .Other _ => 0

/-- The data once a channel was set to a register value. -/
def pin (data : TiHdcEmulData) (ch : SensorChannel) (raw : UInt16) : TiHdcEmulData :=
  match ch with
  | .AmbientTemp => { data with reg_temp := raw, fixed_temp := true }
  | .Humidity => { data with reg_humidity := raw, fixed_humidity := true }
  | .Other _ => data

theorem register_pin {ch : SensorChannel} (known : Supported ch) (data : TiHdcEmulData) (raw : UInt16) :
    register (pin data ch raw) ch = raw := by
  rcases known with rfl | rfl <;> rfl

/-- What `set_channel` takes: a shift from 0 to 31, a channel it knows, and a
    value in the channel's range. -/
structure Accepted (ch : SensorChanSpec) (value : Int32) (shift : Int8) : Prop where
  shift_low : 0 ≤ shift.toInt
  shift_high : shift.toInt ≤ 31
  index : ch.chan_idx = 0
  supported : Supported ch.chan_type
  low : lo ch.chan_type * 2 ^ 31 ≤ scaledValue value shift
  high : scaledValue value shift ≤ (lo ch.chan_type + span ch.chan_type) * 2 ^ 31

/-! ### From words to integers -/

theorem BIT64_eq_ofInt {n : Nat} (small : n < 64) : BIT64 n = UInt64.ofInt (2 ^ n) :=
  one_shiftLeft n small

/-- No shift from 0 to 31 takes a `q31_t` value out of an `int64_t`. -/
theorem scaledValue_bounds (value : Int32) {shift : Int8} (high : shift.toInt ≤ 31) :
    -2 ^ 62 ≤ scaledValue value shift ∧ scaledValue value shift ≤ 2 ^ 62 := by
  have small : (2 : Int) ^ shift.toInt.toNat ≤ 2 ^ 31 := by
    exact_mod_cast Nat.pow_le_pow_right (by omega) (by omega : shift.toInt.toNat ≤ 31)
  have positive : (0 : Int) < 2 ^ shift.toInt.toNat := by positivity
  have low := value.le_toInt
  have top := value.toInt_lt
  unfold scaledValue
  constructor <;> nlinarith

/-- `scaled` of the source is the value in units of `2^-31`. -/
theorem scaled_toInt (value : Int32) {shift : Int8} (low : 0 ≤ shift.toInt) (high : shift.toInt ≤ 31) :
    ((value.toInt64.toUInt64 * BIT64 shift.toInt.toNat).toInt64).toInt = scaledValue value shift := by
  obtain ⟨bottom, top⟩ := scaledValue_bounds value high
  rw [BIT64_eq_ofInt (by omega), toUInt64_eq_ofInt, ← UInt64.ofInt_mul, toInt64_ofInt, Int32.toInt_toInt64]
  exact Int64.toInt_ofInt_of_le (by unfold scaledValue at bottom; omega) (by unfold scaledValue at top; omega)

/-- A limit of the source, `n * BIT64(31)` with a signed `n`. -/
theorem limit_toInt (n : Int64) (low : -2 ^ 31 ≤ n.toInt) (high : n.toInt ≤ 2 ^ 31) :
    ((n.toUInt64 * BIT64 31).toInt64).toInt = n.toInt * 2 ^ 31 := by
  rw [BIT64_eq_ofInt (by omega), toUInt64_eq_ofInt, ← UInt64.ofInt_mul, toInt64_ofInt]
  exact Int64.toInt_ofInt_of_le (by omega) (by omega)

theorem rounded_range {s offset : Int} (known : s = 165 ∨ s = 100) (low : 0 ≤ offset)
    (high : offset ≤ s * 2 ^ 31) : 0 ≤ rounded s offset ∧ rounded s offset ≤ 65536 := by
  unfold rounded
  rcases known with rfl | rfl <;> omega

/-- `raw` of the source, clipped to 16 bits, is the rounded quotient. -/
theorem raw_eq (span offset : Int) (known : span = 165 ∨ span = 100) (low : 0 ≤ offset)
    (high : offset ≤ span * 2 ^ 31) :
    (min (DIV_ROUND_CLOSEST (UInt64.ofInt offset * BIT64 16) (UInt64.ofInt (span * 2 ^ 31))).toUInt32
        65535).toUInt16 = UInt16.ofNat (min 65535 (rounded span offset)).toNat := by
  have quotient : DIV_ROUND_CLOSEST (UInt64.ofInt offset * BIT64 16) (UInt64.ofInt (span * 2 ^ 31)) =
      UInt64.ofInt (rounded span offset) := by
    have half : UInt64.ofInt (span * 2 ^ 31) / 2 = UInt64.ofInt (span * 2 ^ 30) := by
      rw [show (2 : UInt64) = UInt64.ofInt 2 from rfl, ofInt_div (by omega) (by omega) (by omega) (by omega)]
      congr 1
      omega
    unfold DIV_ROUND_CLOSEST
    rw [half, BIT64_eq_ofInt (by omega), ← UInt64.ofInt_mul, ← UInt64.ofInt_add,
      ofInt_div (by omega) (by omega) (by omega) (by omega)]
    rfl
  have range := rounded_range known low high
  have raw : ((UInt64.ofInt (rounded span offset)).toUInt32.toNat : Int) = rounded span offset :=
    toUInt32_ofInt range.1 (by omega)
  rw [quotient]
  apply UInt16.toNat_inj.mp
  rw [UInt32.toNat_toUInt16, UInt16.toNat_ofNat_of_lt' (by show _ < 65536; omega)]
  generalize UInt64.toUInt32 _ = word at raw
  have bound : (65535 : UInt32).toNat = 65535 := rfl
  by_cases clipped : word ≤ 65535
  · have smaller : min word 65535 = word := if_pos clipped
    have := UInt32.le_iff_toNat_le.mp clipped
    rw [smaller]
    omega
  · have larger := UInt32.lt_iff_toNat_lt.mp (UInt32.not_le.mp clipped)
    have top : min word 65535 = 65535 := if_neg clipped
    rw [top, bound]
    omega

/-! ### `set_channel` and `get_sample_range` in integers -/

private theorem shift_outside (shift : Int8) :
    (shift < 0 ∨ shift > 31) ↔ ¬ (0 ≤ shift.toInt ∧ shift.toInt ≤ 31) := by
  rw [gt_iff_lt, Int8.lt_iff_toInt_lt, Int8.lt_iff_toInt_lt]
  have zero : (0 : Int8).toInt = 0 := rfl
  have top : (31 : Int8).toInt = 31 := rfl
  omega

/-- The range check of the source, on the scaled value and its two limits. -/
private theorem outside_iff {scaled lower upper : Int64} {s l u : Int} (scaledIs : scaled.toInt = s)
    (lowerIs : lower.toInt = l) (upperIs : upper.toInt = u) :
    (scaled < lower ∨ scaled > upper) ↔ ¬ (l ≤ s ∧ s ≤ u) := by
  rw [gt_iff_lt, Int64.lt_iff_toInt_lt, Int64.lt_iff_toInt_lt]
  omega

section
variable (data : TiHdcEmulData) (value : Int32) {shift : Int8} (bounded : 0 ≤ shift.toInt ∧ shift.toInt ≤ 31)
include bounded

/-- A temperature that has passed the checks of shift and index. -/
private theorem set_temperature :
    ti_hdc_emul_set_channel data ⟨.AmbientTemp, 0⟩ (some value) shift =
      if -40 * 2 ^ 31 ≤ scaledValue value shift ∧ scaledValue value shift ≤ 125 * 2 ^ 31 then
        (pin data .AmbientTemp (encode .AmbientTemp (scaledValue value shift)), .ok ())
      else (data, .error .ERange) := by
  have inRange := mt (shift_outside shift).mp (not_not.mpr bounded)
  have scaled := scaled_toInt value bounded.1 bounded.2
  have lower := limit_toInt (-40) (by decide) (by decide)
  have upper := limit_toInt 125 (by decide) (by decide)
  have outside := outside_iff scaled lower upper
  have limits : (-40 : Int64).toInt = -40 ∧ (125 : Int64).toInt = 125 := ⟨rfl, rfl⟩
  rw [limits.1, limits.2] at outside
  simp only [ti_hdc_emul_set_channel, if_neg inRange, ne_eq, not_true_eq_false, if_false]
  by_cases inside : -40 * 2 ^ 31 ≤ scaledValue value shift ∧ scaledValue value shift ≤ 125 * 2 ^ 31
  · have raw := raw_eq 165 (scaledValue value shift - -40 * 2 ^ 31) (.inl rfl) (by omega) (by omega)
    rw [if_neg (by rw [outside]; omega), if_pos inside, Int64.toUInt64_sub, toUInt64_eq_ofInt, scaled,
      toUInt64_eq_ofInt, lower, ← ofInt_sub, limits.1]
    exact congrArg (fun raw => ({ data with reg_temp := raw, fixed_temp := true }, Except.ok ())) raw
  · rw [if_pos (outside.mpr inside), if_neg inside]

private theorem set_humidity :
    ti_hdc_emul_set_channel data ⟨.Humidity, 0⟩ (some value) shift =
      if 0 ≤ scaledValue value shift ∧ scaledValue value shift ≤ 100 * 2 ^ 31 then
        (pin data .Humidity (encode .Humidity (scaledValue value shift)), .ok ())
      else (data, .error .ERange) := by
  have inRange := mt (shift_outside shift).mp (not_not.mpr bounded)
  have scaled := scaled_toInt value bounded.1 bounded.2
  have upper := limit_toInt 100 (by decide) (by decide)
  have zero : (0 : Int64).toInt = 0 := rfl
  have limit : (100 : Int64).toInt = 100 := rfl
  have outside := outside_iff scaled zero upper
  rw [limit] at outside
  simp only [ti_hdc_emul_set_channel, if_neg inRange, ne_eq, not_true_eq_false, if_false]
  by_cases inside : 0 ≤ scaledValue value shift ∧ scaledValue value shift ≤ 100 * 2 ^ 31
  · have raw := raw_eq 100 (scaledValue value shift) (.inr rfl) inside.1 inside.2
    rw [if_neg (by rw [outside]; omega), if_pos inside, toUInt64_eq_ofInt, scaled, toUInt64_eq_ofInt, upper, limit, raw]
    simp only [pin, encode, lo, span, Int.zero_mul, Int.sub_zero]
  · rw [if_pos (outside.mpr inside), if_neg inside]

end

/-- `set_channel` pins the register of what it takes and refuses everything else. -/
theorem set_channel_spec (data : TiHdcEmulData) (ch : SensorChanSpec) (value : Int32) (shift : Int8) :
    (Accepted ch value shift ∧ ti_hdc_emul_set_channel data ch (some value) shift =
      (pin data ch.chan_type (encode ch.chan_type (scaledValue value shift)), .ok ())) ∨
    (¬ Accepted ch value shift ∧ ∃ e, ti_hdc_emul_set_channel data ch (some value) shift = (data, .error e)) := by
  obtain ⟨kind, index⟩ := ch
  by_cases bounded : 0 ≤ shift.toInt ∧ shift.toInt ≤ 31
  swap
  · refine .inr ⟨fun a => bounded ⟨a.shift_low, a.shift_high⟩, .EInval, ?_⟩
    simp only [ti_hdc_emul_set_channel, if_pos ((shift_outside shift).mpr bounded)]
  by_cases indexed : index = 0
  swap
  · refine .inr ⟨fun a => indexed a.index, .ENotSup, ?_⟩
    have inRange := mt (shift_outside shift).mp (not_not.mpr bounded)
    simp only [ti_hdc_emul_set_channel, if_neg inRange, ne_eq, indexed, not_false_eq_true, if_true]
  subst indexed
  cases kind with
  | AmbientTemp =>
    have limits : Accepted ⟨.AmbientTemp, 0⟩ value shift ↔
        -40 * 2 ^ 31 ≤ scaledValue value shift ∧ scaledValue value shift ≤ 125 * 2 ^ 31 :=
      ⟨fun a => ⟨a.low, a.high⟩, fun inside => ⟨bounded.1, bounded.2, rfl, .inl rfl, inside.1, inside.2⟩⟩
    rw [limits, set_temperature data value bounded]
    by_cases inside : -40 * 2 ^ 31 ≤ scaledValue value shift ∧ scaledValue value shift ≤ 125 * 2 ^ 31
    · exact .inl ⟨inside, if_pos inside⟩
    · exact .inr ⟨inside, .ERange, if_neg inside⟩
  | Humidity =>
    have limits : Accepted ⟨.Humidity, 0⟩ value shift ↔
        0 ≤ scaledValue value shift ∧ scaledValue value shift ≤ 100 * 2 ^ 31 :=
      ⟨fun a => ⟨a.low, a.high⟩, fun inside => ⟨bounded.1, bounded.2, rfl, .inr rfl, inside.1, inside.2⟩⟩
    rw [limits, set_humidity data value bounded]
    by_cases inside : 0 ≤ scaledValue value shift ∧ scaledValue value shift ≤ 100 * 2 ^ 31
    · exact .inl ⟨inside, if_pos inside⟩
    · exact .inr ⟨inside, .ERange, if_neg inside⟩
  | Other number =>
    refine .inr ⟨fun a => ?_, .ENotSup, ?_⟩
    · rcases a.supported with same | same <;> cases same
    · have inRange := mt (shift_outside shift).mp (not_not.mpr bounded)
      simp only [ti_hdc_emul_set_channel, if_neg inRange, ne_eq, not_true_eq_false, if_false]

/-- What `get_sample_range` returns for a channel, whatever its caller's variables
    held: two limits and a step, with shift 8. -/
def Advertised (ch : SensorChanSpec) (lower upper epsilon : Int32) : Prop :=
  ∀ l u e s, ti_hdc_emul_get_sample_range ch ⟨some l, some u, some e, some s⟩ =
    (⟨some lower, some upper, some epsilon, some 8⟩, .ok ())

/-- The limits and one register step, truncated to 32 bits without a loss. -/
private theorem range_words :
    ((((-40 : Int64).toUInt64 * BIT64 31) >>> UInt64.ofNat 8).toUInt32.toInt32).toInt = -40 * 2 ^ 23 ∧
    ((((125 : Int64).toUInt64 * BIT64 31) >>> UInt64.ofNat 8).toUInt32.toInt32).toInt = 125 * 2 ^ 23 ∧
    ((((100 : Int64).toUInt64 * BIT64 31) >>> UInt64.ofNat 8).toUInt32.toInt32).toInt = 100 * 2 ^ 23 ∧
    (((DIV_ROUND_UP ((165 : Int64).toUInt64 * BIT64 31) (BIT64 16)) >>>
      UInt64.ofNat 8).toUInt32.toInt32).toInt = 165 * 2 ^ 7 ∧
    (((DIV_ROUND_UP ((100 : Int64).toUInt64 * BIT64 31) (BIT64 16)) >>>
      UInt64.ofNat 8).toUInt32.toInt32).toInt = 100 * 2 ^ 7 := by
  decide

theorem advertised_iff (ch : SensorChanSpec) (lower upper epsilon : Int32) :
    Advertised ch lower upper epsilon ↔ ch.chan_idx = 0 ∧ Supported ch.chan_type ∧
      lower.toInt = lo ch.chan_type * 2 ^ 23 ∧ upper.toInt = (lo ch.chan_type + span ch.chan_type) * 2 ^ 23 ∧
      epsilon.toInt = span ch.chan_type * 2 ^ 7 := by
  obtain ⟨kind, index⟩ := ch
  obtain ⟨lowest, warmest, wettest, degrees, percents⟩ := range_words
  by_cases indexed : index = 0
  swap
  · simp [Advertised, ti_hdc_emul_get_sample_range, indexed]
  subst indexed
  cases kind with
  | AmbientTemp =>
    simp only [Advertised, ti_hdc_emul_get_sample_range, ne_eq, not_true_eq_false, if_false, Prod.mk.injEq,
      RangePointers.mk.injEq, Option.some.injEq, and_true, forall_const, ← Int32.toInt_inj, lowest, warmest,
      degrees, Supported, true_or, true_and, lo, span]
    omega
  | Humidity =>
    simp only [Advertised, ti_hdc_emul_get_sample_range, ne_eq, not_true_eq_false, if_false, Prod.mk.injEq,
      RangePointers.mk.injEq, Option.some.injEq, and_true, forall_const, ← Int32.toInt_inj, wettest,
      percents, Supported, or_true, true_and, lo, span]
    have zero : (0 : Int32).toInt = 0 := rfl
    omega
  | Other number => simp [Advertised, ti_hdc_emul_get_sample_range, Supported]

theorem exists_advertised (ch : SensorChanSpec) (index : ch.chan_idx = 0) (supported : Supported ch.chan_type) :
    ∃ lower upper epsilon, Advertised ch lower upper epsilon := by
  refine ⟨Int32.ofInt (lo ch.chan_type * 2 ^ 23), Int32.ofInt ((lo ch.chan_type + span ch.chan_type) * 2 ^ 23),
    Int32.ofInt (span ch.chan_type * 2 ^ 7), (advertised_iff _ _ _ _).mpr ⟨index, supported, ?_⟩⟩
  rcases supported with kind | kind <;> rw [kind] <;> decide

/-! ### The rounded quotient -/

/-- The physical value that the decode formula gives for a register. -/
def decode (ch : SensorChannel) (raw : UInt16) : ℚ := raw.toNat * span ch / 65536 + lo ch

/-- The register that the decode formula asks for. -/
def nearest (ch : SensorChannel) (T : ℚ) : Int := min 65535 ⌊(T - lo ch) * 65536 / span ch + 1 / 2⌋

theorem span_known {ch : SensorChannel} (known : Supported ch) : span ch = 165 ∨ span ch = 100 := by
  rcases known with rfl | rfl
  · exact .inl rfl
  · exact .inr rfl

theorem rounded_eq_floor {s : Int} (positive : 0 < s) (scaled bottom : Int) :
    rounded s (scaled - bottom * 2 ^ 31) = ⌊((scaled : ℚ) / 2 ^ 31 - bottom) * 65536 / s + 1 / 2⌋ := by
  obtain ⟨width, rfl⟩ := Int.eq_ofNat_of_zero_le positive.le
  have nonzero : (width : ℚ) ≠ 0 := by exact_mod_cast positive.ne'
  have quotient := Rat.floor_intCast_div_natCast ((scaled - bottom * 2 ^ 31) * 2 ^ 16 + width * 2 ^ 30) (width * 2 ^ 31)
  unfold rounded
  rw [show (width : Int) * 2 ^ 31 = (width * 2 ^ 31 : Nat) by push_cast; rfl, ← quotient]
  congr 1
  push_cast
  field_simp
  ring

theorem encode_toNat {ch : SensorChannel} (known : Supported ch) {scaled : Int} (low : lo ch * 2 ^ 31 ≤ scaled)
    (high : scaled ≤ (lo ch + span ch) * 2 ^ 31) :
    ((encode ch scaled).toNat : Int) = min 65535 (rounded (span ch) (scaled - lo ch * 2 ^ 31)) := by
  have range := rounded_range (span_known known) (by omega : 0 ≤ scaled - lo ch * 2 ^ 31) (by linarith)
  rw [encode, UInt16.toNat_ofNat_of_lt' (by show _ < 65536; omega)]
  omega

/-- Decoding a register gives back the value it was encoded from, up to one step. -/
theorem encode_error {ch : SensorChannel} (known : Supported ch) {scaled : Int} (low : lo ch * 2 ^ 31 ≤ scaled)
    (high : scaled ≤ (lo ch + span ch) * 2 ^ 31) :
    |decode ch (encode ch scaled) - scaled / 2 ^ 31| ≤ (span ch : ℚ) / 65536 := by
  have steps : |(encode ch scaled).toNat * (span ch * 2 ^ 15) - (scaled - lo ch * 2 ^ 31)| ≤ span ch * 2 ^ 15 := by
    rw [encode_toNat known low high, abs_le]
    unfold rounded
    rcases span_known known with width | width <;> rw [width] at high ⊢ <;> omega
  have scaledSteps : (|(encode ch scaled).toNat * (span ch * 2 ^ 15) - (scaled - lo ch * 2 ^ 31)| : ℚ) ≤
      span ch * 2 ^ 15 := by exact_mod_cast steps
  have same : decode ch (encode ch scaled) - scaled / 2 ^ 31 =
      ((encode ch scaled).toNat * (span ch * 2 ^ 15) - (scaled - lo ch * 2 ^ 31)) / 2 ^ 31 := by
    unfold decode
    ring
  rw [same, abs_div, abs_of_pos (by norm_num : (0 : ℚ) < 2 ^ 31), div_le_iff₀ (by norm_num)]
  calc _ ≤ (span ch : ℚ) * 2 ^ 15 := scaledSteps
    _ = span ch / 65536 * 2 ^ 31 := by ring

theorem encode_mono {ch : SensorChannel} (known : Supported ch) {scaled scaled' : Int}
    (low : lo ch * 2 ^ 31 ≤ scaled) (below : scaled ≤ scaled') (high : scaled' ≤ (lo ch + span ch) * 2 ^ 31) :
    encode ch scaled ≤ encode ch scaled' := by
  have smaller := encode_toNat known low (below.trans high)
  have larger := encode_toNat known (low.trans below) high
  have quotients : rounded (span ch) (scaled - lo ch * 2 ^ 31) ≤ rounded (span ch) (scaled' - lo ch * 2 ^ 31) := by
    unfold rounded
    rcases span_known known with width | width <;> rw [width] <;> omega
  rw [UInt16.le_iff_toNat_le]
  omega

/-! ### The encoder against its range and the decode formula -/

def Succeeds (data : TiHdcEmulData) (ch : SensorChanSpec) (value : Int32) (shift : Int8) : Prop :=
  (ti_hdc_emul_set_channel data ch (some value) shift).2 = .ok ()

/-- The channel's register after the call. -/
def registerAfter (data : TiHdcEmulData) (ch : SensorChanSpec) (value : Int32) (shift : Int8) : UInt16 :=
  register (ti_hdc_emul_set_channel data ch (some value) shift).1 ch.chan_type

theorem succeeds_iff (data : TiHdcEmulData) (ch : SensorChanSpec) (value : Int32) (shift : Int8) :
    Succeeds data ch value shift ↔ Accepted ch value shift := by
  unfold Succeeds
  rcases set_channel_spec data ch value shift with ⟨accepted, run⟩ | ⟨refused, e, run⟩
  · simp [run, accepted]
  · simp [run, refused]

theorem registerAfter_eq (data : TiHdcEmulData) {ch : SensorChanSpec} {value : Int32} {shift : Int8}
    (accepted : Accepted ch value shift) :
    registerAfter data ch value shift = encode ch.chan_type (scaledValue value shift) := by
  rcases set_channel_spec data ch value shift with ⟨_, run⟩ | ⟨refused, _⟩
  · rw [registerAfter, run]
    rcases accepted.supported with kind | kind <;> rw [kind] <;> rfl
  · exact absurd accepted refused

/-- The range check is the one that `get_sample_range` advertises. -/
theorem succeeds_iff_advertised (data : TiHdcEmulData) (ch : SensorChanSpec) (value : Int32) (shift : Int8) :
    Succeeds data ch value shift ↔ 0 ≤ shift.toInt ∧ shift.toInt ≤ 31 ∧ ch.chan_idx = 0 ∧
      Supported ch.chan_type ∧ ∃ lower upper epsilon, Advertised ch lower upper epsilon ∧
        lower.toInt * 2 ^ 8 ≤ value.toInt * 2 ^ shift.toInt.toNat ∧
        value.toInt * 2 ^ shift.toInt.toNat ≤ upper.toInt * 2 ^ 8 := by
  rw [succeeds_iff]
  constructor
  · intro accepted
    obtain ⟨lower, upper, epsilon, range⟩ := exists_advertised ch accepted.index accepted.supported
    obtain ⟨_, _, lowest, highest, _⟩ := (advertised_iff _ _ _ _).mp range
    have low := accepted.low
    have high := accepted.high
    unfold scaledValue at low high
    exact ⟨accepted.shift_low, accepted.shift_high, accepted.index, accepted.supported,
      lower, upper, epsilon, range, by omega, by omega⟩
  · rintro ⟨shiftLow, shiftHigh, index, supported, lower, upper, epsilon, range, low, high⟩
    obtain ⟨_, _, lowest, highest, _⟩ := (advertised_iff _ _ _ _).mp range
    exact ⟨shiftLow, shiftHigh, index, supported, by unfold scaledValue; omega, by unfold scaledValue; omega⟩

theorem unchanged_of_failure {data : TiHdcEmulData} {ch : SensorChanSpec} {value : Int32} {shift : Int8}
    (failed : ¬ Succeeds data ch value shift) : (ti_hdc_emul_set_channel data ch (some value) shift).1 = data := by
  rcases set_channel_spec data ch value shift with ⟨accepted, _⟩ | ⟨_, e, run⟩
  · exact absurd ((succeeds_iff data ch value shift).mpr accepted) failed
  · rw [run]

/-- A success pins its own channel and changes nothing else. -/
theorem pins_register (data : TiHdcEmulData) {ch : SensorChanSpec} {value : Int32} {shift : Int8}
    (accepted : Accepted ch value shift) :
    (ti_hdc_emul_set_channel data ch (some value) shift).1 =
      pin data ch.chan_type (registerAfter data ch value shift) := by
  rcases set_channel_spec data ch value shift with ⟨_, run⟩ | ⟨refused, _⟩
  · rw [run, registerAfter_eq data accepted]
  · exact absurd accepted refused

theorem registerAfter_nearest (data : TiHdcEmulData) {ch : SensorChanSpec} {value : Int32} {shift : Int8}
    (accepted : Accepted ch value shift) :
    (registerAfter data ch value shift).toNat = nearest ch.chan_type (physical value shift) := by
  have known := accepted.supported
  have positive : 0 < span ch.chan_type := by rcases span_known known with width | width <;> omega
  rw [registerAfter_eq data accepted, encode_toNat known accepted.low accepted.high, rounded_eq_floor positive]
  rfl

theorem registerAfter_error (data : TiHdcEmulData) {ch : SensorChanSpec} {value : Int32} {shift : Int8}
    (accepted : Accepted ch value shift) {lower upper epsilon : Int32} (range : Advertised ch lower upper epsilon) :
    |decode ch.chan_type (registerAfter data ch value shift) - physical value shift| ≤
      epsilon.toInt * 2 ^ 8 / 2 ^ 31 := by
  obtain ⟨_, _, _, _, step⟩ := (advertised_iff _ _ _ _).mp range
  have near := encode_error accepted.supported accepted.low accepted.high
  have same : (epsilon.toInt : ℚ) * 2 ^ 8 / 2 ^ 31 = span ch.chan_type / 65536 := by
    rw [step]
    push_cast
    ring
  rw [same, registerAfter_eq data accepted]
  exact near

theorem scaledValue_eq_of_physical {value value' : Int32} {shift shift' : Int8}
    (same : physical value shift = physical value' shift') : scaledValue value shift = scaledValue value' shift' := by
  have equal : (scaledValue value shift : ℚ) = scaledValue value' shift' := by
    unfold physical at same
    linarith
  exact_mod_cast equal

/-- `set_channel` succeeds exactly in the range that `get_sample_range` advertises,
    changes nothing where it fails, and otherwise stores the register that the
    decode formula asks for: monotone, the same for equal physical values, and
    off by no more than the advertised epsilon. -/
theorem encoder_matches_formula (data : TiHdcEmulData) (ch : SensorChanSpec) (value : Int32) (shift : Int8) :
    (Succeeds data ch value shift ↔ 0 ≤ shift.toInt ∧ shift.toInt ≤ 31 ∧ ch.chan_idx = 0 ∧
      (ch.chan_type = .AmbientTemp ∨ ch.chan_type = .Humidity) ∧
      ∃ lower upper epsilon, Advertised ch lower upper epsilon ∧
        lower.toInt * 2 ^ 8 ≤ value.toInt * 2 ^ shift.toInt.toNat ∧
        value.toInt * 2 ^ shift.toInt.toNat ≤ upper.toInt * 2 ^ 8) ∧
    (¬ Succeeds data ch value shift → (ti_hdc_emul_set_channel data ch (some value) shift).1 = data) ∧
    (Succeeds data ch value shift →
      (ti_hdc_emul_set_channel data ch (some value) shift).1 =
        pin data ch.chan_type (registerAfter data ch value shift) ∧
      (registerAfter data ch value shift).toNat = nearest ch.chan_type (physical value shift) ∧
      (∀ lower upper epsilon, Advertised ch lower upper epsilon →
        |decode ch.chan_type (registerAfter data ch value shift) - physical value shift| ≤
          epsilon.toInt * 2 ^ 8 / 2 ^ 31) ∧
      ∀ data' value' shift', Succeeds data' ch value' shift' →
        (value.toInt * 2 ^ shift.toInt.toNat ≤ value'.toInt * 2 ^ shift'.toInt.toNat →
          registerAfter data ch value shift ≤ registerAfter data' ch value' shift') ∧
        (physical value shift = physical value' shift' →
          registerAfter data ch value shift = registerAfter data' ch value' shift')) := by
  refine ⟨succeeds_iff_advertised data ch value shift, unchanged_of_failure, fun succeeded => ?_⟩
  have accepted := (succeeds_iff data ch value shift).mp succeeded
  refine ⟨pins_register data accepted, registerAfter_nearest data accepted,
    fun _ _ _ range => registerAfter_error data accepted range, fun data' value' shift' succeeded' => ?_⟩
  have accepted' := (succeeds_iff data' ch value' shift').mp succeeded'
  rw [registerAfter_eq data accepted, registerAfter_eq data' accepted']
  constructor
  · intro below
    exact encode_mono accepted.supported accepted.low below accepted'.high
  · intro same
    rw [scaledValue_eq_of_physical same]

end ZephyrWorkshop.HdcEncode
