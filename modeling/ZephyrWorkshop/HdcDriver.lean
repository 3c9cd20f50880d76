import ZephyrWorkshop.HdcCommand
import ZephyrWorkshop.HdcSchedule
import ZephyrWorkshop.Track

/-!
The emulated sensor of `emulators/sensor/ti_hdc_emul` as a program reads it,
through the driver and the sensor API. The driver is not part of this repository:
its transfers are those that the header of the emulator describes, and what it
makes of a register is a parameter (`Close`). A channel that was set keeps its
register whatever else happens (`perform_pinned`), and every reading finds it
there (`driver_fetch_pinned`).
-/

namespace ZephyrWorkshop.HdcDriver
open ZephyrWorkshop.Zephyr ZephyrWorkshop.HdcEmul ZephyrWorkshop.HdcEncode ZephyrWorkshop.HdcReads ZephyrWorkshop.HdcRuns
open ZephyrWorkshop.HdcSchedule ZephyrWorkshop.HdcShell ZephyrWorkshop.HdcCommand ZephyrWorkshop.Decimal
open ZephyrWorkshop.Track (SensorValue)

/-! ### Values -/

/-- The number that a `struct sensor_value` stands for: `val2` counts millionths. -/
def quantity (value : SensorValue) : ℚ := value.val1.toInt + value.val2.toInt / 10 ^ 6

theorem quantity_eq (value : SensorValue) :
    quantity value = ((value.val1.toInt * 10 ^ 6 + value.val2.toInt : Int) : ℚ) / 10 ^ 6 := by
  rw [quantity]
  push_cast
  ring

/-- The driver follows the formula in the header of the emulator, up to a millionth. -/
def Close (convert : SensorChannel → UInt16 → SensorValue) : Prop :=
  ∀ ch, Supported ch → ∀ raw, |quantity (convert ch raw) - decode ch raw| ≤ 1 / 10 ^ 6

/-- The physical range of a channel. -/
theorem decode_range {ch : SensorChannel} (known : Supported ch) (raw : UInt16) :
    (lo ch : ℚ) ≤ decode ch raw ∧ decode ch raw ≤ hi ch := by
  have bound : (raw.toNat : ℚ) ≤ 65536 := by
    have small := raw.toNat_lt
    exact_mod_cast (by omega : raw.toNat ≤ 65536)
  have nonnegative : (0 : ℚ) ≤ raw.toNat := Nat.cast_nonneg _
  have width : (0 : ℚ) ≤ span ch := by
    rcases span_known known with width | width <;> rw [width] <;> norm_num
  have least : (0 : ℚ) ≤ raw.toNat * span ch / 65536 := by positivity
  have most : (raw.toNat : ℚ) * span ch / 65536 ≤ span ch := by
    rw [div_le_iff₀ (by norm_num)]
    nlinarith
  unfold decode hi
  push_cast
  constructor <;> linarith

theorem decode_temperature (raw : UInt16) :
    decode .AmbientTemp raw = ((raw.toNat * 165 - 40 * 65536 : Int) : ℚ) / 65536 := by
  simp only [decode, span, lo]
  push_cast
  ring

/-- The registers from zero degrees on. -/
theorem decode_nonnegative_iff (raw : UInt16) : 0 ≤ decode .AmbientTemp raw ↔ 15888 ≤ raw := by
  rw [decode_temperature, le_div_iff₀ (by norm_num), zero_mul, UInt16.le_iff_toNat_le]
  have border : (15888 : UInt16).toNat = 15888 := rfl
  have integers : (0 : ℚ) ≤ ((raw.toNat * 165 - 40 * 65536 : Int) : ℚ) ↔ (0 : Int) ≤ raw.toNat * 165 - 40 * 65536 := by
    exact_mod_cast Iff.rfl
  rw [integers, border]
  omega

/-- What a number from zero on is encoded to is decoded to one from zero on. -/
theorem decode_encode_nonnegative {ch : SensorChannel} (known : Supported ch) {scaled : Int} (low : 0 ≤ scaled)
    (high : scaled ≤ hi ch * 2 ^ 31) : 0 ≤ decode ch (encode ch scaled) := by
  rcases known with rfl | rfl
  · have larger := encode_mono (.inl rfl) (by decide : lo .AmbientTemp * 2 ^ 31 ≤ 0) low high
    have zero : encode .AmbientTemp 0 = 15888 := by decide
    rw [zero] at larger
    exact (decode_nonnegative_iff _).mpr larger
  · have least := (decode_range (.inr rfl : Supported .Humidity) (encode .Humidity scaled)).1
    simpa [lo] using least

/-! ### A reading -/

/-- A reading by the driver: the data after it, what its read returns, and the two
    registers that it reads. The trigger does not fail. -/
def driver_fetch (data : TiHdcEmulData) (r : Reading) : TiHdcEmulData × Status × UInt16 × UInt16 :=
  let (data, _, _) := ti_hdc_emul_transfer data [trigger r.written] r.rand_temp r.rand_humidity
  let data := performAll data r.between
  let (data, msgs, read) := ti_hdc_emul_transfer data [⟨true, 4, r.buf⟩] 0 0
  let bytes := msgs.flatMap (·.buf)
  (data, read, sys_get_be16 bytes, sys_get_be16 (bytes.drop 2))

/-- The data when a reading is taken: a sample, and what comes between the transfers. -/
def sampled (data : TiHdcEmulData) (r : Reading) : TiHdcEmulData :=
  performAll (ti_hdc_emul_generate_sample { data with cur_reg := TI_HDC_REG_TEMP } r.rand_temp r.rand_humidity) r.between

/-- What every one of the calls keeps, holds after all of them. -/
theorem performAll_preserves {P : TiHdcEmulData → Prop} {calls : List HdcAction}
    (kept : ∀ a ∈ calls, ∀ data, P data → P (perform data a).1) {data : TiHdcEmulData} (holds : P data) :
    P (performAll data calls) := by
  induction calls generalizing data with
  | nil => exact holds
  | cons a rest ih =>
    exact ih (fun b member => kept b (List.mem_cons_of_mem a member)) (kept a List.mem_cons_self data holds)

/-- A reading that nothing on the bus moves to other registers succeeds, and finds
    what the emulator holds. -/
theorem driver_fetch_eq (data : TiHdcEmulData) {r : Reading} (keeps : ∀ a ∈ r.between, KeepsRegister a) :
    driver_fetch data r = (sampled data r, .ok (), (sampled data r).reg_temp, (sampled data r).reg_humidity) := by
  have triggered : ti_hdc_emul_transfer data [trigger r.written] r.rand_temp r.rand_humidity =
      (ti_hdc_emul_generate_sample { data with cur_reg := TI_HDC_REG_TEMP } r.rand_temp r.rand_humidity,
        [trigger r.written], .ok ()) := rfl
  obtain ⟨cur_reg, _⟩ := sample_frame { data with cur_reg := TI_HDC_REG_TEMP } r.rand_temp r.rand_humidity
  have points : (sampled data r).cur_reg = TI_HDC_REG_TEMP :=
    performAll_preserves (P := fun data => data.cur_reg = TI_HDC_REG_TEMP) keeps cur_reg
  have skipped : ∀ val rest, List.drop 2 (sys_put_be16 val ++ rest) = rest := fun _ _ => rfl
  unfold sampled at points ⊢
  simp only [driver_fetch, triggered, read_both points, List.flatMap_cons, List.flatMap_nil, List.append_nil,
    List.append_assoc, get_put_be16, skipped]

/-! ### A channel that was set -/

/-- A call that does not set the channel. -/
def Leaves (ch : SensorChannel) : HdcAction → Prop
  | .transfer _ _ _ => True
  | .set_channel spec value shift =>
    spec.chan_type = ch → ∀ data, (ti_hdc_emul_set_channel data spec value shift).2 ≠ .ok ()

/-- A command that does not set the channel. -/
def CommandLeaves (ch : SensorChannel) (command : SetCommand) (str : CString) : Prop :=
  channel command = ch → ∀ data, (sensor_emul_set command str data).2.2 ≠ .ok ()

/-- The channel is set to this register. -/
structure Pinned (ch : SensorChannel) (raw : UInt16) (data : TiHdcEmulData) : Prop where
  fixed : fixed data ch = true
  register : register data ch = raw

theorem pinned_pin {ch : SensorChannel} (known : Supported ch) (data : TiHdcEmulData) (raw : UInt16) :
    Pinned ch raw (pin data ch raw) := ⟨fixed_pin known data raw, register_pin known data raw⟩

section
variable {ch : SensorChannel} {raw : UInt16} {data : TiHdcEmulData}

theorem Pinned.sample (known : Supported ch) (pinned : Pinned ch raw data) (rand_temp rand_humidity : UInt32) :
    Pinned ch raw (ti_hdc_emul_generate_sample data rand_temp rand_humidity) := by
  have kept := sample_register data rand_temp rand_humidity known
  rw [pinned.fixed, if_pos rfl] at kept
  obtain ⟨_, _, _, temp, humidity, _⟩ := sample_frame data rand_temp rand_humidity
  refine ⟨?_, kept.trans pinned.register⟩
  have stays := pinned.fixed
  rcases known with rfl | rfl
  · exact temp.trans stays
  · exact humidity.trans stays

theorem Pinned.cur_reg (pinned : Pinned ch raw data) (reg : UInt8) : Pinned ch raw { data with cur_reg := reg } := by
  obtain ⟨fixed, register⟩ := pinned
  cases ch <;> exact ⟨fixed, register⟩

/-- Setting another channel. -/
theorem Pinned.other {other : SensorChannel} (pinned : Pinned ch raw data) (different : ch ≠ other) (value : UInt16) :
    Pinned ch raw (pin data other value) := by
  obtain ⟨sameFixed, sameRegister⟩ := pin_other data different value
  exact ⟨sameFixed.trans pinned.fixed, sameRegister.trans pinned.register⟩

/-- Whatever else happens, the channel keeps its setting. -/
theorem perform_pinned (known : Supported ch) {a : HdcAction} (leaves : Leaves ch a) (pinned : Pinned ch raw data) :
    Pinned ch raw (perform data a).1 := by
  cases a with
  | transfer msgs rand_temp rand_humidity =>
    show Pinned ch raw (ti_hdc_emul_transfer data msgs rand_temp rand_humidity).1
    rcases transfer_cases data msgs rand_temp rand_humidity with ⟨reg, moved⟩ | ⟨_, triggered, _⟩
    · rw [moved]
      exact pinned.cur_reg reg
    · rw [triggered]
      exact (pinned.cur_reg TI_HDC_REG_TEMP).sample known rand_temp rand_humidity
  | set_channel spec value shift =>
    show Pinned ch raw (ti_hdc_emul_set_channel data spec value shift).1
    cases value with
    | none => exact pinned
    | some value =>
      by_cases succeeded : (ti_hdc_emul_set_channel data spec (some value) shift).2 = .ok ()
      · rw [pins_register data ((succeeds_iff data spec value shift).mp succeeded)]
        have different : ch ≠ spec.chan_type := fun same => leaves same.symm data succeeded
        exact pinned.other different _
      · rw [unchanged_of_failure succeeded]
        exact pinned

theorem sampled_pinned (known : Supported ch) {r : Reading} (leaves : ∀ a ∈ r.between, Leaves ch a)
    (pinned : Pinned ch raw data) : Pinned ch raw (sampled data r) :=
  performAll_preserves (fun a member _ before => perform_pinned known (leaves a member) before)
    ((pinned.cur_reg TI_HDC_REG_TEMP).sample known r.rand_temp r.rand_humidity)

end

/-! ### The command that sets a channel -/

/-- The command sets its channel to what a number from zero on is converted to,
    or changes nothing. -/
theorem sensor_emul_set_cases (command : SetCommand) (str : CString) (data : TiHdcEmulData) :
    ((sensor_emul_set command str data).2.2 = .ok () ∧
      ∃ scaled, 0 ≤ scaled ∧ scaled ≤ hi (channel command) * 2 ^ 31 ∧
        (sensor_emul_set command str data).1 = pin data (channel command) (encode (channel command) scaled)) ∨
    (sensor_emul_set command str data).1 = data := by
  have outcomes : ∀ result : Int64 × Status, (∃ e, result = (result.1, .error e)) ∨ result = (result.1, .ok ()) := by
    rintro ⟨micro, e | done⟩
    · exact .inl ⟨e, rfl⟩
    · exact .inr rfl
  rcases outcomes (parse_micro str 0) with ⟨e, parsed⟩ | parsed
  · right
    have refused : ∀ ch name, (HdcShell.set_channel data str ch name).1 = data := by
      intro ch name
      rw [HdcShell.set_channel, parsed]
    cases command with
    | Temp => exact refused _ _
    | Humidity => exact refused _ _
  · have least := (converted_range (parse_micro str 0).1.toInt).1
    rcases sensor_emul_set_spec command data parsed with ⟨most, lines, run⟩ | ⟨_, lines, e, run⟩
    · rw [run]
      exact .inl ⟨rfl, _, by omega, by omega, rfl⟩
    · rw [run]
      exact .inr rfl

/-- A number in range that is not negative is set up to one register step, and
    stays one that is not negative. -/
theorem sensor_emul_set_close (command : SetCommand) (data : TiHdcEmulData) {str : CString} {stored : Int64} {x : ℚ}
    (accepted : parse_micro str 0 = (stored, .ok ())) (denotes : Denotes str x) (low : 0 ≤ x)
    (high : x ≤ hi (channel command)) :
    ∃ raw, (sensor_emul_set command str data).1 = pin data (channel command) raw ∧ 0 ≤ decode (channel command) raw ∧
      |decode (channel command) raw - x| ≤ span (channel command) / 65536 := by
  obtain ⟨n, rfl, rfl⟩ := denotes
  obtain ⟨same, whole, places⟩ := parse_micro_accepts accepted
  obtain ⟨bottom, top⟩ := micro_bounds whole places
  have word : stored.toInt = micro n := by rw [same, Int64.toInt_ofInt_of_le (by omega) (by omega)]
  have value : n.value = micro n / 10 ^ 6 := by
    rw [micro_eq_value places]
    ring
  rw [value] at low high ⊢
  have nonnegative : 0 ≤ micro n := by
    rw [le_div_iff₀ (by norm_num), zero_mul] at low
    exact_mod_cast low
  have inside : micro n ≤ hi (channel command) * 10 ^ 6 := by
    rw [div_le_iff₀ (by norm_num)] at high
    exact_mod_cast high
  have known := channel_supported command
  obtain ⟨_, _, tops⟩ := channel_range known
  rcases sensor_emul_set_spec command data accepted with ⟨most, lines, run⟩ | ⟨outside, _⟩
  · have least := (converted_range (micro n)).1
    rw [word] at most
    refine ⟨encode (channel command) (converted (micro n) * 2 ^ 8), ?_, ?_, ?_⟩
    · rw [run, word]
    · exact decode_encode_nonnegative known (by omega) (by omega)
    · rw [converted_nonnegative nonnegative top]
      exact register_error known nonnegative inside
  · rw [word, converted_nonnegative nonnegative top] at outside
    rcases tops with top | top <;> rw [top] at inside outside <;> omega

theorem sensor_emul_set_pinned {ch : SensorChannel} {raw : UInt16} {data : TiHdcEmulData} {command : SetCommand}
    {str : CString} (leaves : CommandLeaves ch command str) (pinned : Pinned ch raw data) :
    Pinned ch raw (sensor_emul_set command str data).1 := by
  rcases sensor_emul_set_cases command str data with ⟨succeeded, scaled, _, _, run⟩ | unchanged
  · have different : ch ≠ channel command := fun same => leaves same.symm data succeeded
    rw [run]
    exact pinned.other different _
  · rw [unchanged]
    exact pinned

/-! ### A driver -/

/-- The conversion in fixed point, rounded down. -/
def fixedPointDriver (ch : SensorChannel) (raw : UInt16) : SensorValue :=
  let tmp : Int := raw.toNat * span ch
  ⟨Int32.ofInt (tmp / 65536 + lo ch), Int32.ofInt (tmp % 65536 * 10 ^ 6 / 65536)⟩

/-- The two parts, without a wrap. -/
theorem fixedPointDriver_parts {ch : SensorChannel} (known : Supported ch) (raw : UInt16) :
    (fixedPointDriver ch raw).val1.toInt = raw.toNat * span ch / 65536 + lo ch ∧
    (fixedPointDriver ch raw).val2.toInt = raw.toNat * span ch % 65536 * 10 ^ 6 / 65536 := by
  obtain ⟨lowest, highest, _⟩ := channel_range known
  have bound := raw.toNat_lt
  have product : 0 ≤ (raw.toNat : Int) * span ch ∧ (raw.toNat : Int) * span ch < 65536 * 165 := by
    rcases span_known known with width | width <;> rw [width] <;> omega
  exact ⟨Int32.toInt_ofInt_of_le (by omega) (by omega), Int32.toInt_ofInt_of_le (by omega) (by omega)⟩

theorem fixedPointDriver_close : Close fixedPointDriver := by
  intro ch known raw
  obtain ⟨whole, part⟩ := fixedPointDriver_parts known raw
  unfold quantity decode
  rw [whole, part]
  have same : (raw.toNat : ℚ) * span ch = ((raw.toNat * span ch : Int) : ℚ) := by push_cast; rfl
  rw [same]
  generalize (raw.toNat : Int) * span ch = tmp
  have split : tmp = 65536 * (tmp / 65536) + tmp % 65536 := by omega
  have least : tmp % 65536 * 10 ^ 6 / 65536 * 65536 ≤ tmp % 65536 * 10 ^ 6 := by omega
  have most : tmp % 65536 * 10 ^ 6 < tmp % 65536 * 10 ^ 6 / 65536 * 65536 + 65536 := by omega
  generalize tmp % 65536 * 10 ^ 6 / 65536 = fraction at least most
  generalize tmp / 65536 = quotient at split
  generalize tmp % 65536 = remainder at split least most
  subst split
  have least : (fraction : ℚ) * 65536 ≤ remainder * 10 ^ 6 := by exact_mod_cast least
  have most : (remainder : ℚ) * 10 ^ 6 < fraction * 65536 + 65536 := by exact_mod_cast most
  push_cast
  rw [abs_le]
  constructor <;> linarith

end ZephyrWorkshop.HdcDriver
