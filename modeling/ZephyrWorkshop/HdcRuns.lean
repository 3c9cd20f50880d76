import ZephyrWorkshop.HdcEncode
import ZephyrWorkshop.HdcReads
import ZephyrWorkshop.Transition

/-!
Whole runs of the emulated sensor. A run mixes I2C transfers and `set_channel`
calls, also those that fail. Of a transfer only two things matter to the
registers: where it leaves `cur_reg`, and whether it generates a sample
(`transfer_cases`). A channel that was set keeps its register from then on.
-/

namespace ZephyrWorkshop.HdcRuns
open ZephyrWorkshop.Zephyr ZephyrWorkshop.HdcEmul ZephyrWorkshop.HdcEncode ZephyrWorkshop.HdcReads
open ZephyrWorkshop.Transition

/-! ### Samples -/

/-- The draw: the bounds are both included. -/
theorem rand_in_range_toNat {low high : UInt16} (order : low ≤ high) (rand : UInt32) :
    (rand_in_range low high rand).toNat = low.toNat + rand.toNat % (high.toNat - low.toNat + 1) := by
  rw [UInt16.le_iff_toNat_le] at order
  have lowBound := low.toNat_lt
  have highBound := high.toNat_lt
  have width : ((high - low).toUInt32 + 1).toNat = high.toNat - low.toNat + 1 := by
    rw [UInt32.toNat_add, UInt16.toNat_toUInt32, UInt16.toNat_sub_of_le _ _ (UInt16.le_iff_toNat_le.mpr order),
      UInt32.toNat_one]
    omega
  have offset : rand.toNat % (high.toNat - low.toNat + 1) < high.toNat - low.toNat + 1 := Nat.mod_lt _ (Nat.succ_pos _)
  show (low.toUInt32 + rand % ((high - low).toUInt32 + 1)).toUInt16.toNat = _
  rw [UInt32.toNat_toUInt16, UInt32.toNat_add, UInt16.toNat_toUInt32, UInt32.toNat_mod, width]
  omega

theorem rand_in_range_bounds {low high : UInt16} (order : low ≤ high) (rand : UInt32) :
    low ≤ rand_in_range low high rand ∧ rand_in_range low high rand ≤ high := by
  have value := rand_in_range_toNat order rand
  have offset : rand.toNat % (high.toNat - low.toNat + 1) < high.toNat - low.toNat + 1 := Nat.mod_lt _ (Nat.succ_pos _)
  rw [UInt16.le_iff_toNat_le] at order
  rw [UInt16.le_iff_toNat_le, UInt16.le_iff_toNat_le, value]
  omega

/-- The range that the registers of a channel are drawn from. -/
def Drawn : SensorChannel → UInt16 → Prop
  | .AmbientTemp, raw => TEMP_RAW_3C ≤ raw ∧ raw ≤ TEMP_RAW_7C
  | .Humidity, raw => HUM_RAW_MIN ≤ raw ∧ raw ≤ HUM_RAW_MAX
  | .Other _, _ => True

/-- Whether a channel is set through the sensor emulator API. -/
def fixed (data : TiHdcEmulData) : SensorChannel → Bool
  | .AmbientTemp => data.fixed_temp
  | .Humidity => data.fixed_humidity
  | .Other _ => false

section
variable (data : TiHdcEmulData) (rand_temp rand_humidity : UInt32)

/-- A sample counts, and draws the two registers that are not fixed. -/
theorem sample_eq : ti_hdc_emul_generate_sample data rand_temp rand_humidity =
    { data with
      reg_temp :=
        if data.fixed_temp then data.reg_temp
        else if data.sample_count < 10 then rand_in_range TEMP_RAW_3C TEMP_RAW_5C rand_temp
        else rand_in_range TEMP_RAW_4C TEMP_RAW_7C rand_temp
      reg_humidity :=
        if data.fixed_humidity then data.reg_humidity else rand_in_range HUM_RAW_MIN HUM_RAW_MAX rand_humidity
      sample_count := data.sample_count + 1 } := by
  cases fixed : data.fixed_temp <;> cases other : data.fixed_humidity <;> by_cases early : data.sample_count < 10 <;>
    simp [ti_hdc_emul_generate_sample, fixed, other, early]

/-- What a sample leaves alone, and the count of samples. -/
theorem sample_frame :
    (ti_hdc_emul_generate_sample data rand_temp rand_humidity).cur_reg = data.cur_reg ∧
    (ti_hdc_emul_generate_sample data rand_temp rand_humidity).reg_manufid = data.reg_manufid ∧
    (ti_hdc_emul_generate_sample data rand_temp rand_humidity).reg_deviceid = data.reg_deviceid ∧
    (ti_hdc_emul_generate_sample data rand_temp rand_humidity).fixed_temp = data.fixed_temp ∧
    (ti_hdc_emul_generate_sample data rand_temp rand_humidity).fixed_humidity = data.fixed_humidity ∧
    (ti_hdc_emul_generate_sample data rand_temp rand_humidity).sample_count = data.sample_count + 1 := by
  rw [sample_eq]
  simp

/-- A sample draws the channels that are not fixed. -/
theorem sample_register {ch : SensorChannel} (known : Supported ch) :
    if fixed data ch then register (ti_hdc_emul_generate_sample data rand_temp rand_humidity) ch = register data ch
    else Drawn ch (register (ti_hdc_emul_generate_sample data rand_temp rand_humidity) ch) := by
  rcases known with rfl | rfl
  · simp only [fixed, register, sample_eq]
    cases data.fixed_temp with
    | true => simp
    | false =>
      have cold := rand_in_range_bounds (by decide : TEMP_RAW_3C ≤ TEMP_RAW_5C) rand_temp
      have warm := rand_in_range_bounds (by decide : TEMP_RAW_4C ≤ TEMP_RAW_7C) rand_temp
      have low : TEMP_RAW_3C ≤ TEMP_RAW_4C := by decide
      have high : TEMP_RAW_5C ≤ TEMP_RAW_7C := by decide
      by_cases early : data.sample_count < 10
      · simpa [Drawn, early] using (⟨cold.1, UInt16.le_trans cold.2 high⟩ : Drawn .AmbientTemp _)
      · simpa [Drawn, early] using (⟨UInt16.le_trans low warm.1, warm.2⟩ : Drawn .AmbientTemp _)
  · simp only [fixed, register, sample_eq]
    cases data.fixed_humidity with
    | true => simp
    | false => simpa [Drawn] using (rand_in_range_bounds (by decide) rand_humidity : Drawn .Humidity _)

end

/-! ### Transfers -/

/-- The transfers that generate a sample: a single write to the temperature register. -/
def Triggers : List I2cMsg → Prop
  | [msg] => msg.read = false ∧ 1 ≤ msg.len ∧ msg.buf.headD 0 = TI_HDC_REG_TEMP
  | _ => False

/-- What a transfer does to the data: it may move `cur_reg`, or, as a trigger,
    generate one sample and then succeed. -/
theorem transfer_cases (data : TiHdcEmulData) (msgs : List I2cMsg) (rand_temp rand_humidity : UInt32) :
    (∃ reg, (ti_hdc_emul_transfer data msgs rand_temp rand_humidity).1 = { data with cur_reg := reg }) ∨
    (Triggers msgs ∧ (ti_hdc_emul_transfer data msgs rand_temp rand_humidity).1 =
        ti_hdc_emul_generate_sample { data with cur_reg := TI_HDC_REG_TEMP } rand_temp rand_humidity ∧
      (ti_hdc_emul_transfer data msgs rand_temp rand_humidity).2.2 = .ok ()) := by
  cases msgs with
  | nil => exact .inl ⟨data.cur_reg, rfl⟩
  | cons first rest =>
    unfold ti_hdc_emul_transfer
    dsimp only
    split
    · split
      · exact .inl ⟨data.cur_reg, rfl⟩
      · exact .inl ⟨data.cur_reg, rfl⟩
    · rename_i write
      split
      · exact .inl ⟨data.cur_reg, rfl⟩
      · rename_i long
        split
        · split
          · rename_i trigger
            rw [trigger]
            exact .inr ⟨⟨Bool.not_eq_true _ ▸ write, UInt32.not_lt.mp long, trigger⟩, rfl, rfl⟩
          · exact .inl ⟨_, rfl⟩
        · split
          · exact .inl ⟨_, rfl⟩
          · exact .inl ⟨_, rfl⟩
        · exact .inl ⟨_, rfl⟩

/-! ### Runs -/

/-- A call of the emulator; the words are what `sys_rand32_get` returns if it is called. -/
inductive HdcAction
  | transfer (msgs : List I2cMsg) (rand_temp rand_humidity : UInt32)
  | set_channel (ch : SensorChanSpec) (value : Option Int32) (shift : Int8)
deriving DecidableEq, Repr

/-- The data after a call, and what the call returns. -/
def perform (data : TiHdcEmulData) : HdcAction → TiHdcEmulData × Status
  | .transfer msgs rand_temp rand_humidity =>
    let result := ti_hdc_emul_transfer data msgs rand_temp rand_humidity
    (result.1, result.2.2)
  | .set_channel ch value shift => ti_hdc_emul_set_channel data ch value shift

/-- The data, and the value and shift of the last successful `set_channel` of
    each channel, which are kept for the proofs only. -/
structure HdcState where
  data : TiHdcEmulData
  last : SensorChannel → Option (Int32 × Int8)

/-- The settings after a call that succeeds. -/
def settings (last : SensorChannel → Option (Int32 × Int8)) : HdcAction → SensorChannel → Option (Int32 × Int8)
  | .set_channel ch (some value) shift => Function.update last ch.chan_type (some (value, shift))
  | _ => last

def step (s : HdcState) (a : HdcAction) : Option HdcState :=
  let result := perform s.data a
  some { data := result.1, last := if result.2 = .ok () then settings s.last a else s.last }

/-- The data in static storage. -/
def staticData : TiHdcEmulData := ⟨0, 0, 0, 0, 0, 0, false, false⟩

/-- After `ti_hdc_emul_init`. -/
def boot (rand_temp rand_humidity : UInt32) : HdcState :=
  ⟨ti_hdc_emul_init staticData rand_temp rand_humidity, fun _ => none⟩

/-- A channel shows its last setting, or else a draw. -/
def Shows (s : HdcState) (ch : SensorChannel) : Prop :=
  match s.last ch with
  | some (value, shift) => fixed s.data ch = true ∧ (register s.data ch).toNat = nearest ch (physical value shift)
  | none => fixed s.data ch = false ∧ Drawn ch (register s.data ch)

/-- What holds between any two calls. -/
structure Lawful (s : HdcState) : Prop where
  shows : ∀ ch, Supported ch → Shows s ch
  manufid : s.data.reg_manufid = 0x5449
  deviceid : s.data.reg_deviceid = 0x1000

/-- A channel that keeps its setting, its register and its flag still shows them. -/
theorem Shows.frame {s next : HdcState} {ch : SensorChannel} (shows : Shows s ch) (last : next.last ch = s.last ch)
    (sameFixed : fixed next.data ch = fixed s.data ch) (sameRegister : register next.data ch = register s.data ch) :
    Shows next ch := by
  unfold Shows at shows ⊢
  rw [last, sameFixed, sameRegister]
  exact shows

/-- A sample keeps what was set and draws what was not. -/
theorem Shows.sample {s : HdcState} {ch : SensorChannel} (known : Supported ch) (shows : Shows s ch)
    (rand_temp rand_humidity : UInt32) :
    Shows ⟨ti_hdc_emul_generate_sample s.data rand_temp rand_humidity, s.last⟩ ch := by
  have drawn := sample_register s.data rand_temp rand_humidity known
  obtain ⟨_, _, _, temp, humidity, _⟩ := sample_frame s.data rand_temp rand_humidity
  have sameFixed : fixed (ti_hdc_emul_generate_sample s.data rand_temp rand_humidity) ch = fixed s.data ch := by
    rcases known with rfl | rfl
    · exact temp
    · exact humidity
  unfold Shows at shows ⊢
  dsimp only
  rw [sameFixed]
  cases last : s.last ch with
  | some setting =>
    rw [last] at shows
    rw [shows.1, if_pos rfl] at drawn
    rw [drawn]
    exact shows
  | none =>
    rw [last] at shows
    rw [shows.1] at drawn
    exact ⟨shows.1, drawn⟩

/-- Setting a channel leaves the other one alone. -/
theorem pin_other (data : TiHdcEmulData) {ch other : SensorChannel} (different : other ≠ ch) (raw : UInt16) :
    fixed (pin data ch raw) other = fixed data other ∧ register (pin data ch raw) other = register data other := by
  cases ch <;> cases other <;> first | exact absurd rfl different | exact ⟨rfl, rfl⟩

theorem fixed_pin {ch : SensorChannel} (known : Supported ch) (data : TiHdcEmulData) (raw : UInt16) :
    fixed (pin data ch raw) ch = true := by
  rcases known with rfl | rfl <;> rfl

theorem pin_frame (data : TiHdcEmulData) (ch : SensorChannel) (raw : UInt16) :
    (pin data ch raw).reg_manufid = data.reg_manufid ∧ (pin data ch raw).reg_deviceid = data.reg_deviceid := by
  cases ch <;> exact ⟨rfl, rfl⟩

theorem boot_lawful (rand_temp rand_humidity : UInt32) : Lawful (boot rand_temp rand_humidity) := by
  obtain ⟨_, manufid, deviceid, temp, humidity, _⟩ :=
    sample_frame { staticData with cur_reg := 0, reg_manufid := 0x5449, reg_deviceid := 0x1000 } rand_temp rand_humidity
  refine ⟨?_, manufid, deviceid⟩
  intro ch known
  have drawn := sample_register
    { staticData with cur_reg := 0, reg_manufid := 0x5449, reg_deviceid := 0x1000 } rand_temp rand_humidity known
  rcases known with rfl | rfl
  · exact ⟨temp, drawn⟩
  · exact ⟨humidity, drawn⟩

/-- A successful setting is shown by its channel and by no other. -/
theorem pin_lawful {s : HdcState} (lawful : Lawful s) {ch : SensorChanSpec} {value : Int32} {shift : Int8}
    (accepted : Accepted ch value shift) :
    Lawful ⟨pin s.data ch.chan_type (registerAfter s.data ch value shift),
      Function.update s.last ch.chan_type (some (value, shift))⟩ := by
  obtain ⟨manufid, deviceid⟩ := pin_frame s.data ch.chan_type (registerAfter s.data ch value shift)
  refine ⟨?_, manufid.trans lawful.manufid, deviceid.trans lawful.deviceid⟩
  intro other known
  by_cases same : other = ch.chan_type
  · subst same
    unfold Shows
    dsimp only
    rw [Function.update_self, register_pin known]
    exact ⟨fixed_pin known _ _, registerAfter_nearest s.data accepted⟩
  · obtain ⟨sameFixed, sameRegister⟩ := pin_other s.data same (registerAfter s.data ch value shift)
    exact (lawful.shows other known).frame (Function.update_of_ne same _ _) sameFixed sameRegister

/-- A call that fails may have moved `cur_reg` and did nothing else. -/
theorem perform_error (data : TiHdcEmulData) {a : HdcAction} (failed : (perform data a).2 ≠ .ok ()) :
    ∃ reg, (perform data a).1 = { data with cur_reg := reg } := by
  cases a with
  | transfer msgs rand_temp rand_humidity =>
    rcases transfer_cases data msgs rand_temp rand_humidity with moved | ⟨_, _, succeeded⟩
    · exact moved
    · exact absurd succeeded failed
  | set_channel ch value shift =>
    refine ⟨data.cur_reg, ?_⟩
    cases value with
    | none => rfl
    | some value => exact unchanged_of_failure failed

theorem cur_reg_lawful {s : HdcState} (lawful : Lawful s) (reg : UInt8) :
    Lawful ⟨{ s.data with cur_reg := reg }, s.last⟩ := by
  refine ⟨?_, lawful.manufid, lawful.deviceid⟩
  intro ch known
  refine (lawful.shows ch known).frame rfl ?_ ?_
  · cases ch <;> rfl
  · cases ch <;> rfl

theorem sample_lawful {s : HdcState} (lawful : Lawful s) (rand_temp rand_humidity : UInt32) :
    Lawful ⟨ti_hdc_emul_generate_sample s.data rand_temp rand_humidity, s.last⟩ := by
  obtain ⟨_, manufid, deviceid, _⟩ := sample_frame s.data rand_temp rand_humidity
  exact ⟨fun ch known => (lawful.shows ch known).sample known rand_temp rand_humidity,
    manufid.trans lawful.manufid, deviceid.trans lawful.deviceid⟩

theorem step_lawful {s next : HdcState} {a : HdcAction} (lawful : Lawful s) (taken : step s a = some next) :
    Lawful next := by
  cases taken
  by_cases failed : (perform s.data a).2 = .ok ()
  swap
  · obtain ⟨reg, same⟩ := perform_error s.data failed
    rw [if_neg failed, same]
    exact cur_reg_lawful lawful reg
  rw [if_pos failed]
  cases a with
  | transfer msgs rand_temp rand_humidity =>
    rcases transfer_cases s.data msgs rand_temp rand_humidity with ⟨reg, same⟩ | ⟨_, same, _⟩
    · show Lawful ⟨(ti_hdc_emul_transfer s.data msgs rand_temp rand_humidity).1, s.last⟩
      rw [same]
      exact cur_reg_lawful lawful reg
    · show Lawful ⟨(ti_hdc_emul_transfer s.data msgs rand_temp rand_humidity).1, s.last⟩
      rw [same]
      exact sample_lawful (cur_reg_lawful lawful TI_HDC_REG_TEMP) rand_temp rand_humidity
  | set_channel ch value shift =>
    cases value with
    | none => cases failed
    | some value =>
      have accepted := (succeeds_iff s.data ch value shift).mp failed
      show Lawful ⟨(ti_hdc_emul_set_channel s.data ch (some value) shift).1, _⟩
      rw [pins_register s.data accepted]
      exact pin_lawful lawful accepted

/-! ### The whole-run law -/

/-- A sample trigger writes the one byte `0x00`. -/
def trigger (rest : List UInt8) : I2cMsg := ⟨false, 1, TI_HDC_REG_TEMP :: rest⟩

/-- A read of four bytes from the temperature register on returns both registers. -/
theorem read_both {data : TiHdcEmulData} (cur_reg : data.cur_reg = TI_HDC_REG_TEMP) (buf : List UInt8)
    (rand_temp rand_humidity : UInt32) :
    ti_hdc_emul_transfer data [⟨true, 4, buf⟩] rand_temp rand_humidity =
      (data, [⟨true, 4, sys_put_be16 data.reg_temp ++ sys_put_be16 data.reg_humidity ++ buf.drop 4⟩], .ok ()) := by
  have small : (4 : UInt32).toNat < 2 ^ 31 := by decide
  have burst := read_burst_eq data TI_HDC_REG_TEMP (show (I2cMsg.mk true 4 buf).len.toNat < 2 ^ 31 from small)
  have read : read_registers data TI_HDC_REG_TEMP 2 =
      (sys_put_be16 data.reg_temp ++ sys_put_be16 data.reg_humidity, .ok ()) := rfl
  have half : (4 : UInt32).toNat / 2 = 2 := by decide
  dsimp only at burst
  rw [half, read] at burst
  simp [ti_hdc_emul_transfer, cur_reg, burst, sys_put_be16]

/-- A sample trigger and a read of four bytes return both registers. -/
theorem trigger_read (data : TiHdcEmulData) (rest buf : List UInt8) (rand_temp rand_humidity other_temp other_humidity : UInt32) :
    ∃ sampled, ti_hdc_emul_transfer data [trigger rest] rand_temp rand_humidity = (sampled, [trigger rest], .ok ()) ∧
      ti_hdc_emul_transfer sampled [⟨true, 4, buf⟩] other_temp other_humidity =
        (sampled, [⟨true, 4, sys_put_be16 sampled.reg_temp ++ sys_put_be16 sampled.reg_humidity ++ buf.drop 4⟩], .ok ()) := by
  obtain ⟨cur_reg, _⟩ := sample_frame { data with cur_reg := TI_HDC_REG_TEMP } rand_temp rand_humidity
  exact ⟨ti_hdc_emul_generate_sample { data with cur_reg := TI_HDC_REG_TEMP } rand_temp rand_humidity, rfl,
    read_both cur_reg buf other_temp other_humidity⟩

/-- The law of every run: a channel that was set successfully shows the last
    such setting, a channel that was not shows a draw, the identification
    registers keep their values, a call that fails changes nothing but
    `cur_reg`, and a sample trigger followed by a read of four bytes returns
    the two registers. -/
theorem whole_run_law {rand_temp rand_humidity : UInt32} {s : HdcState}
    (reached : Reachable step (boot rand_temp rand_humidity) s) :
    (∀ ch, Supported ch →
      (∀ value shift, s.last ch = some (value, shift) → (register s.data ch).toNat = nearest ch (physical value shift)) ∧
      (s.last ch = none → Drawn ch (register s.data ch))) ∧
    s.data.reg_manufid = 0x5449 ∧ s.data.reg_deviceid = 0x1000 ∧
    (∀ a, (perform s.data a).2 ≠ .ok () → ∃ reg, (perform s.data a).1 = { s.data with cur_reg := reg }) ∧
    ∀ rest buf rand_temp rand_humidity other_temp other_humidity,
      ∃ sampled, ti_hdc_emul_transfer s.data [trigger rest] rand_temp rand_humidity = (sampled, [trigger rest], .ok ()) ∧
        ti_hdc_emul_transfer sampled [⟨true, 4, buf⟩] other_temp other_humidity =
          (sampled, [⟨true, 4, sys_put_be16 sampled.reg_temp ++ sys_put_be16 sampled.reg_humidity ++ buf.drop 4⟩],
            .ok ()) := by
  have lawful : Lawful s := reached.preserves (fun _ _ _ holds taken => step_lawful holds taken)
    (boot_lawful rand_temp rand_humidity)
  refine ⟨?_, lawful.manufid, lawful.deviceid, fun a => perform_error s.data, trigger_read s.data⟩
  intro ch known
  have shows := lawful.shows ch known
  unfold Shows at shows
  constructor
  · intro value shift last
    rw [last] at shows
    exact shows.2
  · intro last
    rw [last] at shows
    exact shows.2

/-- A temperature set to 5 °C outlives a sample trigger and a refused setting. -/
theorem whole_run_law_set :
    ∃ s, run step (boot 0 0) [.set_channel ⟨.AmbientTemp, 0⟩ (some 41943040) 8, .transfer [trigger []] 7 9,
        .set_channel ⟨.AmbientTemp, 1⟩ (some 0) 8] = some s ∧
      (register s.data .AmbientTemp).toNat = nearest .AmbientTemp (physical 41943040 8) ∧
      s.data.reg_manufid = 0x5449 := by
  refine ⟨_, rfl, ?_⟩
  obtain ⟨channels, manufid, _⟩ := whole_run_law (show Reachable step (boot 0 0) _ from
    ⟨[.set_channel ⟨.AmbientTemp, 0⟩ (some 41943040) 8, .transfer [trigger []] 7 9,
      .set_channel ⟨.AmbientTemp, 1⟩ (some 0) 8], rfl⟩)
  exact ⟨(channels .AmbientTemp (.inl rfl)).1 41943040 8 rfl, manufid⟩

end ZephyrWorkshop.HdcRuns
