import ZephyrWorkshop.SensorSample

/-!
What the sensor sample prints while only the shell sets the sensor. Neither the
draws of the emulator nor its shell command ever make the temperature negative, so
that every line shows the two registers that its pass has read (`lines_right`); a
channel that was set is printed as it was set (`setting_printed`).
-/

namespace ZephyrWorkshop.SampleSettings
open ZephyrWorkshop.Zephyr ZephyrWorkshop.HdcEmul ZephyrWorkshop.HdcEncode ZephyrWorkshop.HdcRuns
open ZephyrWorkshop.HdcSchedule ZephyrWorkshop.HdcShell ZephyrWorkshop.HdcCommand ZephyrWorkshop.HdcDriver
open ZephyrWorkshop.Decimal ZephyrWorkshop.Transition ZephyrWorkshop.SensorSample
open ZephyrWorkshop.Track (SensorValue)

/-! ### Nothing below zero -/

/-- A call that sets no negative temperature. -/
def Warm : HdcAction → Prop
  | .transfer _ _ _ => True
  | .set_channel spec value _ => spec.chan_type = .AmbientTemp → ∀ v ∈ value, 0 ≤ v.toInt

/-- The same of a step; the shell command sets none whatever its argument is. -/
def StaysWarm : SampleAction → Prop := Meets Warm (fun _ _ => True)

/-- The temperature is not negative. -/
def Unfrozen (data : TiHdcEmulData) : Prop := 0 ≤ decode .AmbientTemp data.reg_temp

theorem drawn_nonnegative {raw : UInt16} (drawn : Drawn .AmbientTemp raw) : 0 ≤ decode .AmbientTemp raw := by
  have above : (15888 : UInt16) ≤ TEMP_RAW_3C := by decide
  exact (decode_nonnegative_iff raw).mpr (UInt16.le_trans above drawn.1)

theorem sample_unfrozen {data : TiHdcEmulData} (unfrozen : Unfrozen data) (rand_temp rand_humidity : UInt32) :
    Unfrozen (ti_hdc_emul_generate_sample data rand_temp rand_humidity) := by
  have register := sample_register data rand_temp rand_humidity (.inl rfl : Supported .AmbientTemp)
  by_cases set : fixed data .AmbientTemp = true
  · rw [if_pos set] at register
    have same : (ti_hdc_emul_generate_sample data rand_temp rand_humidity).reg_temp = data.reg_temp := register
    rw [Unfrozen, same]
    exact unfrozen
  · rw [if_neg set] at register
    exact drawn_nonnegative register

theorem pin_unfrozen {data : TiHdcEmulData} (unfrozen : Unfrozen data) {ch : SensorChannel} {raw : UInt16}
    (warm : ch = .AmbientTemp → 0 ≤ decode .AmbientTemp raw) : Unfrozen (pin data ch raw) := by
  cases ch with
  | AmbientTemp => exact warm rfl
  | Humidity => exact unfrozen
  | Other number => exact unfrozen

theorem perform_unfrozen {data : TiHdcEmulData} (unfrozen : Unfrozen data) {a : HdcAction} (warm : Warm a) :
    Unfrozen (perform data a).1 := by
  cases a with
  | transfer msgs rand_temp rand_humidity =>
    show Unfrozen (ti_hdc_emul_transfer data msgs rand_temp rand_humidity).1
    rcases transfer_cases data msgs rand_temp rand_humidity with ⟨reg, moved⟩ | ⟨_, triggered, _⟩
    · rw [moved]
      exact unfrozen
    · have before : Unfrozen { data with cur_reg := TI_HDC_REG_TEMP } := unfrozen
      rw [triggered]
      exact sample_unfrozen before rand_temp rand_humidity
  | set_channel spec value shift =>
    show Unfrozen (ti_hdc_emul_set_channel data spec value shift).1
    cases value with
    | none => exact unfrozen
    | some value =>
      rcases set_channel_spec data spec value shift with ⟨accepted, run⟩ | ⟨_, e, run⟩
      · rw [run]
        apply pin_unfrozen unfrozen
        intro temperature
        have low := warm temperature value rfl
        have high := accepted.high
        rw [temperature] at high ⊢
        exact decode_encode_nonnegative (.inl rfl) (Int.mul_nonneg low (by positivity)) high
      · rw [run]
        exact unfrozen

/-- The shell command, with any argument. -/
theorem sensor_emul_set_unfrozen {data : TiHdcEmulData} (unfrozen : Unfrozen data) (command : SetCommand)
    (str : CString) : Unfrozen (sensor_emul_set command str data).1 := by
  rcases sensor_emul_set_cases command str data with ⟨_, scaled, low, high, run⟩ | unchanged
  · rw [run]
    apply pin_unfrozen unfrozen
    intro temperature
    rw [temperature] at high ⊢
    exact decode_encode_nonnegative (.inl rfl) low high
  · rw [unchanged]
    exact unfrozen

/-- Neither now nor in any pass so far was the temperature negative. -/
structure NeverFrozen (s : SampleState) : Prop where
  now : Unfrozen s.data
  before : ∀ found ∈ s.found, 0 ≤ decode .AmbientTemp found.1

theorem step_neverFrozen {convert : SensorChannel → UInt16 → SensorValue} {s next : SampleState} {a : SampleAction}
    (never : NeverFrozen s) (warm : StaysWarm a) (taken : step convert s a = some next) : NeverFrozen next := by
  obtain ⟨now, before⟩ := never
  cases a with
  | pass r stale =>
    cases taken
    rw [pass_eq s (fun a member => (warm a member).2) stale]
    have pointed : Unfrozen { s.data with cur_reg := TI_HDC_REG_TEMP } := now
    have later : Unfrozen (sampled s.data r) :=
      performAll_preserves (P := Unfrozen) (fun a member _ before => perform_unfrozen before (warm a member).1)
        (sample_unfrozen pointed r.rand_temp r.rand_humidity)
    refine ⟨later, ?_⟩
    intro found member
    rcases List.mem_append.mp member with earlier | last
    · exact before found earlier
    · rw [List.mem_singleton.mp last]
      exact later
  | set command str =>
    cases taken
    exact ⟨sensor_emul_set_unfrozen now command str, before⟩
  | bus a =>
    cases taken
    exact ⟨perform_unfrozen now warm, before⟩

/-- **Every line is right** in every run from the initialisation of the emulator
    in which no call but the shell command sets a negative temperature, whatever
    arguments the shell command has. -/
theorem lines_right {convert : SensorChannel → UInt16 → SensorValue} (documented : Documented convert)
    (rand_temp rand_humidity : UInt32) {acts : List SampleAction} {last : SampleState} (warm : ∀ a ∈ acts, StaysWarm a)
    (executed : run (step convert) (start (ti_hdc_emul_init staticData rand_temp rand_humidity)) acts = some last) :
    List.Forall₂ Right (results last.console) last.found := by
  have drawn : Drawn .AmbientTemp (ti_hdc_emul_init staticData rand_temp rand_humidity).reg_temp :=
    ((boot_lawful rand_temp rand_humidity).shows .AmbientTemp (.inl rfl)).2
  have first : NeverFrozen (start (ti_hdc_emul_init staticData rand_temp rand_humidity)) := by
    refine ⟨drawn_nonnegative drawn, ?_⟩
    intro found member
    cases member
  have never : NeverFrozen last :=
    run_preserves_of_mem (P := NeverFrozen) (fun _ _ _ never allowed taken => step_neverFrozen never allowed taken) first
      warm executed
  rw [run_results (fun a member => (warm a member).undisturbed) executed, List.forall₂_map_left_iff, List.forall₂_same]
  exact fun found member => right_of_nonnegative documented (never.before found member)

/-- A humidity is set, and then comes a pass. -/
theorem lines_right_humid : ∃ last,
    run (step fixedPointDriver) (start (ti_hdc_emul_init staticData 5 6)) [.set .Humidity "62.5".toList, onePass] =
      some last ∧
    last.console = ["Fetching...\n".toList, "Temp = 3.017425 C, RH = 62.500000 %\n".toList] ∧
    List.Forall₂ Right (results last.console) last.found := by
  obtain ⟨last, executed, console⟩ : ∃ last,
      run (step fixedPointDriver) (start (ti_hdc_emul_init staticData 5 6)) [.set .Humidity "62.5".toList, onePass] =
        some last ∧ last.console = ["Fetching...\n".toList, "Temp = 3.017425 C, RH = 62.500000 %\n".toList] :=
    ⟨_, rfl, by decide +kernel⟩
  have warm : ∀ a ∈ [SampleAction.set .Humidity "62.5".toList, onePass], StaysWarm a := by
    intro a member
    simp only [List.mem_cons, List.not_mem_nil, or_false] at member
    rcases member with rfl | rfl
    · trivial
    · intro b between
      cases between
  exact ⟨last, executed, console, lines_right fixedPointDriver_documented 5 6 warm executed⟩

/-! ### A channel that was set -/

/-- A step that does not set the channel. -/
def Spares (ch : SensorChannel) : SampleAction → Prop := Meets (Leaves ch) (CommandLeaves ch)

/-- The channel is set, and every pass from the `n`-th on has found it so. -/
structure Settled (command : SetCommand) (raw : UInt16) (n : Nat) (s : SampleState) : Prop where
  pinned : Pinned (channel command) raw s.data
  later : ∀ k found, n ≤ k → s.found[k]? = some found → registerOf command found = raw

theorem step_settled {convert : SensorChannel → UInt16 → SensorValue} {command : SetCommand} {raw : UInt16} {n : Nat}
    {s next : SampleState} {a : SampleAction} (settled : Settled command raw n s) (spares : Spares (channel command) a)
    (taken : step convert s a = some next) : Settled command raw n next := by
  obtain ⟨pinned, later⟩ := settled
  have known := channel_supported command
  cases a with
  | pass r stale =>
    cases taken
    rw [pass_eq s (fun a member => (spares a member).2) stale]
    have kept := sampled_pinned known (fun a member => (spares a member).1) pinned
    refine ⟨kept, ?_⟩
    intro k found from_n at_k
    by_cases earlier : k < s.found.length
    · rw [List.getElem?_append_left earlier] at at_k
      exact later k found from_n at_k
    · rw [List.getElem?_append_right (by omega)] at at_k
      rw [List.mem_singleton.mp (List.mem_of_getElem? at_k)]
      have held := kept.register
      cases command with
      | Temp => exact held
      | Humidity => exact held
  | set other str =>
    cases taken
    exact ⟨sensor_emul_set_pinned spares pinned, later⟩
  | bus a =>
    cases taken
    exact ⟨perform_pinned known spares pinned, later⟩

/-- **From the setting to the console.** In every run of the sample, once a number
    from zero to the end of the range has been set for a channel and until it is
    set again, every later line prints that number for it, up to a register step
    and a millionth, as long as nothing moves `cur_reg` within a later fetch. -/
theorem setting_printed {convert : SensorChannel → UInt16 → SensorValue} (documented : Documented convert)
    {data : TiHdcEmulData} {command : SetCommand} {str : CString} {stored : Int64} {x : ℚ}
    (accepted : parse_micro str 0 = (stored, .ok ())) (denotes : Denotes str x) (low : 0 ≤ x)
    (high : x ≤ hi (channel command)) {before after : List SampleAction} {s last : SampleState}
    (executedBefore : run (step convert) (start data) before = some s)
    (spared : ∀ a ∈ after, Spares (channel command) a)
    (executedAfter : run (step convert) s (.set command str :: after) = some last) :
    ∀ k line, s.found.length ≤ k → (results last.console)[k]? = some line →
      ∃ y, Prints command line y ∧ |y - x| ≤ span (channel command) / 65536 + 1 / 10 ^ 6 := by
  obtain ⟨raw, set, nonnegative, close⟩ := sensor_emul_set_close command s.data accepted denotes low high
  have known := channel_supported command
  have paired : Paired s :=
    run_preserves (fun _ _ _ holds taken => step_paired holds taken) (start_paired data) executedBefore
  have later : run (step convert) { s with data := (sensor_emul_set command str s.data).1 } after = some last :=
    executedAfter
  have told : Told convert s.found.length last :=
    run_told (s := { s with data := (sensor_emul_set command str s.data).1 }) paired (told_ahead paired)
      (fun a member => (spared a member).undisturbed) later
  have first : Settled command raw s.found.length { s with data := (sensor_emul_set command str s.data).1 } := by
    refine ⟨?_, ?_⟩
    · show Pinned (channel command) raw (sensor_emul_set command str s.data).1
      rw [set]
      exact pinned_pin known s.data raw
    · intro k found from_n at_k
      obtain ⟨inside, _⟩ := List.getElem?_eq_some_iff.mp at_k
      exact absurd inside (Nat.not_lt.mpr from_n)
  have settled : Settled command raw s.found.length last :=
    run_preserves_of_mem (fun _ _ _ settled spares taken => step_settled settled spares taken) first spared later
  intro k line from_n printed
  rw [told k from_n] at printed
  obtain ⟨found, at_k, rfl⟩ := Option.map_eq_some_iff.mp printed
  have held := settled.later k found from_n at_k
  obtain ⟨y, shown, near⟩ := convert_shown documented known nonnegative
  refine ⟨y, (prints_iff convert command found y).mpr (held ▸ shown), ?_⟩
  calc |y - x| ≤ |y - decode (channel command) raw| + |decode (channel command) raw - x| := abs_sub_le _ _ _
    _ ≤ 1 / 10 ^ 6 + span (channel command) / 65536 := add_le_add near close
    _ = span (channel command) / 65536 + 1 / 10 ^ 6 := add_comm _ _

/-- `sensor_emul set temp 22.5`, and a pass after it. -/
theorem setting_printed_once : ∃ last,
    run (step fixedPointDriver) (start staticData) [.set .Temp "22.5".toList, onePass] = some last ∧
      (results last.console)[0]? = some "Temp = 22.499389 C, RH = 40.011596 %\n".toList ∧
      ∃ y, Prints .Temp "Temp = 22.499389 C, RH = 40.011596 %\n".toList y ∧ |y - 22.5| ≤ 165 / 65536 + 1 / 10 ^ 6 := by
  obtain ⟨last, executed, line⟩ : ∃ last,
      run (step fixedPointDriver) (start staticData) [.set .Temp "22.5".toList, onePass] = some last ∧
        (results last.console)[0]? = some "Temp = 22.499389 C, RH = 40.011596 %\n".toList :=
    ⟨_, rfl, by decide +kernel⟩
  have accepted : parse_micro "22.5".toList 0 = (22500000, .ok ()) := by decide
  have denotes : Denotes "22.5".toList 22.5 := ⟨warm, by decide, by decide +kernel⟩
  have spared : ∀ a ∈ [onePass], Spares (channel .Temp) a := by
    intro a member
    rw [List.mem_singleton.mp member]
    intro b between
    cases between
  refine ⟨last, executed, line, ?_⟩
  exact setting_printed fixedPointDriver_documented accepted denotes (by norm_num) (by decide +kernel)
    (show run (step fixedPointDriver) (start staticData) [] = some _ from rfl) spared executed 0 _ (Nat.zero_le _) line

end ZephyrWorkshop.SampleSettings
