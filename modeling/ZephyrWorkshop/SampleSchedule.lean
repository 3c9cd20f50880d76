import ZephyrWorkshop.SensorSample

/-!
The temperatures that the sensor sample prints while none is set: those of the
emulator's schedule, as far as the tenth pass lands where its two ranges meet
(`schedule_printed_iff`). A bound in degrees lies between two registers, so that
the printed number keeps to it just if the register does.
-/

namespace ZephyrWorkshop.SampleSchedule
open ZephyrWorkshop.Zephyr ZephyrWorkshop.HdcEmul ZephyrWorkshop.HdcEncode ZephyrWorkshop.HdcRuns
open ZephyrWorkshop.HdcSchedule ZephyrWorkshop.HdcShell ZephyrWorkshop.HdcCommand ZephyrWorkshop.HdcDriver
open ZephyrWorkshop.Decimal ZephyrWorkshop.Transition ZephyrWorkshop.SensorSample
open ZephyrWorkshop.Track (SensorValue)

/-- A step that sets no temperature and triggers no sample but for a pass. -/
def Unset : SampleAction → Prop := Meets Aside (CommandLeaves .AmbientTemp)

/-- The words that the temperatures of the passes are drawn with. -/
def note (words : List UInt32) : SampleAction → List UInt32
  | .pass r _ => words ++ [r.rand_temp]
  | _ => words

def passWords (acts : List SampleAction) : List UInt32 := acts.foldl note []

/-- Each pass so far found the draw of its own sample. -/
structure Counted (words : List UInt32) (s : SampleState) : Prop where
  free : s.data.fixed_temp = false
  sample_count : s.data.sample_count = UInt32.ofNat (words.length + 1)
  temperatures : s.found.map Prod.fst = words.mapIdx (fun i word => drawn (UInt32.ofNat (i + 1)) word)

theorem Counted.untouched {words : List UInt32} {s : SampleState} (counted : Counted words s) {data : TiHdcEmulData}
    (same : Untouched s.data data) : Counted words { s with data := data } :=
  ⟨same.fixed_temp.trans counted.free, same.sample_count.trans counted.sample_count, counted.temperatures⟩

theorem sensor_emul_set_aside {command : SetCommand} {str : CString} (leaves : CommandLeaves .AmbientTemp command str)
    (data : TiHdcEmulData) : Untouched data (sensor_emul_set command str data).1 := by
  rcases sensor_emul_set_cases command str data with ⟨succeeded, scaled, _, _, run⟩ | unchanged
  · cases command with
    | Temp => exact absurd succeeded (leaves rfl data)
    | Humidity =>
      rw [run]
      exact ⟨rfl, rfl, rfl⟩
  · rw [unchanged]
    exact ⟨rfl, rfl, rfl⟩

theorem step_counted {convert : SensorChannel → UInt16 → SensorValue} {words : List UInt32} {s next : SampleState}
    {a : SampleAction} (counted : Counted words s) (unset : Unset a) (taken : step convert s a = some next) :
    Counted (note words a) next := by
  cases a with
  | pass r stale =>
    cases taken
    have keeps : ∀ b ∈ r.between, KeepsRegister b := fun b between => (unset b between).2
    have fetched := driver_fetch_eq s.data keeps
    have reading : takeReading s.data r = ((driver_fetch s.data r).1, (driver_fetch s.data r).2.2.1) := rfl
    obtain ⟨value, free, count⟩ := takeReading_spec counted.free unset
    rw [reading, fetched] at value free count
    rw [pass_eq s keeps stale]
    refine ⟨free, ?_, ?_⟩
    · rw [count, counted.sample_count, note, List.length_append, List.length_singleton,
        UInt32.ofNat_add (words.length + 1)]
      rfl
    · have found : (sampled s.data r).reg_temp = drawn s.data.sample_count r.rand_temp := value
      rw [List.map_append, counted.temperatures, note, List.mapIdx_append]
      congr 1
      show [(sampled s.data r).reg_temp] = [drawn (UInt32.ofNat (0 + words.length + 1)) r.rand_temp]
      rw [found, counted.sample_count, Nat.zero_add]
  | set command str =>
    cases taken
    exact counted.untouched (sensor_emul_set_aside unset s.data)
  | bus a =>
    cases taken
    exact counted.untouched (perform_aside s.data unset)

/-- What the line of the `k`-th pass is meant to show, up to a thousandth of a degree. -/
def Meant (k : Nat) (y : ℚ) : Prop :=
  if k ≤ 10 then 3 - 1 / 1000 ≤ y ∧ y ≤ 5 + 1 / 1000 else 4 - 1 / 1000 ≤ y ∧ y ≤ 7 + 1 / 1000

section
variable {raw : UInt16} {y c : ℚ} {n : Nat} (near : |y - decode .AmbientTemp raw| ≤ 1 / 10 ^ 6)
include near

/-- A bound from below between two registers. -/
theorem above_iff (before : ((n : ℚ) - 1) * 165 - 2621440 < (c - 1 / 10 ^ 6) * 65536)
    (after : (c + 1 / 10 ^ 6) * 65536 ≤ n * 165 - 2621440) : c ≤ y ↔ n ≤ raw.toNat := by
  rw [decode_temperature, abs_le] at near
  push_cast at near
  obtain ⟨least, most⟩ := near
  constructor
  · intro high
    by_contra small
    have fewer : (raw.toNat : ℚ) ≤ n - 1 := by
      have less : raw.toNat + 1 ≤ n := by omega
      have cast : (raw.toNat : ℚ) + 1 ≤ n := by exact_mod_cast less
      linarith
    linarith
  · intro large
    have more : (n : ℚ) ≤ raw.toNat := by exact_mod_cast large
    linarith

/-- A bound from above between two registers. -/
theorem below_iff (before : n * 165 - 2621440 ≤ (c - 1 / 10 ^ 6) * 65536)
    (after : (c + 1 / 10 ^ 6) * 65536 < ((n : ℚ) + 1) * 165 - 2621440) : y ≤ c ↔ raw.toNat ≤ n := by
  rw [decode_temperature, abs_le] at near
  push_cast at near
  obtain ⟨least, most⟩ := near
  constructor
  · intro low
    by_contra large
    have more : (n : ℚ) + 1 ≤ raw.toNat := by exact_mod_cast (by omega : n + 1 ≤ raw.toNat)
    linarith
  · intro small
    have fewer : (raw.toNat : ℚ) ≤ n := by exact_mod_cast small
    linarith

theorem meant_iff (k : Nat) : Meant k y ↔ Scheduled k raw := by
  have three : TEMP_RAW_3C.toNat = 17079 := rfl
  have four : TEMP_RAW_4C.toNat = 17476 := rfl
  have five : TEMP_RAW_5C.toNat = 17873 := rfl
  have seven : TEMP_RAW_7C.toNat = 18668 := rfl
  unfold Meant Scheduled
  simp only [UInt16.le_iff_toNat_le, three, four, five, seven]
  by_cases early : k ≤ 10
  · rw [if_pos early, if_pos early, above_iff near (n := 17079) (by norm_num) (by norm_num),
      below_iff near (n := 17873) (by norm_num) (by norm_num)]
  · rw [if_neg early, if_neg early, above_iff near (n := 17476) (by norm_num) (by norm_num),
      below_iff near (n := 18668) (by norm_num) (by norm_num)]

end

/-- The line for a register that is not negative is as meant just if the register is. -/
theorem printed_iff {convert : SensorChannel → UInt16 → SensorValue} (documented : Documented convert)
    {found : UInt16 × UInt16} (nonnegative : 0 ≤ decode .AmbientTemp found.1) (k : Nat) :
    (∃ y, Prints .Temp (line_for convert found) y ∧ Meant k y) ↔ Scheduled k found.1 := by
  obtain ⟨y, shown, near⟩ := convert_shown documented (.inl rfl) nonnegative
  rw [← meant_iff near k]
  constructor
  · rintro ⟨z, printed, meant⟩
    rw [shown.unique ((prints_iff convert .Temp found z).mp printed)]
    exact meant
  · intro meant
    exact ⟨y, (prints_iff convert .Temp found y).mpr shown, meant⟩

theorem drawn_above (count word : UInt32) : 0 ≤ decode .AmbientTemp (drawn count word) := by
  have cold := rand_in_range_bounds (by decide : TEMP_RAW_3C ≤ TEMP_RAW_5C) word
  have warm := rand_in_range_bounds (by decide : TEMP_RAW_4C ≤ TEMP_RAW_7C) word
  rw [decode_nonnegative_iff, drawn]
  by_cases early : count < 10
  · rw [if_pos early]
    exact UInt16.le_trans (by decide) cold.1
  · rw [if_neg early]
    exact UInt16.le_trans (by decide) warm.1

theorem Counted.at {words : List UInt32} {s : SampleState} (counted : Counted words s) (i : Nat) :
    (s.found[i]?).map Prod.fst = (words[i]?).map (drawn (UInt32.ofNat (i + 1))) := by
  rw [← List.getElem?_map, counted.temperatures, List.getElem?_mapIdx]

/-- **The schedule on the console.** In every run of the sample from the initialisation
    of the emulator that sets no temperature and disturbs no fetch, the lines show
    3 to 5 degrees ten times and 4 to 7 degrees from then on exactly when the word of
    the tenth pass, and of each later one that is counted below ten again, lands where
    both ranges meet. -/
theorem schedule_printed_iff {convert : SensorChannel → UInt16 → SensorValue} (documented : Documented convert)
    (rand_temp rand_humidity : UInt32) {acts : List SampleAction} {last : SampleState} (unset : ∀ a ∈ acts, Unset a)
    (executed : run (step convert) (start (ti_hdc_emul_init staticData rand_temp rand_humidity)) acts = some last) :
    (∀ i line, (results last.console)[i]? = some line → ∃ y, Prints .Temp line y ∧ Meant (i + 1) y) ↔
      ∀ i word, (passWords acts)[i]? = some word → Lands (i + 1) word := by
  obtain ⟨free, one⟩ := init_counts rand_temp rand_humidity
  have first : Counted [] (start (ti_hdc_emul_init staticData rand_temp rand_humidity)) := ⟨free, one, rfl⟩
  have counted : Counted (passWords acts) last :=
    EachStep.records note (R := Counted) (C := fun _ a => Unset a)
      (fun _ _ _ _ before allowed taken => step_counted before allowed taken) first (eachStep_of_mem _ unset) executed
  have told := run_results (fun a member => (unset a member).undisturbed) executed
  have each : ∀ i found word, found.1 = drawn (UInt32.ofNat (i + 1)) word →
      ((∃ y, Prints .Temp (line_for convert found) y ∧ Meant (i + 1) y) ↔ Lands (i + 1) word) := by
    intro i found word same
    have nonnegative : 0 ≤ decode .AmbientTemp found.1 := by
      rw [same]
      exact drawn_above _ word
    rw [printed_iff documented nonnegative, same, scheduled_iff (Nat.succ_pos i)]
  constructor
  · intro shown i word at_i
    have both := counted.at i
    rw [at_i, Option.map_some] at both
    obtain ⟨found, at_found, same⟩ := Option.map_eq_some_iff.mp both
    refine (each i found word same).mp (shown i (line_for convert found) ?_)
    rw [told, List.getElem?_map, at_found, Option.map_some]
  · intro lands i line at_line
    rw [told, List.getElem?_map] at at_line
    obtain ⟨found, at_found, rfl⟩ := Option.map_eq_some_iff.mp at_line
    have both := counted.at i
    rw [at_found, Option.map_some] at both
    obtain ⟨word, at_i, same⟩ := Option.map_eq_some_iff.mp both.symm
    exact (each i found word same.symm).mpr (lands i word at_i)

/-- The first line after the initialisation. -/
theorem schedule_printed_iff_once : ∃ last,
    run (step fixedPointDriver) (start (ti_hdc_emul_init staticData 5 6)) [onePass] = some last ∧
      (results last.console)[0]? = some "Temp = 3.017425 C, RH = 40.011596 %\n".toList ∧
      ∃ y, Prints .Temp "Temp = 3.017425 C, RH = 40.011596 %\n".toList y ∧ Meant 1 y := by
  obtain ⟨last, executed, line⟩ : ∃ last,
      run (step fixedPointDriver) (start (ti_hdc_emul_init staticData 5 6)) [onePass] = some last ∧
        (results last.console)[0]? = some "Temp = 3.017425 C, RH = 40.011596 %\n".toList :=
    ⟨_, rfl, by decide +kernel⟩
  have unset : ∀ a ∈ [onePass], Unset a := by
    intro a member
    rw [List.mem_singleton.mp member]
    intro b between
    cases between
  have lands : ∀ i word, (passWords [onePass])[i]? = some word → Lands (i + 1) word := by
    intro i word read
    have inside : i < 1 := (List.getElem?_eq_some_iff.mp read).1
    obtain rfl : i = 0 := by omega
    constructor
    · intro tenth
      omega
    · intro later
      omega
  exact ⟨last, executed, line,
    (schedule_printed_iff fixedPointDriver_documented 5 6 unset executed).mpr lands 0 _ line⟩

end ZephyrWorkshop.SampleSchedule
