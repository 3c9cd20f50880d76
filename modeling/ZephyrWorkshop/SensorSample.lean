import ZephyrWorkshop.HdcDriver

/-!
The loop of `samples/05_sensor/src/main.c` on the emulated sensor, and the lines
that it prints. A line writes the two parts of a `struct sensor_value` with
`%d.%06d`, so that it is right from zero degrees on, where neither part has a
sign, and wrong below (`convert_shown`, `convert_wrong`). A line shows the two
registers that its pass has read exactly where the temperature is not negative
(`lines_right_iff`).
-/

namespace ZephyrWorkshop.SensorSample
open ZephyrWorkshop.Zephyr ZephyrWorkshop.HdcEmul ZephyrWorkshop.HdcEncode ZephyrWorkshop.HdcRuns
open ZephyrWorkshop.HdcSchedule ZephyrWorkshop.HdcShell ZephyrWorkshop.HdcCommand ZephyrWorkshop.HdcDriver
open ZephyrWorkshop.Decimal ZephyrWorkshop.Printf ZephyrWorkshop.Transition
open ZephyrWorkshop.Track (SensorValue)

/-! ### The loop of `main` -/

/-- The line that a pass prints, from the two locals. -/
def result_line (temp humidity : SensorValue) : List Char :=
  printf "Temp = %d.%06d C, RH = %d.%06d %%\n"
    [.num temp.val1.toInt, .num temp.val2.toInt, .num humidity.val1.toInt, .num humidity.val2.toInt]

/-- The emulator and what was printed, a text for each call of `printk`. The
    registers that the emulator holds when a pass reads them are kept for the
    proofs only. -/
structure SampleState where
  data : TiHdcEmulData
  console : List (List Char)
  found : List (UInt16 × UInt16)
deriving DecidableEq, Repr

/-- One pass of the loop, by what the driver makes of a register. `main` looks at
    nothing that the three calls return: where the fetch fails, it prints whatever
    the two locals hold then. -/
def pass (convert : SensorChannel → UInt16 → SensorValue) (s : SampleState) (r : Reading)
    (stale : SensorValue × SensorValue) : SampleState :=
  let (data, fetched, reg_temp, reg_humidity) := driver_fetch s.data r
  let (temp, humidity) := match fetched with
    | .ok () => (convert .AmbientTemp reg_temp, convert .Humidity reg_humidity)
    | .error _ => stale
  { data := data
    console := s.console ++ ["Fetching...\n".toList, result_line temp humidity]
    found := s.found ++ [(data.reg_temp, data.reg_humidity)] }

/-- A pass; a command of the emulator's shell; another call of the emulator. -/
inductive SampleAction
  | pass (r : Reading) (stale : SensorValue × SensorValue)
  | set (command : SetCommand) (str : CString)
  | bus (a : HdcAction)
deriving DecidableEq, Repr

def step (convert : SensorChannel → UInt16 → SensorValue) (s : SampleState) : SampleAction → Option SampleState
  | .pass r stale => some (pass convert s r stale)
  | .set command str => some { s with data := (sensor_emul_set command str s.data).1 }
  | .bus a => some { s with data := (perform s.data a).1 }

/-- Before the first pass. -/
def start (data : TiHdcEmulData) : SampleState := ⟨data, [], []⟩

/-- The lines with results: every second text of the console. -/
def results : List (List Char) → List (List Char)
  | _ :: line :: rest => line :: results rest
  | _ => []

/-- A step of which every call of the emulator meets a condition, and a command
    another; nothing moves `cur_reg` between the two transfers of a fetch. -/
def Meets (ofCall : HdcAction → Prop) (ofCommand : SetCommand → CString → Prop) : SampleAction → Prop
  | .pass r _ => ∀ a ∈ r.between, ofCall a ∧ KeepsRegister a
  | .set command str => ofCommand command str
  | .bus a => ofCall a

/-- Nothing more than that. -/
def Undisturbed : SampleAction → Prop := Meets (fun _ => True) (fun _ _ => True)

theorem Meets.undisturbed {ofCall : HdcAction → Prop} {ofCommand : SetCommand → CString → Prop} {a : SampleAction}
    (meets : Meets ofCall ofCommand a) : Undisturbed a := by
  cases a with
  | pass r stale => exact fun b between => ⟨trivial, (meets b between).2⟩
  | set command str => trivial
  | bus a => trivial

/-! ### One line -/

/-- The two numbers of a line, with the texts around them. -/
def result_text (temp humidity : List Char) : List Char :=
  "Temp = ".toList ++ (temp ++ (" C, RH = ".toList ++ (humidity ++ " %\n".toList)))

/-- The line has this number at the place of the channel. -/
def Prints (command : SetCommand) (line : List Char) (y : ℚ) : Prop :=
  ∃ temp humidity, line = result_text temp humidity ∧ ' ' ∉ temp ∧
    Denotes (match command with
      | .Temp => temp
      | .Humidity => humidity) y

/-- The line shows both registers, up to a millionth. -/
def Right (line : List Char) (found : UInt16 × UInt16) : Prop :=
  (∃ y, Prints .Temp line y ∧ |y - decode .AmbientTemp found.1| ≤ 1 / 10 ^ 6) ∧
  (∃ z, Prints .Humidity line z ∧ |z - decode .Humidity found.2| ≤ 1 / 10 ^ 6)

/-- What the documentation of `struct sensor_value` adds to the formula: the
    fraction is less than one, and a number from zero on has no negative part. -/
structure Documented (convert : SensorChannel → UInt16 → SensorValue) : Prop where
  close : Close convert
  fraction : ∀ ch, Supported ch → ∀ raw, (convert ch raw).val2.toInt < 10 ^ 6
  unsigned : ∀ ch, Supported ch → ∀ raw, 0 ≤ decode ch raw →
    0 ≤ (convert ch raw).val1.toInt ∧ 0 ≤ (convert ch raw).val2.toInt

theorem within_millionth (a b : Int) :
    |(a : ℚ) / 10 ^ 6 - b / 65536| ≤ 1 / 10 ^ 6 ↔ -65536 ≤ a * 65536 - b * 10 ^ 6 ∧ a * 65536 - b * 10 ^ 6 ≤ 65536 := by
  have same : (a : ℚ) / 10 ^ 6 - b / 65536 = ((a * 65536 - b * 10 ^ 6 : Int) : ℚ) / (10 ^ 6 * 65536) := by
    push_cast
    ring
  rw [same, abs_div, abs_of_pos (by norm_num : (0 : ℚ) < 10 ^ 6 * 65536), div_le_iff₀ (by norm_num),
    show (1 : ℚ) / 10 ^ 6 * (10 ^ 6 * 65536) = 65536 by norm_num, ← abs_le]
  exact_mod_cast Iff.rfl

/-- How a value is written. -/
def value_text (value : SensorValue) : List Char := decimal 0 value.val1.toInt ++ '.' :: decimal 6 value.val2.toInt

theorem result_line_eq (temp humidity : SensorValue) :
    result_line temp humidity = result_text (value_text temp) (value_text humidity) := by
  have pieces : pieces none "Temp = %d.%06d C, RH = %d.%06d %%\n".toList =
      "Temp = ".toList.map .text ++ (.int 0 :: .text '.' :: .int 6 :: (" C, RH = ".toList.map .text ++
        (.int 0 :: .text '.' :: .int 6 :: (" %\n".toList.map .text ++ [])))) := by decide +kernel
  show _ = "Temp = ".toList ++ (value_text temp ++ (" C, RH = ".toList ++ (value_text humidity ++ " %\n".toList)))
  rw [result_line, printf, pieces, render_text]
  simp only [render, render_text, value_text, List.append_assoc, List.cons_append]
  rw [List.append_nil]

/-- The text between the two numbers starts with a blank. -/
theorem result_text_injective {temp humidity temp' humidity' : List Char} (noBlank : ' ' ∉ temp) (noBlank' : ' ' ∉ temp')
    (same : result_text temp humidity = result_text temp' humidity') : temp = temp' ∧ humidity = humidity' := by
  have between : " C, RH = ".toList = ' ' :: "C, RH = ".toList := rfl
  have numbers : temp ++ ' ' :: ("C, RH = ".toList ++ (humidity ++ " %\n".toList)) =
      temp' ++ ' ' :: ("C, RH = ".toList ++ (humidity' ++ " %\n".toList)) := List.append_cancel_left same
  obtain ⟨first, rest⟩ := delimited noBlank noBlank' numbers
  exact ⟨first, List.append_cancel_right (List.append_cancel_left rest)⟩

theorem value_text_noBlank (value : SensorValue) : ' ' ∉ value_text value := by
  simp only [value_text, List.mem_append, List.mem_cons, not_or]
  exact ⟨notMem_decimal (by decide) (by decide) _ _, by decide, notMem_decimal (by decide) (by decide) _ _⟩

/-- The register of a channel. -/
def registerOf (command : SetCommand) (found : UInt16 × UInt16) : UInt16 :=
  match command with
  | .Temp => found.1
  | .Humidity => found.2

/-- The line of a pass that has read these registers. -/
def line_for (convert : SensorChannel → UInt16 → SensorValue) (found : UInt16 × UInt16) : List Char :=
  result_line (convert .AmbientTemp found.1) (convert .Humidity found.2)

/-- A line has the numbers that were written into it, and no others. -/
theorem prints_iff (convert : SensorChannel → UInt16 → SensorValue) (command : SetCommand) (found : UInt16 × UInt16)
    (y : ℚ) : Prints command (line_for convert found) y ↔
      Denotes (value_text (convert (channel command) (registerOf command found))) y := by
  have written := result_line_eq (convert .AmbientTemp found.1) (convert .Humidity found.2)
  have noBlank := value_text_noBlank (convert .AmbientTemp found.1)
  rw [line_for, written]
  constructor
  · rintro ⟨temp, humidity, same, noBlank', denotes⟩
    obtain ⟨first, second⟩ := result_text_injective noBlank noBlank' same
    cases command with
    | Temp => exact first ▸ denotes
    | Humidity => exact second ▸ denotes
  · intro denotes
    refine ⟨_, _, rfl, noBlank, ?_⟩
    cases command with
    | Temp => exact denotes
    | Humidity => exact denotes

section
variable {convert : SensorChannel → UInt16 → SensorValue} (documented : Documented convert)
include documented

/-- What is written for a register is a numeral just if the fraction has no sign. -/
theorem value_text_denotes {ch : SensorChannel} (known : Supported ch) (raw : UInt16) {x : ℚ} :
    Denotes (value_text (convert ch raw)) x ↔ 0 ≤ (convert ch raw).val2.toInt ∧
      x = pairValue 6 (convert ch raw).val1.toInt (convert ch raw).val2.toInt / 10 ^ 6 :=
  decimal_pair_denotes (by decide) (documented.fraction ch known raw)

/-- From zero on, the number is right. -/
theorem convert_shown {ch : SensorChannel} (known : Supported ch) {raw : UInt16} (nonnegative : 0 ≤ decode ch raw) :
    ∃ y, Denotes (value_text (convert ch raw)) y ∧ |y - decode ch raw| ≤ 1 / 10 ^ 6 := by
  obtain ⟨whole, fraction⟩ := documented.unsigned ch known raw nonnegative
  refine ⟨quantity (convert ch raw), (value_text_denotes documented known raw).mpr ⟨fraction, ?_⟩,
    documented.close ch known raw⟩
  rw [pairValue, if_neg (by omega), quantity]
  push_cast
  ring

/-- Below zero, but for the least register, it is no numeral, or that of another number. -/
theorem convert_wrong {raw : UInt16} (below : decode .AmbientTemp raw < 0) (notLeast : raw ≠ 0) {y : ℚ}
    (denotes : Denotes (value_text (convert .AmbientTemp raw)) y) : ¬ |y - decode .AmbientTemp raw| ≤ 1 / 10 ^ 6 := by
  intro near
  have known : Supported .AmbientTemp := .inl rfl
  have close := documented.close .AmbientTemp known raw
  have least := documented.fraction .AmbientTemp known raw
  obtain ⟨fraction, rfl⟩ := (value_text_denotes documented known raw).mp denotes
  have positive : 0 < raw.toNat := Nat.pos_of_ne_zero (fun zero => notLeast (UInt16.toNat_inj.mp zero))
  have small := raw.toNat_lt
  rw [← not_le, decode_nonnegative_iff, UInt16.le_iff_toNat_le] at below
  have border : (15888 : UInt16).toNat = 15888 := rfl
  rw [decode_temperature, within_millionth] at near
  rw [decode_temperature, quantity_eq, within_millionth] at close
  generalize (convert .AmbientTemp raw).val1.toInt = whole at near close
  generalize (convert .AmbientTemp raw).val2.toInt = part at least fraction near close
  unfold pairValue at near
  by_cases sign : whole < 0
  · -- both signs of the fraction fit, so that it is next to nothing, and no register here is that near to a whole number
    rw [if_pos sign] at near
    have tiny : part ≤ 1 := by omega
    have same : (raw.toNat : Int) * 165 - 40 * 65536 = whole * 65536 := by omega
    omega
  · rw [if_neg sign] at near
    omega

/-- A line is right from zero degrees on, and but for the least register only there. -/
theorem right_of_nonnegative {found : UInt16 × UInt16} (nonnegative : 0 ≤ decode .AmbientTemp found.1) :
    Right (line_for convert found) found := by
  have dry : 0 ≤ decode .Humidity found.2 := by
    have least := (decode_range (.inr rfl : Supported .Humidity) found.2).1
    simpa [lo] using least
  obtain ⟨y, first, near⟩ := convert_shown documented (.inl rfl) nonnegative
  obtain ⟨z, second, near'⟩ := convert_shown documented (.inr rfl) dry
  exact ⟨⟨y, (prints_iff convert .Temp found y).mpr first, near⟩,
    ⟨z, (prints_iff convert .Humidity found z).mpr second, near'⟩⟩

theorem right_iff {found : UInt16 × UInt16} (notLeast : found.1 ≠ 0) :
    Right (line_for convert found) found ↔ 0 ≤ decode .AmbientTemp found.1 := by
  constructor
  · rintro ⟨⟨y, printed, near⟩, _⟩
    by_contra below
    exact convert_wrong documented (not_le.mp below) notLeast ((prints_iff convert .Temp found y).mp printed) near
  · exact right_of_nonnegative documented

end

/-- The conversion in fixed point is one of those that are documented. -/
theorem fixedPointDriver_documented : Documented fixedPointDriver := by
  have parts : ∀ ch, Supported ch → ∀ raw, 0 ≤ (fixedPointDriver ch raw).val2.toInt ∧
      (fixedPointDriver ch raw).val2.toInt < 10 ^ 6 := by
    intro ch known raw
    obtain ⟨_, part⟩ := fixedPointDriver_parts known raw
    rw [part]
    omega
  refine ⟨fixedPointDriver_close, fun ch known raw => (parts ch known raw).2, ?_⟩
  intro ch known raw nonnegative
  obtain ⟨whole, _⟩ := fixedPointDriver_parts known raw
  have value : decode ch raw = ((raw.toNat * span ch + lo ch * 65536 : Int) : ℚ) / 65536 := by
    unfold decode
    push_cast
    ring
  rw [value, le_div_iff₀ (by norm_num), zero_mul] at nonnegative
  have integers : (0 : Int) ≤ raw.toNat * span ch + lo ch * 65536 := by exact_mod_cast nonnegative
  refine ⟨?_, (parts ch known raw).1⟩
  rw [whole]
  omega

/-! ### The console -/

/-- The results of a console with one more pass. -/
theorem results_append {console : List (List Char)} {passes : Nat} (paired : console.length = 2 * passes)
    (text line : List Char) : results (console ++ [text, line]) = results console ++ [line] := by
  induction passes generalizing console with
  | zero =>
    obtain rfl := List.eq_nil_of_length_eq_zero paired
    rfl
  | succ passes ih =>
    match console, paired with
    | first :: second :: rest, paired =>
      have shorter : rest.length = 2 * passes := by
        simp only [List.length_cons] at paired
        omega
      show second :: results (rest ++ [text, line]) = second :: (results rest ++ [line])
      rw [ih shorter]

theorem results_length {console : List (List Char)} {passes : Nat} (paired : console.length = 2 * passes) :
    (results console).length = passes := by
  induction passes generalizing console with
  | zero =>
    obtain rfl := List.eq_nil_of_length_eq_zero paired
    rfl
  | succ passes ih =>
    match console, paired with
    | first :: second :: rest, paired =>
      have shorter : rest.length = 2 * passes := by
        simp only [List.length_cons] at paired
        omega
      show (results rest).length + 1 = passes + 1
      rw [ih shorter]

/-- Each pass printed two texts. -/
def Paired (s : SampleState) : Prop := s.console.length = 2 * s.found.length

/-- The results from the `n`-th pass on are the lines for what these passes found. -/
def Told (convert : SensorChannel → UInt16 → SensorValue) (n : Nat) (s : SampleState) : Prop :=
  ∀ k, n ≤ k → (results s.console)[k]? = (s.found[k]?).map (line_for convert)

section
variable {convert : SensorChannel → UInt16 → SensorValue}

/-- Also a pass that is disturbed prints two texts. -/
theorem step_paired {s next : SampleState} {a : SampleAction} (paired : Paired s)
    (taken : step convert s a = some next) : Paired next := by
  unfold Paired at paired ⊢
  cases a with
  | pass r stale =>
    cases taken
    simp only [pass, List.length_append, List.length_cons, List.length_nil]
    omega
  | set command str =>
    cases taken
    exact paired
  | bus a =>
    cases taken
    exact paired

/-- Nothing has to be said of passes to come. -/
theorem told_ahead {s : SampleState} (paired : Paired s) : Told convert s.found.length s := by
  intro k ahead
  rw [List.getElem?_eq_none ((results_length paired).trans_le ahead), List.getElem?_eq_none ahead]
  rfl

/-- A pass that nothing disturbs prints what the emulator holds. -/
theorem pass_eq (s : SampleState) {r : Reading} (keeps : ∀ a ∈ r.between, KeepsRegister a)
    (stale : SensorValue × SensorValue) : pass convert s r stale =
      { data := sampled s.data r
        console := s.console ++ ["Fetching...\n".toList,
          line_for convert ((sampled s.data r).reg_temp, (sampled s.data r).reg_humidity)]
        found := s.found ++ [((sampled s.data r).reg_temp, (sampled s.data r).reg_humidity)] } := by
  rw [pass, driver_fetch_eq s.data keeps]
  rfl

theorem step_told {n : Nat} {s next : SampleState} {a : SampleAction} (paired : Paired s) (told : Told convert n s)
    (undisturbed : Undisturbed a) (taken : step convert s a = some next) : Told convert n next := by
  cases a with
  | pass r stale =>
    cases taken
    rw [pass_eq s (fun a member => (undisturbed a member).2) stale]
    intro k from_n
    have passes := results_length paired
    dsimp only
    rw [results_append paired]
    by_cases earlier : k < s.found.length
    · rw [List.getElem?_append_left (passes ▸ earlier), List.getElem?_append_left earlier]
      exact told k from_n
    · have later : s.found.length ≤ k := Nat.le_of_not_lt earlier
      rw [List.getElem?_append_right (passes.trans_le later), List.getElem?_append_right later, passes,
        ← List.getElem?_map]
      rfl
  | set command str =>
    cases taken
    exact told
  | bus a =>
    cases taken
    exact told

/-- What both invariants say after a run. -/
theorem run_told {n : Nat} {acts : List SampleAction} {s last : SampleState} (paired : Paired s)
    (told : Told convert n s) (undisturbed : ∀ a ∈ acts, Undisturbed a)
    (executed : run (step convert) s acts = some last) : Told convert n last := by
  have both : Paired last ∧ Told convert n last := by
    refine run_preserves_of_mem (P := fun s => Paired s ∧ Told convert n s) (Q := Undisturbed) ?_ ⟨paired, told⟩
      undisturbed executed
    intro s a next holds allowed taken
    exact ⟨step_paired holds.1 taken, step_told holds.1 holds.2 allowed taken⟩
  exact both.2

theorem start_paired (data : TiHdcEmulData) : Paired (start data) := rfl

/-- The lines of a run are those of the registers that its passes found. -/
theorem run_results {data : TiHdcEmulData} {acts : List SampleAction} {last : SampleState}
    (undisturbed : ∀ a ∈ acts, Undisturbed a) (executed : run (step convert) (start data) acts = some last) :
    results last.console = last.found.map (line_for convert) := by
  have told : Told convert 0 last :=
    run_told (start_paired data) (told_ahead (start_paired data)) undisturbed executed
  apply List.ext_getElem?
  intro k
  rw [told k (Nat.zero_le k), List.getElem?_map]

/-- **When a line is right.** In every run of the sample whose fetches nothing
    disturbs, a line shows the two registers that its pass has read just if the
    temperature is not negative, but for the least register. -/
theorem lines_right_iff (documented : Documented convert) {data : TiHdcEmulData} {acts : List SampleAction}
    {last : SampleState} (undisturbed : ∀ a ∈ acts, Undisturbed a)
    (executed : run (step convert) (start data) acts = some last) :
    List.Forall₂ (fun line found => found.1 ≠ 0 → (Right line found ↔ 0 ≤ decode .AmbientTemp found.1))
      (results last.console) last.found := by
  rw [run_results undisturbed executed, List.forall₂_map_left_iff, List.forall₂_same]
  exact fun found _ notLeast => right_iff documented notLeast

end

/-- A pass with nothing on the bus in between. -/
def onePass : SampleAction := .pass ⟨7, 8, [], [0, 0, 0, 0], []⟩ (⟨0, 0⟩, ⟨0, 0⟩)

/-- A pass at half a degree below zero. -/
def frost : List SampleAction := [.bus (.set_channel ⟨.AmbientTemp, 0⟩ (some (-4194304)) 8), onePass]

theorem lines_right_iff_frost : ∃ last,
    run (step fixedPointDriver) (start staticData) frost = some last ∧
      results last.console = ["Temp = -1.500198 C, RH = 40.011596 %\n".toList] ∧ last.found = [(15689, 26222)] ∧
      ¬ Right "Temp = -1.500198 C, RH = 40.011596 %\n".toList (15689, 26222) := by
  obtain ⟨last, executed, lines, found⟩ : ∃ last, run (step fixedPointDriver) (start staticData) frost = some last ∧
      results last.console = ["Temp = -1.500198 C, RH = 40.011596 %\n".toList] ∧ last.found = [(15689, 26222)] :=
    ⟨_, rfl, by decide +kernel, by decide +kernel⟩
  have undisturbed : ∀ a ∈ frost, Undisturbed a := by
    intro a member
    simp only [frost, List.mem_cons, List.not_mem_nil, or_false] at member
    rcases member with rfl | rfl
    · trivial
    · intro b between
      cases between
  have each := lines_right_iff fixedPointDriver_documented undisturbed executed
  rw [lines, found, List.forall₂_cons] at each
  refine ⟨last, executed, lines, found, ?_⟩
  rw [each.1 (by decide), decode_nonnegative_iff]
  decide

end ZephyrWorkshop.SensorSample
