import ZephyrWorkshop.HdcDriver
import ZephyrWorkshop.TrackAnswers
import ZephyrWorkshop.TrackShell

/-!
The simulated test track from the setting of its emulated sensor to what
`sensor latest` prints: the emulator of `emulators/sensor/ti_hdc_emul` below the
modules of `samples/sim_test_track`, with the driver between them. The driver is
not part of this repository (`Platform`, `Accurate`). A channel that was set keeps
its register, so that every read from then on ends in an event that prints the
number of the setting (`Shown`).
-/

namespace ZephyrWorkshop.TrackReadout
open ZephyrWorkshop.Zephyr ZephyrWorkshop.HdcEmul ZephyrWorkshop.HdcEncode ZephyrWorkshop.HdcReads ZephyrWorkshop.HdcRuns
open ZephyrWorkshop.HdcSchedule ZephyrWorkshop.HdcShell ZephyrWorkshop.HdcCommand ZephyrWorkshop.HdcDriver
open ZephyrWorkshop.Decimal ZephyrWorkshop.Printf ZephyrWorkshop.Transition ZephyrWorkshop.Track ZephyrWorkshop.TrackAnswers
open ZephyrWorkshop.TrackShell

/-! ### The driver -/

/-- What is not part of the repository: the numbers of the error codes, the
    conversion of a register by the driver, and a function of the sensor API. -/
structure Platform where
  number : Errno → Int
  convert : SensorChannel → UInt16 → SensorValue
  sensor_value_to_milli : SensorValue → Int64

/-- The driver follows the formula in the header of the emulator, up to a
    millionth, and the conversion to thousandths cuts off what is smaller. -/
structure Platform.Accurate (p : Platform) : Prop where
  converted : Close p.convert
  milli : ∀ value, (p.sensor_value_to_milli value).toInt = value.val1.toInt * 1000 + value.val2.toInt.tdiv 1000

/-- A reading by the driver: the data after it, and what its three calls return. -/
def driver_calls (p : Platform) (data : TiHdcEmulData) (r : Reading) : TiHdcEmulData × DriverCalls :=
  let (data, read, reg_temp, reg_humidity) := driver_fetch data r
  (data,
    { fetch := match read with
        | .ok () => 0
        | .error e => p.number e
      get_temperature := 0
      get_humidity := 0
      temperature := p.convert .AmbientTemp reg_temp
      humidity := p.convert .Humidity reg_humidity })

/-! ### The system -/

/-- The emulated sensor, and the modules of the test track. -/
structure SystemState where
  data : TiHdcEmulData
  track : TrackState

/-- A module takes a step; the sensor thread reads through the driver; a command
    of the emulator's shell; another call of the emulator. -/
inductive SystemAction
  | modules (a : TrackAction)
  | read (r : Reading)
  | set (command : SetCommand) (str : CString)
  | bus (a : HdcAction)

def step (p : Platform) (s : SystemState) : SystemAction → Option SystemState
  | .modules (.Read _) => none
  | .modules a => (Track.step p.sensor_value_to_milli s.track a).map (fun track => { s with track := track })
  | .read r =>
    let (data, calls) := driver_calls p s.data r
    (Track.step p.sensor_value_to_milli s.track (.Read calls)).map (fun track => ⟨data, track⟩)
  | .set command str => some { s with data := (sensor_emul_set command str s.data).1 }
  | .bus a => some { s with data := (perform s.data a).1 }

/-- Nothing is pressed yet; the emulator is in any state. -/
def start (data : TiHdcEmulData) : SystemState := ⟨data, Track.initial⟩

/-- The message of `sensor_event_ch`: what was published last, or what the channel
    is defined with. -/
def sensor_event_ch (s : TrackState) : SensorEvent :=
  match s.answers.getLast? with
  | some answer => answer.event
  | none => ⟨.Idle, 0, 0, 0⟩

/-- The line of a channel in the output of `sensor latest`, around its number. -/
def labelled (command : SetCommand) (number : CString) : CString :=
  match command with
  | .Temp => "Temperature: ".toList ++ (number ++ " C".toList)
  | .Humidity => "Humidity: ".toList ++ (number ++ " %".toList)

/-- For this event, `sensor latest` prints `x` up to a register step, a thousandth
    and a millionth. -/
def Shown (p : Platform) (command : SetCommand) (x : ℚ) (event : SensorEvent) : Prop :=
  ∃ number y, labelled command number ∈ (cmd_sensor_latest (.ok event)).1.map (·.text p.number) ∧
    Denotes number y ∧ |y - x| ≤ span (channel command) / 65536 + 1 / 1000 + 1 / 10 ^ 6

/-! ### A channel that was set -/

/-- A step that does not set the channel; what comes between the two transfers of
    a reading leaves `cur_reg` to it. -/
def Spares (ch : SensorChannel) : SystemAction → Prop
  | .modules _ => True
  | .read r => ∀ a ∈ r.between, Leaves ch a ∧ KeepsRegister a
  | .set command str => CommandLeaves ch command str
  | .bus a => Leaves ch a

/-! ### A read -/

/-- What a read finds in a channel. -/
def measured (command : SetCommand) (calls : DriverCalls) : SensorValue :=
  match command with
  | .Temp => calls.temperature
  | .Humidity => calls.humidity

/-- The calls of a read that succeeds and finds this register. -/
structure Reads (p : Platform) (command : SetCommand) (raw : UInt16) (calls : DriverCalls) : Prop where
  fetch : calls.fetch = 0
  get_temperature : calls.get_temperature = 0
  get_humidity : calls.get_humidity = 0
  measured : measured command calls = p.convert (channel command) raw

/-- A reading succeeds, finds the register that was set, and leaves it set. -/
theorem driver_calls_pinned (p : Platform) {command : SetCommand} {raw : UInt16} {data : TiHdcEmulData} {r : Reading}
    (allowed : ∀ a ∈ r.between, Leaves (channel command) a ∧ KeepsRegister a)
    (pinned : Pinned (channel command) raw data) :
    Pinned (channel command) raw (driver_calls p data r).1 ∧ Reads p command raw (driver_calls p data r).2 := by
  have kept := sampled_pinned (channel_supported command) (fun a member => (allowed a member).1) pinned
  have taken : driver_calls p data r = (sampled data r,
      ⟨0, 0, 0, p.convert .AmbientTemp (sampled data r).reg_temp, p.convert .Humidity (sampled data r).reg_humidity⟩) := by
    rw [driver_calls, driver_fetch_eq data (fun a member => (allowed a member).2)]
  rw [taken]
  refine ⟨kept, rfl, rfl, rfl, ?_⟩
  have found := kept.register
  cases command with
  | Temp => exact congrArg (p.convert .AmbientTemp) found
  | Humidity => exact congrArg (p.convert .Humidity) found

/-! ### The line that is printed -/

/-- The thousandths of a channel in an event. -/
def thousandths (command : SetCommand) (event : SensorEvent) : Int32 :=
  match command with
  | .Temp => event.temperature_milli_c
  | .Humidity => event.humidity_milli_percent

/-- The thousandths of a converted register. -/
theorem milli_close {p : Platform} (accurate : p.Accurate) {ch : SensorChannel} (known : Supported ch) (raw : UInt16) :
    |((p.sensor_value_to_milli (p.convert ch raw)).toInt : ℚ) / 1000 - decode ch raw| ≤ 1 / 1000 + 1 / 10 ^ 6 := by
  have close := accurate.converted ch known raw
  rw [accurate.milli]
  unfold quantity at close
  generalize (p.convert ch raw).val1.toInt = whole at close
  generalize (p.convert ch raw).val2.toInt = part at close
  have split := Int.mul_tdiv_add_tmod part 1000
  have below : ((part.tmod 1000 : Int) : ℚ) < 1000 := by exact_mod_cast Int.tmod_lt_of_pos part (by omega)
  have above : (-1000 : ℚ) < ((part.tmod 1000 : Int) : ℚ) := by exact_mod_cast Int.lt_tmod_of_pos part (by omega)
  have parts : (part : ℚ) = 1000 * (part.tdiv 1000 : Int) + (part.tmod 1000 : Int) := by exact_mod_cast split.symm
  rw [parts, abs_le] at close
  obtain ⟨least, most⟩ := close
  push_cast
  rw [abs_le]
  constructor <;> linarith

/-- The thousandths fit the width that the message carries. -/
theorem milli_fits {p : Platform} (accurate : p.Accurate) {ch : SensorChannel} (known : Supported ch) (raw : UInt16) :
    (p.sensor_value_to_milli (p.convert ch raw)).toInt32.toInt = (p.sensor_value_to_milli (p.convert ch raw)).toInt := by
  have close := milli_close accurate known raw
  obtain ⟨least, most⟩ := decode_range known raw
  obtain ⟨lowest, _, tops⟩ := channel_range known
  have bottom : (-40 : ℚ) ≤ lo ch := by exact_mod_cast lowest
  have top : (hi ch : ℚ) ≤ 125 := by rcases tops with top | top <;> rw [top] <;> norm_num
  rw [Int64.toInt_toInt32]
  generalize (p.sensor_value_to_milli (p.convert ch raw)).toInt = m at close
  rw [abs_le] at close
  have low : (-41000 : ℚ) ≤ m := by linarith
  have high : (m : ℚ) ≤ 126000 := by linarith
  have lowInt : -41000 ≤ m := by exact_mod_cast low
  have highInt : m ≤ 126000 := by exact_mod_cast high
  exact Int.bmod_eq_of_le (by omega) (by omega)

/-- The humidity is written without a sign, and so is right while there is none. -/
theorem humidity_text {m : Int32} (number : Errno → Int) (unsigned : -1000 < m.toInt) :
    (ShellLine.print "Humidity: %d.%03d %%" [.num (m / 1000).toInt, .num (m % 1000).abs.toInt]).text number =
      labelled .Humidity (fixedPoint 3 m.toInt.natAbs).text := by
  have quotient := quotient_natAbs m
  have cube : 10 ^ 3 = 1000 := by norm_num
  have nonnegative : 0 ≤ (m / 1000).toInt := by
    by_cases sign : 0 ≤ m.toInt
    · rw [Int32.toInt_div_of_ne_right m 1000 (by decide)]
      exact Int.tdiv_nonneg sign (by decide)
    · omega
  have whole : decimal 0 (m / 1000).toInt = zeroPadded 0 (m.toInt.natAbs / 10 ^ 3) := by
    rw [decimal_nonnegative 0 nonnegative, quotient, cube]
  have fraction : decimal 3 (m % 1000).abs.toInt = zeroPadded 3 (m.toInt.natAbs % 10 ^ 3) := by
    rw [abs_remainder, decimal_nonnegative 3 (Int.natCast_nonneg _), Int.natAbs_natCast, cube]
  have written : (fixedPoint 3 (m.toInt.natAbs : Int)).text =
      zeroPadded 0 (m.toInt.natAbs / 10 ^ 3) ++ '.' :: zeroPadded 3 (m.toInt.natAbs % 10 ^ 3) := by
    have positive : ¬ ((m.toInt.natAbs : Int) < 0) := by omega
    rw [fixedPoint_text, if_neg positive, Int.natAbs_natCast, List.nil_append]
  have pieces : pieces none "Humidity: %d.%03d %%".toList =
      "Humidity: ".toList.map .text ++ [.int 0, .text '.', .int 3, .text ' ', .text '%'] := by decide
  have rest : render [.int 0, .text '.', .int 3, .text ' ', .text '%']
      ([.num (m / 1000).toInt, .num (m % 1000).abs.toInt].map (ShellArg.arg number)) =
      (fixedPoint 3 (m.toInt.natAbs : Int)).text ++ " %".toList := by
    rw [written]
    simp only [List.map_cons, List.map_nil, ShellArg.arg, render, whole, fraction]
    simp
  rw [ShellLine.text, printf, pieces, render_text, rest]
  rfl

/-- The line of the humidity, in front of the number and behind it. -/
theorem humidity_line (number : Errno → Int) {event : SensorEvent} (success : event.state = .Success)
    (unsigned : -1000 < event.humidity_milli_percent.toInt) :
    ((cmd_sensor_latest (.ok event)).1.map (·.text number))[2]? =
      some (labelled .Humidity (fixedPoint 3 event.humidity_milli_percent.toInt.natAbs).text) := by
  have line : ((cmd_sensor_latest (.ok event)).1.map (·.text number))[2]? =
      some ((ShellLine.print "Humidity: %d.%03d %%" [.num (event.humidity_milli_percent / 1000).toInt,
        .num (event.humidity_milli_percent % 1000).abs.toInt]).text number) := by
    simp only [cmd_sensor_latest, success]
    rfl
  rw [line, humidity_text number unsigned]

/-- The errors add up. -/
theorem near_setting {m decoded x stepWidth : ℚ} (near : |m / 1000 - decoded| ≤ 1 / 1000 + 1 / 10 ^ 6)
    (close : |decoded - x| ≤ stepWidth) : |m / 10 ^ 3 - x| ≤ stepWidth + 1 / 1000 + 1 / 10 ^ 6 := by
  have thousand : (10 : ℚ) ^ 3 = 1000 := by norm_num
  rw [thousand]
  calc |m / 1000 - x| ≤ |m / 1000 - decoded| + |decoded - x| := abs_sub_le _ _ _
    _ ≤ (1 / 1000 + 1 / 10 ^ 6) + stepWidth := add_le_add near close
    _ = stepWidth + 1 / 1000 + 1 / 10 ^ 6 := by ring

/-- What a read found in the register is printed, up to a thousandth and a millionth. -/
theorem shown_of_reads {p : Platform} (accurate : p.Accurate) {command : SetCommand} {raw : UInt16}
    {calls : DriverCalls} (reads : Reads p command raw calls) {x : ℚ}
    (close : |decode (channel command) raw - x| ≤ span (channel command) / 65536) :
    Shown p command x (eventOf p.sensor_value_to_milli calls) := by
  have known := channel_supported command
  have reports : Reports p.sensor_value_to_milli calls (eventOf p.sensor_value_to_milli calls) := eventOf_reports calls
  have success := reports.success_iff.mpr ⟨reads.fetch, reads.get_temperature, reads.get_humidity⟩
  obtain ⟨temperature, humidity⟩ := reports.measured success
  have fits := milli_fits accurate known raw
  have near := milli_close accurate known raw
  have least := (decode_range known raw).1
  generalize eventOf p.sensor_value_to_milli calls = event at success temperature humidity
  cases command with
  | Temp =>
    have found : calls.temperature = p.convert .AmbientTemp raw := reads.measured
    have value : event.temperature_milli_c.toInt = (p.sensor_value_to_milli (p.convert .AmbientTemp raw)).toInt := by
      rw [temperature, found]
      exact fits
    refine ⟨number_text event.temperature_milli_c, event.temperature_milli_c.toInt / 10 ^ 3, ?_, ?_, ?_⟩
    · exact List.mem_of_getElem? (temperature_line p.number success)
    · exact ⟨_, (number_text_eq _).symm, fixedPoint_value (by decide) _⟩
    · rw [value]
      exact near_setting near close
  | Humidity =>
    have found : calls.humidity = p.convert .Humidity raw := reads.measured
    have value : event.humidity_milli_percent.toInt = (p.sensor_value_to_milli (p.convert .Humidity raw)).toInt := by
      rw [humidity, found]
      exact fits
    have near : |((p.sensor_value_to_milli (p.convert .Humidity raw)).toInt : ℚ) / 1000 - decode .Humidity raw| ≤
        1 / 1000 + 1 / 10 ^ 6 := near
    have nonnegative : (0 : ℚ) ≤ decode .Humidity raw := by simpa [channel, lo] using least
    rw [← value, abs_le] at near
    have unsigned : -1000 < event.humidity_milli_percent.toInt := by
      have above : (-1000 : ℚ) < event.humidity_milli_percent.toInt := by linarith
      exact_mod_cast above
    refine ⟨(fixedPoint 3 event.humidity_milli_percent.toInt.natAbs).text,
      (event.humidity_milli_percent.toInt.natAbs : Int) / 10 ^ 3, ?_, ?_, ?_⟩
    · exact List.mem_of_getElem? (humidity_line p.number success unsigned)
    · exact ⟨_, rfl, fixedPoint_value (by decide) _⟩
    · -- dropping a sign brings a number nearer to one that has none
      have nearer : |((event.humidity_milli_percent.toInt.natAbs : Int) : ℚ) / 1000 - decode .Humidity raw| ≤
          1 / 1000 + 1 / 10 ^ 6 := by
        rw [Int.natCast_natAbs, Int.cast_abs, abs_le]
        rcases abs_cases (event.humidity_milli_percent.toInt : ℚ) with ⟨same, _⟩ | ⟨same, _⟩ <;> rw [same] <;>
          constructor <;> linarith
      exact near_setting nearer close

/-! ### Steps of the system -/

/-- The steps of the system: what each of them does to the emulator, and to the reads so far. -/
theorem step_cases {p : Platform} {s next : SystemState} {a : SystemAction} (taken : step p s a = some next) :
    (∃ act, (∃ b, a = .modules b) ∧ Track.step p.sensor_value_to_milli s.track act = some next.track ∧
      next.data = s.data ∧ next.track.reads = s.track.reads) ∨
    (∃ r, a = .read r ∧
      Track.step p.sensor_value_to_milli s.track (.Read (driver_calls p s.data r).2) = some next.track ∧
      next.data = (driver_calls p s.data r).1 ∧
      next.track.reads = s.track.reads ++ [(driver_calls p s.data r).2]) ∨
    (∃ command str, a = .set command str ∧
      next = { s with data := (sensor_emul_set command str s.data).1 }) ∨
    (∃ b, a = .bus b ∧ next = { s with data := (perform s.data b).1 }) := by
  cases a with
  | modules act =>
    have other : ∀ calls, act ≠ .Read calls := by
      rintro calls rfl
      cases taken
    have moved : (Track.step p.sensor_value_to_milli s.track act).map (fun track => ({ s with track := track } : SystemState)) =
        some next := by
      cases act with
      | Read calls => exact absurd rfl (other calls)
      | Press | Take | Publish | Led err => exact taken
    obtain ⟨track, went, rfl⟩ := Option.map_eq_some_iff.mp moved
    refine .inl ⟨act, ⟨act, rfl⟩, went, rfl, ?_⟩
    rcases Track.step_cases p.sensor_value_to_milli went with ⟨_, rfl⟩ | ⟨_, _, _, _, _, rfl⟩ | ⟨calls, _, rfl, _⟩ |
      ⟨_, _, _, rfl⟩ | ⟨_, _, _, _, _, rfl⟩
    · rfl
    · rfl
    · exact absurd rfl (other calls)
    · rfl
    · rfl
  | read r =>
    obtain ⟨track, went, rfl⟩ := Option.map_eq_some_iff.mp taken
    refine .inr (.inl ⟨r, rfl, went, rfl, ?_⟩)
    rcases Track.step_cases p.sensor_value_to_milli went with ⟨other, _⟩ | ⟨_, _, other, _⟩ | ⟨_, _, same, _, rfl⟩ |
      ⟨_, other, _⟩ | ⟨_, _, _, other, _⟩
    · cases other
    · cases other
    · cases same
      rfl
    · cases other
    · cases other
  | set command str => exact .inr (.inr (.inl ⟨command, str, rfl, (Option.some.inj taken).symm⟩))
  | bus b => exact .inr (.inr (.inr ⟨b, rfl, (Option.some.inj taken).symm⟩))

/-- The modules do not notice what else happens. -/
theorem step_consistent {p : Platform} {s next : SystemState} {a : SystemAction}
    (consistent : Consistent p.sensor_value_to_milli s.track) (taken : step p s a = some next) :
    Consistent p.sensor_value_to_milli next.track := by
  rcases step_cases taken with ⟨act, _, went, _⟩ | ⟨r, _, went, _⟩ | ⟨_, _, _, rfl⟩ | ⟨_, _, rfl⟩
  · exact TrackAnswers.step_consistent consistent went
  · exact TrackAnswers.step_consistent consistent went
  · exact consistent
  · exact consistent

/-- The channel is set, and every read from the `n`-th on has found it so. -/
structure Settled (p : Platform) (command : SetCommand) (raw : UInt16) (n : Nat) (s : SystemState) : Prop where
  pinned : Pinned (channel command) raw s.data
  later : ∀ k calls, n ≤ k → s.track.reads[k]? = some calls → Reads p command raw calls

theorem step_settled {p : Platform} {command : SetCommand} {raw : UInt16} {n : Nat} {s next : SystemState}
    {a : SystemAction} (settled : Settled p command raw n s) (spares : Spares (channel command) a)
    (taken : step p s a = some next) : Settled p command raw n next := by
  obtain ⟨pinned, later⟩ := settled
  have known := channel_supported command
  rcases step_cases taken with ⟨act, _, _, data, reads⟩ | ⟨r, rfl, _, data, reads⟩ | ⟨other, str, rfl, rfl⟩ | ⟨b, rfl, rfl⟩
  · constructor
    · rw [data]
      exact pinned
    · rw [reads]
      exact later
  · obtain ⟨kept, found⟩ := driver_calls_pinned p spares pinned
    constructor
    · rw [data]
      exact kept
    · intro k calls from_n read
      rw [reads] at read
      by_cases earlier : k < s.track.reads.length
      · rw [List.getElem?_append_left earlier] at read
        exact later k calls from_n read
      · rw [List.getElem?_append_right (by omega)] at read
        have last := List.mem_of_getElem? read
        rw [List.mem_singleton] at last
        rw [last]
        exact found
  · exact ⟨sensor_emul_set_pinned spares pinned, later⟩
  · exact ⟨perform_pinned known spares pinned, later⟩

/-- The latest event is the last answer. -/
theorem sensor_event_ch_eq {s : TrackState} (answered : s.answers ≠ []) :
    ∃ answer, s.answers[s.answers.length - 1]? = some answer ∧ sensor_event_ch s = answer.event := by
  have last := List.getLast?_eq_some_getLast answered
  refine ⟨s.answers.getLast answered, ?_, ?_⟩
  · rw [← List.getLast?_eq_getElem?]
    exact last
  · rw [sensor_event_ch, last]

/-- **From the setting to the output.** In every run of the test track, once a
    number from zero to the end of the range has been set for a channel and until
    it is set again, every answer to a later read prints that number, up to a
    register step, a thousandth and a millionth, as long as nothing moves `cur_reg`
    within a reading. At rest, `sensor latest` prints it if there was a press since. -/
theorem setting_shown {p : Platform} (accurate : p.Accurate) {data : TiHdcEmulData} {command : SetCommand}
    {str : CString} {stored : Int64} {x : ℚ} (accepted : parse_micro str 0 = (stored, .ok ()))
    (denotes : Denotes str x) (low : 0 ≤ x) (high : x ≤ hi (channel command)) {before after : List SystemAction}
    {s last : SystemState} (executedBefore : run (step p) (start data) before = some s)
    (executedAfter : run (step p) s (.set command str :: after) = some last)
    (spared : ∀ a ∈ after, Spares (channel command) a) :
    (∀ k answer, s.track.reads.length ≤ k → last.track.answers[k]? = some answer →
      Shown p command x answer.event) ∧
    (Quiescent last.track → s.track.presses < last.track.presses →
      Shown p command x (sensor_event_ch last.track)) := by
  obtain ⟨raw, set, _, close⟩ := sensor_emul_set_close command s.data accepted denotes low high
  have known := channel_supported command
  have started : Consistent p.sensor_value_to_milli s.track :=
    run_preserves (P := fun s => Consistent p.sensor_value_to_milli s.track)
      (fun _ _ _ consistent taken => step_consistent consistent taken)
      (consistent_initial p.sensor_value_to_milli) executedBefore
  have later : run (step p) { s with data := (sensor_emul_set command str s.data).1 } after = some last := executedAfter
  have consistent : Consistent p.sensor_value_to_milli last.track :=
    run_preserves (P := fun s => Consistent p.sensor_value_to_milli s.track)
      (fun _ _ _ consistent taken => step_consistent consistent taken) started later
  have first : Settled p command raw s.track.reads.length { s with data := (sensor_emul_set command str s.data).1 } := by
    refine ⟨?_, ?_⟩
    · show Pinned (channel command) raw (sensor_emul_set command str s.data).1
      rw [set]
      exact pinned_pin known s.data raw
    · intro k calls from_n read
      obtain ⟨inside, _⟩ := List.getElem?_eq_some_iff.mp read
      exact absurd inside (Nat.not_lt.mpr from_n)
  have settled : Settled p command raw s.track.reads.length last :=
    run_preserves_of_mem (fun _ _ _ settled spares taken => step_settled settled spares taken) first spared later
  have shown : ∀ k answer, s.track.reads.length ≤ k → last.track.answers[k]? = some answer →
      Shown p command x answer.event := by
    intro k answer from_n found
    obtain ⟨calls, read, same⟩ := consistent.event_eq found
    rw [same]
    exact shown_of_reads accurate (settled.later k calls from_n read) close
  refine ⟨shown, ?_⟩
  intro quiescent pressed
  have answered := consistent.answered_at_rest quiescent
  have counted := started.reads_presses
  have some_answer : last.track.answers ≠ [] := by
    intro none
    rw [none] at answered
    simp at answered
    omega
  obtain ⟨answer, found, latest⟩ := sensor_event_ch_eq some_answer
  rw [latest]
  exact shown _ answer (by omega) found

/-! ### A platform -/

def nativeSim : Platform := ⟨fun _ => -22, fixedPointDriver, milli⟩

/-- The conversion to thousandths does not overflow. -/
theorem milli_toInt (value : SensorValue) : (milli value).toInt = value.val1.toInt * 1000 + value.val2.toInt.tdiv 1000 := by
  have low := value.val1.le_toInt
  have high := value.val1.toInt_lt
  have thousand : (1000 : Int64).toInt = 1000 := rfl
  have product : (value.val1.toInt64 * 1000).toInt = value.val1.toInt * 1000 := by
    rw [Int64.toInt_mul, Int32.toInt_toInt64, thousand]
    exact Int.bmod_eq_of_le (by omega) (by omega)
  have quotient : (value.val2.toInt64 / 1000).toInt = value.val2.toInt.tdiv 1000 := by
    rw [Int64.toInt_div_of_ne_right _ _ (by decide), Int32.toInt_toInt64, thousand]
  have small : (value.val2.toInt.tdiv 1000).natAbs ≤ value.val2.toInt.natAbs := by
    rw [Int.natAbs_tdiv]
    exact Nat.div_le_self _ _
  have least := value.val2.le_toInt
  have most := value.val2.toInt_lt
  rw [milli, Int64.toInt_add, product, quotient]
  exact Int.bmod_eq_of_le (by omega) (by omega)

theorem nativeSim_accurate : nativeSim.Accurate := ⟨fixedPointDriver_close, milli_toInt⟩

/-- A press, its read and its answer, with nothing on the bus in between. -/
def onePress : List SystemAction :=
  [.modules .Press, .modules .Take, .read ⟨7, 8, [], [0, 0, 0, 0], []⟩, .modules .Publish, .modules (.Led 0), .modules (.Led 0)]

/-- `sensor_emul set temp 22.5`, and a press after it. -/
theorem setting_shown_once : ∃ last,
    run (step nativeSim) (start staticData) (.set .Temp "22.5".toList :: onePress) = some last ∧
      Shown nativeSim .Temp 22.5 (sensor_event_ch last.track) := by
  have accepted : parse_micro "22.5".toList 0 = (22500000, .ok ()) := by decide
  have denotes : Denotes "22.5".toList 22.5 := ⟨warm, by decide, by decide +kernel⟩
  have executed := (rfl : run (step nativeSim) (start staticData) (.set .Temp "22.5".toList :: onePress) = some _)
  refine ⟨_, executed, ?_⟩
  have spared : ∀ a ∈ onePress, Spares (channel .Temp) a := by
    intro a member
    simp only [onePress, List.mem_cons, List.not_mem_nil, or_false] at member
    rcases member with rfl | rfl | rfl | rfl | rfl | rfl
    case inr.inr.inl => exact fun _ between => absurd between List.not_mem_nil
    all_goals exact trivial
  obtain ⟨_, latest⟩ := setting_shown nativeSim_accurate accepted denotes (by norm_num) (by decide +kernel)
    (show run (step nativeSim) (start staticData) [] = some _ from rfl) executed spared
  exact latest ⟨rfl, rfl, rfl⟩ (by decide)

end ZephyrWorkshop.TrackReadout
