import ZephyrWorkshop.Track

/-!
Answers on the simulated test track. The presses that are not answered yet are
numbered without a gap, from the one that is being read to the last one in the
queue of the sensor thread (`Consistent`). Every step keeps this, and with it
that the answers come one for each press and in order.
-/

namespace ZephyrWorkshop.TrackAnswers
open ZephyrWorkshop.Transition ZephyrWorkshop.Track

variable (sensor_value_to_milli : SensorValue → Int64)

/-- The event that a read with these driver calls publishes. -/
def eventOf (calls : DriverCalls) : SensorEvent := (perform_read sensor_value_to_milli calls ⟨0, 0⟩).2

/-- The press that the sensor thread is busy with. -/
def inService : SensorThread → List Nat
  | .Waiting => []
  | .Reading press => [press]
  | .Publishing answer => [answer.press]

/-- The event that the sensor thread is about to publish. -/
def inHand : SensorThread → List SensorEvent
  | .Publishing answer => [answer.event]
  | _ => []

/-- What holds between any two steps. -/
structure Consistent (s : TrackState) : Prop where
  answered_le : s.answers.length ≤ s.presses
  queued : inService s.sensor ++ s.button_subscriber.map Queued.press =
    List.range' s.answers.length (s.presses - s.answers.length)
  numbered : s.answers.map Answer.press = List.range s.answers.length
  events : s.answers.map Answer.event ++ inHand s.sensor = s.reads.map (eventOf sensor_value_to_milli)
  counted : s.counters.read_count + s.counters.error_count = UInt32.ofNat s.reads.length

theorem consistent_initial : Consistent sensor_value_to_milli initial := by
  constructor <;> simp [initial, inService, inHand]

/-- A read does not depend on the counters but for counting itself. -/
theorem perform_read_event (calls : DriverCalls) (counters : Counters) :
    (perform_read sensor_value_to_milli calls counters).2 = eventOf sensor_value_to_milli calls := by
  unfold eventOf perform_read
  dsimp only
  split <;> rfl

theorem perform_read_counts (calls : DriverCalls) (counters : Counters) :
    (perform_read sensor_value_to_milli calls counters).1.read_count +
      (perform_read sensor_value_to_milli calls counters).1.error_count =
      counters.read_count + counters.error_count + 1 := by
  unfold perform_read
  dsimp only
  split
  · rw [UInt32.add_assoc]
  · dsimp only
    rw [UInt32.add_assoc, UInt32.add_comm 1, ← UInt32.add_assoc]

variable {sensor_value_to_milli}

/-- A press is the last one in both queues. -/
theorem Consistent.press {s : TrackState} (consistent : Consistent sensor_value_to_milli s) :
    Consistent sensor_value_to_milli (pub_button_event s ⟨.Button0Pressed⟩) := by
  obtain ⟨answered_le, queued, numbered, events, counted⟩ := consistent
  refine ⟨Nat.le_succ_of_le answered_le, ?_, numbered, events, counted⟩
  have last : s.answers.length + (s.presses - s.answers.length) = s.presses := by omega
  have longer : s.presses + 1 - s.answers.length = s.presses - s.answers.length + 1 := by omega
  show inService s.sensor ++ (s.button_subscriber ++ [Queued.mk s.presses ⟨.Button0Pressed⟩]).map Queued.press =
    List.range' s.answers.length (s.presses + 1 - s.answers.length)
  rw [List.map_append, ← List.append_assoc, queued, longer, List.range'_concat, Nat.one_mul, last]
  rfl

/-- The press that is taken moves from the queue into the read. -/
theorem Consistent.take {s : TrackState} (consistent : Consistent sensor_value_to_milli s) {message : Queued}
    {rest : List Queued} (waiting : s.sensor = .Waiting) (queue : s.button_subscriber = message :: rest) :
    Consistent sensor_value_to_milli { s with button_subscriber := rest, sensor := .Reading message.press } := by
  obtain ⟨answered_le, queued, numbered, events, counted⟩ := consistent
  rw [waiting, queue] at queued
  rw [waiting] at events
  exact ⟨answered_le, queued, numbered, events, counted⟩

/-- A read is counted, and its event is in hand. -/
theorem Consistent.read {s : TrackState} (consistent : Consistent sensor_value_to_milli s) {press : Nat}
    (reading : s.sensor = .Reading press) (calls : DriverCalls) :
    Consistent sensor_value_to_milli
      { s with
        sensor := .Publishing ⟨press, (perform_read sensor_value_to_milli calls s.counters).2⟩
        counters := (perform_read sensor_value_to_milli calls s.counters).1
        reads := s.reads ++ [calls] } := by
  obtain ⟨answered_le, queued, numbered, events, counted⟩ := consistent
  rw [reading] at queued events
  refine ⟨answered_le, queued, numbered, ?_, ?_⟩
  · have events : s.answers.map Answer.event ++ [] = _ := events
    rw [List.append_nil] at events
    show s.answers.map Answer.event ++ [_] = (s.reads ++ [calls]).map (eventOf sensor_value_to_milli)
    rw [events, List.map_append, perform_read_event]
    rfl
  · show _ = UInt32.ofNat (s.reads ++ [calls]).length
    rw [perform_read_counts, counted, List.length_append, UInt32.ofNat_add]
    rfl

/-- The oldest press that is not answered gets its answer. -/
theorem Consistent.publish {s : TrackState} (consistent : Consistent sensor_value_to_milli s) {answer : Answer}
    (publishing : s.sensor = .Publishing answer) :
    Consistent sensor_value_to_milli { pub_sensor_event s answer with sensor := .Waiting } := by
  obtain ⟨answered_le, queued, numbered, events, counted⟩ := consistent
  rw [publishing] at queued events
  cases pending : s.presses - s.answers.length with
  | zero =>
    rw [pending] at queued
    cases queued
  | succ left =>
    rw [pending, List.range'_succ] at queued
    obtain ⟨oldest, rest⟩ := List.cons.inj queued
    refine ⟨?_, ?_, ?_, ?_, counted⟩
    · show (s.answers ++ [answer]).length ≤ s.presses
      simp only [List.length_append, List.length_singleton]
      omega
    · show s.button_subscriber.map Queued.press =
        List.range' (s.answers ++ [answer]).length (s.presses - (s.answers ++ [answer]).length)
      have fewer : s.presses - (s.answers.length + 1) = left := by omega
      rw [List.length_append, List.length_singleton, fewer]
      exact rest
    · show (s.answers ++ [answer]).map Answer.press = List.range (s.answers ++ [answer]).length
      rw [List.map_append, numbered, List.length_append, List.length_singleton, List.range_succ, ← oldest]
      rfl
    · show (s.answers ++ [answer]).map Answer.event ++ [] = s.reads.map (eventOf sensor_value_to_milli)
      rw [List.append_nil, List.map_append, ← events]
      rfl

theorem step_consistent {s next : TrackState} {a : TrackAction} (consistent : Consistent sensor_value_to_milli s)
    (taken : step sensor_value_to_milli s a = some next) : Consistent sensor_value_to_milli next := by
  rcases step_cases sensor_value_to_milli taken with ⟨_, rfl⟩ | ⟨message, rest, _, waiting, queue, rfl⟩ |
    ⟨calls, press, _, reading, rfl⟩ | ⟨answer, _, publishing, rfl⟩ | ⟨_, message, rest, _, queue, rfl⟩
  · exact consistent.press
  · exact consistent.take waiting queue
  · exact consistent.read reading calls
  · exact consistent.publish publishing
  · -- the LED thread handles a message that was counted in already
    obtain ⟨answered_le, queued, numbered, events, counted⟩ := consistent
    exact ⟨answered_le, queued, numbered, events, counted⟩

theorem run_consistent {acts : List TrackAction} {s : TrackState}
    (executed : run (step sensor_value_to_milli) initial acts = some s) : Consistent sensor_value_to_milli s :=
  run_preserves (fun _ _ _ kept taken => step_consistent kept taken) (consistent_initial sensor_value_to_milli) executed

/-! ### One answer for each press -/

/-- The code of the first driver call that fails. -/
def firstFailure (calls : DriverCalls) : Option Int :=
  [calls.fetch, calls.get_temperature, calls.get_humidity].find? (· ≠ 0)

/-- What an event says about the read that it ends: both converted values where
    all three calls succeeded, and the first failing code everywhere else. -/
structure Reports (sensor_value_to_milli : SensorValue → Int64) (calls : DriverCalls) (event : SensorEvent) : Prop where
  success_iff : event.state = .Success ↔ calls.fetch = 0 ∧ calls.get_temperature = 0 ∧ calls.get_humidity = 0
  measured : event.state = .Success →
    event.temperature_milli_c = (sensor_value_to_milli calls.temperature).toInt32 ∧
      event.humidity_milli_percent = (sensor_value_to_milli calls.humidity).toInt32
  failed : event.state ≠ .Success → event.state = .Error ∧ firstFailure calls = some event.error ∧
    event.temperature_milli_c = 0 ∧ event.humidity_milli_percent = 0

theorem eventOf_reports (calls : DriverCalls) :
    Reports sensor_value_to_milli calls (eventOf sensor_value_to_milli calls) := by
  obtain ⟨fetch, get_temperature, get_humidity, temperature, humidity⟩ := calls
  by_cases fetched : fetch = 0
  · by_cases gotTemperature : get_temperature = 0
    · by_cases gotHumidity : get_humidity = 0
      · subst fetched gotTemperature gotHumidity
        exact ⟨⟨fun _ => ⟨rfl, rfl, rfl⟩, fun _ => rfl⟩, fun _ => ⟨rfl, rfl⟩, fun other => absurd rfl other⟩
      · constructor <;>
          simp [eventOf, perform_read, driver_error, publish_event, firstFailure, fetched, gotTemperature, gotHumidity]
    · constructor <;>
        simp [eventOf, perform_read, driver_error, publish_event, firstFailure, fetched, gotTemperature]
  · constructor <;> simp [eventOf, perform_read, driver_error, publish_event, firstFailure, fetched]

/-- Presses that were taken from the queue and are not counted yet. -/
def uncounted : SensorThread → Nat
  | .Reading _ => 1
  | _ => 0

/-- Nothing is queued and no read is in service. -/
structure Quiescent (s : TrackState) : Prop where
  sensor : s.sensor = .Waiting
  button_subscriber : s.button_subscriber = []
  led_subscriber : s.led_subscriber = []

theorem Consistent.presses_eq {s : TrackState} (consistent : Consistent sensor_value_to_milli s) :
    s.presses = s.answers.length + (inService s.sensor).length + s.button_subscriber.length := by
  have lengths := congrArg List.length consistent.queued
  simp only [List.length_append, List.length_map, List.length_range'] at lengths
  have := consistent.answered_le
  omega

theorem Consistent.reads_eq {s : TrackState} (consistent : Consistent sensor_value_to_milli s) :
    s.reads.length = s.answers.length + (inHand s.sensor).length := by
  have lengths := congrArg List.length consistent.events
  simpa using lengths.symm

/-- The `k`-th answer carries the event of the `k`-th read. -/
theorem Consistent.event_eq {s : TrackState} (consistent : Consistent sensor_value_to_milli s) {k : Nat}
    {answer : Answer} (found : s.answers[k]? = some answer) :
    ∃ calls, s.reads[k]? = some calls ∧ answer.event = eventOf sensor_value_to_milli calls := by
  have published : (s.reads.map (eventOf sensor_value_to_milli))[k]? = some answer.event := by
    obtain ⟨bound, _⟩ := List.getElem?_eq_some_iff.mp found
    rw [← consistent.events, List.getElem?_append_left (by rwa [List.length_map]), List.getElem?_map, found]
    rfl
  rw [List.getElem?_map] at published
  obtain ⟨calls, read, same⟩ := Option.map_eq_some_iff.mp published
  exact ⟨calls, read, same.symm⟩

theorem inService_length (sensor : SensorThread) :
    (inService sensor).length = (inHand sensor).length + uncounted sensor := by
  cases sensor <;> rfl

/-- Every press is read, taken and not counted yet, or queued. -/
theorem Consistent.reads_presses {s : TrackState} (consistent : Consistent sensor_value_to_milli s) :
    s.presses = s.reads.length + (s.button_subscriber.length + uncounted s.sensor) := by
  have pressed := consistent.presses_eq
  have readEvents := consistent.reads_eq
  have busy := inService_length s.sensor
  omega

theorem Consistent.counts {s : TrackState} (consistent : Consistent sensor_value_to_milli s) :
    s.counters.read_count + s.counters.error_count + UInt32.ofNat (s.button_subscriber.length + uncounted s.sensor) =
      UInt32.ofNat s.presses := by
  rw [consistent.counted, ← UInt32.ofNat_add, ← consistent.reads_presses]

theorem Consistent.answered_at_rest {s : TrackState} (consistent : Consistent sensor_value_to_milli s)
    (quiescent : Quiescent s) : s.answers.length = s.presses := by
  have pressed := consistent.presses_eq
  rw [quiescent.sensor, quiescent.button_subscriber] at pressed
  exact pressed.symm

/-! ### The LED at rest -/

/-- Once all is handled, the LED is on only while a press is not answered. -/
def Lit (s : TrackState) : Prop := drained s = true → s.answers.length < s.presses

theorem step_lit {s next : TrackState} {a : TrackAction}
    (holds : Consistent sensor_value_to_milli s ∧ Lit s) (pinSet : PinSet a)
    (taken : step sensor_value_to_milli s a = some next) : Consistent sensor_value_to_milli next ∧ Lit next := by
  obtain ⟨consistent, lit⟩ := holds
  refine ⟨step_consistent consistent taken, ?_⟩
  rcases step_cases sensor_value_to_milli taken with ⟨_, rfl⟩ | ⟨message, rest, _, _, _, rfl⟩ |
    ⟨calls, press, _, _, rfl⟩ | ⟨answer, _, _, rfl⟩ | ⟨err, message, rest, rfl, queue, rfl⟩
  · intro _
    exact Nat.lt_succ_of_le consistent.answered_le
  · exact lit
  · exact lit
  · intro on
    have off := drained_pub_sensor_event s answer
    exact absurd (on.symm.trans off) (by decide)
  · intro on
    have succeeds : err = 0 := pinSet
    rw [succeeds, drained_led queue] at on
    exact lit on

theorem run_lit {acts : List TrackAction} {s : TrackState}
    (executed : run (step sensor_value_to_milli) initial acts = some s) (pinSet : ∀ a ∈ acts, PinSet a) : Lit s := by
  have start : Consistent sensor_value_to_milli initial ∧ Lit initial :=
    ⟨consistent_initial sensor_value_to_milli, fun on => absurd on (by decide)⟩
  exact (run_preserves_of_mem (fun _ _ _ holds set taken => step_lit holds set taken) start pinSet executed).2

/-- In every run, the answers come one for each press and in order, each says
    what its read found, the counters count every press that is not queued (nor
    just taken), and at rest every press is answered and the LED, where the pin
    could be set, is off. -/
theorem one_answer_per_press {acts : List TrackAction} {s : TrackState}
    (executed : run (step sensor_value_to_milli) initial acts = some s) :
    s.answers.map Answer.press = List.range s.answers.length ∧
    (∀ (k : Nat) (answer : Answer), s.answers[k]? = some answer →
      ∃ calls, s.reads[k]? = some calls ∧ Reports sensor_value_to_milli calls answer.event) ∧
    s.counters.read_count + s.counters.error_count + UInt32.ofNat (s.button_subscriber.length + uncounted s.sensor) =
      UInt32.ofNat s.presses ∧
    (s.sensor = .Waiting →
      s.counters.read_count + s.counters.error_count + UInt32.ofNat s.button_subscriber.length =
        UInt32.ofNat s.presses) ∧
    (Quiescent s → s.answers.length = s.presses) ∧
    (Quiescent s → (∀ a ∈ acts, PinSet a) → s.led = false) := by
  have consistent := run_consistent executed
  refine ⟨consistent.numbered, ?_, consistent.counts, ?_, consistent.answered_at_rest, ?_⟩
  · intro k answer found
    obtain ⟨calls, read, same⟩ := consistent.event_eq found
    refine ⟨calls, read, ?_⟩
    rw [same]
    exact eventOf_reports calls
  · intro waiting
    have counts := consistent.counts
    rwa [waiting] at counts
  · intro quiescent pinSet
    have answered := consistent.answered_at_rest quiescent
    rw [← drained_of_empty quiescent.led_subscriber, ← Bool.not_eq_true]
    intro on
    have unanswered := run_lit executed pinSet on
    omega

/-- The calls of a read that succeeds at once. -/
def warmRead : DriverCalls := ⟨0, 0, 0, ⟨21, 500000⟩, ⟨40, 0⟩⟩

/-- Whole units to thousandths, as `sensor_value_to_milli` converts them. -/
def milli (value : SensorValue) : Int64 := value.val1.toInt64 * 1000 + value.val2.toInt64 / 1000

/-- The calls of a read whose fetch fails. -/
def failedRead : DriverCalls := ⟨-5, 0, 0, ⟨0, 0⟩, ⟨0, 0⟩⟩

/-- Two presses before the first read, and a second read that fails. -/
def twoPresses : List TrackAction :=
  [.Press, .Press, .Take, .Read warmRead, .Led 0, .Publish, .Take, .Led 0, .Read failedRead, .Publish, .Led 0, .Led 0]

theorem one_answer_per_press_twice :
    ∃ s, run (step milli) initial twoPresses = some s ∧ s.presses = 2 ∧ s.counters = ⟨1, 1⟩ ∧
      s.answers.map Answer.press = List.range s.answers.length ∧ s.answers.length = s.presses ∧ s.led = false := by
  have executed := (rfl : run (step milli) initial twoPresses = some _)
  obtain ⟨numbered, _, _, _, answered, off⟩ := one_answer_per_press executed
  exact ⟨_, executed, rfl, rfl, numbered, answered ⟨rfl, rfl, rfl⟩, off ⟨rfl, rfl, rfl⟩ (by decide)⟩

end ZephyrWorkshop.TrackAnswers
