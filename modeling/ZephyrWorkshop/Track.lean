import Mathlib.Data.UInt
import ZephyrWorkshop.Transition

/-!
The simulated test track, `samples/sim_test_track`: the sensor thread and the LED
thread behind their message queues. A publication appends a copy to the queue of
each subscriber, so a press waits in both queues and an answer in that of the
LED. Presses are numbered in the order of their publication; the numbers, and
the lists of answers and reads, are kept for the proofs only.
-/

namespace ZephyrWorkshop.Track

/-! ### Messages -/

/-- `enum button_event_type` -/
inductive ButtonEventType
  | Button0Pressed
deriving DecidableEq, Repr

/-- `struct button_event` -/
structure ButtonEvent where
  type : ButtonEventType
deriving DecidableEq, Repr

/-- `enum sensor_event_state` -/
inductive SensorEventState
  | Idle
  | Success
  | Error
deriving DecidableEq, Repr

/-- `struct sensor_event` -/
structure SensorEvent where
  state : SensorEventState
  temperature_milli_c : Int32
  humidity_milli_percent : Int32
  error : Int
deriving DecidableEq, Repr

/-- A message of the LED's subscriber, with the channel it comes from. -/
inductive LedMessage
  | Button (event : ButtonEvent)
  | Sensor (event : SensorEvent)
deriving DecidableEq, Repr

/-! ### The sensor module -/

/-- `struct sensor_value` -/
structure SensorValue where
  val1 : Int32
  val2 : Int32
deriving DecidableEq, Repr

/-- What the three driver calls of a read return where they are made, and what
    the two variables hold after the read; a call that fails or is not made
    leaves its variable as it was, that is, with any value. -/
structure DriverCalls where
  fetch : Int
  get_temperature : Int
  get_humidity : Int
  temperature : SensorValue
  humidity : SensorValue
deriving DecidableEq, Repr

/-- The event that `publish_event` puts together; `none` is `NULL`, and members
    that are not assigned are zero. `sensor_value_to_milli` is Zephyr's. -/
def publish_event (sensor_value_to_milli : SensorValue → Int64) (state : SensorEventState) (error : Int)
    (temperature humidity : Option SensorValue) : SensorEvent where
  state := state
  error := error
  temperature_milli_c := match temperature with
    | some value => (sensor_value_to_milli value).toInt32
    | none => 0
  humidity_milli_percent := match humidity with
    | some value => (sensor_value_to_milli value).toInt32
    | none => 0

/-- `read_count` and `error_count` -/
structure Counters where
  read_count : UInt32
  error_count : UInt32
deriving DecidableEq, Repr

/-- `err` after the three calls, each of them made only while it is 0. -/
def driver_error (calls : DriverCalls) : Int :=
  let err := calls.fetch
  let err := if err = 0 then calls.get_temperature else err
  if err = 0 then calls.get_humidity else err

/-- The counters after a read, and the event that it publishes last. -/
def perform_read (sensor_value_to_milli : SensorValue → Int64) (calls : DriverCalls) (counters : Counters) :
    Counters × SensorEvent :=
  let err := driver_error calls
  if err ≠ 0 then
    ({ counters with error_count := counters.error_count + 1 },
      publish_event sensor_value_to_milli .Error err none none)
  else
    ({ counters with read_count := counters.read_count + 1 },
      publish_event sensor_value_to_milli .Success 0 (some calls.temperature) (some calls.humidity))

/-! ### The LED module -/

/-- The LED after `gpio_pin_set_dt` returned `err`. -/
def set_output (err : Int) (on led : Bool) : Bool :=
  if err ≠ 0 then led else on

/-- One round of `led_thread`: the LED after the message, where `err` is what
    setting the pin returns. -/
def led_thread_round (err : Int) (message : LedMessage) (led : Bool) : Bool :=
  match message with
  | .Button event =>
    match event.type with
    | .Button0Pressed => set_output err true led
  | .Sensor event =>
    match event.state with
    | .Idle => set_output err false led
    | .Success => set_output err false led
    | .Error => set_output err false led

/-- Where the pin is set, every button event turns the LED on. -/
theorem led_thread_round_button (event : ButtonEvent) (led : Bool) : led_thread_round 0 (.Button event) led = true := by
  obtain ⟨type⟩ := event
  cases type
  rfl

/-- Where the pin is set, every sensor event turns the LED off. -/
theorem led_thread_round_sensor (event : SensorEvent) (led : Bool) : led_thread_round 0 (.Sensor event) led = false := by
  obtain ⟨state, _, _, _⟩ := event
  cases state <;> rfl

/-! ### The system -/

/-- A button event in the queue of the sensor thread, and the number of its press. -/
structure Queued where
  press : Nat
  event : ButtonEvent
deriving DecidableEq, Repr

/-- An event on `sensor_event_ch`, and the press whose read it ends. -/
structure Answer where
  press : Nat
  event : SensorEvent
deriving DecidableEq, Repr

/-- Where the sensor thread is: at `zbus_sub_wait_msg`, in the read for a press,
    or about to publish the result. -/
inductive SensorThread
  | Waiting
  | Reading (press : Nat)
  | Publishing (answer : Answer)
deriving DecidableEq, Repr

structure TrackState where
  button_subscriber : List Queued
  led_subscriber : List LedMessage
  sensor : SensorThread
  counters : Counters
  led : Bool
  /-- How many button events were published. -/
  presses : Nat
  /-- What was published on `sensor_event_ch`. -/
  answers : List Answer
  /-- The driver calls of all reads. -/
  reads : List DriverCalls
deriving DecidableEq, Repr

/-- Nothing is pressed yet, and the LED was configured inactive. -/
def initial : TrackState := ⟨[], [], .Waiting, ⟨0, 0⟩, false, 0, [], []⟩

/-- A button event is published; the sensor thread takes one, makes its driver
    calls, or publishes the result; the LED thread handles one message, and
    setting the pin returns `err`. -/
inductive TrackAction
  | Press
  | Take
  | Read (calls : DriverCalls)
  | Publish
  | Led (err : Int)
deriving DecidableEq, Repr

/-- A publication on `button_event_ch`, which both threads observe. -/
def pub_button_event (s : TrackState) (event : ButtonEvent) : TrackState :=
  { s with
    button_subscriber := s.button_subscriber ++ [⟨s.presses, event⟩]
    led_subscriber := s.led_subscriber ++ [.Button event]
    presses := s.presses + 1 }

/-- A publication on `sensor_event_ch`, which the LED thread observes. -/
def pub_sensor_event (s : TrackState) (answer : Answer) : TrackState :=
  { s with
    led_subscriber := s.led_subscriber ++ [.Sensor answer.event]
    answers := s.answers ++ [answer] }

variable (sensor_value_to_milli : SensorValue → Int64)

def step (s : TrackState) : TrackAction → Option TrackState
  | .Press => some (pub_button_event s ⟨.Button0Pressed⟩)
  | .Take =>
    match s.sensor, s.button_subscriber with
    | .Waiting, message :: rest =>
      match message.event.type with
      | .Button0Pressed => some { s with button_subscriber := rest, sensor := .Reading message.press }
    | _, _ => none
  | .Read calls =>
    match s.sensor with
    | .Reading press =>
      let result := perform_read sensor_value_to_milli calls s.counters
      some { s with
        sensor := .Publishing ⟨press, result.2⟩, counters := result.1, reads := s.reads ++ [calls] }
    | _ => none
  | .Publish =>
    match s.sensor with
    | .Publishing answer => some { pub_sensor_event s answer with sensor := .Waiting }
    | _ => none
  | .Led err =>
    match s.led_subscriber with
    | message :: rest => some { s with led_subscriber := rest, led := led_thread_round err message s.led }
    | [] => none

/-- Setting the pin succeeds wherever it is tried. -/
def PinSet : TrackAction → Prop
  | .Led err => err = 0
  | _ => True

instance : DecidablePred PinSet
  | .Led err => inferInstanceAs (Decidable (err = 0))
  | .Press | .Take | .Read _ | .Publish => .isTrue trivial

/-! ### What one step does -/

/-- The steps of the system, with all that each of them changes. -/
theorem step_cases {s next : TrackState} {a : TrackAction} (taken : step sensor_value_to_milli s a = some next) :
    (a = .Press ∧ next = pub_button_event s ⟨.Button0Pressed⟩) ∨
    (∃ message rest, a = .Take ∧ s.sensor = .Waiting ∧ s.button_subscriber = message :: rest ∧
      next = { s with button_subscriber := rest, sensor := .Reading message.press }) ∨
    (∃ calls press, a = .Read calls ∧ s.sensor = .Reading press ∧
      next = { s with
        sensor := .Publishing ⟨press, (perform_read sensor_value_to_milli calls s.counters).2⟩
        counters := (perform_read sensor_value_to_milli calls s.counters).1
        reads := s.reads ++ [calls] }) ∨
    (∃ answer, a = .Publish ∧ s.sensor = .Publishing answer ∧
      next = { pub_sensor_event s answer with sensor := .Waiting }) ∨
    (∃ err message rest, a = .Led err ∧ s.led_subscriber = message :: rest ∧
      next = { s with led_subscriber := rest, led := led_thread_round err message s.led }) := by
  cases a with
  | Press => exact .inl ⟨rfl, (Option.some.inj taken).symm⟩
  | Take =>
    simp only [step] at taken
    split at taken
    · rename_i message rest waiting queue
      exact .inr (.inl ⟨message, rest, rfl, waiting, queue, (Option.some.inj taken).symm⟩)
    · cases taken
  | Read calls =>
    simp only [step] at taken
    split at taken
    · rename_i press reading
      exact .inr (.inr (.inl ⟨calls, press, rfl, reading, (Option.some.inj taken).symm⟩))
    · cases taken
  | Publish =>
    simp only [step] at taken
    split at taken
    · rename_i answer publishing
      exact .inr (.inr (.inr (.inl ⟨answer, rfl, publishing, (Option.some.inj taken).symm⟩)))
    · cases taken
  | Led err =>
    simp only [step] at taken
    split at taken
    · rename_i message rest queue
      exact .inr (.inr (.inr (.inr ⟨err, message, rest, rfl, queue, (Option.some.inj taken).symm⟩)))
    · cases taken

/-! ### What the LED has queued -/

/-- The LED once its thread has handled all that is queued and has set the pin
    every time. -/
def drained (s : TrackState) : Bool := s.led_subscriber.foldl (fun led message => led_thread_round 0 message led) s.led

/-- With nothing queued, the LED is where its thread left it. -/
theorem drained_of_empty {s : TrackState} (empty : s.led_subscriber = []) : drained s = s.led := by
  rw [drained, empty]
  rfl

/-- After a press the LED will be on. -/
theorem drained_pub_button_event (s : TrackState) (event : ButtonEvent) : drained (pub_button_event s event) = true := by
  simp [drained, pub_button_event, led_thread_round_button]

/-- After an answer the LED will be off. -/
theorem drained_pub_sensor_event (s : TrackState) (answer : Answer) : drained (pub_sensor_event s answer) = false := by
  simp [drained, pub_sensor_event, led_thread_round_sensor]

/-- The rounds of the LED thread bring the LED to where it will be. -/
theorem drained_led {s : TrackState} {message : LedMessage} {rest : List LedMessage}
    (queue : s.led_subscriber = message :: rest) :
    drained { s with led_subscriber := rest, led := led_thread_round 0 message s.led } = drained s := by
  rw [drained, drained, queue]
  rfl

end ZephyrWorkshop.Track
