import Mathlib.Logic.Function.Basic
import ZephyrWorkshop.TrackAnswers
import ZephyrWorkshop.Zephyr

/-!
The sensor module of the simulated test track with both of its readers. The
command `sensor read` runs `perform_read` in the shell's thread while the sensor
thread runs it for a press, so that the two reads interleave: here a read is
split where the other thread may come in between, and counting is a load and a
store. Every publication succeeds.
-/

namespace ZephyrWorkshop.TrackReaders
open ZephyrWorkshop.Zephyr ZephyrWorkshop.Transition ZephyrWorkshop.Track ZephyrWorkshop.TrackAnswers

/-! ### The two readers -/

/-- Who runs `perform_read`. -/
inductive Thread
  | Sensor
  | Shell
deriving DecidableEq, Repr

/-- Where a thread is in `perform_read`, and the number of the request that it
    reads for: about to make the driver calls, to load the count, to store it one
    higher, or to publish. -/
inductive Reader
  | Idle
  | Fetching (request : Nat)
  | Fetched (request : Nat) (calls : DriverCalls)
  | Loaded (request : Nat) (calls : DriverCalls) (count : UInt32)
  | Publishing (request : Nat) (event : SensorEvent)
deriving DecidableEq, Repr

/-- An event on `sensor_event_ch`, and the request that it answers. -/
structure Reply where
  thread : Thread
  request : Nat
  event : SensorEvent
deriving DecidableEq, Repr

structure ReadersState where
  /-- Whether `sensor_device` is assigned. -/
  sensor_device : Bool
  button_subscriber : List Queued
  led_subscriber : List LedMessage
  reader : Thread → Reader
  counters : Counters
  led : Bool
  /-- How many button events were published. -/
  presses : Nat
  /-- How many requests each thread has begun to read for. -/
  asked : Thread → Nat
  /-- What was published on `sensor_event_ch`. -/
  replies : List Reply
  /-- The driver calls of all reads that are counted. -/
  reads : List (Thread × DriverCalls)

def initial : ReadersState := ⟨false, [], [], fun _ => .Idle, ⟨0, 0⟩, false, 0, fun _ => 0, [], []⟩

/-- The sensor thread starts and takes a button event; a button event is
    published; the command is given; a thread goes on with its read; the LED
    thread handles one message, and setting the pin returns `err`. -/
inductive ReadersAction
  | Start
  | Take
  | Press
  | Command
  | Fetch (thread : Thread) (calls : DriverCalls)
  | Load (thread : Thread)
  | Store (thread : Thread)
  | Publish (thread : Thread)
  | Led (err : Int)
deriving DecidableEq, Repr

/-- The counter that a read counts in. -/
def counter (calls : DriverCalls) (counters : Counters) : UInt32 :=
  if driver_error calls ≠ 0 then counters.error_count else counters.read_count

def setCounter (calls : DriverCalls) (count : UInt32) (counters : Counters) : Counters :=
  if driver_error calls ≠ 0 then { counters with error_count := count } else { counters with read_count := count }

def ENODEV : Int := 19

/-- `sensor read` where it does not read; otherwise it goes on to `perform_read` and returns 0. -/
def cmd_sensor_read (device_ready : Bool) (s : ReadersState) : Option ShellAnswer :=
  if !s.sensor_device || !device_ready then some ([.error "Sensor device not ready" []], -ENODEV) else none

def ReadersState.go (s : ReadersState) (thread : Thread) (reader : Reader) : ReadersState :=
  { s with reader := Function.update s.reader thread reader }

/-- A thread begins a read for its next request. -/
def ReadersState.begin (s : ReadersState) (thread : Thread) : ReadersState :=
  { s.go thread (.Fetching (s.asked thread)) with asked := Function.update s.asked thread (s.asked thread + 1) }

variable (sensor_value_to_milli : SensorValue → Int64) (device_ready : Bool)

/-- The sensor thread returns at once where the device is not ready. -/
def step (s : ReadersState) : ReadersAction → Option ReadersState
  | .Start => if s.sensor_device then none else some { s with sensor_device := true }
  | .Take =>
    match s.sensor_device && device_ready, s.reader .Sensor, s.button_subscriber with
    | true, .Idle, message :: rest =>
      match message.event.type with
      | .Button0Pressed => some { s.begin .Sensor with button_subscriber := rest }
    | _, _, _ => none
  | .Press =>
    some { s with
      button_subscriber := s.button_subscriber ++ [⟨s.presses, ⟨.Button0Pressed⟩⟩]
      led_subscriber := s.led_subscriber ++ [.Button ⟨.Button0Pressed⟩]
      presses := s.presses + 1 }
  | .Command =>
    match s.reader .Shell, cmd_sensor_read device_ready s with
    | .Idle, some _ => some s
    | .Idle, none => some (s.begin .Shell)
    | _, _ => none
  | .Fetch thread calls =>
    match s.reader thread with
    | .Fetching request => some (s.go thread (.Fetched request calls))
    | _ => none
  | .Load thread =>
    match s.reader thread with
    | .Fetched request calls => some (s.go thread (.Loaded request calls (counter calls s.counters)))
    | _ => none
  | .Store thread =>
    match s.reader thread with
    | .Loaded request calls count =>
      some { s.go thread (.Publishing request (perform_read sensor_value_to_milli calls s.counters).2) with
        counters := setCounter calls (count + 1) s.counters
        reads := s.reads ++ [(thread, calls)] }
    | _ => none
  | .Publish thread =>
    match s.reader thread with
    | .Publishing request event =>
      some { s.go thread .Idle with
        led_subscriber := s.led_subscriber ++ [.Sensor event]
        replies := s.replies ++ [⟨thread, request, event⟩] }
    | _ => none
  | .Led err =>
    match s.led_subscriber with
    | message :: rest => some { s with led_subscriber := rest, led := led_thread_round err message s.led }
    | [] => none

/-- Setting the pin succeeds wherever it is tried. -/
def PinSet : ReadersAction → Prop
  | .Led err => err = 0
  | _ => True

instance decidablePinSet : DecidablePred PinSet
  | .Led err => inferInstanceAs (Decidable (err = 0))
  | .Start | .Take | .Press | .Command | .Fetch _ _ | .Load _ | .Store _ | .Publish _ => .isTrue trivial

/-! ### What one step does -/

variable {sensor_value_to_milli device_ready}

/-- The steps, with all that each of them changes. -/
theorem step_cases {s next : ReadersState} {a : ReadersAction}
    (taken : step sensor_value_to_milli device_ready s a = some next) :
    (a = .Start ∧ next = { s with sensor_device := true }) ∨
    (∃ message rest, a = .Take ∧ device_ready = true ∧ s.reader .Sensor = .Idle ∧
      s.button_subscriber = message :: rest ∧ next = { s.begin .Sensor with button_subscriber := rest }) ∨
    (a = .Press ∧ next = { s with
      button_subscriber := s.button_subscriber ++ [⟨s.presses, ⟨.Button0Pressed⟩⟩]
      led_subscriber := s.led_subscriber ++ [.Button ⟨.Button0Pressed⟩]
      presses := s.presses + 1 }) ∨
    (a = .Command ∧ (next = s ∨ device_ready = true ∧ s.reader .Shell = .Idle ∧ next = s.begin .Shell)) ∨
    (∃ thread calls request, a = .Fetch thread calls ∧ s.reader thread = .Fetching request ∧
      next = s.go thread (.Fetched request calls)) ∨
    (∃ thread request calls, a = .Load thread ∧ s.reader thread = .Fetched request calls ∧
      next = s.go thread (.Loaded request calls (counter calls s.counters))) ∨
    (∃ thread request calls count, a = .Store thread ∧ s.reader thread = .Loaded request calls count ∧
      next = { s.go thread (.Publishing request (eventOf sensor_value_to_milli calls)) with
        counters := setCounter calls (count + 1) s.counters
        reads := s.reads ++ [(thread, calls)] }) ∨
    (∃ thread request event, a = .Publish thread ∧ s.reader thread = .Publishing request event ∧
      next = { s.go thread .Idle with
        led_subscriber := s.led_subscriber ++ [.Sensor event]
        replies := s.replies ++ [⟨thread, request, event⟩] }) ∨
    (∃ err message rest, a = .Led err ∧ s.led_subscriber = message :: rest ∧
      next = { s with led_subscriber := rest, led := led_thread_round err message s.led }) := by
  cases a with
  | Start =>
    simp only [step] at taken
    split at taken
    · cases taken
    · exact .inl ⟨rfl, (Option.some.inj taken).symm⟩
  | Take =>
    simp only [step] at taken
    split at taken
    · rename_i message rest started idle queue
      exact .inr (.inl ⟨message, rest, rfl, (Bool.and_eq_true_iff.mp started).2, idle, queue,
        (Option.some.inj taken).symm⟩)
    · cases taken
  | Press => exact .inr (.inr (.inl ⟨rfl, (Option.some.inj taken).symm⟩))
  | Command =>
    simp only [step] at taken
    split at taken
    · exact .inr (.inr (.inr (.inl ⟨rfl, .inl (Option.some.inj taken).symm⟩)))
    · rename_i idle accepted
      have ready : device_ready = true := by
        rw [cmd_sensor_read] at accepted
        split at accepted
        · cases accepted
        · rename_i missing
          simp only [Bool.not_eq_true', Bool.or_eq_true, not_or, Bool.not_eq_false] at missing
          exact missing.2
      exact .inr (.inr (.inr (.inl ⟨rfl, .inr ⟨ready, idle, (Option.some.inj taken).symm⟩⟩)))
    · cases taken
  | Fetch thread calls =>
    simp only [step] at taken
    split at taken
    · rename_i request fetching
      exact .inr (.inr (.inr (.inr (.inl ⟨thread, calls, request, rfl, fetching, (Option.some.inj taken).symm⟩))))
    · cases taken
  | Load thread =>
    simp only [step] at taken
    split at taken
    · rename_i request calls fetched
      exact .inr (.inr (.inr (.inr (.inr (.inl
        ⟨thread, request, calls, rfl, fetched, (Option.some.inj taken).symm⟩)))))
    · cases taken
  | Store thread =>
    simp only [step, perform_read_event] at taken
    split at taken
    · rename_i request calls count loaded
      exact .inr (.inr (.inr (.inr (.inr (.inr (.inl
        ⟨thread, request, calls, count, rfl, loaded, (Option.some.inj taken).symm⟩))))))
    · cases taken
  | Publish thread =>
    simp only [step] at taken
    split at taken
    · rename_i request event publishing
      exact .inr (.inr (.inr (.inr (.inr (.inr (.inr (.inl
        ⟨thread, request, event, rfl, publishing, (Option.some.inj taken).symm⟩)))))))
    · cases taken
  | Led err =>
    simp only [step] at taken
    split at taken
    · rename_i message rest queue
      exact .inr (.inr (.inr (.inr (.inr (.inr (.inr (.inr
        ⟨err, message, rest, rfl, queue, (Option.some.inj taken).symm⟩)))))))
    · cases taken

theorem go_self (s : ReadersState) (thread : Thread) (reader : Reader) : (s.go thread reader).reader thread = reader :=
  Function.update_self _ _ _

theorem go_other (s : ReadersState) {thread other : Thread} (different : other ≠ thread) (reader : Reader) :
    (s.go thread reader).reader other = s.reader other :=
  Function.update_of_ne different _ _

theorem begin_asked (s : ReadersState) (thread : Thread) : (s.begin thread).asked thread = s.asked thread + 1 :=
  Function.update_self _ _ _

theorem begin_asked_other (s : ReadersState) {thread other : Thread} (different : other ≠ thread) :
    (s.begin thread).asked other = s.asked other :=
  Function.update_of_ne different _ _

end ZephyrWorkshop.TrackReaders
