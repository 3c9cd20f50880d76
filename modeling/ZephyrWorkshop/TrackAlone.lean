import ZephyrWorkshop.TrackReplies

/-!
The sensor thread alone. Without the command, nothing comes between the load and
the store of a count, and the module with its reads split reaches nothing that the
test track does not reach with its reads in one step (`refines_track`).
-/

namespace ZephyrWorkshop.TrackAlone
open ZephyrWorkshop.Transition ZephyrWorkshop.TrackReaders ZephyrWorkshop.TrackReplies
open ZephyrWorkshop.Track (SensorValue DriverCalls Counters TrackState SensorThread perform_read driver_error)
open ZephyrWorkshop.TrackAnswers (eventOf perform_read_event warmRead failedRead milli)

variable {sensor_value_to_milli : SensorValue → Int64} {device_ready : Bool}

/-- What the sensor thread is seen to do where a read counts in one step. -/
def sensorThread : Reader → SensorThread
  | .Idle => .Waiting
  | .Fetching request | .Fetched request _ | .Loaded request _ _ => .Reading request
  | .Publishing request event => .Publishing ⟨request, event⟩

/-- The state of the test track, without the command. -/
def toTrack (s : ReadersState) : TrackState where
  button_subscriber := s.button_subscriber
  led_subscriber := s.led_subscriber
  sensor := sensorThread (s.reader .Sensor)
  counters := s.counters
  led := s.led
  presses := s.presses
  answers := s.replies.map (fun reply => ⟨reply.request, reply.event⟩)
  reads := s.reads.map Prod.snd

variable (sensor_value_to_milli) in
/-- What holds while the command is not used: the sensor thread counts alone, and
    the presses in its queue are numbered from the next one on. -/
structure SensorOnly (s : ReadersState) : Prop where
  idle : s.reader .Shell = .Idle
  fresh : ∀ request calls count, s.reader .Sensor = .Loaded request calls count → count = counter calls s.counters
  consistent : Consistent sensor_value_to_milli s

/-- A read counts in one step where nothing comes in between. -/
theorem perform_read_counters (calls : DriverCalls) (counters : Counters) :
    (perform_read sensor_value_to_milli calls counters).1 = setCounter calls (counter calls counters + 1) counters := by
  by_cases failed : driver_error calls ≠ 0
  · simp only [perform_read, setCounter, counter, if_pos failed]
  · simp only [perform_read, setCounter, counter, if_neg failed]

/-- Only the sensor thread moves. -/
theorem SensorOnly.moved {s : ReadersState} (only : SensorOnly sensor_value_to_milli s) {thread : Thread}
    (busy : s.reader thread ≠ .Idle) : thread = .Sensor := by
  cases thread with
  | Sensor => rfl
  | Shell => exact absurd only.idle busy

theorem step_sensorOnly {s next : ReadersState} {a : ReadersAction} (only : SensorOnly sensor_value_to_milli s)
    (noCommand : a ≠ .Command) (taken : step sensor_value_to_milli device_ready s a = some next) :
    SensorOnly sensor_value_to_milli next := by
  have consistent := step_consistent only.consistent taken
  have goes : ∀ reader, (s.go .Sensor reader).reader .Shell = .Idle := fun reader =>
    (go_other s (by decide) reader).trans only.idle
  rcases step_cases taken with ⟨_, rfl⟩ | ⟨_, _, _, _, _, _, rfl⟩ | ⟨_, rfl⟩ | ⟨command, _⟩ |
    ⟨moved, calls, request, _, fetching, rfl⟩ | ⟨moved, request, calls, _, fetched, rfl⟩ |
    ⟨moved, request, calls, count, _, loaded, rfl⟩ | ⟨moved, request, event, _, publishing, rfl⟩ | ⟨_, _, _, _, _, rfl⟩
  · exact ⟨only.idle, only.fresh, consistent⟩
  · refine ⟨goes (.Fetching (s.asked .Sensor)), ?_, consistent⟩
    intro r c n held
    have begun := (go_self s .Sensor (.Fetching (s.asked .Sensor))).symm.trans held
    cases begun
  · exact ⟨only.idle, only.fresh, consistent⟩
  · exact absurd command noCommand
  · obtain rfl := only.moved (by rw [fetching]; simp)
    refine ⟨goes _, ?_, consistent⟩
    intro r c n held
    rw [go_self] at held
    cases held
  · obtain rfl := only.moved (by rw [fetched]; simp)
    refine ⟨goes _, ?_, consistent⟩
    intro r c n held
    rw [go_self] at held
    cases held
    rfl
  · obtain rfl := only.moved (by rw [loaded]; simp)
    refine ⟨goes (.Publishing request (eventOf sensor_value_to_milli calls)), ?_, consistent⟩
    intro r c n held
    have published := (go_self s .Sensor (.Publishing request (eventOf sensor_value_to_milli calls))).symm.trans held
    cases published
  · obtain rfl := only.moved (by rw [publishing]; simp)
    refine ⟨goes .Idle, ?_, consistent⟩
    intro r c n held
    have idle := (go_self s .Sensor .Idle).symm.trans held
    cases idle
  · exact ⟨only.idle, only.fresh, consistent⟩

/-- Each step is one of the test track, or none. -/
theorem step_matched {s next : ReadersState} {a : ReadersAction} (only : SensorOnly sensor_value_to_milli s)
    (noCommand : a ≠ .Command) (taken : step sensor_value_to_milli device_ready s a = some next) :
    toTrack next = toTrack s ∨ ∃ b, Track.step sensor_value_to_milli (toTrack s) b = some (toTrack next) := by
  rcases step_cases taken with ⟨_, rfl⟩ | ⟨message, rest, _, _, idle, queue, rfl⟩ | ⟨_, rfl⟩ | ⟨command, _⟩ |
    ⟨moved, calls, request, _, fetching, rfl⟩ | ⟨moved, request, calls, _, fetched, rfl⟩ |
    ⟨moved, request, calls, count, _, loaded, rfl⟩ | ⟨moved, request, event, _, publishing, rfl⟩ |
    ⟨err, message, rest, _, queue, rfl⟩
  · exact .inl rfl
  · refine .inr ⟨.Take, ?_⟩
    obtain ⟨press, ⟨⟨⟩⟩⟩ := message
    have queued := only.consistent.queued
    rw [queue] at queued
    have number : press = s.asked .Sensor := by
      cases pending : s.presses - s.asked .Sensor with
      | zero =>
        rw [pending] at queued
        cases queued
      | succ left =>
        rw [pending, List.range'_succ] at queued
        exact (List.cons.inj queued).1
    have begun : (s.begin .Sensor).reader .Sensor = .Fetching (s.asked .Sensor) := go_self s .Sensor _
    simp only [toTrack, Track.step, idle, queue, sensorThread, begun, number]
    rfl
  · exact .inr ⟨.Press, rfl⟩
  · exact absurd command noCommand
  · obtain rfl := only.moved (by rw [fetching]; simp)
    left
    simp only [toTrack, go_self, fetching, sensorThread]
    rfl
  · obtain rfl := only.moved (by rw [fetched]; simp)
    left
    simp only [toTrack, go_self, fetched, sensorThread]
    rfl
  · obtain rfl := only.moved (by rw [loaded]; simp)
    have current := only.fresh request calls count loaded
    refine .inr ⟨.Read calls, ?_⟩
    have published := go_self s .Sensor (.Publishing request (eventOf sensor_value_to_milli calls))
    simp only [toTrack, Track.step, loaded, sensorThread, perform_read_event, perform_read_counters, ← current,
      List.map_append, List.map_cons, List.map_nil, published]
    rfl
  · obtain rfl := only.moved (by rw [publishing]; simp)
    refine .inr ⟨.Publish, ?_⟩
    have idle := go_self s .Sensor .Idle
    simp only [toTrack, Track.step, publishing, sensorThread, idle, List.map_append, List.map_cons, List.map_nil]
    rfl
  · refine .inr ⟨.Led err, ?_⟩
    simp only [toTrack, Track.step, queue]

/-- **One reader.** While the command is not used, the test track with its reads
    split and its counters loaded and stored reaches nothing that it does not
    reach where a read counts and makes its event in one step. -/
theorem refines_track {acts : List ReadersAction} {s : ReadersState} (noCommand : ∀ a ∈ acts, a ≠ .Command)
    (executed : run (step sensor_value_to_milli device_ready) initial acts = some s) :
    Reachable (Track.step sensor_value_to_milli) Track.initial (toTrack s) := by
  have start : SensorOnly sensor_value_to_milli initial := by
    refine ⟨rfl, ?_, consistent_initial⟩
    intro request calls count loaded
    cases loaded
  exact run_simulates (fun _ _ _ only allowed taken => step_sensorOnly only allowed taken)
    (fun _ _ _ only allowed taken => step_matched only allowed taken) start noCommand (Reachable.initial _) executed

/-- Two presses, the second one during the read for the first, and its read fails. -/
def pressedTwice : List ReadersAction :=
  [.Start, .Press, .Take, .Fetch .Sensor warmRead, .Press, .Load .Sensor, .Store .Sensor, .Led 0, .Publish .Sensor,
    .Take, .Fetch .Sensor failedRead, .Load .Sensor, .Led 0, .Store .Sensor, .Publish .Sensor]

theorem refines_track_twice : ∃ s, run (step milli true) initial pressedTwice = some s ∧ s.counters = ⟨1, 1⟩ ∧
    Reachable (Track.step milli) Track.initial (toTrack s) := by
  have executed := (rfl : run (step milli true) initial pressedTwice = some _)
  exact ⟨_, executed, rfl, refines_track (by decide) executed⟩

end ZephyrWorkshop.TrackAlone
