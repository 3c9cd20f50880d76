import ZephyrWorkshop.TrackReaders

/-!
The answers of the two readers. Each thread answers its own requests, one event
each and in order, however the two reads interleave, and at rest every press and
every command that reads is answered (`every_request_answered`).
-/

namespace ZephyrWorkshop.TrackReplies
open ZephyrWorkshop.Transition ZephyrWorkshop.TrackReaders
open ZephyrWorkshop.Track (SensorValue SensorEvent DriverCalls Queued LedMessage led_thread_round led_thread_round_sensor)
open ZephyrWorkshop.TrackAnswers (eventOf Reports eventOf_reports warmRead milli)

variable {sensor_value_to_milli : SensorValue → Int64} {device_ready : Bool}

/-- What a thread published. -/
def repliesOf (thread : Thread) (replies : List Reply) : List Reply := replies.filter (·.thread = thread)

/-- The driver calls of a thread. -/
def readsOf (thread : Thread) (reads : List (Thread × DriverCalls)) : List DriverCalls :=
  (reads.filter (fun read => read.1 = thread)).map Prod.snd

@[simp] theorem repliesOf_self (thread : Thread) (replies : List Reply) (request : Nat) (event : SensorEvent) :
    repliesOf thread (replies ++ [⟨thread, request, event⟩]) = repliesOf thread replies ++ [⟨thread, request, event⟩] := by
  simp [repliesOf, List.filter_append]

theorem repliesOf_other {thread other : Thread} (different : other ≠ thread) (replies : List Reply) (request : Nat)
    (event : SensorEvent) : repliesOf thread (replies ++ [⟨other, request, event⟩]) = repliesOf thread replies := by
  simp [repliesOf, List.filter_append, different]

@[simp] theorem readsOf_self (thread : Thread) (reads : List (Thread × DriverCalls)) (calls : DriverCalls) :
    readsOf thread (reads ++ [(thread, calls)]) = readsOf thread reads ++ [calls] := by
  simp [readsOf, List.filter_append]

theorem readsOf_other {thread other : Thread} (different : other ≠ thread) (reads : List (Thread × DriverCalls))
    (calls : DriverCalls) : readsOf thread (reads ++ [(other, calls)]) = readsOf thread reads := by
  simp [readsOf, List.filter_append, different]

/-- The request that a thread is reading for. -/
def inService : Reader → List Nat
  | .Idle => []
  | .Fetching request | .Fetched request _ | .Loaded request _ _ | .Publishing request _ => [request]

/-- The event that a thread is about to publish. -/
def inHand : Reader → List SensorEvent
  | .Publishing _ event => [event]
  | _ => []

variable (sensor_value_to_milli) in
/-- What a thread has done for its requests, between any two steps. -/
structure Served (thread : Thread) (reader : Reader) (asked : Nat) (replies : List Reply)
    (reads : List (Thread × DriverCalls)) : Prop where
  numbered : (repliesOf thread replies).map Reply.request ++ inService reader = List.range asked
  events : (repliesOf thread replies).map Reply.event ++ inHand reader =
    (readsOf thread reads).map (eventOf sensor_value_to_milli)

section
variable {thread : Thread} {reader : Reader} {asked : Nat} {replies : List Reply} {reads : List (Thread × DriverCalls)}
variable {request : Nat} {calls : DriverCalls} {event : SensorEvent}

/-- A step within a read that neither counts nor publishes. -/
theorem Served.move (served : Served sensor_value_to_milli thread reader asked replies reads) {next : Reader}
    (sameService : inService next = inService reader) (sameHand : inHand next = inHand reader) :
    Served sensor_value_to_milli thread next asked replies reads := by
  obtain ⟨numbered, events⟩ := served
  constructor
  · rw [sameService]
    exact numbered
  · rw [sameHand]
    exact events

/-- A thread without a read begins the next one. -/
theorem Served.begin (served : Served sensor_value_to_milli thread .Idle asked replies reads) :
    Served sensor_value_to_milli thread (.Fetching asked) (asked + 1) replies reads := by
  obtain ⟨numbered, events⟩ := served
  refine ⟨?_, events⟩
  have numbered : (repliesOf thread replies).map Reply.request ++ [] = List.range asked := numbered
  rw [List.append_nil] at numbered
  rw [List.range_succ, ← numbered]
  rfl

/-- A read is counted, and its event is in hand. -/
theorem Served.store {count : UInt32}
    (served : Served sensor_value_to_milli thread (.Loaded request calls count) asked replies reads) :
    Served sensor_value_to_milli thread (.Publishing request (eventOf sensor_value_to_milli calls)) asked replies
      (reads ++ [(thread, calls)]) := by
  obtain ⟨numbered, events⟩ := served
  refine ⟨numbered, ?_⟩
  have events : (repliesOf thread replies).map Reply.event ++ [] = _ := events
  rw [List.append_nil] at events
  rw [readsOf_self, List.map_append, ← events]
  rfl

/-- The request that a thread reads for gets its answer. -/
theorem Served.publish (served : Served sensor_value_to_milli thread (.Publishing request event) asked replies reads) :
    Served sensor_value_to_milli thread .Idle asked (replies ++ [⟨thread, request, event⟩]) reads := by
  obtain ⟨numbered, events⟩ := served
  constructor
  · rw [repliesOf_self, List.map_append]
    simpa [inService] using numbered
  · rw [repliesOf_self, List.map_append]
    simpa [inHand] using events

/-- The other thread counts a read. -/
theorem Served.other_store (served : Served sensor_value_to_milli thread reader asked replies reads) {other : Thread}
    (different : other ≠ thread) (calls : DriverCalls) :
    Served sensor_value_to_milli thread reader asked replies (reads ++ [(other, calls)]) := by
  obtain ⟨numbered, events⟩ := served
  refine ⟨numbered, ?_⟩
  rw [readsOf_other different]
  exact events

/-- The other thread publishes. -/
theorem Served.other_publish (served : Served sensor_value_to_milli thread reader asked replies reads) {other : Thread}
    (different : other ≠ thread) (request : Nat) (event : SensorEvent) :
    Served sensor_value_to_milli thread reader asked (replies ++ [⟨other, request, event⟩]) reads := by
  obtain ⟨numbered, events⟩ := served
  constructor
  · rw [repliesOf_other different]
    exact numbered
  · rw [repliesOf_other different]
    exact events

end

variable (sensor_value_to_milli) in
/-- What holds between any two steps. -/
structure Consistent (s : ReadersState) : Prop where
  served : ∀ thread, Served sensor_value_to_milli thread (s.reader thread) (s.asked thread) s.replies s.reads
  asked_le : s.asked .Sensor ≤ s.presses
  queued : s.button_subscriber.map Queued.press = List.range' (s.asked .Sensor) (s.presses - s.asked .Sensor)

theorem consistent_initial : Consistent sensor_value_to_milli initial := by
  constructor
  · intro thread
    constructor <;> simp [initial, inService, inHand, repliesOf, readsOf]
  · exact Nat.le_refl 0
  · rfl

/-- What one step does to the requests of a thread. -/
theorem step_served {s next : ReadersState} {a : ReadersAction} {thread : Thread}
    (served : Served sensor_value_to_milli thread (s.reader thread) (s.asked thread) s.replies s.reads)
    (taken : step sensor_value_to_milli device_ready s a = some next) :
    Served sensor_value_to_milli thread (next.reader thread) (next.asked thread) next.replies next.reads := by
  have begins : ∀ moved, s.reader moved = .Idle → Served sensor_value_to_milli thread ((s.begin moved).reader thread)
      ((s.begin moved).asked thread) s.replies s.reads := by
    intro moved idle
    by_cases same : moved = thread
    · subst same
      rw [idle] at served
      have reader : (s.begin moved).reader moved = .Fetching (s.asked moved) := go_self s moved _
      rw [reader, begin_asked]
      exact served.begin
    · have reader : (s.begin moved).reader thread = s.reader thread := go_other s (Ne.symm same) _
      rw [reader, begin_asked_other s (Ne.symm same)]
      exact served
  rcases step_cases taken with ⟨_, rfl⟩ | ⟨message, rest, _, _, idle, _, rfl⟩ | ⟨_, rfl⟩ | ⟨_, rfl | ⟨_, idle, rfl⟩⟩ |
    ⟨moved, calls, request, _, fetching, rfl⟩ | ⟨moved, request, calls, _, fetched, rfl⟩ |
    ⟨moved, request, calls, count, _, loaded, rfl⟩ | ⟨moved, request, event, _, publishing, rfl⟩ |
    ⟨err, message, rest, _, _, rfl⟩
  · exact served
  · exact begins .Sensor idle
  · exact served
  · exact served
  · exact begins .Shell idle
  · show Served sensor_value_to_milli thread ((s.go moved _).reader thread) _ _ _
    by_cases same : moved = thread
    · subst same
      rw [go_self]
      rw [fetching] at served
      exact served.move rfl rfl
    · rw [go_other s (Ne.symm same)]
      exact served
  · show Served sensor_value_to_milli thread ((s.go moved _).reader thread) _ _ _
    by_cases same : moved = thread
    · subst same
      rw [go_self]
      rw [fetched] at served
      exact served.move rfl rfl
    · rw [go_other s (Ne.symm same)]
      exact served
  · show Served sensor_value_to_milli thread ((s.go moved _).reader thread) _ _ _
    by_cases same : moved = thread
    · subst same
      rw [go_self]
      rw [loaded] at served
      exact served.store
    · rw [go_other s (Ne.symm same)]
      exact served.other_store same calls
  · show Served sensor_value_to_milli thread ((s.go moved _).reader thread) _ _ _
    by_cases same : moved = thread
    · subst same
      rw [go_self]
      rw [publishing] at served
      exact served.publish
    · rw [go_other s (Ne.symm same)]
      exact served.other_publish same request event
  · exact served

/-- What one step does to the presses that the sensor thread has not taken. -/
theorem step_queued {s next : ReadersState} {a : ReadersAction} (asked_le : s.asked .Sensor ≤ s.presses)
    (queued : s.button_subscriber.map Queued.press = List.range' (s.asked .Sensor) (s.presses - s.asked .Sensor))
    (taken : step sensor_value_to_milli device_ready s a = some next) :
    next.asked .Sensor ≤ next.presses ∧
      next.button_subscriber.map Queued.press = List.range' (next.asked .Sensor) (next.presses - next.asked .Sensor) := by
  rcases step_cases taken with ⟨_, rfl⟩ | ⟨message, rest, _, _, _, queue, rfl⟩ | ⟨_, rfl⟩ | ⟨_, rfl | ⟨_, _, rfl⟩⟩ |
    ⟨_, _, _, _, _, rfl⟩ | ⟨_, _, _, _, _, rfl⟩ | ⟨_, _, _, _, _, _, rfl⟩ | ⟨_, _, _, _, _, rfl⟩ | ⟨_, _, _, _, _, rfl⟩
  · exact ⟨asked_le, queued⟩
  · -- the oldest press moves from the queue into the read
    rw [queue] at queued
    cases pending : s.presses - s.asked .Sensor with
    | zero =>
      rw [pending] at queued
      cases queued
    | succ left =>
      rw [pending, List.range'_succ] at queued
      show (s.begin .Sensor).asked .Sensor ≤ s.presses ∧ rest.map Queued.press =
        List.range' ((s.begin .Sensor).asked .Sensor) (s.presses - (s.begin .Sensor).asked .Sensor)
      have fewer : s.presses - (s.asked .Sensor + 1) = left := by omega
      rw [begin_asked, fewer]
      exact ⟨by omega, (List.cons.inj queued).2⟩
  · -- a press is the last one in the queue
    refine ⟨Nat.le_succ_of_le asked_le, ?_⟩
    have last : s.asked .Sensor + (s.presses - s.asked .Sensor) = s.presses := by omega
    have longer : s.presses + 1 - s.asked .Sensor = s.presses - s.asked .Sensor + 1 := by omega
    show (s.button_subscriber ++ [Queued.mk s.presses ⟨.Button0Pressed⟩]).map Queued.press =
      List.range' (s.asked .Sensor) (s.presses + 1 - s.asked .Sensor)
    rw [List.map_append, queued, longer, List.range'_concat, Nat.one_mul, last]
    rfl
  · exact ⟨asked_le, queued⟩
  · rw [begin_asked_other s (by decide)]
    exact ⟨asked_le, queued⟩
  · exact ⟨asked_le, queued⟩
  · exact ⟨asked_le, queued⟩
  · exact ⟨asked_le, queued⟩
  · exact ⟨asked_le, queued⟩
  · exact ⟨asked_le, queued⟩

theorem step_consistent {s next : ReadersState} {a : ReadersAction} (consistent : Consistent sensor_value_to_milli s)
    (taken : step sensor_value_to_milli device_ready s a = some next) : Consistent sensor_value_to_milli next := by
  obtain ⟨asked_le, queued⟩ := step_queued consistent.asked_le consistent.queued taken
  exact ⟨fun thread => step_served (consistent.served thread) taken, asked_le, queued⟩

theorem run_consistent {acts : List ReadersAction} {s : ReadersState}
    (executed : run (step sensor_value_to_milli device_ready) initial acts = some s) :
    Consistent sensor_value_to_milli s :=
  run_preserves (fun _ _ _ consistent taken => step_consistent consistent taken) consistent_initial executed

/-- Nothing is queued, and no thread reads. -/
structure AtRest (s : ReadersState) : Prop where
  reader : ∀ thread, s.reader thread = .Idle
  button_subscriber : s.button_subscriber = []
  led_subscriber : s.led_subscriber = []

theorem Consistent.replies_le {s : ReadersState} (consistent : Consistent sensor_value_to_milli s) (thread : Thread) :
    (repliesOf thread s.replies).length ≤ s.asked thread := by
  have lengths := congrArg List.length (consistent.served thread).numbered
  simp only [List.length_append, List.length_map, List.length_range] at lengths
  omega

/-- The answers of a thread are numbered like its requests. -/
theorem Consistent.replies_numbered {s : ReadersState} (consistent : Consistent sensor_value_to_milli s)
    (thread : Thread) : (repliesOf thread s.replies).map Reply.request = List.range (repliesOf thread s.replies).length := by
  have numbered := congrArg (List.take (repliesOf thread s.replies).length) (consistent.served thread).numbered
  have shorter := consistent.replies_le thread
  rw [List.take_range, Nat.min_eq_left shorter, List.take_append_of_le_length (by simp)] at numbered
  rwa [List.take_of_length_le (by simp)] at numbered

/-- The `k`-th answer of a thread carries the event of its `k`-th read. -/
theorem Consistent.reply_event {s : ReadersState} (consistent : Consistent sensor_value_to_milli s) {thread : Thread}
    {k : Nat} {reply : Reply} (found : (repliesOf thread s.replies)[k]? = some reply) :
    ∃ calls, (readsOf thread s.reads)[k]? = some calls ∧ reply.event = eventOf sensor_value_to_milli calls := by
  have published : ((readsOf thread s.reads).map (eventOf sensor_value_to_milli))[k]? = some reply.event := by
    obtain ⟨bound, _⟩ := List.getElem?_eq_some_iff.mp found
    rw [← (consistent.served thread).events, List.getElem?_append_left (by rwa [List.length_map]), List.getElem?_map,
      found]
    rfl
  rw [List.getElem?_map] at published
  obtain ⟨calls, read, same⟩ := Option.map_eq_some_iff.mp published
  exact ⟨calls, read, same.symm⟩

theorem Consistent.replies_at_rest {s : ReadersState} (consistent : Consistent sensor_value_to_milli s)
    (rest : AtRest s) (thread : Thread) : (repliesOf thread s.replies).length = s.asked thread := by
  have lengths := congrArg List.length (consistent.served thread).numbered
  rw [rest.reader thread] at lengths
  simpa [inService] using lengths

theorem Consistent.reads_at_rest {s : ReadersState} (consistent : Consistent sensor_value_to_milli s)
    (rest : AtRest s) (thread : Thread) : (readsOf thread s.reads).length = s.asked thread := by
  have lengths := congrArg List.length (consistent.served thread).events
  rw [rest.reader thread] at lengths
  rw [← consistent.replies_at_rest rest thread]
  simpa [inHand] using lengths.symm

theorem Consistent.asked_at_rest {s : ReadersState} (consistent : Consistent sensor_value_to_milli s)
    (rest : AtRest s) : s.asked .Sensor = s.presses := by
  have queued := congrArg List.length consistent.queued
  have asked_le := consistent.asked_le
  rw [rest.button_subscriber] at queued
  simp only [List.map_nil, List.length_nil, List.length_range'] at queued
  omega

/-! ### The LED at rest -/

/-- The LED once its thread has handled all that is queued and has set the pin every time. -/
def drainedLed (s : ReadersState) : Bool :=
  s.led_subscriber.foldl (fun led message => led_thread_round 0 message led) s.led

/-- Once all is handled, the LED is on only while a press is not answered. -/
def Lit (s : ReadersState) : Prop := drainedLed s = true → (repliesOf .Sensor s.replies).length < s.presses

theorem step_lit {s next : ReadersState} {a : ReadersAction} (holds : Consistent sensor_value_to_milli s ∧ Lit s)
    (pinSet : PinSet a) (taken : step sensor_value_to_milli device_ready s a = some next) :
    Consistent sensor_value_to_milli next ∧ Lit next := by
  obtain ⟨consistent, lit⟩ := holds
  refine ⟨step_consistent consistent taken, ?_⟩
  rcases step_cases taken with ⟨_, rfl⟩ | ⟨_, _, _, _, _, _, rfl⟩ | ⟨_, rfl⟩ | ⟨_, rfl | ⟨_, _, rfl⟩⟩ |
    ⟨_, _, _, _, _, rfl⟩ | ⟨_, _, _, _, _, rfl⟩ | ⟨_, _, _, _, _, _, rfl⟩ | ⟨thread, request, event, _, _, rfl⟩ |
    ⟨err, message, rest, rfl, queue, rfl⟩
  · exact lit
  · exact lit
  · -- a press was published after all answers
    intro _
    have replied := consistent.replies_le .Sensor
    have asked_le := consistent.asked_le
    show (repliesOf .Sensor s.replies).length < s.presses + 1
    omega
  · exact lit
  · exact lit
  · exact lit
  · exact lit
  · exact lit
  · -- whoever publishes turns the LED off
    intro on
    have off : drainedLed { s.go thread .Idle with
        led_subscriber := s.led_subscriber ++ [.Sensor event]
        replies := s.replies ++ [⟨thread, request, event⟩] } = false := by
      show (s.led_subscriber ++ [LedMessage.Sensor event]).foldl _ s.led = false
      rw [List.foldl_append]
      exact led_thread_round_sensor event _
    exact absurd (on.symm.trans off) (by decide)
  · intro on
    have succeeds : err = 0 := pinSet
    subst succeeds
    refine lit ?_
    rw [drainedLed, queue, List.foldl_cons]
    exact on

theorem run_lit {acts : List ReadersAction} {s : ReadersState}
    (executed : run (step sensor_value_to_milli device_ready) initial acts = some s) (pinSet : ∀ a ∈ acts, PinSet a) :
    Lit s := by
  have start : Consistent sensor_value_to_milli initial ∧ Lit initial := by
    refine ⟨consistent_initial, ?_⟩
    intro on
    cases on
  exact (run_preserves_of_mem (fun _ _ _ holds set taken => step_lit holds set taken) start pinSet executed).2

/-- **Both readers.** In every interleaving of presses, commands, the steps of the
    two reads and the LED thread, each thread publishes one event for each of its
    requests, in order, that says what its own read found. At rest every press and
    every command is answered, and the LED is off where the pin could be set. -/
theorem every_request_answered {acts : List ReadersAction} {s : ReadersState}
    (executed : run (step sensor_value_to_milli device_ready) initial acts = some s) :
    (∀ thread, (repliesOf thread s.replies).map Reply.request = List.range (repliesOf thread s.replies).length) ∧
    (∀ (thread : Thread) (k : Nat) (reply : Reply), (repliesOf thread s.replies)[k]? = some reply →
      ∃ calls, (readsOf thread s.reads)[k]? = some calls ∧ Reports sensor_value_to_milli calls reply.event) ∧
    (AtRest s → (repliesOf .Sensor s.replies).length = s.presses ∧
      (repliesOf .Shell s.replies).length = s.asked .Shell) ∧
    (AtRest s → (∀ a ∈ acts, PinSet a) → s.led = false) := by
  have consistent := run_consistent executed
  refine ⟨consistent.replies_numbered, ?_, ?_, ?_⟩
  · intro thread k reply found
    obtain ⟨calls, read, same⟩ := consistent.reply_event found
    refine ⟨calls, read, ?_⟩
    rw [same]
    exact eventOf_reports calls
  · intro rest
    exact ⟨(consistent.replies_at_rest rest .Sensor).trans (consistent.asked_at_rest rest),
      consistent.replies_at_rest rest .Shell⟩
  · intro rest pinSet
    have answered := (consistent.replies_at_rest rest .Sensor).trans (consistent.asked_at_rest rest)
    rw [← Bool.not_eq_true]
    intro on
    have unanswered := run_lit executed pinSet (by rw [drainedLed, rest.led_subscriber]; exact on)
    omega

/-- A press and a command, both read at the same time. -/
def bothRead : List ReadersAction :=
  [.Start, .Press, .Command, .Take, .Fetch .Sensor warmRead, .Fetch .Shell warmRead, .Load .Shell, .Store .Shell,
    .Publish .Shell, .Load .Sensor, .Store .Sensor, .Led 0, .Publish .Sensor, .Led 0, .Led 0]

theorem every_request_answered_both : ∃ s, run (step milli true) initial bothRead = some s ∧
    ((repliesOf .Sensor s.replies).length = s.presses ∧ (repliesOf .Shell s.replies).length = s.asked .Shell) ∧
    s.led = false := by
  have executed := (rfl : run (step milli true) initial bothRead = some _)
  obtain ⟨_, _, answered, off⟩ := every_request_answered executed
  refine ⟨_, executed, answered ⟨?_, rfl, rfl⟩, off ⟨?_, rfl, rfl⟩ (by decide)⟩
  · rintro (_ | _) <;> rfl
  · rintro (_ | _) <;> rfl

end ZephyrWorkshop.TrackReplies
