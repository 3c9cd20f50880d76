import ZephyrWorkshop.TrackAnswers

/-!
The LED of the simulated test track, which is to show whether a press waits for
its answer. Its thread keeps no count: a press turns the LED on and an answer
turns it off. What the LED comes to is therefore decided by the last message
in its queue, and it is right for as long as no answer is published while a
second press waits.
-/

namespace ZephyrWorkshop.TrackLed
open ZephyrWorkshop.Transition ZephyrWorkshop.Track ZephyrWorkshop.TrackAnswers

variable (sensor_value_to_milli : SensorValue → Int64)

/-- Some published button event has no sensor event yet. -/
def Unanswered (s : TrackState) : Prop := s.answers.length < s.presses

/-- The LED thread may run on from here for any number of rounds: wherever its
    queue is empty, the LED is on exactly while a press is unanswered. -/
def Shows (s : TrackState) : Prop :=
  ∀ (rounds : Nat) (last : TrackState),
    run (step sensor_value_to_milli) s (List.replicate rounds (.Led 0)) = some last →
    last.led_subscriber = [] → (last.led = true ↔ Unanswered last)

/-- A sensor event is published only for a press that no other press waits with. -/
def Alone (s : TrackState) (a : TrackAction) : Prop := a = .Publish → s.presses = s.answers.length + 1

theorem alone_of_ne {s : TrackState} {a : TrackAction} (other : a ≠ .Publish) : Alone s a :=
  fun same => absurd same other

/-! ### Running the LED thread on -/

/-- The LED thread can always empty its queue. -/
theorem run_drains (s : TrackState) :
    run (step sensor_value_to_milli) s (List.replicate s.led_subscriber.length (.Led 0)) =
      some { s with led_subscriber := [], led := drained s } := by
  obtain ⟨button_subscriber, led_subscriber, sensor, counters, led, presses, answers, reads⟩ := s
  induction led_subscriber generalizing led with
  | nil => rfl
  | cons message rest ih =>
    show run (step sensor_value_to_milli) _ (.Led 0 :: List.replicate rest.length (.Led 0)) = _
    rw [run_cons]
    show run (step sensor_value_to_milli) _ _ = _
    rw [ih]
    rfl

/-- A round of the LED thread changes neither the LED to come nor what is answered. -/
theorem rounds_keep {s last : TrackState} {rounds : Nat}
    (executed : run (step sensor_value_to_milli) s (List.replicate rounds (.Led 0)) = some last) :
    drained last = drained s ∧ last.presses = s.presses ∧ last.answers = s.answers := by
  refine run_preserves_of_mem (P := fun t => drained t = drained s ∧ t.presses = s.presses ∧ t.answers = s.answers)
    (Q := fun a => a = .Led 0) ?_ ⟨rfl, rfl, rfl⟩ (fun a member => List.eq_of_mem_replicate member) executed
  rintro t _ next ⟨sameLed, samePresses, sameAnswers⟩ rfl taken
  rcases step_cases sensor_value_to_milli taken with ⟨other, _⟩ | ⟨_, _, other, _⟩ | ⟨_, _, other, _⟩ |
    ⟨_, other, _⟩ | ⟨_, message, rest, same, queue, rfl⟩
  · cases other
  · cases other
  · cases other
  · cases other
  · cases same
    exact ⟨(drained_led queue).trans sameLed, samePresses, sameAnswers⟩

theorem shows_iff (s : TrackState) : Shows sensor_value_to_milli s ↔ (drained s = true ↔ Unanswered s) := by
  constructor
  · intro shows
    exact shows _ _ (run_drains sensor_value_to_milli s) rfl
  · intro right rounds last executed empty
    obtain ⟨sameLed, samePresses, sameAnswers⟩ := rounds_keep sensor_value_to_milli executed
    rw [← drained_of_empty empty, sameLed, right, Unanswered, Unanswered, samePresses, sameAnswers]

/-! ### What each step does to it -/

variable {sensor_value_to_milli}

/-- One step keeps the LED right exactly when it does not answer one of several
    waiting presses. -/
theorem step_shows_iff {s next : TrackState} {a : TrackAction} (consistent : Consistent sensor_value_to_milli s)
    (shows : Shows sensor_value_to_milli s) (pinSet : PinSet a)
    (taken : step sensor_value_to_milli s a = some next) : Shows sensor_value_to_milli next ↔ Alone s a := by
  rw [shows_iff] at shows ⊢
  rcases step_cases sensor_value_to_milli taken with ⟨rfl, rfl⟩ | ⟨message, rest, rfl, _, _, rfl⟩ |
    ⟨calls, press, rfl, _, rfl⟩ | ⟨answer, rfl, publishing, rfl⟩ | ⟨err, message, rest, rfl, queue, rfl⟩
  · -- the LED will be on, and the new press is unanswered
    refine ⟨fun _ => alone_of_ne (by simp), fun _ => ⟨fun _ => ?_, fun _ => drained_pub_button_event s _⟩⟩
    exact Nat.lt_succ_of_le consistent.answered_le
  · exact ⟨fun _ => alone_of_ne (by simp), fun _ => shows⟩
  · exact ⟨fun _ => alone_of_ne (by simp), fun _ => shows⟩
  · -- the LED will be off, whoever else is waiting
    have off : drained { pub_sensor_event s answer with sensor := .Waiting } = false := drained_pub_sensor_event s answer
    have pressed := consistent.presses_eq
    rw [publishing] at pressed
    have waiting : s.answers.length < s.presses := by
      simp only [inService, List.length_singleton] at pressed
      omega
    have left : Unanswered { pub_sensor_event s answer with sensor := .Waiting } ↔
        s.answers.length + 1 < s.presses := by
      simp [Unanswered, pub_sensor_event]
    rw [off, left]
    constructor
    · intro right _
      have none : ¬ s.answers.length + 1 < s.presses := fun more => absurd (right.mpr more) (by decide)
      omega
    · intro alone
      have last := alone rfl
      exact ⟨fun on => absurd on (by decide), fun more => by omega⟩
  · have succeeds : err = 0 := pinSet
    rw [succeeds, drained_led queue]
    exact ⟨fun _ => alone_of_ne (by simp), fun _ => shows⟩

/-- In every run with any interleaving in which the pin could be set, the LED shows
    whether a press is unanswered, wherever its thread has caught up, exactly
    when every sensor event is published while its press is the only unanswered one. -/
theorem led_shows_iff_alone {acts : List TrackAction} (pinSet : ∀ a ∈ acts, PinSet a) :
    Always (step sensor_value_to_milli) (Shows sensor_value_to_milli) initial acts ↔
      EachStep (step sensor_value_to_milli) Alone initial acts := by
  refine always_iff_eachStep_of_mem (I := Consistent sensor_value_to_milli) ?_ ?_ pinSet
    (consistent_initial sensor_value_to_milli) ?_
  · exact fun s a next consistent taken => step_consistent consistent taken
  · exact fun s a next consistent shows set taken => step_shows_iff consistent shows set taken
  · rw [shows_iff]
    show false = true ↔ 0 < 0
    decide

/-- A second press after the first answer keeps the LED right. -/
theorem led_shows_iff_alone_twice :
    Always (step milli) (Shows milli) initial [.Press, .Led 0, .Take, .Read warmRead, .Publish, .Press] := by
  refine (led_shows_iff_alone (by decide)).mpr ?_
  rintro _ ⟨⟩
  refine ⟨alone_of_ne (by decide), ?_⟩
  rintro _ ⟨⟩
  refine ⟨alone_of_ne (by decide), ?_⟩
  rintro _ ⟨⟩
  refine ⟨alone_of_ne (by decide), ?_⟩
  rintro _ ⟨⟩
  refine ⟨alone_of_ne (by decide), ?_⟩
  rintro _ ⟨⟩
  refine ⟨fun _ => rfl, ?_⟩
  rintro _ ⟨⟩
  exact ⟨alone_of_ne (by decide), trivial⟩

/-- Two presses and one answer: the LED is off while the second press waits. -/
theorem second_press_not_shown :
    ∃ s, run (step milli) initial
        [.Press, .Press, .Take, .Read warmRead, .Publish, .Led 0, .Led 0, .Led 0] = some s ∧
      s.led_subscriber = [] ∧ s.led = false ∧ Unanswered s := by
  refine ⟨_, rfl, rfl, rfl, ?_⟩
  show 1 < 2
  omega

end ZephyrWorkshop.TrackLed
