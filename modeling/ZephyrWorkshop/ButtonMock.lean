import ZephyrWorkshop.Button
import ZephyrWorkshop.OneShot

/-!
The mock of the button, `app/src/components/button_mock/button_mock.c`, in front
of the app's button component. The shell command sets the emulated pin at once
and clears it after 100 ms. If a pin that is set is active, the component
publishes one press for each command that finds the pin cleared (`mock_press`).
If the pin is active low and the emulator writes the bare level, it is the end of
each such press that is published, unless the next command comes too soon
(`mock_press_inverted`).
-/

namespace ZephyrWorkshop.ButtonMock
open ZephyrWorkshop.DelayedWork ZephyrWorkshop.OneShot ZephyrWorkshop.Button

variable {T : Type*} [Field T]

/-- The emulated pin, and the deadline of `button_release_work`. -/
abbrev Mock (T : Type*) := Holder T

def gpio_emul_input_set_dt (now : T) (value : Bool) (mock : Mock T) : Mock T := { mock with pin := mock.pin.set now value }

def button_release_work_handler (now : T) (mock : Mock T) : Mock T :=
  { gpio_emul_input_set_dt now false mock with release := none }

/-- `k_work_reschedule` replaces the deadline. -/
def button_press_work_handler (now : T) (mock : Mock T) : Mock T :=
  { gpio_emul_input_set_dt now true mock with release := some (now + 100) }

/-- The press is submitted without a delay. -/
def cmd_mock_button (now : T) (mock : Mock T) : Mock T := button_press_work_handler now mock

variable [LinearOrder T]

/-- The release that is due before a command; at the same time, the queue decides. -/
def releaseDue (first : T → Bool) (now : T) (mock : Mock T) : Mock T :=
  match mock.release with
  | none => mock
  | some deadline => if Due first deadline now then button_release_work_handler deadline mock else mock

/-- The last release. -/
def releaseLast (mock : Mock T) : Mock T :=
  match mock.release with
  | none => mock
  | some deadline => button_release_work_handler deadline mock

/-- When the level of the pin changes, for the times of the commands. -/
def pinChanges (first : T → Bool) (commands : List T) : List T :=
  (releaseLast (commands.foldl (fun mock now => cmd_mock_button now (releaseDue first now mock)) idle)).pin.changes

/-- The mock is a pin that each command holds for 100 ms. -/
theorem pinChanges_eq (first : T → Bool) (commands : List T) : pinChanges first commands = timeline 100 first commands := rfl

variable [FloorRing T]

/-- The button component behind the pin. `inverted` says that the pin is active
    while it is cleared. -/
def buttonAt (w : World T) (inverted : Bool) (first : T → Bool) (commands : List T) (t : T) : ButtonState T :=
  (runTo w handlers t { initial with active := inverted } (pinChanges first commands)).state

/-- The component takes up an edge. -/
def Ready (t : T) (s : ButtonState T) : Prop := DEBOUNCE_DELAY_MS < k_uptime_get t - s.last_press_time

/-- The first edge is taken up once the uptime is more than the delay. -/
theorem ready_initially {t : T} (late : 11 ≤ t) : Ready t (initial : Sim T (ButtonState T)).state := by
  have uptime : 11 ≤ k_uptime_get t := by
    unfold k_uptime_get
    rw [Int.le_floor]
    exact_mod_cast late
  simp only [Ready, initial, DEBOUNCE_DELAY_MS]
  omega

theorem work_kept (now : T) (level err : Int) (s : ButtonState T) :
    ((handlers : Handlers T (ButtonState T)).work now level err s).last_press_time = s.last_press_time := by
  simp only [handlers, send_event_work_handler]
  split
  · rfl
  · split
    · rfl
    · rfl

theorem pressed_ready [IsStrictOrderedRing T] {t : T} {s : ButtonState T} (ready : Ready t s) :
    (handlers : Handlers T (ButtonState T)).interrupt t s = ({ s with last_press_time := k_uptime_get t }, some (t + 5)) := by
  have half : ((DEBOUNCE_DELAY_MS / 2 : Int) : T) = 5 := by norm_num [DEBOUNCE_DELAY_MS]
  simp only [handlers, button_pressed]
  rw [if_pos (show k_uptime_get t - s.last_press_time > DEBOUNCE_DELAY_MS from ready), half]

variable [IsStrictOrderedRing T]

/-- The component answers to edges that are 100 ms apart. -/
theorem button_answers : Answers (handlers : Handlers T (ButtonState T)) 100 5 ButtonState.published Ready where
  scheduled t s ready := by rw [pressed_ready ready]
  silent t s ready := by rw [pressed_ready ready]
  works t s ready active := by
    rw [pressed_ready ready]
    cases active <;> simp [handlers, send_event_work_handler]
  again t u s ready later active := by
    have grown : k_uptime_get t + 50 ≤ k_uptime_get u := uptime_long (by linarith)
    rw [Ready, work_kept, pressed_ready ready]
    simp only [DEBOUNCE_DELAY_MS]
    omega

theorem buttonAt_published {w : World T} (ideal : w.Ideal) (first : T → Bool) {commands : List T}
    (sorted : commands.Pairwise (· ≤ ·)) (late : ∀ now ∈ commands, 11 ≤ now) (t : T) :
    (buttonAt w false first commands t).published =
      ((fresh 100 first commands).filter (fun now => now + 5 ≤ t)).map (· + 5) := by
  have shown := shows_triggers button_answers ideal (by norm_num) (by norm_num) first sorted
    (s := initial) rfl rfl (fun now member => ready_initially (late now (List.mem_of_mem_head? member))) t
  exact shown

/-- **The mock button.** For every sequence of commands past the debounce delay,
    however close, the component publishes one press for each command that finds
    the pin cleared, half that delay later, and nothing else. Two presses are at
    least 100 ms apart. -/
theorem mock_press {w : World T} (ideal : w.Ideal) (first : T → Bool) {commands : List T}
    (sorted : commands.Pairwise (· ≤ ·)) (late : ∀ now ∈ commands, 11 ≤ now) (t : T) :
    (buttonAt w false first commands t).published =
      ((fresh 100 first commands).filter (fun now => now + 5 ≤ t)).map (· + 5) ∧
    (buttonAt w false first commands t).published.Pairwise (fun one two => one + 100 ≤ two) := by
  have published := buttonAt_published ideal first sorted late t
  refine ⟨published, ?_⟩
  rw [published, List.pairwise_map]
  refine ((fresh_apart sorted).filter _).imp ?_
  intro one two apart
  linarith

/-- The second command comes while the pin is held. -/
theorem mock_press_thrice :
    (buttonAt (World.faultless fun _ => false) false (fun _ => true) [20, 60, (300 : ℚ)] 400).published = [25, 305] :=
  (mock_press (World.faultless_ideal _) (fun _ => true) (by decide +kernel) (by decide +kernel) 400).1.trans
    (by decide +kernel)

/-- **The mock on an inverted pin.** The component publishes one press for the
    end of each press of the mock, if no command comes before half the debounce
    delay has passed, and nothing else. -/
theorem mock_press_inverted {w : World T} (ideal : w.Ideal) (first : T → Bool) {commands : List T}
    (sorted : commands.Pairwise (· ≤ ·)) (booted : ∀ now ∈ commands, 0 ≤ now) (t : T) :
    (buttonAt w true first commands t).published =
      (((gaps (pulses 100 first commands)).filter
        (fun gap => decide (Lasts w 5 gap ∧ gap.1 + 5 ≤ t))).map Prod.fst).map (· + 5) := by
  have late : ∀ now ∈ commands.head?, ∀ t, now + 100 ≤ t → Ready t (initial : Sim T (ButtonState T)).state := by
    intro now member t held
    have start := booted now (List.mem_of_mem_head? member)
    exact ready_initially (by linarith)
  have shown := shows_gaps button_answers ideal (by norm_num) (by norm_num) first sorted
    (s := { (initial : Sim T (ButtonState T)) with active := true }) rfl rfl late t
  exact shown

/-- The second command comes 3 ms after the release of the first: one press is lost. -/
theorem mock_press_inverted_lost :
    (buttonAt (World.faultless fun _ => false) true (fun _ => true) [20, (123 : ℚ)] 400).published = [228] :=
  (mock_press_inverted (World.faultless_ideal _) (fun _ => true) (by decide +kernel) (by decide +kernel) 400).trans
    (by decide +kernel)

end ZephyrWorkshop.ButtonMock
