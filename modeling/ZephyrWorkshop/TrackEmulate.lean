import Mathlib.Data.Rat.Floor
import ZephyrWorkshop.OneShot
import ZephyrWorkshop.TrackButton
import ZephyrWorkshop.Zephyr

/-!
The emulated button of the simulated test track: the command `button emulate` of
`samples/sim_test_track/src/modules/button/button.c`, in front of the button
module itself. The command takes the polarity of the pin into account and presses
the button for three times the debounce delay, so that each press publishes one
event (`emulate_published`).
-/

namespace ZephyrWorkshop.TrackEmulate
open ZephyrWorkshop.Zephyr ZephyrWorkshop.DelayedWork ZephyrWorkshop.OneShot ZephyrWorkshop.TrackButton

variable {T : Type*} [Field T] [LinearOrder T]

/-- The level on the wire, and the deadline of `release_button_work`. -/
abbrev Emulated (T : Type*) := Holder T

/-- How long the button is pressed. -/
def PRESS_MS : T := DEBOUNCE_MS * 3

/-- `set_emulated_button`, where `activeLow` is the flag of the pin. -/
def set_emulated_button (activeLow : Bool) (now : T) (pressed : Bool) (s : Emulated T) : Emulated T :=
  let level := if activeLow then !pressed else pressed
  { s with pin := s.pin.set now level }

def release_emulated_button (activeLow : Bool) (now : T) (s : Emulated T) : Emulated T :=
  { set_emulated_button activeLow now false s with release := none }

/-- The command, with the result of setting the pin. -/
def cmd_button_emulate (activeLow : Bool) (now : T) (err : Int) (s : Emulated T) : Emulated T × ShellAnswer :=
  if err ≠ 0 then (s, ([.error "Failed to press emulated button: %d" [.num err]], err))
  else
    ({ set_emulated_button activeLow now true s with release := some (now + PRESS_MS) },
      ([.print "Emulated button press started" []], 0))

/-- `button_init` sets the pin to its inactive level. -/
def released (activeLow : Bool) : Emulated T := ⟨⟨activeLow, []⟩, none⟩

/-- The release that is due before a command; at the same time, the queue decides. -/
def releaseDue (activeLow : Bool) (first : T → Bool) (now : T) (s : Emulated T) : Emulated T :=
  match s.release with
  | none => s
  | some deadline => if Due first deadline now then release_emulated_button activeLow deadline s else s

/-- The last release. -/
def releaseLast (activeLow : Bool) (s : Emulated T) : Emulated T :=
  match s.release with
  | none => s
  | some deadline => release_emulated_button activeLow deadline s

def emulateAll (activeLow : Bool) (first : T → Bool) (s : Emulated T) (commands : List (T × Int)) : Emulated T :=
  commands.foldl (fun s command =>
    (cmd_button_emulate activeLow command.1 command.2 (releaseDue activeLow first command.1 s)).1) s

/-- When the level of the pin changes, for the times and the results of the commands. -/
def pinChanges (activeLow : Bool) (first : T → Bool) (commands : List (T × Int)) : List T :=
  (releaseLast activeLow (emulateAll activeLow first (released activeLow) commands)).pin.changes

/-- The commands that could set the pin. -/
def succeeded (commands : List (T × Int)) : List T := (commands.filter (fun command => command.2 = 0)).map Prod.fst

/-! ### The polarity does not matter -/

/-- The level that the pin has, from that on the wire. -/
def logical (activeLow : Bool) (s : Emulated T) : Holder T := ⟨⟨s.pin.level ^^ activeLow, s.pin.changes⟩, s.release⟩

omit [Field T] [LinearOrder T] in
theorem logical_set (activeLow : Bool) (now : T) (pressed : Bool) (s : Emulated T) :
    (logical activeLow (set_emulated_button activeLow now pressed s)).pin = (logical activeLow s).pin.set now pressed := by
  obtain ⟨⟨level, changes⟩, release⟩ := s
  cases activeLow <;> cases pressed <;> cases level <;> rfl

omit [Field T] [LinearOrder T] in
theorem logical_release (activeLow : Bool) (now : T) (s : Emulated T) :
    logical activeLow (release_emulated_button activeLow now s) = clear now (logical activeLow s) := by
  have pin := logical_set activeLow now false s
  rw [clear, ← pin]
  rfl

omit [LinearOrder T] in
theorem logical_emulate (activeLow : Bool) (now : T) (s : Emulated T) :
    logical activeLow (cmd_button_emulate activeLow now 0 s).1 = trigger PRESS_MS now (logical activeLow s) := by
  have pin := logical_set activeLow now true s
  rw [trigger, ← pin]
  rfl

omit [Field T] in
theorem logical_releaseDue (activeLow : Bool) (first : T → Bool) (now : T) (s : Emulated T) :
    logical activeLow (releaseDue activeLow first now s) = clearDue first now (logical activeLow s) := by
  obtain ⟨pin, release⟩ := s
  cases release with
  | none => rfl
  | some deadline =>
    have cleared := logical_release activeLow deadline ⟨pin, some deadline⟩
    by_cases due : Due first deadline now
    · simpa [releaseDue, clearDue, logical, due] using cleared
    · simp [releaseDue, clearDue, logical, due]

omit [Field T] [LinearOrder T] in
theorem logical_releaseLast (activeLow : Bool) (s : Emulated T) :
    logical activeLow (releaseLast activeLow s) = clearPending (logical activeLow s) := by
  obtain ⟨pin, release⟩ := s
  cases release with
  | none => rfl
  | some deadline => exact logical_release activeLow deadline ⟨pin, some deadline⟩

theorem emulateAll_logical (activeLow : Bool) (first : T → Bool) {commands : List (T × Int)}
    (sorted : commands.Pairwise (fun one two => one.1 ≤ two.1)) (s : Emulated T) :
    clearPending (logical activeLow (emulateAll activeLow first s commands)) =
      clearPending (run PRESS_MS first (logical activeLow s) (succeeded commands)) := by
  induction commands generalizing s with
  | nil => rfl
  | cons command rest ih =>
    obtain ⟨now, err⟩ := command
    rw [emulateAll, List.foldl_cons, ← emulateAll, ih sorted.of_cons]
    by_cases done : err = 0
    · subst done
      rw [logical_emulate, logical_releaseDue]
      rfl
    · -- the command does nothing, and the release may as well come later
      have skipped : succeeded ((now, err) :: rest) = succeeded rest := by simp [succeeded, done]
      have later : ∀ c ∈ succeeded rest, now ≤ c := by
        intro c member
        obtain ⟨command, found, rfl⟩ := List.mem_map.mp member
        exact (List.pairwise_cons.mp sorted).1 command (List.mem_filter.mp found).1
      have nothing : (cmd_button_emulate activeLow now err (releaseDue activeLow first now s)).1 =
          releaseDue activeLow first now s := by simp [cmd_button_emulate, done]
      rw [skipped, nothing, logical_releaseDue, run_clearDue later]

/-- On either kind of pin, the module sees one that is held by each command that
    could set it. -/
theorem pinChanges_eq (activeLow : Bool) (first : T → Bool) {commands : List (T × Int)}
    (sorted : commands.Pairwise (fun one two => one.1 ≤ two.1)) :
    pinChanges activeLow first commands = timeline PRESS_MS first (succeeded commands) := by
  have same := emulateAll_logical activeLow first sorted (released activeLow)
  rw [← logical_releaseLast] at same
  have start : logical activeLow (released activeLow : Emulated T) = idle := by
    cases activeLow <;> rfl
  rw [start] at same
  have changes := congrArg (fun s : Holder T => s.pin.changes) same
  exact changes

/-! ### The events -/

/-- The module takes up every edge. -/
theorem button_answers [IsStrictOrderedRing T] :
    Answers (handlers : Handlers T (ButtonState T)) PRESS_MS DEBOUNCE_MS ButtonState.published (fun _ _ => True) where
  scheduled _ _ _ := rfl
  silent _ _ _ := rfl
  works t s _ active := by cases active <;> simp [handlers, button_pressed, publish_event]
  again _ _ _ _ _ _ := trivial

/-- The counter counts what was published. -/
def Counted (s : Sim T (ButtonState T)) : Prop := s.state.event_count = UInt32.ofNat s.state.published.length

theorem event_count_eq (w : World T) (changes : List T) (t : T) :
    (stateAt w changes t).event_count = UInt32.ofNat (stateAt w changes t).published.length := by
  have none : Counted (initial : Sim T (ButtonState T)) := rfl
  have counted : Counted (runTo w handlers t initial changes) := by
    refine runTo_preserves (P := Counted) ?_ ?_ ?_ none changes t
    · intro s deadline counts _
      simp only [Counted, runWork, handlers, publish_event]
      split
      · exact counts
      · split
        · exact counts
        · simp only [List.length_append, List.length_singleton, UInt32.ofNat_add]
          rw [show s.state.event_count = _ from counts]
          rfl
    · intro s counts
      exact counts
    · intro s t counts
      exact counts
  exact counted

variable [IsStrictOrderedRing T]

/-- **The emulated button.** For every sequence of commands, on either kind of
    pin, one event is published for each command that could press the button and
    finds it released, as soon as the debounce delay has passed. -/
theorem emulate_published {w : World T} (ideal : w.Ideal) (activeLow : Bool) (first : T → Bool)
    {commands : List (T × Int)} (sorted : commands.Pairwise (fun one two => one.1 ≤ two.1)) (t : T) :
    (stateAt w (pinChanges activeLow first commands) t).published =
      ((fresh PRESS_MS first (succeeded commands)).filter (fun now => now + DEBOUNCE_MS ≤ t)).map (· + DEBOUNCE_MS) ∧
    (stateAt w (pinChanges activeLow first commands) t).event_count.toNat =
      ((fresh PRESS_MS first (succeeded commands)).filter (fun now => now + DEBOUNCE_MS ≤ t)).length % 2 ^ 32 := by
  have positive : (0 : T) < DEBOUNCE_MS := by norm_num [DEBOUNCE_MS]
  have longer : (DEBOUNCE_MS : T) < PRESS_MS := by
    rw [PRESS_MS]
    linarith
  have ordered : (succeeded commands).Pairwise (· ≤ ·) := by
    rw [succeeded, List.pairwise_map]
    exact sorted.filter _
  have shown := shows_triggers button_answers ideal longer positive.le first ordered
    (s := initial) rfl rfl (fun _ _ => trivial) t
  have published : (stateAt w (pinChanges activeLow first commands) t).published =
      ((fresh PRESS_MS first (succeeded commands)).filter (fun now => now + DEBOUNCE_MS ≤ t)).map (· + DEBOUNCE_MS) := by
    rw [pinChanges_eq activeLow first sorted]
    exact shown
  refine ⟨published, ?_⟩
  rw [event_count_eq, published]
  simp

/-- The second command cannot set the pin, and the last finds the button held. -/
def fourCommands : List (ℚ × Int) := [(10, 0), (50, -5), (55, 0), (70, 0)]

theorem emulate_published_held :
    (stateAt (World.faultless fun _ => false) (pinChanges true (fun _ => true) fourCommands) 90).published = [20, 65] ∧
    (stateAt (World.faultless fun _ => false) (pinChanges true (fun _ => true) fourCommands) 90).event_count.toNat = 2 := by
  have law := emulate_published (World.faultless_ideal fun _ => false) true (fun _ => true)
    (show fourCommands.Pairwise (fun one two => one.1 ≤ two.1) by decide +kernel) 90
  exact ⟨law.1.trans (by decide +kernel), law.2.trans (by decide +kernel)⟩

end ZephyrWorkshop.TrackEmulate
