import ZephyrWorkshop.ButtonMock
import ZephyrWorkshop.SysCtrl

/-!
The presses of the whole app. A button message comes from the button component,
from the shell command `button press` or from `sys_ctrl button`, and each toggles
the system state. The system state therefore tells whether the number of presses
is odd, while the channel and LED0 show it as of the last press whose publication
succeeded (`press_parity`). With the mock button in front, it is the parity of
the commands that find its pin cleared (`mock_parity`).
-/

namespace ZephyrWorkshop.Presses
open ZephyrWorkshop.Zephyr ZephyrWorkshop.Led ZephyrWorkshop.LedRuns
open ZephyrWorkshop.SysCtrl ZephyrWorkshop.Transition

variable {Timer : Type*} (k : KTimer Timer)

/-- `zbus_chan_pub(&event_ch, &msg, ...)` with its result. -/
def pub_event (err : Int) (success : Bool) (app : App Timer) (msg : EventMsg) : App Timer :=
  if err = 0 then deliver k success app msg else app

def cmd_sysctrl_button (err : Int) (success : Bool) (app : App Timer) : App Timer × ShellAnswer :=
  let app := pub_event k err success app ⟨.ButtonPressed⟩
  if err ≠ 0 then
    (app, ([.print "Simulating button press" [], .error "Failed to publish button event: %d" [.num err]], err))
  else (app, ([.print "Simulating button press" []], 0))

def cmd_button_press (err : Int) (success : Bool) (app : App Timer) : App Timer × ShellAnswer :=
  let app := pub_event k err success app ⟨.ButtonPressed⟩
  if err ≠ 0 then
    (app, ([.print "Simulating button press" [], .error "Failed to publish button event: %d" [.num err]], err))
  else (app, ([.print "Simulating button press" [], .print "Button event published successfully" []], 0))

/-- `state_str`, and the number of the state. -/
def state_str : SysState → String × Int
  | .Sleep => ("SLEEP", 0)
  | .Active => ("ACTIVE", 1)

def cmd_sysctrl_state (app : App Timer) : ShellAnswer :=
  ([.print "System state: %s (%d)" [.str (state_str app.sys_state).1.toList, .num (state_str app.sys_state).2]], 0)

/-- A message or a timer expiry, or one of the two commands that press the button. -/
inductive Action
  | app (a : AppAction)
  | sysctrl_button (err : Int) (success : Bool)
  | button_press (err : Int) (success : Bool)
deriving DecidableEq

def step (app : App Timer) : Action → Option (App Timer)
  | .app a => SysCtrl.step k app a
  | .sysctrl_button err success => some (cmd_sysctrl_button k err success app).1
  | .button_press err success => some (cmd_button_press k err success app).1

/-! ### Parity -/

/-- The presses so far, and the system state that was last published. -/
structure Tally where
  presses : Nat
  shown : SysState
deriving DecidableEq, Repr

/-- The system state after so many presses. -/
def stateAfter (presses : Nat) : SysState := if presses % 2 = 1 then .Active else .Sleep

/-- A press whose message arrives, with the success of the publication that it causes. -/
def pressOf : Action → Option Bool
  | .app (.event ⟨.ButtonPressed⟩ success) => some success
  | .sysctrl_button err success => if err = 0 then some success else none
  | .button_press err success => if err = 0 then some success else none
  | _ => none

/-- What reaches the LED component apart from the system state. -/
def received : Action → LedAction
  | .app .expiry => .expiry
  | .app (.event msg _) => .event msg
  | .sysctrl_button _ _ => .event ⟨.ButtonPressed⟩
  | .button_press _ _ => .event ⟨.ButtonPressed⟩

def tallyStep (tally : Tally) (a : Action) : Tally :=
  match pressOf a with
  | none => tally
  | some success =>
    ⟨tally.presses + 1, if success then stateAfter (tally.presses + 1) else tally.shown⟩

def tally (acts : List Action) : Tally := acts.foldl tallyStep ⟨0, .Sleep⟩

/-- What the app shows is the tally. -/
structure Tallied (app : App Timer) (tally : Tally) : Prop where
  state : app.sys_state = stateAfter tally.presses
  channel : app.sys_ctl_ch = tally.shown
  led0 : (app.led.leds 0).mode = shownAs tally.shown

/-- The system state after a press. -/
def toggled : SysState → SysState
  | .Sleep => .Active
  | .Active => .Sleep

theorem stateAfter_succ (presses : Nat) : toggled (stateAfter presses) = stateAfter (presses + 1) := by
  unfold stateAfter
  by_cases odd : presses % 2 = 1
  · have even : ¬ (presses + 1) % 2 = 1 := by omega
    simp [odd, even, toggled]
  · have next : (presses + 1) % 2 = 1 := by omega
    simp [odd, next, toggled]

theorem deliver_toggles (app : App Timer) (success : Bool) :
    (deliver k success app ⟨.ButtonPressed⟩).sys_state = toggled app.sys_state := by
  cases success <;> rfl

/-- A press, with or without a publication that succeeds. -/
theorem deliver_tallied {app : App Timer} {tally : Tally} (tallied : Tallied app tally) (success : Bool) :
    Tallied (deliver k success app ⟨.ButtonPressed⟩)
      ⟨tally.presses + 1, if success then stateAfter (tally.presses + 1) else tally.shown⟩ := by
  obtain ⟨state, channel, led0⟩ := tallied
  have toggled : (deliver k success app ⟨.ButtonPressed⟩).sys_state = stateAfter (tally.presses + 1) := by
    rw [← stateAfter_succ, ← state]
    exact deliver_toggles k app success
  cases success with
  | true =>
    refine ⟨toggled, ?_, ?_⟩
    · rw [if_pos rfl, ← toggled]
      rfl
    · rw [if_pos rfl, ← toggled, deliver_button]
      exact led_sys_ctl_cb_led0 k _ _
  | false => exact ⟨toggled, channel, (led_event_cb_led0 k app.led _).trans led0⟩

/-- A step delivers a button message, or else only the LED component moves. -/
theorem step_cases {app next : App Timer} {a : Action} (taken : step k app a = some next) :
    (∃ success, pressOf a = some success ∧ next = deliver k success app ⟨.ButtonPressed⟩) ∨
      (pressOf a = none ∧ ∃ led, Led.step k app.led (received a) = some led ∧ next = { app with led := led }) := by
  have published (err : Int) (success : Bool) (press : pressOf a = if err = 0 then some success else none)
      (quiet : received a = .event ⟨.ButtonPressed⟩) (same : next = pub_event k err success app ⟨.ButtonPressed⟩) :
      (∃ success, pressOf a = some success ∧ next = deliver k success app ⟨.ButtonPressed⟩) ∨
        (pressOf a = none ∧ ∃ led, Led.step k app.led (received a) = some led ∧ next = { app with led := led }) := by
    rw [press, quiet, same, pub_event]
    by_cases done : err = 0
    · rw [if_pos done, if_pos done]
      exact .inl ⟨success, rfl, rfl⟩
    · rw [if_neg done, if_neg done]
      exact .inr ⟨rfl, _, rfl, rfl⟩
  cases a with
  | sysctrl_button err success =>
    refine published err success rfl rfl ?_
    cases taken
    unfold cmd_sysctrl_button
    dsimp only
    split <;> rfl
  | button_press err success =>
    refine published err success rfl rfl ?_
    cases taken
    unfold cmd_button_press
    dsimp only
    split <;> rfl
  | app a =>
    cases a with
    | expiry =>
      obtain ⟨led, expired, rfl⟩ := Option.map_eq_some_iff.mp taken
      exact .inr ⟨rfl, led, expired, rfl⟩
    | event msg success =>
      cases taken
      obtain ⟨event⟩ := msg
      cases event with
      | ButtonPressed => exact .inl ⟨success, rfl, rfl⟩
      | SensorReading => exact .inr ⟨rfl, _, rfl, deliver_other k success app (by decide)⟩
      | TempAlert => exact .inr ⟨rfl, _, rfl, deliver_other k success app (by decide)⟩

/-- Nothing but the system state changes what LED0 shows. -/
theorem received_shownAs {led next : LedComponent Timer} {state : SysState} (shown : (led.leds 0).mode = shownAs state)
    {a : Action} (moved : Led.step k led (received a) = some next) : (next.leds 0).mode = shownAs state := by
  have quiet {msg : EventMsg} (moved : Led.step k led (.event msg) = some next) :
      (next.leds 0).mode = shownAs state := by
    cases moved
    exact (led_event_cb_led0 k led msg).trans shown
  cases a with
  | app a =>
    cases a with
    | expiry => exact expiry_shownAs k shown moved
    | event msg success => exact quiet moved
  | sysctrl_button err success => exact quiet moved
  | button_press err success => exact quiet moved

theorem step_tallied {app next : App Timer} {tally : Tally} {a : Action} (tallied : Tallied app tally)
    (taken : step k app a = some next) : Tallied next (tallyStep tally a) := by
  rcases step_cases k taken with ⟨success, press, rfl⟩ | ⟨press, led, moved, rfl⟩
  · rw [tallyStep, press]
    exact deliver_tallied k tallied success
  · rw [tallyStep, press]
    exact ⟨tallied.state, tallied.channel, received_shownAs k tallied.led0 moved⟩

theorem run_tallied {acts : List Action} {app last : App Timer} {start : Tally} (tallied : Tallied app start)
    (executed : run (step k) app acts = some last) : Tallied last (acts.foldl tallyStep start) :=
  run_records tallyStep (R := fun tally app => Tallied app tally)
    (fun _ _ _ _ tallied taken => step_tallied k tallied taken) tallied executed

theorem boot_tallied (documented : k.Documented) {led : LedComponent Timer} (init : AfterInit k led) :
    Tallied (boot led) ⟨0, .Sleep⟩ := by
  obtain ⟨leds, _⟩ := led_init_spec k documented init
  exact ⟨rfl, rfl, by simp [boot, leds, shownAs]⟩

/-- **Parity of the presses.** In every run from boot, whoever presses and
    whatever else happens, the system state is `SYS_ACTIVE` exactly after an odd
    number of presses, and the channel and LED0 show it as it was after the last
    press whose publication succeeded. -/
theorem press_parity (documented : k.Documented) {led : LedComponent Timer} (init : AfterInit k led) {acts : List Action}
    {app : App Timer} (executed : run (step k) (boot led) acts = some app) :
    app.sys_state = stateAfter (tally acts).presses ∧
    cmd_sysctrl_state app = ([.print "System state: %s (%d)" (
      if (tally acts).presses % 2 = 1 then [.str "ACTIVE".toList, .num 1] else [.str "SLEEP".toList, .num 0])], 0) ∧
    app.sys_ctl_ch = (tally acts).shown ∧ (app.led.leds 0).mode = shownAs (tally acts).shown := by
  obtain ⟨state, channel, led0⟩ := run_tallied k (boot_tallied k documented init) executed
  refine ⟨state, ?_, channel, led0⟩
  rw [cmd_sysctrl_state, state]
  change ([ShellLine.print _ [.str (state_str (stateAfter (tally acts).presses)).1.toList,
    .num (state_str (stateAfter (tally acts).presses)).2]], _) = _
  unfold stateAfter
  split <;> rfl

/-- Two presses, of which the second is not published, and one message that is lost. -/
def threePresses : List Action :=
  [.sysctrl_button 0 true, .app .expiry, .button_press (-11) true, .button_press 0 false]

theorem press_parity_three : ∃ app, run (step statusTimer) (boot booted) threePresses = some app ∧
    app.sys_state = .Sleep ∧ (app.led.leds 0).mode = .PowerSignal := by
  refine ⟨_, rfl, ?_⟩
  obtain ⟨state, _, _, led0⟩ := press_parity statusTimer statusTimer_documented booted_afterInit
    (show run (step statusTimer) (boot booted) threePresses = some _ from rfl)
  exact ⟨state, led0⟩

/-! ### With the mock button -/

theorem tally_presses (acts : List Action) (start : Tally) :
    (acts.foldl tallyStep start).presses = start.presses + (acts.filterMap pressOf).length := by
  induction acts generalizing start with
  | nil => rfl
  | cons a rest ih =>
    rw [List.foldl_cons, ih, tallyStep]
    cases press : pressOf a with
    | none => rw [List.filterMap_cons_none press]
    | some success =>
      rw [List.filterMap_cons_some press, List.length_cons]
      dsimp only
      omega

/-- As long as the publications succeed, what is shown is the system state. -/
theorem tally_shown {acts : List Action} (succeeds : ∀ success ∈ acts.filterMap pressOf, success = true) {start : Tally}
    (same : start.shown = stateAfter start.presses) :
    (acts.foldl tallyStep start).shown = stateAfter (acts.foldl tallyStep start).presses := by
  induction acts generalizing start with
  | nil => exact same
  | cons a rest ih =>
    rw [List.foldl_cons]
    cases press : pressOf a with
    | none =>
      rw [List.filterMap_cons_none press] at succeeds
      refine ih succeeds ?_
      rw [tallyStep, press]
      exact same
    | some success =>
      rw [List.filterMap_cons_some press] at succeeds
      refine ih (fun other member => succeeds other (List.mem_cons_of_mem _ member)) ?_
      rw [tallyStep, press, succeeds success List.mem_cons_self]
      rfl

section
open ZephyrWorkshop.DelayedWork ZephyrWorkshop.OneShot ZephyrWorkshop.ButtonMock

variable {T : Type*} [Field T] [LinearOrder T] [FloorRing T] [IsStrictOrderedRing T]

/-- **From the mock to LED0.** Where the presses of a run are what the button
    component has published behind the mock by some time, and no command came
    within the debounce delay of the start, the system state, the channel and LED0
    show the parity of the commands that found the pin cleared. -/
theorem mock_parity (documented : k.Documented) {led : LedComponent Timer} (init : AfterInit k led) {w : World T}
    (ideal : w.Ideal) (first : T → Bool) {commands : List T} (sorted : commands.Pairwise (· ≤ ·))
    (late : ∀ now ∈ commands, 11 ≤ now) (t : T) {acts : List Action} {app : App Timer}
    (presses : acts.filterMap pressOf = (buttonAt w false first commands t).published.map (fun _ => true))
    (executed : run (step k) (boot led) acts = some app) :
    let state := stateAfter ((fresh 100 first commands).filter (fun now => now + 5 ≤ t)).length
    app.sys_state = state ∧ app.sys_ctl_ch = state ∧ (app.led.leds 0).mode = shownAs state := by
  intro state
  have published := buttonAt_published ideal first sorted late t
  have number : (tally acts).presses = ((fresh 100 first commands).filter (fun now => now + 5 ≤ t)).length := by
    rw [tally, tally_presses, presses, published]
    simp
  have succeeds : ∀ success ∈ acts.filterMap pressOf, success = true := by
    rw [presses]
    simp
  have same : (tally acts).shown = stateAfter (tally acts).presses := tally_shown succeeds rfl
  obtain ⟨reached, channel, led0⟩ := run_tallied k (boot_tallied k documented init) executed
  change app.sys_state = stateAfter (tally acts).presses at reached
  change app.sys_ctl_ch = (tally acts).shown at channel
  change (app.led.leds 0).mode = shownAs (tally acts).shown at led0
  rw [same, number] at channel led0
  rw [number] at reached
  exact ⟨reached, channel, led0⟩

/-- Three commands, of which the second finds the pin held. -/
def threeCommands : List ℚ := [20, 60, 300]

/-- Their two presses, and an expiry in between. -/
def twoPresses : List Action := [.app (.event ⟨.ButtonPressed⟩ true), .app .expiry, .app (.event ⟨.ButtonPressed⟩ true)]

theorem mock_parity_twice : ∃ app, run (step statusTimer) (boot booted) twoPresses = some app ∧
    app.sys_state = .Sleep ∧ (app.led.leds 0).mode = .Off := by
  refine ⟨_, rfl, ?_⟩
  have presses : twoPresses.filterMap pressOf =
      (buttonAt (World.faultless fun _ => false) false (fun _ => true) threeCommands 400).published.map (fun _ => true) := by
    decide +kernel
  have two : ((fresh 100 (fun _ => true) threeCommands).filter (fun now => now + 5 ≤ 400)).length = 2 := by decide +kernel
  obtain ⟨state, _, led0⟩ := mock_parity statusTimer statusTimer_documented booted_afterInit
    (World.faultless_ideal fun _ => false) (fun _ => true)
    (show threeCommands.Pairwise (· ≤ ·) by decide +kernel) (by decide +kernel) 400 presses
    (show run (step statusTimer) (boot booted) twoPresses = some _ from rfl)
  rw [two] at state led0
  exact ⟨state, led0⟩

end

end ZephyrWorkshop.Presses
