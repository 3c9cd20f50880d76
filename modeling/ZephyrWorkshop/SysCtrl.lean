import ZephyrWorkshop.LedRuns

/-!
The system controller, `app/src/components/sys_ctrl/sys_ctrl.c`, together with
the channel it publishes to and the LED component that listens to that channel.
Each button message toggles `sys_state` and publishes it. Of zbus it is assumed
that a successful publication stores the message and runs the listeners of the
channel before it returns, and that a failed one does neither; which
publications succeed is left to the environment.
-/

namespace ZephyrWorkshop.SysCtrl
open ZephyrWorkshop.Zephyr ZephyrWorkshop.Led ZephyrWorkshop.LedRuns
open ZephyrWorkshop.Transition

/-- `sys_state`, the message that `sys_ctl_ch` holds, and the LED component. -/
structure App (Timer : Type*) where
  sys_state : SysState
  sys_ctl_ch : SysState
  led : LedComponent Timer

variable {Timer : Type*} (k : KTimer Timer)

/-- `zbus_chan_pub(&sys_ctl_ch, &msg, ...)` and its success. -/
def zbus_chan_pub (success : Bool) (app : App Timer) (msg : SysState) : App Timer × Bool :=
  if success then ({ app with sys_ctl_ch := msg, led := led_sys_ctl_cb k app.led msg }, true)
  else (app, false)

/-- A failure is only logged. -/
def sys_ctrl_led_msg (success : Bool) (app : App Timer) (msg : SysState) : App Timer :=
  (zbus_chan_pub k success app msg).1

def sys_ctrl_handle_button_press (success : Bool) (app : App Timer) : App Timer :=
  let sys_state : SysState :=
    match app.sys_state with
    | .Sleep => .Active
    | .Active => .Sleep
  sys_ctrl_led_msg k success { app with sys_state := sys_state } sys_state

def sys_ctrl_button_msg_cb (success : Bool) (app : App Timer) (msg : EventMsg) : App Timer :=
  if msg.event ≠ .ButtonPressed then app else sys_ctrl_handle_button_press k success app

/-- A message of `event_ch` reaches both listeners of the channel. -/
def deliver (success : Bool) (app : App Timer) (msg : EventMsg) : App Timer :=
  sys_ctrl_button_msg_cb k success { app with led := led_event_cb k app.led msg } msg

/-- A message on `event_ch`, with the success of the publication it may cause,
    or an expiry of the LED timer. -/
inductive AppAction
  | event (msg : EventMsg) (success : Bool)
  | expiry
deriving DecidableEq, Repr

def step (app : App Timer) : AppAction → Option (App Timer)
  | .event msg success => some (deliver k success app msg)
  | .expiry => (Led.step k app.led .expiry).map (fun led => { app with led := led })

/-- Boot with all components initialised: `sys_state` and the channel start as
    `SYS_SLEEP`. -/
def boot (led : LedComponent Timer) : App Timer := ⟨.Sleep, .Sleep, led⟩

/-- The three copies of the system state agree: the controller's own, the
    channel's, and the mode of LED0. -/
structure Agree (app : App Timer) : Prop where
  channel : app.sys_state = app.sys_ctl_ch
  active : (app.led.leds 0).mode = .PowerSignal ↔ app.sys_state = .Active
  asleep : app.sys_state ≠ .Active → (app.led.leds 0).mode = .Off

/-- The mode of LED0 that shows a system state. -/
def shownAs : SysState → LedMode
  | .Sleep => .Off
  | .Active => .PowerSignal

theorem agree_iff (app : App Timer) :
    Agree app ↔ app.sys_state = app.sys_ctl_ch ∧ (app.led.leds 0).mode = shownAs app.sys_state := by
  constructor
  · rintro ⟨channel, active, asleep⟩
    refine ⟨channel, ?_⟩
    cases state : app.sys_state with
    | Sleep => exact asleep (by simp [state])
    | Active => exact active.mpr state
  · rintro ⟨channel, led0⟩
    refine ⟨channel, ?_, ?_⟩
    · cases state : app.sys_state <;> simp [led0, state, shownAs]
    · intro asleep
      cases state : app.sys_state with
      | Sleep => simp [led0, state, shownAs]
      | Active => contradiction

/-- The publication that a step causes, if any, succeeds. -/
def Published : AppAction → Prop
  | .event ⟨.ButtonPressed⟩ success => success = true
  | _ => True

/-- Neither mode that LED0 shows a state with is ended by an expiry. -/
theorem tick_shownAs {led : LedInstance} {state : SysState} (shown : led.mode = shownAs state) :
    (tick led).mode = shownAs state := by
  cases state <;> simp only [shownAs] at shown ⊢ <;> simp [tick, shown]

theorem deliver_other (success : Bool) (app : App Timer) {msg : EventMsg} (other : msg.event ≠ .ButtonPressed) :
    deliver k success app msg = { app with led := led_event_cb k app.led msg } := by
  simp [deliver, sys_ctrl_button_msg_cb, other]

/-- A button message that is published reaches the LEDs as the new system state. -/
theorem deliver_button (app : App Timer) :
    (deliver k true app ⟨.ButtonPressed⟩).led =
      led_sys_ctl_cb k app.led (deliver k true app ⟨.ButtonPressed⟩).sys_state := rfl

/-- A reading or an alert leaves LED0 alone. -/
theorem led_event_cb_led0 (led : LedComponent Timer) (msg : EventMsg) :
    ((led_event_cb k led msg).leds 0).mode = (led.leds 0).mode := by
  rw [step_leds k (a := .event msg) rfl]
  obtain ⟨event⟩ := msg
  cases event <;> simp [after, command]

theorem led_sys_ctl_cb_led0 (led : LedComponent Timer) (state : SysState) :
    ((led_sys_ctl_cb k led state).leds 0).mode = shownAs state := by
  rw [step_leds k (a := .sysCtl state) rfl]
  cases state <;> simp [after, command, shownAs]

/-- LED0 keeps showing the system state through a message whose publication, if
    it makes one, succeeds. -/
theorem deliver_shownAs {app : App Timer} (shown : (app.led.leds 0).mode = shownAs app.sys_state) (msg : EventMsg) :
    ((deliver k true app msg).led.leds 0).mode = shownAs (deliver k true app msg).sys_state := by
  by_cases button : msg.event = .ButtonPressed
  · obtain ⟨event⟩ := msg
    cases button
    rw [deliver_button]
    exact led_sys_ctl_cb_led0 k _ _
  · rw [deliver_other k true app button]
    exact (led_event_cb_led0 k app.led msg).trans shown

/-- The LED component goes through one of its own steps, or two for a button
    message that is published, so what these preserve is preserved. -/
theorem deliver_preserves {P : LedComponent Timer → Prop}
    (preserved : ∀ s a next, P s → Led.step k s a = some next → P next) {app : App Timer} (holds : P app.led)
    (success : Bool) (msg : EventMsg) : P (deliver k success app msg).led := by
  have received : P (led_event_cb k app.led msg) := preserved _ (.event msg) _ holds rfl
  unfold deliver sys_ctrl_button_msg_cb
  split
  · exact received
  · unfold sys_ctrl_handle_button_press sys_ctrl_led_msg zbus_chan_pub
    cases success with
    | false => exact received
    | true => exact preserved _ (.sysCtl _) _ received rfl

/-- An expiry does not end the mode that LED0 shows a state with. -/
theorem expiry_shownAs {led next : LedComponent Timer} {state : SysState} (shown : (led.leds 0).mode = shownAs state)
    (expired : Led.step k led .expiry = some next) : (next.leds 0).mode = shownAs state := by
  rw [step_leds k expired, after, if_pos rfl]
  exact tick_shownAs shown

/-- One step keeps the agreement exactly when the publication it causes succeeds. -/
theorem step_agree_iff {app next : App Timer} {a : AppAction} (agree : Agree app)
    (taken : step k app a = some next) : Agree next ↔ Published a := by
  obtain ⟨channel, led0⟩ := (agree_iff app).mp agree
  rw [agree_iff]
  cases a with
  | expiry =>
    obtain ⟨led, expired, same⟩ := Option.map_eq_some_iff.mp taken
    subst same
    exact ⟨fun _ => trivial, fun _ => ⟨channel, expiry_shownAs k led0 expired⟩⟩
  | event msg success =>
    cases taken
    obtain ⟨event⟩ := msg
    cases event with
    | SensorReading => exact ⟨fun _ => trivial, fun _ => ⟨channel, (led_event_cb_led0 k app.led _).trans led0⟩⟩
    | TempAlert => exact ⟨fun _ => trivial, fun _ => ⟨channel, (led_event_cb_led0 k app.led _).trans led0⟩⟩
    | ButtonPressed =>
      cases success with
      | false =>
        -- `sys_state` has moved on, the channel has not
        refine ⟨?_, fun published => by cases published⟩
        rintro ⟨stale, _⟩
        simp only [deliver, sys_ctrl_button_msg_cb, sys_ctrl_handle_button_press, sys_ctrl_led_msg,
          zbus_chan_pub, ← channel] at stale
        cases state : app.sys_state <;> simp [state] at stale
      | true => exact ⟨fun _ => rfl, fun _ => ⟨rfl, deliver_shownAs k led0 _⟩⟩

/-- In every run from boot, with expiries and messages in any order, the system
    state, the channel and LED0 agree in every state exactly when every
    publication of the run succeeds. -/
theorem agreement_iff_published (documented : k.Documented) {led : LedComponent Timer}
    (init : AfterInit k led) (acts : List AppAction) :
    Always (step k) Agree (boot led) acts ↔ EachStep (step k) (fun _ a => Published a) (boot led) acts := by
  obtain ⟨leds, _⟩ := led_init_spec k documented init
  have shown : Agree (boot led) := (agree_iff _).mpr ⟨rfl, by simp [boot, leds, shownAs]⟩
  refine always_iff_eachStep (I := fun _ => True) (fun _ _ _ _ _ => trivial) ?_ trivial shown
  intro app a next _ agree taken
  exact step_agree_iff k agree taken

/-- Two button presses that are both published keep the agreement. -/
theorem agreement_iff_published_twice :
    Always (step statusTimer) Agree (boot booted)
      [.event ⟨.ButtonPressed⟩ true, .expiry, .event ⟨.ButtonPressed⟩ true] := by
  refine (agreement_iff_published statusTimer statusTimer_documented booted_afterInit _).mpr ?_
  intro next _
  exact ⟨rfl, fun _ _ => ⟨trivial, fun _ _ => ⟨rfl, trivial⟩⟩⟩

/-- One failed publication, and the system is active while the channel and LED0
    still say that it sleeps. -/
theorem failed_publication_disagrees :
    AfterInit statusTimer booted ∧ ∃ app,
      run (step statusTimer) (boot booted) [.event ⟨.ButtonPressed⟩ false] = some app ∧
      app.sys_state = .Active ∧ app.sys_ctl_ch = .Sleep ∧ (app.led.leds 0).mode = .Off ∧ ¬ Agree app := by
  refine ⟨booted_afterInit, _, rfl, rfl, rfl, rfl, ?_⟩
  rintro ⟨channel, _⟩
  cases channel

end ZephyrWorkshop.SysCtrl
