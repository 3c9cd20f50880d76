import ZephyrWorkshop.LedTime
import ZephyrWorkshop.Presses

/-!
The light of the app over time. The whole app runs in milliseconds: presses from
any source, readings, alerts and the expiries of the LED timer, each at its time.
What the presses have brought about is kept in an abstract `Signal`, the system
state and since when LED0 blinks. The pin of LED0 then follows from the signal
and the clock (`light_law`): a failed publication delays what is shown, a second
`SYS_ACTIVE` does not restart the clock, and nothing else reaches LED0.
-/

namespace ZephyrWorkshop.Light
open ZephyrWorkshop.Zephyr ZephyrWorkshop.Led ZephyrWorkshop.LedRuns ZephyrWorkshop.LedPower
open ZephyrWorkshop.LedTime ZephyrWorkshop.SysCtrl ZephyrWorkshop.Presses ZephyrWorkshop.Transition

/-- The app at a later time. -/
def atTime (app : App TimedTimer) (t : Nat) : App TimedTimer :=
  { app with led := { app.led with led_timer := { app.led.led_timer with now := t } } }

/-- A step of the app at a time that has come and before which no expiry is due;
    an expiry is handled when it is due. -/
def appStep (app : App TimedTimer) (a : Nat × Action) : Option (App TimedTimer) :=
  if app.led.led_timer.now ≤ a.1 ∧ a.1 ≤ app.led.led_timer.next.getD a.1 ∧
      (a.2 = .app .expiry → app.led.led_timer.next = some a.1) then
    Presses.step timedTimer (atTime app a.1) a.2
  else none

/-! ### The signal -/

/-- What the presses have brought about: the system state, and since when LED0 blinks. -/
structure Signal where
  sys_state : SysState
  since : Option Nat
deriving DecidableEq, Repr

/-- The clock after a system state was published: only the first ACTIVE starts it. -/
def clock (t : Nat) (since : Option Nat) : SysState → Option Nat
  | .Sleep => none
  | .Active => since.or (some t)

/-- A press at a time, and whether the publication that it causes succeeds. -/
def press (signal : Signal) (p : Nat × Bool) : Signal :=
  ⟨toggled signal.sys_state, if p.2 then clock p.1 signal.since (toggled signal.sys_state) else signal.since⟩

def signalStep (signal : Signal) (a : Nat × Action) : Signal :=
  match pressOf a.2 with
  | none => signal
  | some success => press signal (a.1, success)

def signal (acts : List (Nat × Action)) : Signal := acts.foldl signalStep ⟨.Sleep, none⟩

/-- The presses of a run. -/
def presses (acts : List (Nat × Action)) : List (Nat × Bool) :=
  acts.filterMap fun a => (pressOf a.2).map (fun success => (a.1, success))

theorem signal_presses (acts : List (Nat × Action)) : signal acts = (presses acts).foldl press ⟨.Sleep, none⟩ := by
  rw [presses, List.foldl_filterMap, signal]
  congr 1
  funext signal a
  rw [signalStep]
  cases pressOf a.2 <;> rfl

/-- Where every publication succeeds, LED0 blinks after an odd number of presses, since the last one. -/
theorem foldl_press {ps : List (Nat × Bool)} (succeed : ∀ p ∈ ps, p.2 = true) :
    ps.foldl press ⟨.Sleep, none⟩ =
      ⟨stateAfter ps.length, if ps.length % 2 = 1 then ps.getLast?.map Prod.fst else none⟩ := by
  induction ps using List.reverseRecOn with
  | nil => rfl
  | append_singleton before p ih =>
    have success : p.2 = true := succeed p (by simp)
    have earlier := ih fun q member => succeed q (by simp [member])
    rw [List.foldl_append, earlier, List.foldl_cons, List.foldl_nil, press, if_pos success, stateAfter_succ,
      List.length_append, List.length_singleton]
    congr 1
    by_cases odd : before.length % 2 = 1
    · have even : ¬ (before.length + 1) % 2 = 1 := by omega
      simp [stateAfter, even, clock]
    · have next : (before.length + 1) % 2 = 1 := by omega
      simp [stateAfter, odd, next, clock]

/-! ### LED0 and its clock -/

/-- The pin of LED0 keeps to a clock: so many ticks have been handled, the next
    one is due within a tick, and each has set the pin to its level. -/
def Keeps (led : LedComponent TimedTimer) (start : Nat) : Prop :=
  ∃ n, start + LED_TICK_MS * n ≤ led.led_timer.now ∧ led.led_timer.now ≤ start + LED_TICK_MS * (n + 1) ∧
    led.led_timer.next = some (start + LED_TICK_MS * (n + 1)) ∧ led.pins 0 = level n

/-- While LED0 blinks, a message that changes the mode of LED1 comes when the
    next expiry is a full tick away. -/
def Regular (app : App TimedTimer) (a : Nat × Action) : Prop :=
  (app.led.leds 0).mode = .PowerSignal → Undisturbing app.led (a.1, received a.2)

/-! ### One step -/

/-- What a step of the app does to the LED component: one callback in time. -/
def callback (sys_state : SysState) (a : Action) : LedAction :=
  if pressOf a = some true then .sysCtl (toggled sys_state) else received a

theorem received_press {a : Action} {success : Bool} (press : pressOf a = some success) :
    received a = .event ⟨.ButtonPressed⟩ := by
  cases a with
  | sysctrl_button err success => rfl
  | button_press err success => rfl
  | app a =>
    cases a with
    | expiry => cases press
    | event msg success =>
      obtain ⟨event⟩ := msg
      cases event with
      | ButtonPressed => rfl
      | SensorReading => cases press
      | TempAlert => cases press

section
variable {Timer : Type*} (k : KTimer Timer)

/-- A button message hands the new system state on if it is published. -/
theorem deliver_led (app : App Timer) (success : Bool) :
    Led.step k app.led (if success then .sysCtl (toggled app.sys_state) else .event ⟨.ButtonPressed⟩) =
      some (deliver k success app ⟨.ButtonPressed⟩).led := by
  cases success <;> rfl

theorem step_callback {app next : App Timer} {a : Action} (taken : Presses.step k app a = some next) :
    next.sys_state = (if (pressOf a).isSome then toggled app.sys_state else app.sys_state) ∧
      Led.step k app.led (callback app.sys_state a) = some next.led := by
  rcases step_cases k taken with ⟨success, press, rfl⟩ | ⟨press, led, moved, rfl⟩
  · have moved := deliver_led k app success
    refine ⟨by simp [press, deliver_toggles], ?_⟩
    rw [callback, press]
    cases success with
    | true => exact moved
    | false => exact received_press press ▸ moved
  · refine ⟨by simp [press], ?_⟩
    rw [callback, press]
    exact moved

end

theorem callback_expiry {state : SysState} {a : Action} : callback state a = .expiry ↔ a = .app .expiry := by
  cases a with
  | app a =>
    cases a with
    | expiry => simp [callback, pressOf, received]
    | event msg success =>
      obtain ⟨event⟩ := msg
      cases event with
      | ButtonPressed =>
        simp only [callback, received]
        split <;> simp
      | SensorReading => simp [callback, pressOf, received]
      | TempAlert => simp [callback, pressOf, received]
  | sysctrl_button err success =>
    simp only [callback, received]
    split <;> simp
  | button_press err success =>
    simp only [callback, received]
    split <;> simp

/-- A step of the app in time is one callback of the LED component in time. -/
theorem appStep_callback {app next : App TimedTimer} {a : Nat × Action} (taken : appStep app a = some next) :
    next.sys_state = (if (pressOf a.2).isSome then toggled app.sys_state else app.sys_state) ∧
      timedStep app.led (a.1, callback app.sys_state a.2) = some next.led ∧
      a.1 ≤ app.led.led_timer.next.getD a.1 := by
  by_cases inTime : app.led.led_timer.now ≤ a.1 ∧ a.1 ≤ app.led.led_timer.next.getD a.1 ∧
      (a.2 = .app .expiry → app.led.led_timer.next = some a.1)
  · rw [appStep, if_pos inTime] at taken
    obtain ⟨state, moved⟩ := step_callback timedTimer taken
    refine ⟨state, ?_, inTime.2.1⟩
    rw [timedStep, if_pos ⟨inTime.1, inTime.2.1, fun expiry => inTime.2.2 (callback_expiry.mp expiry)⟩]
    exact moved
  · rw [appStep, if_neg inTime] at taken
    cases taken

theorem received_message (t : Nat) (a : Action) : Message (t, received a) := by
  cases a with
  | app a => cases a <;> simp [Message, received]
  | sysctrl_button err success => simp [Message, received]
  | button_press err success => simp [Message, received]

theorem received_stays (a : Action) : Stays (received a) := by
  cases a with
  | app a =>
    cases a with
    | expiry => simp [Stays, received, command]
    | event msg success =>
      obtain ⟨event⟩ := msg
      cases event <;> simp [Stays, received, command]
  | sysctrl_button err success => simp [Stays, received, command]
  | button_press err success => simp [Stays, received, command]

/-! ### Whole runs -/

/-- The LED component came from `led_init` by callbacks in time. -/
def Reached (led : LedComponent TimedTimer) : Prop :=
  ∃ s₀ acts, AfterInit timedTimer s₀ ∧ (∀ a ∈ acts, Message a) ∧ run timedStep s₀ acts = some led

theorem Reached.next {led next : LedComponent TimedTimer} {a : Nat × LedAction} (reached : Reached led)
    (message : Message a) (taken : timedStep led a = some next) : Reached next := by
  obtain ⟨s₀, acts, init, messages, executed⟩ := reached
  refine ⟨s₀, acts ++ [a], init, ?_, by rw [run_concat, executed]; exact taken⟩
  intro b member
  rcases List.mem_append.mp member with early | last
  · exact messages b early
  · rw [List.mem_singleton.mp last]
    exact message

theorem Reached.before {led : LedComponent TimedTimer} (reached : Reached led) : Before led := by
  obtain ⟨s₀, acts, init, messages, executed⟩ := reached
  exact run_preserves_of_mem (fun _ _ _ before message moved => before_preserved before message moved)
    (before_init init) messages executed

/-- LED0 is off, or blinks by the clock, and no tick is overdue. -/
structure Shows (since : Option Nat) (led : LedComponent TimedTimer) : Prop where
  reached : Reached led
  dark : since = none → (led.leds 0).mode = .Off
  lit : ∀ start ∈ since, ∃ n, OnSchedule start n led ∧ led.led_timer.now ≤ start + LED_TICK_MS * (n + 1)

/-- A message that leaves the clock alone. -/
theorem Shows.message {since : Option Nat} {led next : LedComponent TimedTimer} {a : Nat × LedAction}
    (shows : Shows since led) (stays : Stays a.2) (undisturbing : (led.leds 0).mode = .PowerSignal → Undisturbing led a)
    (tickless : a.2 ≠ .expiry) (taken : timedStep led a = some next) (inTime : a.1 ≤ led.led_timer.next.getD a.1) :
    ∀ start ∈ since, ∃ n, OnSchedule start n next ∧ next.led_timer.now ≤ start + LED_TICK_MS * (n + 1) := by
  intro start blinks
  obtain ⟨n, on, _⟩ := shows.lit start blinks
  obtain ⟨now, onNext⟩ := on.message stays (undisturbing on.power.mode) tickless taken
  rw [on.next] at inTime
  exact ⟨n, onNext, by rw [now]; exact inTime⟩

/-- A system state is published. -/
theorem Shows.publish {since : Option Nat} {led next : LedComponent TimedTimer} {t : Nat} {state : SysState}
    (shows : Shows since led) (taken : timedStep led (t, .sysCtl state) = some next)
    (inTime : t ≤ led.led_timer.next.getD t) : Shows (clock t since state) next := by
  have reached : Reached next := shows.reached.next (by simp [Message]) taken
  obtain ⟨leds, _⟩ := timedStep_after shows.reached.before.consistent taken
  cases state with
  | Sleep =>
    exact ⟨reached, fun _ => by simp [leds, after, command], by simp [clock]⟩
  | Active =>
    cases since with
    | some start =>
      refine ⟨reached, by simp [clock], ?_⟩
      exact shows.message (by simp [Stays, command]) (fun _ _ asks => by simp [command] at asks) (by simp) taken inTime
    | none =>
      refine ⟨reached, by simp [clock], ?_⟩
      rintro start ⟨⟩
      have off : (led.leds 0).mode ≠ .PowerSignal := by simp [shows.dark rfl]
      obtain ⟨s₀, acts, init, messages, executed⟩ := shows.reached
      obtain ⟨on, now⟩ := entered_onSchedule ⟨s₀, acts, led, init, messages, executed, off, taken⟩
      exact ⟨0, on, by omega⟩

/-- Anything else reaches the LED component. -/
theorem Shows.other {since : Option Nat} {led next : LedComponent TimedTimer} {t : Nat} {a : Action}
    (shows : Shows since led) (regular : (led.leds 0).mode = .PowerSignal → Undisturbing led (t, received a))
    (taken : timedStep led (t, received a) = some next) (inTime : t ≤ led.led_timer.next.getD t) : Shows since next := by
  refine ⟨shows.reached.next (received_message t a) taken, ?_, ?_⟩
  · intro asleep
    change (next.leds 0).mode = shownAs .Sleep
    refine received_shownAs timedTimer ?_ (timedStep_step taken).1
    exact shows.dark asleep
  · by_cases expiry : received a = .expiry
    · intro start blinks
      rw [expiry] at taken
      obtain ⟨n, on, _⟩ := shows.lit start blinks
      obtain ⟨time, now, onNext⟩ := on.tick taken
      exact ⟨n + 1, onNext, by rw [now, time]; simp only [LED_TICK_MS]; omega⟩
    · exact shows.message (received_stays a) regular expiry taken inTime

/-- The app shows what the presses have brought about. -/
structure Follows (signal : Signal) (app : App TimedTimer) : Prop where
  state : app.sys_state = signal.sys_state
  led0 : Shows signal.since app.led

theorem step_follows {signal : Signal} {app next : App TimedTimer} {a : Nat × Action} (follows : Follows signal app)
    (regular : Regular app a) (taken : appStep app a = some next) : Follows (signalStep signal a) next := by
  obtain ⟨state, moved, inTime⟩ := appStep_callback taken
  rw [follows.state] at state moved
  rw [signalStep]
  cases pressed : pressOf a.2 with
  | none =>
    rw [callback, pressed] at moved
    exact ⟨by simpa [pressed] using state, follows.led0.other regular moved inTime⟩
  | some success =>
    rw [callback, pressed] at moved
    refine ⟨by simpa [pressed, press] using state, ?_⟩
    cases success with
    | true => exact follows.led0.publish moved inTime
    | false => exact follows.led0.other regular moved inTime

theorem boot_follows {led : LedComponent TimedTimer} (init : AfterInit timedTimer led) :
    Follows ⟨.Sleep, none⟩ (boot led) := by
  obtain ⟨leds, _⟩ := led_init_spec timedTimer timedTimer_documented init
  exact ⟨rfl, ⟨led, [], init, by simp, rfl⟩, fun _ => by simp [boot, leds], by simp⟩

/-- **The light of the app.** In every run of the whole app, whoever presses,
    whichever publications fail and whatever else is received, as long as LED1
    changes its mode at a tick while LED0 blinks: LED0 is dark while no
    `SYS_ACTIVE` is in force, and else its pin keeps to the clock that began when
    `SYS_ACTIVE` was first published. Where no publication fails, it blinks after
    an odd number of presses, by the clock of the last one. -/
theorem light_law {led : LedComponent TimedTimer} (init : AfterInit timedTimer led) {acts : List (Nat × Action)}
    {app : App TimedTimer} (regular : EachStep appStep Regular (boot led) acts)
    (executed : run appStep (boot led) acts = some app) :
    app.sys_state = (signal acts).sys_state ∧
    ((signal acts).since = none → app.led.pins 0 = false) ∧
    (∀ start ∈ (signal acts).since, Keeps app.led start) ∧
    ((∀ p ∈ presses acts, p.2 = true) →
      (signal acts).since = if (presses acts).length % 2 = 1 then (presses acts).getLast?.map Prod.fst else none) := by
  have follows : Follows (acts.foldl signalStep ⟨.Sleep, none⟩) app :=
    EachStep.records signalStep (R := Follows) (C := Regular)
      (fun _ _ _ _ follows regular taken => step_follows follows regular taken) (boot_follows init) regular executed
  have before := follows.led0.reached.before
  refine ⟨follows.state, ?_, ?_, ?_⟩
  · intro asleep
    rw [before.consistent.pins]
    exact before.settled.dark (follows.led0.dark asleep)
  · intro start blinks
    obtain ⟨n, on, early⟩ := follows.led0.lit start blinks
    exact ⟨n, on.now, early, on.next, on.pin⟩
  · intro succeed
    rw [signal_presses, foldl_press succeed]

/-- The component after `led_init` on two ready pins. -/
def timedBoot : LedComponent TimedTimer :=
  (led_init timedTimer ⟨fun _ => true, fun _ => true⟩ (zeroed timedTimer fun _ => true)).1

/-- A press, one that is not published and one that publishes `SYS_ACTIVE` again,
    with two ticks and a reading right after the second. -/
def pressedAgain : List (Nat × Action) :=
  [(3, .button_press 0 true), (13, .app .expiry), (15, .sysctrl_button 0 false), (18, .app (.event ⟨.ButtonPressed⟩ true)),
    (23, .app .expiry), (23, .app (.event ⟨.SensorReading⟩ true))]

theorem light_law_again : ∃ app, run appStep (boot timedBoot) pressedAgain = some app ∧
    app.sys_state = .Active ∧ Keeps app.led 3 := by
  have quiet : ∀ app t a, command (received a) = none → Regular app (t, a) := by
    intro app t a none _ mode asks
    rw [none] at asks
    cases asks
  have regular : EachStep appStep Regular (boot timedBoot) pressedAgain := by
    intro _ first
    refine ⟨quiet _ _ _ rfl, fun _ second => ⟨quiet _ _ _ rfl, fun _ third => ⟨quiet _ _ _ rfl, fun _ fourth =>
      ⟨quiet _ _ _ rfl, fun _ fifth => ⟨quiet _ _ _ rfl, fun _ sixth => ⟨?_, trivial⟩⟩⟩⟩⟩⟩
    cases first
    cases second
    cases third
    cases fourth
    cases fifth
    exact fun _ _ _ _ => rfl
  refine ⟨_, rfl, ?_⟩
  obtain ⟨state, _, keeps, _⟩ := light_law ⟨⟨fun _ => true, fun _ => true⟩, fun _ => true, rfl⟩ regular
    (show run appStep (boot timedBoot) pressedAgain = some _ from rfl)
  exact ⟨state, keeps 3 rfl⟩

end ZephyrWorkshop.Light
