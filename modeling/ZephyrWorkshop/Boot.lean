import ZephyrWorkshop.SysCtrl

/-!
The application while it boots. The listeners of both channels are registered
from the start, so messages arrive before, between and after the initialisers:
the button at priority 80, the system controller at 85, the LEDs at 90. Until
`led_init` the timer has no expiry function. `led_init` itself takes it for
granted that the system sleeps and that no LED uses the timer yet, and it is
right in exactly those runs in which that is so (`boot_order_iff`).
-/

namespace ZephyrWorkshop.Boot
open ZephyrWorkshop.Zephyr ZephyrWorkshop.Led ZephyrWorkshop.LedRuns
open ZephyrWorkshop.SysCtrl ZephyrWorkshop.Transition

/-- The last initialiser that returned; `LedFailed` where `led_init` returned an error. -/
inductive Stage
  | Start
  | ButtonStarted
  | SysCtrlStarted
  | Booted
  | LedFailed
deriving DecidableEq, Repr

structure BootState (Timer : Type*) where
  stage : Stage
  app : App Timer

/-- The next initialiser, with the answers of the GPIO driver, a message of
    `event_ch`, or an expiry of the LED timer. -/
inductive BootAction
  | init (gpio : Gpio)
  | event (msg : EventMsg)
  | expiry

variable {Timer : Type*} (k : KTimer Timer)

/-- The initialisers in the order of their priorities. The first two touch
    neither the LEDs nor `sys_state`. -/
def sys_init (s : BootState Timer) (gpio : Gpio) : Option (BootState Timer) :=
  match s.stage with
  | .Start => some { s with stage := .ButtonStarted }
  | .ButtonStarted => some { s with stage := .SysCtrlStarted }
  | .SysCtrlStarted =>
    let (led, status) := led_init k gpio s.app.led
    some ⟨if status = .ok () then .Booted else .LedFailed, { s.app with led := led }⟩
  | .Booted => none
  | .LedFailed => none

/-- Every publication succeeds. An expiry calls the handler once `k_timer_init`
    has set it. -/
def step (s : BootState Timer) : BootAction → Option (BootState Timer)
  | .init gpio => sys_init k s gpio
  | .event msg => some { s with app := deliver k true s.app msg }
  | .expiry =>
    if s.stage = .Booted then (SysCtrl.step k s.app .expiry).map (fun app => { s with app := app })
    else if k.running s.app.led.led_timer then
      some { s with app.led.led_timer := k.expire s.app.led.led_timer }
    else none

/-- The static data, before the first initialiser. -/
def static (pins : Fin 2 → Bool) : BootState Timer := ⟨.Start, boot (zeroed k pins)⟩

/-- What has to hold once `led_init` has succeeded: LED0 shows the system state,
    and the timer runs exactly for the LEDs that are not off. -/
def Shown (s : BootState Timer) : Prop :=
  s.stage = .Booted →
    ((s.app.led.leds 0).mode = .PowerSignal ↔ s.app.sys_state = .Active) ∧
      (k.running s.app.led.led_timer = true ↔ ∃ i, (s.app.led.leds i).mode ≠ .Off)

/-- Both pins are ready and can be configured. -/
def Works (gpio : Gpio) : Prop := ∀ i, gpio.ready i = true ∧ gpio.configured i = true

/-- A `led_init` that succeeds finds the system asleep and LED1 off. -/
def Untouched (s : BootState Timer) : BootAction → Prop
  | .init gpio => s.stage = .SysCtrlStarted → Works gpio →
    s.app.sys_state = .Sleep ∧ (s.app.led.leds 1).mode = .Off
  | _ => True

/-! ### `led_init` on any component -/

theorem led_init_works {gpio : Gpio} (works : Works gpio) (s : LedComponent Timer) :
    led_init k gpio s = (set_led_mode k { set_led_state (set_led_state s 0 false) 1 false with
      led_timer := k.k_timer_init s.led_timer } 0 .Off, .ok ()) := by
  simp [led_init, works 0, works 1]

theorem led_init_fails {gpio : Gpio} (broken : ¬ Works gpio) (s : LedComponent Timer) :
    (led_init k gpio s).2 ≠ .ok () ∧ (led_init k gpio s).1 = s := by
  unfold led_init
  split
  · simp
  · split
    · simp
    · rename_i ready configured
      refine absurd ?_ broken
      intro i
      fin_cases i <;> simp_all

/-- `led_init` turns LED0 off and keeps the mode of LED1. -/
theorem led_init_modes {gpio : Gpio} (works : Works gpio) (s : LedComponent Timer) :
    ((led_init k gpio s).1.leds 0).mode = .Off ∧ ((led_init k gpio s).1.leds 1).mode = (s.leds 1).mode := by
  rw [led_init_works k works]
  have moved := set_led_mode_leds k { set_led_state (set_led_state s 0 false) 1 false with
    led_timer := k.k_timer_init s.led_timer } 0 .Off
  rw [show (0 : UInt8) = UInt8.ofNat (0 : Fin 2) from rfl]
  dsimp only at moved ⊢
  rw [moved]
  simp

/-- Where LED0 is off already, `led_init` leaves the timer stopped, also for LED1. -/
theorem led_init_stopped (documented : k.Documented) {gpio : Gpio} (works : Works gpio) {s : LedComponent Timer}
    (off : (s.leds 0).mode = .Off) : k.running (led_init k gpio s).1.led_timer = false := by
  rw [led_init_works k works]
  have unchanged := set_led_mode_eq k { set_led_state (set_led_state s 0 false) 1 false with
    led_timer := k.k_timer_init s.led_timer } 0 .Off
  rw [if_pos (by simp [off])] at unchanged
  rw [show (0 : UInt8) = UInt8.ofNat (0 : Fin 2) from rfl]
  dsimp only at unchanged ⊢
  rw [unchanged]
  exact documented.init_stopped _

theorem led_init_ticks (documented : k.Documented) {gpio : Gpio} (works : Works gpio) (s : LedComponent Timer) :
    Ticks k (led_init k gpio s).1.led_timer := by
  rw [led_init_works k works]
  refine set_led_mode_ticks k documented (s := { set_led_state (set_led_state s 0 false) 1 false with
    led_timer := k.k_timer_init s.led_timer }) 0 .Off ?_
  exact ticks_stopped k (documented.init_stopped _)

/-! ### Every step -/

/-- LED0 shows some system state, and the actual one until `led_init`; from then
    on the timer has the period of a tick where it runs. -/
structure Framed (s : BootState Timer) : Prop where
  shows : ∃ state, (s.app.led.leds 0).mode = shownAs state
  unbooted : s.stage ≠ .Booted → (s.app.led.leds 0).mode = shownAs s.app.sys_state
  ticks : s.stage = .Booted → Ticks k s.app.led.led_timer

theorem static_framed (pins : Fin 2 → Bool) : Framed k (static k pins) := by
  refine ⟨⟨.Sleep, rfl⟩, fun _ => rfl, ?_⟩
  intro booted
  cases booted

/-- Once booted, an expiry is one of the application, and before it only the
    timer sees it. -/
theorem step_expiry {s next : BootState Timer} (taken : step k s .expiry = some next) :
    next.stage = s.stage ∧ next.app.sys_state = s.app.sys_state ∧
      ((s.stage = .Booted ∧ Led.step k s.app.led .expiry = some next.app.led) ∨
        (s.stage ≠ .Booted ∧ next.app.led.leds = s.app.led.leds)) := by
  by_cases booted : s.stage = .Booted
  · simp only [step, booted, if_true] at taken
    obtain ⟨app, expired, rfl⟩ := Option.map_eq_some_iff.mp taken
    obtain ⟨led, handled, rfl⟩ := Option.map_eq_some_iff.mp expired
    exact ⟨booted.symm, rfl, .inl ⟨booted, handled⟩⟩
  · by_cases running : k.running s.app.led.led_timer = true
    · simp only [step, booted, running, if_false, if_true, Option.some.injEq] at taken
      subst taken
      exact ⟨rfl, rfl, .inr ⟨booted, rfl⟩⟩
    · simp [step, booted, running] at taken

/-- An initialiser is one of the first two, or `led_init` with its result. -/
theorem step_init {s next : BootState Timer} {gpio : Gpio} (taken : step k s (.init gpio) = some next) :
    (s.stage ≠ .SysCtrlStarted ∧ s.stage ≠ .Booted ∧ next.stage ≠ .Booted ∧ next.app = s.app) ∨
    (s.stage = .SysCtrlStarted ∧ ¬ Works gpio ∧ next.stage ≠ .Booted ∧ next.app = s.app) ∨
    (s.stage = .SysCtrlStarted ∧ Works gpio ∧ next.stage = .Booted ∧
      next.app = { s.app with led := (led_init k gpio s.app.led).1 }) := by
  cases stage : s.stage with
  | Start =>
    simp only [step, sys_init, stage, Option.some.injEq] at taken
    subst taken
    exact .inl ⟨by simp, by simp, by simp, rfl⟩
  | ButtonStarted =>
    simp only [step, sys_init, stage, Option.some.injEq] at taken
    subst taken
    exact .inl ⟨by simp, by simp, by simp, rfl⟩
  | SysCtrlStarted =>
    simp only [step, sys_init, stage, Option.some.injEq] at taken
    subst taken
    by_cases works : Works gpio
    · have ok : (led_init k gpio s.app.led).2 = .ok () := by rw [led_init_works k works]
      exact .inr (.inr ⟨rfl, works, by simp [ok], rfl⟩)
    · obtain ⟨failed, same⟩ := led_init_fails k works s.app.led
      refine .inr (.inl ⟨rfl, works, by simp [failed], ?_⟩)
      dsimp only
      rw [same]
  | Booted => simp [step, sys_init, stage] at taken
  | LedFailed => simp [step, sys_init, stage] at taken

theorem step_framed (documented : k.Documented) {s next : BootState Timer} {a : BootAction} (framed : Framed k s)
    (taken : step k s a = some next) : Framed k next := by
  obtain ⟨⟨state, shows⟩, unbooted, ticks⟩ := framed
  cases a with
  | init gpio =>
    rcases step_init k taken with ⟨_, notYet, early, same⟩ | ⟨ready, _, early, same⟩ | ⟨_, works, started, same⟩
    · rw [← same] at unbooted shows
      exact ⟨⟨state, shows⟩, fun _ => unbooted notYet, fun booted => absurd booted early⟩
    · rw [← same] at unbooted shows
      exact ⟨⟨state, shows⟩, fun _ => unbooted (by simp [ready]), fun booted => absurd booted early⟩
    · refine ⟨⟨.Sleep, ?_⟩, fun late => absurd started late, fun _ => ?_⟩
      · rw [same]
        exact (led_init_modes k works s.app.led).1
      · rw [same]
        exact led_init_ticks k documented works s.app.led
  | event msg =>
    cases taken
    refine ⟨?_, fun early => deliver_shownAs k (unbooted early) msg, fun booted => ?_⟩
    swap
    · exact deliver_preserves k (P := fun led => Ticks k led.led_timer)
        (fun _ _ _ kept moved => step_ticks k documented kept moved) (ticks booted) true msg
    by_cases button : msg.event = .ButtonPressed
    · obtain ⟨event⟩ := msg
      cases button
      exact ⟨_, led_sys_ctl_cb_led0 k _ _⟩
    · dsimp only
      rw [deliver_other k true s.app button]
      exact ⟨state, (led_event_cb_led0 k s.app.led msg).trans shows⟩
  | expiry =>
    obtain ⟨stage, sys_state, ⟨before, expired⟩ | ⟨early, same⟩⟩ := step_expiry k taken
    · exact ⟨⟨state, expiry_shownAs k shows expired⟩, fun late => absurd (stage.trans before) late,
        fun _ => step_ticks k documented (ticks before) expired⟩
    · refine ⟨⟨state, by rw [same]; exact shows⟩, ?_, fun booted => absurd (stage ▸ booted) early⟩
      intro unfinished
      rw [same, sys_state]
      exact unbooted (stage ▸ unfinished)

theorem shownAs_iff (state : SysState) : shownAs state = .PowerSignal ↔ state = .Active := by
  cases state <;> simp [shownAs]

/-- Which of the two states LED0 shows, where it shows one of them. -/
theorem shows_actual {mode : LedMode} {state actual : SysState} (shows : mode = shownAs state)
    (active : mode = .PowerSignal ↔ actual = .Active) : mode = shownAs actual := by
  rw [shows, shownAs_iff] at active
  cases state with
  | Active => rw [shows, active.mp rfl]
  | Sleep =>
    cases actual with
    | Sleep => exact shows
    | Active => exact absurd (active.mpr rfl) (by simp)

/-- What `led_init` leaves is right exactly where it found the system asleep and
    LED1 off. -/
theorem led_init_shown_iff (documented : k.Documented) {s : BootState Timer} (framed : Framed k s)
    (ready : s.stage = .SysCtrlStarted) {gpio : Gpio} (works : Works gpio) :
    Shown k ⟨.Booted, { s.app with led := (led_init k gpio s.app.led).1 }⟩ ↔
      s.app.sys_state = .Sleep ∧ (s.app.led.leds 1).mode = .Off := by
  obtain ⟨off, kept⟩ := led_init_modes k works s.app.led
  have led0 : (s.app.led.leds 0).mode = shownAs s.app.sys_state := framed.unbooted (by simp [ready])
  cases state : s.app.sys_state with
  | Active =>
    constructor
    · intro shown
      have active := (shown rfl).1.mpr state
      dsimp only at active
      rw [off] at active
      cases active
    · rintro ⟨asleep, _⟩
      cases asleep
  | Sleep =>
    have stopped := led_init_stopped k documented works (led0.trans (by rw [state, shownAs]))
    constructor
    · intro shown
      refine ⟨rfl, ?_⟩
      by_contra lit
      have running := (shown rfl).2.mpr ⟨1, by dsimp only; rwa [kept]⟩
      dsimp only at running
      rw [stopped] at running
      cases running
    · rintro ⟨_, dark⟩ _
      dsimp only
      refine ⟨by simp [off, state], ?_⟩
      rw [stopped, Fin.exists_fin_two, kept]
      simp [off, dark]

/-- The timer runs as it should: the second half of `Shown`, as the LED
    component keeps it. -/
theorem running_eq_iff (led : LedComponent Timer) :
    k.running led.led_timer = any_led_needs_timer led ↔
      (k.running led.led_timer = true ↔ ∃ i, (led.leds i).mode ≠ .Off) := by
  rw [← any_led_needs_timer_iff, Bool.eq_iff_iff]

/-- Of all steps, only a `led_init` that finds something touched loses what has
    to be shown. -/
theorem step_shown_iff (documented : k.Documented) {s next : BootState Timer} {a : BootAction} (framed : Framed k s)
    (shown : Shown k s) (taken : step k s a = some next) : Shown k next ↔ Untouched s a := by
  cases a with
  | init gpio =>
    rcases step_init k taken with ⟨notReady, _, notBooted, _⟩ | ⟨_, broken, notBooted, _⟩ | ⟨ready, works, started, same⟩
    · exact ⟨fun _ ready _ => absurd ready notReady, fun _ booted => absurd booted notBooted⟩
    · exact ⟨fun _ _ works => absurd works broken, fun _ booted => absurd booted notBooted⟩
    · obtain ⟨stage, app⟩ := next
      dsimp only at started same
      subst started same
      rw [led_init_shown_iff k documented framed ready works]
      exact ⟨fun untouched _ _ => untouched, fun untouched => untouched ready works⟩
  | event msg =>
    cases taken
    refine ⟨fun _ => trivial, fun _ booted => ?_⟩
    obtain ⟨active, running⟩ := shown booted
    obtain ⟨state, shows⟩ := framed.shows
    refine ⟨?_, (running_eq_iff k _).mp ?_⟩
    · dsimp only
      rw [deliver_shownAs k (shows_actual shows active) msg, shownAs_iff]
    · have kept : k.running (deliver k true s.app msg).led.led_timer =
          any_led_needs_timer (deliver k true s.app msg).led ∧ Ticks k (deliver k true s.app msg).led.led_timer :=
        deliver_preserves k
          (P := fun led => k.running led.led_timer = any_led_needs_timer led ∧ Ticks k led.led_timer)
          (fun _ _ _ ok moved => ⟨step_running k documented ok.1 ok.2 moved, step_ticks k documented ok.2 moved⟩)
          ⟨(running_eq_iff k _).mpr running, framed.ticks booted⟩ true msg
      exact kept.1
  | expiry =>
    refine ⟨fun _ => trivial, fun _ booted => ?_⟩
    obtain ⟨stage, sys_state, ⟨before, handled⟩ | ⟨early, _⟩⟩ := step_expiry k taken
    · obtain ⟨active, running⟩ := shown before
      obtain ⟨state, shows⟩ := framed.shows
      refine ⟨?_, (running_eq_iff k _).mp ?_⟩
      · rw [expiry_shownAs k (shows_actual shows active) handled, sys_state, shownAs_iff]
      · exact step_running k documented ((running_eq_iff k _).mpr running) (framed.ticks before) handled
    · exact absurd (stage ▸ booted) early

/-- In every order of initialisers, messages and expiries: from a successful
    `led_init` on, LED0 shows the system state and the timer runs for the LEDs
    that need it, exactly in those runs in which that `led_init` finds the
    system asleep and LED1 off. -/
theorem boot_order_iff (documented : k.Documented) (pins : Fin 2 → Bool) (acts : List BootAction) :
    Always (step k) (Shown k) (static k pins) acts ↔
      EachStep (step k) Untouched (static k pins) acts := by
  refine always_iff_eachStep (I := Framed k) ?_ ?_ (static_framed k pins) ?_
  · intro s a next framed taken
    exact step_framed k documented framed taken
  · intro s a next framed shown taken
    exact step_shown_iff k documented framed shown taken
  · rintro ⟨⟩

def workingGpio : Gpio := ⟨fun _ => true, fun _ => true⟩

/-- Two presses between the initialisers leave `led_init` a system that sleeps. -/
theorem boot_order_iff_two_presses :
    Always (step statusTimer) (Shown statusTimer) (static statusTimer fun _ => false)
      [.init workingGpio, .event ⟨.ButtonPressed⟩, .init workingGpio, .event ⟨.ButtonPressed⟩, .init workingGpio] := by
  refine (boot_order_iff statusTimer statusTimer_documented (fun _ => false) _).mpr ?_
  intro first button
  obtain rfl := Option.some.inj button
  refine ⟨fun ready => absurd ready (by decide), ?_⟩
  intro second pressed
  obtain rfl := Option.some.inj pressed
  refine ⟨trivial, ?_⟩
  intro third sysCtrl
  obtain rfl := Option.some.inj sysCtrl
  refine ⟨fun ready => absurd ready (by decide), ?_⟩
  intro fourth again
  obtain rfl := Option.some.inj again
  exact ⟨trivial, fun _ _ => ⟨fun _ _ => ⟨rfl, rfl⟩, trivial⟩⟩

/-- After a press before the initialisers, the system is active with LED0 off.
    After a reading, LED1 is in a pulse that no expiry ends. -/
theorem early_messages_lost :
    (∃ s, run (step statusTimer) (static statusTimer fun _ => false)
        [.event ⟨.ButtonPressed⟩, .init workingGpio, .init workingGpio, .init workingGpio] = some s ∧
      s.stage = .Booted ∧ s.app.sys_state = .Active ∧ (s.app.led.leds 0).mode = .Off ∧ ¬ Shown statusTimer s) ∧
    ∃ s, run (step statusTimer) (static statusTimer fun _ => false)
        [.event ⟨.SensorReading⟩, .init workingGpio, .init workingGpio, .init workingGpio] = some s ∧
      s.stage = .Booted ∧ (s.app.led.leds 1).mode = .SensorPulse ∧
      statusTimer.running s.app.led.led_timer = false ∧ ¬ Shown statusTimer s := by
  refine ⟨⟨_, rfl, rfl, rfl, rfl, ?_⟩, ⟨_, rfl, rfl, rfl, rfl, ?_⟩⟩
  · intro shown
    have active := (shown rfl).1.mpr rfl
    revert active
    decide
  · intro shown
    have running := (shown rfl).2.mpr ⟨1, by decide⟩
    revert running
    decide

end ZephyrWorkshop.Boot
