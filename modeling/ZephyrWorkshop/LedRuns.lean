import Mathlib.Tactic.FinCases
import ZephyrWorkshop.Led

/-!
Whole runs of the LED component. `tick` and `request` say what the timer and a
mode request do to one LED; two LEDs that only know these form the abstract
machine `advance`, which has neither a timer nor pins. The component refines it:
as long as its timer and its pins agree with its LEDs (`Consistent`), every
callback moves its LEDs as `advance` does, and leaves them in agreement.
-/

namespace ZephyrWorkshop.LedRuns
open ZephyrWorkshop.Zephyr ZephyrWorkshop.Led ZephyrWorkshop.Transition

/-! ### One LED -/

/-- One timer expiry, seen from one LED. -/
def tick (led : LedInstance) : LedInstance :=
  match led.mode with
  | .Off => { led with state := false }
  | .PowerSignal =>
    { led with
      tick_count := led.tick_count + 1
      state := led.tick_count % (POWER_ON_TICKS + POWER_OFF_TICKS) < POWER_ON_TICKS }
  | .SensorPulse =>
    if led.tick_count < PULSE_ON_TICKS then { led with tick_count := led.tick_count + 1, state := true }
    else { led with mode := .Off, tick_count := 0, state := false }
  | .Alarm =>
    if led.tick_count + 1 ≥ led.duration_ticks then
      { led with mode := .Off, tick_count := 0, duration_ticks := 0, state := false }
    else
      { led with
        tick_count := led.tick_count + 1
        state := led.tick_count % (ALARM_ON_TICKS + ALARM_OFF_TICKS) < ALARM_ON_TICKS }

/-- One mode request, seen from the LED it is for. -/
def request (mode : LedMode) (led : LedInstance) : LedInstance :=
  if led.mode = mode then led
  else
    { mode := mode
      tick_count := 0
      duration_ticks := if mode = .Alarm then ALARM_DURATION_TICKS else led.duration_ticks
      state := if mode = .Off then false else led.state }

/-- What every reachable LED satisfies by itself. -/
structure Settled (led : LedInstance) : Prop where
  dark : led.mode = .Off → led.state = false
  pulse : led.mode = .SensorPulse → led.tick_count ≤ PULSE_ON_TICKS
  alarm : led.mode = .Alarm → led.duration_ticks = ALARM_DURATION_TICKS ∧ led.tick_count < led.duration_ticks

/-- A counter below some limit does not wrap with its next tick. -/
theorem toNat_next_tick {count limit : UInt32} (early : count < limit) : (count + 1).toNat = count.toNat + 1 := by
  have below := UInt32.lt_iff_toNat_lt.mp early
  have bounded := limit.toNat_lt
  rw [UInt32.toNat_add, UInt32.toNat_one]
  omega

theorem tick_settled {led : LedInstance} (settled : Settled led) : Settled (tick led) := by
  cases mode : led.mode with
  | Off => constructor <;> simp [tick, mode]
  | PowerSignal => constructor <;> simp [tick, mode]
  | SensorPulse =>
    by_cases early : led.tick_count < PULSE_ON_TICKS
    · constructor <;> simp only [tick, mode, early, ↓reduceIte, reduceCtorEq, false_implies]
      intro _
      rw [UInt32.le_iff_toNat_le, toNat_next_tick early]
      exact UInt32.lt_iff_toNat_lt.mp early
    · constructor <;> simp [tick, mode, early]
  | Alarm =>
    by_cases elapsed : led.tick_count + 1 ≥ led.duration_ticks
    · constructor <;> simp [tick, mode, elapsed]
    · constructor <;> simp only [tick, mode, elapsed, ↓reduceIte, reduceCtorEq, false_implies]
      intro _
      exact ⟨(settled.alarm mode).1, UInt32.not_le.mp elapsed⟩

theorem request_settled {led : LedInstance} (mode : LedMode) (settled : Settled led) :
    Settled (request mode led) := by
  by_cases same : led.mode = mode
  · simpa [request, same] using settled
  · cases mode with
    | Off => constructor <;> simp [request, same]
    | PowerSignal => constructor <;> simp [request, same]
    | SensorPulse => constructor <;> simp [request, same, PULSE_ON_TICKS]
    | Alarm => constructor <;> simp [request, same, ALARM_DURATION_TICKS]

@[simp] theorem request_mode (mode : LedMode) (led : LedInstance) : (request mode led).mode = mode := by
  by_cases same : led.mode = mode <;> simp [request, same]

/-! ### The two LEDs together -/

/-- The mode request that an action makes, if it makes one. -/
def command : LedAction → Option (Fin 2 × LedMode)
  | .sysCtl .Sleep => some (0, .Off)
  | .sysCtl .Active => some (0, .PowerSignal)
  | .event ⟨.SensorReading⟩ => some (1, .SensorPulse)
  | .event ⟨.TempAlert⟩ => some (1, .Alarm)
  | .event ⟨.ButtonPressed⟩ => none
  | .shell [_, index, arg] =>
    if inside : (UInt8.ofNat index.head.toNat - 48).toNat < 2 then
      (mode_of_arg arg).map (fun mode => (⟨_, inside⟩, mode))
    else none
  | .shell _ => none
  | .expiry => none

/-- The LEDs after an action: an expiry ticks both, a request reaches its own
    LED, and no LED looks at the other. -/
def after (leds : Fin 2 → LedInstance) (a : LedAction) : Fin 2 → LedInstance :=
  if a = .expiry then fun i => tick (leds i)
  else
    match command a with
    | some (i, mode) => Function.update leds i (request mode (leds i))
    | none => leds

/-- The abstract machine: an expiry needs an LED that is not off. -/
def advance (leds : Fin 2 → LedInstance) (a : LedAction) : Option (Fin 2 → LedInstance) :=
  if a = .expiry ∧ ∀ i, (leds i).mode = .Off then none else some (after leds a)

variable {Timer : Type*} (k : KTimer Timer)

/-- A timer that runs was started with the period of a tick. -/
def Ticks (t : Timer) : Prop := k.running t = true → k.period t = LED_TICK_MS

/-- The pins show the states of the LEDs, and the timer runs for those that are
    not off, with the period of a tick. -/
structure Consistent (s : LedComponent Timer) : Prop where
  pins : s.pins = fun i => (s.leds i).state
  timer : k.running s.led_timer = any_led_needs_timer s
  ticks : Ticks k s.led_timer

theorem any_led_needs_timer_iff (s : LedComponent Timer) :
    any_led_needs_timer s = true ↔ ∃ i, (s.leds i).mode ≠ .Off := by
  simp [any_led_needs_timer, mode_needs_timer, Fin.exists_fin_two]

@[simp] theorem setLed_leds (s : LedComponent Timer) (i : Fin 2) (led : LedInstance) :
    (s.setLed i led).leds = Function.update s.leds i led := rfl
@[simp] theorem setLed_pins (s : LedComponent Timer) (i : Fin 2) (led : LedInstance) :
    (s.setLed i led).pins = s.pins := rfl
@[simp] theorem setLed_timer (s : LedComponent Timer) (i : Fin 2) (led : LedInstance) :
    (s.setLed i led).led_timer = s.led_timer := rfl
@[simp] theorem set_led_state_leds (s : LedComponent Timer) (i : Fin 2) (state : Bool) :
    (set_led_state s i state).leds = Function.update s.leds i { s.leds i with state := state } := rfl
@[simp] theorem set_led_state_pins (s : LedComponent Timer) (i : Fin 2) (state : Bool) :
    (set_led_state s i state).pins = Function.update s.pins i state := rfl
@[simp] theorem set_led_state_timer (s : LedComponent Timer) (i : Fin 2) (state : Bool) :
    (set_led_state s i state).led_timer = s.led_timer := rfl
@[simp] theorem update_timer_state_leds (s : LedComponent Timer) : (update_timer_state k s).leds = s.leds := by
  unfold update_timer_state; split <;> rfl
@[simp] theorem update_timer_state_pins (s : LedComponent Timer) : (update_timer_state k s).pins = s.pins := by
  unfold update_timer_state; split <;> rfl

/-- The status of the timer right after it was brought up to date. -/
theorem update_timer_state_running (documented : k.Documented) (s : LedComponent Timer) :
    k.running (update_timer_state k s).led_timer = any_led_needs_timer s := by
  unfold update_timer_state
  split
  case isTrue needs => rw [documented.start_runs, needs]
  case isFalse idle => rw [documented.stop_stopped, Bool.not_eq_true _ |>.mp idle]

/-- A stopped timer ticks for nobody. -/
theorem ticks_stopped {t : Timer} (stopped : k.running t = false) : Ticks k t := by
  intro running
  rw [stopped] at running
  cases running

theorem update_timer_state_ticks (documented : k.Documented) (s : LedComponent Timer) :
    Ticks k (update_timer_state k s).led_timer := by
  unfold update_timer_state
  split
  · exact fun _ => documented.start_period _ _ _
  · exact ticks_stopped k (documented.stop_stopped _)

/-- The expiry of a timer that ticks does not end it. -/
theorem expire_ticks (documented : k.Documented) {t : Timer} (ticks : Ticks k t) (running : k.running t = true) :
    k.running (k.expire t) = true ∧ Ticks k (k.expire t) := by
  have period : k.period t = LED_TICK_MS := ticks running
  constructor
  · rw [documented.expire_running t running, period]
    rfl
  · exact fun _ => (documented.expire_period t).trans period

/-- One LED that is not off is enough to start the timer. -/
theorem update_timer_state_lit {s : LedComponent Timer} {i : Fin 2} (lit : (s.leds i).mode ≠ .Off) :
    update_timer_state k s = { s with led_timer := k.k_timer_start s.led_timer LED_TICK_MS LED_TICK_MS } := by
  rw [update_timer_state, if_pos ((any_led_needs_timer_iff s).mpr ⟨i, lit⟩)]

/-- Whether a timer is needed depends on the modes alone. -/
theorem any_led_needs_timer_congr {s t : LedComponent Timer}
    (modes : ∀ i, (s.leds i).mode = (t.leds i).mode) : any_led_needs_timer s = any_led_needs_timer t := by
  simp [any_led_needs_timer, modes]

theorem any_led_needs_timer_setLed {s : LedComponent Timer} {i : Fin 2} {led : LedInstance}
    (same : led.mode = (s.leds i).mode) : any_led_needs_timer (s.setLed i led) = any_led_needs_timer s := by
  refine any_led_needs_timer_congr (fun j => ?_)
  by_cases here : j = i
  · subst here
    simp [same]
  · simp [here]

theorem any_led_needs_timer_set_led_state (s : LedComponent Timer) (i : Fin 2) (state : Bool) :
    any_led_needs_timer (set_led_state s i state) = any_led_needs_timer s := by
  show any_led_needs_timer (s.setLed i { s.leds i with state := state }) = _
  exact any_led_needs_timer_setLed rfl

/-- Pins that show the states still do where a new state is written to its pin. -/
theorem shown_update {leds : Fin 2 → LedInstance} {pins : Fin 2 → Bool} (shown : pins = fun j => (leds j).state)
    (i : Fin 2) (led : LedInstance) :
    Function.update pins i led.state = fun j => (Function.update leds i led j).state := by
  funext j
  by_cases here : j = i
  · subst here
    simp
  · simp [here, shown]

theorem set_led_state_shown {s : LedComponent Timer} (shown : s.pins = fun j => (s.leds j).state) (i : Fin 2)
    (state : Bool) : (set_led_state s i state).pins = fun j => ((set_led_state s i state).leds j).state :=
  shown_update shown i { s.leds i with state := state }

/-- An assignment that keeps the state leaves the pins right as they are. -/
theorem setLed_shown {s : LedComponent Timer} (shown : s.pins = fun j => (s.leds j).state) {i : Fin 2}
    {led : LedInstance} (same : led.state = (s.leds i).state) :
    (s.setLed i led).pins = fun j => ((s.setLed i led).leds j).state := by
  have written := shown_update shown i led
  rw [same, ← congrFun shown i, Function.update_eq_self] at written
  exact written

/-- The switch of `update_led` moves the LED as `tick` does, but for its state. -/
theorem update_led_mode_spec (s : LedComponent Timer) (i : Fin 2) :
    (update_led_mode k s i).1.leds =
      Function.update s.leds i { tick (s.leds i) with state := (s.leds i).state } ∧
    (update_led_mode k s i).1.pins = s.pins ∧ (update_led_mode k s i).2 = (tick (s.leds i)).state := by
  cases mode : (s.leds i).mode with
  | Off =>
    simp only [update_led_mode, tick, mode]
    rw [← mode]
    simp
  | PowerSignal => simp [update_led_mode, tick, mode]
  | SensorPulse =>
    by_cases early : (s.leds i).tick_count < PULSE_ON_TICKS
    · simp [update_led_mode, tick, mode, early]
    · simp [update_led_mode, tick, mode, early]
  | Alarm =>
    by_cases elapsed : (s.leds i).tick_count + 1 ≥ (s.leds i).duration_ticks
    · simp [update_led_mode, tick, mode, elapsed]
    · simp [update_led_mode, tick, mode, elapsed]

/-- The timer still runs exactly for the LEDs that are not off, whether the
    switch ended a mode or not. -/
theorem update_led_mode_running (documented : k.Documented) {s : LedComponent Timer} (i : Fin 2)
    (ok : k.running s.led_timer = any_led_needs_timer s) :
    k.running (update_led_mode k s i).1.led_timer = any_led_needs_timer (update_led_mode k s i).1 := by
  have ended : ∀ t : LedComponent Timer,
      k.running (update_timer_state k t).led_timer = any_led_needs_timer (update_timer_state k t) := by
    intro t
    rw [update_timer_state_running k documented]
    exact any_led_needs_timer_congr (by simp)
  have kept : ∀ led : LedInstance, led.mode = (s.leds i).mode →
      k.running (s.setLed i led).led_timer = any_led_needs_timer (s.setLed i led) := by
    intro led same
    rw [setLed_timer, ok, any_led_needs_timer_setLed same]
  unfold update_led_mode
  dsimp only
  split
  · exact ok
  · exact kept _ rfl
  · split
    · exact kept _ rfl
    · exact ended _
  · split
    · exact ended _
    · exact kept _ rfl

theorem update_led_eq (s : LedComponent Timer) (i : Fin 2) :
    update_led k s i =
      if (tick (s.leds i)).state ≠ (s.leds i).state then
        set_led_state (update_led_mode k s i).1 i (tick (s.leds i)).state
      else (update_led_mode k s i).1 := by
  obtain ⟨leds, _, state⟩ := update_led_mode_spec k s i
  have before : ((update_led_mode k s i).1.leds i).state = (s.leds i).state := by simp [leds]
  rw [← state, ← before]
  rfl

/-- One turn of the handler's loop moves its LED as `tick` does. -/
theorem update_led_leds (s : LedComponent Timer) (i : Fin 2) :
    (update_led k s i).leds = Function.update s.leds i (tick (s.leds i)) := by
  obtain ⟨leds, _, _⟩ := update_led_mode_spec k s i
  rw [update_led_eq]
  by_cases same : (tick (s.leds i)).state = (s.leds i).state
  · -- nothing is written: the LED already has the state that `tick` gives it
    rw [if_neg (not_not_intro same), leds, ← same]
  · rw [if_pos same, set_led_state_leds, leds]
    simp

theorem update_led_pins {s : LedComponent Timer} (i : Fin 2) (shown : s.pins = fun j => (s.leds j).state) :
    (update_led k s i).pins = fun j => ((update_led k s i).leds j).state := by
  obtain ⟨leds, pins, _⟩ := update_led_mode_spec k s i
  have switched : (update_led_mode k s i).1.pins = fun j => ((update_led_mode k s i).1.leds j).state := by
    rw [leds, pins]
    exact setLed_shown shown rfl
  rw [update_led_eq]
  split
  · exact set_led_state_shown switched i _
  · exact switched

theorem update_led_running (documented : k.Documented) {s : LedComponent Timer} (i : Fin 2)
    (ok : k.running s.led_timer = any_led_needs_timer s) :
    k.running (update_led k s i).led_timer = any_led_needs_timer (update_led k s i) := by
  have running := update_led_mode_running k documented i ok
  rw [update_led_eq]
  split
  · rw [set_led_state_timer, any_led_needs_timer_set_led_state, running]
  · exact running

/-- What one turn of the loop may do to the timer itself. -/
theorem update_led_timer (s : LedComponent Timer) (i : Fin 2) :
    (update_led k s i).led_timer = s.led_timer ∨
    (update_led k s i).led_timer = k.k_timer_start s.led_timer LED_TICK_MS LED_TICK_MS ∨
    (update_led k s i).led_timer = k.k_timer_stop s.led_timer := by
  have updated : ∀ t : LedComponent Timer, t.led_timer = s.led_timer →
      (update_timer_state k t).led_timer = s.led_timer ∨
      (update_timer_state k t).led_timer = k.k_timer_start s.led_timer LED_TICK_MS LED_TICK_MS ∨
      (update_timer_state k t).led_timer = k.k_timer_stop s.led_timer := by
    intro t same
    unfold update_timer_state
    split
    · exact .inr (.inl (by rw [same]))
    · exact .inr (.inr (by rw [same]))
  have switched : (update_led k s i).led_timer = (update_led_mode k s i).1.led_timer := by
    rw [update_led_eq]
    split <;> rfl
  rw [switched]
  unfold update_led_mode
  dsimp only
  split
  · exact .inl rfl
  · exact .inl rfl
  · split
    · exact .inl rfl
    · exact updated _ rfl
  · split
    · exact updated _ rfl
    · exact .inl rfl

theorem update_led_ticks (documented : k.Documented) {s : LedComponent Timer} (i : Fin 2)
    (ticks : Ticks k s.led_timer) : Ticks k (update_led k s i).led_timer := by
  rcases update_led_timer k s i with same | started | stopped
  · rw [same]
    exact ticks
  · rw [started]
    exact fun _ => documented.start_period _ _ _
  · rw [stopped]
    exact ticks_stopped k (documented.stop_stopped _)

/-- One expiry, while both LEDs are handled one after the other, is one `tick`
    of each. -/
theorem led_timer_handler_leds (s : LedComponent Timer) :
    (led_timer_handler k s).leds = fun i => tick (s.leds i) := by
  unfold led_timer_handler
  rw [update_led_leds, update_led_leds]
  funext i
  fin_cases i <;> simp

theorem led_timer_handler_pins {s : LedComponent Timer} (shown : s.pins = fun i => (s.leds i).state) :
    (led_timer_handler k s).pins = fun i => ((led_timer_handler k s).leds i).state :=
  update_led_pins k 1 (update_led_pins k 0 shown)

theorem led_timer_handler_running (documented : k.Documented) {s : LedComponent Timer}
    (ok : k.running s.led_timer = any_led_needs_timer s) :
    k.running (led_timer_handler k s).led_timer = any_led_needs_timer (led_timer_handler k s) :=
  update_led_running k documented 1 (update_led_running k documented 0 ok)

/-- What `set_led_mode` has assigned and written before it turns to the timer. -/
def requested (s : LedComponent Timer) (i : Fin 2) (mode : LedMode) : LedComponent Timer :=
  { s with
    leds := Function.update s.leds i (request mode (s.leds i))
    pins := if mode = .Off then Function.update s.pins i false else s.pins }

theorem set_led_mode_eq (s : LedComponent Timer) (i : Fin 2) (mode : LedMode) :
    set_led_mode k s (UInt8.ofNat i) mode =
      if (s.leds i).mode = mode then s else update_timer_state k (requested s i mode) := by
  have index : (UInt8.ofNat i).toNat = i := by fin_cases i <;> rfl
  have inside : (UInt8.ofNat i).toNat < 2 := by rw [index]; exact i.isLt
  have same : (⟨(UInt8.ofNat i).toNat, inside⟩ : Fin 2) = i := Fin.ext index
  unfold set_led_mode
  rw [dif_pos inside, same]
  dsimp only
  by_cases already : (s.leds i).mode = mode
  · rw [if_pos already, if_pos already]
  · rw [if_neg already, if_neg already]
    congr 1
    cases mode <;> simp [requested, request, already, LedComponent.setLed, set_led_state]

/-- A mode request moves its own LED as `request` does. -/
theorem set_led_mode_leds (s : LedComponent Timer) (i : Fin 2) (mode : LedMode) :
    (set_led_mode k s (UInt8.ofNat i) mode).leds = Function.update s.leds i (request mode (s.leds i)) := by
  rw [set_led_mode_eq]
  split
  · rename_i already
    simp [request, already]
  · rw [update_timer_state_leds]
    rfl

theorem set_led_mode_pins {s : LedComponent Timer} (i : Fin 2) (mode : LedMode)
    (shown : s.pins = fun j => (s.leds j).state) :
    (set_led_mode k s (UInt8.ofNat i) mode).pins =
      fun j => ((set_led_mode k s (UInt8.ofNat i) mode).leds j).state := by
  rw [set_led_mode_leds, set_led_mode_eq]
  by_cases already : (s.leds i).mode = mode
  · rw [if_pos already, shown]
    simp [request, already]
  · rw [if_neg already, update_timer_state_pins]
    by_cases off : mode = .Off
    · subst off
      have dark : (request .Off (s.leds i)).state = false := by simp [request, already]
      have written := shown_update shown i (request .Off (s.leds i))
      rwa [dark] at written
    · have kept : (request mode (s.leds i)).state = (s.leds i).state := by simp [request, already, off]
      have assigned := setLed_shown shown kept
      simpa [requested, off] using assigned

/-- A request that changes the mode brings the timer up to date; one that does
    not leaves it as it was. -/
theorem set_led_mode_running (documented : k.Documented) {s : LedComponent Timer} (i : Fin 2) (mode : LedMode)
    (ok : k.running s.led_timer = any_led_needs_timer s) :
    k.running (set_led_mode k s (UInt8.ofNat i) mode).led_timer =
      any_led_needs_timer (set_led_mode k s (UInt8.ofNat i) mode) := by
  rw [set_led_mode_eq]
  split
  · exact ok
  · rw [update_timer_state_running k documented]
    exact any_led_needs_timer_congr (by simp)

theorem set_led_mode_ticks (documented : k.Documented) {s : LedComponent Timer} (i : Fin 2) (mode : LedMode)
    (ticks : Ticks k s.led_timer) : Ticks k (set_led_mode k s (UInt8.ofNat i) mode).led_timer := by
  rw [set_led_mode_eq]
  split
  · exact ticks
  · exact update_timer_state_ticks k documented _

/-! ### One callback -/

/-- What a callback other than an expiry does: the request that it makes. -/
def asked (s : LedComponent Timer) (a : LedAction) : LedComponent Timer :=
  match command a with
  | some (i, mode) => set_led_mode k s (UInt8.ofNat i) mode
  | none => s

/-- The only effect of `led set` is the request that its arguments name. -/
theorem cmd_led_set_asked (s : LedComponent Timer) (argv : List CString) :
    (cmd_led_set k s argv).1 = asked k s (.shell argv) := by
  unfold cmd_led_set asked
  split
  · rename_i name index arg
    dsimp only [command]
    generalize UInt8.ofNat index.head.toNat - 48 = led_idx
    by_cases large : led_idx > 1
    · have outside : ¬ led_idx.toNat < 2 := by
        have := UInt8.lt_iff_toNat_lt.mp large
        simp only [UInt8.reduceToNat] at this
        omega
      rw [if_pos large, dif_neg outside]
    · have inside : led_idx.toNat < 2 := by
        have := UInt8.le_iff_toNat_le.mp (UInt8.not_lt.mp large)
        simp only [UInt8.reduceToNat] at this
        omega
      rw [if_neg large, dif_pos inside]
      cases mode_of_arg arg with
      | none => rfl
      | some mode => simp
  · rename_i other
    have nothing : command (.shell argv) = none := by
      unfold command
      split <;> simp_all
    rw [nothing]

/-- A callback other than an expiry is always enabled. -/
theorem step_asked (s : LedComponent Timer) {a : LedAction} (other : a ≠ .expiry) :
    step k s a = some (asked k s a) := by
  cases a with
  | sysCtl state => cases state <;> rfl
  | event msg =>
    obtain ⟨event⟩ := msg
    cases event <;> rfl
  | shell argv =>
    show some (cmd_led_set k s argv).1 = _
    rw [cmd_led_set_asked]
  | expiry => contradiction

theorem step_expiry {s next : LedComponent Timer} (taken : step k s .expiry = some next) :
    k.running s.led_timer = true ∧ next = led_timer_handler k { s with led_timer := k.expire s.led_timer } := by
  by_cases running : k.running s.led_timer = true
  · simp only [step, running, ↓reduceIte, Option.some.injEq] at taken
    exact ⟨running, taken.symm⟩
  · simp [step, running] at taken

theorem asked_leds (s : LedComponent Timer) {a : LedAction} (other : a ≠ .expiry) :
    (asked k s a).leds = after s.leds a := by
  unfold asked after
  rw [if_neg other]
  cases command a with
  | none => rfl
  | some target => exact set_led_mode_leds k s target.1 target.2

/-- An LED that is not off keeps expiries enabled. -/
theorem advance_lit {leds : Fin 2 → LedInstance} {i : Fin 2} (lit : (leds i).mode ≠ .Off) (a : LedAction) :
    advance leds a = some (after leds a) := by
  refine if_neg ?_
  rintro ⟨_, dark⟩
  exact lit (dark i)

/-- A callback moves the LEDs as `after` says, whatever the pins and the timer show. -/
theorem step_leds {s next : LedComponent Timer} {a : LedAction} (taken : step k s a = some next) :
    next.leds = after s.leds a := by
  by_cases expiry : a = .expiry
  · subst expiry
    obtain ⟨_, rfl⟩ := step_expiry k taken
    rw [led_timer_handler_leds, after, if_pos rfl]
  · rw [step_asked k s expiry] at taken
    cases taken
    exact asked_leds k s expiry

theorem step_pins {s next : LedComponent Timer} {a : LedAction} (shown : s.pins = fun i => (s.leds i).state)
    (taken : step k s a = some next) : next.pins = fun i => (next.leds i).state := by
  by_cases expiry : a = .expiry
  · subst expiry
    obtain ⟨_, rfl⟩ := step_expiry k taken
    exact led_timer_handler_pins k (s := { s with led_timer := k.expire s.led_timer }) shown
  · rw [step_asked k s expiry] at taken
    cases taken
    unfold asked
    cases command a with
    | none => exact shown
    | some target => exact set_led_mode_pins k target.1 target.2 shown

theorem step_running (documented : k.Documented) {s next : LedComponent Timer} {a : LedAction}
    (ok : k.running s.led_timer = any_led_needs_timer s) (ticks : Ticks k s.led_timer)
    (taken : step k s a = some next) : k.running next.led_timer = any_led_needs_timer next := by
  by_cases expiry : a = .expiry
  · subst expiry
    obtain ⟨running, rfl⟩ := step_expiry k taken
    refine led_timer_handler_running k documented ?_
    rw [(expire_ticks k documented ticks running).1, ← running, ok]
    rfl
  · rw [step_asked k s expiry] at taken
    cases taken
    unfold asked
    cases command a with
    | none => exact ok
    | some target => exact set_led_mode_running k documented target.1 target.2 ok

theorem step_ticks (documented : k.Documented) {s next : LedComponent Timer} {a : LedAction}
    (ticks : Ticks k s.led_timer) (taken : step k s a = some next) : Ticks k next.led_timer := by
  by_cases expiry : a = .expiry
  · subst expiry
    obtain ⟨running, rfl⟩ := step_expiry k taken
    have expired := (expire_ticks k documented ticks running).2
    exact update_led_ticks k documented 1 (update_led_ticks k documented 0 expired)
  · rw [step_asked k s expiry] at taken
    cases taken
    unfold asked
    cases command a with
    | none => exact ticks
    | some target => exact set_led_mode_ticks k documented target.1 target.2 ticks

/-- What a callback that is taken leaves behind. -/
theorem step_after (documented : k.Documented) {s next : LedComponent Timer} {a : LedAction}
    (consistent : Consistent k s) (taken : step k s a = some next) :
    next.leds = after s.leds a ∧ Consistent k next :=
  ⟨step_leds k taken, step_pins k consistent.pins taken,
    step_running k documented consistent.timer consistent.ticks taken, step_ticks k documented consistent.ticks taken⟩

/-- The timer of a consistent component runs exactly where an expiry is enabled
    in the abstract machine. -/
theorem running_iff {s : LedComponent Timer} (consistent : Consistent k s) :
    k.running s.led_timer = true ↔ ¬ ∀ i, (s.leds i).mode = .Off := by
  rw [consistent.timer, any_led_needs_timer_iff, not_forall]

/-- **One step.** Every callback moves the LEDs as the abstract machine does,
    is enabled exactly when that machine is, and keeps pins and timer in
    agreement with the LEDs. -/
theorem step_refines (documented : k.Documented) {s : LedComponent Timer} (consistent : Consistent k s)
    (a : LedAction) :
    (step k s a).map (·.leds) = advance s.leds a ∧ ∀ s', step k s a = some s' → Consistent k s' := by
  refine ⟨?_, fun s' taken => (step_after k documented consistent taken).2⟩
  have lit := running_iff k consistent
  by_cases expiry : a = .expiry
  · subst expiry
    by_cases running : k.running s.led_timer = true
    · simp [step, running, advance, after, lit.mp running, led_timer_handler_leds]
    · have dark : ∀ i, (s.leds i).mode = .Off := not_not.mp (fun some_lit => running (lit.mpr some_lit))
      simp [step, running, advance, dark]
  · rw [step_asked k s expiry, Option.map_some, asked_leds k s expiry]
    simp [advance, expiry]

/-! ### Whole runs -/

/-- **Whole runs.** A run of the component is a run of the abstract machine on
    its LEDs, and the other way round. -/
theorem run_refines (documented : k.Documented) {s : LedComponent Timer} (consistent : Consistent k s)
    (acts : List LedAction) :
    (run (step k) s acts).map (·.leds) = run advance s.leds acts := by
  induction acts generalizing s with
  | nil => rfl
  | cons a rest ih =>
    obtain ⟨same, kept⟩ := step_refines k documented consistent a
    rw [run_cons, run_cons, ← same]
    cases taken : step k s a with
    | none => rfl
    | some next => simpa using ih (kept next taken)

theorem run_consistent (documented : k.Documented) {s last : LedComponent Timer} {acts : List LedAction}
    (consistent : Consistent k s) (executed : run (step k) s acts = some last) : Consistent k last :=
  run_preserves (fun _ _ _ holds taken => (step_after k documented holds taken).2) consistent executed

/-- The callbacks keep what every LED satisfies by itself. -/
theorem after_settled {leds : Fin 2 → LedInstance} (settled : ∀ i, Settled (leds i)) (a : LedAction) (i : Fin 2) :
    Settled (after leds a i) := by
  by_cases expiry : a = .expiry
  · simpa [after, expiry] using tick_settled (settled i)
  · cases request : command a with
    | none => simpa [after, expiry, request] using settled i
    | some target =>
      obtain ⟨target, mode⟩ := target
      by_cases here : i = target
      · subst here
        simpa [after, expiry, request] using request_settled mode (settled i)
      · simpa [after, expiry, request, here] using settled i

theorem advance_settled {leds next : Fin 2 → LedInstance} (settled : ∀ i, Settled (leds i)) {a : LedAction}
    (taken : advance leds a = some next) : ∀ i, Settled (next i) := by
  unfold advance at taken
  split at taken
  · contradiction
  · cases taken
    exact after_settled settled a

/-- The state that a successful `led_init` leaves behind. -/
def AfterInit (s : LedComponent Timer) : Prop :=
  ∃ gpio pins, led_init k gpio (zeroed k pins) = (s, .ok ())

/-- After `led_init` both LEDs are off, their pins are inactive and the timer is
    stopped, whatever the pins showed before. -/
theorem led_init_spec (documented : k.Documented) {s : LedComponent Timer} (init : AfterInit k s) :
    s.leds = (fun _ => ⟨.Off, 0, 0, false⟩) ∧ Consistent k s := by
  obtain ⟨gpio, pins, started⟩ := init
  unfold led_init at started
  split at started
  · cases started
  · split at started
    · cases started
    · simp only [Prod.mk.injEq, and_true] at started
      subst started
      have leds : (set_led_state (set_led_state (zeroed k pins) 0 false) 1 false).leds =
          fun _ => ⟨.Off, 0, 0, false⟩ := by
        funext i
        fin_cases i <;> simp [zeroed]
      have unchanged : ∀ t : LedComponent Timer, (t.leds 0).mode = .Off → set_led_mode k t 0 .Off = t := by
        intro t off
        simp [set_led_mode, off]
      rw [unchanged _ (by simp [zeroed])]
      refine ⟨leds, ?_, ?_, ?_⟩
      · dsimp only
        rw [leds]
        funext i
        fin_cases i <;> simp
      · simp [documented.init_stopped, any_led_needs_timer, mode_needs_timer, zeroed]
      · exact ticks_stopped k (documented.init_stopped _)

theorem off_settled : Settled ⟨.Off, 0, 0, false⟩ :=
  ⟨fun _ => rfl, by simp, by simp⟩

/-- What holds of every state that a run from `led_init` reaches. -/
theorem reachable_invariant (documented : k.Documented) {s₀ s : LedComponent Timer} (init : AfterInit k s₀)
    (reached : Reachable (step k) s₀ s) : Consistent k s ∧ ∀ i, Settled (s.leds i) := by
  obtain ⟨leds, consistent⟩ := led_init_spec k documented init
  obtain ⟨acts, executed⟩ := reached
  refine ⟨run_consistent k documented consistent executed, ?_⟩
  have moved : run advance s₀.leds acts = some s.leds := by
    rw [← run_refines k documented consistent, executed, Option.map_some]
  refine run_preserves (P := fun leds => ∀ i, Settled (leds i)) ?_ ?_ moved
  · intro leds a next settled taken
    exact advance_settled settled taken
  · rw [leds]
    exact fun _ => off_settled

/-- **The invariant of the LED component.** In every state that any sequence of
    messages, `led set` commands and expiries reaches after `led_init`: the
    timer runs exactly while some LED is not off; an LED that is off is dark,
    and so is its pin; `state` is the level last written to the pin; a pulse is
    within its ticks, and an alarm within its duration. -/
theorem led_component_invariant (documented : k.Documented) {s₀ s : LedComponent Timer}
    (init : AfterInit k s₀) (reached : Reachable (step k) s₀ s) :
    (k.running s.led_timer = true ↔ ∃ i, (s.leds i).mode ≠ .Off) ∧
      (∀ i, (s.leds i).mode = .Off → (s.leds i).state = false ∧ s.pins i = false) ∧
      (∀ i, (s.leds i).state = s.pins i) ∧
      (∀ i, (s.leds i).mode = .SensorPulse → (s.leds i).tick_count ≤ PULSE_ON_TICKS) ∧
      (∀ i, (s.leds i).mode = .Alarm → (s.leds i).duration_ticks = ALARM_DURATION_TICKS ∧
        (s.leds i).tick_count < (s.leds i).duration_ticks) := by
  obtain ⟨consistent, settled⟩ := reachable_invariant k documented init reached
  have shown : ∀ i, (s.leds i).state = s.pins i := fun i => (congrFun consistent.pins i).symm
  refine ⟨?_, ?_, shown, fun i => (settled i).pulse, fun i => (settled i).alarm⟩
  · rw [consistent.timer]
    exact any_led_needs_timer_iff s
  · intro i off
    have dark := (settled i).dark off
    exact ⟨dark, by rw [← shown i, dark]⟩

/-- The state after `led_init` on two ready pins, with a timer of which only the
    status is kept. -/
def booted : LedComponent (Option Nat) :=
  (led_init statusTimer ⟨fun _ => true, fun _ => true⟩ (zeroed statusTimer fun _ => true)).1

theorem booted_afterInit : AfterInit statusTimer booted := ⟨⟨fun _ => true, fun _ => true⟩, fun _ => true, rfl⟩

/-- An alert after ACTIVE, then an expiry: both LEDs are lit and the timer runs. -/
theorem led_component_invariant_alert :
    ∃ s, run (step statusTimer) booted [.sysCtl .Active, .event ⟨.TempAlert⟩, .expiry] = some s ∧
      (statusTimer.running s.led_timer = true ↔ ∃ i, (s.leds i).mode ≠ .Off) ∧ s.pins 1 = true := by
  refine ⟨_, rfl, ?_, rfl⟩
  exact (led_component_invariant statusTimer statusTimer_documented booted_afterInit
    ⟨[.sysCtl .Active, .event ⟨.TempAlert⟩, .expiry], rfl⟩).1

end ZephyrWorkshop.LedRuns
