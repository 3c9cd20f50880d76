import ZephyrWorkshop.LedRuns

/-!
A mode request that the tick interrupt preempts. The thread executes
`set_led_mode` assignment by assignment; while the timer runs, an expiry may be
handled at any place in between. The new mode is published before the counters
that belong to it, so an expiry right after it may still see those of the old
mode and end the new one at once. Everything else that the function promises
holds at its return in any case (`Placed`).
-/

namespace ZephyrWorkshop.LedPreempt
open ZephyrWorkshop.Zephyr ZephyrWorkshop.Led ZephyrWorkshop.LedRuns
open ZephyrWorkshop.Transition

/-! ### The call -/

/-- What the thread has done last, in the order of the source: the check for an
    equal mode, the assignments, the immediate state, the call of
    `update_timer_state`. -/
inductive Pc
  | Checked
  | ModeSet
  | TickCountReset
  | DurationSet
  | StateApplied
  | TimerUpdated
deriving DecidableEq, Repr

/-- How many of the statements after the check are done. -/
@[simp] def Pc.place : Pc → Nat
  | .Checked => 0
  | .ModeSet => 1
  | .TickCountReset => 2
  | .DurationSet => 3
  | .StateApplied => 4
  | .TimerUpdated => 5

/-- The component during the call, and the number of expiries since the check. -/
structure Call (Timer : Type*) where
  led : LedComponent Timer
  pc : Pc
  expiries : Nat

/-- A statement of the thread, or an expiry. -/
inductive CallAction
  | statement
  | expiry
deriving DecidableEq, Repr

variable {Timer : Type*} (k : KTimer Timer) (i : Fin 2) (mode : LedMode)

/-- The call up to its check, which a request for the current mode does not pass. -/
def enter (s : LedComponent Timer) : Option (Call Timer) :=
  if (s.leds i).mode = mode then none else some ⟨s, .Checked, 0⟩

/-- The next statement of `set_led_mode`. -/
def statement (c : Call Timer) : Option (Call Timer) :=
  let led := c.led.leds i
  match c.pc with
  | .Checked => some { c with led := c.led.setLed i { led with mode := mode }, pc := .ModeSet }
  | .ModeSet => some { c with led := c.led.setLed i { led with tick_count := 0 }, pc := .TickCountReset }
  | .TickCountReset =>
    let next := if mode = .Alarm then c.led.setLed i { led with duration_ticks := ALARM_DURATION_TICKS } else c.led
    some { c with led := next, pc := .DurationSet }
  | .DurationSet =>
    let next := if mode = .Off then set_led_state c.led i false else c.led
    some { c with led := next, pc := .StateApplied }
  | .StateApplied => some { c with led := update_timer_state k c.led, pc := .TimerUpdated }
  | .TimerUpdated => none

/-- At most `PULSE_ON_TICKS` expiries preempt the call. -/
def step (c : Call Timer) : CallAction → Option (Call Timer)
  | .statement => statement k i mode c
  | .expiry =>
    if c.expiries < PULSE_ON_TICKS.toNat then
      (Led.step k c.led .expiry).map (fun led => { c with led := led, expiries := c.expiries + 1 })
    else none

/-- Without an expiry the statements are the atomic `set_led_mode`. -/
theorem statements_set_led_mode {s : LedComponent Timer} {c : Call Timer} (entered : enter i mode s = some c) :
    run (step k i mode) c (List.replicate 5 .statement) =
      some ⟨set_led_mode k s (UInt8.ofNat i) mode, .TimerUpdated, 0⟩ := by
  unfold enter at entered
  split at entered
  · cases entered
  · rename_i different
    cases entered
    rw [set_led_mode_eq, if_neg different]
    cases mode <;>
      simp [run, step, statement, List.replicate, requested, request, different, LedComponent.setLed, set_led_state]

/-- What has to hold when the call returns. -/
structure Survives (c : Call Timer) : Prop where
  mode : (c.led.leds i).mode = mode
  tick_count : (c.led.leds i).tick_count.toNat ≤ c.expiries
  alarm : ∀ j, (c.led.leds j).mode = .Alarm → (c.led.leds j).duration_ticks = ALARM_DURATION_TICKS
  timer : k.running c.led.led_timer = true ↔ ∃ j, (c.led.leds j).mode ≠ .Off
  dark : ∀ j, (c.led.leds j).mode = .Off → (c.led.leds j).state = false ∧ c.led.pins j = false

/-! ### One expiry -/

/-- The next expiry ends the mode of the LED. -/
def Ends (led : LedInstance) : Prop :=
  (led.mode = .SensorPulse ∧ PULSE_ON_TICKS ≤ led.tick_count) ∨
    (led.mode = .Alarm ∧ led.duration_ticks ≤ led.tick_count + 1)

theorem tick_ends {led : LedInstance} (ends : Ends led) : (tick led).mode = .Off ∧ (tick led).state = false := by
  rcases ends with ⟨mode, elapsed⟩ | ⟨mode, elapsed⟩
  · have late : ¬ led.tick_count < PULSE_ON_TICKS := UInt32.not_lt.mpr elapsed
    simp [tick, mode, late]
  · simp [tick, mode, elapsed]

theorem tick_keeps {led : LedInstance} (going : ¬ Ends led) : (tick led).mode = led.mode := by
  cases mode : led.mode with
  | Off => simp [tick, mode]
  | PowerSignal => simp [tick, mode]
  | SensorPulse =>
    have early : led.tick_count < PULSE_ON_TICKS := UInt32.not_le.mp (fun late => going (.inl ⟨mode, late⟩))
    simp [tick, mode, early]
  | Alarm =>
    have early : ¬ led.duration_ticks ≤ led.tick_count + 1 := fun late => going (.inr ⟨mode, late⟩)
    simp [tick, mode, early]

theorem tick_keeps_iff (led : LedInstance) : (tick led).mode = led.mode ↔ ¬ Ends led := by
  constructor
  · intro kept ends
    have off : led.mode = .Off := kept.symm.trans (tick_ends ends).1
    rcases ends with ⟨pulse, _⟩ | ⟨alarm, _⟩
    · rw [off] at pulse
      cases pulse
    · rw [off] at alarm
      cases alarm
  · exact tick_keeps

/-- An LED that is off after an expiry is dark, however it came to be off. -/
theorem tick_dark {led : LedInstance} (off : (tick led).mode = .Off) : (tick led).state = false := by
  by_cases ends : Ends led
  · exact (tick_ends ends).2
  · have mode : led.mode = .Off := (tick_keeps ends).symm.trans off
    simp [tick, mode]

/-- An expiry counts at most one tick. -/
theorem tick_tick_count (led : LedInstance) : (tick led).tick_count.toNat ≤ led.tick_count.toNat + 1 := by
  have next : (led.tick_count + 1).toNat ≤ led.tick_count.toNat + 1 := by
    rw [UInt32.toNat_add, UInt32.toNat_one]
    exact Nat.mod_le _ _
  unfold tick
  split
  · exact Nat.le_succ _
  · exact next
  · split
    · exact next
    · simp
  · split
    · simp
    · exact next

/-- An alarm that is still on after an expiry has kept its duration. -/
theorem tick_alarm {led : LedInstance} (alarm : (tick led).mode = .Alarm) :
    led.mode = .Alarm ∧ (tick led).duration_ticks = led.duration_ticks := by
  by_cases ends : Ends led
  · rw [(tick_ends ends).1] at alarm
    cases alarm
  · have mode : led.mode = .Alarm := (tick_keeps ends).symm.trans alarm
    have early : ¬ led.duration_ticks ≤ led.tick_count + 1 := fun late => ends (.inr ⟨mode, late⟩)
    exact ⟨mode, by simp [tick, mode, early]⟩

/-! ### What holds at each place of the call -/

/-- What the statements done so far ensure, whatever the expiries did. -/
structure Placed (c : Call Timer) : Prop where
  pins : c.led.pins = fun j => (c.led.leds j).state
  other : ∀ j, j ≠ i → Settled (c.led.leds j)
  assigned : 1 ≤ c.pc.place → (c.led.leds i).mode = mode ∨ (c.led.leds i).mode = .Off
  dark : 1 ≤ c.pc.place ∧ mode ≠ .Off ∨ 4 ≤ c.pc.place → (c.led.leds i).mode = .Off → (c.led.leds i).state = false
  tick_count : 2 ≤ c.pc.place → (c.led.leds i).tick_count.toNat ≤ c.expiries
  alarm : 3 ≤ c.pc.place → (c.led.leds i).mode = .Alarm → (c.led.leds i).duration_ticks = ALARM_DURATION_TICKS
  timer : 5 ≤ c.pc.place → k.running c.led.led_timer = any_led_needs_timer c.led
  ticks : Ticks k c.led.led_timer
  expiries : c.expiries ≤ PULSE_ON_TICKS.toNat

theorem enter_placed {s : LedComponent Timer} {c : Call Timer} (consistent : Consistent k s)
    (settled : ∀ j, Settled (s.leds j)) (entered : enter i mode s = some c) : Placed k i mode c := by
  unfold enter at entered
  split at entered
  · cases entered
  · cases entered
    refine ⟨consistent.pins, fun j _ => settled j, ?_, ?_, ?_, ?_, ?_, consistent.ticks, Nat.zero_le _⟩
    all_goals simp

theorem step_expiry {c next : Call Timer} (taken : step k i mode c .expiry = some next) :
    c.expiries < PULSE_ON_TICKS.toNat ∧ Led.step k c.led .expiry = some next.led ∧
      next.led.leds = (fun j => tick (c.led.leds j)) ∧ next.pc = c.pc ∧ next.expiries = c.expiries + 1 := by
  by_cases few : c.expiries < PULSE_ON_TICKS.toNat
  · simp only [step, few, if_true] at taken
    obtain ⟨led, expired, rfl⟩ := Option.map_eq_some_iff.mp taken
    exact ⟨few, expired, step_leds k expired, rfl, rfl⟩
  · simp [step, few] at taken

theorem expiry_placed (documented : k.Documented) {c next : Call Timer} (placed : Placed k i mode c)
    (taken : step k i mode c .expiry = some next) : Placed k i mode next := by
  obtain ⟨few, expired, leds, pc, count⟩ := step_expiry k i mode taken
  refine ⟨step_pins k placed.pins expired, ?_, ?_, ?_, ?_, ?_, ?_, step_ticks k documented placed.ticks expired, by omega⟩
  · intro j away
    rw [leds]
    exact tick_settled (placed.other j away)
  · rw [pc, leds]
    intro place
    by_cases ends : Ends (c.led.leds i)
    · exact .inr (tick_ends ends).1
    · dsimp only
      rw [tick_keeps ends]
      exact placed.assigned place
  · rw [leds]
    intro _ off
    exact tick_dark off
  · rw [pc, leds, count]
    intro place
    exact (tick_tick_count _).trans (Nat.succ_le_succ (placed.tick_count place))
  · rw [pc, leds]
    intro place alarm
    obtain ⟨before, same⟩ := tick_alarm alarm
    exact same.trans (placed.alarm place before)
  · rw [pc]
    intro place
    exact step_running k documented (placed.timer place) placed.ticks expired

/-- An assignment to one LED leaves the other one as it is. -/
theorem setLed_other {s : LedComponent Timer} (other : ∀ j, j ≠ i → Settled (s.leds j)) (led : LedInstance) :
    ∀ j, j ≠ i → Settled ((s.setLed i led).leds j) := by
  intro j away
  rw [setLed_leds, Function.update_of_ne away]
  exact other j away

theorem statement_placed (documented : k.Documented) {c next : Call Timer} (placed : Placed k i mode c)
    (taken : step k i mode c .statement = some next) : Placed k i mode next := by
  obtain ⟨led, pc, expiries⟩ := c
  obtain ⟨pins, other, assigned, dark, tick_count, alarm, timer, ticks, few⟩ := placed
  cases pc with
  | Checked =>
    cases taken
    refine ⟨setLed_shown pins rfl, setLed_other i other _, ?_, ?_, ?_, ?_, ?_, ticks, few⟩
    · simp
    · rintro (⟨_, lit⟩ | late) off
      · simp [lit] at off
      · simp at late
    all_goals simp
  | ModeSet =>
    cases taken
    refine ⟨setLed_shown pins rfl, setLed_other i other _, ?_, ?_, ?_, ?_, ?_, ticks, few⟩
    · simpa using assigned
    · simpa using dark
    all_goals simp
  | TickCountReset =>
    cases taken
    by_cases raised : mode = .Alarm
    · dsimp only
      rw [if_pos raised]
      refine ⟨setLed_shown pins rfl, setLed_other i other _, ?_, ?_, ?_, ?_, ?_, ticks, few⟩
      · simpa using assigned
      · simpa using dark
      · simpa using tick_count
      all_goals simp
    · dsimp only
      rw [if_neg raised]
      refine ⟨pins, other, by simpa using assigned, by simpa using dark, by simpa using tick_count, ?_, ?_, ticks, few⟩
      · intro _ on
        rcases assigned (by simp) with same | off
        · exact absurd (same.symm.trans on) raised
        · rw [off] at on
          cases on
      · simp
  | DurationSet =>
    cases taken
    by_cases ended : mode = .Off
    · dsimp only
      rw [if_pos ended]
      refine ⟨set_led_state_shown pins i false, setLed_other i other _, ?_, ?_, ?_, ?_, ?_, ticks, few⟩
      · simpa using assigned
      · simp
      · simpa using tick_count
      · simpa using alarm
      · simp
    · dsimp only
      rw [if_neg ended]
      refine ⟨pins, other, by simpa using assigned, ?_, by simpa using tick_count, by simpa using alarm, ?_,
        ticks, few⟩
      · exact fun _ => dark (.inl ⟨by simp, ended⟩)
      · simp
  | StateApplied =>
    cases taken
    refine ⟨by simpa using pins, by simpa using other, by simpa using assigned, ?_, by simpa using tick_count,
      by simpa using alarm, ?_, update_timer_state_ticks k documented _, few⟩
    · simpa using dark
    · intro _
      rw [update_timer_state_running k documented]
      exact any_led_needs_timer_congr (by simp)
  | TimerUpdated => cases taken

theorem step_placed (documented : k.Documented) {c next : Call Timer} {a : CallAction} (placed : Placed k i mode c)
    (taken : step k i mode c a = some next) : Placed k i mode next := by
  cases a with
  | statement => exact statement_placed k i mode documented placed taken
  | expiry => exact expiry_placed k i mode documented placed taken

/-! ### Whether the request lives -/

/-- The LED is still in the requested mode, once it was set. -/
def Live (c : Call Timer) : Prop := 1 ≤ c.pc.place → (c.led.leds i).mode = mode

/-- An expiry between the assignment of the mode and that of its counters does
    not end the mode by the counters it sees. -/
def Harmless (c : Call Timer) (a : CallAction) : Prop :=
  a = .expiry → c.pc = .ModeSet ∨ c.pc = .TickCountReset → ¬ Ends (c.led.leds i)

/-- The first statement sets the mode, and no other touches it. -/
theorem statement_mode {c next : Call Timer} (taken : step k i mode c .statement = some next) :
    1 ≤ next.pc.place ∧ (next.led.leds i).mode = if c.pc.place = 0 then mode else (c.led.leds i).mode := by
  obtain ⟨led, pc, expiries⟩ := c
  cases pc with
  | Checked =>
    cases taken
    simp
  | ModeSet =>
    cases taken
    simp
  | TickCountReset =>
    cases taken
    by_cases raised : mode = .Alarm <;> simp [raised]
  | DurationSet =>
    cases taken
    by_cases ended : mode = .Off <;> simp [ended]
  | StateApplied =>
    cases taken
    simp
  | TimerUpdated => cases taken

/-- With its own counters set, no mode ends within the few expiries of a call. -/
theorem Placed.going {c : Call Timer} (placed : Placed k i mode c) (set : 3 ≤ c.pc.place)
    (few : c.expiries < PULSE_ON_TICKS.toNat) : ¬ Ends (c.led.leds i) := by
  have counted := placed.tick_count (by omega)
  have limit : PULSE_ON_TICKS.toNat = 5 := rfl
  rintro (⟨_, late⟩ | ⟨alarm, late⟩)
  · rw [UInt32.le_iff_toNat_le] at late
    omega
  · have duration : ALARM_DURATION_TICKS.toNat = 300 := rfl
    have early : (c.led.leds i).tick_count < ALARM_DURATION_TICKS := by
      rw [UInt32.lt_iff_toNat_lt]
      omega
    have next := toNat_next_tick early
    rw [placed.alarm set alarm, UInt32.le_iff_toNat_le, next] at late
    omega

/-- One step keeps the request exactly when it is harmless. -/
theorem step_live_iff {c next : Call Timer} {a : CallAction} (placed : Placed k i mode c) (live : Live i mode c)
    (taken : step k i mode c a = some next) : Live i mode next ↔ Harmless i c a := by
  cases a with
  | statement =>
    obtain ⟨_, same⟩ := statement_mode k i mode taken
    refine ⟨fun _ expiry => absurd expiry (by simp), fun _ _ => ?_⟩
    rw [same]
    split
    · rfl
    · exact live (by omega)
  | expiry =>
    obtain ⟨few, _, leds, pc, _⟩ := step_expiry k i mode taken
    unfold Live Harmless
    rw [pc, leds]
    by_cases set : 1 ≤ c.pc.place
    · have kept_iff := tick_keeps_iff (c.led.leds i)
      rw [live set] at kept_iff
      by_cases early : c.pc = .ModeSet ∨ c.pc = .TickCountReset
      · constructor
        · intro lives _ _
          exact kept_iff.mp (lives set)
        · intro harmless _
          exact kept_iff.mpr (harmless rfl early)
      · have later : 3 ≤ c.pc.place := by
          cases place : c.pc <;> simp_all
        constructor
        · intro _ _ between
          exact absurd between early
        · intro _ _
          exact kept_iff.mpr (placed.going k i mode later few)
    · have start : c.pc = .Checked := by
        cases place : c.pc <;> simp_all
      simp [start]

/-- A request that was dropped is not made again. -/
theorem step_dropped {c next : Call Timer} {a : CallAction} (placed : Placed k i mode c) (dropped : ¬ Live i mode c)
    (taken : step k i mode c a = some next) : ¬ Live i mode next := by
  obtain ⟨set, different⟩ := Classical.not_imp.mp dropped
  have off : (c.led.leds i).mode = .Off := (placed.assigned set).resolve_left different
  cases a with
  | statement =>
    obtain ⟨place, same⟩ := statement_mode k i mode taken
    intro live
    have again := live place
    rw [same, if_neg (by omega)] at again
    exact different again
  | expiry =>
    obtain ⟨_, _, leds, pc, _⟩ := step_expiry k i mode taken
    intro live
    have again := live (by rw [pc]; exact set)
    have going : ¬ Ends (c.led.leds i) := by simp [Ends, off]
    rw [leds] at again
    exact different ((tick_keeps going).symm.trans again)

/-- At its return the call has kept everything but, perhaps, the mode. -/
theorem survives_iff_live {c : Call Timer} (placed : Placed k i mode c) (returned : c.pc = .TimerUpdated) :
    Survives k i mode c ↔ Live i mode c := by
  have done : ∀ n ≤ 5, n ≤ c.pc.place := by
    intro n early
    rw [returned]
    exact early
  constructor
  · intro survives _
    exact survives.mode
  · intro live
    refine ⟨live (done 1 (by omega)), placed.tick_count (done 2 (by omega)), ?_, ?_, ?_⟩
    · intro j alarm
      by_cases here : j = i
      · subst here
        exact placed.alarm (done 3 (by omega)) alarm
      · exact ((placed.other j here).alarm alarm).1
    · rw [placed.timer (done 5 (by omega))]
      exact any_led_needs_timer_iff c.led
    · intro j off
      have dark : (c.led.leds j).state = false := by
        by_cases here : j = i
        · subst here
          exact placed.dark (.inr (done 4 (by omega))) off
        · exact (placed.other j here).dark off
      exact ⟨dark, (congrFun placed.pins j).trans dark⟩

/-- A mode request survives its preemption exactly when no expiry, between the
    assignment of the mode and that of its counters, ends the new mode by the
    counters of the old one. -/
theorem request_survives_iff (documented : k.Documented) {s₀ s : LedComponent Timer} (init : AfterInit k s₀)
    (reached : Reachable (Led.step k) s₀ s) {c last : Call Timer} (entered : enter i mode s = some c)
    {acts : List CallAction} (executed : run (step k i mode) c acts = some last) (returned : last.pc = .TimerUpdated) :
    Survives k i mode last ↔ EachStep (step k i mode) (Harmless i) c acts := by
  obtain ⟨consistent, settled⟩ := reachable_invariant k documented init reached
  have placed : Placed k i mode c := enter_placed k i mode consistent settled entered
  have placedLast : Placed k i mode last :=
    run_preserves (fun _ _ _ holds taken => step_placed k i mode documented holds taken) placed executed
  have live : Live i mode c := by
    unfold enter at entered
    split at entered
    · cases entered
    · cases entered
      simp [Live]
  rw [survives_iff_live k i mode placedLast returned]
  refine last_iff_eachStep (I := Placed k i mode) ?_ ?_ ?_ placed live executed
  · intro c a next holds taken
    exact step_placed k i mode documented holds taken
  · intro c a next holds lives taken
    exact step_live_iff k i mode holds lives taken
  · intro c a next holds dropped taken
    exact step_dropped k i mode holds dropped taken

/-- An expiry right after the check does an alarm on LED1 no harm. -/
theorem request_survives_iff_early :
    ∃ s c last, run (Led.step statusTimer) booted [.sysCtl .Active] = some s ∧ enter 1 .Alarm s = some c ∧
      run (step statusTimer 1 .Alarm) c
        [.expiry, .statement, .statement, .statement, .statement, .statement] = some last ∧
      last.pc = .TimerUpdated ∧ Survives statusTimer 1 .Alarm last := by
  refine ⟨_, _, _, rfl, rfl, rfl, rfl, ?_⟩
  refine (request_survives_iff statusTimer 1 .Alarm statusTimer_documented booted_afterInit
    ⟨[.sysCtl .Active], rfl⟩ (rfl : enter 1 .Alarm _ = some _)
    (rfl : run _ _ [.expiry, .statement, .statement, .statement, .statement, .statement] = some _) rfl).mpr ?_
  have statement : ∀ c : Call (Option Nat), Harmless 1 c .statement := fun c expiry => absurd expiry (by simp)
  intro first _
  refine ⟨?_, fun _ _ => ⟨statement _, fun _ _ => ⟨statement _, fun _ _ => ⟨statement _, fun _ _ => ⟨statement _,
    fun _ _ => ⟨statement _, trivial⟩⟩⟩⟩⟩⟩
  rintro _ (set | reset)
  · cases set
  · cases reset

/-- An expiry right after an alarm is set on LED1 sees the duration `0` that LED1
    still has, and ends the alarm before it began. -/
theorem preempted_alarm_dropped :
    ∃ s c last, run (Led.step statusTimer) booted [.sysCtl .Active] = some s ∧ enter 1 .Alarm s = some c ∧
      run (step statusTimer 1 .Alarm) c
        [.statement, .expiry, .statement, .statement, .statement, .statement] = some last ∧
      last.pc = .TimerUpdated ∧ (last.led.leds 1).mode = .Off ∧ ¬ Survives statusTimer 1 .Alarm last := by
  refine ⟨_, _, _, rfl, rfl, rfl, rfl, rfl, ?_⟩
  intro survives
  have alarm := survives.mode
  revert alarm
  decide

end ZephyrWorkshop.LedPreempt
