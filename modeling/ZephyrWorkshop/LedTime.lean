import ZephyrWorkshop.LedPower
import ZephyrWorkshop.SysCtrl

/-!
The LED component in milliseconds. A started timer expires at its start and
every period later. LED0 blinks by the ticks of a timer that every change of
LED1's mode restarts, so its pin keeps to the clock of its own start as long as
these changes come at the moment of a tick, where the restart changes nothing.
Then what LED0 shows does not depend on LED1 at all (`blinking_undisturbed`).
-/

namespace ZephyrWorkshop.LedTime
open ZephyrWorkshop.Zephyr ZephyrWorkshop.Led ZephyrWorkshop.LedRuns
open ZephyrWorkshop.LedPower ZephyrWorkshop.SysCtrl ZephyrWorkshop.Transition

/-! ### The timer and its clock -/

/-- A timer with the current time and its next expiry, in milliseconds. -/
structure TimedTimer where
  now : Nat
  next : Option Nat
  period : Nat
deriving DecidableEq, Repr

def timedTimer : KTimer TimedTimer where
  zeroed := ⟨0, none, 0⟩
  k_timer_init t := { t with next := none }
  k_timer_start t duration period := { t with next := some (t.now + duration), period := period }
  k_timer_stop t := { t with next := none }
  expire t := { t with next := if t.period = 0 then none else t.next.map (· + t.period) }
  running t := t.next.isSome
  period t := t.period

theorem timedTimer_documented : timedTimer.Documented where
  init_stopped _ := rfl
  start_runs _ _ _ := rfl
  start_period _ _ _ := rfl
  stop_stopped _ := rfl
  expire_running t running := by
    have runs : t.next.isSome = true := running
    by_cases once : t.period = 0
    · simp [timedTimer, once]
    · simp [timedTimer, once, runs, Nat.pos_of_ne_zero once]
  expire_period _ := rfl

/-- A callback at a time that has come and before which no expiry is due; an
    expiry is handled when it is due. -/
def timedStep (s : LedComponent TimedTimer) (a : Nat × LedAction) : Option (LedComponent TimedTimer) :=
  if s.led_timer.now ≤ a.1 ∧ a.1 ≤ s.led_timer.next.getD a.1 ∧ (a.2 = .expiry → s.led_timer.next = some a.1) then
    Led.step timedTimer { s with led_timer := { s.led_timer with now := a.1 } } a.2
  else none

/-- The changes of LED0's pin in a run, each with its time. -/
def changes : LedComponent TimedTimer → List (Nat × LedAction) → List (Nat × Bool)
  | _, [] => []
  | s, a :: rest =>
    match timedStep s a with
    | none => []
    | some next => (if next.pins 0 = s.pins 0 then [] else [(a.1, next.pins 0)]) ++ changes next rest

/-! ### Two runs to compare -/

/-- A message of one of the two channels, or an expiry. -/
def Message (a : Nat × LedAction) : Prop := ∀ argv, a.2 ≠ .shell argv

/-- ACTIVE reaches the component at the time `start`, after a run from
    `led_init`, and LED0 enters its power signal. -/
def Entered (start : Nat) (s : LedComponent TimedTimer) : Prop :=
  ∃ s₀ before asleep, AfterInit timedTimer s₀ ∧ (∀ a ∈ before, Message a) ∧
    run timedStep s₀ before = some asleep ∧ (asleep.leds 0).mode ≠ .PowerSignal ∧
    timedStep asleep (start, .sysCtl .Active) = some s

/-- A run on from `s` in which LED0 stays in its power signal, observed until
    all that is due by the time `finish` has happened. -/
structure Observed (finish : Nat) (s : LedComponent TimedTimer) (acts : List (Nat × LedAction)) : Prop where
  begun : s.led_timer.now ≤ finish
  messages : ∀ a ∈ acts, Message a ∧ Stays a.2 ∧ a.1 ≤ finish
  complete : ∃ last, run timedStep s acts = some last ∧ ∀ due ∈ last.led_timer.next, finish < due

/-- A message that changes the mode of LED1 comes when the next expiry is a full
    tick away. -/
def Undisturbing (s : LedComponent TimedTimer) (a : Nat × LedAction) : Prop :=
  ∀ mode, command a.2 = some (1, mode) → (s.leds 1).mode ≠ mode → s.led_timer.next = some (a.1 + LED_TICK_MS)

/-- LED0 after the `n`-th tick. -/
def level : Nat → Bool
  | 0 => false
  | n + 1 => n % 2 ^ 32 % (POWER_ON_TICKS + POWER_OFF_TICKS).toNat < POWER_ON_TICKS.toNat

/-- The change that the tick number `n + 1` brings, if it brings one. -/
def change (start n : Nat) : List (Nat × Bool) :=
  if level (n + 1) = level n then [] else [(start + LED_TICK_MS * (n + 1), level (n + 1))]

/-- 50 ms on and 500 ms off, over and over, for a number of ticks. -/
def blinking (start ticks : Nat) : List (Nat × Bool) :=
  (List.range ticks).flatMap fun n =>
    if n % 55 = 0 then [(start + 10 * (n + 1), true)]
    else if n % 55 = 5 then [(start + 10 * (n + 1), false)]
    else []

/-! ### One step -/

/-- A callback in time is a callback. -/
theorem timedStep_step {s next : LedComponent TimedTimer} {a : Nat × LedAction} (taken : timedStep s a = some next) :
    Led.step timedTimer { s with led_timer := { s.led_timer with now := a.1 } } a.2 = some next ∧
      (a.2 = .expiry → s.led_timer.next = some a.1) ∧ s.led_timer.now ≤ a.1 := by
  by_cases inTime : s.led_timer.now ≤ a.1 ∧ a.1 ≤ s.led_timer.next.getD a.1 ∧
      (a.2 = .expiry → s.led_timer.next = some a.1)
  · rw [timedStep, if_pos inTime] at taken
    exact ⟨taken, inTime.2.2, inTime.1⟩
  · rw [timedStep, if_neg inTime] at taken
    cases taken

theorem timedStep_after {s next : LedComponent TimedTimer} {a : Nat × LedAction} (consistent : Consistent timedTimer s)
    (taken : timedStep s a = some next) : next.leds = after s.leds a.2 ∧ Consistent timedTimer next :=
  step_after timedTimer timedTimer_documented (s := { s with led_timer := { s.led_timer with now := a.1 } })
    ⟨consistent.pins, consistent.timer, consistent.ticks⟩ (timedStep_step taken).1

/-- A timer that has just been started, or has just expired. -/
def armed (t : Nat) : TimedTimer := ⟨t, some (t + LED_TICK_MS), LED_TICK_MS⟩

/-- Where an LED still needs the timer, ending the mode of another one at a tick
    leaves the timer as it was. -/
theorem update_led_armed {s : LedComponent TimedTimer} {t : Nat} (i : Fin 2) (isArmed : s.led_timer = armed t)
    (power : (s.leds 0).mode = .PowerSignal) : (update_led timedTimer s i).led_timer = armed t := by
  have runs : timedTimer.running s.led_timer = any_led_needs_timer s := by
    have needed : any_led_needs_timer s = true := (any_led_needs_timer_iff s).mpr ⟨0, by simp [power]⟩
    rw [needed, isArmed]
    rfl
  have kept : ((update_led timedTimer s i).leds 0).mode = .PowerSignal := by
    rw [update_led_leds]
    by_cases here : i = 0
    · subst here
      simp [tick, power]
    · rw [Function.update_of_ne (Ne.symm here), power]
  have needed := (any_led_needs_timer_iff (update_led timedTimer s i)).mpr ⟨0, by simp [kept]⟩
  rw [← update_led_running timedTimer timedTimer_documented i runs] at needed
  rcases update_led_timer timedTimer s i with same | started | stopped
  · rw [same, isArmed]
  · rw [started, isArmed]
    rfl
  · rw [stopped] at needed
    cases needed

theorem handler_armed {s : LedComponent TimedTimer} {t : Nat} (isArmed : s.led_timer = armed t)
    (power : (s.leds 0).mode = .PowerSignal) : (led_timer_handler timedTimer s).led_timer = armed t := by
  refine update_led_armed 1 (update_led_armed 0 isArmed power) ?_
  simp [update_led_leds, tick, power]

/-- LED0 blinks by the clock that began at `start`, and has seen `n` ticks. -/
structure OnSchedule (start n : Nat) (s : LedComponent TimedTimer) : Prop where
  consistent : Consistent timedTimer s
  power : PowerAt n s.leds
  lit : (s.leds 0).state = level n
  next : s.led_timer.next = some (start + LED_TICK_MS * (n + 1))
  period : s.led_timer.period = LED_TICK_MS
  now : start + LED_TICK_MS * n ≤ s.led_timer.now

theorem OnSchedule.pin {start n : Nat} {s : LedComponent TimedTimer} (on : OnSchedule start n s) :
    s.pins 0 = level n := by
  rw [on.consistent.pins]
  exact on.lit

/-- A tick comes when it is due and is counted. -/
theorem OnSchedule.tick {start n t : Nat} {s next : LedComponent TimedTimer} (on : OnSchedule start n s)
    (taken : timedStep s (t, .expiry) = some next) :
    t = start + LED_TICK_MS * (n + 1) ∧ next.led_timer.now = t ∧ OnSchedule start (n + 1) next := by
  obtain ⟨moved, due, _⟩ := timedStep_step taken
  obtain ⟨leds, consistent⟩ := timedStep_after on.consistent taken
  obtain ⟨power, lit⟩ := after_expiry on.power
  have time : t = start + LED_TICK_MS * (n + 1) := Option.some.inj ((due rfl).symm.trans on.next)
  have timer : next.led_timer = armed t := by
    obtain ⟨_, rfl⟩ := step_expiry timedTimer moved
    refine handler_armed ?_ on.power.mode
    have periodic : LED_TICK_MS ≠ 0 := by decide
    simp [timedTimer, armed, periodic, on.period, on.next, time]
  refine ⟨time, by rw [timer]; rfl, consistent, leds ▸ power, ?_, ?_, by rw [timer]; rfl, ?_⟩
  · rw [leds, Bool.eq_iff_iff, lit]
    simp [level]
  · rw [timer, time]
    simp only [armed, LED_TICK_MS, Option.some.injEq]
    omega
  · rw [timer, time]
    simp only [armed]
    omega

/-- A request that disturbs nothing leaves the timer as it was. -/
theorem asked_timer {start n t : Nat} {s : LedComponent TimedTimer} (on : OnSchedule start n s) {a : LedAction}
    (stays : Stays a) (undisturbing : Undisturbing s (t, a)) :
    (asked timedTimer { s with led_timer := { s.led_timer with now := t } } a).led_timer =
      { s.led_timer with now := t } := by
  unfold asked
  cases asks : command a with
  | none => rfl
  | some target =>
    obtain ⟨i, mode⟩ := target
    dsimp only
    rw [set_led_mode_eq]
    by_cases same : (s.leds i).mode = mode
    · rw [if_pos same]
    rw [if_neg same]
    by_cases here : i = 0
    · subst here
      rw [stays mode asks] at same
      exact absurd on.power.mode same
    · obtain rfl : i = 1 := by omega
      have lit : ((requested { s with led_timer := { s.led_timer with now := t } } 1 mode).leds 0).mode ≠ .Off := by
        simp [requested, on.power.mode]
      -- the restart puts the next expiry where it was
      have next : s.led_timer.next = some (t + LED_TICK_MS) := undisturbing mode asks same
      rw [update_timer_state_lit timedTimer lit]
      simp [requested, timedTimer, next, ← on.period]

theorem OnSchedule.message {start n : Nat} {s next : LedComponent TimedTimer} {a : Nat × LedAction}
    (on : OnSchedule start n s) (stays : Stays a.2) (undisturbing : Undisturbing s a) (tickless : a.2 ≠ .expiry)
    (taken : timedStep s a = some next) : next.led_timer.now = a.1 ∧ OnSchedule start n next := by
  obtain ⟨moved, _, inTime⟩ := timedStep_step taken
  obtain ⟨leds, consistent⟩ := timedStep_after on.consistent taken
  have timer : next.led_timer = { s.led_timer with now := a.1 } := by
    rw [step_asked timedTimer _ tickless] at moved
    cases moved
    exact asked_timer on stays undisturbing
  have same : next.leds 0 = s.leds 0 := by
    rw [leds]
    exact after_stays on.power.mode stays tickless
  refine ⟨by rw [timer], consistent, leds ▸ after_other on.power stays tickless, by rw [same, on.lit],
    by rw [timer]; exact on.next, by rw [timer]; exact on.period, ?_⟩
  rw [timer]
  exact on.now.trans inTime

/-! ### Whole runs -/

/-- Up to a time, a run that disturbs nothing makes the changes of the ticks
    that are due by then. -/
theorem changes_eq {start finish n : Nat} {s : LedComponent TimedTimer} {acts : List (Nat × LedAction)}
    (on : OnSchedule start n s) (observed : Observed finish s acts)
    (undisturbing : EachStep timedStep Undisturbing s acts) :
    changes s acts = (List.range' n ((finish - start) / LED_TICK_MS - n)).flatMap (change start) := by
  induction acts generalizing n s with
  | nil =>
    obtain ⟨last, executed, complete⟩ := observed.complete
    cases executed
    have later := complete _ on.next
    have early := on.now
    have begun := observed.begun
    simp only [LED_TICK_MS] at later early ⊢
    rw [show (finish - start) / 10 - n = 0 by omega]
    rfl
  | cons a rest ih =>
    obtain ⟨last, executed, complete⟩ := observed.complete
    rw [run_cons] at executed
    obtain ⟨next, taken, tail⟩ := Option.bind_eq_some_iff.mp executed
    obtain ⟨_, stays, inside⟩ := observed.messages a List.mem_cons_self
    obtain ⟨harmless, later⟩ := undisturbing next taken
    have rest_observed : next.led_timer.now = a.1 → Observed finish next rest := fun now =>
      ⟨now ▸ inside, fun b member => observed.messages b (List.mem_cons_of_mem a member), last, tail, complete⟩
    rw [changes, taken]
    dsimp only
    by_cases expiry : a.2 = .expiry
    · obtain ⟨t, act⟩ := a
      cases expiry
      obtain ⟨time, now, onNext⟩ := on.tick taken
      dsimp only at time inside
      have due : (finish - start) / LED_TICK_MS - n = (finish - start) / LED_TICK_MS - (n + 1) + 1 := by
        simp only [LED_TICK_MS] at time ⊢
        omega
      rw [ih onNext (rest_observed now) later, due, List.range'_succ, List.flatMap_cons, change, on.pin, onNext.pin, time]
    · obtain ⟨now, onNext⟩ := on.message stays harmless expiry taken
      rw [ih onNext (rest_observed now) later, on.pin, onNext.pin, if_pos rfl, List.nil_append]

/-- What holds of LED0 before ACTIVE reaches it. -/
structure Before (s : LedComponent TimedTimer) : Prop where
  consistent : Consistent timedTimer s
  settled : Settled (s.leds 0)
  shows : ∃ state, (s.leds 0).mode = shownAs state

theorem before_init {s : LedComponent TimedTimer} (init : AfterInit timedTimer s) : Before s := by
  obtain ⟨leds, consistent⟩ := led_init_spec timedTimer timedTimer_documented init
  refine ⟨consistent, ?_, .Sleep, ?_⟩
  · rw [leds]
    exact off_settled
  · rw [leds]
    rfl

theorem Before.off {s : LedComponent TimedTimer} (before : Before s) (idle : (s.leds 0).mode ≠ .PowerSignal) :
    (s.leds 0).mode = .Off := by
  obtain ⟨state, shows⟩ := before.shows
  cases state with
  | Sleep => exact shows
  | Active => exact absurd shows idle

theorem before_preserved {s next : LedComponent TimedTimer} {a : Nat × LedAction} (before : Before s)
    (message : Message a) (taken : timedStep s a = some next) : Before next := by
  obtain ⟨consistent, settled, state, shows⟩ := before
  obtain ⟨leds, kept⟩ := timedStep_after consistent taken
  obtain ⟨t, act⟩ := a
  cases act with
  | shell argv => exact absurd rfl (message argv)
  | expiry =>
    refine ⟨kept, ?_, state, ?_⟩
    · rw [leds, after, if_pos rfl]
      exact tick_settled settled
    · rw [leds, after, if_pos rfl]
      exact tick_shownAs shows
  | sysCtl asked =>
    cases asked with
    | Sleep =>
      refine ⟨kept, ?_, .Sleep, by simp [leds, after, command, shownAs]⟩
      simpa [leds, after, command] using request_settled .Off settled
    | Active =>
      refine ⟨kept, ?_, .Active, by simp [leds, after, command, shownAs]⟩
      simpa [leds, after, command] using request_settled .PowerSignal settled
  | event msg =>
    have same : next.leds 0 = s.leds 0 := by
      obtain ⟨event⟩ := msg
      rw [leds]
      cases event <;> simp [after, command]
    exact ⟨kept, by rwa [same], state, by rwa [same]⟩

/-- LED0 enters its power signal dark, and its clock begins. -/
theorem entered_onSchedule {start : Nat} {s : LedComponent TimedTimer} (entered : Entered start s) :
    OnSchedule start 0 s ∧ s.led_timer.now = start := by
  obtain ⟨s₀, acts, asleep, init, messages, executed, idle, taken⟩ := entered
  have before : Before asleep := run_preserves_of_mem
    (fun _ _ _ before message moved => before_preserved before message moved) (before_init init) messages executed
  have off : (asleep.leds 0).mode = .Off := before.off idle
  have dark : (asleep.leds 0).state = false := before.settled.dark off
  obtain ⟨leds, kept⟩ := timedStep_after before.consistent taken
  have power : PowerAt 0 s.leds := by
    rw [leds]
    exact power_entered idle (by simp [after, command])
  have timer : s.led_timer = armed start := by
    have moved := (timedStep_step taken).1
    rw [step_asked timedTimer _ (by simp)] at moved
    cases moved
    have lit : ((requested { asleep with led_timer := { asleep.led_timer with now := start } } 0
        .PowerSignal).leds 0).mode ≠ .Off := by
      simp [requested]
    show (set_led_mode timedTimer _ (UInt8.ofNat (0 : Fin 2)) .PowerSignal).led_timer = _
    rw [set_led_mode_eq, if_neg (by simp [off]), update_timer_state_lit timedTimer lit]
    rfl
  refine ⟨⟨kept, power, ?_, by rw [timer]; rfl, by rw [timer]; rfl, ?_⟩, by rw [timer]; rfl⟩
  · rw [leds]
    simp [after, command, request, off, dark, level]
  · rw [timer]
    exact Nat.le_refl _

/-- The changes of the ticks are those of 50 ms on and 500 ms off. -/
theorem change_blinking {start n : Nat} (small : n < 2 ^ 32) :
    change start n =
      if n % 55 = 0 then [(start + 10 * (n + 1), true)]
      else if n % 55 = 5 then [(start + 10 * (n + 1), false)]
      else [] := by
  have period : (POWER_ON_TICKS + POWER_OFF_TICKS).toNat = 55 := rfl
  have lit : POWER_ON_TICKS.toNat = 5 := rfl
  have next : level (n + 1) = decide (n % 55 < 5) := by
    rw [level, period, lit, Nat.mod_eq_of_lt small]
  unfold change
  rw [next, LED_TICK_MS]
  cases n with
  | zero => simp [level]
  | succ m =>
    have smaller : m < 2 ^ 32 := by omega
    have before : level (m + 1) = decide (m % 55 < 5) := by
      rw [level, period, lit, Nat.mod_eq_of_lt smaller]
    rw [before]
    by_cases on : (m + 1) % 55 = 0
    · have different : ¬ m % 55 < 5 := by omega
      simp [on, different]
    by_cases off : (m + 1) % 55 = 5
    · have different : m % 55 < 5 := by omega
      simp [off, different]
    · have same : (m + 1) % 55 < 5 ↔ m % 55 < 5 := by omega
      simp [on, off, same]

/-- In any two runs in which LED0 enters its power signal at the same time and
    stays in it until they are both observed, whatever readings and alerts they
    bring: as long as each change of LED1's mode comes at a tick, the pin of
    LED0 changes at the same times to the same levels, and that is 50 ms on and
    500 ms off until the tick counter wraps. -/
theorem blinking_undisturbed {start finish : Nat} {s s' : LedComponent TimedTimer} (entered : Entered start s)
    (entered' : Entered start s') {acts acts' : List (Nat × LedAction)} (observed : Observed finish s acts)
    (observed' : Observed finish s' acts') (undisturbing : EachStep timedStep Undisturbing s acts)
    (undisturbing' : EachStep timedStep Undisturbing s' acts') :
    changes s acts = changes s' acts' ∧
      ((finish - start) / LED_TICK_MS ≤ 2 ^ 32 →
        changes s acts = blinking start ((finish - start) / LED_TICK_MS)) := by
  have first := changes_eq (entered_onSchedule entered).1 observed undisturbing
  have second := changes_eq (entered_onSchedule entered').1 observed' undisturbing'
  refine ⟨first.trans second.symm, ?_⟩
  intro short
  rw [first, Nat.sub_zero, ← List.range_eq_range', blinking]
  refine List.flatMap_congr fun n member => ?_
  rw [List.mem_range] at member
  exact change_blinking (by omega)

/-- The component after `led_init` on two ready pins and ACTIVE at 3 ms. -/
def activeAtThree : LedComponent TimedTimer :=
  led_sys_ctl_cb timedTimer
    { (led_init timedTimer ⟨fun _ => true, fun _ => true⟩ (zeroed timedTimer fun _ => true)).1 with
      led_timer := ⟨3, none, 0⟩ } .Active

theorem activeAtThree_entered : Entered 3 activeAtThree :=
  ⟨_, [], _, ⟨⟨fun _ => true, fun _ => true⟩, fun _ => true, rfl⟩, by simp, rfl, by decide, rfl⟩

/-- Expiries at these times, and a reading at one time in between. -/
def ticksAnd (ticks : List Nat) (reading : Nat) (later : List Nat) : List (Nat × LedAction) :=
  ticks.map (fun t => (t, .expiry)) ++ (reading, .event ⟨.SensorReading⟩) :: later.map (fun t => (t, .expiry))

theorem observed_ticksAnd {ticks later : List Nat} {reading finish : Nat} {last : LedComponent TimedTimer}
    (begun : 3 ≤ finish) (early : ∀ t ∈ ticks, t ≤ finish) (inside : reading ≤ finish) (late : ∀ t ∈ later, t ≤ finish)
    (executed : run timedStep activeAtThree (ticksAnd ticks reading later) = some last)
    (complete : ∀ due ∈ last.led_timer.next, finish < due) :
    Observed finish activeAtThree (ticksAnd ticks reading later) := by
  refine ⟨begun, ?_, last, executed, complete⟩
  intro a member
  simp only [ticksAnd, List.mem_append, List.mem_cons, List.mem_map] at member
  rcases member with ⟨t, tick, rfl⟩ | rfl | ⟨t, tick, rfl⟩
  · exact ⟨by simp [Message], by simp [Stays, command], early t tick⟩
  · exact ⟨by simp [Message], by simp [Stays, command], inside⟩
  · exact ⟨by simp [Message], by simp [Stays, command], late t tick⟩

/-- A reading right after the first tick, or right after the second one. -/
theorem blinking_undisturbed_readings :
    changes activeAtThree (ticksAnd [13] 13 [23]) = changes activeAtThree (ticksAnd [13, 23] 23 []) := by
  have tick : ∀ s t, Undisturbing s (t, .expiry) := fun _ _ _ asks => by cases asks
  have one : Observed 23 activeAtThree (ticksAnd [13] 13 [23]) := by
    refine observed_ticksAnd (by decide) (by decide) (by decide) (by decide) rfl ?_
    rintro _ ⟨⟩
    decide
  have two : Observed 23 activeAtThree (ticksAnd [13, 23] 23 []) := by
    refine observed_ticksAnd (by decide) (by decide) (by decide) (by decide) rfl ?_
    rintro _ ⟨⟩
    decide
  refine (blinking_undisturbed activeAtThree_entered activeAtThree_entered one two ?_ ?_).1
  · intro first ticked
    obtain rfl := Option.some.inj ticked
    exact ⟨tick _ _, fun _ _ => ⟨fun _ _ _ => rfl, fun _ _ => ⟨tick _ _, trivial⟩⟩⟩
  · intro first ticked
    obtain rfl := Option.some.inj ticked
    refine ⟨tick _ _, ?_⟩
    intro second again
    obtain rfl := Option.some.inj again
    exact ⟨tick _ _, fun _ _ => ⟨fun _ _ _ => rfl, trivial⟩⟩

/-- A reading between two ticks moves all the ticks after it. -/
theorem reading_shifts_blinking :
    Entered 3 activeAtThree ∧ Observed 73 activeAtThree (ticksAnd [13] 13 [23, 33, 43, 53, 63, 73]) ∧
      Observed 73 activeAtThree (ticksAnd [13] 15 [25, 35, 45, 55, 65]) ∧
      changes activeAtThree (ticksAnd [13] 13 [23, 33, 43, 53, 63, 73]) = [(13, true), (63, false)] ∧
      changes activeAtThree (ticksAnd [13] 15 [25, 35, 45, 55, 65]) = [(13, true), (65, false)] ∧
      changes activeAtThree (ticksAnd [13] 13 [23, 33, 43, 53, 63, 73]) ≠
        changes activeAtThree (ticksAnd [13] 15 [25, 35, 45, 55, 65]) := by
  have regular : changes activeAtThree (ticksAnd [13] 13 [23, 33, 43, 53, 63, 73]) = [(13, true), (63, false)] := rfl
  have shifted : changes activeAtThree (ticksAnd [13] 15 [25, 35, 45, 55, 65]) = [(13, true), (65, false)] := rfl
  refine ⟨activeAtThree_entered, observed_ticksAnd (by decide) (by decide) (by decide) (by decide) rfl ?_,
    observed_ticksAnd (by decide) (by decide) (by decide) (by decide) rfl ?_, regular, shifted, ?_⟩
  · rintro _ ⟨⟩
    decide
  · rintro _ ⟨⟩
    decide
  · rw [regular, shifted]
    decide

end ZephyrWorkshop.LedTime
