import Mathlib.Data.ENat.Lattice
import ZephyrWorkshop.LedRuns

/-!
How long the LEDs stay on when nothing more is asked of them. An LED in a timed
mode has a number of expiries left, every expiry takes one of them, and nothing
else does; an LED in its power signal has no end. So the component comes to
rest when the larger number is used up (`timed_modes_run_out`), and SYS_SLEEP,
which reaches LED0 alone, leaves LED1 on for as long as its own number says
(`sleep_darkens_iff`).
-/

namespace ZephyrWorkshop.LedCountdown
open ZephyrWorkshop.Zephyr ZephyrWorkshop.Led ZephyrWorkshop.LedRuns
open ZephyrWorkshop.Transition

/-! ### One LED -/

/-- The expiries until the LED is off. -/
def remaining (led : LedInstance) : ℕ∞ :=
  match led.mode with
  | .Off => 0
  | .PowerSignal => ⊤
  | .SensorPulse => (PULSE_ON_TICKS.toNat + 1 - led.tick_count.toNat : Nat)
  | .Alarm => (led.duration_ticks.toNat - led.tick_count.toNat : Nat)

theorem remaining_eq_zero_iff {led : LedInstance} (settled : Settled led) : remaining led = 0 ↔ led.mode = .Off := by
  cases mode : led.mode with
  | Off => simp [remaining, mode]
  | PowerSignal => simp [remaining, mode]
  | SensorPulse =>
    have early := UInt32.le_iff_toNat_le.mp (settled.pulse mode)
    simp only [remaining, mode, Nat.cast_eq_zero, reduceCtorEq, iff_false]
    omega
  | Alarm =>
    have early := UInt32.lt_iff_toNat_lt.mp (settled.alarm mode).2
    simp only [remaining, mode, Nat.cast_eq_zero, reduceCtorEq, iff_false]
    omega

/-- An expiry takes one. -/
theorem remaining_tick {led : LedInstance} (settled : Settled led) : remaining (tick led) = remaining led - 1 := by
  cases mode : led.mode with
  | Off => simp [remaining, tick, mode]
  | PowerSignal => simp [remaining, tick, mode]
  | SensorPulse =>
    have limit : PULSE_ON_TICKS.toNat = 5 := rfl
    have bound := UInt32.le_iff_toNat_le.mp (settled.pulse mode)
    by_cases early : led.tick_count < PULSE_ON_TICKS
    · have counted := toNat_next_tick early
      have next : PULSE_ON_TICKS.toNat + 1 - (led.tick_count.toNat + 1) =
          PULSE_ON_TICKS.toNat + 1 - led.tick_count.toNat - 1 := by omega
      simp only [remaining, tick, mode, early, if_true, counted, next]
      rfl
    · have late := UInt32.le_iff_toNat_le.mp (UInt32.not_lt.mp early)
      have last : PULSE_ON_TICKS.toNat + 1 - led.tick_count.toNat = 1 := by omega
      simp only [remaining, tick, mode, early, if_false, last]
      rfl
  | Alarm =>
    have running := (settled.alarm mode).2
    have early := UInt32.lt_iff_toNat_lt.mp running
    have counted := toNat_next_tick running
    by_cases elapsed : led.tick_count + 1 ≥ led.duration_ticks
    · have late := UInt32.le_iff_toNat_le.mp elapsed
      rw [counted] at late
      have last : led.duration_ticks.toNat - led.tick_count.toNat = 1 := by omega
      simp only [remaining, tick, mode, elapsed, if_true, last]
      rfl
    · have next : led.duration_ticks.toNat - (led.tick_count.toNat + 1) =
          led.duration_ticks.toNat - led.tick_count.toNat - 1 := by omega
      simp only [remaining, tick, mode, elapsed, if_false, counted, next]
      rfl

theorem remaining_pulse {led : LedInstance} (pulse : led.mode = .SensorPulse) :
    remaining led ≤ (PULSE_ON_TICKS.toNat + 1 : Nat) := by
  simp only [remaining, pulse, Nat.cast_le]
  omega

/-- No timed mode lasts longer than an alarm. -/
theorem remaining_timed {led : LedInstance} (settled : Settled led) (timed : led.mode ≠ .PowerSignal) :
    remaining led ≤ ALARM_DURATION_TICKS.toNat := by
  cases mode : led.mode with
  | Off => simp [remaining, mode]
  | PowerSignal => contradiction
  | SensorPulse =>
    refine (remaining_pulse mode).trans (Nat.cast_le.mpr ?_)
    decide
  | Alarm =>
    simp only [remaining, mode, (settled.alarm mode).1, Nat.cast_le]
    omega

/-! ### Both LEDs -/

variable {Timer : Type*} (k : KTimer Timer)

/-- What every reachable state satisfies. -/
structure Sound (s : LedComponent Timer) : Prop where
  consistent : Consistent k s
  settled : ∀ i, Settled (s.leds i)

/-- Both LEDs are off, both pins inactive and the timer is stopped. -/
structure Resting (s : LedComponent Timer) : Prop where
  off : ∀ i, (s.leds i).mode = .Off
  dark : ∀ i, s.pins i = false
  stopped : k.running s.led_timer = false

/-- The action leaves this LED to the timer. -/
def Spares (i : Fin 2) (a : LedAction) : Prop := ∀ mode, command a ≠ some (i, mode)

theorem reachable_sound (documented : k.Documented) {s₀ s : LedComponent Timer} (init : AfterInit k s₀)
    (reached : Reachable (step k) s₀ s) : Sound k s := by
  obtain ⟨consistent, settled⟩ := reachable_invariant k documented init reached
  exact ⟨consistent, settled⟩

variable {k}

theorem step_sound (documented : k.Documented) {s next : LedComponent Timer} {a : LedAction} (sound : Sound k s)
    (taken : step k s a = some next) : Sound k next := by
  obtain ⟨leds, consistent⟩ := step_after k documented sound.consistent taken
  refine ⟨consistent, fun i => ?_⟩
  rw [leds]
  exact after_settled sound.settled a i

/-- An LED with expiries left keeps the timer running. -/
theorem running_of_remaining {s : LedComponent Timer} (sound : Sound k s) {i : Fin 2}
    (left : remaining (s.leds i) ≠ 0) : k.running s.led_timer = true := by
  rw [running_iff k sound.consistent]
  intro off
  exact left ((remaining_eq_zero_iff (sound.settled i)).mpr (off i))

/-- The component rests when no LED has an expiry left. -/
theorem resting_iff {s : LedComponent Timer} (sound : Sound k s) :
    Resting k s ↔ ∀ i, remaining (s.leds i) = 0 := by
  constructor
  · intro resting i
    exact (remaining_eq_zero_iff (sound.settled i)).mpr (resting.off i)
  · intro spent
    have off : ∀ i, (s.leds i).mode = .Off := fun i => (remaining_eq_zero_iff (sound.settled i)).mp (spent i)
    refine ⟨off, fun i => ?_, ?_⟩
    · rw [sound.consistent.pins]
      exact (sound.settled i).dark (off i)
    · rw [← Bool.not_eq_true, running_iff k sound.consistent]
      exact not_not_intro off

theorem remaining_expiry {s next : LedComponent Timer} (sound : Sound k s) (taken : step k s .expiry = some next)
    (i : Fin 2) : remaining (next.leds i) = remaining (s.leds i) - 1 := by
  rw [step_leds k taken, after, if_pos rfl, remaining_tick (sound.settled i)]

theorem leds_spared {s next : LedComponent Timer} {i : Fin 2} {a : LedAction} (spares : Spares i a)
    (other : a ≠ .expiry) (taken : step k s a = some next) : next.leds i = s.leds i := by
  rw [step_leds k taken, after, if_neg other]
  cases asked : command a with
  | none => rfl
  | some target =>
    obtain ⟨target, mode⟩ := target
    have elsewhere : i ≠ target := by
      rintro rfl
      exact spares mode asked
    simp [elsewhere]

/-- A run that asks nothing of an LED takes one expiry of it after the other. -/
theorem run_remaining (documented : k.Documented) {s last : LedComponent Timer} (sound : Sound k s) {i : Fin 2}
    {acts : List LedAction} (spared : ∀ a ∈ acts, Spares i a) (executed : run (step k) s acts = some last) :
    remaining (last.leds i) = remaining (s.leds i) - acts.count .expiry := by
  refine run_lowers (I := Sound k) (μ := fun s => remaining (s.leds i)) (Q := Spares i) ?_ ?_ ?_ sound spared executed
  · intro s a next before taken
    exact step_sound documented before taken
  · intro s next before taken
    exact remaining_expiry before taken i
  · intro s a next _ spares other taken
    rw [leds_spared spares other taken]

theorem run_sound (documented : k.Documented) {s last : LedComponent Timer} {acts : List LedAction}
    (sound : Sound k s) (executed : run (step k) s acts = some last) : Sound k last :=
  run_preserves (fun _ _ _ before taken => step_sound documented before taken) sound executed

/-- The expiries until both LEDs are off. -/
noncomputable def longest (s : LedComponent Timer) : ℕ∞ := max (remaining (s.leds 0)) (remaining (s.leds 1))

theorem longest_eq_zero_iff (s : LedComponent Timer) : longest s = 0 ↔ ∀ i, remaining (s.leds i) = 0 := by
  simp [longest, Fin.forall_fin_two]

theorem running_of_longest {s : LedComponent Timer} (sound : Sound k s) (left : longest s ≠ 0) :
    k.running s.led_timer = true := by
  rw [Ne, longest_eq_zero_iff, not_forall] at left
  obtain ⟨i, lit⟩ := left
  exact running_of_remaining sound lit

theorem longest_expiry {s next : LedComponent Timer} (sound : Sound k s) (taken : step k s .expiry = some next) :
    longest next = longest s - 1 := by
  have monotone : Monotone (fun n : ℕ∞ => n - 1) := fun _ _ le => tsub_le_tsub_right le 1
  simp only [longest, remaining_expiry sound taken]
  exact (monotone.map_max).symm

/-- The timer serves the LED that takes longer: as many expiries follow one
    another as that LED has left. -/
theorem expiries_run (documented : k.Documented) {s : LedComponent Timer} (sound : Sound k s) {n : Nat}
    (long : n ≤ longest s) :
    ∃ last, run (step k) s (List.replicate n .expiry) = some last ∧ Sound k last ∧ longest last = longest s - n := by
  refine run_ticks (I := Sound k) (μ := longest) ?_ ?_ ?_ sound long
  · intro s a next before taken
    exact step_sound documented before taken
  · intro s next before taken
    exact longest_expiry before taken
  · intro s before left
    exact ⟨_, if_pos (running_of_longest before left)⟩

theorem longest_timed {s : LedComponent Timer} (sound : Sound k s) (timed : ∀ i, (s.leds i).mode ≠ .PowerSignal) :
    longest s ≤ ALARM_DURATION_TICKS.toNat :=
  max_le (remaining_timed (sound.settled 0) (timed 0)) (remaining_timed (sound.settled 1) (timed 1))

/-- With as many expiries left as `n`, the component rests after `n` of them
    and keeps its timer running until then. -/
theorem runs_out (documented : k.Documented) {s : LedComponent Timer} (sound : Sound k s) {n : Nat}
    (left : longest s = n) :
    (∃ last, run (step k) s (List.replicate n .expiry) = some last ∧ Resting k last) ∧
    ∀ m < n, ∃ middle, run (step k) s (List.replicate m .expiry) = some middle ∧
      k.running middle.led_timer = true := by
  constructor
  · obtain ⟨last, executed, soundLast, used⟩ := expiries_run documented sound left.ge
    refine ⟨last, executed, ?_⟩
    rw [resting_iff soundLast, ← longest_eq_zero_iff, used, left, tsub_self]
  · intro m early
    have some_left : (m : ℕ∞) < longest s := by
      rw [left]
      exact_mod_cast early
    obtain ⟨middle, executed, soundMiddle, used⟩ := expiries_run documented sound some_left.le
    refine ⟨middle, executed, running_of_longest soundMiddle ?_⟩
    rw [used]
    exact (tsub_pos_of_lt some_left).ne'

/-- A pulse ends with its last expiry, whatever is asked of the other LED
    meanwhile. -/
theorem pulse_runs_out (documented : k.Documented) {s last : LedComponent Timer} (sound : Sound k s) {i : Fin 2}
    (pulse : (s.leds i).mode = .SensorPulse) {acts : List LedAction} (spared : ∀ a ∈ acts, Spares i a)
    (executed : run (step k) s acts = some last) :
    (PULSE_ON_TICKS.toNat + 1 ≤ acts.count .expiry → (last.leds i).mode = .Off) ∧
    ((last.leds i).mode ≠ .Off → k.running last.led_timer = true) := by
  have soundLast : Sound k last := run_sound documented sound executed
  constructor
  · intro enough
    rw [← remaining_eq_zero_iff (soundLast.settled i), run_remaining documented sound spared executed,
      tsub_eq_zero_iff_le]
    calc remaining (s.leds i) ≤ (PULSE_ON_TICKS.toNat + 1 : Nat) := remaining_pulse pulse
      _ ≤ acts.count .expiry := by exact_mod_cast enough
  · intro lit
    refine running_of_remaining soundLast (i := i) ?_
    rwa [Ne, remaining_eq_zero_iff (soundLast.settled i)]

/-- **Timed modes run out.** From every reachable state without a power signal,
    expiries alone bring the component to rest, at the latest with that of
    number `ALARM_DURATION_TICKS`, and the timer runs until then. From every
    reachable state, a pulse is off after `PULSE_ON_TICKS + 1` expiries, and
    has the timer running until then, whatever happens to the other LED. -/
theorem timed_modes_run_out (documented : k.Documented) {s₀ s : LedComponent Timer} (init : AfterInit k s₀)
    (reached : Reachable (step k) s₀ s) :
    ((∀ i, (s.leds i).mode ≠ .PowerSignal) →
      ∃ n ≤ ALARM_DURATION_TICKS.toNat,
        (∃ last, run (step k) s (List.replicate n .expiry) = some last ∧ Resting k last) ∧
        ∀ m < n, ∃ middle, run (step k) s (List.replicate m .expiry) = some middle ∧
          k.running middle.led_timer = true) ∧
    ∀ i, (s.leds i).mode = .SensorPulse →
      ∀ acts last, (∀ a ∈ acts, Spares i a) → run (step k) s acts = some last →
        (PULSE_ON_TICKS.toNat + 1 ≤ acts.count .expiry → (last.leds i).mode = .Off) ∧
        ((last.leds i).mode ≠ .Off → k.running last.led_timer = true) := by
  have sound := reachable_sound k documented init reached
  constructor
  · intro timed
    have bounded := longest_timed sound timed
    obtain ⟨n, left⟩ := ENat.ne_top_iff_exists.mp (ne_top_of_le_ne_top (ENat.natCast_ne_top _) bounded)
    refine ⟨n, ?_, runs_out documented sound left.symm⟩
    rw [← left] at bounded
    exact_mod_cast bounded
  · intro i pulse acts last spared executed
    exact pulse_runs_out documented sound pulse spared executed

/-- An alert and a `led set 0 pulse`, and nothing after them. -/
theorem timed_modes_run_out_alert :
    ∃ s, run (step statusTimer) booted
        [.event ⟨.TempAlert⟩, .shell ["led".toList, "0".toList, "pulse".toList]] = some s ∧
      (∃ n ≤ ALARM_DURATION_TICKS.toNat,
        (∃ last, run (step statusTimer) s (List.replicate n .expiry) = some last ∧ Resting statusTimer last) ∧
        ∀ m < n, ∃ middle, run (step statusTimer) s (List.replicate m .expiry) = some middle ∧
          statusTimer.running middle.led_timer = true) := by
  refine ⟨_, rfl, ?_⟩
  exact (timed_modes_run_out statusTimer_documented booted_afterInit
    ⟨[.event ⟨.TempAlert⟩, .shell ["led".toList, "0".toList, "pulse".toList]], rfl⟩).1 (by decide)

/-! ### Sleep -/

/-- What may follow SYS_SLEEP and asks nothing of an LED: an expiry or a button
    message. -/
inductive Quiet : LedAction → Prop
  | expiry : Quiet .expiry
  | button : Quiet (.event ⟨.ButtonPressed⟩)

theorem quiet_spares {a : LedAction} (quiet : Quiet a) (i : Fin 2) : Spares i a := by
  intro mode
  cases quiet <;> simp [command]

/-- SYS_SLEEP turns LED0 off and does not reach LED1. -/
theorem sleep_leds {s asleep : LedComponent Timer} (told : step k s (.sysCtl .Sleep) = some asleep) :
    remaining (asleep.leds 0) = 0 ∧ asleep.leds 1 = s.leds 1 := by
  rw [step_leds k told]
  constructor
  · simp [after, command, remaining]
  · simp [after, command]

/-- **Sleep.** Once SYS_SLEEP is the last state told and no event has asked
    anything of LED1 since, the component rests exactly when LED1 has had the
    expiries that it had left at that moment. -/
theorem sleep_darkens_iff (documented : k.Documented) {s₀ s asleep last : LedComponent Timer}
    (init : AfterInit k s₀) (reached : Reachable (step k) s₀ s) (told : step k s (.sysCtl .Sleep) = some asleep)
    {since : List LedAction} (quiet : ∀ a ∈ since, Quiet a) (executed : run (step k) asleep since = some last) :
    Resting k last ↔ remaining (s.leds 1) ≤ since.count .expiry := by
  have sound : Sound k asleep := step_sound documented (reachable_sound k documented init reached) told
  obtain ⟨dark, untouched⟩ := sleep_leds told
  have left : ∀ i, remaining (last.leds i) = remaining (asleep.leds i) - since.count .expiry := by
    intro i
    exact run_remaining documented sound (fun a member => quiet_spares (quiet a member) i) executed
  rw [resting_iff (run_sound documented sound executed), Fin.forall_fin_two, left 0, left 1, dark, untouched,
    zero_tsub, tsub_eq_zero_iff_le]
  exact and_iff_right rfl

/-- An alert, and SLEEP as the tenth expiry has been handled: with nothing since,
    and three expiries later still, LED1 is in its alarm and lit, and the timer
    runs. -/
theorem sleep_leaves_alarm :
    ∃ s asleep last, run (step statusTimer) booted
        (.sysCtl .Active :: .event ⟨.TempAlert⟩ :: List.replicate 10 .expiry) = some s ∧
      step statusTimer s (.sysCtl .Sleep) = some asleep ∧
      run (step statusTimer) asleep (List.replicate 3 .expiry) = some last ∧
      (last.leds 1).mode = .Alarm ∧ last.pins 1 = true ∧ statusTimer.running last.led_timer = true ∧
      ¬ Resting statusTimer asleep ∧ ¬ Resting statusTimer last := by
  refine ⟨_, _, _, rfl, rfl, rfl, rfl, rfl, rfl, ?_, ?_⟩
  · intro resting
    exact absurd (resting.off 1) (by decide)
  · intro resting
    exact absurd (resting.off 1) (by decide)

/-- A reading after ACTIVE, then SLEEP: the six expiries of the pulse bring rest. -/
theorem sleep_darkens_iff_pulse :
    ∃ s asleep last, run (step statusTimer) booted [.sysCtl .Active, .event ⟨.SensorReading⟩] = some s ∧
      step statusTimer s (.sysCtl .Sleep) = some asleep ∧
      run (step statusTimer) asleep (List.replicate 6 .expiry) = some last ∧
      Resting statusTimer last := by
  have quiet : ∀ a ∈ List.replicate 6 LedAction.expiry, Quiet a := by
    intro a member
    rw [List.eq_of_mem_replicate member]
    exact .expiry
  refine ⟨_, _, _, rfl, rfl, rfl, ?_⟩
  exact (sleep_darkens_iff statusTimer_documented booted_afterInit
    ⟨[.sysCtl .Active, .event ⟨.SensorReading⟩], rfl⟩ rfl quiet rfl).mpr le_rfl

end ZephyrWorkshop.LedCountdown
