import ZephyrWorkshop.LedRuns

/-!
How long LED1 stays in a raised alarm. The alarm is meant to last
`ALARM_DURATION_TICKS` expiries. It does so in exactly those runs in which no
sensor reading arrives before the last of them: `set_led_mode` lets a pulse
replace an alarm.
-/

namespace ZephyrWorkshop.LedAlarm
open ZephyrWorkshop.Zephyr ZephyrWorkshop.Led ZephyrWorkshop.LedRuns
open ZephyrWorkshop.Transition

/-- What may happen while the alarm is on: expiries, sensor readings, button
    messages and ACTIVE notifications. -/
inductive Window : LedAction → Prop
  | expiry : Window .expiry
  | reading : Window (.event ⟨.SensorReading⟩)
  | button : Window (.event ⟨.ButtonPressed⟩)
  | active : Window (.sysCtl .Active)

/-- LED1 is in an alarm, `n` expiries after it was raised. -/
structure AlarmAt (n : Nat) (leds : Fin 2 → LedInstance) : Prop where
  mode : (leds 1).mode = .Alarm
  tick_count : (leds 1).tick_count.toNat = n
  duration_ticks : (leds 1).duration_ticks = ALARM_DURATION_TICKS

/-- An alert reaches LED1 while it is in another mode. -/
theorem after_alert {leds : Fin 2 → LedInstance} (idle : (leds 1).mode ≠ .Alarm) :
    AlarmAt 0 (after leds (.event ⟨.TempAlert⟩)) := by
  constructor <;> simp [after, command, request, idle]

/-- An expiry before the last one keeps the alarm and counts. -/
theorem advance_expiry {n : Nat} {leds : Fin 2 → LedInstance} (alarm : AlarmAt n leds) :
    ∃ next, advance leds .expiry = some next ∧
      (n + 1 < ALARM_DURATION_TICKS.toNat → AlarmAt (n + 1) next) ∧
      (n + 1 = ALARM_DURATION_TICKS.toNat → (next 1).mode = .Off) := by
  have lit : (leds 1).mode ≠ .Off := by simp [alarm.mode]
  have counted : n < ALARM_DURATION_TICKS.toNat → ((leds 1).tick_count + 1).toNat = n + 1 := by
    intro running
    rw [← alarm.tick_count] at running ⊢
    exact toNat_next_tick (UInt32.lt_iff_toNat_lt.mpr running)
  refine ⟨fun i => tick (leds i), advance_lit lit .expiry, ?_, ?_⟩
  · intro early
    have next := counted (by omega)
    have under : ¬ ALARM_DURATION_TICKS ≤ (leds 1).tick_count + 1 := by
      rw [UInt32.le_iff_toNat_le, next]
      omega
    constructor <;> simp [tick, alarm.mode, under, next, alarm.duration_ticks]
  · intro last
    have elapsed : (leds 1).tick_count + 1 ≥ (leds 1).duration_ticks := by
      rw [alarm.duration_ticks, ge_iff_le, UInt32.le_iff_toNat_le, counted (by omega)]
      omega
    simp [tick, alarm.mode, elapsed]

/-- Button messages and ACTIVE notifications do not touch LED1. -/
theorem advance_other {n : Nat} {leds : Fin 2 → LedInstance} (alarm : AlarmAt n leds) {a : LedAction}
    (window : Window a) (tickless : a ≠ .expiry) (quiet : a ≠ .event ⟨.SensorReading⟩) :
    ∃ next, advance leds a = some next ∧ AlarmAt n next := by
  refine ⟨after leds a, by simp [advance, tickless], ?_⟩
  obtain ⟨mode, tick_count, duration_ticks⟩ := alarm
  cases window with
  | expiry => contradiction
  | reading => contradiction
  | button => constructor <;> simpa [after, command]
  | active => constructor <;> simpa [after, command]

/-- A sensor reading ends the alarm. -/
theorem advance_reading {leds next : Fin 2 → LedInstance}
    (taken : advance leds (.event ⟨.SensorReading⟩) = some next) : (next 1).mode = .SensorPulse := by
  simp only [advance, reduceCtorEq, false_and, ↓reduceIte, Option.some.injEq] at taken
  simp [← taken, after, command]

/-- No sensor reading comes before the last expiry of an alarm raised just
    before these actions. -/
def QuietUntilOver (acts : List LedAction) : Prop :=
  ∀ before, before ++ [.event ⟨.SensorReading⟩] <+: acts → ALARM_DURATION_TICKS.toNat ≤ before.count .expiry

/-- Without readings the alarm counts the expiries, one by one. -/
theorem alarm_counts {leds : Fin 2 → LedInstance} (alarm : AlarmAt 0 leds) (acts : List LedAction)
    (window : ∀ a ∈ acts, Window a) (quiet : QuietUntilOver acts)
    (early : acts.count .expiry < ALARM_DURATION_TICKS.toNat) :
    ∃ last, run advance leds acts = some last ∧ AlarmAt (acts.count .expiry) last := by
  induction acts using List.reverseRecOn with
  | nil => exact ⟨leds, rfl, by simpa using alarm⟩
  | append_singleton before a ih =>
    have earlier : before.count .expiry ≤ (before ++ [a]).count .expiry := by simp
    obtain ⟨middle, executed, counted⟩ := ih (fun b member => window b (by simp [member]))
      (fun front initial => quiet front (initial.trans (List.prefix_append _ _))) (by omega)
    rw [run_concat, executed, Option.bind_some]
    by_cases expiry : a = .expiry
    · subst expiry
      obtain ⟨next, taken, kept, _⟩ := advance_expiry counted
      refine ⟨next, taken, ?_⟩
      simp only [List.count_append, List.count_singleton_self] at early ⊢
      exact kept early
    · have silent : a ≠ .event ⟨.SensorReading⟩ := by
        rintro rfl
        have := quiet before (List.prefix_refl _)
        omega
      obtain ⟨next, taken, kept⟩ := advance_other counted (window a (by simp)) expiry silent
      refine ⟨next, taken, ?_⟩
      simpa [List.count_append, List.count_singleton, expiry] using kept

variable {Timer : Type*} (k : KTimer Timer)

/-- LED1 stays in its alarm until exactly `ALARM_DURATION_TICKS` expiries have
    been handled, and is off after the last of them. -/
def LastsItsDuration (s : LedComponent Timer) (acts : List LedAction) : Prop :=
  (∀ before, before <+: acts → before.count .expiry < ALARM_DURATION_TICKS.toNat →
    ∃ last, run (step k) s before = some last ∧ (last.leds 1).mode = .Alarm) ∧
  ∀ before, before ++ [.expiry] <+: acts → before.count .expiry + 1 = ALARM_DURATION_TICKS.toNat →
    ∃ last, run (step k) s (before ++ [.expiry]) = some last ∧ (last.leds 1).mode = .Off

/-- From every reachable state in which LED1 is not in an alarm, an alarm that
    is raised lasts its duration exactly in the runs that bring no sensor
    reading before its last expiry. -/
theorem alarm_lasts_iff_quiet (documented : k.Documented) {s₀ s : LedComponent Timer}
    (init : AfterInit k s₀) (reached : Reachable (step k) s₀ s) (idle : (s.leds 1).mode ≠ .Alarm)
    (acts : List LedAction) (window : ∀ a ∈ acts, Window a) :
    LastsItsDuration k (led_event_cb k s ⟨.TempAlert⟩) acts ↔ QuietUntilOver acts := by
  obtain ⟨consistent, _⟩ := reachable_invariant k documented init reached
  obtain ⟨alerted, kept⟩ := step_after k documented (a := .event ⟨.TempAlert⟩) consistent rfl
  have raised : AlarmAt 0 (led_event_cb k s ⟨.TempAlert⟩).leds := by
    rw [alerted]
    exact after_alert idle
  have refines := run_refines k documented kept
  constructor
  · rintro ⟨lasts, _⟩ before initial
    by_contra early
    obtain ⟨last, executed, alarm⟩ := lasts _ initial (by simpa using Nat.lt_of_not_le early)
    rw [run_concat] at executed
    obtain ⟨middle, reachedMiddle, taken⟩ := Option.bind_eq_some_iff.mp executed
    have consistentMiddle : Consistent k middle := run_consistent k documented kept reachedMiddle
    have moved := (step_refines k documented consistentMiddle (.event ⟨.SensorReading⟩)).1
    rw [taken, Option.map_some] at moved
    rw [advance_reading moved.symm] at alarm
    cases alarm
  · intro quiet
    have counts : ∀ before, before <+: acts → before.count .expiry < ALARM_DURATION_TICKS.toNat →
        ∃ last, run (step k) (led_event_cb k s ⟨.TempAlert⟩) before = some last ∧
          AlarmAt (before.count .expiry) last.leds := by
      intro before initial early
      obtain ⟨leds, executed, counted⟩ := alarm_counts raised before
        (fun a member => window a (initial.subset member))
        (fun front shorter => quiet front (shorter.trans initial)) early
      rw [← refines, Option.map_eq_some_iff] at executed
      obtain ⟨last, executed, same⟩ := executed
      exact ⟨last, executed, same ▸ counted⟩
    refine ⟨?_, ?_⟩
    · intro before initial early
      obtain ⟨last, executed, counted⟩ := counts before initial early
      exact ⟨last, executed, counted.mode⟩
    · intro before initial elapsed
      obtain ⟨middle, executed, counted⟩ :=
        counts before ((List.prefix_append _ _).trans initial) (by omega)
      obtain ⟨leds, taken, _, ended⟩ := advance_expiry counted
      have executedAll := refines (before ++ [.expiry])
      rw [run_concat advance, ← refines before, executed, Option.map_some, Option.bind_some, taken,
        Option.map_eq_some_iff] at executedAll
      obtain ⟨last, executedLast, same⟩ := executedAll
      exact ⟨last, executedLast, by rw [same]; exact ended elapsed⟩

/-- With no message but the alert itself, the alarm lasts for 300 expiries. -/
theorem alarm_lasts_iff_quiet_alone :
    LastsItsDuration statusTimer (led_event_cb statusTimer booted ⟨.TempAlert⟩)
      (List.replicate 300 .expiry) := by
  refine (alarm_lasts_iff_quiet statusTimer statusTimer_documented booted_afterInit
    (Reachable.initial booted) (by decide) (List.replicate 300 .expiry) ?_).mpr ?_
  · intro a member
    rw [List.eq_of_mem_replicate member]
    exact .expiry
  · intro before initial
    have member : LedAction.event ⟨.SensorReading⟩ ∈ List.replicate 300 LedAction.expiry :=
      initial.subset (by simp)
    cases List.eq_of_mem_replicate member

/-- The first sensor reading after an alert turns the alarm into a pulse. -/
theorem reading_cuts_alarm :
    AfterInit statusTimer booted ∧ (booted.leds 1).mode ≠ .Alarm ∧
      (∀ a ∈ [LedAction.event ⟨.SensorReading⟩], Window a) ∧
      ¬ LastsItsDuration statusTimer (led_event_cb statusTimer booted ⟨.TempAlert⟩)
        [.event ⟨.SensorReading⟩] := by
  refine ⟨booted_afterInit, by decide, ?_, ?_⟩
  · intro a member
    rw [List.mem_singleton.mp member]
    exact .reading
  · rintro ⟨lasts, _⟩
    obtain ⟨last, executed, alarm⟩ := lasts [.event ⟨.SensorReading⟩] (List.prefix_refl _) (by decide)
    cases executed
    revert alarm
    decide

end ZephyrWorkshop.LedAlarm
