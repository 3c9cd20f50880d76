import ZephyrWorkshop.LedRuns

/-!
How long LED0 keeps the period of its power signal. Its phase is its
`tick_count` modulo the period, and `tick_count` counts the expiries modulo
`2^32`, of which the period is no divisor. So the signal is periodic for the
first `2^32` expiries and loses its phase with the next one.
-/

namespace ZephyrWorkshop.LedPower
open ZephyrWorkshop.Zephyr ZephyrWorkshop.Led ZephyrWorkshop.LedRuns
open ZephyrWorkshop.Transition

/-- LED0 is in its power signal, `n` expiries after it entered it. -/
structure PowerAt (n : Nat) (leds : Fin 2 → LedInstance) : Prop where
  mode : (leds 0).mode = .PowerSignal
  tick_count : (leds 0).tick_count = UInt32.ofNat n

/-- What does not switch LED0 to another mode. -/
def Stays (a : LedAction) : Prop := ∀ mode, command a = some (0, mode) → mode = .PowerSignal

/-- An action by which LED0 enters its power signal starts the count. -/
theorem power_entered {leds : Fin 2 → LedInstance} {a : LedAction} (before : (leds 0).mode ≠ .PowerSignal)
    (entered : (after leds a 0).mode = .PowerSignal) : PowerAt 0 (after leds a) := by
  by_cases expiry : a = .expiry
  · -- an expiry ends modes and enters none
    simp only [after, expiry, if_true] at entered
    cases mode : (leds 0).mode with
    | Off => simp [tick, mode] at entered
    | PowerSignal => contradiction
    | SensorPulse =>
      simp only [tick, mode] at entered
      split at entered <;> simp at entered
    | Alarm =>
      simp only [tick, mode] at entered
      split at entered <;> simp at entered
  · cases asks : command a with
    | none =>
      simp only [after, expiry, asks, if_false] at entered
      contradiction
    | some target =>
      obtain ⟨i, mode⟩ := target
      by_cases here : i = 0
      · subst here
        have same : mode = .PowerSignal := by simpa [after, expiry, asks] using entered
        subst same
        constructor <;> simp [after, expiry, asks, request, before]
      · have other : (0 : Fin 2) ≠ i := Ne.symm here
        simp only [after, expiry, asks, if_false, Function.update_of_ne other] at entered
        contradiction

theorem after_expiry {n : Nat} {leds : Fin 2 → LedInstance} (power : PowerAt n leds) :
    PowerAt (n + 1) (after leds .expiry) ∧
      ((after leds .expiry 0).state = true ↔
        n % 2 ^ 32 % (POWER_ON_TICKS + POWER_OFF_TICKS).toNat < POWER_ON_TICKS.toNat) := by
  obtain ⟨mode, tick_count⟩ := power
  refine ⟨⟨by simp [after, tick, mode], ?_⟩, ?_⟩
  · simp [after, tick, mode, tick_count, UInt32.ofNat_add]
  · have phase : (UInt32.ofNat n % (POWER_ON_TICKS + POWER_OFF_TICKS)).toNat =
        n % 2 ^ 32 % (POWER_ON_TICKS + POWER_OFF_TICKS).toNat := by
      rw [UInt32.toNat_mod, UInt32.toNat_ofNat']
    rw [← phase, ← UInt32.lt_iff_toNat_lt]
    simp [after, tick, mode, tick_count]

/-- A repeated request for the power signal does not restart it, and LED1 has no
    part in it. -/
theorem after_stays {leds : Fin 2 → LedInstance} (power : (leds 0).mode = .PowerSignal) {a : LedAction}
    (stays : Stays a) (tickless : a ≠ .expiry) : after leds a 0 = leds 0 := by
  unfold after
  rw [if_neg tickless]
  cases asks : command a with
  | none => rfl
  | some target =>
    obtain ⟨i, mode⟩ := target
    by_cases here : i = 0
    · subst here
      obtain rfl := stays mode asks
      simp [request, power]
    · exact Function.update_of_ne (Ne.symm here) _ _

theorem after_other {n : Nat} {leds : Fin 2 → LedInstance} (power : PowerAt n leds) {a : LedAction}
    (stays : Stays a) (tickless : a ≠ .expiry) : PowerAt n (after leds a) := by
  have same := after_stays power.mode stays tickless
  exact ⟨by rw [same, power.mode], by rw [same, power.tick_count]⟩

/-- An LED in its power signal keeps the timer running. -/
theorem advance_after {n : Nat} {leds : Fin 2 → LedInstance} (power : PowerAt n leds) (a : LedAction) :
    advance leds a = some (after leds a) :=
  advance_lit (i := 0) (by simp [power.mode]) a

/-- A run that does not switch LED0 counts its expiries. -/
theorem power_counts {leds : Fin 2 → LedInstance} (power : PowerAt 0 leds) (acts : List LedAction)
    (stays : ∀ a ∈ acts, Stays a) :
    ∃ last, run advance leds acts = some last ∧ PowerAt (acts.count .expiry) last := by
  induction acts using List.reverseRecOn with
  | nil => exact ⟨leds, rfl, power⟩
  | append_singleton before a ih =>
    obtain ⟨middle, executed, counted⟩ := ih (fun b member => stays b (by simp [member]))
    refine ⟨after middle a, ?_, ?_⟩
    · rw [run_concat, executed, Option.bind_some, advance_after counted]
    · by_cases expiry : a = .expiry
      · subst expiry
        simpa [List.count_append] using (after_expiry counted).1
      · simpa [List.count_append, List.count_singleton, expiry] using
          after_other counted (stays a (by simp)) expiry

/-- Where a letter occurs more than `m` times, one of its occurrences follows
    exactly `m` others. -/
theorem exists_prefix_count {α : Type*} [DecidableEq α] {a : α} {word : List α} {m : Nat} (many : m < word.count a) :
    ∃ before, before ++ [a] <+: word ∧ before.count a = m := by
  induction word using List.reverseRecOn with
  | nil => simp at many
  | append_singleton init b ih =>
    by_cases sooner : m < init.count a
    · obtain ⟨before, initial, counted⟩ := ih sooner
      exact ⟨before, initial.trans (List.prefix_append _ _), counted⟩
    · have last : b = a ∧ init.count a = m := by
        by_cases same : b = a
        · subst same
          simp only [List.count_append, List.count_singleton_self] at many
          exact ⟨rfl, by omega⟩
        · simp only [List.count_append, List.count_singleton, beq_iff_eq, same, if_false] at many
          omega
      obtain ⟨rfl, counted⟩ := last
      exact ⟨init, List.prefix_refl _, counted⟩

variable {Timer : Type*} (k : KTimer Timer)

/-- After each expiry of the run, the `n`-th, LED0 is on exactly where `n - 1`
    lies in the first `POWER_ON_TICKS` of the period. -/
def KeepsPeriod (s : LedComponent Timer) (acts : List LedAction) : Prop :=
  ∀ before, before ++ [.expiry] <+: acts → ∃ last, run (step k) s (before ++ [.expiry]) = some last ∧
    ((last.leds 0).state = true ↔
      before.count .expiry % (POWER_ON_TICKS + POWER_OFF_TICKS).toNat < POWER_ON_TICKS.toNat)

/-- LED0 after an expiry, where the count of the expiries has wrapped. -/
theorem run_phase (documented : k.Documented) {s : LedComponent Timer} (consistent : Consistent k s)
    (power : PowerAt 0 s.leds) (before : List LedAction) (stays : ∀ a ∈ before, Stays a) :
    ∃ last, run (step k) s (before ++ [.expiry]) = some last ∧
      ((last.leds 0).state = true ↔
        before.count .expiry % 2 ^ 32 % (POWER_ON_TICKS + POWER_OFF_TICKS).toNat < POWER_ON_TICKS.toNat) := by
  obtain ⟨middle, executed, counted⟩ := power_counts power before stays
  have executedAll : run advance s.leds (before ++ [.expiry]) = some (after middle .expiry) := by
    rw [run_concat, executed, Option.bind_some, advance_after counted]
  rw [← run_refines k documented consistent, Option.map_eq_some_iff] at executedAll
  obtain ⟨last, reached, same⟩ := executedAll
  refine ⟨last, reached, ?_⟩
  rw [same]
  exact (after_expiry counted).2

theorem keepsPeriod_iff (documented : k.Documented) {s : LedComponent Timer} (consistent : Consistent k s)
    (power : PowerAt 0 s.leds) {acts : List LedAction} (stays : ∀ a ∈ acts, Stays a) :
    KeepsPeriod k s acts ↔ acts.count .expiry ≤ 2 ^ 32 := by
  constructor
  · intro keeps
    by_contra long
    obtain ⟨before, initial, counted⟩ := exists_prefix_count (Nat.lt_of_not_le long)
    obtain ⟨last, executed, periodic⟩ := keeps before initial
    obtain ⟨same, again, wrapped⟩ := run_phase k documented consistent power before
      (fun a member => stays a (initial.subset (by simp [member])))
    rw [executed] at again
    cases again
    -- the period does not divide `2 ^ 32`, so its phase is lost
    rw [periodic, counted] at wrapped
    revert wrapped
    simp [POWER_ON_TICKS, POWER_OFF_TICKS]
  · intro short before initial
    have early : before.count .expiry < 2 ^ 32 := by
      have bounded := initial.sublist.count_le LedAction.expiry
      rw [List.count_append, List.count_singleton_self] at bounded
      omega
    obtain ⟨last, executed, phase⟩ := run_phase k documented consistent power before
      (fun a member => stays a (initial.subset (by simp [member])))
    rw [Nat.mod_eq_of_lt early] at phase
    exact ⟨last, executed, phase⟩

/-- From every reachable state and every action by which LED0 enters its power
    signal: a run that does not switch LED0 keeps the period exactly when it
    has at most `2^32` expiries. Repeated ACTIVE messages and everything that
    happens to LED1 make no difference. -/
theorem power_signal_periodic_iff (documented : k.Documented) {s₀ s entered : LedComponent Timer}
    (init : AfterInit k s₀) (reached : Reachable (step k) s₀ s) {a : LedAction}
    (before : (s.leds 0).mode ≠ .PowerSignal) (taken : step k s a = some entered)
    (power : (entered.leds 0).mode = .PowerSignal) (acts : List LedAction) (stays : ∀ a ∈ acts, Stays a) :
    KeepsPeriod k entered acts ↔ acts.count .expiry ≤ 2 ^ 32 := by
  obtain ⟨consistent, _⟩ := reachable_invariant k documented init reached
  obtain ⟨leds, kept⟩ := step_after k documented consistent taken
  rw [leds] at power
  have start : PowerAt 0 entered.leds := by
    rw [leds]
    exact power_entered before power
  exact keepsPeriod_iff k documented kept start stays

/-- ACTIVE after boot, then an expiry, a reading, a second ACTIVE and an expiry. -/
theorem power_signal_periodic_iff_short :
    ∃ entered, step statusTimer booted (.sysCtl .Active) = some entered ∧
      KeepsPeriod statusTimer entered [.expiry, .event ⟨.SensorReading⟩, .sysCtl .Active, .expiry] := by
  refine ⟨_, rfl, ?_⟩
  refine (power_signal_periodic_iff statusTimer statusTimer_documented booted_afterInit (Reachable.initial booted)
    (by decide) (rfl : step statusTimer booted (.sysCtl .Active) = _) (by decide) _ ?_).mpr (by decide)
  intro a member
  simp only [List.mem_cons, List.not_mem_nil, or_false] at member
  rcases member with rfl | rfl | rfl | rfl
  all_goals simp [Stays, command]

/-- With one expiry more than `2^32`, the period is lost. -/
theorem wrapped_counter_loses_period :
    ∃ entered, step statusTimer booted (.sysCtl .Active) = some entered ∧
      (∀ a ∈ List.replicate (2 ^ 32 + 1) LedAction.expiry, Stays a) ∧
      ¬ KeepsPeriod statusTimer entered (List.replicate (2 ^ 32 + 1) .expiry) := by
  have silent : ∀ a ∈ List.replicate (2 ^ 32 + 1) LedAction.expiry, Stays a := by
    intro a member
    rw [List.eq_of_mem_replicate member]
    simp [Stays, command]
  obtain ⟨leds, consistent⟩ := step_after statusTimer statusTimer_documented
    (led_init_spec statusTimer statusTimer_documented booted_afterInit).2
    (rfl : step statusTimer booted (.sysCtl .Active) = some _)
  refine ⟨_, rfl, silent, ?_⟩
  rw [keepsPeriod_iff statusTimer statusTimer_documented consistent ⟨rfl, rfl⟩ silent, List.count_replicate_self]
  omega

end ZephyrWorkshop.LedPower
