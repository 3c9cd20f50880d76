import Mathlib.Algebra.Order.Ring.Rat
import Mathlib.Data.UInt
import ZephyrWorkshop.DelayedWork

/-!
The button module of the simulated test track,
`samples/sim_test_track/src/modules/button/button.c`. Every change to active
reschedules the work, so that the work runs once the last such change is
`DEBOUNCE_MS` old. Between two intervals of the pin nothing of the work that is
still pending can be seen, which carries the induction over the intervals.
-/

namespace ZephyrWorkshop.TrackButton
open ZephyrWorkshop.DelayedWork

/-- `event_count`, and the times at which `BUTTON_EVENT_0_PRESSED` was published. -/
structure ButtonState (T : Type*) where
  event_count : UInt32
  published : List T
deriving DecidableEq, Repr

section
variable {T : Type*}

/-- The state after publications at these times. -/
def publishAll (times : List T) (s : ButtonState T) : ButtonState T :=
  { event_count := s.event_count + UInt32.ofNat times.length, published := s.published ++ times }

@[simp] theorem publishAll_nil (s : ButtonState T) : publishAll [] s = s := by
  simp [publishAll]

theorem publishAll_cons (time : T) (times : List T) (s : ButtonState T) :
    publishAll (time :: times) s = publishAll times (publishAll [time] s) := by
  have count : UInt32.ofNat (times.length + 1) = 1 + UInt32.ofNat times.length := by
    rw [Nat.add_comm, UInt32.ofNat_add]
    rfl
  simp [publishAll, count, UInt32.add_assoc]

end

variable {T : Type*} [Field T] [LinearOrder T]

def DEBOUNCE_MS : T := (10 : Nat)

/-- The work, with the results of `gpio_pin_get_dt` and `zbus_chan_pub`. -/
def publish_event (now : T) (state err : Int) (s : ButtonState T) : ButtonState T :=
  if state ≤ 0 then s
  else if err ≠ 0 then s
  else { event_count := s.event_count + 1, published := s.published ++ [now] }

/-- The interrupt: `k_work_reschedule`, whatever the state is. -/
def button_pressed (now : T) (s : ButtonState T) : ButtonState T × Option T := (s, some (now + DEBOUNCE_MS))

def handlers : Handlers T (ButtonState T) where
  interrupt := button_pressed
  work := publish_event

/-- Before the first change: the pin is inactive and no work is pending. -/
def initial : Sim T (ButtonState T) := ⟨false, none, ⟨0, []⟩⟩

/-- The module's state at a time of a timeline. -/
def stateAt (w : World T) (changes : List T) (t : T) : ButtonState T := (runTo w handlers t initial changes).state

/-- No change falls on a deadline: one that comes `DEBOUNCE_MS` after a change to
    active finds the work rescheduled in between. -/
def OffDeadlines (changes : List T) : Prop :=
  ∀ rise, ToActive changes rise → rise + DEBOUNCE_MS ∈ changes →
    ∃ later, ToActive changes later ∧ rise < later ∧ later < rise + DEBOUNCE_MS

/-- An interval that lasts longer than `DEBOUNCE_MS`. -/
def Long (interval : T × Option T) : Prop := ∀ fall ∈ interval.2, interval.1 + DEBOUNCE_MS < fall

instance (interval : T × Option T) : Decidable (Long interval) :=
  match h : interval.2 with
  | none => .isTrue (by simp [Long, h])
  | some fall => decidable_of_iff (interval.1 + DEBOUNCE_MS < fall) (by simp [Long, h])

/-- When the work for an interval runs. -/
def deadlineOf (interval : T × Option T) : T := interval.1 + DEBOUNCE_MS

/-- The long intervals whose deadline has passed by a time. -/
def due (t : T) (changes : List T) : List (T × Option T) :=
  (intervals changes).filter fun interval => decide (Long interval ∧ deadlineOf interval ≤ t)

/-! ### One change, and the work -/

section
variable {w : World T} (ideal : w.Ideal) {t : T} {s : Sim T (ButtonState T)}
include ideal

omit [LinearOrder T] in
theorem work_inactive {deadline : T} (inactive : s.active = false) :
    (runWork w handlers deadline s).state = s.state := by
  simp [runWork, handlers, publish_event, ideal.reads, inactive]

omit [LinearOrder T] in
theorem work_active {deadline : T} (active : s.active = true) :
    (runWork w handlers deadline s).state = publishAll [deadline] s.state := by
  simp [runWork, handlers, publish_event, publishAll, ideal.reads, ideal.publishes, active]

theorem upTo_inactive (inactive : s.active = false) : (upTo w handlers t s).state = s.state := by
  unfold upTo
  cases s.deadline with
  | none => rfl
  | some deadline =>
    dsimp only
    split
    · exact work_inactive ideal inactive
    · rfl

/-- Work that is pending while the pin is active is published by its deadline. -/
theorem upTo_pending {deadline : T} {state : ButtonState T} :
    (upTo w handlers t ⟨true, some deadline, state⟩).state =
      if deadline ≤ t then publishAll [deadline] state else state := by
  unfold upTo
  dsimp only
  split
  · exact work_active ideal rfl
  · rfl

/-- A change to active schedules the work, whatever was pending before. -/
theorem change_rise (inactive : s.active = false) :
    change w handlers t s = ⟨true, some (t + DEBOUNCE_MS), s.state⟩ := by
  have kept : (before w handlers t s).state = s.state ∧ (before w handlers t s).active = false := by
    unfold before
    cases s.deadline with
    | none => exact ⟨rfl, inactive⟩
    | some deadline =>
      dsimp only
      split
      · exact ⟨work_inactive ideal inactive, inactive⟩
      · exact ⟨rfl, inactive⟩
  unfold change
  dsimp only
  rw [if_neg (by rw [kept.2]; decide), kept.1]
  rfl

/-- A change to inactive, with the work pending. -/
theorem change_fall {deadline : T} (active : s.active = true) (pending : s.deadline = some deadline) :
    (change w handlers t s).active = false ∧
      (change w handlers t s).state =
        if Precedes w deadline t then publishAll [deadline] s.state else s.state := by
  unfold change before
  rw [pending]
  dsimp only
  split
  · have still : (runWork w handlers deadline s).active = true := active
    rw [if_pos still]
    exact ⟨rfl, work_active ideal active⟩
  · exact ⟨rfl, rfl⟩

end

/-! ### Whole timelines -/

variable [IsStrictOrderedRing T]

theorem due_later {changes : List T} {t : T} (later : ∀ c ∈ changes, t < c) : due t changes = [] := by
  rw [due, List.filter_eq_nil_iff]
  rintro interval member
  have rise := later interval.1 (rise_mem member)
  have positive : (0 : T) < DEBOUNCE_MS := by norm_num [DEBOUNCE_MS]
  rw [decide_eq_true_eq, deadlineOf]
  rintro ⟨_, passed⟩
  linarith

omit [IsStrictOrderedRing T] in
theorem OffDeadlines.rest {rise fall : T} {rest : List T} (sorted : (rise :: fall :: rest).Pairwise (· < ·))
    (off : OffDeadlines (rise :: fall :: rest)) : OffDeadlines rest := by
  have later : ∀ c ∈ rest, fall < c := (List.pairwise_cons.mp sorted.of_cons).1
  rintro e ⟨member, active⟩ found
  have same {t : T} (low : fall ≤ t) := active_after sorted low
  obtain ⟨e', ⟨member', active'⟩, after, soon⟩ :=
    off e ⟨by simp [member], (same (later e member).le).mpr active⟩ (by simp [found])
  have behind : fall < e' := (later e member).trans after
  refine ⟨e', ⟨?_, (same behind.le).mp active'⟩, after, soon⟩
  rcases List.mem_cons.mp member' with rfl | member'
  · exact absurd behind (not_lt.mpr ((List.pairwise_cons.mp sorted).1 fall (by simp)).le)
  rcases List.mem_cons.mp member' with rfl | member'
  · exact absurd behind (lt_irrefl _)
  · exact member'

/-- The first fall is not on the deadline of the first rise. -/
theorem OffDeadlines.fall_ne {rise fall : T} {rest : List T} (sorted : (rise :: fall :: rest).Pairwise (· < ·))
    (off : OffDeadlines (rise :: fall :: rest)) : fall ≠ rise + DEBOUNCE_MS := by
  intro tie
  have order : rise < fall := (List.pairwise_cons.mp sorted).1 fall (by simp)
  have later : ∀ c ∈ rest, fall < c := (List.pairwise_cons.mp sorted.of_cons).1
  obtain ⟨e, ⟨member, _⟩, after, soon⟩ :=
    off rise ⟨by simp, active_inside sorted le_rfl order⟩ (by simp [tie])
  rcases List.mem_cons.mp member with rfl | member
  · exact lt_irrefl _ after
  rcases List.mem_cons.mp member with rfl | member
  · exact absurd tie soon.ne
  · exact absurd soon (not_lt.mpr (tie ▸ (later e member).le))

omit [IsStrictOrderedRing T] in
theorem due_cons (t rise fall : T) (rest : List T) :
    due t (rise :: fall :: rest) =
      if rise + DEBOUNCE_MS < fall ∧ rise + DEBOUNCE_MS ≤ t then (rise, some fall) :: due t rest else due t rest := by
  simp [due, intervals, List.filter_cons, Long, deadlineOf]

/-- All that is published until a time: the deadlines of the long intervals that
    have passed by then. -/
theorem run_publishes {w : World T} (ideal : w.Ideal) {t : T} {changes : List T} (sorted : changes.Pairwise (· < ·))
    (off : OffDeadlines changes) {s : Sim T (ButtonState T)} (inactive : s.active = false) :
    (runTo w handlers t s changes).state = publishAll ((due t changes).map deadlineOf) s.state := by
  induction changes using intervals.induct generalizing s with
  | case1 =>
    rw [runTo, upTo_inactive ideal inactive]
    simp [due, intervals]
  | case2 rise =>
    by_cases started : rise ≤ t
    · rw [runTo, if_pos started, change_rise ideal inactive, runTo, upTo_pending ideal]
      by_cases passed : rise + DEBOUNCE_MS ≤ t
      · simp [due, intervals, Long, passed, deadlineOf]
      · simp [due, intervals, deadlineOf, passed]
    · rw [runTo, if_neg started, upTo_inactive ideal inactive, due_later (by simpa using started)]
      simp
  | case3 rise fall rest ih =>
    have later : ∀ c ∈ rest, fall < c := (List.pairwise_cons.mp sorted.of_cons).1
    have order : rise < fall := (List.pairwise_cons.mp sorted).1 fall (by simp)
    by_cases started : rise ≤ t
    swap
    · rw [runTo, if_neg started, upTo_inactive ideal inactive, due_later]
      · simp
      · intro c member
        rcases List.mem_cons.mp member with rfl | member
        · exact not_le.mp started
        · exact (not_le.mp started).trans ((List.pairwise_cons.mp sorted).1 c member)
    rw [runTo, if_pos started, change_rise ideal inactive, runTo, due_cons]
    by_cases ended : fall ≤ t
    · obtain ⟨inactive', state⟩ := change_fall ideal (t := fall)
        (s := ⟨true, some (rise + DEBOUNCE_MS), s.state⟩) rfl rfl
      rw [if_pos ended, ih sorted.of_cons.of_cons (off.rest sorted) inactive', state]
      have ordered : Precedes w (rise + DEBOUNCE_MS) fall ↔ rise + DEBOUNCE_MS < fall :=
        or_iff_left fun tie => off.fall_ne sorted tie.1.symm
      by_cases long : rise + DEBOUNCE_MS < fall
      · rw [if_pos (ordered.mpr long), if_pos ⟨long, long.le.trans ended⟩]
        exact (publishAll_cons _ _ _).symm
      · rw [if_neg (mt ordered.mp long), if_neg (fun both => long both.1)]
    · rw [if_neg ended, upTo_pending ideal, due_later (fun c member => (not_le.mp ended).trans (later c member))]
      by_cases passed : rise + DEBOUNCE_MS ≤ t
      · rw [if_pos passed, if_pos ⟨passed.trans_lt (not_le.mp ended), passed⟩]
        rfl
      · rw [if_neg passed, if_neg (fun both => passed both.2)]
        simp

/-- The debounce law: what was published until a time is one event for each long
    interval whose deadline has passed, at that deadline. An event at `p` means a
    change to active at `p - DEBOUNCE_MS` and an active pin since then. -/
theorem debounce_law {w : World T} (ideal : w.Ideal) {changes : List T} (sorted : changes.Pairwise (· < ·))
    (off : OffDeadlines changes) (t : T) :
    (∀ p, p ∈ (stateAt w changes t).published ↔ p ≤ t ∧ ToActive changes (p - DEBOUNCE_MS) ∧
      ∀ u, p - DEBOUNCE_MS ≤ u → u ≤ p → Active changes u) ∧
    (stateAt w changes t).published = (due t changes).map deadlineOf ∧
    (stateAt w changes t).published.Nodup ∧
    (stateAt w changes t).event_count.toNat = (due t changes).length % 2 ^ 32 := by
  have law : stateAt w changes t = publishAll ((due t changes).map deadlineOf) ⟨0, []⟩ :=
    run_publishes ideal sorted off rfl
  have published : (stateAt w changes t).published = (due t changes).map deadlineOf := by
    rw [law, publishAll, List.nil_append]
  have positive : (0 : T) ≤ DEBOUNCE_MS := by norm_num [DEBOUNCE_MS]
  refine ⟨fun p => ?_, published, ?_, ?_⟩
  · have stays := stays_active_iff positive sorted (p - DEBOUNCE_MS)
    rw [sub_add_cancel] at stays
    rw [published, List.mem_map]
    constructor
    · rintro ⟨⟨rise, fall⟩, member, rfl⟩
      rw [due, List.mem_filter, decide_eq_true_eq] at member
      obtain ⟨found, long, passed⟩ := member
      rw [deadlineOf, add_sub_cancel_right] at stays ⊢
      obtain ⟨change, active⟩ := stays.mp ⟨fall, found, long⟩
      exact ⟨passed, ⟨change, active rise le_rfl (le_add_of_nonneg_right positive)⟩, active⟩
    · rintro ⟨passed, ⟨change, _⟩, active⟩
      obtain ⟨fall, found, long⟩ := stays.mpr ⟨change, active⟩
      refine ⟨(p - DEBOUNCE_MS, fall), ?_, sub_add_cancel p DEBOUNCE_MS⟩
      rw [due, List.mem_filter, decide_eq_true_eq]
      refine ⟨found, ?_, by rwa [deadlineOf, sub_add_cancel]⟩
      intro f ends
      rw [sub_add_cancel]
      exact long f ends
  · rw [published]
    refine List.Pairwise.imp ne_of_lt (List.pairwise_map.mpr ?_)
    exact ((intervals_sorted sorted).sublist List.filter_sublist).imp fun below => by
      unfold deadlineOf
      linarith
  · rw [law, publishAll, List.nil_append]
    simp

/-- A press that bounces once, for 2 ms. -/
theorem debounce_law_bounce :
    (stateAt (World.faultless fun _ : ℚ => false) [100, 102, 103, 180] 200).published = [113] := by
  have off : OffDeadlines ([100, 102, 103, 180] : List ℚ) := by
    rintro rise ⟨member, _⟩ tie
    simp only [List.mem_cons, List.not_mem_nil, or_false, DEBOUNCE_MS] at member tie
    exfalso
    rcases member with rfl | rfl | rfl | rfl <;> norm_num at tie
  exact (debounce_law (World.faultless_ideal _) (by decide +kernel) off 200).2.1.trans (by decide +kernel)

end ZephyrWorkshop.TrackButton
