import Mathlib.Data.List.Nodup
import ZephyrWorkshop.Button

/-!
No phantom press and no press too soon after another. A trace beside the state of
the button component records which edges the interrupt accepted and what each
read of the pin returned. Publications follow accepted edges, one each, and so
keep the debounce delay between them in every run. That the pin was read as
active holds less often: the work compares the result with zero only, and takes
a read that fails for a press (`press_law_iff`).
-/

namespace ZephyrWorkshop.ButtonLaw
open ZephyrWorkshop.DelayedWork ZephyrWorkshop.Button

/-- The state of the component, the edges that `button_pressed` accepted, and the
    time and the result of each `gpio_pin_get`. -/
structure Traced (T : Type*) where
  button : ButtonState T
  accepted : List T
  reads : List (T × Int)
deriving DecidableEq, Repr

variable {T : Type*} [Field T] [LinearOrder T] [FloorRing T]

/-- The handlers of the component, which record what they do. -/
def traced : Handlers T (Traced T) where
  interrupt t s :=
    let scheduled := button_pressed t s.button
    ({ s with
        button := scheduled.1
        accepted := if scheduled.2.isSome then s.accepted ++ [t] else s.accepted }, scheduled.2)
  work now level err s :=
    { s with button := send_event_work_handler now level err s.button, reads := s.reads ++ [(now, level)] }

/-- At boot, with the pin at a level. -/
def start (level : Bool) : Sim T (Traced T) := ⟨level, none, ⟨⟨0, []⟩, [], []⟩⟩

/-- What has happened by a time of a timeline. -/
def tracedAt (w : World T) (level : Bool) (changes : List T) (t : T) : Traced T :=
  (runTo w traced t (start level) changes).state

/-- The trace does not change what the component does. -/
theorem tracedAt_button (w : World T) (level : Bool) (changes : List T) (t : T) :
    (tracedAt w level changes t).button = (runTo w handlers t { initial with active := level } changes).state := by
  have forgotten : runTo w handlers t ((start level).map Traced.button) changes =
      (runTo w traced t (start level) changes).map Traced.button :=
    runTo_map (fun _ _ => rfl) (fun _ _ _ _ => rfl) (start level) changes t
  exact (congrArg Sim.state forgotten).symm

/-- **The law of the presses.** Each was read from the pin at that moment,
    follows an accepted edge that no other press follows, and is more than the
    debounce delay apart from the others. -/
structure PressLaw (s : Traced T) : Prop where
  read : ∀ t ∈ s.button.published, (t, 1) ∈ s.reads
  delayed : s.button.published.Sublist (s.accepted.map (· + ((DEBOUNCE_DELAY_MS / 2 : Int) : T)))
  apart : s.button.published.Pairwise (fun t u => t + (DEBOUNCE_DELAY_MS : T) < u)

/-! ### The invariant of the trace -/

/-- The press that a read leads to: any result but zero, if the publication succeeds. -/
def presses (w : World T) (reads : List (T × Int)) : List T :=
  (reads.filter (fun read => read.2 ≠ 0 ∧ w.zbus_chan_pub read.1 = 0)).map Prod.fst

/-- What holds between any two handlers: accepted edges are spaced, and the work
    that has run or is pending belongs to them, in order and once each. -/
structure Tracked (w : World T) (s : Sim T (Traced T)) : Prop where
  recent : ∀ edge ∈ s.state.accepted, k_uptime_get edge ≤ s.state.button.last_press_time
  spaced : s.state.accepted.Pairwise (fun one two => one + (DEBOUNCE_DELAY_MS : T) < two)
  due : (s.state.reads.map Prod.fst ++ s.deadline.toList).Sublist
    (s.state.accepted.map (· + ((DEBOUNCE_DELAY_MS / 2 : Int) : T)))
  published : s.state.button.published = presses w s.state.reads

omit [Field T] [LinearOrder T] [FloorRing T] in
theorem presses_concat (w : World T) (reads : List (T × Int)) (t : T) (result : Int) :
    presses w (reads ++ [(t, result)]) =
      if result = 0 then presses w reads
      else if w.zbus_chan_pub t ≠ 0 then presses w reads
      else presses w reads ++ [t] := by
  by_cases released : result = 0
  · simp [presses, released]
  · by_cases failed : w.zbus_chan_pub t = 0
    · simp [presses, released, failed]
    · simp [presses, released, failed]

omit [Field T] [LinearOrder T] [FloorRing T] in
theorem mem_presses {w : World T} {reads : List (T × Int)} {t : T} :
    t ∈ presses w reads ↔ ∃ result, (t, result) ∈ reads ∧ result ≠ 0 ∧ w.zbus_chan_pub t = 0 := by
  simp [presses]

/-- The work moves its deadline from what is pending to what has run. -/
theorem work_tracked {w : World T} {s : Sim T (Traced T)} {deadline : T} (tracked : Tracked w s)
    (pending : s.deadline = some deadline) : Tracked w (runWork w traced deadline s) := by
  obtain ⟨recent, spaced, due, published⟩ := tracked
  rw [pending] at due
  have button : (runWork w traced deadline s).state.button =
      send_event_work_handler deadline (w.gpio_pin_get deadline s.active) (w.zbus_chan_pub deadline) s.state.button := rfl
  have kept : (runWork w traced deadline s).state.button.last_press_time = s.state.button.last_press_time := by
    rw [button, send_event_work_handler]
    split
    · rfl
    · split
      · rfl
      · rfl
  constructor
  · rw [kept]
    exact recent
  · exact spaced
  · simpa [runWork, traced] using due
  · show _ = presses w (s.state.reads ++ [(deadline, w.gpio_pin_get deadline s.active)])
    rw [button, presses_concat, send_event_work_handler, ← published]
    split
    · rfl
    · split
      · rfl
      · rfl

variable [IsStrictOrderedRing T]

/-- The uptime grows by more than the delay only if time does. -/
theorem delay_of_uptime {t u : T} (long : DEBOUNCE_DELAY_MS < k_uptime_get u - k_uptime_get t) :
    t + (DEBOUNCE_DELAY_MS : T) < u := by
  have ten : (DEBOUNCE_DELAY_MS : T) = 10 := by norm_num [DEBOUNCE_DELAY_MS]
  rw [ten, ← not_le]
  intro short
  exact absurd (uptime_short short) (not_le.mpr long)

/-- An edge that is accepted comes late enough after those before it; one that
    is not changes nothing. -/
theorem interrupt_tracked {w : World T} {s : Sim T (Traced T)} (tracked : Tracked w s) (t : T) :
    Tracked w ⟨true, (traced.interrupt t s.state).2.or s.deadline, (traced.interrupt t s.state).1⟩ := by
  obtain ⟨recent, spaced, due, published⟩ := tracked
  by_cases accepted : k_uptime_get t - s.state.button.last_press_time > DEBOUNCE_DELAY_MS
  · have scheduled : button_pressed t s.state.button =
        ({ s.state.button with last_press_time := k_uptime_get t }, some (t + ((DEBOUNCE_DELAY_MS / 2 : Int) : T))) :=
      if_pos accepted
    have later : ∀ edge ∈ s.state.accepted, DEBOUNCE_DELAY_MS < k_uptime_get t - k_uptime_get edge := by
      intro edge member
      have := recent edge member
      omega
    simp only [traced, scheduled]
    constructor
    · intro edge member
      rcases List.mem_append.mp member with member | member
      · have := later edge member
        simp only [DEBOUNCE_DELAY_MS] at this
        show k_uptime_get edge ≤ k_uptime_get t
        omega
      · rw [List.mem_singleton.mp member]
    · show (s.state.accepted ++ [t]).Pairwise _
      rw [List.pairwise_append]
      refine ⟨spaced, List.pairwise_singleton _ _, ?_⟩
      intro edge member u last
      rw [List.mem_singleton.mp last]
      exact delay_of_uptime (later edge member)
    · -- the deadline that was pending, if any, is replaced
      have ran := (List.sublist_append_left _ _).trans due
      simpa using ran.append_right [t + ((DEBOUNCE_DELAY_MS / 2 : Int) : T)]
    · exact published
  · have refused : button_pressed t s.state.button = (s.state.button, none) := if_neg accepted
    simp only [traced, refused]
    exact ⟨recent, spaced, due, published⟩

theorem run_tracked (w : World T) (level : Bool) (changes : List T) (t : T) :
    Tracked w (runTo w traced t (start level) changes) := by
  refine runTo_preserves ?_ ?_ ?_ ?_ changes t
  · intro s deadline tracked pending
    exact work_tracked tracked pending
  · rintro s ⟨recent, spaced, due, published⟩
    exact ⟨recent, spaced, due, published⟩
  · intro s t tracked
    exact interrupt_tracked tracked t
  · constructor <;> simp [start, presses]

/-! ### The law -/

/-- The reads of the pin are the debounce delay apart, as the accepted edges are. -/
theorem reads_spaced {w : World T} {s : Sim T (Traced T)} (tracked : Tracked w s) :
    (s.state.reads.map Prod.fst).Pairwise (fun t u => t + (DEBOUNCE_DELAY_MS : T) < u) := by
  have shifted : (s.state.accepted.map (· + ((DEBOUNCE_DELAY_MS / 2 : Int) : T))).Pairwise
      (fun t u => t + (DEBOUNCE_DELAY_MS : T) < u) := by
    rw [List.pairwise_map]
    refine tracked.spaced.imp ?_
    intro one two spaced
    rw [add_right_comm]
    exact add_lt_add_left spaced _
  exact shifted.sublist ((List.sublist_append_left _ _).trans tracked.due)

/-- A moment has one read. -/
theorem read_unique {w : World T} {s : Sim T (Traced T)} (tracked : Tracked w s) {t : T} {one two : Int}
    (first : (t, one) ∈ s.state.reads) (second : (t, two) ∈ s.state.reads) : one = two := by
  have positive : (0 : T) < (DEBOUNCE_DELAY_MS : T) := by norm_num [DEBOUNCE_DELAY_MS]
  have distinct : (s.state.reads.map Prod.fst).Nodup := by
    refine (reads_spaced tracked).imp ?_
    rintro t u spaced rfl
    exact absurd spaced (not_lt.mpr (le_add_of_nonneg_right positive.le))
  have same := List.inj_on_of_nodup_map distinct first second rfl
  exact congrArg Prod.snd same

/-- Presses follow accepted edges, one each, and are the debounce delay apart. -/
theorem presses_spaced {w : World T} {s : Sim T (Traced T)} (tracked : Tracked w s) :
    s.state.button.published.Sublist (s.state.accepted.map (· + ((DEBOUNCE_DELAY_MS / 2 : Int) : T))) ∧
    s.state.button.published.Pairwise (fun t u => t + (DEBOUNCE_DELAY_MS : T) < u) := by
  have some_reads : s.state.button.published.Sublist (s.state.reads.map Prod.fst) := by
    rw [tracked.published]
    exact List.filter_sublist.map Prod.fst
  exact ⟨some_reads.trans ((List.sublist_append_left _ _).trans tracked.due), (reads_spaced tracked).sublist some_reads⟩

/-- **The law and the failing reads.** By any time of any timeline, whatever the
    reads and the publications return, the presses obey the law exactly when
    no read with another result than zero and one has been published. -/
theorem press_law_iff (w : World T) (level : Bool) (changes : List T) (t : T) :
    PressLaw (tracedAt w level changes t) ↔
      ∀ read ∈ (tracedAt w level changes t).reads, read.2 ≠ 0 → read.2 ≠ 1 → w.zbus_chan_pub read.1 ≠ 0 := by
  have tracked := run_tracked w level changes t
  obtain ⟨delayed, apart⟩ := presses_spaced tracked
  constructor
  · rintro law ⟨u, result⟩ member released active published
    have pressed : u ∈ (tracedAt w level changes t).button.published := by
      rw [tracedAt, tracked.published, mem_presses]
      exact ⟨result, member, released, published⟩
    exact active (read_unique tracked member (law.read u pressed))
  · intro failing
    refine ⟨?_, delayed, apart⟩
    intro u pressed
    rw [tracedAt, tracked.published, mem_presses] at pressed
    obtain ⟨result, member, released, published⟩ := pressed
    by_cases active : result = 1
    · rw [← active]
      exact member
    · exact absurd published (failing (u, result) member released active)

/-- The pin cannot be read, and events can be published. -/
def unreadable : World ℚ := ⟨fun _ => false, fun _ _ => -5, fun _ => 0⟩

/-- One edge, and the work reads an error: a press is published that no read of
    the pin has shown. -/
theorem failing_read_pressed :
    tracedAt unreadable false [20] 30 = ⟨⟨20, [25]⟩, [20], [(25, -5)]⟩ ∧ ¬ PressLaw (tracedAt unreadable false [20] 30) := by
  have ran : tracedAt unreadable false [20] 30 = ⟨⟨20, [25]⟩, [20], [(25, -5)]⟩ := by decide +kernel
  refine ⟨ran, ?_⟩
  intro law
  have read := law.read 25 (by simp [ran])
  simp [ran] at read

/-- Two edges that bounce, and a second press, all read as they are. -/
theorem press_law_iff_two : PressLaw (tracedAt (World.faultless fun _ => false) false [20, 22, (23 : ℚ), 80, 120] 130) := by
  have reads : (tracedAt (World.faultless fun _ => false) false [20, 22, (23 : ℚ), 80, 120] 130).reads =
      [(25, 1), (125, 1)] := by decide +kernel
  apply (press_law_iff (World.faultless fun _ => false) false [20, 22, (23 : ℚ), 80, 120] 130).mpr
  rw [reads]
  intro read member _ active
  rcases List.mem_pair.mp member with rfl | rfl
  · exact absurd rfl active
  · exact absurd rfl active

end ZephyrWorkshop.ButtonLaw
