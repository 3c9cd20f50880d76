import ZephyrWorkshop.TrackReplies

/-!
The counters of the two readers. A thread loads a count and stores it one higher,
so that both counters are right for as long as no thread stores over a count that
has changed since it was loaded (`counts_iff_fresh`).
-/

namespace ZephyrWorkshop.TrackCounters
open ZephyrWorkshop.Transition ZephyrWorkshop.TrackReaders ZephyrWorkshop.TrackReplies
open ZephyrWorkshop.Track (SensorValue DriverCalls Counters driver_error)
open ZephyrWorkshop.TrackAnswers (warmRead milli)

variable {sensor_value_to_milli : SensorValue → Int64} {device_ready : Bool}

/-- How many of the reads failed, or did not. -/
def tally (failed : Bool) (reads : List (Thread × DriverCalls)) : Nat :=
  reads.countP (fun read => decide (driver_error read.2 ≠ 0) == failed)

/-- Both counters count the reads so far. -/
def Exact (s : ReadersState) : Prop :=
  s.counters.read_count = UInt32.ofNat (tally false s.reads) ∧
    s.counters.error_count = UInt32.ofNat (tally true s.reads)

/-- A thread stores only over the count that it has loaded. -/
def Fresh (s : ReadersState) (a : ReadersAction) : Prop :=
  ∀ thread request calls count, a = .Store thread → s.reader thread = .Loaded request calls count →
    count = counter calls s.counters

/-- A thread loads a count only while the other one holds none. -/
def Exclusive (s : ReadersState) (a : ReadersAction) : Prop :=
  ∀ thread, a = .Load thread → ∀ other request calls count, s.reader other ≠ .Loaded request calls count

theorem tally_append (failed : Bool) (reads : List (Thread × DriverCalls)) (thread : Thread) (calls : DriverCalls) :
    tally failed (reads ++ [(thread, calls)]) =
      if decide (driver_error calls ≠ 0) = failed then tally failed reads + 1 else tally failed reads := by
  simp only [tally, List.countP_append, List.countP_singleton, beq_iff_eq]
  split <;> rfl

/-- Counting one more read is right exactly where the stored count is one more. -/
theorem exact_store_iff {counters : Counters} {reads : List (Thread × DriverCalls)} (thread : Thread)
    (calls : DriverCalls) (count : UInt32)
    (exact : counters.read_count = UInt32.ofNat (tally false reads) ∧
      counters.error_count = UInt32.ofNat (tally true reads)) :
    ((setCounter calls (count + 1) counters).read_count = UInt32.ofNat (tally false (reads ++ [(thread, calls)])) ∧
      (setCounter calls (count + 1) counters).error_count = UInt32.ofNat (tally true (reads ++ [(thread, calls)]))) ↔
    count = counter calls counters := by
  have one_more : ∀ (n : Nat) (counted : UInt32), counted = UInt32.ofNat n →
      (count + 1 = UInt32.ofNat (n + 1) ↔ count = counted) := by
    rintro n _ rfl
    rw [UInt32.ofNat_add]
    exact add_left_inj 1
  obtain ⟨reads_exact, errors_exact⟩ := exact
  rw [tally_append, tally_append]
  by_cases failed : driver_error calls ≠ 0
  · rw [setCounter, counter, if_pos failed, if_pos failed, if_pos (decide_eq_true failed),
      if_neg (by rw [decide_eq_true failed]; decide)]
    exact (and_iff_right reads_exact).trans (one_more _ _ errors_exact)
  · rw [setCounter, counter, if_neg failed, if_neg failed, if_pos (decide_eq_false failed),
      if_neg (by rw [decide_eq_false failed]; decide)]
    exact (and_iff_left errors_exact).trans (one_more _ _ reads_exact)

theorem step_exact_iff {s next : ReadersState} {a : ReadersAction} (exact : Exact s)
    (taken : step sensor_value_to_milli device_ready s a = some next) : Exact next ↔ Fresh s a := by
  have other : (∀ thread, a ≠ .Store thread) → Exact next → (Exact next ↔ Fresh s a) := by
    intro different stays
    exact ⟨fun _ thread _ _ _ same _ => absurd same (different thread), fun _ => stays⟩
  rcases step_cases taken with ⟨rfl, rfl⟩ | ⟨_, _, rfl, _, _, _, rfl⟩ | ⟨rfl, rfl⟩ | ⟨rfl, rfl | ⟨_, _, rfl⟩⟩ |
    ⟨_, _, _, rfl, _, rfl⟩ | ⟨_, _, _, rfl, _, rfl⟩ | ⟨thread, request, calls, count, rfl, loaded, rfl⟩ |
    ⟨_, _, _, rfl, _, rfl⟩ | ⟨_, _, _, rfl, _, rfl⟩
  · exact other (by simp) exact
  · exact other (by simp) exact
  · exact other (by simp) exact
  · exact other (by simp) exact
  · exact other (by simp) exact
  · exact other (by simp) exact
  · exact other (by simp) exact
  · refine (exact_store_iff thread calls count exact).trans ?_
    constructor
    · intro fresh stored _ _ _ same held
      cases same
      rw [loaded] at held
      cases held
      exact fresh
    · intro fresh
      exact fresh thread request calls count rfl loaded
  · exact other (by simp) exact
  · exact other (by simp) exact

/-- One thread at most has loaded a count, and it has not changed since. -/
structure Held (s : ReadersState) : Prop where
  fresh : ∀ thread request calls count, s.reader thread = .Loaded request calls count →
    count = counter calls s.counters
  alone : ∀ thread other request calls count, other ≠ thread → s.reader thread = .Loaded request calls count →
    ∀ request calls count, s.reader other ≠ .Loaded request calls count

/-- A thread moves, and has loaded nothing afterwards; only one that had may change the counters. -/
theorem Held.move {s next : ReadersState} (held : Held s) (moved : Thread) {reader : Reader}
    (readers : next.reader = (s.go moved reader).reader)
    (other : ∀ request calls count, reader ≠ .Loaded request calls count)
    (counters : next.counters = s.counters ∨ ∃ request calls count, s.reader moved = .Loaded request calls count) :
    Held next := by
  have kept : ∀ {thread request calls count}, next.reader thread = .Loaded request calls count →
      thread ≠ moved ∧ s.reader thread = .Loaded request calls count := by
    intro thread request calls count loaded
    rw [readers] at loaded
    by_cases same : thread = moved
    · subst same
      rw [go_self] at loaded
      exact absurd loaded (other request calls count)
    · rw [go_other s same] at loaded
      exact ⟨same, loaded⟩
  constructor
  · intro thread request calls count loaded
    obtain ⟨different, before⟩ := kept loaded
    rcases counters with same | ⟨r, c, n, counting⟩
    · rw [same]
      exact held.fresh thread request calls count before
    · exact absurd before (held.alone moved thread r c n different counting request calls count)
  · intro thread another request calls count different loaded r c n too
    exact held.alone thread another request calls count different (kept loaded).2 r c n (kept too).2

theorem step_held {s next : ReadersState} {a : ReadersAction} (held : Held s) (exclusive : Exclusive s a)
    (taken : step sensor_value_to_milli device_ready s a = some next) : Held next := by
  rcases step_cases taken with ⟨_, rfl⟩ | ⟨_, _, _, _, _, _, rfl⟩ | ⟨_, rfl⟩ | ⟨_, rfl | ⟨_, _, rfl⟩⟩ |
    ⟨moved, _, _, _, _, rfl⟩ | ⟨moved, request, calls, rfl, _, rfl⟩ | ⟨moved, request, calls, count, _, loaded, rfl⟩ |
    ⟨moved, _, _, _, _, rfl⟩ | ⟨_, _, _, _, _, rfl⟩
  · exact ⟨held.fresh, held.alone⟩
  · exact held.move .Sensor rfl (by simp) (.inl rfl)
  · exact ⟨held.fresh, held.alone⟩
  · exact held
  · exact held.move .Shell rfl (by simp) (.inl rfl)
  · exact held.move moved rfl (by simp) (.inl rfl)
  · -- nothing was loaded before, so that only this thread has loaded now
    have none := exclusive moved rfl
    have only : ∀ {thread r c n}, (s.go moved (.Loaded request calls (counter calls s.counters))).reader thread =
        .Loaded r c n → thread = moved ∧ n = counter c s.counters := by
      intro thread r c n loaded
      by_cases same : thread = moved
      · subst same
        rw [go_self] at loaded
        cases loaded
        exact ⟨rfl, rfl⟩
      · rw [go_other s same] at loaded
        exact absurd loaded (none thread r c n)
    constructor
    · intro thread r c n loaded
      exact (only loaded).2
    · intro thread other r c n different loaded r' c' n' too
      exact different ((only too).1.trans (only loaded).1.symm)
  · exact held.move moved rfl (by simp) (.inr ⟨request, calls, count, loaded⟩)
  · exact held.move moved rfl (by simp) (.inl rfl)
  · exact ⟨held.fresh, held.alone⟩

theorem tally_sum (reads : List (Thread × DriverCalls)) : tally false reads + tally true reads =
    (readsOf .Sensor reads).length + (readsOf .Shell reads).length := by
  induction reads with
  | nil => rfl
  | cons read rest ih =>
    obtain ⟨thread, calls⟩ := read
    have split : tally false ((thread, calls) :: rest) + tally true ((thread, calls) :: rest) =
        tally false rest + tally true rest + 1 := by
      simp only [tally, List.countP_cons]
      cases decide (driver_error calls ≠ 0) <;> simp <;> omega
    have parts : (readsOf .Sensor ((thread, calls) :: rest)).length + (readsOf .Shell ((thread, calls) :: rest)).length =
        (readsOf .Sensor rest).length + (readsOf .Shell rest).length + 1 := by
      cases thread <;> simp [readsOf] <;> omega
    rw [split, parts, ih]

/-- **The counters.** In every interleaving, both counters are right in every state
    exactly if every count that is stored has not changed since it was loaded, for
    which it is enough that no thread loads while the other one holds a count. At
    rest they then add up to the presses and the commands. -/
theorem counts_iff_fresh (acts : List ReadersAction) :
    (Always (step sensor_value_to_milli device_ready) Exact initial acts ↔
      EachStep (step sensor_value_to_milli device_ready) Fresh initial acts) ∧
    (EachStep (step sensor_value_to_milli device_ready) Exclusive initial acts →
      EachStep (step sensor_value_to_milli device_ready) Fresh initial acts) ∧
    (∀ s, run (step sensor_value_to_milli device_ready) initial acts = some s → AtRest s → Exact s →
      s.counters.read_count + s.counters.error_count = UInt32.ofNat (s.presses + s.asked .Shell)) := by
  refine ⟨?_, ?_, ?_⟩
  · exact always_iff_eachStep (I := fun _ => True) (fun _ _ _ _ _ => trivial)
      (fun _ _ _ _ exact taken => step_exact_iff exact taken) trivial ⟨rfl, rfl⟩
  · have start : Held initial := by
      constructor
      · intro thread request calls count loaded
        cases loaded
      · intro thread other request calls count _ loaded
        cases loaded
    refine EachStep.imp (I := Held) (fun _ _ _ held exclusive taken => step_held held exclusive taken) ?_ start
    intro s a held _ thread request calls count _ loaded
    exact held.fresh thread request calls count loaded
  · rintro s executed rest ⟨read_exact, error_exact⟩
    have consistent := run_consistent executed
    rw [read_exact, error_exact, ← UInt32.ofNat_add, tally_sum, consistent.reads_at_rest rest .Sensor,
      consistent.reads_at_rest rest .Shell, consistent.asked_at_rest rest]

/-- Both threads read, and the sensor thread counts while the command holds the count. -/
def interrupted : List ReadersAction :=
  [.Start, .Press, .Command, .Fetch .Shell warmRead, .Load .Shell, .Take, .Fetch .Sensor warmRead, .Load .Sensor,
    .Store .Sensor, .Store .Shell]

theorem counts_iff_fresh_interrupted : ¬ Always (step milli true) Exact initial interrupted := by
  have exact_iff : Always (step milli true) Exact initial interrupted ↔
      EachStep (step milli true) Fresh initial interrupted := (counts_iff_fresh interrupted).1
  rw [exact_iff]
  intro fresh
  obtain ⟨_, fresh⟩ := fresh _ rfl
  obtain ⟨_, fresh⟩ := fresh _ rfl
  obtain ⟨_, fresh⟩ := fresh _ rfl
  obtain ⟨_, fresh⟩ := fresh _ rfl
  obtain ⟨_, fresh⟩ := fresh _ rfl
  obtain ⟨_, fresh⟩ := fresh _ rfl
  obtain ⟨_, fresh⟩ := fresh _ rfl
  obtain ⟨_, fresh⟩ := fresh _ rfl
  obtain ⟨_, fresh⟩ := fresh _ rfl
  obtain ⟨stored, _⟩ := fresh _ rfl
  have same := stored .Shell 0 warmRead 0 rfl rfl
  exact absurd same (by decide)

end ZephyrWorkshop.TrackCounters
