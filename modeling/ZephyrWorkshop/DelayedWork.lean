import Mathlib.Algebra.Order.Field.Basic
import Mathlib.Tactic.Linarith

/-!
A pin with an edge interrupt and one delayable work item. A timeline is the list
of the times at which the level of the pin changes, from inactive on. The
interrupt runs at each change to active and may schedule the work; the work runs
at its deadline and reads the pin. Time is any ordered field, in milliseconds,
so that every spacing of the changes is covered. `runTo_preserves` is the
invariant rule of the runs, and `runTo_map` lets a run keep a trace.
-/

namespace ZephyrWorkshop.DelayedWork

variable {T : Type*} [LinearOrder T]

/-! ### Timelines -/

/-- The level just after a time: active after an odd number of changes. -/
def Active (changes : List T) (t : T) : Prop := changes.countP (· ≤ t) % 2 = 1

instance (changes : List T) (t : T) : Decidable (Active changes t) := inferInstanceAs (Decidable (_ = _))

/-- A change to active. -/
def ToActive (changes : List T) (t : T) : Prop := t ∈ changes ∧ Active changes t

/-- The maximal active intervals; the last one may be open. -/
def intervals : List T → List (T × Option T)
  | [] => []
  | [rise] => [(rise, none)]
  | rise :: fall :: rest => (rise, some fall) :: intervals rest

section
variable {rise fall t : T} {rest : List T}

theorem countP_later {changes : List T} (later : ∀ c ∈ changes, t < c) : changes.countP (· ≤ t) = 0 := by
  rw [List.countP_eq_zero]
  intro c member
  simpa using later c member

theorem not_active_of_later {changes : List T} (later : ∀ c ∈ changes, t < c) : ¬ Active changes t := by
  rw [Active, countP_later later]
  omega

/-- During its interval, the pin is active. -/
theorem active_inside (sorted : (rise :: fall :: rest).Pairwise (· < ·)) (low : rise ≤ t) (high : t < fall) :
    Active (rise :: fall :: rest) t := by
  rw [List.pairwise_cons, List.pairwise_cons] at sorted
  have later : rest.countP (· ≤ t) = 0 := countP_later fun c member => high.trans (sorted.2.1 c member)
  simp [Active, later, low, not_le.mpr high]

/-- From the fall on, the level is that of the rest of the timeline. -/
theorem active_after (sorted : (rise :: fall :: rest).Pairwise (· < ·)) (low : fall ≤ t) :
    Active (rise :: fall :: rest) t ↔ Active rest t := by
  rw [List.pairwise_cons, List.pairwise_cons] at sorted
  have first : rise ≤ t := (sorted.1 fall (by simp)).le.trans low
  simp only [Active, List.countP_cons, first, low, decide_true, if_true]
  omega

omit [LinearOrder T] in
theorem rise_mem {changes : List T} {interval : T × Option T} (member : interval ∈ intervals changes) :
    interval.1 ∈ changes := by
  induction changes using intervals.induct with
  | case1 => cases member
  | case2 rise => simp_all [intervals]
  | case3 rise fall rest ih =>
    rcases List.mem_cons.mp member with rfl | member
    · simp
    · simp [ih member]

theorem intervals_sorted {changes : List T} (sorted : changes.Pairwise (· < ·)) :
    (intervals changes).Pairwise (fun one two => one.1 < two.1) := by
  induction changes using intervals.induct with
  | case1 => simp [intervals]
  | case2 rise => simp [intervals]
  | case3 rise fall rest ih =>
    refine List.pairwise_cons.mpr ⟨fun interval member => ?_, ih sorted.of_cons.of_cons⟩
    exact (List.pairwise_cons.mp sorted).1 interval.1 (by simp [rise_mem member])

end

/-- The pin stays active for some time after a change exactly if that change
    starts a maximal interval that lasts longer. -/
theorem stays_active_iff [AddCommGroup T] [IsOrderedAddMonoid T] {changes : List T} {width : T} (positive : 0 ≤ width)
    (sorted : changes.Pairwise (· < ·)) (rise : T) :
    (∃ fall, (rise, fall) ∈ intervals changes ∧ ∀ f ∈ fall, rise + width < f) ↔
      rise ∈ changes ∧ ∀ t, rise ≤ t → t ≤ rise + width → Active changes t := by
  induction changes using intervals.induct with
  | case1 => simp [intervals]
  | case2 only =>
    have active {t : T} (low : only ≤ t) : Active [only] t := by simp [Active, low]
    constructor
    · rintro ⟨fall, member, _⟩
      obtain ⟨rfl, rfl⟩ : rise = only ∧ fall = none := by simpa [intervals] using member
      exact ⟨by simp, fun t low _ => active low⟩
    · rintro ⟨member, _⟩
      obtain rfl : rise = only := by simpa using member
      exact ⟨none, by simp [intervals], by simp⟩
  | case3 first second rest ih =>
    have ih := ih sorted.of_cons.of_cons
    have order : first < second := (List.pairwise_cons.mp sorted).1 second (by simp)
    have later : ∀ c ∈ rest, second < c := (List.pairwise_cons.mp sorted.of_cons).1
    constructor
    · rintro ⟨fall, member, long⟩
      rcases List.mem_cons.mp member with same | member
      · obtain ⟨rfl, rfl⟩ := Prod.mk.inj same
        exact ⟨by simp, fun t low high => active_inside sorted low (high.trans_lt (long second rfl))⟩
      · obtain ⟨found, active⟩ := ih.mp ⟨fall, member, long⟩
        refine ⟨by simp [found], fun t low high => ?_⟩
        exact (active_after sorted ((later rise found).le.trans low)).mpr (active t low high)
    · rintro ⟨member, active⟩
      have start := active rise le_rfl (le_add_of_nonneg_right positive)
      have noFall : second ≤ rise + width → rise ≤ second → False := by
        intro high low
        exact not_active_of_later later ((active_after sorted le_rfl).mp (active second low high))
      rcases List.mem_cons.mp member with rfl | member
      · exact ⟨some second, by simp [intervals], by
          rintro f ⟨⟩
          exact not_le.mp fun high => noFall high order.le⟩
      rcases List.mem_cons.mp member with rfl | member
      · exact (noFall (le_add_of_nonneg_right positive) le_rfl).elim
      · obtain ⟨fall, found, long⟩ := ih.mpr ⟨member, fun t low high =>
          (active_after sorted ((later rise member).le.trans low)).mp (active t low high)⟩
        exact ⟨fall, by simp [intervals, found], long⟩

/-! ### Runs -/

/-- What the environment decides: whether work that is due at the very time of a
    change runs before it, and what reading the pin and publishing return. -/
structure World (T : Type*) where
  workFirst : T → Bool
  gpio_pin_get : T → Bool → Int
  zbus_chan_pub : T → Int

/-- The pin reads as its level, and every publication succeeds. -/
structure World.Ideal (w : World T) : Prop where
  reads : ∀ t active, w.gpio_pin_get t active = if active then 1 else 0
  publishes : ∀ t, w.zbus_chan_pub t = 0

/-- A world without faults, which settles ties in some way. -/
def World.faultless (workFirst : T → Bool) : World T where
  workFirst := workFirst
  gpio_pin_get _ active := if active then 1 else 0
  zbus_chan_pub _ := 0

omit [LinearOrder T] in
theorem World.faultless_ideal (workFirst : T → Bool) : (World.faultless workFirst).Ideal :=
  ⟨fun _ _ => rfl, fun _ => rfl⟩

/-- The code behind the pin. The interrupt returns the deadline of the work if it
    schedules it; the work gets what the two calls return to it. -/
structure Handlers (T State : Type*) where
  interrupt : T → State → State × Option T
  work : T → Int → Int → State → State

structure Sim (T State : Type*) where
  active : Bool
  deadline : Option T
  state : State

variable {State : Type*} (w : World T) (handlers : Handlers T State)

/-- The work runs at its deadline. -/
def runWork (deadline : T) (s : Sim T State) : Sim T State :=
  { s with
    deadline := none
    state := handlers.work deadline (w.gpio_pin_get deadline s.active) (w.zbus_chan_pub deadline) s.state }

/-- The work comes before a change at a time. -/
def Precedes (deadline t : T) : Prop := deadline < t ∨ (deadline = t ∧ w.workFirst t = true)

instance (deadline t : T) : Decidable (Precedes w deadline t) := inferInstanceAs (Decidable (_ ∨ _))

/-- The pending work, if it comes before a change at a time. -/
def before (t : T) (s : Sim T State) : Sim T State :=
  match s.deadline with
  | none => s
  | some deadline => if Precedes w deadline t then runWork w handlers deadline s else s

/-- A level change, and the interrupt if it is one to active. Scheduling replaces the deadline. -/
def change (t : T) (s : Sim T State) : Sim T State :=
  let s := before w handlers t s
  if s.active then { s with active := false }
  else
    let scheduled := handlers.interrupt t s.state
    { active := true, deadline := scheduled.2.or s.deadline, state := scheduled.1 }

/-- The pending work, if it is due by a time. -/
def upTo (t : T) (s : Sim T State) : Sim T State :=
  match s.deadline with
  | none => s
  | some deadline => if deadline ≤ t then runWork w handlers deadline s else s

/-- The state at a time, after the changes until then. -/
def runTo (t : T) : Sim T State → List T → Sim T State
  | s, [] => upTo w handlers t s
  | s, next :: rest => if next ≤ t then runTo t (change w handlers next s) rest else upTo w handlers t s

/-- All the changes of a timeline, with the work that comes before each of them. -/
def process (s : Sim T State) (changes : List T) : Sim T State :=
  changes.foldl (fun s t => change w handlers t s) s

/-- The pending work, if there is any. -/
def settle (s : Sim T State) : Sim T State :=
  match s.deadline with
  | none => s
  | some deadline => runWork w handlers deadline s

theorem Precedes.le {w : World T} {deadline t : T} (precedes : Precedes w deadline t) : deadline ≤ t := by
  rcases precedes with earlier | ⟨tie, _⟩
  · exact earlier.le
  · exact tie.le

theorem process_cons (s : Sim T State) (t : T) (rest : List T) :
    process w handlers s (t :: rest) = process w handlers (change w handlers t s) rest := rfl

theorem process_append (s : Sim T State) (first second : List T) :
    process w handlers s (first ++ second) = process w handlers (process w handlers s first) second :=
  List.foldl_append

variable {w handlers}

omit [LinearOrder T] in
theorem settle_none {s : Sim T State} (idle : s.deadline = none) : settle w handlers s = s := by
  simp [settle, idle]

omit [LinearOrder T] in
theorem settle_pending {s : Sim T State} {deadline : T} (pending : s.deadline = some deadline) :
    settle w handlers s = runWork w handlers deadline s := by
  simp [settle, pending]

omit [LinearOrder T] in
@[simp] theorem settle_deadline (s : Sim T State) : (settle w handlers s).deadline = none := by
  unfold settle
  cases pending : s.deadline with
  | none => exact pending
  | some deadline => rfl

omit [LinearOrder T] in
theorem settle_settle (s : Sim T State) : settle w handlers (settle w handlers s) = settle w handlers s :=
  settle_none (settle_deadline s)

/-- After the last change, everything that is due by a time is the pending work. -/
theorem runTo_eq_settle {s : Sim T State} {changes : List T} {t : T} (inside : ∀ c ∈ changes, c ≤ t)
    (due : ∀ deadline ∈ (process w handlers s changes).deadline, deadline ≤ t) :
    runTo w handlers t s changes = settle w handlers (process w handlers s changes) := by
  induction changes generalizing s with
  | nil =>
    rw [process, List.foldl_nil] at due
    rw [runTo, process, List.foldl_nil, upTo, settle]
    cases pending : s.deadline with
    | none => rfl
    | some deadline => exact if_pos (due deadline pending)
  | cons c rest ih =>
    rw [process_cons] at due
    rw [runTo, if_pos (inside c (by simp)), process_cons]
    exact ih (fun d member => inside d (by simp [member])) due

/-- Work that comes before the next changes may run at once. -/
theorem settle_process {s : Sim T State} {changes : List T}
    (early : ∀ deadline ∈ s.deadline, ∀ t ∈ changes, Precedes w deadline t) :
    settle w handlers (process w handlers (settle w handlers s) changes) =
      settle w handlers (process w handlers s changes) := by
  cases changes with
  | nil => exact settle_settle s
  | cons t rest =>
    have same : change w handlers t (settle w handlers s) = change w handlers t s := by
      have first : before w handlers t (settle w handlers s) = before w handlers t s := by
        cases pending : s.deadline with
        | none => rw [settle_none pending]
        | some deadline =>
          rw [before, settle_deadline, settle_pending pending, before, pending]
          exact (if_pos (early deadline pending t (by simp))).symm
      rw [change, change, first]
    rw [process_cons, process_cons, same]

/-! ### Invariants and traces -/

variable (w handlers) in
/-- By a time, the pending work has run or it has not. -/
theorem upTo_cases (t : T) (s : Sim T State) :
    upTo w handlers t s = s ∨ ∃ deadline, s.deadline = some deadline ∧ upTo w handlers t s = runWork w handlers deadline s := by
  unfold upTo
  cases pending : s.deadline with
  | none => exact .inl rfl
  | some deadline =>
    dsimp only
    split
    · exact .inr ⟨deadline, rfl, rfl⟩
    · exact .inl rfl

variable (w handlers) in
/-- The same before a change. -/
theorem before_cases (t : T) (s : Sim T State) :
    before w handlers t s = s ∨ ∃ deadline, s.deadline = some deadline ∧ before w handlers t s = runWork w handlers deadline s := by
  unfold before
  cases pending : s.deadline with
  | none => exact .inl rfl
  | some deadline =>
    dsimp only
    split
    · exact .inr ⟨deadline, rfl, rfl⟩
    · exact .inl rfl

/-- What the work and both kinds of change preserve holds at every time of a run. -/
theorem runTo_preserves {P : Sim T State → Prop}
    (worked : ∀ s deadline, P s → s.deadline = some deadline → P (runWork w handlers deadline s))
    (fell : ∀ s, P s → P { s with active := false })
    (rose : ∀ s t, P s → P ⟨true, (handlers.interrupt t s.state).2.or s.deadline, (handlers.interrupt t s.state).1⟩)
    {s : Sim T State} (holds : P s) (changes : List T) (t : T) : P (runTo w handlers t s changes) := by
  have finished : ∀ s, P s → P (upTo w handlers t s) := by
    intro s holds
    rcases upTo_cases w handlers t s with same | ⟨deadline, pending, ran⟩
    · rwa [same]
    · rw [ran]
      exact worked s deadline holds pending
  have prepared : ∀ c s, P s → P (before w handlers c s) := by
    intro c s holds
    rcases before_cases w handlers c s with same | ⟨deadline, pending, ran⟩
    · rwa [same]
    · rw [ran]
      exact worked s deadline holds pending
  induction changes generalizing s with
  | nil => exact finished s holds
  | cons c rest ih =>
    rw [runTo]
    split
    · apply ih
      unfold change
      dsimp only
      split
      · exact fell _ (prepared c s holds)
      · exact rose _ c (prepared c s holds)
    · exact finished s holds

/-- A simulation seen through a map of its states. -/
def Sim.map {Other : Type*} (f : State → Other) (s : Sim T State) : Sim T Other := ⟨s.active, s.deadline, f s.state⟩

section
variable {Other : Type*} {plain : Handlers T Other} {f : State → Other}

omit [LinearOrder T] in
theorem runWork_map (works : ∀ now level err s, plain.work now level err (f s) = f (handlers.work now level err s))
    (deadline : T) (s : Sim T State) : runWork w plain deadline (s.map f) = (runWork w handlers deadline s).map f := by
  simp [runWork, Sim.map, works]

theorem upTo_map (works : ∀ now level err s, plain.work now level err (f s) = f (handlers.work now level err s))
    (t : T) (s : Sim T State) : upTo w plain t (s.map f) = (upTo w handlers t s).map f := by
  obtain ⟨active, deadline, state⟩ := s
  cases deadline with
  | none => rfl
  | some deadline =>
    have worked := runWork_map (w := w) works deadline ⟨active, some deadline, state⟩
    by_cases due : deadline ≤ t
    · simpa [upTo, Sim.map, due] using worked
    · simp [upTo, Sim.map, due]

theorem before_map (works : ∀ now level err s, plain.work now level err (f s) = f (handlers.work now level err s))
    (t : T) (s : Sim T State) : before w plain t (s.map f) = (before w handlers t s).map f := by
  obtain ⟨active, deadline, state⟩ := s
  cases deadline with
  | none => rfl
  | some deadline =>
    have worked := runWork_map (w := w) works deadline ⟨active, some deadline, state⟩
    by_cases first : Precedes w deadline t
    · simpa [before, Sim.map, first] using worked
    · simp [before, Sim.map, first]

/-- Handlers that do the same but for a trace, which a map of the states forgets,
    run to the same state. -/
theorem runTo_map
    (interrupts : ∀ t s, plain.interrupt t (f s) = (f (handlers.interrupt t s).1, (handlers.interrupt t s).2))
    (works : ∀ now level err s, plain.work now level err (f s) = f (handlers.work now level err s))
    (s : Sim T State) (changes : List T) (t : T) :
    runTo w plain t (s.map f) changes = (runTo w handlers t s changes).map f := by
  have changed : ∀ c (s : Sim T State), change w plain c (s.map f) = (change w handlers c s).map f := by
    intro c s
    unfold change
    dsimp only
    rw [before_map works]
    obtain ⟨active, deadline, state⟩ := before w handlers c s
    cases active <;> simp [Sim.map, interrupts]
  induction changes generalizing s with
  | nil => exact upTo_map works t s
  | cons c rest ih =>
    rw [runTo, runTo, changed, ih, upTo_map works]
    split <;> rfl

end

end ZephyrWorkshop.DelayedWork
