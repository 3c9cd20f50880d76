import ZephyrWorkshop.DelayedWork

/-!
A pin that triggers hold active. A trigger sets the pin and reschedules the work
that clears it, so that triggers which follow each other soon enough make one
pulse (`timeline_eq`). A component behind the pin that takes up an edge whenever
the last pulse has lasted for its full time answers each pulse once
(`runTo_pulses`).
-/

namespace ZephyrWorkshop.OneShot
open ZephyrWorkshop.DelayedWork

variable {T : Type*}

/-- An input pin whose level is set by software, and the times of its changes. -/
structure Pin (T : Type*) where
  level : Bool
  changes : List T
deriving DecidableEq, Repr

def Pin.set (now : T) (value : Bool) (pin : Pin T) : Pin T :=
  if pin.level = value then pin else ⟨value, pin.changes ++ [now]⟩

/-- The pin, and the deadline of the work that clears it. -/
structure Holder (T : Type*) where
  pin : Pin T
  release : Option T
deriving DecidableEq, Repr

def idle : Holder T := ⟨⟨false, []⟩, none⟩

variable [LinearOrder T] [AddCommGroup T] (hold : T) (first : T → Bool)

/-- The pin is set, and the work rescheduled. -/
def trigger (now : T) (s : Holder T) : Holder T := ⟨s.pin.set now true, some (now + hold)⟩

/-- The work clears the pin. -/
def clear (now : T) (s : Holder T) : Holder T := ⟨s.pin.set now false, none⟩

/-- The work that is due before a trigger; `first` says whether it comes first at
    the same time. -/
def Due (deadline now : T) : Prop := deadline < now ∨ (deadline = now ∧ first now = true)

instance decidableDue (deadline now : T) : Decidable (Due first deadline now) := inferInstanceAs (Decidable (_ ∨ _))

def clearDue (now : T) (s : Holder T) : Holder T :=
  match s.release with
  | none => s
  | some deadline => if Due first deadline now then clear deadline s else s

/-- The work that is still pending. -/
def clearPending (s : Holder T) : Holder T :=
  match s.release with
  | none => s
  | some deadline => clear deadline s

def run (s : Holder T) (triggers : List T) : Holder T :=
  triggers.foldl (fun s now => trigger hold now (clearDue first now s)) s

/-- All changes of the pin. -/
def timeline (triggers : List T) : List T := (clearPending (run hold first idle triggers)).pin.changes

/-! ### Pulses -/

/-- The pulses from one that started and is to end at some time on. -/
def extend (start stop : T) : List T → List (T × T)
  | [] => [(start, stop)]
  | now :: rest =>
    if Due first stop now then (start, stop) :: extend now (now + hold) rest else extend start (now + hold) rest

/-- The pulses that triggers make: one goes on while the next trigger comes before its end. -/
def pulses : List T → List (T × T)
  | [] => []
  | now :: rest => extend hold first now (now + hold) rest

/-- The triggers that find the pin cleared, after one that holds it until `stop`. -/
def freshAfter (stop : T) : List T → List T
  | [] => []
  | now :: rest => if Due first stop now then now :: freshAfter (now + hold) rest else freshAfter (now + hold) rest

/-- The triggers that come when the one before them holds the pin no longer. -/
def fresh : List T → List T
  | [] => []
  | now :: rest => now :: freshAfter hold first (now + hold) rest

def edges (pulses : List (T × T)) : List T := pulses.flatMap fun pulse => [pulse.1, pulse.2]

variable {hold first}

omit [AddCommGroup T] in
theorem Due.le {deadline now : T} (due : Due first deadline now) : deadline ≤ now := by
  rcases due with earlier | ⟨same, _⟩
  · exact earlier.le
  · exact same.le

omit [AddCommGroup T] in
/-- The work may run early, or late. -/
theorem clearDue_clearDue {now later : T} (order : now ≤ later) (s : Holder T) :
    clearDue first later (clearDue first now s) = clearDue first later s := by
  obtain ⟨pin, release⟩ := s
  cases release with
  | none => rfl
  | some deadline =>
    by_cases due : Due first deadline now
    · have dueLater : Due first deadline later := by
        rcases order.eq_or_lt with rfl | earlier
        · exact due
        · exact .inl (due.le.trans_lt earlier)
      simp [clearDue, due, dueLater, clear]
    · simp [clearDue, due]

omit [AddCommGroup T] in
theorem clearPending_clearDue (now : T) (s : Holder T) : clearPending (clearDue first now s) = clearPending s := by
  obtain ⟨pin, release⟩ := s
  cases release with
  | none => rfl
  | some deadline =>
    by_cases due : Due first deadline now
    · simp [clearDue, due, clearPending, clear]
    · simp [clearDue, due]

theorem run_clearDue {now : T} {triggers : List T} (later : ∀ c ∈ triggers, now ≤ c) (s : Holder T) :
    clearPending (run hold first (clearDue first now s) triggers) = clearPending (run hold first s triggers) := by
  cases triggers with
  | nil => exact clearPending_clearDue now s
  | cons c rest =>
    have same : clearDue first c (clearDue first now s) = clearDue first c s := clearDue_clearDue (later c List.mem_cons_self) s
    rw [run, List.foldl_cons, same]
    rfl

theorem run_extend {start stop : T} {before : List T} (triggers : List T) :
    (clearPending (run hold first ⟨⟨true, before ++ [start]⟩, some stop⟩ triggers)).pin.changes =
      before ++ edges (extend hold first start stop triggers) := by
  induction triggers generalizing start stop before with
  | nil => simp [run, clearPending, clear, Pin.set, extend, edges]
  | cons now rest ih =>
    rw [run, List.foldl_cons, ← run, extend]
    by_cases due : Due first stop now
    · have next : trigger hold now (clearDue first now ⟨⟨true, before ++ [start]⟩, some stop⟩) =
          ⟨⟨true, (before ++ [start, stop]) ++ [now]⟩, some (now + hold)⟩ := by
        simp [clearDue, due, clear, Pin.set, trigger]
      rw [next, ih, if_pos due, edges, edges, List.flatMap_cons]
      simp
    · have next : trigger hold now (clearDue first now ⟨⟨true, before ++ [start]⟩, some stop⟩) =
          ⟨⟨true, before ++ [start]⟩, some (now + hold)⟩ := by
        simp [clearDue, due, Pin.set, trigger]
      rw [next, ih, if_neg due]

/-- The changes of the pin are the edges of the pulses. -/
theorem timeline_eq (triggers : List T) : timeline hold first triggers = edges (pulses hold first triggers) := by
  cases triggers with
  | nil => rfl
  | cons now rest =>
    have started : trigger hold now (clearDue first now idle) = ⟨⟨true, [] ++ [now]⟩, some (now + hold)⟩ := rfl
    rw [timeline, run, List.foldl_cons, ← run, started, run_extend, List.nil_append]
    rfl

theorem extend_starts (start stop : T) (triggers : List T) :
    (extend hold first start stop triggers).map Prod.fst = start :: freshAfter hold first stop triggers := by
  induction triggers generalizing start stop with
  | nil => rfl
  | cons now rest ih =>
    rw [extend, freshAfter]
    split
    · rw [List.map_cons, ih]
    · rw [ih]

/-- A pulse starts at each trigger that finds the pin cleared. -/
theorem pulses_starts (triggers : List T) : (pulses hold first triggers).map Prod.fst = fresh hold first triggers := by
  cases triggers with
  | nil => rfl
  | cons now rest => exact extend_starts now (now + hold) rest

/-- Pulses of some length at least, none of which starts before the last has ended. -/
structure Spaced (hold : T) (pulses : List (T × T)) : Prop where
  long : ∀ pulse ∈ pulses, pulse.1 + hold ≤ pulse.2
  apart : pulses.Pairwise (fun one two => one.2 ≤ two.1)

omit [LinearOrder T] [AddCommGroup T] in
/-- A pin that pulses is active during the pulses. -/
theorem intervals_edges (pulses : List (T × T)) :
    intervals (edges pulses) = pulses.map fun pulse => (pulse.1, some pulse.2) := by
  induction pulses with
  | nil => rfl
  | cons pulse rest ih => rw [edges, List.flatMap_cons, List.cons_append, List.cons_append, List.nil_append, intervals, ← edges, ih,
      List.map_cons]

omit [LinearOrder T] [AddCommGroup T] in
theorem edges_head (pulses : List (T × T)) : (edges pulses).head? = (pulses.map Prod.fst).head? := by
  cases pulses <;> rfl

theorem fresh_head (triggers : List T) : (fresh hold first triggers).head? = triggers.head? := by
  cases triggers <;> rfl

/-- What lies between the pulses, from the end of each one on. -/
def gaps : List (T × T) → List (T × Option T)
  | [] => []
  | [pulse] => [(pulse.2, none)]
  | pulse :: next :: rest => (pulse.2, some next.1) :: gaps (next :: rest)

omit [LinearOrder T] [AddCommGroup T] in
/-- A pin that pulses the other way round is active between them. -/
theorem intervals_gaps (pulses : List (T × T)) : intervals (edges pulses).tail = gaps pulses := by
  induction pulses with
  | nil => rfl
  | cons pulse rest ih =>
    cases rest with
    | nil => rfl
    | cons next rest =>
      rw [gaps, ← ih]
      rfl

omit [LinearOrder T] [AddCommGroup T] in
theorem gaps_starts (pulses : List (T × T)) : (gaps pulses).map Prod.fst = pulses.map Prod.snd := by
  induction pulses with
  | nil => rfl
  | cons pulse rest ih =>
    cases rest with
    | nil => rfl
    | cons next rest =>
      rw [gaps, List.map_cons, ih]
      rfl

variable [IsOrderedAddMonoid T]

theorem Spaced.sorted {pulses : List (T × T)} (spaced : Spaced hold pulses) (positive : 0 ≤ hold) :
    (edges pulses).Pairwise (· ≤ ·) := by
  induction pulses with
  | nil => exact List.Pairwise.nil
  | cons pulse rest ih =>
    obtain ⟨long, apart⟩ := spaced
    rw [List.pairwise_cons] at apart
    have within : pulse.1 ≤ pulse.2 := (le_add_of_nonneg_right positive).trans (long pulse (by simp))
    have tail := ih ⟨fun pulse member => long pulse (by simp [member]), apart.2⟩
    have later : ∀ c ∈ edges rest, pulse.2 ≤ c := by
      intro c member
      obtain ⟨next, found, here⟩ := List.mem_flatMap.mp member
      have after := apart.1 next found
      have inside : next.1 ≤ next.2 := (le_add_of_nonneg_right positive).trans (long next (by simp [found]))
      have edge : c = next.1 ∨ c = next.2 := by simpa using here
      rcases edge with rfl | rfl
      · exact after
      · exact after.trans inside
    rw [edges, List.flatMap_cons, List.cons_append, List.cons_append, List.nil_append, ← edges]
    refine List.pairwise_cons.mpr ⟨fun c member => ?_, List.pairwise_cons.mpr ⟨later, tail⟩⟩
    rcases List.mem_cons.mp member with rfl | member
    · exact within
    · exact within.trans (later c member)

omit [IsOrderedAddMonoid T] in
/-- Pulses start far apart, and so they end. -/
theorem Spaced.starts {pulses : List (T × T)} (spaced : Spaced hold pulses) :
    (pulses.map Prod.fst).Pairwise (fun one two => one + hold ≤ two) := by
  rw [List.pairwise_map]
  refine spaced.apart.imp_of_mem ?_
  intro one two member _ after
  exact (spaced.long one member).trans after

theorem Spaced.stops {pulses : List (T × T)} (spaced : Spaced hold pulses) :
    (pulses.map Prod.snd).Pairwise (fun one two => one + hold ≤ two) := by
  rw [List.pairwise_map]
  refine spaced.apart.imp_of_mem ?_
  intro one two _ member after
  exact (add_le_add_left after hold).trans (spaced.long two member)

/-- `latest` is the trigger that the end of the pulse belongs to. -/
theorem extend_spaced {start latest : T} {triggers : List T} (begun : start ≤ latest)
    (sorted : (latest :: triggers).Pairwise (· ≤ ·)) :
    Spaced hold (extend hold first start (latest + hold) triggers) ∧
      ∀ pulse ∈ extend hold first start (latest + hold) triggers, start ≤ pulse.1 := by
  induction triggers generalizing start latest with
  | nil =>
    have only : ∀ pulse ∈ [(start, latest + hold)], pulse = (start, latest + hold) := by simp
    refine ⟨⟨fun pulse member => ?_, List.pairwise_singleton _ _⟩, fun pulse member => ?_⟩
    · rw [only pulse member]
      exact add_le_add_left begun hold
    · rw [only pulse member]
  | cons now rest ih =>
    have later : latest ≤ now := (List.pairwise_cons.mp sorted).1 now (by simp)
    rw [extend]
    split
    · rename_i due
      obtain ⟨⟨long, apart⟩, after⟩ := ih (le_refl now) sorted.of_cons
      refine ⟨⟨?_, List.pairwise_cons.mpr ⟨?_, apart⟩⟩, ?_⟩
      · intro pulse member
        rcases List.mem_cons.mp member with rfl | member
        · exact add_le_add_left begun hold
        · exact long pulse member
      · intro pulse member
        exact due.le.trans (after pulse member)
      · intro pulse member
        rcases List.mem_cons.mp member with rfl | member
        · exact le_rfl
        · exact (begun.trans later).trans (after pulse member)
    · exact ih (begun.trans later) sorted.of_cons

theorem pulses_spaced {triggers : List T} (sorted : triggers.Pairwise (· ≤ ·)) : Spaced hold (pulses hold first triggers) := by
  cases triggers with
  | nil => exact ⟨by simp [pulses], by simp [pulses]⟩
  | cons now rest => exact (extend_spaced le_rfl sorted).1

/-- Triggers that find the pin cleared are as far apart as it is held. -/
theorem fresh_apart {triggers : List T} (sorted : triggers.Pairwise (· ≤ ·)) :
    (fresh hold first triggers).Pairwise (fun one two => one + hold ≤ two) := by
  rw [← pulses_starts]
  exact (pulses_spaced sorted).starts

/-! ### What answers to them -/

/-- Handlers that take up an edge, if the one before is some time ago, and after a
    delay show it if the pin is still active. -/
structure Answers {State : Type*} (handlers : Handlers T State) (hold delay : T) (shown : State → List T)
    (Ready : T → State → Prop) : Prop where
  scheduled : ∀ t s, Ready t s → (handlers.interrupt t s).2 = some (t + delay)
  silent : ∀ t s, Ready t s → shown (handlers.interrupt t s).1 = shown s
  works : ∀ t s, Ready t s → ∀ active : Bool,
    shown (handlers.work (t + delay) (if active then 1 else 0) 0 (handlers.interrupt t s).1) =
      shown s ++ if active then [t + delay] else []
  again : ∀ t u s, Ready t s → t + hold ≤ u → ∀ active : Bool,
    Ready u (handlers.work (t + delay) (if active then 1 else 0) 0 (handlers.interrupt t s).1)

/-- The pin stays active until the work that its interval schedules. -/
def Lasts (w : World T) (delay : T) (interval : T × Option T) : Prop :=
  ∀ fall ∈ interval.2, Precedes w (interval.1 + delay) fall

instance decidableLasts (w : World T) (delay : T) (interval : T × Option T) : Decidable (Lasts w delay interval) :=
  match h : interval.2 with
  | none => .isTrue (by simp [Lasts, h])
  | some fall => decidable_of_iff (Precedes w (interval.1 + delay) fall) (by simp [Lasts, h])

/-- The intervals that are shown by a time. -/
def shownBy (w : World T) (delay t : T) (changes : List T) : List (T × Option T) :=
  (intervals changes).filter fun interval => decide (Lasts w delay interval ∧ interval.1 + delay ≤ t)

section
variable {State : Type*} {handlers : Handlers T State} {delay : T} {shown : State → List T} {Ready : T → State → Prop}
  {w : World T}

/-- The pin is inactive, and if work is pending, it shows nothing and comes before
    the next changes, which find the component ready. -/
structure Quiet (w : World T) (handlers : Handlers T State) (shown : State → List T) (Ready : T → State → Prop)
    (s : Sim T State) (changes : List T) : Prop where
  inactive : s.active = false
  early : ∀ deadline ∈ s.deadline, ∀ t ∈ changes, deadline < t
  silent : shown (settle w handlers s).state = shown s.state
  ready : ∀ t ∈ changes.head?, Ready t (settle w handlers s).state

omit [LinearOrder T] [AddCommGroup T] [IsOrderedAddMonoid T] in
/-- What the work does, where the pin reads as its level and publications succeed. -/
theorem runWork_ideal (ideal : w.Ideal) (deadline : T) (s : Sim T State) :
    runWork w handlers deadline s = ⟨s.active, none, handlers.work deadline (if s.active then 1 else 0) 0 s.state⟩ := by
  rw [runWork, ideal.reads, ideal.publishes]

omit [AddCommGroup T] [IsOrderedAddMonoid T] in
theorem Quiet.upTo {s : Sim T State} {changes : List T} (quiet : Quiet w handlers shown Ready s changes) (t : T) :
    shown (upTo w handlers t s).state = shown s.state := by
  rcases upTo_cases w handlers t s with same | ⟨deadline, pending, ran⟩
  · rw [same]
  · rw [ran, ← settle_pending pending, quiet.silent]

omit [AddCommGroup T] [IsOrderedAddMonoid T] in
theorem Quiet.before {s : Sim T State} {t : T} {rest : List T} (quiet : Quiet w handlers shown Ready s (t :: rest)) :
    before w handlers t s = settle w handlers s := by
  unfold DelayedWork.before
  cases pending : s.deadline with
  | none => rw [settle_none pending]
  | some deadline =>
    rw [settle_pending pending]
    exact if_pos (.inl (quiet.early deadline pending t (by simp)))

omit [IsOrderedAddMonoid T] in
/-- An edge is taken up. -/
theorem Quiet.rise (answers : Answers handlers hold delay shown Ready) {s : Sim T State} {t : T} {rest : List T}
    (quiet : Quiet w handlers shown Ready s (t :: rest)) :
    change w handlers t s = ⟨true, some (t + delay), (handlers.interrupt t (settle w handlers s).state).1⟩ := by
  have inactive : (settle w handlers s).active = false := by
    unfold settle
    split
    · exact quiet.inactive
    · exact quiet.inactive
  unfold change
  dsimp only
  rw [quiet.before, inactive, if_neg Bool.false_ne_true, answers.scheduled t _ (quiet.ready t rfl)]
  rfl

/-- The end of the interval: the work has run by then or finds the pin inactive. -/
theorem Quiet.fall (answers : Answers handlers hold delay shown Ready) (ideal : w.Ideal) (short : delay < hold)
    {t : T} {state : State} (ready : Ready t state) {changes : List T} (apart : ∀ c ∈ changes, t + hold ≤ c) (fall : T) :
    let s := change w handlers fall ⟨true, some (t + delay), (handlers.interrupt t state).1⟩
    Quiet w handlers shown Ready s changes ∧
      shown s.state = shown state ++ if Precedes w (t + delay) fall then [t + delay] else [] := by
  intro s
  by_cases earlier : Precedes w (t + delay) fall
  · have done : s = ⟨false, none, handlers.work (t + delay) (if true then 1 else 0) 0 (handlers.interrupt t state).1⟩ := by
      have ran : DelayedWork.before w handlers fall ⟨true, some (t + delay), (handlers.interrupt t state).1⟩ =
          runWork w handlers (t + delay) ⟨true, some (t + delay), (handlers.interrupt t state).1⟩ := if_pos earlier
      simp only [s, change]
      rw [ran, runWork_ideal ideal]
      rfl
    rw [done, if_pos earlier]
    refine ⟨⟨rfl, ?_, rfl, ?_⟩, answers.works t state ready true⟩
    · rintro deadline ⟨⟩
    · intro c member
      exact answers.again t c state ready (apart c (List.mem_of_mem_head? member)) true
  · have waits : s = ⟨false, some (t + delay), (handlers.interrupt t state).1⟩ := by
      have kept : DelayedWork.before w handlers fall ⟨true, some (t + delay), (handlers.interrupt t state).1⟩ =
          ⟨true, some (t + delay), (handlers.interrupt t state).1⟩ := if_neg earlier
      simp only [s, change]
      rw [kept]
      rfl
    have settled : settle w handlers s =
        ⟨false, none, handlers.work (t + delay) (if false then 1 else 0) 0 (handlers.interrupt t state).1⟩ := by
      rw [waits, settle_pending rfl, runWork_ideal ideal]
    have unseen := answers.works t state ready false
    refine ⟨⟨by rw [waits], ?_, ?_, ?_⟩, ?_⟩
    · rw [waits]
      rintro deadline ⟨⟩ c member
      exact (add_lt_add_right short t).trans_le (apart c member)
    · rw [settled, waits, unseen, answers.silent t state ready]
      simp
    · intro c member
      rw [settled]
      exact answers.again t c state ready (apart c (List.mem_of_mem_head? member)) false
    · rw [waits, if_neg earlier, answers.silent t state ready, List.append_nil]

omit [IsOrderedAddMonoid T] in
/-- During the interval, the work runs at its deadline. -/
theorem upTo_active (answers : Answers handlers hold delay shown Ready) (ideal : w.Ideal) {start : T} {state : State}
    (ready : Ready start state) (t : T) :
    shown (upTo w handlers t ⟨true, some (start + delay), (handlers.interrupt start state).1⟩).state =
      shown state ++ if start + delay ≤ t then [start + delay] else [] := by
  by_cases passed : start + delay ≤ t
  · have ran : upTo w handlers t ⟨true, some (start + delay), (handlers.interrupt start state).1⟩ =
        runWork w handlers (start + delay) ⟨true, some (start + delay), (handlers.interrupt start state).1⟩ := if_pos passed
    rw [ran, runWork_ideal ideal, if_pos passed]
    exact answers.works start state ready true
  · have waits : upTo w handlers t ⟨true, some (start + delay), (handlers.interrupt start state).1⟩ =
        ⟨true, some (start + delay), (handlers.interrupt start state).1⟩ := if_neg passed
    rw [waits, if_neg passed, answers.silent start state ready, List.append_nil]

omit [IsOrderedAddMonoid T] in
theorem shownBy_cons (w : World T) (delay t rise fall : T) (rest : List T) :
    shownBy w delay t (rise :: fall :: rest) =
      if Precedes w (rise + delay) fall ∧ rise + delay ≤ t then (rise, some fall) :: shownBy w delay t rest
      else shownBy w delay t rest := by
  simp [shownBy, intervals, List.filter_cons, Lasts]

theorem shownBy_later (w : World T) {delay t : T} (positive : 0 ≤ delay) {changes : List T} (later : ∀ c ∈ changes, t < c) :
    shownBy w delay t changes = [] := by
  rw [shownBy, List.filter_eq_nil_iff]
  intro interval member
  have rise := (later interval.1 (rise_mem member)).trans_le (le_add_of_nonneg_right positive)
  rw [decide_eq_true_eq, not_and]
  exact fun _ => not_le.mpr rise

/-- Where the edges to active are far enough apart, each interval that lasts is
    shown once, as soon as the delay from its start has passed. -/
theorem runTo_shows (answers : Answers handlers hold delay shown Ready) (ideal : w.Ideal) (short : delay < hold)
    (positive : 0 ≤ delay) {changes : List T} (sorted : changes.Pairwise (· ≤ ·))
    (apart : ((intervals changes).map Prod.fst).Pairwise (fun one two => one + hold ≤ two)) {s : Sim T State}
    (quiet : Quiet w handlers shown Ready s changes) (t : T) :
    shown (runTo w handlers t s changes).state = shown s.state ++ ((shownBy w delay t changes).map Prod.fst).map (· + delay) := by
  induction changes using intervals.induct generalizing s with
  | case1 =>
    rw [runTo, quiet.upTo]
    simp [shownBy, intervals]
  | case2 rise =>
    by_cases started : rise ≤ t
    · rw [runTo, if_pos started, quiet.rise answers, runTo, upTo_active answers ideal (quiet.ready rise rfl), quiet.silent]
      by_cases passed : rise + delay ≤ t
      · simp [shownBy, intervals, Lasts, passed]
      · simp [shownBy, intervals, passed]
    · rw [runTo, if_neg started, quiet.upTo, shownBy_later w positive (by simpa using started)]
      simp
  | case3 rise fall rest ih =>
    have order : rise ≤ fall := (List.pairwise_cons.mp sorted).1 fall (by simp)
    have later : ∀ c ∈ rest, fall ≤ c := (List.pairwise_cons.mp sorted.of_cons).1
    by_cases started : rise ≤ t
    swap
    · -- nothing of the interval has happened yet
      rw [runTo, if_neg started, quiet.upTo, shownBy_later w positive]
      · simp
      · intro c member
        rcases List.mem_cons.mp member with rfl | member
        · exact not_le.mp started
        · exact (not_le.mp started).trans_le ((List.pairwise_cons.mp sorted).1 c member)
    have ready := quiet.ready rise rfl
    rw [runTo, if_pos started, quiet.rise answers, runTo]
    by_cases ended : fall ≤ t
    · have spaced : ∀ c ∈ rest, rise + hold ≤ c := by
        intro c member
        cases rest with
        | nil => cases member
        | cons next rest =>
          have first : next ∈ (intervals (next :: rest)).map Prod.fst := by
            cases rest <;> simp [intervals]
          have low : rise + hold ≤ next := (List.pairwise_cons.mp apart).1 next first
          rcases List.mem_cons.mp member with rfl | member
          · exact low
          · exact low.trans ((List.pairwise_cons.mp sorted.of_cons.of_cons).1 c member)
      obtain ⟨quietNext, seen⟩ := Quiet.fall answers ideal short ready spaced fall
      rw [if_pos ended, ih sorted.of_cons.of_cons apart.of_cons quietNext, seen, quiet.silent, shownBy_cons]
      by_cases lasts : Precedes w (rise + delay) fall
      · rw [if_pos lasts, if_pos ⟨lasts, lasts.le.trans ended⟩]
        simp
      · rw [if_neg lasts, if_neg (fun both => lasts both.1), List.append_nil]
    · -- the interval has not ended, and the later ones have not started
      have none := shownBy_later w positive fun c member => (not_le.mp ended).trans_le (later c member)
      rw [if_neg ended, upTo_active answers ideal ready, quiet.silent, shownBy_cons, none]
      by_cases passed : rise + delay ≤ t
      · rw [if_pos passed, if_pos ⟨.inl (passed.trans_lt (not_le.mp ended)), passed⟩]
        rfl
      · rw [if_neg passed, if_neg (fun both => passed both.2)]
        rfl

omit [AddCommGroup T] [IsOrderedAddMonoid T] in
theorem Quiet.start {s : Sim T State} (inactive : s.active = false) (free : s.deadline = none) {changes : List T}
    (ready : ∀ t ∈ changes.head?, Ready t s.state) : Quiet w handlers shown Ready s changes := by
  refine ⟨inactive, ?_, ?_, ?_⟩
  · rw [free]
    rintro deadline ⟨⟩
  · rw [settle_none free]
  · rw [settle_none free]
    exact ready

omit [IsOrderedAddMonoid T] in
/-- Pulses that are longer than the delay all last. -/
theorem shownBy_edges (w : World T) [IsOrderedAddMonoid T] (short : delay < hold) {pulses : List (T × T)}
    (spaced : Spaced hold pulses) (t : T) :
    (shownBy w delay t (edges pulses)).map Prod.fst =
      (pulses.map Prod.fst).filter (fun start => start + delay ≤ t) := by
  rw [shownBy, intervals_edges, List.filter_map, List.map_map, List.filter_map]
  have same : ∀ pulse ∈ pulses,
      ((fun interval => decide (Lasts w delay interval ∧ interval.1 + delay ≤ t)) ∘ fun pulse : T × T => (pulse.1, some pulse.2)) pulse =
        ((fun start => decide (start + delay ≤ t)) ∘ Prod.fst) pulse := by
    intro pulse member
    have lasts : Lasts w delay (pulse.1, some pulse.2) := by
      rintro fall ⟨⟩
      exact .inl ((add_lt_add_right short pulse.1).trans_le (spaced.long pulse member))
    simp [lasts]
  rw [List.filter_congr same]
  rfl

/-- A component that answers shows each trigger that finds the pin cleared. -/
theorem shows_triggers (answers : Answers handlers hold delay shown Ready) (ideal : w.Ideal) (short : delay < hold)
    (positive : 0 ≤ delay) (first : T → Bool) {triggers : List T} (sorted : triggers.Pairwise (· ≤ ·)) {s : Sim T State}
    (inactive : s.active = false) (free : s.deadline = none) (ready : ∀ t ∈ triggers.head?, Ready t s.state) (t : T) :
    shown (runTo w handlers t s (timeline hold first triggers)).state =
      shown s.state ++ ((fresh hold first triggers).filter (fun now => now + delay ≤ t)).map (· + delay) := by
  have spaced : Spaced hold (pulses hold first triggers) := pulses_spaced sorted
  have apart : ((intervals (edges (pulses hold first triggers))).map Prod.fst).Pairwise
      (fun one two => one + hold ≤ two) := by
    rw [intervals_edges, List.map_map]
    exact spaced.starts
  have begins : (edges (pulses hold first triggers)).head? = triggers.head? := by
    rw [edges_head, pulses_starts, fresh_head]
  have quiet : Quiet w handlers shown Ready s (edges (pulses hold first triggers)) :=
    .start inactive free (by rwa [begins])
  rw [timeline_eq, runTo_shows answers ideal short positive (spaced.sorted (positive.trans short.le)) apart quiet,
    shownBy_edges w short spaced, pulses_starts]

/-- Where the pin is active while it is cleared, the component shows the end of
    each pulse, if it lasts until the work. -/
theorem shows_gaps (answers : Answers handlers hold delay shown Ready) (ideal : w.Ideal) (short : delay < hold)
    (positive : 0 ≤ delay) (first : T → Bool) {triggers : List T} (sorted : triggers.Pairwise (· ≤ ·)) {s : Sim T State}
    (active : s.active = true) (free : s.deadline = none)
    (ready : ∀ now ∈ triggers.head?, ∀ t, now + hold ≤ t → Ready t s.state) (t : T) :
    shown (runTo w handlers t s (timeline hold first triggers)).state =
      shown s.state ++ (((gaps (pulses hold first triggers)).filter
        (fun gap => decide (Lasts w delay gap ∧ gap.1 + delay ≤ t))).map Prod.fst).map (· + delay) := by
  have spaced : Spaced hold (pulses hold first triggers) := pulses_spaced sorted
  have still : upTo w handlers t s = s := by simp [upTo, free]
  have ordered := spaced.sorted (positive.trans short.le)
  have begins : (edges (pulses hold first triggers)).head? = triggers.head? := by
    rw [edges_head, pulses_starts, fresh_head]
  have stops := spaced.stops
  rw [← gaps_starts, ← intervals_gaps] at stops
  rw [timeline_eq, ← intervals_gaps]
  change _ = shown s.state ++ ((shownBy w delay t (edges (pulses hold first triggers)).tail).map Prod.fst).map (· + delay)
  cases triggers with
  | nil =>
    rw [pulses, edges, List.flatMap_nil, runTo, still]
    simp [shownBy, intervals]
  | cons now rest =>
    generalize pulses hold first (now :: rest) = all at *
    cases all with
    | nil => cases begins
    | cons pulse others =>
      obtain rfl : pulse.1 = now := Option.some.inj begins
      have shape : edges (pulse :: others) = pulse.1 :: pulse.2 :: edges others := rfl
      rw [shape] at ordered stops ⊢
      rw [List.tail_cons] at stops ⊢
      by_cases started : pulse.1 ≤ t
      · -- the first change ends the interval that the pin was active from the start
        have fell : change w handlers pulse.1 s = { s with active := false } := by
          have kept : DelayedWork.before w handlers pulse.1 s = s := by simp [DelayedWork.before, free]
          unfold change
          dsimp only
          rw [kept, if_pos active]
        have quiet : Quiet w handlers shown Ready { s with active := false } (pulse.2 :: edges others) := by
          refine Quiet.start (s := { s with active := false }) rfl free ?_
          rintro stop ⟨⟩
          exact ready pulse.1 rfl pulse.2 (spaced.long pulse List.mem_cons_self)
        rw [runTo, if_pos started, fell, runTo_shows answers ideal short positive ordered.of_cons stops quiet]
      · rw [runTo, if_neg started, still, shownBy_later w positive]
        · simp
        · intro c member
          exact (not_le.mp started).trans_le ((List.pairwise_cons.mp ordered).1 c member)

end

end ZephyrWorkshop.OneShot
