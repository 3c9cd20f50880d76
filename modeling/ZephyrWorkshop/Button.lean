import Mathlib.Data.Rat.Floor
import ZephyrWorkshop.DelayedWork

/-!
The app's button component, `app/src/components/button/button.c`. The interrupt
accepts a change to active when the last one it accepted is long enough ago, and
the work reads the pin once, half the debounce delay later. Of each bounce burst
at most one edge is accepted, and whether it counts depends on the level of the
pin at that one moment (`counts`), in the burst of a press as in that of a
release.
-/

namespace ZephyrWorkshop.Button
open ZephyrWorkshop.DelayedWork

def DEBOUNCE_DELAY_MS : Int := 10

/-- `last_press_time`, and the times at which `SYS_BUTTON_PRESSED` was published. -/
structure ButtonState (T : Type*) where
  last_press_time : Int
  published : List T
deriving DecidableEq, Repr

/-- The work, with the results of `gpio_pin_get` and `zbus_chan_pub`. -/
def send_event_work_handler {T : Type*} (now : T) (level err : Int) (s : ButtonState T) : ButtonState T :=
  if level = 0 then s
  else if err ≠ 0 then s
  else { s with published := s.published ++ [now] }

variable {T : Type*} [Field T] [LinearOrder T] [FloorRing T]

/-- `k_uptime_get`, in whole milliseconds. -/
def k_uptime_get (t : T) : Int := ⌊t⌋

/-- The interrupt. -/
def button_pressed (t : T) (s : ButtonState T) : ButtonState T × Option T :=
  let now := k_uptime_get t
  if now - s.last_press_time > DEBOUNCE_DELAY_MS then
    ({ s with last_press_time := now }, some (t + ((DEBOUNCE_DELAY_MS / 2 : Int) : T)))
  else (s, none)

def handlers : Handlers T (ButtonState T) where
  interrupt := button_pressed
  work := send_event_work_handler

/-- At boot: the pin is inactive and no work is pending. -/
def initial : Sim T (ButtonState T) := ⟨false, none, ⟨0, []⟩⟩

/-- The component's state at a time of a timeline. -/
def stateAt (w : World T) (changes : List T) (t : T) : ButtonState T := (runTo w handlers t initial changes).state

/-! ### Presses -/

/-- The level changes of a bounce burst: an odd number, within the debounce delay. -/
structure Burst (T : Type*) [Field T] [LinearOrder T] where
  changes : List T
  sorted : changes.Pairwise (· < ·)
  odd : changes.length % 2 = 1
  short : ∀ a ∈ changes, ∀ b ∈ changes, b ≤ a + 10

omit [FloorRing T] in
theorem Burst.nonempty (b : Burst T) : ∃ t, t ∈ b.changes := by
  cases changes : b.changes with
  | nil => exact absurd b.odd (by simp [changes])
  | cons t rest => exact ⟨t, by simp⟩

/-- The burst of a press, at least 50 ms of a stable active level, and the burst of the release. -/
structure Press (T : Type*) [Field T] [LinearOrder T] where
  press : Burst T
  release : Burst T
  held : ∀ a ∈ press.changes, ∀ b ∈ release.changes, a + 50 ≤ b

/-- At least 50 ms of a stable inactive level between two presses. -/
def Apart (first second : Press T) : Prop := ∀ a ∈ first.release.changes, ∀ b ∈ second.press.changes, a + 50 ≤ b

def bursts (presses : List (Press T)) : List (Burst T) := presses.flatMap fun p => [p.press, p.release]

def timeline (presses : List (Press T)) : List T := (bursts presses).flatMap Burst.changes

/-- The edge of a burst that the interrupt accepts, from the level before the
    burst: the first one to active with an uptime of more than the delay. -/
def acceptedEdge (active : Bool) : List T → Option T
  | [] => none
  | t :: rest => if active = false ∧ DEBOUNCE_DELAY_MS < k_uptime_get t then some t else acceptedEdge (!active) rest

/-- The level that work with a deadline reads, from the level before the burst. -/
def levelRead (w : World T) (active : Bool) (changes : List T) (deadline : T) : Bool :=
  active ^^ decide (changes.countP (fun t => ¬ Precedes w deadline t) % 2 = 1)

/-- The burst makes the component publish: the pin is active half the delay after
    the accepted edge. -/
def counts (w : World T) (active : Bool) (changes : List T) : Bool :=
  match acceptedEdge active changes with
  | none => false
  | some edge => levelRead w active changes (edge + 5)

/-! ### One burst -/

section
variable {w : World T} (ideal : w.Ideal)

/-- The interrupt rejects every change of a list. -/
def Rejects (s : Sim T (ButtonState T)) (changes : List T) : Prop :=
  ∀ t ∈ changes, k_uptime_get t - s.state.last_press_time ≤ DEBOUNCE_DELAY_MS

private theorem rejected {t : T} {s : ButtonState T} (recent : k_uptime_get t - s.last_press_time ≤ DEBOUNCE_DELAY_MS) :
    handlers.interrupt t s = (s, none) := if_neg (not_lt.mpr recent)

/-- A change that the interrupt rejects or does not see. -/
theorem change_rejected {t : T} {s s' : Sim T (ButtonState T)} (ran : before w handlers t s = s')
    (recent : s'.active = false → k_uptime_get t - s'.state.last_press_time ≤ DEBOUNCE_DELAY_MS) :
    change w handlers t s = { s' with active := !s'.active } := by
  unfold change
  rw [ran]
  dsimp only
  split
  · rename_i active
    simp [active]
  · rename_i inactive
    rw [rejected (recent (Bool.eq_false_iff.mpr inactive))]
    simp [inactive]

private theorem odd_succ (n : Nat) : decide ((n + 1) % 2 = 1) = !decide (n % 2 = 1) := by
  rw [← decide_not]
  congr 1
  rw [eq_iff_iff]
  omega

theorem change_accepted {t : T} {s s' : Sim T (ButtonState T)} (ran : before w handlers t s = s')
    (inactive : s'.active = false) (long : DEBOUNCE_DELAY_MS < k_uptime_get t - s'.state.last_press_time) :
    change w handlers t s =
      ⟨true, some (t + 5), { s'.state with last_press_time := k_uptime_get t }⟩ := by
  have step : handlers.interrupt t s'.state =
      ({ s'.state with last_press_time := k_uptime_get t }, some (t + ((DEBOUNCE_DELAY_MS / 2 : Int) : T))) :=
    if_pos long
  have half : ((DEBOUNCE_DELAY_MS / 2 : Int) : T) = 5 := by norm_num [DEBOUNCE_DELAY_MS]
  unfold change
  rw [ran]
  dsimp only
  rw [if_neg (by rw [inactive]; decide), step, half]
  rfl

/-- With nothing pending and nothing accepted, only the level changes. -/
theorem process_rejected {changes : List T} {s : Sim T (ButtonState T)} (idle : s.deadline = none)
    (rejects : Rejects s changes) :
    process w handlers s changes = { s with active := s.active ^^ decide (changes.length % 2 = 1) } := by
  induction changes generalizing s with
  | nil => simp [process]
  | cons t rest ih =>
    have kept : before w handlers t s = s := by simp [before, idle]
    rw [process_cons, change_rejected kept (fun _ => rejects t (by simp)),
      ih (s := { s with active := !s.active }) idle fun u member => rejects u (by simp [member])]
    rw [List.length_cons, odd_succ]
    simp

/-- The state once the work of a deadline has run. -/
def workDone (active : Bool) (deadline : T) (s : ButtonState T) : ButtonState T :=
  { s with published := s.published ++ if active then [deadline] else [] }

include ideal in
theorem work_state {deadline : T} {s : Sim T (ButtonState T)} :
    runWork w handlers deadline s =
      { s with deadline := none, state := workDone s.active deadline s.state } := by
  cases active : s.active <;>
    simp [runWork, handlers, send_event_work_handler, workDone, ideal.reads, ideal.publishes, active]

omit [Field T] [FloorRing T] in
/-- A change before the deadline flips the level that is read. -/
theorem levelRead_cons {t deadline : T} {rest : List T} (waits : ¬ Precedes w deadline t) (active : Bool) :
    levelRead w active (t :: rest) deadline = levelRead w (!active) rest deadline := by
  rw [levelRead, levelRead, List.countP_cons_of_pos (by simpa using waits), odd_succ]
  simp

omit [Field T] [FloorRing T] in
theorem levelRead_later {t deadline : T} {rest : List T} (later : ∀ u ∈ rest, t < u) (fires : Precedes w deadline t)
    (active : Bool) : levelRead w active (t :: rest) deadline = active := by
  have none : (t :: rest).countP (fun u => ¬ Precedes w deadline u) = 0 := by
    rw [List.countP_eq_zero]
    intro u member
    have after : Precedes w deadline u := by
      rcases List.mem_cons.mp member with rfl | member
      · exact fires
      · exact .inl (fires.le.trans_lt (later u member))
    simpa using after
  rw [levelRead, none]
  simp

include ideal in
/-- With the work pending and nothing more accepted, the work reads the level at its deadline. -/
theorem process_pending {changes : List T} (sorted : changes.Pairwise (· < ·)) {s : Sim T (ButtonState T)}
    {deadline : T} (pending : s.deadline = some deadline) (rejects : Rejects s changes) :
    settle w handlers (process w handlers s changes) =
      { active := s.active ^^ decide (changes.length % 2 = 1)
        deadline := none
        state := workDone (levelRead w s.active changes deadline) deadline s.state } := by
  induction changes generalizing s with
  | nil =>
    rw [process, List.foldl_nil, settle_pending pending, work_state ideal]
    simp [levelRead]
  | cons t rest ih =>
    by_cases fires : Precedes w deadline t
    · have ran : before w handlers t s =
          { s with deadline := none, state := workDone s.active deadline s.state } := by
        rw [before, pending, ← work_state ideal]
        exact if_pos fires
      rw [process_cons, change_rejected ran (fun _ => rejects t (by simp)),
        process_rejected (s := ⟨!s.active, none, workDone s.active deadline s.state⟩) rfl
          (fun u member => rejects u (by simp [member])), settle_none rfl, levelRead_later (List.pairwise_cons.mp sorted).1 fires, List.length_cons, odd_succ]
      simp
    · have waits : before w handlers t s = s := by
        rw [before, pending]
        exact if_neg fires
      rw [process_cons, change_rejected waits (fun _ => rejects t (by simp)),
        ih sorted.of_cons (s := { s with active := !s.active }) pending
          (fun u member => rejects u (by simp [member])),
        levelRead_cons fires, List.length_cons, odd_succ]
      simp

/-- The state after a burst and its work. -/
def burstDone (w : World T) (active : Bool) (changes : List T) (s : ButtonState T) : ButtonState T :=
  match acceptedEdge active changes with
  | none => s
  | some edge =>
    workDone (levelRead w active changes (edge + 5)) (edge + 5) { s with last_press_time := k_uptime_get edge }

theorem acceptedEdge_mem {active : Bool} {changes : List T} {edge : T}
    (accepted : acceptedEdge active changes = some edge) :
    edge ∈ changes ∧ DEBOUNCE_DELAY_MS < k_uptime_get edge := by
  induction changes generalizing active with
  | nil => cases accepted
  | cons t rest ih =>
    rw [acceptedEdge] at accepted
    split at accepted
    · rename_i first
      cases accepted
      exact ⟨by simp, first.2⟩
    · obtain ⟨member, late⟩ := ih accepted
      exact ⟨by simp [member], late⟩

variable [IsStrictOrderedRing T]

/-- Within 10 ms, the uptime grows by 10 at most. -/
theorem uptime_short {t u : T} (short : u ≤ t + 10) : k_uptime_get u - k_uptime_get t ≤ DEBOUNCE_DELAY_MS := by
  have low := Int.lt_floor_add_one t
  have bound : k_uptime_get u < k_uptime_get t + 11 := by
    unfold k_uptime_get
    rw [Int.floor_lt]
    push_cast
    linarith
  unfold DEBOUNCE_DELAY_MS
  omega

/-- After 50 ms, the uptime has grown by 50 at least. -/
theorem uptime_long {t u : T} (long : t + 50 ≤ u) : k_uptime_get t + 50 ≤ k_uptime_get u := by
  have low := Int.floor_le t
  unfold k_uptime_get
  rw [Int.le_floor]
  push_cast
  linarith

include ideal in
/-- A burst that finds no work pending: its first acceptable edge is accepted and no other. -/
theorem burst_run {changes : List T} (sorted : changes.Pairwise (· < ·))
    (short : ∀ a ∈ changes, ∀ b ∈ changes, b ≤ a + 10) {s : Sim T (ButtonState T)} (idle : s.deadline = none)
    (fresh : ∀ t ∈ changes, k_uptime_get t - s.state.last_press_time ≤ DEBOUNCE_DELAY_MS ↔
      k_uptime_get t ≤ DEBOUNCE_DELAY_MS) :
    settle w handlers (process w handlers s changes) =
      { active := s.active ^^ decide (changes.length % 2 = 1)
        deadline := none
        state := burstDone w s.active changes s.state } := by
  induction changes generalizing s with
  | nil =>
    rw [process, List.foldl_nil, settle_none idle]
    obtain ⟨active, deadline, state⟩ := s
    cases idle
    simp [burstDone, acceptedEdge]
  | cons t rest ih =>
    have kept : before w handlers t s = s := by simp [before, idle]
    have later : ∀ u ∈ rest, t < u := (List.pairwise_cons.mp sorted).1
    by_cases accepted : s.active = false ∧ DEBOUNCE_DELAY_MS < k_uptime_get t
    · obtain ⟨inactive, late⟩ := accepted
      have long : DEBOUNCE_DELAY_MS < k_uptime_get t - s.state.last_press_time := by
        have := (fresh t (by simp)).not
        omega
      have waits : ¬ Precedes w (t + 5) t := fun precedes => by linarith [precedes.le]
      rw [process_cons, change_accepted kept inactive long,
        process_pending ideal sorted.of_cons (s := ⟨true, some (t + 5), { s.state with last_press_time := k_uptime_get t }⟩)
          rfl (fun u member => uptime_short (short t (by simp) u (by simp [member]))),
        burstDone, acceptedEdge, if_pos ⟨inactive, late⟩, inactive, List.length_cons, odd_succ]
      simp [levelRead_cons waits]
    · have quiet : s.active = false → k_uptime_get t - s.state.last_press_time ≤ DEBOUNCE_DELAY_MS := by
        intro inactive
        rw [fresh t (by simp)]
        exact not_lt.mp fun late => accepted ⟨inactive, late⟩
      rw [process_cons, change_rejected kept quiet,
        ih sorted.of_cons (fun a one b two => short a (by simp [one]) b (by simp [two]))
          (s := { s with active := !s.active }) idle (fun u member => fresh u (by simp [member])),
        burstDone, burstDone, acceptedEdge, if_neg accepted, List.length_cons, odd_succ]
      cases edgeIs : acceptedEdge (!s.active) rest with
      | none => simp
      | some edge =>
        have after := later edge (acceptedEdge_mem edgeIs).1
        have waits : ¬ Precedes w (edge + 5) t := fun precedes => by linarith [precedes.le]
        simp [levelRead_cons waits]

omit [IsStrictOrderedRing T] in
private theorem change_deadline {t deadline : T} {s : Sim T (ButtonState T)}
    (pending : (change w handlers t s).deadline = some deadline) : s.deadline = some deadline ∨ deadline = t + 5 := by
  have half : ((DEBOUNCE_DELAY_MS / 2 : Int) : T) = 5 := by norm_num [DEBOUNCE_DELAY_MS]
  have old : (before w handlers t s).deadline = some deadline → s.deadline = some deadline := by
    rcases before_cases w handlers t s with same | ⟨_, _, ran⟩
    · rw [same]
      exact id
    · rw [ran]
      rintro ⟨⟩
  unfold change at pending
  dsimp only at pending
  split at pending
  · exact .inl (old pending)
  · dsimp only [handlers, button_pressed] at pending
    split at pending
    · cases pending
      exact .inr (by rw [half])
    · exact .inl (old pending)

omit [IsStrictOrderedRing T] in
/-- Work is only ever pending for 5 ms after a change. -/
theorem process_deadline {changes : List T} {s : Sim T (ButtonState T)} {deadline : T}
    (pending : deadline ∈ (process w handlers s changes).deadline) :
    deadline ∈ s.deadline ∨ ∃ t ∈ changes, deadline = t + 5 := by
  induction changes generalizing s with
  | nil => exact .inl pending
  | cons t rest ih =>
    rcases ih pending with old | ⟨u, member, rfl⟩
    · rcases change_deadline old with older | rfl
      · exact .inl older
      · exact .inr ⟨t, by simp, rfl⟩
    · exact .inr ⟨u, by simp [member], rfl⟩

/-! ### Whole sequences of presses -/

/-- Every burst is at least 50 ms after the ones before it. -/
def Spaced (bs : List (Burst T)) : Prop := bs.Pairwise fun one two => ∀ a ∈ one.changes, ∀ b ∈ two.changes, a + 50 ≤ b

/-- How many bursts count, from the level before the first one. -/
def eventCount (w : World T) : Bool → List (Burst T) → Nat
  | _, [] => 0
  | active, b :: rest => (counts w active b.changes).toNat + eventCount w (!active) rest

include ideal in
theorem bursts_run {bs : List (Burst T)} (spaced : Spaced bs) {s : Sim T (ButtonState T)} (idle : s.deadline = none)
    (fresh : ∀ b ∈ bs, ∀ t ∈ b.changes, k_uptime_get t - s.state.last_press_time ≤ DEBOUNCE_DELAY_MS ↔
      k_uptime_get t ≤ DEBOUNCE_DELAY_MS) :
    (settle w handlers (process w handlers s (bs.flatMap Burst.changes))).state.published.length =
      s.state.published.length + eventCount w s.active bs := by
  induction bs generalizing s with
  | nil => simp [process, settle_none idle, eventCount]
  | cons b rest ih =>
    have apart := (List.pairwise_cons.mp spaced).1
    have done := burst_run ideal b.sorted b.short idle (fresh b (by simp))
    have early : ∀ deadline ∈ (process w handlers s b.changes).deadline,
        ∀ t ∈ rest.flatMap Burst.changes, Precedes w deadline t := by
      intro deadline pending t member
      obtain ⟨next, inRest, inNext⟩ := List.mem_flatMap.mp member
      rcases process_deadline pending with old | ⟨a, inBurst, rfl⟩
      · rw [idle] at old
        cases old
      · have := apart next inRest a inBurst t inNext
        exact .inl (by linarith)
    rw [List.flatMap_cons, process_append, ← settle_process early, done, ih (List.pairwise_cons.mp spaced).2 rfl]
    · have published : (burstDone w s.active b.changes s.state).published.length =
          s.state.published.length + (counts w s.active b.changes).toNat := by
        unfold burstDone counts
        cases acceptedEdge s.active b.changes with
        | none => simp
        | some edge => cases read : levelRead w s.active b.changes (edge + 5) <;> simp [workDone, read]
      simp only [b.odd, decide_true, Bool.bne_true, published, eventCount]
      omega
    · intro next inRest t inNext
      have before := fresh next (by simp [inRest]) t inNext
      unfold burstDone
      cases edgeIs : acceptedEdge s.active b.changes with
      | none => exact before
      | some edge =>
        obtain ⟨inBurst, late⟩ := acceptedEdge_mem edgeIs
        have grown := uptime_long (apart next inRest edge inBurst t inNext)
        simp only [workDone]
        unfold DEBOUNCE_DELAY_MS at late ⊢
        omega

theorem bursts_spaced {presses : List (Press T)} (apart : presses.Pairwise Apart) : Spaced (bursts presses) := by
  refine List.pairwise_flatMap.mpr ⟨fun p _ => ?_, apart.imp fun {p q} between one inFirst two inSecond a before b after => ?_⟩
  · simpa using p.held
  · have ends : ∀ d ∈ q.press.changes, a + 50 ≤ d := by
      intro d pressed
      obtain ⟨r, released⟩ := p.release.nonempty
      rcases List.mem_pair.mp inFirst with rfl | rfl
      · linarith [p.held a before r released, between r released d pressed]
      · exact between a before d pressed
    rcases List.mem_pair.mp inSecond with rfl | rfl
    · exact ends b after
    · obtain ⟨d, pressed⟩ := q.press.nonempty
      linarith [ends d pressed, q.held d pressed b after]

omit [IsStrictOrderedRing T] in
theorem eventCount_bursts (presses : List (Press T)) :
    eventCount w false (bursts presses) =
      presses.countP (fun p => counts w false p.press.changes) + presses.countP (fun p => counts w true p.release.changes) := by
  induction presses with
  | nil => rfl
  | cons p rest ih =>
    have split : bursts (p :: rest) = p.press :: p.release :: bursts rest := rfl
    rw [split, eventCount, eventCount, Bool.not_false, Bool.not_true, ih, List.countP_cons, List.countP_cons]
    cases counts w false p.press.changes <;> cases counts w true p.release.changes <;> simp <;> omega

/-- Once every change is 50 ms old, the number of published events is the number
    of presses exactly if as many presses do not count as releases do. -/
theorem one_event_per_press_iff {w : World T} (ideal : w.Ideal) {presses : List (Press T)}
    (apart : presses.Pairwise Apart) {t : T} (elapsed : ∀ c ∈ timeline presses, c + 50 ≤ t) :
    (stateAt w (timeline presses) t).published.length = presses.length ↔
      presses.countP (fun p => !counts w false p.press.changes) =
        presses.countP (fun p => counts w true p.release.changes) := by
  have ran : (stateAt w (timeline presses) t).published.length = eventCount w false (bursts presses) := by
    have inside : ∀ c ∈ timeline presses, c ≤ t := fun c member => by linarith [elapsed c member]
    have run := bursts_run ideal (bursts_spaced apart) (s := initial) rfl (fun _ _ u _ => by simp [initial])
    rw [stateAt, runTo_eq_settle inside]
    · simpa [initial, timeline] using run
    · intro deadline pending
      rcases process_deadline pending with none | ⟨c, member, rfl⟩
      · cases none
      · linarith [elapsed c member]
  have parts := List.length_eq_countP_add_countP (fun p : Press T => counts w false p.press.changes) (l := presses)
  have lost : presses.countP (fun p => !counts w false p.press.changes) =
      presses.countP (fun p => ¬ counts w false p.press.changes) := by
    congr 1
    funext p
    simp
  rw [ran, eventCount_bursts, lost]
  omega

end

/-- A press with one burst of level changes, released without a bounce. -/
def press (changes : List ℚ) (sorted : changes.Pairwise (· < ·)) (odd : changes.length % 2 = 1)
    (short : ∀ a ∈ changes, ∀ b ∈ changes, b ≤ a + 10) (release : ℚ) (held : ∀ a ∈ changes, a + 50 ≤ release) :
    Press ℚ where
  press := ⟨changes, sorted, odd, short⟩
  release := ⟨[release], by simp, by simp, by simp⟩
  held a before b after := by
    rw [List.mem_singleton.mp after]
    exact held a before

/-- The pin bounces for 3 ms and is stable by the time the work runs. -/
def clean : Press ℚ := press [20, 22, 23] (by decide +kernel) (by decide) (by decide +kernel) 80 (by decide +kernel)

/-- The pin bounces for 8 ms and is inactive when the work runs. -/
def bouncing : Press ℚ := press [20, 22, 28] (by decide +kernel) (by decide) (by decide +kernel) 80 (by decide +kernel)

theorem one_event_per_press_iff_clean :
    (stateAt (World.faultless fun _ => false) (timeline [clean]) 130).published.length = 1 := by
  have elapsed : ∀ c ∈ timeline [clean], c + 50 ≤ 130 := by decide +kernel
  have apart : [clean].Pairwise Apart := by simp
  exact (one_event_per_press_iff (World.faultless_ideal _) apart elapsed).mpr (by decide +kernel)

/-- A press that bounces within the debounce delay is lost. -/
theorem bouncing_press_lost :
    [bouncing].Pairwise Apart ∧ (∀ c ∈ timeline [bouncing], DEBOUNCE_DELAY_MS < c ∧ c + 50 ≤ 130) ∧
      (stateAt (World.faultless fun _ => false) (timeline [bouncing]) 130).published.length ≠ [bouncing].length := by
  refine ⟨by simp, by decide +kernel, by decide +kernel⟩

end ZephyrWorkshop.Button
