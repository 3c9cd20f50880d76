import Mathlib.Data.UInt
import ZephyrWorkshop.Mealy
import ZephyrWorkshop.PairScan
import ZephyrWorkshop.Zephyr

/-!
The bypass mode of the shell sample, `set_bypass`, `bypass_cb` and `cmd_bypass`
of `samples/04_shell/src/main.c`. While a shell is in bypass mode, what it
receives goes to `bypass_cb` in chunks that the driver cuts as it likes. All
shells share the two static variables. Only one shell at a time is in bypass
mode (`bypass_exclusive`), and it stays there until its input, however it is cut,
holds the escape sequence (`bypass_until_escape`).
-/

namespace ZephyrWorkshop.Bypass
open ZephyrWorkshop.Zephyr ZephyrWorkshop.Mealy ZephyrWorkshop.PairScan

/-- What a shell hands to its bypass callback: `len` is not zero. -/
structure Chunk where
  first : UInt8
  others : List UInt8
deriving DecidableEq, Repr

def Chunk.data (chunk : Chunk) : List UInt8 := chunk.first :: chunk.others

def CHAR_1 : UInt8 := 0x18

def CHAR_2 : UInt8 := 0x11

/-- The static variables, and the shells that have `bypass_cb` for their bypass. -/
structure Sample (Sh : Type*) where
  in_use : Bool
  tail : UInt8
  bypass : Sh → Bool

variable {Sh : Type*}

def zeroed : Sample Sh := ⟨false, 0, fun _ => false⟩

variable [DecidableEq Sh]

def shell_set_bypass (sh : Sh) (bypass : Bool) (s : Sample Sh) : Sample Sh :=
  { s with bypass := fun other => if other = sh then bypass else s.bypass other }

/-- `set_bypass`, where `false` is `NULL`. -/
def set_bypass (sh : Sh) (bypass : Bool) (s : Sample Sh) : Sample Sh × ShellAnswer :=
  if bypass && s.in_use then (s, ([.error "Sample supports setting bypass on single instance." []], -EBUSY))
  else
    let in_use := !s.in_use
    (shell_set_bypass sh bypass { s with in_use := in_use },
      (if in_use then [.print "Bypass started, press ctrl-x ctrl-q to escape" []] else [], 0))

/-- What is written for a chunk: its bytes as numbers and as characters. -/
def echo (data : List UInt8) : List ShellLine :=
  data.map (fun c => .info "%02x " [.num c.toNat]) ++ [.info "| " []] ++
    data.map (fun c => .info "%c" [.num c.toNat]) ++ [.info "\n" []]

def bypass_cb (sh : Sh) (chunk : Chunk) (s : Sample Sh) : Sample Sh × List ShellLine :=
  let escape := (s.tail = CHAR_1 ∧ chunk.first = CHAR_2) || adjacent CHAR_1 CHAR_2 chunk.data
  if escape then
    let ended := set_bypass sh false s
    ({ ended.1 with tail := 0 }, .print "Exit bypass" [] :: ended.2.1)
  else ({ s with tail := chunk.others.getLastD chunk.first }, echo chunk.data)

def cmd_bypass (sh : Sh) (s : Sample Sh) : Sample Sh × ShellAnswer := set_bypass sh true s

/-- A shell executes the command or receives a chunk. -/
inductive Input (Sh : Type*)
  | command (sh : Sh)
  | receive (sh : Sh) (chunk : Chunk)
deriving DecidableEq

/-- What it writes. Without a bypass, a chunk is for the line that the shell reads. -/
def step (s : Sample Sh) : Input Sh → Sample Sh × List ShellLine
  | .command sh => ((cmd_bypass sh s).1, (cmd_bypass sh s).2.1)
  | .receive sh chunk => if s.bypass sh then bypass_cb sh chunk s else (s, [])

/-! ### One shell at a time -/

/-- No shell is in bypass mode, and none has left anything behind. -/
structure Idle (s : Sample Sh) : Prop where
  free : s.in_use = false
  none : ∀ sh, s.bypass sh = false
  fresh : s.tail = 0

/-- This shell is in bypass mode, and no other. -/
structure Open (sh : Sh) (s : Sample Sh) : Prop where
  taken : s.in_use = true
  only : ∀ other, s.bypass other = true ↔ other = sh

omit [DecidableEq Sh] in
theorem zeroed_idle : Idle (zeroed : Sample Sh) := ⟨rfl, fun _ => rfl, rfl⟩

theorem command_idle {s : Sample Sh} (idle : Idle s) (sh : Sh) :
    Open sh (step s (.command sh)).1 ∧ (step s (.command sh)).1.tail = 0 ∧ (cmd_bypass sh s).2.2 = 0 := by
  obtain ⟨free, none, fresh⟩ := idle
  simp only [step, cmd_bypass, set_bypass, free, Bool.and_false, Bool.false_eq_true, if_false]
  refine ⟨⟨rfl, fun other => ?_⟩, fresh, trivial⟩
  simp only [shell_set_bypass]
  split <;> simp [*]

section
variable {sh : Sh} {s : Sample Sh} (opened : Open sh s)
include opened

/-- While a shell is in bypass mode, no other gets there. -/
theorem command_open (other : Sh) : (step s (.command other)).1 = s ∧ (cmd_bypass other s).2.2 = -EBUSY := by
  simp [step, cmd_bypass, set_bypass, opened.taken]

theorem receive_other {other : Sh} (different : other ≠ sh) (chunk : Chunk) : step s (.receive other chunk) = (s, []) := by
  have notIts : s.bypass other ≠ true := mt (opened.only other).mp different
  simp [step, notIts]

/-- A chunk with the escape sequence ends the mode, one without is echoed. -/
theorem receive_own (chunk : Chunk) :
    (Pair CHAR_1 CHAR_2 (s.tail :: chunk.data) ∧ Idle (step s (.receive sh chunk)).1 ∧
      (step s (.receive sh chunk)).2 = [.print "Exit bypass" []]) ∨
    (¬ Pair CHAR_1 CHAR_2 (s.tail :: chunk.data) ∧ Open sh (step s (.receive sh chunk)).1 ∧
      chunk.data.getLast? = some (step s (.receive sh chunk)).1.tail ∧ (step s (.receive sh chunk)).2 = echo chunk.data) := by
  have its : s.bypass sh = true := (opened.only sh).mpr rfl
  have escape : (decide (s.tail = CHAR_1 ∧ chunk.first = CHAR_2) || adjacent CHAR_1 CHAR_2 chunk.data) = true ↔
      Pair CHAR_1 CHAR_2 (s.tail :: chunk.data) := by
    rw [Bool.or_eq_true, decide_eq_true_eq, adjacent_iff, pair_cons_iff]
    simp [Chunk.data]
  simp only [step, its, if_true, bypass_cb]
  by_cases found : Pair CHAR_1 CHAR_2 (s.tail :: chunk.data)
  · left
    rw [if_pos (escape.mpr found)]
    refine ⟨found, ⟨?_, ?_, rfl⟩, ?_⟩
    · simp [set_bypass, shell_set_bypass, opened.taken]
    · intro other
      simp only [set_bypass, shell_set_bypass, Bool.false_and, Bool.false_eq_true, if_false]
      split
      · rfl
      · rename_i different
        exact Bool.eq_false_iff.mpr (mt (opened.only other).mp different)
    · simp [set_bypass, opened.taken]
  · right
    rw [if_neg (mt escape.mp found)]
    refine ⟨found, ⟨opened.taken, opened.only⟩, ?_, rfl⟩
    rw [Chunk.data, List.getLast?_cons, List.getLastD_eq_getLast?]

end

theorem step_kept {s : Sample Sh} (inv : Idle s ∨ ∃ sh, Open sh s) (i : Input Sh) :
    Idle (step s i).1 ∨ ∃ sh, Open sh (step s i).1 := by
  rcases inv with idle | ⟨sh, opened⟩
  · cases i with
    | command sh => exact .inr ⟨sh, (command_idle idle sh).1⟩
    | receive sh chunk =>
      left
      simpa [step, idle.none] using idle
  · cases i with
    | command other =>
      rw [(command_open opened other).1]
      exact .inr ⟨sh, opened⟩
    | receive other chunk =>
      by_cases own : other = sh
      · subst own
        rcases receive_own opened chunk with ⟨_, ended, _⟩ | ⟨_, still, _⟩
        · exact .inl ended
        · exact .inr ⟨other, still⟩
      · rw [receive_other opened own]
        exact .inr ⟨sh, opened⟩

theorem session_kept (inputs : List (Input Sh)) : Idle (final step zeroed inputs) ∨ ∃ sh, Open sh (final step zeroed inputs) :=
  final_preserves (P := fun s => Idle s ∨ ∃ sh, Open sh s) (fun _ i inv => step_kept inv i) inputs (.inl zeroed_idle)

/-- **Exclusion.** After every session of any number of shells, at most one is in
    bypass mode. The command is refused exactly if one is, and puts the shell
    into it otherwise; only with no shell in it is there nothing left of the last
    input. -/
theorem bypass_exclusive (inputs : List (Input Sh)) (sh : Sh) :
    let s := final step zeroed inputs
    (∀ one two, s.bypass one = true → s.bypass two = true → one = two) ∧
    ((cmd_bypass sh s).2.2 = -EBUSY ↔ ∃ other, s.bypass other = true) ∧
    ((cmd_bypass sh s).2.2 = 0 ↔ ∀ other, s.bypass other = false) ∧
    ((cmd_bypass sh s).2.2 = 0 → ∀ other, (cmd_bypass sh s).1.bypass other = true ↔ other = sh) ∧
    ((∀ other, s.bypass other = false) → s.tail = 0) := by
  intro s
  rcases session_kept inputs with idle | ⟨holder, opened⟩
  · obtain ⟨started, _, done⟩ := command_idle idle sh
    have busy : ((0 : Int) = -EBUSY) = False := by simp [EBUSY]
    refine ⟨?_, ?_, ?_, fun _ => started.only, fun _ => idle.fresh⟩
    · intro one two held
      rw [idle.none one] at held
      cases held
    · rw [done, busy, false_iff]
      rintro ⟨other, held⟩
      rw [idle.none other] at held
      cases held
    · exact ⟨fun _ => idle.none, fun _ => done⟩
  · have refused := (command_open opened sh).2
    have held : s.bypass holder = true := (opened.only holder).mpr rfl
    have failed : ((cmd_bypass sh s).2.2 = 0) = False := by simp [s, refused, EBUSY]
    refine ⟨?_, ?_, ?_, ?_, ?_⟩
    · intro one two first second
      rw [(opened.only one).mp first, (opened.only two).mp second]
    · exact ⟨fun _ => ⟨holder, held⟩, fun _ => refused⟩
    · rw [failed, false_iff]
      intro none
      rw [none holder] at held
      cases held
    · rw [failed]
      exact False.elim
    · intro none
      rw [none holder] at held
      cases held

/-! ### The escape sequence -/

/-- What a shell receives of a session, in one piece. -/
def received (sh : Sh) : List (Input Sh) → List UInt8
  | [] => []
  | .command _ :: rest => received sh rest
  | .receive other chunk :: rest => if other = sh then chunk.data ++ received sh rest else received sh rest

theorem received_concat (sh : Sh) (inputs : List (Input Sh)) (chunk : Chunk) :
    received sh (inputs ++ [.receive sh chunk]) = received sh inputs ++ chunk.data := by
  induction inputs with
  | nil => simp [received]
  | cons i rest ih =>
    cases i with
    | command other => exact ih
    | receive other cut =>
      rw [List.cons_append, received, received, ih]
      split
      · rw [List.append_assoc]
      · rfl

/-- The bytes that lines of the echo show as numbers. -/
def numbers (lines : List ShellLine) : List Int :=
  lines.filterMap fun
    | .info "%02x " [.num c] => some c
    | _ => none

theorem numbers_echo (data : List UInt8) : numbers (echo data) = data.map (fun c => (c.toNat : Int)) := by
  simp [numbers, echo, List.filterMap_append, List.filterMap_map]

variable {sh : Sh}

/-- From a state in bypass mode on, with the byte before as what came before. -/
theorem open_until_escape {s : Sample Sh} (opened : Open sh s) (inputs : List (Input Sh)) :
    Always step (fun s => s.bypass sh = true) s inputs ↔ ¬ Pair CHAR_1 CHAR_2 (s.tail :: received sh inputs) := by
  have its : ∀ {s : Sample Sh}, Open sh s → s.bypass sh = true := fun opened => (opened.only sh).mpr rfl
  induction inputs generalizing s with
  | nil =>
    have alone : ¬ Pair CHAR_1 CHAR_2 (s.tail :: received sh []) := by
      rw [pair_cons_iff]
      simp [received, not_pair_nil]
    exact ⟨fun _ => alone, fun _ => its opened⟩
  | cons i rest ih =>
    rw [Always, and_iff_right (its opened)]
    cases i with
    | command other =>
      rw [(command_open opened other).1]
      exact ih opened
    | receive other chunk =>
      by_cases own : other = sh
      · subst own
        rw [received, if_pos rfl, ← List.cons_append]
        rcases receive_own opened chunk with ⟨found, ended, _⟩ | ⟨absent, still, last, _⟩
        · -- the mode has ended, and the pair is in what was received
          have notOn : ¬ Always step (fun s => s.bypass other = true) (step s (.receive other chunk)).1 rest := by
            intro always
            have head := always.head
            rw [ended.none other] at head
            cases head
          have pair : Pair CHAR_1 CHAR_2 (s.tail :: chunk.data ++ received other rest) := by
            rw [pair_append_iff]
            exact .inl found
          exact ⟨fun always => absurd always notOn, fun none => absurd pair none⟩
        · refine (ih still).trans (not_congr ?_)
          have carried : (s.tail :: chunk.data).getLast? = some (step s (.receive other chunk)).1.tail := by
            rw [← last]
            exact List.getLast?_cons_cons
          rw [pair_append_last carried, or_iff_right absent]
      · rw [receive_other opened own, received, if_neg own]
        exact ih opened

/-- As long as the mode is on, what is received is echoed. -/
theorem open_echoes {s : Sample Sh} (opened : Open sh s) (inputs : List (Input Sh))
    (always : Always step (fun s => s.bypass sh = true) s inputs) :
    (outputs step s inputs).flatMap numbers = (received sh inputs).map (fun c => (c.toNat : Int)) ∧
      Open sh (final step s inputs) := by
  induction inputs generalizing s with
  | nil => exact ⟨rfl, opened⟩
  | cons i rest ih =>
    have later := always.2
    rw [outputs_cons, List.flatMap_cons, final_cons]
    cases i with
    | command other =>
      have silent : numbers (step s (.command other)).2 = [] := by
        simp [step, cmd_bypass, set_bypass, opened.taken, numbers]
      rw [(command_open opened other).1] at later ⊢
      rw [silent]
      exact ih opened later
    | receive other chunk =>
      by_cases own : other = sh
      · subst own
        rcases receive_own opened chunk with ⟨_, ended, _⟩ | ⟨_, still, _, echoed⟩
        · have head := later.head
          rw [ended.none other] at head
          cases head
        · obtain ⟨same, ends⟩ := ih still later
          rw [echoed, numbers_echo, same, received, if_pos rfl, List.map_append]
          exact ⟨rfl, ends⟩
      · rw [receive_other opened own] at later ⊢
        rw [received, if_neg own]
        exact ih opened later

/-- **The escape sequence.** A shell that the command puts into bypass mode stays
    there, whatever the other shells do meanwhile, exactly until ctrl-x ctrl-q is
    somewhere in what it has received, however that was cut into chunks. Until
    then all that it received is echoed, and nothing of the last chunk is. -/
theorem bypass_until_escape (before : List (Input Sh)) (sh : Sh)
    (accepted : (cmd_bypass sh (final step zeroed before)).2.2 = 0) (inputs : List (Input Sh)) :
    let s := (step (final step zeroed before) (.command sh)).1
    let on := Always step (fun s => s.bypass sh = true) s
    (on inputs ↔ ¬ Pair CHAR_1 CHAR_2 (received sh inputs)) ∧
    (on inputs → (outputs step s inputs).flatMap numbers = (received sh inputs).map (fun c => (c.toNat : Int))) ∧
    (∀ chunk, on inputs → Pair CHAR_1 CHAR_2 (received sh inputs ++ chunk.data) →
      (step (final step s inputs) (.receive sh chunk)).2 = [.print "Exit bypass" []]) := by
  intro s on
  have idle : Idle (final step zeroed before) := by
    rcases session_kept before with idle | ⟨holder, opened⟩
    · exact idle
    · rw [(command_open opened sh).2] at accepted
      simp [EBUSY] at accepted
  obtain ⟨opened, fresh, _⟩ := command_idle idle sh
  have whole (inputs : List (Input Sh)) : on inputs ↔ ¬ Pair CHAR_1 CHAR_2 (received sh inputs) := by
    refine (open_until_escape opened inputs).trans (not_congr ?_)
    rw [pair_cons_iff, fresh]
    simp [CHAR_1]
  refine ⟨whole inputs, fun always => (open_echoes opened inputs always).1, ?_⟩
  intro chunk always pair
  have still : Open sh (final step s inputs) := (open_echoes opened inputs always).2
  rcases receive_own still chunk with ⟨_, _, said⟩ | ⟨_, kept, _⟩
  · exact said
  · have longer : on (inputs ++ [.receive sh chunk]) := always.concat ((kept.only sh).mpr rfl)
    rw [whole, received_concat] at longer
    exact absurd pair longer

/-- Two shells, and the sequence cut in the middle. -/
def cutInputs : List (Input Bool) := [.receive true ⟨0x61, [0x18]⟩, .command false]

theorem bypass_until_escape_cut :
    let s := (step (final step (zeroed : Sample Bool) []) (.command true)).1
    let on := Always step (fun s => s.bypass true = true) s
    (on cutInputs ↔ ¬ Pair CHAR_1 CHAR_2 (received true cutInputs)) ∧
    (on cutInputs → (outputs step s cutInputs).flatMap numbers = (received true cutInputs).map (fun c => (c.toNat : Int))) ∧
    (∀ chunk, on cutInputs → Pair CHAR_1 CHAR_2 (received true cutInputs ++ chunk.data) →
      (step (final step s cutInputs) (.receive true chunk)).2 = [.print "Exit bypass" []]) :=
  bypass_until_escape [] true (by decide) cutInputs

end ZephyrWorkshop.Bypass
