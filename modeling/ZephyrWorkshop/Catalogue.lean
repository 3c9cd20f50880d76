import ZephyrWorkshop.DynamicCmd

/-!
What the dynamic commands are for, beside the table that holds them: a set of
names, shown in ascending order. The table gives the answers of the set in every
session in which no removal finds something behind a full table
(`refines_catalogue`). In any other session only `add` can answer otherwise, and
then what a removal found there is the cause (`deviation_cause`).
-/

namespace ZephyrWorkshop.Catalogue
open ZephyrWorkshop.Zephyr ZephyrWorkshop.Mealy ZephyrWorkshop.SortedSet
open ZephyrWorkshop.DynamicCmd

/-- The answer of a set of names to `add`. The empty name is refused as if it were known. -/
def add (known : Finset CString) (name : CString) : Finset CString × ShellAnswer :=
  if known.card = MAX_CMD_CNT then (known, failed "command limit reached" [])
  else if MAX_CMD_LEN ≤ name.length then (known, failed "too long command" [])
  else if ¬ Alphanumeric name then
    (known, failed "bad command name - please use only alphanumerical characters" [])
  else if name = [] ∨ name ∈ known then (known, failed "duplicated command" [])
  else (insert name known, ([.print "command added successfully" []], 0))

/-- The list of a set of names. -/
def listing (known : Finset CString) : ShellAnswer :=
  if known.card = 0 then ([.warn "Please add some commands first." []], -ENOEXEC)
  else
    (.print "Dynamic command list:" [] ::
      (known.sort (· ≤ ·)).zipIdx.map (fun row => .print "[%3d] %s" [.num row.2, .str row.1]), 0)

/-- The commands, on a set of names. -/
def catalogue (known : Finset CString) : Command → Finset CString × ShellAnswer
  | .add argv1 => add known argv1.text
  | .execute argv0 argv1 =>
    (known,
      if argv1 ∈ known then ([.print "dynamic command: %s" [.str argv1]], 0)
      else failed "%s: unknown parameter: %s" [.str argv0, .str argv1])
  | .remove argv1 _ =>
    if argv1 ∈ known then (known.erase argv1, ([.print "command removed successfully" []], 0))
    else (known, failed "did not find command: %s" [.str argv1])
  | .show => (known, listing known)

/-! ### The names in use are a set -/

theorem shows_zeroed : Shows (names zeroed) ∅ := Shows.empty

section
variable {s : CmdTable} {known : Finset CString}

theorem shows_store {name : CString} (shown : Shows (names s) known) (new : name ∉ names s)
    (short : name.length < MAX_CMD_LEN) (room : s.dynamic_cmd_cnt < MAX_CMD_CNT) :
    Shows (names (store s name short room)) (insert name known) := by
  rw [names_store]
  exact shown.insert (by rwa [← shown.members]) (List.perm_append_singleton _ _)

theorem shows_unstore {argv1 : CString} {behind : Row} {idx : Nat} (shown : Shows (names s) known)
    (found : search argv1 s = some idx) :
    Shows (names (unstore behind s idx (search_lt found))) (known.erase argv1) := by
  rw [names_unstore]
  exact shown.erase (search_some found)

theorem shows_card (shown : Shows (names s) known) : known.card = s.dynamic_cmd_cnt := by
  rw [← shown.length, length_names]

theorem show_eq (shown : Shows (names s) known) : cmd_dynamic_show s = listing known := by
  have same : s.dynamic_cmd_buffer.take s.dynamic_cmd_cnt = known.sort (· ≤ ·) := shows_iff_eq.mp shown
  rw [cmd_dynamic_show, listing, shows_card shown, same]

theorem execute_agrees (shown : Shows (names s) known) (argv0 argv1 : CString) :
    exec s (.execute argv0 argv1) = (s, (catalogue known (.execute argv0 argv1)).2) := by
  simp only [exec, catalogue, execute_eq, shown.members]

/-- A removal answers as the set does and leaves the names of the set. -/
theorem remove_agrees (shown : Shows (names s) known) (argv1 : CString) (behind : Row) :
    (exec s (.remove argv1 behind)).2 = (catalogue known (.remove argv1 behind)).2 ∧
      Shows (names (exec s (.remove argv1 behind)).1) (catalogue known (.remove argv1 behind)).1 := by
  simp only [exec, catalogue]
  rcases remove_cases argv1 behind s with ⟨idx, found, member, done⟩ | ⟨absent, done⟩
  · rw [done, if_pos ((shown.members argv1).mp member)]
    exact ⟨rfl, shows_unstore shown found⟩
  · rw [done, if_neg (mt (shown.members argv1).mpr absent)]
    exact ⟨rfl, shown⟩

/-- `add` answers as the set does and leaves the names of the set, unless a row
    that is not in use is not empty and its text, or the empty name, is added. -/
theorem add_agrees (shown : Shows (names s) known) {P : CString → Prop} (rest : ∀ row ∈ unused s, row = [] ∨ P row)
    (argv1 : Argument) :
    ((exec s (.add argv1)).2 = (catalogue known (.add argv1)).2 ∧
      Shows (names (exec s (.add argv1)).1) (catalogue known (.add argv1)).1) ∨
    ∃ row, P row ∧ row ≠ [] ∧ (argv1.text = [] ∨ argv1.text = row) := by
  have card := shows_card shown
  have buffer : argv1.text ∈ s.dynamic_cmd_buffer ↔ argv1.text ∈ names s ∨ argv1.text ∈ unused s := by
    rw [← List.mem_append, names_append_unused]
  simp only [exec, catalogue, add]
  rcases add_cases argv1 s with ⟨full, done⟩ | ⟨room, long, done⟩ | ⟨room, fits, bad, done⟩ |
    ⟨room, fits, plain, known_, done⟩ | ⟨room, fits, plain, new, done⟩
  · rw [done, if_pos (by omega)]
    exact .inl ⟨rfl, shown⟩
  · rw [done, if_neg (by omega), if_pos long]
    exact .inl ⟨rfl, shown⟩
  · rw [done, if_neg (by omega), if_neg (by omega), if_pos bad]
    exact .inl ⟨rfl, shown⟩
  · rw [done, if_neg (by omega), if_neg (by omega), if_neg (not_not.mpr plain)]
    by_cases expected : argv1.text = [] ∨ argv1.text ∈ known
    · rw [if_pos expected]
      exact .inl ⟨rfl, shown⟩
    · -- the text is that of a row which is not in use
      obtain ⟨nonempty, absent⟩ := not_or.mp expected
      rcases buffer.mp known_ with inUse | stale
      · exact absurd ((shown.members _).mp inUse) absent
      · rcases rest _ stale with empty | cause
        · exact absurd empty nonempty
        · exact .inr ⟨argv1.text, cause, nonempty, .inr rfl⟩
  · obtain ⟨notUsed, notStale⟩ := not_or.mp (mt buffer.mpr new)
    rw [done, if_neg (by omega), if_neg (by omega), if_neg (not_not.mpr plain)]
    by_cases empty : argv1.text = []
    · -- no row is empty, and there is one which is not in use
      have positive : 0 < (unused s).length := by rw [length_unused]; omega
      obtain ⟨row, member⟩ := List.exists_mem_of_length_pos positive
      have nonempty : row ≠ [] := by
        rintro rfl
        rw [empty] at notStale
        exact notStale member
      exact .inr ⟨row, (rest row member).resolve_left nonempty, nonempty, .inl empty⟩
    · rw [if_neg (not_or.mpr ⟨empty, mt (shown.members _).mpr notUsed⟩)]
      exact .inl ⟨rfl, shows_store shown notUsed fits room⟩

end

/-! ### Whatever lies behind the table -/

/-- The set of names that the answers of a session report. -/
def report (known : Finset CString) (c : Command) (answer : ShellAnswer) : Finset CString :=
  if answer.2 ≠ 0 then known
  else
    match c with
    | .add argv1 => insert argv1.text known
    | .remove argv1 _ => known.erase argv1
    | _ => known

def reported (commands : List Command) : Finset CString :=
  noted report ∅ commands (outputs exec zeroed commands)

/-- Names are alphanumeric and fit into a row. -/
def Names (known : Finset CString) : Prop := ∀ name ∈ known, Alphanumeric name ∧ name.length < MAX_CMD_LEN

/-- What a command reports is what it did to the names in use. -/
theorem exec_reports {s : CmdTable} {known : Finset CString} (c : Command) (shown : Shows (names s) known)
    (wellFormed : Names known) :
    Shows (names (exec s c).1) (report known c (exec s c).2) ∧ Names (report known c (exec s c).2) := by
  have failure (format : String) (args : List ShellArg) : report known c (failed format args) = known := by
    simp [report, failed, ENOEXEC]
  cases c with
  | add argv1 =>
    simp only [exec]
    rcases add_cases argv1 s with ⟨_, done⟩ | ⟨_, _, done⟩ | ⟨_, _, _, done⟩ | ⟨_, _, _, _, done⟩ |
      ⟨room, fits, plain, new, done⟩
    · rw [done, failure]
      exact ⟨shown, wellFormed⟩
    · rw [done, failure]
      exact ⟨shown, wellFormed⟩
    · rw [done, failure]
      exact ⟨shown, wellFormed⟩
    · rw [done, failure]
      exact ⟨shown, wellFormed⟩
    · have notUsed : argv1.text ∉ names s := fun member => new (List.mem_of_mem_take member)
      rw [done]
      refine ⟨shows_store shown notUsed fits room, ?_⟩
      intro name member
      rcases Finset.mem_insert.mp member with rfl | old
      · exact ⟨plain, fits⟩
      · exact wellFormed name old
  | execute argv0 argv1 =>
    have same : report known (.execute argv0 argv1) (exec s (.execute argv0 argv1)).2 = known := by simp [report]
    rw [same]
    exact ⟨shown, wellFormed⟩
  | remove argv1 behind =>
    simp only [exec]
    rcases remove_cases argv1 behind s with ⟨idx, found, _, done⟩ | ⟨_, done⟩
    · rw [done]
      refine ⟨shows_unstore shown found, ?_⟩
      intro name member
      exact wellFormed name (Finset.mem_of_mem_erase member)
    · rw [done, failure]
      exact ⟨shown, wellFormed⟩
  | «show» =>
    have same : report known .show (exec s .show).2 = known := by simp [report]
    rw [same]
    exact ⟨shown, wellFormed⟩

theorem session_reports (commands : List Command) :
    Shows (names (final exec zeroed commands)) (reported commands) ∧ Names (reported commands) := by
  refine final_noted (R := fun s known => Shows (names s) known ∧ Names known) ?_ commands ?_
  · rintro s known c ⟨shown, wellFormed⟩
    exact exec_reports c shown wellFormed
  · exact ⟨shows_zeroed, by simp [Names]⟩

/-- **Completion.** After every session, whatever lies behind the table, the names
    that the answers report are at most 20, alphanumeric and of at most 32
    characters, and the shell reads exactly these, in ascending order. -/
theorem completion_sound (commands : List Command) :
    (reported commands).card ≤ MAX_CMD_CNT ∧ Names (reported commands) ∧
    (∀ idx, dynamic_cmd_get idx (final exec zeroed commands) = ((reported commands).sort (· ≤ ·))[idx]?) ∧
    ∀ argv0 argv1, (cmd_dynamic_execute argv0 argv1 (final exec zeroed commands)).2 = 0 ↔ argv1 ∈ reported commands := by
  obtain ⟨shown, wellFormed⟩ := session_reports commands
  refine ⟨?_, wellFormed, ?_, ?_⟩
  · rw [shows_card shown]
    exact (final exec zeroed commands).bounded
  · intro idx
    rw [dynamic_cmd_get_eq, shows_iff_eq.mp shown]
  · intro argv0 argv1
    rw [execute_eq, ← shown.members]
    by_cases inUse : argv1 ∈ names (final exec zeroed commands)
    · simp [inUse]
    · simp [inUse, failed, ENOEXEC]

/-! ### Refinement -/

/-- A removal that reads behind the table finds nothing there. -/
def ReadsEmpty (s : CmdTable) : Command → Prop
  | .remove argv1 behind => ReadsBehind s argv1 → behind.text = []
  | _ => True

instance decidableReadsEmpty (s : CmdTable) (c : Command) : Decidable (ReadsEmpty s c) :=
  match c with
  | .add _ => .isTrue trivial
  | .execute _ _ => .isTrue trivial
  | .remove _ _ => inferInstanceAs (Decidable (_ → _))
  | .show => .isTrue trivial

/-- The table holds the set, and its other rows are empty. -/
structure Holds (s : CmdTable) (known : Finset CString) : Prop where
  shown : Shows (names s) known
  rest : ∀ row ∈ unused s, row = []

/-- The rows that are not in use after a command: old ones, empty ones, and what a
    removal found behind the full table. -/
theorem unused_exec {s : CmdTable} {c : Command} {row : CString} (member : row ∈ unused (exec s c).1) :
    row ∈ unused s ∨ row = [] ∨ ∃ argv1 behind, c = .remove argv1 behind ∧ ReadsBehind s argv1 ∧ row = behind.text := by
  cases c with
  | add argv1 =>
    simp only [exec] at member
    rcases add_cases argv1 s with ⟨_, done⟩ | ⟨_, _, done⟩ | ⟨_, _, _, done⟩ | ⟨_, _, _, _, done⟩ |
      ⟨room, fits, _, _, done⟩
    · exact .inl (by rwa [done] at member)
    · exact .inl (by rwa [done] at member)
    · exact .inl (by rwa [done] at member)
    · exact .inl (by rwa [done] at member)
    · rw [done, unused_store] at member
      exact .inl (List.mem_of_mem_drop member)
  | execute argv0 argv1 => exact .inl member
  | remove argv1 behind =>
    simp only [exec] at member
    rcases remove_cases argv1 behind s with ⟨idx, found, _, done⟩ | ⟨_, done⟩
    · rw [done] at member
      rcases unused_unstore behind found row member with cleared | old | ⟨reads, same⟩
      · exact .inr (.inl cleared)
      · exact .inl old
      · exact .inr (.inr ⟨argv1, behind, rfl, reads, same⟩)
    · exact .inl (by rwa [done] at member)
  | «show» => exact .inl member

/-- The other rows stay empty. -/
theorem Holds.unused_exec {s : CmdTable} {known : Finset CString} {c : Command} (holds : Holds s known)
    (empty : ReadsEmpty s c) : ∀ row ∈ unused (exec s c).1, row = [] := by
  intro row member
  rcases Catalogue.unused_exec member with old | cleared | ⟨argv1, behind, rfl, reads, rfl⟩
  · exact holds.rest row old
  · exact cleared
  · exact empty reads

theorem exec_simulates {s : CmdTable} {known : Finset CString} {c : Command} (holds : Holds s known)
    (empty : ReadsEmpty s c) :
    (exec s c).2 = (catalogue known c).2 ∧ Holds (exec s c).1 (catalogue known c).1 := by
  have rest := holds.unused_exec empty
  have shown := holds.shown
  cases c with
  | add argv1 =>
    have agrees := add_agrees shown (P := fun _ => False) (fun row member => .inl (holds.rest row member)) argv1
    rcases agrees with ⟨same, next⟩ | ⟨_, impossible, _⟩
    · exact ⟨same, next, rest⟩
    · exact impossible.elim
  | execute argv0 argv1 =>
    rw [execute_agrees shown] at rest ⊢
    exact ⟨rfl, shown, rest⟩
  | remove argv1 behind =>
    obtain ⟨same, next⟩ := remove_agrees shown argv1 behind
    exact ⟨same, next, rest⟩
  | «show» => exact ⟨show_eq shown, shown, rest⟩

/-- **Refinement.** In every session in which no removal finds something behind
    the full table, every answer is that of the set of names. -/
theorem refines_catalogue (commands : List Command) (empty : EachInput exec ReadsEmpty zeroed commands) :
    outputs exec zeroed commands = outputs catalogue ∅ commands ∧
      Shows (names (final exec zeroed commands)) (final catalogue ∅ commands) := by
  have started : Holds zeroed ∅ := ⟨shows_zeroed, fun row member => List.eq_of_mem_replicate (List.mem_of_mem_drop member)⟩
  obtain ⟨answers, holds⟩ := refines (fun _ _ _ => exec_simulates) started empty
  exact ⟨answers, holds.shown⟩

/-- Two names, one of them twice, a removal and the list. -/
def shortSession : List Command :=
  [.add ⟨"led".toList, by decide⟩, .add ⟨"button".toList, by decide⟩, .add ⟨"led".toList, by decide⟩, .show,
    .remove "led".toList ⟨"x".toList, by decide⟩, .execute "execute".toList "led".toList]

theorem refines_catalogue_short :
    outputs exec zeroed shortSession = outputs catalogue ∅ shortSession ∧
      Shows (names (final exec zeroed shortSession)) (final catalogue ∅ shortSession) :=
  refines_catalogue shortSession (by decide +kernel)

/-! ### Where the table differs from the set -/

/-- Some removal of the session found this text behind the full table. -/
def FoundBehind (commands : List Command) (text : CString) : Prop :=
  ∃ before argv1 behind after, commands = before ++ .remove argv1 behind :: after ∧
    ReadsBehind (final exec zeroed before) argv1 ∧ behind.text = text

theorem FoundBehind.later {commands : List Command} {text : CString} (found : FoundBehind commands text) (c : Command) :
    FoundBehind (commands ++ [c]) text := by
  obtain ⟨before, argv1, behind, after, rfl, reads, same⟩ := found
  exact ⟨before, argv1, behind, after ++ [c], by simp, reads, same⟩

/-- The rows that are not in use are empty or were found behind the table. -/
theorem unused_found (commands : List Command) :
    ∀ row ∈ unused (final exec zeroed commands), row = [] ∨ FoundBehind commands row := by
  induction commands using List.reverseRecOn with
  | nil =>
    intro row member
    exact .inl (List.eq_of_mem_replicate (List.mem_of_mem_drop member))
  | append_singleton commands c ih =>
    intro row member
    rw [final_concat] at member
    rcases unused_exec member with old | cleared | ⟨argv1, behind, rfl, reads, same⟩
    · exact (ih row old).imp_right fun found => found.later c
    · exact .inl cleared
    · exact .inr ⟨commands, argv1, behind, [], rfl, reads, same.symm⟩

/-- **Deviation.** After every session, a command that does not answer as the set
    of the names in use does is an `add`, and an earlier removal found behind the
    full table a text that is not empty: the one added, or any if it is the empty
    name that is added. -/
theorem deviation_cause (commands : List Command) (c : Command)
    (differs : (exec (final exec zeroed commands) c).2 ≠ (catalogue (reported commands) c).2) :
    ∃ argv1 text, c = .add argv1 ∧ FoundBehind commands text ∧ text ≠ [] ∧ (argv1.text = [] ∨ argv1.text = text) := by
  obtain ⟨shown, _⟩ := session_reports commands
  cases c with
  | add argv1 =>
    rcases add_agrees shown (unused_found commands) argv1 with ⟨same, _⟩ | ⟨text, found, nonempty, cause⟩
    · exact absurd same differs
    · exact ⟨argv1, text, rfl, found, nonempty, cause⟩
  | execute argv0 argv1 =>
    rw [execute_agrees shown] at differs
    exact absurd rfl differs
  | remove argv1 behind => exact absurd (remove_agrees shown argv1 behind).1 differs
  | «show» => exact absurd (show_eq shown) differs

/-- Twenty names, and a removal that finds a text behind them. -/
def fullSession : List Command :=
  "abcdefghijklmnopqrst".toList.map (fun c => .add ⟨[c], by simp⟩) ++ [.remove "a".toList ⟨"z".toList, by decide⟩]

/-- The name `z` is refused, though the table does not have it. -/
theorem deviation_cause_full :
    ∃ argv1 text, Command.add ⟨"z".toList, by decide⟩ = .add argv1 ∧ FoundBehind fullSession text ∧ text ≠ [] ∧
      (argv1.text = [] ∨ argv1.text = text) := by
  refine deviation_cause fullSession (.add ⟨"z".toList, by decide⟩) ?_
  have refused : (exec (final exec zeroed fullSession) (.add ⟨"z".toList, by decide⟩)).2 =
      failed "duplicated command" [] := by decide +kernel
  have accepted : (catalogue (reported fullSession) (.add ⟨"z".toList, by decide⟩)).2 =
      ([.print "command added successfully" []], 0) := by decide +kernel
  rw [refused, accepted]
  decide

end ZephyrWorkshop.Catalogue
