import Mathlib.Data.Char
import Mathlib.Data.List.Lex
import ZephyrWorkshop.Mealy
import ZephyrWorkshop.SortedSet
import ZephyrWorkshop.Zephyr

/-!
The dynamic commands of the shell sample, `samples/04_shell/src/dynamic_cmd.c`:
a table of names that commands add to and remove from, and that the shell reads
for its completion. Removing a name from a full table moves one row more than
the table has, so what lies behind the table is part of that action. Whatever it
is, the names in use stay ascending (`completion_sound`, in the module after this
one), since the row that is read too far ends up behind them.
-/

namespace ZephyrWorkshop.DynamicCmd
open ZephyrWorkshop.Zephyr ZephyrWorkshop.Mealy ZephyrWorkshop.SortedSet

def MAX_CMD_CNT : Nat := 20

def MAX_CMD_LEN : Nat := 33

/-- The rows of `dynamic_cmd_buffer`, each up to its terminator, and
    `dynamic_cmd_cnt`. A row in use has a terminator; a row that has none is all of
    its bytes. -/
structure CmdTable where
  dynamic_cmd_buffer : List CString
  dynamic_cmd_cnt : Nat
  size : dynamic_cmd_buffer.length = MAX_CMD_CNT
  bounded : dynamic_cmd_cnt ≤ MAX_CMD_CNT
  fits : ∀ row ∈ dynamic_cmd_buffer, row.length ≤ MAX_CMD_LEN
  terminated : ∀ row ∈ dynamic_cmd_buffer.take dynamic_cmd_cnt, row.length < MAX_CMD_LEN
deriving DecidableEq

/-- Static storage. -/
def zeroed : CmdTable where
  dynamic_cmd_buffer := List.replicate MAX_CMD_CNT []
  dynamic_cmd_cnt := 0
  size := List.length_replicate
  bounded := Nat.zero_le _
  fits row member := by
    rw [List.eq_of_mem_replicate member]
    decide
  terminated row member := by
    rw [List.eq_of_mem_replicate (List.mem_of_mem_take member)]
    decide

/-- An argument of a shell command, whose length fits into a `uint16_t`. -/
structure Argument where
  text : CString
  short : text.length < 65536
deriving DecidableEq

/-- What lies behind the table, as one more row, with or without a terminator. -/
structure Row where
  text : CString
  fits : text.length ≤ MAX_CMD_LEN
deriving DecidableEq

/-- One of the two is always shorter than a row, so that the bytes of a row without
    a terminator are enough to tell them apart. -/
def strcmp (a b : CString) : Int := if a = b then 0 else if a < b then -1 else 1

def string_cmp (p_a p_b : CString) : Int := strcmp p_a p_b

def isalnum (c : Char) : Bool := c.isAlphanum

/-- `qsort` of the first rows. -/
def qsort (n : Nat) (cmp : CString → CString → Int) (rows : List CString) : List CString :=
  (rows.take n).insertionSort (fun a b => cmp a b ≤ 0) ++ rows.drop n

/-- `memmove` of so many rows from one index to another, where one row more than
    the table has can be read. -/
def memmove (dst src n : Nat) (behind : CString) (rows : List CString) : List CString :=
  rows.take dst ++ ((rows ++ [behind]).drop src).take n ++ rows.drop (dst + n)

/-- An error is written and nothing is executed. -/
def failed (format : String) (args : List ShellArg) : ShellAnswer := ([.error format args], -ENOEXEC)

theorem length_qsort (n : Nat) (cmp : CString → CString → Int) (rows : List CString) :
    (qsort n cmp rows).length = rows.length := by
  rw [qsort, List.length_append, List.length_insertionSort, ← List.length_append, List.take_append_drop]

theorem mem_qsort {n : Nat} {cmp : CString → CString → Int} {rows : List CString} {row : CString} :
    row ∈ qsort n cmp rows ↔ row ∈ rows := by
  rw [qsort, List.mem_append, List.mem_insertionSort, ← List.mem_append, List.take_append_drop]

theorem length_memmove {dst n : Nat} {rows : List CString} (behind : CString) (inside : dst + n ≤ rows.length) :
    (memmove dst (dst + 1) n behind rows).length = rows.length := by
  simp only [memmove, List.length_append, List.length_take, List.length_drop, List.length_singleton]
  omega

/-- The rows that the moved ones come up to: one of them is gone. -/
theorem memmove_take (dst n : Nat) (rows : List CString) (behind : CString) (inside : dst + n ≤ rows.length)
    (positive : 0 < n) :
    (memmove dst (dst + 1) n behind rows).take (dst + n - 1) = (rows.take (dst + n)).eraseIdx dst := by
  apply List.ext_getElem?
  intro i
  simp only [memmove, List.getElem?_take, List.getElem?_append, List.length_append, List.length_take, List.getElem?_drop,
    List.length_drop, List.length_singleton, List.getElem?_eraseIdx]
  grind

/-- The rows from there on: the last one moved is there twice. -/
theorem memmove_drop (dst n : Nat) (rows : List CString) (behind : CString) (inside : dst + n ≤ rows.length)
    (positive : 0 < n) :
    (memmove dst (dst + 1) n behind rows).drop (dst + n - 1) =
      rows[dst + n]?.getD behind :: rows.drop (dst + n) := by
  apply List.ext_getElem?
  intro i
  simp only [memmove, List.getElem?_take, List.getElem?_append, List.length_append, List.length_take, List.getElem?_drop,
    List.length_drop, List.length_singleton, List.getElem?_cons]
  grind

theorem mem_memmove {dst src n : Nat} {behind row : CString} {rows : List CString}
    (member : row ∈ memmove dst src n behind rows) : row ∈ rows ∨ row = behind := by
  rw [memmove, List.mem_append, List.mem_append] at member
  rcases member with (kept | moved) | kept
  · exact .inl (List.mem_of_mem_take kept)
  · have read := List.mem_of_mem_drop (List.mem_of_mem_take moved)
    rwa [List.mem_append, List.mem_singleton] at read
  · exact .inl (List.mem_of_mem_drop kept)

/-- The rows in use after a name is written into the next row and they are sorted. -/
theorem qsort_set_take {n : Nat} {rows : List CString} (inside : n < rows.length) (cmp : CString → CString → Int)
    (name : CString) :
    (qsort (n + 1) cmp (rows.set n name)).take (n + 1) =
      (rows.take n ++ [name]).insertionSort (fun a b => cmp a b ≤ 0) := by
  have placed : (rows.set n name).take (n + 1) = rows.take n ++ [name] := by
    rw [List.take_add_one, List.take_set_of_le le_rfl, List.getElem?_set_self inside]
    rfl
  have length : (rows.take n ++ [name]).length = n + 1 := by
    rw [List.length_append, List.length_take, List.length_singleton, Nat.min_eq_left inside.le]
  rw [qsort, placed, List.take_left' (by rw [List.length_insertionSort, length])]

/-- `sprintf` into the next row, and the sorting. -/
def store (s : CmdTable) (name : CString) (short : name.length < MAX_CMD_LEN)
    (room : s.dynamic_cmd_cnt < MAX_CMD_CNT) : CmdTable where
  dynamic_cmd_buffer := qsort (s.dynamic_cmd_cnt + 1) string_cmp (s.dynamic_cmd_buffer.set s.dynamic_cmd_cnt name)
  dynamic_cmd_cnt := s.dynamic_cmd_cnt + 1
  size := by rw [length_qsort, List.length_set, s.size]
  bounded := room
  fits row member := by
    rcases List.mem_or_eq_of_mem_set (mem_qsort.mp member) with old | rfl
    · exact s.fits row old
    · exact short.le
  terminated row member := by
    rw [qsort_set_take (by rw [s.size]; exact room), List.mem_insertionSort, List.mem_append,
      List.mem_singleton] at member
    rcases member with old | rfl
    · exact s.terminated row old
    · exact short

def cmd_dynamic_add (argv1 : Argument) (s : CmdTable) : CmdTable × ShellAnswer :=
  let cmd_len := argv1.text.length % 65536
  if limit : s.dynamic_cmd_cnt ≥ MAX_CMD_CNT then (s, failed "command limit reached" [])
  else if long : cmd_len ≥ MAX_CMD_LEN then (s, failed "too long command" [])
  else if (argv1.text.take cmd_len).any (fun c => !isalnum c) then
    (s, failed "bad command name - please use only alphanumerical characters" [])
  else if s.dynamic_cmd_buffer.any (fun row => strcmp row argv1.text = 0) then (s, failed "duplicated command" [])
  else
    (store s argv1.text (by have := argv1.short; omega) (by omega), ([.print "command added successfully" []], 0))

/-- The first row in use with this name. -/
def search (argv1 : CString) (s : CmdTable) : Option Nat :=
  (s.dynamic_cmd_buffer.take s.dynamic_cmd_cnt).findIdx? (fun row => strcmp row argv1 = 0)

def cmd_dynamic_execute (argv0 argv1 : CString) (s : CmdTable) : ShellAnswer :=
  match search argv1 s with
  | some _ => ([.print "dynamic command: %s" [.str argv1]], 0)
  | none => failed "%s: unknown parameter: %s" [.str argv0, .str argv1]

/-- The rows after a removal at an index. -/
def unstored (behind : Row) (s : CmdTable) (idx : Nat) : List CString :=
  if idx = MAX_CMD_CNT - 1 then s.dynamic_cmd_buffer.set idx []
  else memmove idx (idx + 1) (s.dynamic_cmd_cnt - idx) behind.text s.dynamic_cmd_buffer

theorem length_unstored {behind : Row} {s : CmdTable} {idx : Nat} (inside : idx < s.dynamic_cmd_cnt) :
    (unstored behind s idx).length = MAX_CMD_CNT := by
  have bounded := s.bounded
  have size := s.size
  unfold unstored
  split
  · rw [List.length_set, size]
  · rw [length_memmove _ (by omega), size]

theorem mem_unstored {behind : Row} {s : CmdTable} {idx : Nat} {row : CString} (member : row ∈ unstored behind s idx) :
    row ∈ s.dynamic_cmd_buffer ∨ row = [] ∨ row = behind.text := by
  unfold unstored at member
  split at member
  · rcases List.mem_or_eq_of_mem_set member with old | cleared
    · exact .inl old
    · exact .inr (.inl cleared)
  · rcases mem_memmove member with old | read
    · exact .inl old
    · exact .inr (.inr read)

/-- The rows that are still in use: the one at the index is gone. -/
theorem unstored_take (behind : Row) {s : CmdTable} {idx : Nat} (inside : idx < s.dynamic_cmd_cnt) :
    (unstored behind s idx).take (s.dynamic_cmd_cnt - 1) =
      (s.dynamic_cmd_buffer.take s.dynamic_cmd_cnt).eraseIdx idx := by
  have size := s.size
  have bounded := s.bounded
  unfold unstored
  split
  · rename_i last
    -- the table is full and its last row is cleared
    have full : s.dynamic_cmd_cnt = idx + 1 := by simp only [MAX_CMD_CNT] at *; omega
    rw [full, Nat.add_sub_cancel, List.take_set_of_le le_rfl, List.take_add_one]
    have kept : (s.dynamic_cmd_buffer.take idx).length = idx := by rw [List.length_take]; omega
    rw [List.eraseIdx_append_of_length_le kept.le, kept, Nat.sub_self]
    cases s.dynamic_cmd_buffer[idx]? <;> simp
  · have moved := memmove_take idx (s.dynamic_cmd_cnt - idx) s.dynamic_cmd_buffer behind.text (by omega) (by omega)
    rwa [Nat.add_sub_cancel' inside.le] at moved

def unstore (behind : Row) (s : CmdTable) (idx : Nat) (inside : idx < s.dynamic_cmd_cnt) : CmdTable where
  dynamic_cmd_buffer := unstored behind s idx
  dynamic_cmd_cnt := s.dynamic_cmd_cnt - 1
  size := length_unstored inside
  bounded := (Nat.sub_le _ _).trans s.bounded
  fits row member := by
    rcases mem_unstored member with old | rfl | rfl
    · exact s.fits row old
    · decide
    · exact behind.fits
  terminated row member := by
    rw [unstored_take behind inside] at member
    exact s.terminated row (List.mem_of_mem_eraseIdx member)

theorem search_lt {argv1 : CString} {s : CmdTable} {idx : Nat} (found : search argv1 s = some idx) :
    idx < s.dynamic_cmd_cnt := by
  obtain ⟨inside, _⟩ := List.findIdx?_eq_some_iff_getElem.mp found
  rw [List.length_take] at inside
  omega

def cmd_dynamic_remove (argv1 : CString) (behind : Row) (s : CmdTable) : CmdTable × ShellAnswer :=
  match found : search argv1 s with
  | some idx => (unstore behind s idx (search_lt found), ([.print "command removed successfully" []], 0))
  | none => (s, failed "did not find command: %s" [.str argv1])

def cmd_dynamic_show (s : CmdTable) : ShellAnswer :=
  if s.dynamic_cmd_cnt = 0 then ([.warn "Please add some commands first." []], -ENOEXEC)
  else
    (.print "Dynamic command list:" [] ::
      (s.dynamic_cmd_buffer.take s.dynamic_cmd_cnt).zipIdx.map
        (fun row => .print "[%3d] %s" [.num row.2, .str row.1]), 0)

/-- `entry->syntax`, where `none` is `NULL`. -/
def dynamic_cmd_get (idx : Nat) (s : CmdTable) : Option CString :=
  if idx < s.dynamic_cmd_cnt then s.dynamic_cmd_buffer[idx]? else none

/-- A command of `m_sub_dynamic`. What lies behind the table matters to a removal only. -/
inductive Command
  | add (argv1 : Argument)
  | execute (argv0 argv1 : CString)
  | remove (argv1 : CString) (behind : Row)
  | show
deriving DecidableEq

def exec (s : CmdTable) : Command → CmdTable × ShellAnswer
  | .add argv1 => cmd_dynamic_add argv1 s
  | .execute argv0 argv1 => (s, cmd_dynamic_execute argv0 argv1 s)
  | .remove argv1 behind => cmd_dynamic_remove argv1 behind s
  | .show => (s, cmd_dynamic_show s)

/-! ### The names in use -/

/-- The rows that `dynamic_cmd_cnt` says are in use. -/
def names (s : CmdTable) : List CString := s.dynamic_cmd_buffer.take s.dynamic_cmd_cnt

/-- The rows after them. -/
def unused (s : CmdTable) : List CString := s.dynamic_cmd_buffer.drop s.dynamic_cmd_cnt

theorem length_names (s : CmdTable) : (names s).length = s.dynamic_cmd_cnt := by
  have size := s.size
  have bounded := s.bounded
  rw [names, List.length_take]
  omega

theorem length_unused (s : CmdTable) : (unused s).length = MAX_CMD_CNT - s.dynamic_cmd_cnt := by
  rw [unused, List.length_drop, s.size]

theorem names_append_unused (s : CmdTable) : names s ++ unused s = s.dynamic_cmd_buffer := List.take_append_drop _ _

@[simp] theorem strcmp_eq_zero {a b : CString} : strcmp a b = 0 ↔ a = b := by
  unfold strcmp
  split
  · simp [*]
  · split <;> simp [*]

/-- `string_cmp` sorts by the order of the strings. -/
@[simp] theorem string_cmp_le {a b : CString} : string_cmp a b ≤ 0 ↔ a ≤ b := by
  unfold string_cmp strcmp
  split
  · simp [*]
  · rename_i different
    split
    · rename_i less
      simp [less.le]
    · rename_i notLess
      have notLe : ¬ a ≤ b := fun le => notLess (lt_of_le_of_ne le different)
      simp [notLe]

theorem names_store (s : CmdTable) {name : CString} (short : name.length < MAX_CMD_LEN)
    (room : s.dynamic_cmd_cnt < MAX_CMD_CNT) :
    names (store s name short room) = (names s ++ [name]).insertionSort (· ≤ ·) := by
  have inside : s.dynamic_cmd_cnt < s.dynamic_cmd_buffer.length := by
    rw [s.size]
    exact room
  have inUse := qsort_set_take inside string_cmp name
  simp only [string_cmp_le] at inUse
  exact inUse

theorem unused_store (s : CmdTable) {name : CString} (short : name.length < MAX_CMD_LEN)
    (room : s.dynamic_cmd_cnt < MAX_CMD_CNT) : unused (store s name short room) = (unused s).drop 1 := by
  have size := s.size
  show List.drop (s.dynamic_cmd_cnt + 1) (qsort _ _ _) = _
  rw [qsort, List.drop_left', List.drop_set_of_lt (by omega), unused, List.drop_drop]
  rw [List.length_insertionSort, List.length_take, List.length_set]
  omega

/-- A search finds a name in use, and only such. -/
theorem search_some {argv1 : CString} {s : CmdTable} {idx : Nat} (found : search argv1 s = some idx) :
    (names s)[idx]? = some argv1 := by
  obtain ⟨inside, same, _⟩ := List.findIdx?_eq_some_iff_getElem.mp found
  rw [decide_eq_true_eq, strcmp_eq_zero] at same
  exact List.getElem?_eq_some_iff.mpr ⟨inside, same⟩

theorem search_none {argv1 : CString} {s : CmdTable} : search argv1 s = none ↔ argv1 ∉ names s := by
  rw [search, List.findIdx?_eq_none_iff]
  constructor
  · intro different member
    have := different argv1 member
    simp at this
  · rintro absent row member
    rw [decide_eq_false_iff_not, strcmp_eq_zero]
    rintro rfl
    exact absent member

theorem names_unstore (behind : Row) (s : CmdTable) (idx : Nat) (inside : idx < s.dynamic_cmd_cnt) :
    names (unstore behind s idx inside) = (names s).eraseIdx idx := unstored_take behind inside

/-- The removal reads a row behind the table: it is full, and the name is not in its last row. -/
def ReadsBehind (s : CmdTable) (argv1 : CString) : Prop :=
  s.dynamic_cmd_cnt = MAX_CMD_CNT ∧ argv1 ∈ names s ∧ search argv1 s ≠ some (MAX_CMD_CNT - 1)

instance decidableReadsBehind (s : CmdTable) (argv1 : CString) : Decidable (ReadsBehind s argv1) :=
  inferInstanceAs (Decidable (_ ∧ _))

theorem unused_unstore (behind : Row) {s : CmdTable} {argv1 : CString} {idx : Nat} (found : search argv1 s = some idx) :
    ∀ row ∈ unused (unstore behind s idx (search_lt found)),
      row = [] ∨ row ∈ unused s ∨ (ReadsBehind s argv1 ∧ row = behind.text) := by
  intro row member
  have size := s.size
  have bounded := s.bounded
  have inside := search_lt found
  change row ∈ (unstored behind s idx).drop (s.dynamic_cmd_cnt - 1) at member
  unfold unstored at member
  split at member
  · rename_i last
    -- only the row that is cleared is left
    have full : s.dynamic_cmd_cnt = idx + 1 := by simp only [MAX_CMD_CNT] at *; omega
    have one : (s.dynamic_cmd_buffer.drop idx).length = 1 := by
      rw [List.length_drop]
      omega
    obtain ⟨cleared, only⟩ := List.length_eq_one_iff.mp one
    rw [full, Nat.add_sub_cancel, List.drop_set, if_neg (lt_irrefl idx), Nat.sub_self, only] at member
    exact .inl (List.mem_singleton.mp member)
  · rename_i notLast
    have moved := memmove_drop idx (s.dynamic_cmd_cnt - idx) s.dynamic_cmd_buffer behind.text (by omega) (by omega)
    rw [Nat.add_sub_cancel' inside.le] at moved
    rw [moved] at member
    rcases List.mem_cons.mp member with rfl | kept
    · by_cases full : s.dynamic_cmd_cnt = MAX_CMD_CNT
      · rw [List.getElem?_eq_none (by omega), Option.getD_none]
        refine .inr (.inr ⟨⟨full, List.mem_of_getElem? (search_some found), ?_⟩, rfl⟩)
        rw [found, Ne, Option.some.injEq]
        exact notLast
      · have next : s.dynamic_cmd_cnt < s.dynamic_cmd_buffer.length := by omega
        refine .inr (.inl ?_)
        rw [List.getElem?_eq_getElem next, Option.getD_some, unused, List.drop_eq_getElem_cons next]
        exact List.mem_cons_self
    · exact .inr (.inl kept)

/-! ### What a command does -/

/-- A name that the table takes, if it is new. -/
def Alphanumeric (name : CString) : Prop := ∀ c ∈ name, isalnum c = true

instance decidableAlphanumeric (name : CString) : Decidable (Alphanumeric name) :=
  List.decidableBAll (fun c => isalnum c = true) name

/-- The answers of `add`, and when each is given. -/
theorem add_cases (argv1 : Argument) (s : CmdTable) :
    (s.dynamic_cmd_cnt = MAX_CMD_CNT ∧ cmd_dynamic_add argv1 s = (s, failed "command limit reached" [])) ∨
    (s.dynamic_cmd_cnt < MAX_CMD_CNT ∧ MAX_CMD_LEN ≤ argv1.text.length ∧
      cmd_dynamic_add argv1 s = (s, failed "too long command" [])) ∨
    (s.dynamic_cmd_cnt < MAX_CMD_CNT ∧ argv1.text.length < MAX_CMD_LEN ∧ ¬ Alphanumeric argv1.text ∧
      cmd_dynamic_add argv1 s =
        (s, failed "bad command name - please use only alphanumerical characters" [])) ∨
    (s.dynamic_cmd_cnt < MAX_CMD_CNT ∧ argv1.text.length < MAX_CMD_LEN ∧ Alphanumeric argv1.text ∧
      argv1.text ∈ s.dynamic_cmd_buffer ∧ cmd_dynamic_add argv1 s = (s, failed "duplicated command" [])) ∨
    ∃ room : s.dynamic_cmd_cnt < MAX_CMD_CNT, ∃ fits : argv1.text.length < MAX_CMD_LEN,
      Alphanumeric argv1.text ∧ argv1.text ∉ s.dynamic_cmd_buffer ∧
      cmd_dynamic_add argv1 s =
        (store s argv1.text fits room, ([.print "command added successfully" []], 0)) := by
  have whole : argv1.text.length % 65536 = argv1.text.length := Nat.mod_eq_of_lt argv1.short
  have bounded := s.bounded
  unfold cmd_dynamic_add
  simp only [whole, List.take_length]
  by_cases limit : s.dynamic_cmd_cnt ≥ MAX_CMD_CNT
  · rw [dif_pos limit]
    exact .inl ⟨by omega, rfl⟩
  rw [dif_neg limit]
  by_cases long : argv1.text.length ≥ MAX_CMD_LEN
  · rw [dif_pos long]
    exact .inr (.inl ⟨by omega, long, rfl⟩)
  rw [dif_neg long]
  have plain : argv1.text.any (fun c => !isalnum c) = true ↔ ¬ Alphanumeric argv1.text := by
    simp [Alphanumeric]
  have taken : s.dynamic_cmd_buffer.any (fun row => strcmp row argv1.text = 0) = true ↔
      argv1.text ∈ s.dynamic_cmd_buffer := by
    simp
  by_cases bad : Alphanumeric argv1.text
  · rw [if_neg (by rw [plain]; exact not_not.mpr bad)]
    by_cases known : argv1.text ∈ s.dynamic_cmd_buffer
    · rw [if_pos (taken.mpr known)]
      exact .inr (.inr (.inr (.inl ⟨by omega, by omega, bad, known, rfl⟩)))
    · rw [if_neg (mt taken.mp known)]
      exact .inr (.inr (.inr (.inr ⟨by omega, by omega, bad, known, rfl⟩)))
  · rw [if_pos (plain.mpr bad)]
    exact .inr (.inr (.inl ⟨by omega, by omega, bad, rfl⟩))

/-- The answers of `remove`, and when each is given. -/
theorem remove_cases (argv1 : CString) (behind : Row) (s : CmdTable) :
    (∃ idx, ∃ found : search argv1 s = some idx, argv1 ∈ names s ∧
      cmd_dynamic_remove argv1 behind s =
        (unstore behind s idx (search_lt found), ([.print "command removed successfully" []], 0))) ∨
    (argv1 ∉ names s ∧ cmd_dynamic_remove argv1 behind s = (s, failed "did not find command: %s" [.str argv1])) := by
  unfold cmd_dynamic_remove
  split
  · rename_i idx found
    exact .inl ⟨idx, found, List.mem_of_getElem? (search_some found), rfl⟩
  · rename_i none
    exact .inr ⟨search_none.mp none, rfl⟩

theorem execute_eq (argv0 argv1 : CString) (s : CmdTable) :
    cmd_dynamic_execute argv0 argv1 s =
      if argv1 ∈ names s then ([.print "dynamic command: %s" [.str argv1]], 0)
      else failed "%s: unknown parameter: %s" [.str argv0, .str argv1] := by
  unfold cmd_dynamic_execute
  cases found : search argv1 s with
  | none => rw [if_neg (search_none.mp found)]
  | some idx => rw [if_pos (List.mem_of_getElem? (search_some found))]

/-- Completion reads the names in use, in their order, and then `NULL`. -/
theorem dynamic_cmd_get_eq (idx : Nat) (s : CmdTable) : dynamic_cmd_get idx s = (names s)[idx]? := by
  rw [dynamic_cmd_get, names, List.getElem?_take]

end ZephyrWorkshop.DynamicCmd
