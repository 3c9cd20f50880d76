import ZephyrWorkshop.Printf
import ZephyrWorkshop.SensorLog
import ZephyrWorkshop.Words

/-!
What a line of `sensor_log history` says. The line starts with the time of its
entry and names its type, and both can be read back from it. The temperature is
split into a quotient and a remainder that are printed one after the other, each
with its own sign, so the line has a numeral for it unless both carry one or the
quotient has lost it.
-/

namespace ZephyrWorkshop.SensorLogLines
open ZephyrWorkshop.Zephyr ZephyrWorkshop.SensorLog ZephyrWorkshop.Decimal ZephyrWorkshop.Printf
open ZephyrWorkshop.Words

/-! ### Lines that say something -/

def SYS_SLEEP : Int32 := 0

/-- An entry that the log may hold: written after boot, with one of its types,
    and a system state where its type is that. -/
structure Valid (entry : LogEntry) : Prop where
  timestamp : 0 ≤ entry.timestamp.toInt
  type : entry.type = .State ∨ entry.type = .Sensor ∨ entry.type = .Alert
  state : entry.type = .State → entry.data = SYS_ACTIVE ∨ entry.data = SYS_SLEEP

/-- The time in front of a line. -/
def stamp (hours minutes seconds millis : CString) : CString :=
  '[' :: (hours ++ ':' :: (minutes ++ ':' :: (seconds ++ '.' :: (millis ++ "] ".toList))))

def tag : LogEntryType → CString
  | .State => "STATE    ".toList
  | .Sensor => "SENSOR   temp=".toList
  | .Alert => "ALERT    temp=".toList
  | .Other _ => []

def stateWord (data : Int32) : CString := if data = SYS_ACTIVE then "ACTIVE".toList else "SLEEP".toList

/-- A numeral with two places that denotes hundredths. -/
def DenotesHundredths (text : CString) (hundredths : Int) : Prop :=
  ∃ n : Numeral, n.text = text ∧ n.places.length = 2 ∧ n.value = hundredths / 100

/-- A text after the tag says the data of the entry. -/
def SaysData (text : CString) (entry : LogEntry) : Prop :=
  (entry.type = .State ∧ text = stateWord entry.data) ∨
    (entry.type ≠ .State ∧ ∃ number, text = number ++ " °C".toList ∧ DenotesHundredths number entry.data.toInt)

/-- A line says an entry: its time in hours, minutes, seconds and milliseconds,
    its type, and its data. -/
def Says (line : CString) (entry : LogEntry) : Prop :=
  ∃ hours minutes seconds millis text : CString,
    (∀ c ∈ hours ++ minutes ++ seconds ++ millis, Digit c) ∧
    natural minutes < 60 ∧ natural seconds < 60 ∧ natural millis < 1000 ∧
    (natural hours * 3600000 + natural minutes * 60000 + natural seconds * 1000 + natural millis : Nat) =
      entry.timestamp.toInt ∧
    line = stamp hours minutes seconds millis ++ (tag entry.type ++ text) ∧ SaysData text entry

/-- The line of an entry says it, and no other entry has the same line. -/
def Faithful (number : Errno → Int) (entry : LogEntry) : Prop :=
  ∃ line, (print_entry entry).map (·.text number) = [line] ∧ Says line entry ∧
    ∀ other, Valid other → (print_entry other).map (·.text number) = [line] → other = entry

/-! ### The line that is printed -/

def dataText (entry : LogEntry) : CString :=
  if entry.type = .State then stateWord entry.data
  else decimal 0 (entry.data / 100).toInt ++ '.' :: (decimal 2 (entry.data % 100).toInt ++ " °C".toList)

def printedLine (entry : LogEntry) : CString :=
  stamp (decimal 2 (entry.timestamp / 1000 / 3600).toInt) (decimal 2 (entry.timestamp / 1000 % 3600 / 60).toInt)
      (decimal 2 (entry.timestamp / 1000 % 60).toInt) (decimal 3 (entry.timestamp % 1000).toInt) ++
    (tag entry.type ++ dataText entry)

/-- The conversions of the time. -/
def timePieces : List Piece :=
  [.text '[', .int 2, .text ':', .int 2, .text ':', .int 2, .text '.', .int 3]

/-- A format that starts with the time and goes on with these characters. -/
theorem printf_stamped {format : String} (literal : List Char) {rest : List Piece}
    (split : pieces none format.toList = timePieces ++ (("] ".toList ++ literal).map .text ++ rest))
    (h m s f : Int) (args : List Arg) :
    printf format (.num h :: .num m :: .num s :: .num f :: args) =
      stamp (decimal 2 h) (decimal 2 m) (decimal 2 s) (decimal 3 f) ++ (literal ++ render rest args) := by
  rw [printf, split]
  simp only [timePieces, List.cons_append, List.nil_append, render, render_text, stamp, List.append_assoc]

/-- The conversions of a temperature. -/
def temperaturePieces : List Piece := [.int 0, .text '.', .int 2, .text ' ', .text '°', .text 'C']

theorem render_temperature (q r : Int) :
    render temperaturePieces [.num q, .num r] = decimal 0 q ++ '.' :: (decimal 2 r ++ " °C".toList) := rfl

theorem print_entry_line (number : Errno → Int) {entry : LogEntry} (valid : Valid entry) :
    (print_entry entry).map (·.text number) = [printedLine entry] := by
  obtain ⟨timestamp, type, data⟩ := entry
  have kind : type = .State ∨ type = .Sensor ∨ type = .Alert := valid.type
  rcases kind with rfl | rfl | rfl
  · have split : pieces none "[%02lld:%02lld:%02lld.%03lld] STATE    %s".toList =
        timePieces ++ (("] ".toList ++ "STATE    ".toList).map .text ++ [.str]) := by decide
    simp only [print_entry, ShellLine.text, ShellArg.arg, List.map_cons, List.map_nil, List.cons_append,
      List.nil_append, printf_stamped _ split, render, List.append_nil]
    rfl
  · have split : pieces none "[%02lld:%02lld:%02lld.%03lld] SENSOR   temp=%d.%02d °C".toList =
        timePieces ++ (("] ".toList ++ "SENSOR   temp=".toList).map .text ++ temperaturePieces) := by decide
    simp only [print_entry, ShellLine.text, ShellArg.arg, List.map_cons, List.map_nil, List.cons_append,
      List.nil_append, printf_stamped _ split, render_temperature]
    rfl
  · have split : pieces none "[%02lld:%02lld:%02lld.%03lld] ALERT    temp=%d.%02d °C".toList =
        timePieces ++ (("] ".toList ++ "ALERT    temp=".toList).map .text ++ temperaturePieces) := by decide
    simp only [print_entry, ShellLine.text, ShellArg.arg, List.map_cons, List.map_nil, List.cons_append,
      List.nil_append, printf_stamped _ split, render_temperature]
    rfl

/-! ### Reading a line back -/

/-- The four numbers of a stamp and what follows it can be told apart. -/
theorem stamp_injective {hours minutes seconds millis hours' minutes' seconds' millis' rest rest' : CString}
    (digits : ∀ c ∈ hours ++ minutes ++ seconds ++ millis, Digit c)
    (digits' : ∀ c ∈ hours' ++ minutes' ++ seconds' ++ millis', Digit c)
    (same : stamp hours minutes seconds millis ++ rest = stamp hours' minutes' seconds' millis' ++ rest') :
    hours = hours' ∧ minutes = minutes' ∧ seconds = seconds' ∧ millis = millis' ∧ rest = rest' := by
  have colon : ¬ Digit ':' := by decide
  have dot : ¬ Digit '.' := by decide
  have bracket : ¬ Digit ']' := by decide
  simp only [List.mem_append] at digits digits'
  simp only [stamp, List.cons_append, List.append_assoc, List.cons.injEq, true_and] at same
  obtain ⟨sameHours, afterHours⟩ := delimited (fun member => colon (digits _ (.inl (.inl (.inl member)))))
    (fun member => colon (digits' _ (.inl (.inl (.inl member))))) same
  obtain ⟨sameMinutes, afterMinutes⟩ := delimited (fun member => colon (digits _ (.inl (.inl (.inr member)))))
    (fun member => colon (digits' _ (.inl (.inl (.inr member))))) afterHours
  obtain ⟨sameSeconds, afterSeconds⟩ := delimited (fun member => dot (digits _ (.inl (.inr member))))
    (fun member => dot (digits' _ (.inl (.inr member)))) afterMinutes
  rw [show "] ".toList = [']', ' '] from rfl, List.cons_append, List.cons_append] at afterSeconds
  obtain ⟨sameMillis, afterMillis⟩ := delimited (fun member => bracket (digits _ (.inr member)))
    (fun member => bracket (digits' _ (.inr member))) afterSeconds
  exact ⟨sameHours, sameMinutes, sameSeconds, sameMillis, (List.cons.inj afterMillis).2⟩

/-- A quotient and a remainder that are printed with a point in between. -/
theorem split_injective {q r q' r' : Int} {rest : CString}
    (same : decimal 0 q ++ '.' :: (decimal 2 r ++ rest) = decimal 0 q' ++ '.' :: (decimal 2 r' ++ rest)) :
    q = q' ∧ r = r' := by
  have point : ∀ n, '.' ∉ decimal 0 n := notMem_decimal (by decide) (by decide) 0
  obtain ⟨quotients, rests⟩ := delimited (point q) (point q') same
  exact ⟨decimal_injective quotients, decimal_injective (List.append_cancel_right rests)⟩

/-! ### The time -/

/-- The numbers of a line whose time is not negative. -/
theorem time_fields {t : Int64} (nonnegative : 0 ≤ t.toInt) :
    (t / 1000 / 3600).toInt = t.toInt / 1000 / 3600 ∧ (t / 1000 % 3600 / 60).toInt = t.toInt / 1000 % 3600 / 60 ∧
      (t / 1000 % 60).toInt = t.toInt / 1000 % 60 ∧ (t % 1000).toInt = t.toInt % 1000 := by
  have thousand : (1000 : Int64).toInt = 1000 := by decide
  have hour : (3600 : Int64).toInt = 3600 := by decide
  have minute : (60 : Int64).toInt = 60 := by decide
  have seconds : (t / 1000).toInt = t.toInt / 1000 := by
    rw [toInt_quotient nonnegative (by decide), thousand]
  have rest : (t / 1000 % 3600).toInt = t.toInt / 1000 % 3600 := by
    rw [toInt_remainder _ (by omega), hour, seconds]
  refine ⟨?_, ?_, ?_, ?_⟩
  · rw [toInt_quotient (by omega) (by decide), hour, seconds]
  · rw [toInt_quotient (by omega) (by decide), minute, rest]
  · rw [toInt_remainder _ (by omega), minute, seconds]
  · rw [toInt_remainder _ nonnegative, thousand]

theorem stamp_digits {h m s f : Int} (hours : 0 ≤ h) (minutes : 0 ≤ m) (seconds : 0 ≤ s) (millis : 0 ≤ f) :
    ∀ c ∈ decimal 2 h ++ decimal 2 m ++ decimal 2 s ++ decimal 3 f, Digit c := by
  rw [decimal_nonnegative 2 hours, decimal_nonnegative 2 minutes, decimal_nonnegative 2 seconds,
    decimal_nonnegative 3 millis]
  simp only [List.mem_append]
  rintro c (((member | member) | member) | member) <;> exact zeroPadded_digits _ _ c member

/-- The stamp of an entry consists of digits and delimiters. -/
theorem time_digits {entry : LogEntry} (valid : Valid entry) :
    ∀ c ∈ decimal 2 (entry.timestamp / 1000 / 3600).toInt ++ decimal 2 (entry.timestamp / 1000 % 3600 / 60).toInt ++
      decimal 2 (entry.timestamp / 1000 % 60).toInt ++ decimal 3 (entry.timestamp % 1000).toInt, Digit c := by
  have nonnegative := valid.timestamp
  obtain ⟨hours, minutes, seconds, millis⟩ := time_fields nonnegative
  exact stamp_digits (by omega) (by omega) (by omega) (by omega)

/-! ### The temperature -/

theorem split_back (t : Int32) : 100 * (t / 100).toInt + (t % 100).toInt = t.toInt :=
  quotient_remainder t (by decide : (100 : Int32) ≠ -1)

/-- One sign at most: the quotient and the remainder are printed as a numeral. -/
theorem split_fixedPoint {t : Int32} (good : 0 ≤ t.toInt ∨ (t % 100).toInt = 0) :
    decimal 0 (t / 100).toInt ++ '.' :: decimal 2 (t % 100).toInt = (fixedPoint 2 t.toInt).text := by
  have back := split_back t
  have quotient : (t / 100).toInt.natAbs = t.toInt.natAbs / 10 ^ 2 := natAbs_quotient t (by decide)
  have remainder : (t % 100).toInt.natAbs = t.toInt.natAbs % 10 ^ 2 := natAbs_remainder t 100
  have places : 0 ≤ (t % 100).toInt := by
    rcases good with nonnegative | whole
    · exact remainder_nonnegative 100 nonnegative
    · omega
  rw [decimal_nonnegative 2 places, remainder, fixedPoint_text]
  by_cases negative : t.toInt < 0
  · rw [decimal_negative 0 (by omega), quotient, if_pos negative]
    rfl
  · rw [decimal_nonnegative 0 (by omega), quotient, if_neg negative]
    rfl

/-- No numeral has a sign after its point. -/
theorem split_not_numeral {t : Int32} (negative : (t % 100).toInt < 0) {n : Numeral} (two : n.places.length = 2) :
    n.text ≠ decimal 0 (t / 100).toInt ++ '.' :: decimal 2 (t % 100).toInt := by
  intro same
  have nonempty : n.places ≠ [] := List.ne_nil_of_length_pos (by omega)
  have after := (numeral_point (notMem_decimal (by decide) (by decide) 0 _) nonempty same).2
  rw [decimal_negative 2 negative] at after
  have sign : '-' ∈ n.places := after ▸ List.mem_cons_self
  exact absurd (n.places_digits _ sign) (by decide)

/-- The text of a temperature denotes it just if its remainder has no sign. -/
theorem split_denotes_iff (t : Int32) :
    DenotesHundredths (decimal 0 (t / 100).toInt ++ '.' :: decimal 2 (t % 100).toInt) t.toInt ↔
      0 ≤ t.toInt ∨ (t % 100).toInt = 0 := by
  constructor
  · rintro ⟨n, text, two, value⟩
    by_contra bad
    have sign : (t % 100).toInt ≤ 0 := remainder_nonpositive 100 (by omega)
    have negative : (t % 100).toInt < 0 := by omega
    exact split_not_numeral negative two text
  · intro good
    exact ⟨fixedPoint 2 t.toInt, (split_fixedPoint good).symm, fixedPoint_length (by decide) _,
      fixedPoint_value (by decide) _⟩

/-! ### Faithful lines -/

theorem tag_injective {type type' : LogEntryType} {text text' : CString}
    (known : type = .State ∨ type = .Sensor ∨ type = .Alert) (known' : type' = .State ∨ type' = .Sensor ∨ type' = .Alert)
    (same : tag type ++ text = tag type' ++ text') : type = type' ∧ text = text' := by
  have state : tag .State = ['S', 'T', 'A', 'T', 'E', ' ', ' ', ' ', ' '] := by decide
  have sensor : tag .Sensor = ['S', 'E', 'N', 'S', 'O', 'R', ' ', ' ', ' ', 't', 'e', 'm', 'p', '='] := by decide
  have alert : tag .Alert = ['A', 'L', 'E', 'R', 'T', ' ', ' ', ' ', ' ', 't', 'e', 'm', 'p', '='] := by decide
  rcases known with rfl | rfl | rfl <;> rcases known' with rfl | rfl | rfl <;>
    simp [state, sensor, alert] at same <;> exact ⟨rfl, same⟩

/-- The line of an entry says it just if the text of its data does. -/
theorem says_iff {entry : LogEntry} (valid : Valid entry) :
    Says (printedLine entry) entry ↔ SaysData (dataText entry) entry := by
  have digits := time_digits valid
  constructor
  · rintro ⟨hours, minutes, seconds, millis, text, digits', -, -, -, -, same, data⟩
    obtain ⟨-, -, -, -, rest⟩ := stamp_injective digits digits' same
    rwa [List.append_cancel_left rest]
  · intro data
    have nonnegative := valid.timestamp
    obtain ⟨hours, minutes, seconds, millis⟩ := time_fields nonnegative
    have readHours := natural_decimal 2 (n := (entry.timestamp / 1000 / 3600).toInt) (by omega)
    have readMinutes := natural_decimal 2 (n := (entry.timestamp / 1000 % 3600 / 60).toInt) (by omega)
    have readSeconds := natural_decimal 2 (n := (entry.timestamp / 1000 % 60).toInt) (by omega)
    have readMillis := natural_decimal 3 (n := (entry.timestamp % 1000).toInt) (by omega)
    exact ⟨_, _, _, _, _, digits, by omega, by omega, by omega, by omega, rfl, data⟩

theorem dataText_injective {entry other : LogEntry} (valid : Valid entry) (valid' : Valid other)
    (kinds : other.type = entry.type) (same : dataText other = dataText entry) : other.data = entry.data := by
  unfold dataText at same
  by_cases state : entry.type = .State
  · rw [if_pos state, if_pos (kinds.trans state)] at same
    have different : "SLEEP".toList ≠ "ACTIVE".toList := by decide
    rcases valid.state state with active | sleep <;>
      rcases valid'.state (kinds.trans state) with active' | sleep' <;>
      simp_all [stateWord, SYS_SLEEP, SYS_ACTIVE]
  · rw [if_neg state, if_neg (kinds ▸ state)] at same
    obtain ⟨quotients, remainders⟩ := split_injective same
    have back := split_back entry.data
    have back' := split_back other.data
    exact Int32.toInt_inj.mp (by omega)

/-- Two entries with one line are one entry. -/
theorem printedLine_injective {entry other : LogEntry} (valid : Valid entry) (valid' : Valid other)
    (same : printedLine other = printedLine entry) : other = entry := by
  obtain ⟨hours, minutes, seconds, millis, rest⟩ := stamp_injective (time_digits valid') (time_digits valid) same
  obtain ⟨types, texts⟩ := tag_injective valid'.type valid.type rest
  have data := dataText_injective valid valid' types texts
  have fields := time_fields valid.timestamp
  have fields' := time_fields valid'.timestamp
  have sameHours := decimal_injective hours
  have sameMinutes := decimal_injective minutes
  have sameSeconds := decimal_injective seconds
  have sameMillis := decimal_injective millis
  have times : other.timestamp = entry.timestamp := Int64.toInt_inj.mp (by omega)
  obtain ⟨timestamp, type, temperature⟩ := entry
  obtain ⟨timestamp', type', temperature'⟩ := other
  exact LogEntry.mk.injEq .. ▸ ⟨times, types, data⟩

/-- The text of the data says it just if it is a state or a temperature whose
    remainder has no sign. -/
theorem saysData_iff (entry : LogEntry) :
    SaysData (dataText entry) entry ↔ entry.type = .State ∨ 0 ≤ entry.data ∨ entry.data % 100 = 0 := by
  have denotes := split_denotes_iff entry.data
  have sign : 0 ≤ entry.data ↔ 0 ≤ entry.data.toInt := Int32.le_iff_toInt_le
  have remainder : entry.data % 100 = 0 ↔ (entry.data % 100).toInt = 0 := Int32.toInt_inj.symm
  rw [sign, remainder, ← denotes]
  unfold SaysData dataText
  by_cases state : entry.type = .State
  · simp [state]
  · rw [if_neg state]
    constructor
    · rintro (⟨isState, -⟩ | ⟨-, number, text, hundredths⟩)
      · exact .inl isState
      · rw [← List.cons_append, ← List.append_assoc] at text
        exact .inr (List.append_cancel_right text ▸ hundredths)
    · rintro (isState | hundredths)
      · exact absurd isState state
      · refine .inr ⟨state, _, ?_, hundredths⟩
        rw [List.append_assoc, List.cons_append]

/-- The line that `print_entry` prints for an entry says it, and no other entry
    has the same line, exactly if the entry has a state, a temperature that is
    not below zero, or a temperature of whole degrees. -/
theorem line_faithful_iff (number : Errno → Int) {entry : LogEntry} (valid : Valid entry) :
    Faithful number entry ↔ entry.type = .State ∨ 0 ≤ entry.data ∨ entry.data % 100 = 0 := by
  rw [← saysData_iff, ← says_iff valid]
  have printed := print_entry_line number valid
  constructor
  · rintro ⟨line, lines, said, -⟩
    rw [printed, List.cons.injEq] at lines
    rwa [lines.1]
  · intro said
    refine ⟨printedLine entry, printed, said, ?_⟩
    intro other valid' lines
    rw [print_entry_line number valid', List.cons.injEq] at lines
    exact printedLine_injective valid valid' lines.1

/-- 3.20 degrees, two seconds after boot. -/
theorem line_faithful_iff_fridge : Faithful (fun _ => 0) ⟨2000, .Sensor, 320⟩ :=
  (line_faithful_iff (fun _ => 0) ⟨by decide, by decide, by decide⟩).mpr (by decide)

/-- -5.25 degrees: the line has a second sign after the point. -/
theorem freezer_line_not_numeral :
    Valid ⟨5000, .Sensor, -525⟩ ∧
      (print_entry ⟨5000, .Sensor, -525⟩).map (·.text fun _ => 0) =
        ["[00:00:05.000] SENSOR   temp=-5.-25 °C".toList] ∧
      ¬ Faithful (fun _ => 0) ⟨5000, .Sensor, -525⟩ := by
  have valid : Valid ⟨5000, .Sensor, -525⟩ := ⟨by decide, by decide, by decide⟩
  refine ⟨valid, by decide, ?_⟩
  rintro ⟨line, lines, said, -⟩
  rw [print_entry_line _ valid, List.cons.injEq] at lines
  rw [← lines.1, says_iff valid, saysData_iff] at said
  revert said
  decide

end ZephyrWorkshop.SensorLogLines
