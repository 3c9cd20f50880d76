import ZephyrWorkshop.HdcShell
import ZephyrWorkshop.Track

/-!
The shell command `sensor latest` of `sim_test_track`, and its temperature read
back by the parser of the emulator's shell. The command writes the sign apart
from the digits, since the quotient of a number between -1 and 0 degrees has
none, and what it writes is a numeral that denotes the temperature exactly.
-/

namespace ZephyrWorkshop.TrackShell
open ZephyrWorkshop.Zephyr ZephyrWorkshop.Track ZephyrWorkshop.HdcShell ZephyrWorkshop.Decimal ZephyrWorkshop.Printf
open ZephyrWorkshop.Words

/-! ### The command -/

def sensor_event_state_str : SensorEventState → String
  | .Idle => "IDLE"
  | .Success => "SUCCESS"
  | .Error => "ERROR"

/-- The arguments of the conversions `%s%d.%03d` for a temperature. -/
def temperature_args (temperature_milli_c : Int32) : List ShellArg :=
  [.str (if temperature_milli_c < 0 then "-".toList else []), .num (temperature_milli_c / 1000).abs.toInt,
    .num (temperature_milli_c % 1000).abs.toInt]

/-- The lines that the command writes and what it returns, by what
    `zbus_chan_read` returns: its error, or the latest event. -/
def cmd_sensor_latest (read : Except Int SensorEvent) : List ShellLine × Int :=
  match read with
  | .error err => ([], err)
  | .ok event =>
    if event.state = .Error then ([.print "Sensor state: ERROR (%d)" [.num event.error]], 0)
    else
      (.print "Sensor state: %s" [.str (sensor_event_state_str event.state).toList] ::
        if event.state = .Success then
          [.print "Temperature: %s%d.%03d C" (temperature_args event.temperature_milli_c),
            .print "Humidity: %d.%03d %%"
              [.num (event.humidity_milli_percent / 1000).toInt, .num (event.humidity_milli_percent % 1000).abs.toInt]]
        else [], 0)

/-- The number in the line of the temperature. -/
def number_text (temperature_milli_c : Int32) : CString :=
  printf "%s%d.%03d" ((temperature_args temperature_milli_c).map (·.arg fun _ => 0))

/-! ### The arguments -/

theorem abs_toInt {x : Int32} (bounded : -2 ^ 31 < x.toInt) : x.abs.toInt = x.toInt.natAbs := by
  have notMin : x.toBitVec ≠ BitVec.intMin 32 := by
    intro same
    have value : x.toInt = (BitVec.intMin 32).toInt := congrArg BitVec.toInt same
    rw [show (BitVec.intMin 32).toInt = -2 ^ 31 by decide] at value
    omega
  exact BitVec.toInt_abs_eq_natAbs_of_ne_intMin notMin

theorem quotient_natAbs (m : Int32) : (m / 1000).toInt.natAbs = m.toInt.natAbs / 1000 :=
  natAbs_quotient m (by decide)

theorem remainder_natAbs (m : Int32) : (m % 1000).toInt.natAbs = m.toInt.natAbs % 1000 :=
  natAbs_remainder m 1000

/-- Neither `abs` overflows: the quotient and the remainder are far from `INT32_MIN`. -/
theorem abs_quotient (m : Int32) : (m / 1000).abs.toInt = (m.toInt.natAbs / 1000 : Nat) := by
  have low := m.le_toInt
  have high := m.toInt_lt
  have small := quotient_natAbs m
  rw [abs_toInt (by omega), small]

theorem abs_remainder (m : Int32) : (m % 1000).abs.toInt = (m.toInt.natAbs % 1000 : Nat) := by
  have small := remainder_natAbs m
  rw [abs_toInt (by omega), small]

/-! ### The numeral -/

theorem number_text_eq (m : Int32) : number_text m = (fixedPoint 3 m.toInt).text := by
  have whole : decimal 0 (m / 1000).abs.toInt = zeroPadded 0 (m.toInt.natAbs / 10 ^ 3) := by
    rw [abs_quotient, decimal_nonnegative 0 (Int.natCast_nonneg _), Int.natAbs_natCast]
    rfl
  have fraction : decimal 3 (m % 1000).abs.toInt = zeroPadded 3 (m.toInt.natAbs % 10 ^ 3) := by
    rw [abs_remainder, decimal_nonnegative 3 (Int.natCast_nonneg _), Int.natAbs_natCast]
    rfl
  have sign : m < 0 ↔ m.toInt < 0 := Int32.lt_iff_toInt_lt
  have pieces : pieces none "%s%d.%03d".toList = [.str, .int 0, .text '.', .int 3] := by decide
  rw [number_text, printf, pieces]
  simp only [temperature_args, List.map_cons, List.map_nil, ShellArg.arg, render, whole, fraction, List.append_nil]
  rw [fixedPoint_text]
  by_cases negative : m.toInt < 0 <;> simp [sign, negative]

/-- The numeral is the temperature in thousandths of a degree. -/
theorem micro_fixedPoint (n : Int) : micro (fixedPoint 3 n) = n * 1000 := by
  have sign := fixedPoint_sign 3 n
  have split := Nat.div_add_mod n.natAbs (10 ^ 3)
  have length : (fixedPoint 3 n).places.length = 3 := fixedPoint_length (by decide) n
  have thousandths : ((n.natAbs / 10 ^ 3 : Nat) : Int) * 10 ^ 6 + ((n.natAbs % 10 ^ 3 : Nat) : Int) * 10 ^ (6 - 3) =
      (n.natAbs : Int) * 1000 := by omega
  rw [micro, fixedPoint_whole, fixedPoint_places, length, thousandths, ← mul_assoc, sign]

/-- The parser reads back what the command printed. -/
theorem parse_number_text (m : Int32) (value : Int64) :
    parse_micro (number_text m) value = (Int64.ofInt (m.toInt * 1000), .ok ()) := by
  have length : (fixedPoint 3 m.toInt).places.length = 3 := fixedPoint_length (by decide) _
  have low := m.le_toInt
  have high := m.toInt_lt
  rw [number_text_eq, parse_micro_text, fixedPoint_whole, length, micro_fixedPoint, if_neg (by omega),
    if_neg (by omega)]

theorem parsed_toInt (m : Int32) : (Int64.ofInt (m.toInt * 1000)).toInt = m.toInt * 1000 := by
  have low := m.le_toInt
  have high := m.toInt_lt
  exact Int64.toInt_ofInt_of_le (by omega) (by omega)

theorem number_text_injective {m other : Int32} (same : number_text m = number_text other) : m = other := by
  have parsed := (parse_number_text m 0).symm.trans (same ▸ parse_number_text other 0)
  have values := congrArg (fun result => result.1.toInt) parsed
  dsimp only at values
  rw [parsed_toInt, parsed_toInt] at values
  exact Int32.toInt_inj.mp (by omega)

/-- The line of the temperature, in front of the number and behind it. -/
theorem temperature_line (number : Errno → Int) {event : SensorEvent} (success : event.state = .Success) :
    ((cmd_sensor_latest (.ok event)).1.map (·.text number))[1]? =
      some ("Temperature: ".toList ++ (number_text event.temperature_milli_c ++ " C".toList)) := by
  have line : ((cmd_sensor_latest (.ok event)).1.map (·.text number))[1]? = some (printf "Temperature: %s%d.%03d C"
      ((temperature_args event.temperature_milli_c).map (·.arg number))) := by
    simp only [cmd_sensor_latest, success]
    rfl
  have number_pieces : pieces none "%s%d.%03d".toList = [.str, .int 0, .text '.', .int 3] := by decide
  have line_pieces : pieces none "Temperature: %s%d.%03d C".toList =
      "Temperature: ".toList.map .text ++ [.str, .int 0, .text '.', .int 3, .text ' ', .text 'C'] := by decide
  rw [line, number_text, printf, printf, number_pieces, line_pieces, render_text]
  simp [temperature_args, ShellArg.arg, render]

/-- Rendering a temperature and parsing it are inverse, for every number of
    thousandths of a degree: the parser accepts the number in the line of the
    temperature and returns it in millionths. Different temperatures have
    different numbers, the sign of a temperature between -1 and 0 degrees is
    written, and neither `abs` overflows. -/
theorem temperature_round_trip (m : Int32) :
    (∀ value, parse_micro (number_text m) value = (Int64.ofInt (m.toInt * 1000), .ok ())) ∧
    (Int64.ofInt (m.toInt * 1000)).toInt = m.toInt * 1000 ∧
    (∀ other, number_text other = number_text m → other = m) ∧
    (-1000 < m.toInt → m.toInt < 0 → (number_text m).head? = some '-') ∧
    (m / 1000).abs.toInt = |(m / 1000).toInt| ∧ (m % 1000).abs.toInt = |(m % 1000).toInt| ∧
    ∀ number event, event.state = .Success → event.temperature_milli_c = m →
      ((cmd_sensor_latest (.ok event)).1.map (·.text number))[1]? =
        some ("Temperature: ".toList ++ (number_text m ++ " C".toList)) := by
  refine ⟨parse_number_text m, parsed_toInt m, fun other => number_text_injective, ?_, ?_, ?_, ?_⟩
  · intro _ below
    rw [number_text_eq, fixedPoint_text, if_pos below]
    rfl
  · rw [abs_quotient, ← quotient_natAbs, Int.natCast_natAbs]
  · rw [abs_remainder, ← remainder_natAbs, Int.natCast_natAbs]
  · rintro number event success rfl
    exact temperature_line number success

end ZephyrWorkshop.TrackShell
