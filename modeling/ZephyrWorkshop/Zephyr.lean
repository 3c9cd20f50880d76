import Mathlib.Tactic.Common
import ZephyrWorkshop.Printf

/-!
What the modelled code takes from Zephyr and from the C library: error codes,
C strings, the lines a shell command prints, the bit and rounding macros, and
the kernel timer. A kernel timer is known only by what its documentation says
of it, so the components that use one are modelled over every such timer. The
messages of the application's two channels, from `message_channel.h`, are here
as well.
-/

namespace ZephyrWorkshop.Zephyr

/-- The error codes that the modelled code returns, without their numbers. -/
inductive Errno
  | EInval
  | ERange
  | ENotSup
  | EIo
  | ENoDev
  | ENoEnt
deriving DecidableEq, Repr

/-- What a C function returns as `0` or as a negative error code. -/
abbrev Status := Except Errno Unit

/-- A C string: the characters before its terminator. -/
abbrev CString := List Char

/-- The character that `*pos` reads; the terminator at the end of the string. -/
def CString.head (pos : CString) : Char := pos.headD (Char.ofNat 0)

/-- An argument of a shell format string. -/
inductive ShellArg
  | str (text : CString)
  | num (value : Int)
  | err (code : Errno)
deriving DecidableEq, Repr

/-- A line that a command writes: `shell_error`, `shell_warn`, `shell_print` or `shell_info`. -/
inductive ShellLine
  | error (format : String) (args : List ShellArg)
  | warn (format : String) (args : List ShellArg)
  | print (format : String) (args : List ShellArg)
  | info (format : String) (args : List ShellArg)
deriving DecidableEq, Repr

/-- The lines of a command and its return value. -/
abbrev ShellAnswer := List ShellLine × Int

def ENOEXEC : Int := 8

def EBUSY : Int := 16

/-- What a line reads like; `number` gives the error codes their numbers. -/
def ShellArg.arg (number : Errno → Int) : ShellArg → Printf.Arg
  | .str text => .str text
  | .num value => .num value
  | .err code => .num (number code)

def ShellLine.text (number : Errno → Int) : ShellLine → CString
  | .error format args | .warn format args | .print format args | .info format args =>
    Printf.printf format (args.map (·.arg number))

/-- `1ULL << n` -/
def BIT64 (n : Nat) : UInt64 := 1 <<< UInt64.ofNat n

/-- `DIV_ROUND_CLOSEST` where both operands are unsigned. -/
def DIV_ROUND_CLOSEST (n d : UInt64) : UInt64 := (n + d / 2) / d

def DIV_ROUND_UP (n d : UInt64) : UInt64 := (n + d - 1) / d

/-! ### The messages of the application -/

/-- `enum sys_states`, the message of `sys_ctl_ch`. -/
inductive SysState
  | Sleep
  | Active
deriving DecidableEq, Repr

/-- `enum sys_events` -/
inductive SysEvent
  | ButtonPressed
  | SensorReading
  | TempAlert
deriving DecidableEq, Repr

/-- `struct event_msg`, the message of `event_ch`. Its sensor payload is left out:
    no listener that is implemented reads it. -/
structure EventMsg where
  event : SysEvent
deriving DecidableEq, Repr

/-! ### Kernel timers -/

/-- The calls on a `k_timer` whose contents are a `Timer`. `zeroed` is the
    contents of static storage, `period` what the timer was last started with,
    and `expire` what the kernel itself does to a running timer before it calls
    the expiry function. -/
structure KTimer (Timer : Type*) where
  zeroed : Timer
  k_timer_init : Timer → Timer
  k_timer_start : Timer → Nat → Nat → Timer
  k_timer_stop : Timer → Timer
  expire : Timer → Timer
  running : Timer → Bool
  period : Timer → Nat

/-- What the documentation promises: a timer runs from its start until its stop,
    but a period of zero makes its first expiry the last one. -/
structure KTimer.Documented {Timer : Type*} (k : KTimer Timer) : Prop where
  init_stopped : ∀ t, k.running (k.k_timer_init t) = false
  start_runs : ∀ t duration period, k.running (k.k_timer_start t duration period) = true
  start_period : ∀ t duration period, k.period (k.k_timer_start t duration period) = period
  stop_stopped : ∀ t, k.running (k.k_timer_stop t) = false
  expire_running : ∀ t, k.running t = true → k.running (k.expire t) = decide (0 < k.period t)
  expire_period : ∀ t, k.period (k.expire t) = k.period t

/-- A timer of which only the period is kept, and that only while it runs. -/
def statusTimer : KTimer (Option Nat) where
  zeroed := none
  k_timer_init _ := none
  k_timer_start _ _ period := some period
  k_timer_stop _ := none
  expire
    | some 0 => none
    | t => t
  running t := t.isSome
  period t := t.getD 0

theorem statusTimer_documented : statusTimer.Documented where
  init_stopped _ := rfl
  start_runs _ _ _ := rfl
  start_period _ _ _ := rfl
  stop_stopped _ := rfl
  expire_running
    | some 0, _ => rfl
    | some (_ + 1), _ => by simp [statusTimer]
    | none, stopped => by cases stopped
  expire_period
    | some 0 => rfl
    | some (_ + 1) => rfl
    | none => rfl

end ZephyrWorkshop.Zephyr
