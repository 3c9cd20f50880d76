import Mathlib.Data.Fintype.Pi
import Mathlib.Tactic.Ring
import ZephyrWorkshop.Zephyr
import ZephyrWorkshop.Transition

/-!
The application's LED component, `app/src/components/led/led.c`: two LEDs, each
with its own mode, driven by one kernel timer. The state holds the static data
of the file and, for each LED, the level last written to its pin. A callback is
one atomic step; `gpio_pin_set_dt` succeeds.
-/

namespace ZephyrWorkshop.Led
open ZephyrWorkshop.Zephyr

def LED_TICK_MS : Nat := 10
def POWER_ON_TICKS : UInt32 := 5
def POWER_OFF_TICKS : UInt32 := 50
def PULSE_ON_TICKS : UInt32 := 5
def ALARM_ON_TICKS : UInt32 := 20
def ALARM_OFF_TICKS : UInt32 := 20
def ALARM_DURATION_TICKS : UInt32 := 300

/-- `led_mode_t` -/
inductive LedMode
  | Off
  | PowerSignal
  | SensorPulse
  | Alarm
deriving DecidableEq, Repr

/-- `led_instance_t`, without the pin that its `spec` names. -/
structure LedInstance where
  mode : LedMode
  tick_count : UInt32
  duration_ticks : UInt32
  state : Bool
deriving DecidableEq, Repr

/-- The LEDs are counted from zero. -/
instance neZero_leds : NeZero 2 := ⟨by decide⟩

/-- `leds`, the level last written to the pin of each LED, and `led_timer`. -/
structure LedComponent (Timer : Type*) where
  leds : Fin 2 → LedInstance
  pins : Fin 2 → Bool
  led_timer : Timer

variable {Timer : Type*} (k : KTimer Timer)

/-- The static data before `led_init`; the levels of the pins are not known. -/
def zeroed (pins : Fin 2 → Bool) : LedComponent Timer :=
  ⟨fun _ => ⟨.Off, 0, 0, false⟩, pins, k.zeroed⟩

/-- An assignment to the fields of one LED. -/
def LedComponent.setLed (s : LedComponent Timer) (i : Fin 2) (led : LedInstance) : LedComponent Timer :=
  { s with leds := Function.update s.leds i led }

def mode_needs_timer (mode : LedMode) : Bool := mode ≠ .Off

def any_led_needs_timer (s : LedComponent Timer) : Bool :=
  mode_needs_timer (s.leds 0).mode || mode_needs_timer (s.leds 1).mode

def update_timer_state (s : LedComponent Timer) : LedComponent Timer :=
  if any_led_needs_timer s then
    { s with led_timer := k.k_timer_start s.led_timer LED_TICK_MS LED_TICK_MS }
  else
    { s with led_timer := k.k_timer_stop s.led_timer }

def set_led_state (s : LedComponent Timer) (i : Fin 2) (state : Bool) : LedComponent Timer :=
  { s.setLed i { s.leds i with state := state } with pins := Function.update s.pins i state }

/-- The switch of `update_led`: the component after it, and `new_state`. -/
def update_led_mode (s : LedComponent Timer) (i : Fin 2) : LedComponent Timer × Bool :=
  let led := s.leds i
  match led.mode with
  | .Off => (s, false)
  | .PowerSignal =>
    (s.setLed i { led with tick_count := led.tick_count + 1 },
      led.tick_count % (POWER_ON_TICKS + POWER_OFF_TICKS) < POWER_ON_TICKS)
  | .SensorPulse =>
    if led.tick_count < PULSE_ON_TICKS then
      (s.setLed i { led with tick_count := led.tick_count + 1 }, true)
    else
      (update_timer_state k (s.setLed i { led with mode := .Off, tick_count := 0 }), false)
  | .Alarm =>
    let tick_count := led.tick_count + 1
    if tick_count ≥ led.duration_ticks then
      (update_timer_state k
        (s.setLed i { led with mode := .Off, tick_count := 0, duration_ticks := 0 }), false)
    else
      (s.setLed i { led with tick_count := tick_count },
        led.tick_count % (ALARM_ON_TICKS + ALARM_OFF_TICKS) < ALARM_ON_TICKS)

def update_led (s : LedComponent Timer) (i : Fin 2) : LedComponent Timer :=
  let (s, new_state) := update_led_mode k s i
  if new_state ≠ (s.leds i).state then set_led_state s i new_state else s

def led_timer_handler (s : LedComponent Timer) : LedComponent Timer :=
  update_led k (update_led k s 0) 1

def set_led_mode (s : LedComponent Timer) (led_idx : UInt8) (mode : LedMode) : LedComponent Timer :=
  if inside : led_idx.toNat < 2 then
    let i : Fin 2 := ⟨led_idx.toNat, inside⟩
    if (s.leds i).mode = mode then s
    else
      let s := s.setLed i { s.leds i with mode := mode, tick_count := 0 }
      let s := if mode = .Alarm then
          s.setLed i { s.leds i with duration_ticks := ALARM_DURATION_TICKS } else s
      let s := if mode = .Off then set_led_state s i false else s
      update_timer_state k s
  else s

def led_sys_ctl_cb (s : LedComponent Timer) (state : SysState) : LedComponent Timer :=
  if state = .Sleep then set_led_mode k s 0 .Off else set_led_mode k s 0 .PowerSignal

def led_event_cb (s : LedComponent Timer) (msg : EventMsg) : LedComponent Timer :=
  match msg.event with
  | .SensorReading => set_led_mode k s 1 .SensorPulse
  | .TempAlert => set_led_mode k s 1 .Alarm
  | .ButtonPressed => s

/-! ### The shell -/

def led_mode_to_str : LedMode → String
  | .Off => "OFF"
  | .PowerSignal => "POWER_SIGNAL"
  | .SensorPulse => "SENSOR_PULSE"
  | .Alarm => "ALARM"

/-- The mode that the third argument of `led set` names. -/
def mode_of_arg (arg : CString) : Option LedMode :=
  if arg = "off".toList then some .Off
  else if arg = "power".toList then some .PowerSignal
  else if arg = "pulse".toList then some .SensorPulse
  else if arg = "alarm".toList then some .Alarm
  else none

def cmd_led_set (s : LedComponent Timer) (argv : List CString) :
    LedComponent Timer × Status × List ShellLine :=
  match argv with
  | [_, index, arg] =>
    -- `argv[1][0] - '0'`, narrowed to `uint8_t`
    let led_idx : UInt8 := UInt8.ofNat index.head.toNat - 48
    if led_idx > 1 then
      (s, .error .EInval, [.error "Invalid LED index: %s (use 0 or 1)" [.str index]])
    else
      match mode_of_arg arg with
      | none => (s, .error .EInval, [.error "Invalid mode: %s (use off, power, pulse, alarm)" [.str arg]])
      | some mode =>
        (set_led_mode k s led_idx mode, .ok (),
          [.print "LED%d set to %s" [.num led_idx.toNat, .str (led_mode_to_str mode).toList]])
  | _ => (s, .error .EInval, [.error "Usage: led set <0|1> <off|power|pulse|alarm>" []])

/-! ### Initialisation and runs -/

/-- What the GPIO driver answers for the two pins. -/
structure Gpio where
  ready : Fin 2 → Bool
  configured : Fin 2 → Bool

def led_init (gpio : Gpio) (s : LedComponent Timer) : LedComponent Timer × Status :=
  if !gpio.ready 0 || !gpio.ready 1 then (s, .error .ENoDev)
  else if !gpio.configured 0 || !gpio.configured 1 then (s, .error .EIo)
  else
    let s := set_led_state s 0 false
    let s := set_led_state s 1 false
    let s := { s with led_timer := k.k_timer_init s.led_timer }
    (set_led_mode k s 0 .Off, .ok ())

/-- What can happen to the component: a message on one of its channels, a
    `led set` command, or an expiry of its timer. -/
inductive LedAction
  | sysCtl (state : SysState)
  | event (msg : EventMsg)
  | shell (argv : List CString)
  | expiry
deriving DecidableEq, Repr

/-- One callback. The timer expires only while it runs. -/
def step (s : LedComponent Timer) : LedAction → Option (LedComponent Timer)
  | .sysCtl state => some (led_sys_ctl_cb k s state)
  | .event msg => some (led_event_cb k s msg)
  | .shell argv => some (cmd_led_set k s argv).1
  | .expiry =>
    if k.running s.led_timer then
      some (led_timer_handler k { s with led_timer := k.expire s.led_timer })
    else none

end ZephyrWorkshop.Led
