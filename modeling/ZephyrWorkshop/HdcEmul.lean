import ZephyrWorkshop.Zephyr

/-!
The emulated TI HDC sensor, `emulators/sensor/ti_hdc_emul/emul_ti_hdc.c`: its
register file, its random readings, its I2C transfers, and the two calls of the
sensor emulator API. Every function runs under the data's mutex, so each is one
atomic step here. The calls of `sys_rand32_get` return the words passed in.
-/

namespace ZephyrWorkshop.HdcEmul
open ZephyrWorkshop.Zephyr

def TI_HDC_REG_TEMP : UInt8 := 0x00
def TI_HDC_REG_HUMIDITY : UInt8 := 0x01
def TI_HDC_REG_MANUFID : UInt8 := 0xFE
def TI_HDC_REG_DEVICEID : UInt8 := 0xFF

def HUM_RAW_MIN : UInt16 := 26214
def HUM_RAW_MAX : UInt16 := 39321
def TEMP_RAW_3C : UInt16 := 17079
def TEMP_RAW_4C : UInt16 := 17476
def TEMP_RAW_5C : UInt16 := 17873
def TEMP_RAW_7C : UInt16 := 18668

/-- `struct ti_hdc_emul_data`, without its mutex. -/
structure TiHdcEmulData where
  cur_reg : UInt8
  reg_temp : UInt16
  reg_humidity : UInt16
  reg_manufid : UInt16
  reg_deviceid : UInt16
  sample_count : UInt32
  fixed_temp : Bool
  fixed_humidity : Bool
deriving DecidableEq, Repr

def rand_in_range (min max : UInt16) (rand : UInt32) : UInt16 :=
  let range : UInt32 := (max - min).toUInt32 + 1
  (min.toUInt32 + rand % range).toUInt16

/-- `rand_temp` and `rand_humidity` are drawn only where the code draws them. -/
def ti_hdc_emul_generate_sample (data : TiHdcEmulData) (rand_temp rand_humidity : UInt32) : TiHdcEmulData :=
  let data :=
    if !data.fixed_temp then
      if data.sample_count < 10 then
        { data with reg_temp := rand_in_range TEMP_RAW_3C TEMP_RAW_5C rand_temp }
      else
        { data with reg_temp := rand_in_range TEMP_RAW_4C TEMP_RAW_7C rand_temp }
    else data
  let data := { data with sample_count := data.sample_count + 1 }
  if !data.fixed_humidity then
    { data with reg_humidity := rand_in_range HUM_RAW_MIN HUM_RAW_MAX rand_humidity }
  else data

/-- `sys_put_be16` -/
def sys_put_be16 (val : UInt16) : List UInt8 := [(val >>> 8).toUInt8, val.toUInt8]

/-- The two bytes that a register is read as. -/
def ti_hdc_emul_reg_read (data : TiHdcEmulData) (reg : UInt8) : Except Errno (List UInt8) :=
  if reg = TI_HDC_REG_TEMP then .ok (sys_put_be16 data.reg_temp)
  else if reg = TI_HDC_REG_HUMIDITY then .ok (sys_put_be16 data.reg_humidity)
  else if reg = TI_HDC_REG_MANUFID then .ok (sys_put_be16 data.reg_manufid)
  else if reg = TI_HDC_REG_DEVICEID then .ok (sys_put_be16 data.reg_deviceid)
  else .error .EInval

/-! ### I2C transfers -/

/-- `struct i2c_msg`: the `I2C_MSG_READ` flag, the length and the bytes of the buffer. -/
structure I2cMsg where
  read : Bool
  len : UInt32
  buf : List UInt8
deriving DecidableEq, Repr

/-- The reading loop: the bytes written for the next registers, until one of
    them is unknown. -/
def read_registers (data : TiHdcEmulData) : UInt8 → Nat → List UInt8 × Status
  | _, 0 => ([], .ok ())
  | reg, n + 1 =>
    match ti_hdc_emul_reg_read data reg with
    | .error e => ([], .error e)
    | .ok bytes =>
      let (rest, status) := read_registers data (reg + 1) n
      (bytes ++ rest, status)

/-- `remaining` is an `int`: the loop runs while two more bytes fit, and not at
    all for a length from `2^31` on. -/
def read_burst (data : TiHdcEmulData) (reg : UInt8) (msg : I2cMsg) : I2cMsg × Status :=
  let remaining : Int := msg.len.toInt32.toInt
  let (bytes, status) := read_registers data reg (remaining / 2).toNat
  ({ msg with buf := bytes ++ msg.buf.drop bytes.length }, status)

/-- The data and the messages after a transfer, and its return value. -/
def ti_hdc_emul_transfer (data : TiHdcEmulData) (msgs : List I2cMsg) (rand_temp rand_humidity : UInt32) :
    TiHdcEmulData × List I2cMsg × Status :=
  match msgs with
  | [] => (data, msgs, .error .EIo)
  | first :: rest =>
    if first.read then
      -- pattern C, a pure read
      if rest.isEmpty then
        let (msg, status) := read_burst data data.cur_reg first
        (data, [msg], status)
      else (data, msgs, .error .EIo)
    else if first.len < 1 then (data, msgs, .error .EIo)
    else
      let data := { data with cur_reg := first.buf.headD 0 }
      match rest with
      | [] =>
        -- pattern B, the sample trigger
        if data.cur_reg = TI_HDC_REG_TEMP then
          (ti_hdc_emul_generate_sample data rand_temp rand_humidity, msgs, .ok ())
        else (data, msgs, .ok ())
      | [second] =>
        -- pattern A, a burst read
        if second.read then
          let (msg, status) := read_burst data data.cur_reg second
          (data, [first, msg], status)
        else (data, msgs, .error .EIo)
      | _ => (data, msgs, .error .EIo)

def ti_hdc_emul_init (data : TiHdcEmulData) (rand_temp rand_humidity : UInt32) : TiHdcEmulData :=
  let data := { data with cur_reg := 0, reg_manufid := 0x5449, reg_deviceid := 0x1000 }
  ti_hdc_emul_generate_sample data rand_temp rand_humidity

/-! ### The sensor emulator API -/

/-- `enum sensor_channel`; of the other channels only that they are others counts. -/
inductive SensorChannel
  | AmbientTemp
  | Humidity
  | Other (number : Nat)
deriving DecidableEq, Repr

structure SensorChanSpec where
  chan_type : SensorChannel
  chan_idx : UInt16
deriving DecidableEq, Repr

def ti_hdc_emul_set_channel (data : TiHdcEmulData) (ch : SensorChanSpec) (value : Option Int32) (shift : Int8) :
    TiHdcEmulData × Status :=
  match value with
  | none => (data, .error .EInval)
  | some value =>
    if shift < 0 ∨ shift > 31 then (data, .error .EInval)
    else if ch.chan_idx ≠ 0 then (data, .error .ENotSup)
    else
      let scaled : Int64 := (value.toInt64.toUInt64 * BIT64 shift.toInt.toNat).toInt64
      match ch.chan_type with
      | .AmbientTemp =>
        let lower : Int64 := ((-40 : Int64).toUInt64 * BIT64 31).toInt64
        let upper : Int64 := ((125 : Int64).toUInt64 * BIT64 31).toInt64
        if scaled < lower ∨ scaled > upper then (data, .error .ERange)
        else
          let raw : UInt32 := (DIV_ROUND_CLOSEST ((scaled - lower).toUInt64 * BIT64 16)
            ((165 : Int64).toUInt64 * BIT64 31)).toUInt32
          ({ data with reg_temp := (min raw 65535).toUInt16, fixed_temp := true }, .ok ())
      | .Humidity =>
        let lower : Int64 := 0
        let upper : Int64 := ((100 : Int64).toUInt64 * BIT64 31).toInt64
        if scaled < lower ∨ scaled > upper then (data, .error .ERange)
        else
          let raw : UInt32 := (DIV_ROUND_CLOSEST (scaled.toUInt64 * BIT64 16) upper.toUInt64).toUInt32
          ({ data with reg_humidity := (min raw 65535).toUInt16, fixed_humidity := true }, .ok ())
      | .Other _ => (data, .error .ENotSup)

/-- What the four pointers of `get_sample_range` point to; `none` is `NULL`. -/
structure RangePointers where
  lower : Option Int32
  upper : Option Int32
  epsilon : Option Int32
  shift : Option Int8
deriving DecidableEq, Repr

def ti_hdc_emul_get_sample_range (ch : SensorChanSpec) (range : RangePointers) : RangePointers × Status :=
  match range with
  | ⟨some _, some _, some _, some _⟩ =>
    if ch.chan_idx ≠ 0 then (range, .error .ENotSup)
    else
      let range := { range with shift := some 8 }
      match ch.chan_type with
      | .AmbientTemp =>
        ({ range with
            lower := some (((-40 : Int64).toUInt64 * BIT64 31) >>> UInt64.ofNat 8).toUInt32.toInt32
            upper := some (((125 : Int64).toUInt64 * BIT64 31) >>> UInt64.ofNat 8).toUInt32.toInt32
            epsilon := some ((DIV_ROUND_UP ((165 : Int64).toUInt64 * BIT64 31) (BIT64 16)) >>>
              UInt64.ofNat 8).toUInt32.toInt32 }, .ok ())
      | .Humidity =>
        ({ range with
            lower := some 0
            upper := some (((100 : Int64).toUInt64 * BIT64 31) >>> UInt64.ofNat 8).toUInt32.toInt32
            epsilon := some ((DIV_ROUND_UP ((100 : Int64).toUInt64 * BIT64 31) (BIT64 16)) >>>
              UInt64.ofNat 8).toUInt32.toInt32 }, .ok ())
      | .Other _ => (range, .error .ENotSup)
  | _ => (range, .error .EInval)

end ZephyrWorkshop.HdcEmul
