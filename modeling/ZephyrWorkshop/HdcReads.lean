import Mathlib.Data.UInt
import ZephyrWorkshop.HdcEmul

/-!
Reads of the emulated sensor over I2C. Both read paths run the same loop over
the register file, two bytes a round and one register on. The loop is settled
by an induction over its rounds (`read_registers_spec`); an odd last byte has no
round of its own.
-/

namespace ZephyrWorkshop.HdcReads
open ZephyrWorkshop.Zephyr ZephyrWorkshop.HdcEmul

/-- The addresses of the register file. -/
def Mapped (reg : UInt8) : Prop :=
  reg = TI_HDC_REG_TEMP ∨ reg = TI_HDC_REG_HUMIDITY ∨ reg = TI_HDC_REG_MANUFID ∨ reg = TI_HDC_REG_DEVICEID

instance (reg : UInt8) : Decidable (Mapped reg) := inferInstanceAs (Decidable (_ ∨ _))

/-- What a register holds; other addresses hold nothing. -/
def content (data : TiHdcEmulData) (reg : UInt8) : UInt16 :=
  if reg = TI_HDC_REG_TEMP then data.reg_temp
  else if reg = TI_HDC_REG_HUMIDITY then data.reg_humidity
  else if reg = TI_HDC_REG_MANUFID then data.reg_manufid
  else if reg = TI_HDC_REG_DEVICEID then data.reg_deviceid
  else 0

/-- The byte at an index, counted from a register on, most significant byte first. -/
def byteAt (data : TiHdcEmulData) (reg : UInt8) (index : Nat) : UInt8 :=
  let value := content data (reg + UInt8.ofNat (index / 2))
  if index % 2 = 0 then (value >>> 8).toUInt8 else value.toUInt8

/-- The bytes of the registers from one on; addresses wrap at `0xFF`. -/
def registerBytes (data : TiHdcEmulData) (reg : UInt8) (len : Nat) : List UInt8 :=
  (List.range len).map (byteAt data reg)

/-- The registers that so many bytes are taken from. -/
def AllMapped (reg : UInt8) (registers : Nat) : Prop := ∀ i < registers, Mapped (reg + UInt8.ofNat i)

theorem reg_read_eq (data : TiHdcEmulData) (reg : UInt8) :
    ti_hdc_emul_reg_read data reg =
      if Mapped reg then .ok (sys_put_be16 (content data reg)) else .error .EInval := by
  unfold ti_hdc_emul_reg_read Mapped content
  by_cases temp : reg = TI_HDC_REG_TEMP
  · simp [temp]
  by_cases humidity : reg = TI_HDC_REG_HUMIDITY
  · subst humidity
    rfl
  by_cases manufid : reg = TI_HDC_REG_MANUFID
  · subst manufid
    rfl
  by_cases deviceid : reg = TI_HDC_REG_DEVICEID
  · subst deviceid
    rfl
  · simp [temp, humidity, manufid, deviceid]

theorem next_address (reg : UInt8) (i : Nat) : reg + 1 + UInt8.ofNat i = reg + UInt8.ofNat (i + 1) := by
  rw [UInt8.ofNat_add, UInt8.add_assoc]
  congr 1
  exact UInt8.add_comm _ _

theorem byteAt_next (data : TiHdcEmulData) (reg : UInt8) (index : Nat) :
    byteAt data reg (index + 2) = byteAt data (reg + 1) index := by
  have half : (index + 2) / 2 = index / 2 + 1 := by omega
  have parity : (index + 2) % 2 = index % 2 := by omega
  rw [byteAt, byteAt, half, parity, next_address]

/-- Two bytes more are one register more. -/
theorem registerBytes_succ (data : TiHdcEmulData) (reg : UInt8) (n : Nat) :
    registerBytes data reg (2 * (n + 1)) =
      sys_put_be16 (content data reg) ++ registerBytes data (reg + 1) (2 * n) := by
  have length : 2 * (n + 1) = 2 + 2 * n := by omega
  have rest : (List.range (2 * n)).map (byteAt data reg ∘ (2 + ·)) = registerBytes data (reg + 1) (2 * n) := by
    refine List.map_congr_left fun index _ => ?_
    show byteAt data reg (2 + index) = _
    rw [Nat.add_comm, byteAt_next]
  have first : (List.range 2).map (byteAt data reg) = sys_put_be16 (content data reg) := by
    simp [List.range_succ, byteAt, sys_put_be16]
  rw [registerBytes, length, List.range_add, List.map_append, List.map_map, first, rest]

theorem allMapped_succ (reg : UInt8) (n : Nat) :
    AllMapped reg (n + 1) ↔ Mapped reg ∧ AllMapped (reg + 1) n := by
  have start : reg + UInt8.ofNat 0 = reg := UInt8.add_zero reg
  constructor
  · intro all
    refine ⟨?_, ?_⟩
    · rw [← start]
      exact all 0 (Nat.succ_pos n)
    · intro i inside
      rw [next_address]
      exact all (i + 1) (Nat.succ_lt_succ inside)
  · rintro ⟨first, rest⟩ i inside
    cases i with
    | zero => rwa [start]
    | succ i =>
      rw [← next_address]
      exact rest i (Nat.lt_of_succ_lt_succ inside)

/-- The loop succeeds exactly on mapped registers, and then writes all their bytes. -/
theorem read_registers_spec (data : TiHdcEmulData) (reg : UInt8) (n : Nat) :
    ((read_registers data reg n).2 = .ok () ↔ AllMapped reg n) ∧
      (AllMapped reg n → (read_registers data reg n).1 = registerBytes data reg (2 * n)) := by
  induction n generalizing reg with
  | zero => exact ⟨by simp [read_registers, AllMapped], fun _ => rfl⟩
  | succ n ih =>
    obtain ⟨succeeds, writes⟩ := ih (reg + 1)
    rw [allMapped_succ, read_registers, reg_read_eq]
    by_cases mapped : Mapped reg
    · rw [if_pos mapped]
      refine ⟨?_, ?_⟩
      · rw [← succeeds]
        exact ⟨fun ok => ⟨mapped, ok⟩, fun both => both.2⟩
      · rintro ⟨_, rest⟩
        rw [registerBytes_succ, ← writes rest]
    · rw [if_neg mapped]
      refine ⟨⟨?_, fun both => absurd both.1 mapped⟩, fun both => absurd both.1 mapped⟩
      rintro ⟨⟩

/-- How many registers the loop reads: whole ones only. -/
theorem read_burst_eq (data : TiHdcEmulData) (reg : UInt8) {msg : I2cMsg} (small : msg.len.toNat < 2 ^ 31) :
    read_burst data reg msg =
      ({ msg with
          buf := (read_registers data reg (msg.len.toNat / 2)).1 ++
            msg.buf.drop (read_registers data reg (msg.len.toNat / 2)).1.length },
        (read_registers data reg (msg.len.toNat / 2)).2) := by
  have signed : msg.len.toInt32.toInt = msg.len.toNat := by
    show msg.len.toBitVec.toInt = _
    rw [BitVec.toInt_eq_toNat_of_lt (by show 2 * msg.len.toNat < 2 ^ 32; omega)]
    rfl
  have rounds : (msg.len.toInt32.toInt / 2).toNat = msg.len.toNat / 2 := by
    rw [signed]
    omega
  rw [read_burst, rounds]

theorem registerBytes_length (data : TiHdcEmulData) (reg : UInt8) (len : Nat) :
    (registerBytes data reg len).length = len := by
  simp [registerBytes]

/-- A read that succeeds has filled its buffer up to the last whole register. -/
theorem read_burst_spec (data : TiHdcEmulData) (reg : UInt8) {msg : I2cMsg} (small : msg.len.toNat < 2 ^ 31) :
    ((read_burst data reg msg).2 = .ok () ↔ AllMapped reg (msg.len.toNat / 2)) ∧
      ((read_burst data reg msg).2 = .ok () → (read_burst data reg msg).1.buf =
        registerBytes data reg (2 * (msg.len.toNat / 2)) ++ msg.buf.drop (2 * (msg.len.toNat / 2))) := by
  obtain ⟨succeeds, writes⟩ := read_registers_spec data reg (msg.len.toNat / 2)
  rw [read_burst_eq data reg small]
  refine ⟨succeeds, ?_⟩
  intro ok
  dsimp only
  rw [writes (succeeds.mp ok), registerBytes_length]

/-- A register address and a read in one transfer, and a read with `cur_reg` at
    that address, are one and the same read: they return the same and leave the
    same buffer and the same data, of which only `cur_reg` may be new. The read
    succeeds exactly when every whole register that it covers is mapped, and
    then the buffer holds these registers, with an odd last byte as it was. -/
theorem read_paths_agree (data : TiHdcEmulData) (reg : UInt8) (rest buf : List UInt8) {wlen len : UInt32}
    (written : 1 ≤ wlen) (small : len.toNat < 2 ^ 31) (rand_temp rand_humidity other_temp other_humidity : UInt32) :
    ∃ filled status,
      ti_hdc_emul_transfer data [⟨false, wlen, reg :: rest⟩, ⟨true, len, buf⟩] rand_temp rand_humidity =
        ({ data with cur_reg := reg }, [⟨false, wlen, reg :: rest⟩, ⟨true, len, filled⟩], status) ∧
      ti_hdc_emul_transfer { data with cur_reg := reg } [⟨true, len, buf⟩] other_temp other_humidity =
        ({ data with cur_reg := reg }, [⟨true, len, filled⟩], status) ∧
      (status = .ok () ↔ AllMapped reg (len.toNat / 2)) ∧
      (status = .ok () → filled =
        registerBytes data reg (2 * (len.toNat / 2)) ++ buf.drop (2 * (len.toNat / 2))) := by
  have short : (I2cMsg.mk true len buf).len.toNat < 2 ^ 31 := small
  have same := read_burst_eq { data with cur_reg := reg } reg short
  obtain ⟨succeeds, fills⟩ := read_burst_spec { data with cur_reg := reg } reg short
  have long : ¬ wlen < 1 := UInt32.not_lt.mpr written
  refine ⟨(read_burst { data with cur_reg := reg } reg ⟨true, len, buf⟩).1.buf, _, ?_, ?_, succeeds, fills⟩
  · simp [ti_hdc_emul_transfer, long, same]
  · simp [ti_hdc_emul_transfer, same]

/-- Five bytes from `0xFE` on: both identification registers, and a last byte
    that is left alone. -/
theorem read_paths_agree_identification :
    ∃ filled status,
      ti_hdc_emul_transfer ⟨0, 0, 0, 0x5449, 0x1000, 1, false, false⟩
        [⟨false, 1, [TI_HDC_REG_MANUFID]⟩, ⟨true, 5, [0, 0, 0, 0, 0xAA]⟩] 0 0 =
        (⟨TI_HDC_REG_MANUFID, 0, 0, 0x5449, 0x1000, 1, false, false⟩,
          [⟨false, 1, [TI_HDC_REG_MANUFID]⟩, ⟨true, 5, filled⟩], status) ∧
      status = .ok () ∧ filled = [0x54, 0x49, 0x10, 0x00, 0xAA] := by
  obtain ⟨filled, status, both, _, succeeds, fills⟩ := read_paths_agree ⟨0, 0, 0, 0x5449, 0x1000, 1, false, false⟩
    TI_HDC_REG_MANUFID [] [0, 0, 0, 0, 0xAA] (by decide : 1 ≤ (1 : UInt32)) (by decide : (5 : UInt32).toNat < 2 ^ 31) 0 0 0 0
  have mapped : AllMapped TI_HDC_REG_MANUFID 2 := by
    show ∀ i < 2, Mapped (TI_HDC_REG_MANUFID + UInt8.ofNat i)
    decide
  have ok : status = .ok () := succeeds.mpr mapped
  exact ⟨filled, status, both, ok, fills ok⟩

/-- A read of one byte succeeds without writing it, also where no register is mapped. -/
theorem odd_byte_not_written :
    ti_hdc_emul_transfer ⟨0, 0x4444, 0, 0x5449, 0x1000, 1, false, false⟩
      [⟨false, 1, [TI_HDC_REG_TEMP]⟩, ⟨true, 1, [0xAA]⟩] 0 0 =
      (⟨TI_HDC_REG_TEMP, 0x4444, 0, 0x5449, 0x1000, 1, false, false⟩,
        [⟨false, 1, [TI_HDC_REG_TEMP]⟩, ⟨true, 1, [0xAA]⟩], .ok ()) ∧
    [0xAA] ≠ registerBytes ⟨0, 0x4444, 0, 0x5449, 0x1000, 1, false, false⟩ TI_HDC_REG_TEMP 1 ∧
    (ti_hdc_emul_transfer ⟨0, 0x4444, 0, 0x5449, 0x1000, 1, false, false⟩
      [⟨false, 1, [0x50]⟩, ⟨true, 1, [0xAA]⟩] 0 0).2.2 = .ok () ∧ ¬ Mapped 0x50 := by
  refine ⟨rfl, ?_, rfl, ?_⟩
  · decide
  · decide

end ZephyrWorkshop.HdcReads
