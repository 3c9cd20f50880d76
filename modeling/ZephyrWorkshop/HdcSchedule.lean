import ZephyrWorkshop.HdcRuns

/-!
The temperatures that a driver reads, one reading after the other. A reading
triggers a sample and reads four bytes; what else happens on the bus moves
neither the temperature nor the count of samples. Readings are meant to show
3 to 5 °C ten times and 4 to 7 °C from then on. The emulator counts the sample
of its initialisation too, and counts modulo `2^32`: the `k`-th reading is drawn
from the colder range when `k`, so reduced, is less than ten.
-/

namespace ZephyrWorkshop.HdcSchedule
open ZephyrWorkshop.Zephyr ZephyrWorkshop.HdcEmul ZephyrWorkshop.HdcEncode ZephyrWorkshop.HdcRuns

/-! ### Readings -/

/-- `sys_get_be16` -/
def sys_get_be16 : List UInt8 → UInt16
  | high :: low :: _ => high.toUInt16 <<< 8 ||| low.toUInt16
  | _ => 0

/-- One reading: the words that its sample is drawn with, what its two buffers
    hold behind the address and before the read, and the calls that come between
    its two transfers. -/
structure Reading where
  rand_temp : UInt32
  rand_humidity : UInt32
  written : List UInt8
  buf : List UInt8
  between : List HdcAction
deriving DecidableEq, Repr

/-- What happens on the bus: a reading, or another call of the emulator. -/
inductive BusAction
  | reading (r : Reading)
  | other (a : HdcAction)
deriving DecidableEq, Repr

/-- The data after calls, one after the other. -/
def performAll (data : TiHdcEmulData) (calls : List HdcAction) : TiHdcEmulData :=
  calls.foldl (fun data a => (perform data a).1) data

/-- The data after a reading, and the temperature register that it returned. -/
def takeReading (data : TiHdcEmulData) (r : Reading) : TiHdcEmulData × UInt16 :=
  let (data, _, _) := ti_hdc_emul_transfer data [trigger r.written] r.rand_temp r.rand_humidity
  let data := performAll data r.between
  -- the read draws nothing, so that its words do not matter
  let (data, msgs, _) := ti_hdc_emul_transfer data [⟨true, 4, r.buf⟩] 0 0
  (data, sys_get_be16 (msgs.flatMap (·.buf)))

/-- The temperature registers that the readings of a run return. -/
def temperatures : TiHdcEmulData → List BusAction → List UInt16
  | _, [] => []
  | data, .reading r :: rest => (takeReading data r).2 :: temperatures (takeReading data r).1 rest
  | data, .other a :: rest => temperatures (perform data a).1 rest

/-- The words that the temperatures of the readings are drawn with. -/
def words : List BusAction → List UInt32
  | [] => []
  | .reading r :: rest => r.rand_temp :: words rest
  | .other _ :: rest => words rest

/-- A call that is no sample trigger and sets no temperature. -/
def Aside : HdcAction → Prop
  | .transfer msgs _ _ => ¬ Triggers msgs
  | .set_channel ch value shift =>
    ch.chan_type = .AmbientTemp → ∀ data, (ti_hdc_emul_set_channel data ch value shift).2 ≠ .ok ()

/-- A call that leaves `cur_reg` at the temperature register. -/
def KeepsRegister (a : HdcAction) : Prop :=
  ∀ data, data.cur_reg = TI_HDC_REG_TEMP → (perform data a).1.cur_reg = TI_HDC_REG_TEMP

/-- No temperature is set, and no sample is triggered but by readings; a call
    between the two transfers of a reading leaves `cur_reg` to it. -/
def Allowed : BusAction → Prop
  | .reading r => ∀ a ∈ r.between, Aside a ∧ KeepsRegister a
  | .other a => Aside a

/-! ### One reading -/

theorem get_put_be16 (val : UInt16) (rest : List UInt8) : sys_get_be16 (sys_put_be16 val ++ rest) = val := by
  have bound := val.toNat_lt
  have low : val.toNat % 256 < 2 ^ 8 := Nat.mod_lt _ (by simp)
  have high : val.toNat / 256 < 256 := by omega
  have shifted : (val.toNat / 256) <<< 8 = val.toNat / 256 * 256 := Nat.shiftLeft_eq _ _
  have bytes : ((val >>> 8).toUInt8.toUInt16 <<< 8 ||| val.toUInt8.toUInt16).toNat =
      (val.toNat / 256) <<< 8 ||| val.toNat % 256 := by
    have inside : (val.toNat / 256) <<< 8 < 65536 := by omega
    simp [Nat.shiftRight_eq_div_pow, Nat.mod_eq_of_lt high, Nat.mod_eq_of_lt inside]
  apply UInt16.toNat_inj.mp
  show ((val >>> 8).toUInt8.toUInt16 <<< 8 ||| val.toUInt8.toUInt16).toNat = val.toNat
  rw [bytes, ← Nat.shiftLeft_add_eq_or_of_lt low, shifted]
  omega

/-- The temperature and the count of samples are as before. -/
structure Untouched (data next : TiHdcEmulData) : Prop where
  reg_temp : next.reg_temp = data.reg_temp
  fixed_temp : next.fixed_temp = data.fixed_temp
  sample_count : next.sample_count = data.sample_count

theorem perform_aside (data : TiHdcEmulData) {a : HdcAction} (aside : Aside a) :
    Untouched data (perform data a).1 := by
  cases a with
  | transfer msgs rand_temp rand_humidity =>
    rcases transfer_cases data msgs rand_temp rand_humidity with ⟨reg, moved⟩ | ⟨triggers, _⟩
    · show Untouched data (ti_hdc_emul_transfer data msgs rand_temp rand_humidity).1
      rw [moved]
      exact ⟨rfl, rfl, rfl⟩
    · exact absurd triggers aside
  | set_channel ch value shift =>
    show Untouched data (ti_hdc_emul_set_channel data ch value shift).1
    cases value with
    | none => exact ⟨rfl, rfl, rfl⟩
    | some value =>
      by_cases succeeded : (ti_hdc_emul_set_channel data ch (some value) shift).2 = .ok ()
      · rw [pins_register data ((succeeds_iff data ch value shift).mp succeeded)]
        cases channel : ch.chan_type with
        | AmbientTemp => exact absurd succeeded (aside channel data)
        | Humidity => exact ⟨rfl, rfl, rfl⟩
        | Other number => exact ⟨rfl, rfl, rfl⟩
      · rw [unchanged_of_failure succeeded]
        exact ⟨rfl, rfl, rfl⟩

theorem performAll_between (data : TiHdcEmulData) {calls : List HdcAction}
    (allowed : ∀ a ∈ calls, Aside a ∧ KeepsRegister a) (cur_reg : data.cur_reg = TI_HDC_REG_TEMP) :
    Untouched data (performAll data calls) ∧ (performAll data calls).cur_reg = TI_HDC_REG_TEMP := by
  induction calls generalizing data with
  | nil => exact ⟨⟨rfl, rfl, rfl⟩, cur_reg⟩
  | cons a rest ih =>
    obtain ⟨aside, keeps⟩ := allowed a List.mem_cons_self
    have first := perform_aside data aside
    obtain ⟨others, kept⟩ := ih (perform data a).1 (fun b member => allowed b (List.mem_cons_of_mem a member))
      (keeps data cur_reg)
    exact ⟨⟨others.reg_temp.trans first.reg_temp, others.fixed_temp.trans first.fixed_temp,
      others.sample_count.trans first.sample_count⟩, kept⟩

/-- The temperature drawn with a word after so many samples. -/
def drawn (sample_count : UInt32) (word : UInt32) : UInt16 :=
  if sample_count < 10 then rand_in_range TEMP_RAW_3C TEMP_RAW_5C word
  else rand_in_range TEMP_RAW_4C TEMP_RAW_7C word

/-- A reading returns the draw of its own sample, and is counted. -/
theorem takeReading_spec {data : TiHdcEmulData} (free : data.fixed_temp = false) {r : Reading}
    (allowed : ∀ a ∈ r.between, Aside a ∧ KeepsRegister a) :
    (takeReading data r).2 = drawn data.sample_count r.rand_temp ∧
    (takeReading data r).1.fixed_temp = false ∧
    (takeReading data r).1.sample_count = data.sample_count + 1 := by
  have sampled : ti_hdc_emul_transfer data [trigger r.written] r.rand_temp r.rand_humidity =
      (ti_hdc_emul_generate_sample { data with cur_reg := TI_HDC_REG_TEMP } r.rand_temp r.rand_humidity,
        [trigger r.written], .ok ()) := rfl
  have draw := sample_eq { data with cur_reg := TI_HDC_REG_TEMP } r.rand_temp r.rand_humidity
  generalize ti_hdc_emul_generate_sample { data with cur_reg := TI_HDC_REG_TEMP } r.rand_temp r.rand_humidity = next
    at sampled draw
  obtain ⟨untouched, cur_reg⟩ := performAll_between next allowed (by rw [draw])
  have taken : takeReading data r = (performAll next r.between, (performAll next r.between).reg_temp) := by
    simp only [takeReading, sampled, read_both cur_reg, List.flatMap_cons, List.flatMap_nil, List.append_nil,
      List.append_assoc, get_put_be16]
  rw [taken]
  refine ⟨?_, ?_, ?_⟩
  · rw [untouched.reg_temp, draw, drawn]
    simp [free]
  · rw [untouched.fixed_temp, draw, free]
  · rw [untouched.sample_count, draw]

/-! ### Whole runs -/

/-- Counted from any moment on, each reading is drawn after one sample more. -/
theorem temperatures_eq {acts : List BusAction} {data : TiHdcEmulData} (free : data.fixed_temp = false)
    (allowed : ∀ a ∈ acts, Allowed a) :
    temperatures data acts =
      (words acts).mapIdx (fun i word => drawn (data.sample_count + UInt32.ofNat i) word) := by
  induction acts generalizing data with
  | nil => rfl
  | cons a rest ih =>
    have first : Allowed a := allowed a List.mem_cons_self
    have others : ∀ b ∈ rest, Allowed b := fun b member => allowed b (List.mem_cons_of_mem a member)
    cases a with
    | reading r =>
      obtain ⟨value, stillFree, counted⟩ := takeReading_spec free first
      have next : ∀ i, data.sample_count + 1 + UInt32.ofNat i = data.sample_count + UInt32.ofNat (i + 1) := by
        intro i
        rw [UInt32.add_assoc, UInt32.ofNat_add, UInt32.add_comm 1]
        rfl
      simp only [temperatures, words, List.mapIdx_cons, ih stillFree others, value, counted, next]
      congr 2
      exact (UInt32.add_zero _).symm
    | other a =>
      obtain ⟨_, fixed_temp, sample_count⟩ := perform_aside data first
      rw [temperatures, words, ih (fixed_temp.trans free) others, sample_count]

/-- What the `k`-th reading is meant to show, counted from one. -/
def Scheduled (k : Nat) (raw : UInt16) : Prop :=
  if k ≤ 10 then TEMP_RAW_3C ≤ raw ∧ raw ≤ TEMP_RAW_5C else TEMP_RAW_4C ≤ raw ∧ raw ≤ TEMP_RAW_7C

instance decidableScheduled (k : Nat) (raw : UInt16) : Decidable (Scheduled k raw) :=
  inferInstanceAs (Decidable (ite _ _ _))

/-- The word for the `k`-th reading lands where both ranges meet, if that
    reading is drawn from the wrong one: the tenth from the warmer range, a
    later one after the count has wrapped from the colder range. -/
def Lands (k : Nat) (word : UInt32) : Prop :=
  (k = 10 → word.toNat % (TEMP_RAW_7C.toNat - TEMP_RAW_4C.toNat + 1) ≤ TEMP_RAW_5C.toNat - TEMP_RAW_4C.toNat) ∧
  (10 < k → k % UInt32.size < 10 →
    TEMP_RAW_4C.toNat - TEMP_RAW_3C.toNat ≤ word.toNat % (TEMP_RAW_5C.toNat - TEMP_RAW_3C.toNat + 1))

theorem drawn_cold {count word : UInt32} (early : count < 10) :
    (drawn count word).toNat = TEMP_RAW_3C.toNat + word.toNat % (TEMP_RAW_5C.toNat - TEMP_RAW_3C.toNat + 1) := by
  rw [drawn, if_pos early]
  exact rand_in_range_toNat (by decide) word

theorem drawn_warm {count word : UInt32} (late : ¬ count < 10) :
    (drawn count word).toNat = TEMP_RAW_4C.toNat + word.toNat % (TEMP_RAW_7C.toNat - TEMP_RAW_4C.toNat + 1) := by
  rw [drawn, if_neg late]
  exact rand_in_range_toNat (by decide) word

/-- The `k`-th reading follows the schedule exactly when its word lets it. -/
theorem scheduled_iff {k : Nat} (counted : 1 ≤ k) (word : UInt32) :
    Scheduled k (drawn (UInt32.ofNat k) word) ↔ Lands k word := by
  have three : TEMP_RAW_3C.toNat = 17079 := rfl
  have four : TEMP_RAW_4C.toNat = 17476 := rfl
  have five : TEMP_RAW_5C.toNat = 17873 := rfl
  have seven : TEMP_RAW_7C.toNat = 18668 := rfl
  have size : UInt32.size = 4294967296 := rfl
  have cold : UInt32.ofNat k < 10 ↔ k % 4294967296 < 10 := by
    rw [UInt32.lt_iff_toNat_lt, UInt32.toNat_ofNat']
    rfl
  simp only [Scheduled, Lands, UInt16.le_iff_toNat_le, three, four, five, seven, size]
  by_cases early : UInt32.ofNat k < 10
  · rw [drawn_cold early, three, five]
    rw [cold] at early
    by_cases first : k ≤ 10
    · rw [if_pos first]
      omega
    · rw [if_neg first]
      omega
  · rw [drawn_warm early, four, seven]
    rw [cold] at early
    by_cases first : k ≤ 10
    · rw [if_pos first]
      omega
    · rw [if_neg first]
      omega

/-- After the initialisation the emulator has counted one sample, and no
    temperature is set. -/
theorem init_counts (rand_temp rand_humidity : UInt32) :
    (ti_hdc_emul_init staticData rand_temp rand_humidity).fixed_temp = false ∧
    (ti_hdc_emul_init staticData rand_temp rand_humidity).sample_count = 1 := by
  obtain ⟨_, _, _, fixed_temp, _, sample_count⟩ :=
    sample_frame { staticData with cur_reg := 0, reg_manufid := 0x5449, reg_deviceid := 0x1000 } rand_temp rand_humidity
  exact ⟨fixed_temp, sample_count⟩

/-- The `k`-th reading since the initialisation is drawn after `k` samples. -/
theorem reading_drawn (rand_temp rand_humidity : UInt32) {acts : List BusAction} (allowed : ∀ a ∈ acts, Allowed a) (i : Nat) :
    (temperatures (ti_hdc_emul_init staticData rand_temp rand_humidity) acts)[i]? =
      ((words acts)[i]?).map (drawn (UInt32.ofNat (i + 1))) := by
  obtain ⟨free, counted⟩ := init_counts rand_temp rand_humidity
  have shifted : (1 : UInt32) + UInt32.ofNat i = UInt32.ofNat (i + 1) := by
    rw [UInt32.ofNat_add, UInt32.add_comm]
    rfl
  rw [temperatures_eq free allowed, List.getElem?_mapIdx, counted, shifted]

/-- **The schedule.** In every run from the initialisation that sets no
    temperature, the readings show what they are meant to exactly when the word
    of the tenth, and of each later one that is counted below ten again, lands
    where both ranges meet. -/
theorem schedule_iff (rand_temp rand_humidity : UInt32) {acts : List BusAction} (allowed : ∀ a ∈ acts, Allowed a) :
    (∀ i raw, (temperatures (ti_hdc_emul_init staticData rand_temp rand_humidity) acts)[i]? = some raw →
      Scheduled (i + 1) raw) ↔
    ∀ i word, (words acts)[i]? = some word → Lands (i + 1) word := by
  constructor
  · intro scheduled i word read
    rw [← scheduled_iff (Nat.succ_pos i)]
    apply scheduled i
    rw [reading_drawn rand_temp rand_humidity allowed, read, Option.map_some]
  · intro lands i raw read
    rw [reading_drawn rand_temp rand_humidity allowed] at read
    obtain ⟨word, drawnWith, rfl⟩ := Option.map_eq_some_iff.mp read
    rw [scheduled_iff (Nat.succ_pos i)]
    exact lands i word drawnWith

/-- Ten readings in a row, all with the word 1192: the tenth shows 7 °C. -/
theorem tenth_reading_warm :
    (∀ a ∈ List.replicate 10 (BusAction.reading ⟨1192, 0, [], [0, 0, 0, 0], []⟩), Allowed a) ∧
    (temperatures (ti_hdc_emul_init staticData 0 0)
      (List.replicate 10 (BusAction.reading ⟨1192, 0, [], [0, 0, 0, 0], []⟩)))[9]? = some TEMP_RAW_7C ∧
    ¬ Scheduled 10 TEMP_RAW_7C := by
  have allowed : ∀ a ∈ List.replicate 10 (BusAction.reading ⟨1192, 0, [], [0, 0, 0, 0], []⟩), Allowed a := by
    intro a member
    rw [List.eq_of_mem_replicate member]
    intro b between
    cases between
  refine ⟨allowed, ?_, by decide⟩
  have word : (words (List.replicate 10 (BusAction.reading ⟨1192, 0, [], [0, 0, 0, 0], []⟩)))[9]? = some 1192 := rfl
  rw [reading_drawn 0 0 allowed, word]
  rfl

/-- A humidity is set and a burst read comes first, and the reading is
    interrupted by a read of two bytes. -/
def mixed : List BusAction :=
  [.other (.set_channel ⟨.Humidity, 0⟩ (some 0) 7), .other (.transfer [⟨false, 1, [0xFE]⟩, ⟨true, 2, [0, 0]⟩] 1 2),
    .reading ⟨3, 4, [], [0, 0, 0, 0], [.transfer [⟨true, 2, [0, 0]⟩] 5 6]⟩]

theorem schedule_iff_mixed :
    (temperatures (ti_hdc_emul_init staticData 5 6) mixed)[0]? = some 17082 ∧ Scheduled 1 17082 := by
  have allowed : ∀ a ∈ mixed, Allowed a := by
    intro a member
    simp only [mixed, List.mem_cons, List.not_mem_nil, or_false] at member
    rcases member with rfl | rfl | rfl
    · intro temperature
      cases temperature
    · exact id
    · intro a member
      rw [List.mem_singleton] at member
      subst member
      refine ⟨?_, ?_⟩
      · rintro ⟨read, _⟩
        cases read
      · intro data cur_reg
        exact cur_reg
  have lands : ∀ i word, (words mixed)[i]? = some word → Lands (i + 1) word := by
    intro i word read
    have first : i = 0 := by
      obtain ⟨inside, _⟩ := List.getElem?_eq_some_iff.mp read
      simp only [mixed, words, List.length_cons, List.length_nil] at inside
      omega
    subst first
    constructor
    · intro tenth
      omega
    · intro later
      omega
  have read : (temperatures (ti_hdc_emul_init staticData 5 6) mixed)[0]? = some 17082 := by
    rw [reading_drawn 5 6 allowed]
    rfl
  exact ⟨read, (schedule_iff 5 6 allowed).mpr lands 0 17082 read⟩

end ZephyrWorkshop.HdcSchedule
