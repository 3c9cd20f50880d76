import Mathlib.Data.UInt
import Mathlib.Algebra.Order.Field.Rat
import Mathlib.Tactic.Ring
import ZephyrWorkshop.Transition

/-!
The health thermometer of the Bluetooth sample, `samples/06_ble/src/hts.c` and
`main.c`, without a temperature device. The main thread sends an indication
every second, unless the last one has not completed, and the Bluetooth stack
completes it in a thread of its own, so that it may do so between the call and
the assignment of `indicating` in `hts_indicate`. Zephyr's battery service is a
parameter, known by its documentation only. In every interleaving at most
one indication is on its way, with a buffer that nobody writes to
(`one_indication`); indications never cease exactly as long as none completes at
that moment (`indications_go_on_iff`).
-/

namespace ZephyrWorkshop.Hts
open ZephyrWorkshop.Transition

def BT_GATT_CCC_INDICATE : UInt16 := 2

/-- The calls on Zephyr's battery service, whose level is part of a `Bas`. -/
structure BasApi (Bas : Type*) where
  bt_bas_get_battery_level : Bas → UInt8
  bt_bas_set_battery_level : UInt8 → Bas → Bas

/-- What the documentation promises: a level in percent is kept. -/
def BasApi.Documented {Bas : Type*} (service : BasApi Bas) : Prop :=
  ∀ level b, level ≤ 100 → service.bt_bas_get_battery_level (service.bt_bas_set_battery_level level b) = level

/-- The level itself as the service, which refuses one of more than 100. -/
def levelService : BasApi UInt8 where
  bt_bas_get_battery_level b := b
  bt_bas_set_battery_level level b := if level > 100 then b else level

theorem levelService_documented : levelService.Documented := by
  intro level b percent
  exact if_neg (UInt8.not_lt.mpr percent)

/-- The static variables of both files, and the battery service. `returned` says
    that `bt_gatt_indicate` has succeeded and `indicating` is not set yet. The
    stack holds what `htm` was at each call whose indication has not completed. The
    counters are ghosts: the measurements that were composed, and the calls of
    `bas_notify`. -/
structure Thermometer (Bas : Type*) where
  simulate_htm : Bool
  indicating : Bool
  temperature : Nat
  htm : List UInt8
  bas : Bas
  returned : Bool
  stack : List (List UInt8)
  composed : Nat
  notified : Nat
deriving DecidableEq, Repr

variable {Bas : Type*} (service : BasApi Bas)

/-- Static storage, with the battery service as it starts. -/
def boot (bas : Bas) : Thermometer Bas := ⟨false, false, 20, [0, 0, 0, 0, 0], bas, false, [], 0, 0⟩

def sys_put_le24 (val : UInt32) : List UInt8 := [val.toUInt8, (val >>> 8).toUInt8, (val >>> 16).toUInt8]

/-- `(uint8_t)-2` -/
def exponent : UInt8 := -2

/-- What `htm` is for a temperature in whole degrees. -/
def measurement (temperature : Nat) : List UInt8 :=
  0 :: sys_put_le24 (UInt32.ofNat (temperature * 100)) ++ [exponent]

def htmc_ccc_cfg_changed (value : UInt16) (s : Thermometer Bas) : Thermometer Bas :=
  { s with simulate_htm := value = BT_GATT_CCC_INDICATE }

def indicate_destroy (s : Thermometer Bas) : Thermometer Bas := { s with indicating := false }

/-- Up to the result of `bt_gatt_indicate`, which takes the indication if it succeeds. -/
def hts_indicate (result : Int) (s : Thermometer Bas) : Thermometer Bas :=
  if s.simulate_htm then
    if s.indicating then s
    else
      let temperature := if s.temperature + 1 = 30 then 20 else s.temperature + 1
      let htm := measurement temperature
      let s := { s with temperature := temperature, htm := htm, composed := s.composed + 1 }
      if result = 0 then { s with returned := true, stack := htm :: s.stack } else s
  else s

def bas_notify (s : Thermometer Bas) : Thermometer Bas :=
  let battery_level := service.bt_bas_get_battery_level s.bas
  let battery_level := battery_level - 1
  let battery_level := if battery_level = 0 then 100 else battery_level
  { s with bas := service.bt_bas_set_battery_level battery_level s.bas, notified := s.notified + 1 }

/-- What one of the threads does next: the stack reports the configuration or
    completes an indication; the main thread is in `hts_indicate`, before and after
    the call, or in `bas_notify`. -/
inductive Action
  | ccc (value : UInt16)
  | indicate (result : Int)
  | flag
  | destroy
  | battery
deriving DecidableEq, Repr

def step (s : Thermometer Bas) : Action → Option (Thermometer Bas)
  | .ccc value => some (htmc_ccc_cfg_changed value s)
  | .indicate result => if s.returned then none else some (hts_indicate result s)
  | .flag => if s.returned then some { s with indicating := true, returned := false } else none
  | .destroy =>
    match s.stack with
    | [] => none
    | _ :: rest => some (indicate_destroy { s with stack := rest })
  | .battery => if s.returned then none else some (bas_notify service s)

/-! ### What a step does -/

variable {service}

/-- The next temperature of the simulation. -/
def nextTemperature (temperature : Nat) : Nat := if temperature + 1 = 30 then 20 else temperature + 1

/-- A new measurement, before the call. -/
def compose (s : Thermometer Bas) : Thermometer Bas :=
  { s with
    temperature := nextTemperature s.temperature
    htm := measurement (nextTemperature s.temperature)
    composed := s.composed + 1 }

theorem hts_indicate_cases (result : Int) (s : Thermometer Bas) :
    hts_indicate result s = s ∨
    (s.indicating = false ∧ result ≠ 0 ∧ hts_indicate result s = compose s) ∨
    (s.indicating = false ∧
      hts_indicate result s = { compose s with returned := true, stack := (compose s).htm :: s.stack }) := by
  unfold hts_indicate
  by_cases subscribed : s.simulate_htm = true
  · by_cases busy : s.indicating = true
    · exact .inl (by rw [if_pos subscribed, if_pos busy])
    · have free : s.indicating = false := Bool.eq_false_iff.mpr busy
      rw [if_pos subscribed, if_neg busy]
      by_cases sent : result = 0
      · exact .inr (.inr ⟨free, if_pos sent⟩)
      · exact .inr (.inl ⟨free, sent, if_neg sent⟩)
  · exact .inl (by rw [if_neg subscribed])

/-- Everything that a step can do to what the threads share. -/
theorem step_cases {s next : Thermometer Bas} {a : Action} (taken : step service s a = some next) :
    (a ≠ .destroy ∧ ∃ simulate_htm bas notified, next =
      { s with simulate_htm := simulate_htm, bas := bas, notified := notified }) ∨
    (a ≠ .destroy ∧ s.returned = false ∧ s.indicating = false ∧ next = compose s) ∨
    (a ≠ .destroy ∧ s.returned = false ∧ s.indicating = false ∧
      next = { compose s with returned := true, stack := (compose s).htm :: s.stack }) ∨
    (a ≠ .destroy ∧ s.returned = true ∧ next = { s with indicating := true, returned := false }) ∨
    ∃ first rest, a = .destroy ∧ s.stack = first :: rest ∧ next = { s with indicating := false, stack := rest } := by
  cases a with
  | ccc value =>
    cases taken
    exact .inl ⟨by simp, _, _, _, rfl⟩
  | indicate result =>
    rw [step] at taken
    split at taken
    · cases taken
    · rename_i idle
      have free : s.returned = false := Bool.eq_false_iff.mpr idle
      cases taken
      rcases hts_indicate_cases result s with same | ⟨off, _, same⟩ | ⟨off, same⟩
      · exact .inl ⟨by simp, _, _, _, same⟩
      · exact .inr (.inl ⟨by simp, free, off, same⟩)
      · exact .inr (.inr (.inl ⟨by simp, free, off, same⟩))
  | flag =>
    rw [step] at taken
    split at taken
    · rename_i busy
      cases taken
      exact .inr (.inr (.inr (.inl ⟨by simp, busy, rfl⟩)))
    · cases taken
  | destroy =>
    rw [step] at taken
    cases stack : s.stack with
    | nil => simp [stack] at taken
    | cons first rest =>
      simp only [stack, Option.some.injEq] at taken
      exact .inr (.inr (.inr (.inr ⟨first, rest, rfl, rfl, taken.symm⟩)))
  | battery =>
    rw [step] at taken
    split at taken
    · cases taken
    · cases taken
      exact .inl ⟨by simp, _, _, _, rfl⟩

/-! ### One indication at a time -/

/-- What holds between any two steps: the stack has at most the indication whose
    buffer is `htm`, and the main thread knows of it, or is about to. -/
structure Inv (s : Thermometer Bas) : Prop where
  one : s.stack = [] ∨ s.stack = [s.htm]
  known : s.stack ≠ [] → s.indicating = true ∨ s.returned = true
  called : s.returned = true → s.indicating = false

theorem boot_inv (bas : Bas) : Inv (boot bas) := by
  constructor <;> simp [boot]

theorem Inv.nothing_sent {s : Thermometer Bas} (inv : Inv s) (free : s.returned = false) (off : s.indicating = false) :
    s.stack = [] := by
  by_contra sent
  rcases inv.known sent with set | returned
  · simp [off] at set
  · simp [free] at returned

theorem Inv.only {s : Thermometer Bas} (inv : Inv s) {first : List UInt8} {rest : List (List UInt8)}
    (stack : s.stack = first :: rest) : rest = [] := by
  rcases inv.one with empty | one
  · rw [stack] at empty
    cases empty
  · rw [stack] at one
    exact (List.cons.inj one).2

theorem step_inv {s next : Thermometer Bas} {a : Action} (inv : Inv s) (taken : step service s a = some next) :
    Inv next := by
  rcases step_cases taken with ⟨_, _, _, _, rfl⟩ | ⟨_, free, off, rfl⟩ | ⟨_, free, off, rfl⟩ | ⟨_, busy, rfl⟩ |
    ⟨first, rest, _, stack, rfl⟩
  · exact ⟨inv.one, inv.known, inv.called⟩
  · have empty := inv.nothing_sent free off
    exact ⟨.inl empty, fun sent => absurd empty sent, fun _ => off⟩
  · have empty := inv.nothing_sent free off
    refine ⟨.inr ?_, fun _ => .inr rfl, fun _ => off⟩
    show (compose s).htm :: s.stack = [(compose s).htm]
    rw [empty]
  · refine ⟨inv.one, fun _ => .inl rfl, ?_⟩
    rintro ⟨⟩
  · have last := inv.only stack
    exact ⟨.inl last, fun sent => absurd last sent, fun _ => rfl⟩

theorem reached_inv {bas : Bas} {acts : List Action} {s : Thermometer Bas}
    (executed : run (step service) (boot bas) acts = some s) : Inv s :=
  run_preserves (fun _ _ _ inv taken => step_inv inv taken) (boot_inv bas) executed

/-! ### The measurements -/

/-- What a receiver reads: no flags, a mantissa of 24 bits and a decimal exponent,
    both signed. -/
def celsius : List UInt8 → Option ℚ
  | [flags, low, mid, high, exponent] =>
    if flags = 0 then
      some (((low.toNat + 256 * mid.toNat + 65536 * high.toNat : Nat) : Int).bmod (2 ^ 24) * (10 : ℚ) ^ exponent.toInt8.toInt)
    else none
  | _ => none

theorem le24_sum (val : UInt32) (small : val.toNat < 2 ^ 24) :
    val.toUInt8.toNat + 256 * (val >>> 8).toUInt8.toNat + 65536 * (val >>> 16).toUInt8.toNat = val.toNat := by
  have mid : (val >>> 8).toNat = val.toNat / 256 := by
    rw [UInt32.toNat_shiftRight]
    exact Nat.shiftRight_eq_div_pow _ 8
  have high : (val >>> 16).toNat = val.toNat / 65536 := by
    rw [UInt32.toNat_shiftRight]
    exact Nat.shiftRight_eq_div_pow _ 16
  simp only [UInt32.toNat_toUInt8, mid, high]
  omega

/-- A measurement reads as its temperature. -/
theorem celsius_measurement {temperature : Nat} (small : temperature * 100 < 2 ^ 23) :
    celsius (measurement temperature) = some (temperature : ℚ) := by
  have value : (UInt32.ofNat (temperature * 100)).toNat = temperature * 100 :=
    UInt32.toNat_ofNat_of_lt' (by rw [UInt32.size]; omega)
  have sum := le24_sum (UInt32.ofNat (temperature * 100)) (by omega)
  rw [value] at sum
  have positive : ((temperature * 100 : Nat) : Int).bmod (2 ^ 24) = (temperature * 100 : Nat) :=
    Int.bmod_eq_of_le (by omega) (by omega)
  have power : exponent.toInt8.toInt = -2 := by decide
  simp only [measurement, sys_put_le24, List.cons_append, List.nil_append, celsius, if_true, sum, positive, power]
  push_cast
  norm_num
  ring

/-- The simulation, after so many measurements. -/
structure Simulated (s : Thermometer Bas) : Prop where
  temperature : s.temperature = 20 + s.composed % 10
  htm : s.composed ≠ 0 → s.htm = measurement s.temperature
  sent : s.stack ≠ [] → s.composed ≠ 0

theorem nextTemperature_eq {s : Thermometer Bas} (temperature : s.temperature = 20 + s.composed % 10) :
    nextTemperature s.temperature = 20 + (s.composed + 1) % 10 := by
  unfold nextTemperature
  split
  · omega
  · omega

theorem step_simulated {s next : Thermometer Bas} {a : Action} (simulated : Simulated s)
    (taken : step service s a = some next) : Simulated next := by
  obtain ⟨temperature, htm, sent⟩ := simulated
  rcases step_cases taken with ⟨_, _, _, _, rfl⟩ | ⟨_, _, _, rfl⟩ | ⟨_, _, _, rfl⟩ | ⟨_, _, rfl⟩ |
    ⟨first, rest, _, stack, rfl⟩
  · exact ⟨temperature, htm, sent⟩
  · exact ⟨nextTemperature_eq temperature, fun _ => rfl, fun _ => Nat.succ_ne_zero _⟩
  · exact ⟨nextTemperature_eq temperature, fun _ => rfl, fun _ => Nat.succ_ne_zero _⟩
  · exact ⟨temperature, htm, sent⟩
  · exact ⟨temperature, htm, fun _ => sent (by simp [stack])⟩

theorem reached_simulated {bas : Bas} {acts : List Action} {s : Thermometer Bas}
    (executed : run (step service) (boot bas) acts = some s) : Simulated s := by
  refine run_preserves (fun _ _ _ simulated taken => step_simulated simulated taken) ?_ executed
  constructor <;> simp [boot]

/-- **One indication.** In every interleaving, at most one indication is on its
    way; its buffer is not written to meanwhile, and reads as the temperature of
    the simulation, which counts from 20 to 29 degrees and starts again. -/
theorem one_indication {bas : Bas} {acts : List Action} {s : Thermometer Bas}
    (executed : run (step service) (boot bas) acts = some s) :
    s.stack.length ≤ 1 ∧ s.temperature = 20 + s.composed % 10 ∧
    ∀ sent ∈ s.stack, s.htm = sent ∧ celsius sent = some (s.temperature : ℚ) := by
  have inv := reached_inv executed
  obtain ⟨temperature, htm, composed⟩ := reached_simulated executed
  refine ⟨?_, temperature, ?_⟩
  · rcases inv.one with empty | one
    · simp [empty]
    · simp [one]
  · intro sent member
    have same : s.htm = sent := by
      rcases inv.one with empty | one
      · rw [empty] at member
        cases member
      · rw [one] at member
        exact (List.mem_singleton.mp member).symm
    refine ⟨same, ?_⟩
    rw [← same, htm (composed (List.ne_nil_of_mem member))]
    exact celsius_measurement (by omega)

/-- Two rounds of the main loop. -/
def twoRounds : List Action := [.ccc 2, .indicate 0, .flag, .battery, .indicate 0]

/-- The second call finds the first indication on its way. -/
theorem one_indication_twice : ∃ s, run (step levelService) (boot 100) twoRounds = some s ∧
    s.stack.length ≤ 1 ∧ s.temperature = 20 + s.composed % 10 ∧
    ∀ sent ∈ s.stack, s.htm = sent ∧ celsius sent = some (s.temperature : ℚ) :=
  ⟨_, rfl, one_indication (show run (step levelService) (boot 100) twoRounds = some _ from rfl)⟩

/-! ### The battery -/

/-- What `bas_notify` sets the level to. -/
def nextLevel (level : UInt8) : UInt8 := if level - 1 = 0 then 100 else level - 1

theorem nextLevel_toNat {level : UInt8} (low : 1 ≤ level.toNat) :
    (nextLevel level).toNat = if level.toNat = 1 then 100 else level.toNat - 1 := by
  have less : (level - 1).toNat = level.toNat - 1 := by
    rw [UInt8.toNat_sub_of_le level 1 (UInt8.le_iff_toNat_le.mpr low)]
    rfl
  have empty : level - 1 = 0 ↔ level.toNat = 1 := by
    rw [← UInt8.toNat_inj, less]
    show level.toNat - 1 = 0 ↔ level.toNat = 1
    omega
  unfold nextLevel
  by_cases last : level.toNat = 1
  · rw [if_pos (empty.mpr last), if_pos last]
    rfl
  · rw [if_neg (mt empty.mp last), if_neg last, less]

variable (service) in
/-- The level, after so many calls from a level to start with. -/
def Drained (start : UInt8) (s : Thermometer Bas) : Prop :=
  ((service.bt_bas_get_battery_level s.bas).toNat : Int) = ((start.toNat : Int) - 1 - s.notified) % 100 + 1

theorem bas_notify_drained (documented : service.Documented) {start : UInt8} {s : Thermometer Bas}
    (drained : Drained service start s) : Drained service start (bas_notify service s) := by
  unfold Drained at drained ⊢
  have low : 1 ≤ (service.bt_bas_get_battery_level s.bas).toNat := by omega
  have next := nextLevel_toNat low
  have percent : nextLevel (service.bt_bas_get_battery_level s.bas) ≤ 100 := by
    rw [UInt8.le_iff_toNat_le, next]
    show _ ≤ 100
    split <;> omega
  have kept : service.bt_bas_get_battery_level (bas_notify service s).bas =
      nextLevel (service.bt_bas_get_battery_level s.bas) := documented _ s.bas percent
  have count : (bas_notify service s).notified = s.notified + 1 := rfl
  rw [kept, next, count]
  split
  · push_cast
    omega
  · push_cast
    omega

theorem step_drained (documented : service.Documented) {start : UInt8} {s next : Thermometer Bas} {a : Action}
    (drained : Drained service start s) (taken : step service s a = some next) : Drained service start next := by
  cases a with
  | ccc value =>
    cases taken
    exact drained
  | indicate result =>
    rw [step] at taken
    split at taken
    · cases taken
    · cases taken
      rcases hts_indicate_cases result s with same | ⟨_, _, same⟩ | ⟨_, same⟩
      · rw [same]
        exact drained
      · rw [same]
        exact drained
      · rw [same]
        exact drained
  | flag =>
    rw [step] at taken
    split at taken
    · cases taken
      exact drained
    · cases taken
  | destroy =>
    rw [step] at taken
    split at taken
    · cases taken
    · cases taken
      exact drained
  | battery =>
    rw [step] at taken
    split at taken
    · cases taken
    · cases taken
      exact bas_notify_drained documented drained

/-- **The battery.** In every interleaving from a level of 1 to 100, the level goes
    down by one with each call, and from 1 to 100. -/
theorem battery_cycle (documented : service.Documented) {bas : Bas}
    (low : 1 ≤ (service.bt_bas_get_battery_level bas).toNat) (high : (service.bt_bas_get_battery_level bas).toNat ≤ 100)
    {acts : List Action} {s : Thermometer Bas} (executed : run (step service) (boot bas) acts = some s) :
    ((service.bt_bas_get_battery_level s.bas).toNat : Int) =
      ((service.bt_bas_get_battery_level bas).toNat - 1 - s.notified : Int) % 100 + 1 := by
  have started : Drained service (service.bt_bas_get_battery_level bas) (boot bas) := by
    simp only [Drained, boot]
    push_cast
    omega
  exact run_preserves (P := Drained service _) (fun _ _ _ drained taken => step_drained documented drained taken)
    started executed

/-! ### When indications cease -/

/-- Nothing is on its way, but the main thread believes so, or is about to. -/
def Lost (s : Thermometer Bas) : Prop := s.stack = [] ∧ (s.indicating = true ∨ s.returned = true)

/-- The stack does not complete an indication before the main thread has noted it. -/
def Ordered (s : Thermometer Bas) (a : Action) : Prop := a = .destroy → s.returned = false

theorem boot_not_lost (bas : Bas) : ¬ Lost (boot bas) := by simp [Lost, boot]

/-- Where nothing is lost, a step loses something exactly if it completes an
    indication too early. -/
theorem step_lost_iff {s next : Thermometer Bas} {a : Action} (inv : Inv s) (kept : ¬ Lost s)
    (taken : step service s a = some next) : ¬ Lost next ↔ Ordered s a := by
  rcases step_cases taken with ⟨other, _, _, _, rfl⟩ | ⟨other, free, off, rfl⟩ | ⟨other, _, _, rfl⟩ | ⟨other, busy, rfl⟩ |
    ⟨first, rest, destroyed, stack, rfl⟩
  · exact ⟨fun _ same => absurd same other, fun _ => kept⟩
  · refine ⟨fun _ same => absurd same other, fun _ => ?_⟩
    rintro ⟨_, set | sent⟩
    · exact absurd (off.symm.trans set) Bool.false_ne_true
    · exact absurd (free.symm.trans sent) Bool.false_ne_true
  · refine ⟨fun _ same => absurd same other, fun _ => ?_⟩
    rintro ⟨empty, _⟩
    cases empty
  · refine ⟨fun _ same => absurd same other, fun _ => ?_⟩
    rintro ⟨empty, _⟩
    exact kept ⟨empty, .inr busy⟩
  · have last := inv.only stack
    constructor
    · intro found _
      by_contra early
      exact found ⟨last, .inr (Bool.not_eq_false _ ▸ early)⟩
    · rintro ordered ⟨_, set | sent⟩
      · cases set
      · exact absurd ((ordered destroyed).symm.trans sent) Bool.false_ne_true

/-- What is lost stays lost: there is no further measurement. -/
theorem step_lost {s next : Thermometer Bas} {a : Action} (lost : Lost s) (taken : step service s a = some next) :
    Lost next ∧ next.composed = s.composed := by
  obtain ⟨empty, believes⟩ := lost
  rcases step_cases taken with ⟨_, _, _, _, rfl⟩ | ⟨_, free, off, rfl⟩ | ⟨_, free, off, rfl⟩ | ⟨_, busy, rfl⟩ |
    ⟨first, rest, _, stack, rfl⟩
  · exact ⟨⟨empty, believes⟩, rfl⟩
  · simp [free, off] at believes
  · simp [free, off] at believes
  · exact ⟨⟨empty, .inl rfl⟩, rfl⟩
  · rw [stack] at empty
    cases empty

/-- **Indications go on.** At the end of every interleaving, what the main thread
    believes to be on its way is, exactly if the stack has never completed an
    indication between the call and the assignment of `indicating`. After it has
    done so once, no measurement is ever sent again. -/
theorem indications_go_on_iff {bas : Bas} {acts : List Action} {s : Thermometer Bas}
    (executed : run (step service) (boot bas) acts = some s) :
    ((s.stack ≠ [] ↔ s.indicating = true ∨ s.returned = true) ↔ EachStep (step service) Ordered (boot bas) acts) ∧
    (¬ EachStep (step service) Ordered (boot bas) acts →
      ∀ later last, run (step service) s later = some last → last.stack = [] ∧ last.composed = s.composed) := by
  have exact_ : ¬ Lost s ↔ EachStep (step service) Ordered (boot bas) acts :=
    last_iff_eachStep (fun _ _ _ inv taken => step_inv inv taken)
      (fun _ _ _ inv kept taken => step_lost_iff inv kept taken)
      (fun _ _ _ _ lost taken => not_not.mpr (step_lost (not_not.mp lost) taken).1)
      (boot_inv bas) (boot_not_lost bas) executed
  have inv := reached_inv executed
  constructor
  · rw [← exact_]
    constructor
    · rintro same ⟨empty, believes⟩
      exact same.mpr believes empty
    · intro kept
      refine ⟨inv.known, fun believes empty => kept ⟨empty, believes⟩⟩
  · intro early later last continued
    have lost : Lost s := by
      by_contra kept
      exact early (exact_.mp kept)
    have ended : Lost last ∧ last.composed = s.composed :=
      run_preserves (P := fun t => Lost t ∧ t.composed = s.composed)
        (fun t a next before taken => by
          obtain ⟨still, same⟩ := step_lost before.1 taken
          exact ⟨still, same.trans before.2⟩)
        ⟨lost, rfl⟩ continued
    exact ⟨ended.1.1, ended.2⟩

/-- The stack completes the only indication before the main thread has noted it. -/
def tooEarly : List Action := [.ccc 2, .indicate 0, .destroy, .flag]

theorem indications_go_on_iff_early : ∃ s, run (step levelService) (boot 100) tooEarly = some s ∧
    ((s.stack ≠ [] ↔ s.indicating = true ∨ s.returned = true) ↔ EachStep (step levelService) Ordered (boot 100) tooEarly) ∧
    (¬ EachStep (step levelService) Ordered (boot 100) tooEarly →
      ∀ later last, run (step levelService) s later = some last → last.stack = [] ∧ last.composed = s.composed) :=
  ⟨_, rfl, indications_go_on_iff (show run (step levelService) (boot 100) tooEarly = some _ from rfl)⟩

end ZephyrWorkshop.Hts
