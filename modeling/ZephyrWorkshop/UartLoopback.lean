import Mathlib.Data.List.Basic
import ZephyrWorkshop.Transition
import ZephyrWorkshop.Zephyr

/-!
The UART of the shell sample once the shell has released it,
`samples/04_shell/src/uart_reinit.c`: what is received is sent back, until an `x`
brings the shell back. With interrupts there is one byte of memory for both
directions, so that a byte which arrives before the last one is done is not sent
back, or takes its place (`loopback_exact_iff`). The shell comes back all the same
once the last byte is an `x` (`loopback_returns`). The variant that polls has no
such memory, and agrees where the bytes come one at a time (`variants_agree`).
-/

namespace ZephyrWorkshop.UartLoopback
open ZephyrWorkshop.Zephyr ZephyrWorkshop.Transition

/-- The byte that brings the shell back. -/
def X : UInt8 := 'x'.toUInt8

/-! ### With interrupts -/

/-- The UART, the static variables of `direct_uart_callback`, and, for the proofs
    only, what went over the two wires and how often the shell was to come back. -/
structure Uart where
  rx_fifo : List UInt8
  rx_irq : Bool
  tx_irq : Bool
  /-- The transmitter has a byte and takes no other. -/
  transmitting : Bool
  buf : UInt8
  tx_busy : Bool
  received : List UInt8
  sent : List UInt8
  reinit : Nat
deriving DecidableEq, Repr

/-- The shell is released; the static buffer holds what it was left with. -/
def released (buf : UInt8) : Uart := ⟨[], true, false, false, buf, false, [], [], 0⟩

/-- A byte arrives; the transmitter can take the next one; the handler runs, and
    whether it finds the transmitter ready. -/
inductive UartAction
  | Arrive (byte : UInt8)
  | Sent
  | Interrupt (tx_ready : Bool)
deriving DecidableEq, Repr

/-- The loop over `uart_fifo_read`. -/
def fifo_read : List UInt8 → Uart → Uart
  | [], s => { s with rx_fifo := [] }
  | byte :: rest, s =>
    let s := { s with buf := byte }
    fifo_read rest (if !s.tx_busy then { s with tx_irq := true } else s)

/-- The branch of a transmitter that is ready. -/
def fifo_fill (s : Uart) : Uart :=
  if !s.tx_busy then { s with transmitting := true, sent := s.sent ++ [s.buf], tx_busy := true }
  else
    let s := { s with tx_busy := false, tx_irq := false }
    if s.buf = X then { s with rx_irq := false, reinit := s.reinit + 1 } else s

/-- The transmitter is ready while its interrupt is enabled and it has no byte;
    the status may be older than what the handler has just enabled. -/
def direct_uart_callback (tx_ready : Bool) (s : Uart) : Option Uart :=
  let s := fifo_read s.rx_fifo s
  if tx_ready then if s.tx_irq && !s.transmitting then some (fifo_fill s) else none else some s

def step (s : Uart) : UartAction → Option Uart
  | .Arrive byte => some { s with rx_fifo := s.rx_fifo ++ [byte], received := s.received ++ [byte] }
  | .Sent => if s.transmitting then some { s with transmitting := false } else none
  | .Interrupt tx_ready =>
    if s.rx_irq && !s.rx_fifo.isEmpty || s.tx_irq && !s.transmitting then direct_uart_callback tx_ready s else none

/-! ### What one step does -/

/-- What the handler has read before it turns to the transmitter: the last byte stays. -/
def readOut (s : Uart) : Uart :=
  { s with
    rx_fifo := [], buf := s.rx_fifo.getLastD s.buf, tx_irq := s.tx_irq || !s.rx_fifo.isEmpty && !s.tx_busy }

theorem fifo_read_eq (bytes : List UInt8) (s : Uart) : fifo_read bytes s =
    { s with rx_fifo := [], buf := bytes.getLastD s.buf, tx_irq := s.tx_irq || !bytes.isEmpty && !s.tx_busy } := by
  induction bytes generalizing s with
  | nil => simp [fifo_read]
  | cons byte rest ih =>
    rw [fifo_read, ih, List.getLastD_cons]
    cases s.tx_busy <;> simp

/-- The steps, with all that each of them changes. -/
theorem step_cases {s next : Uart} {a : UartAction} (taken : step s a = some next) :
    (∃ byte, a = .Arrive byte ∧
      next = { s with rx_fifo := s.rx_fifo ++ [byte], received := s.received ++ [byte] }) ∨
    (a = .Sent ∧ s.transmitting = true ∧ next = { s with transmitting := false }) ∨
    (∃ tx_ready, a = .Interrupt tx_ready ∧
      (s.rx_irq = true ∧ s.rx_fifo ≠ [] ∨ s.tx_irq = true ∧ s.transmitting = false) ∧
      (next = readOut s ∨
        (readOut s).tx_irq = true ∧ s.transmitting = false ∧ s.tx_busy = false ∧
          next = { readOut s with
            transmitting := true, sent := s.sent ++ [(readOut s).buf], tx_busy := true } ∨
        s.tx_irq = true ∧ s.transmitting = false ∧ s.tx_busy = true ∧
          next = { readOut s with
            tx_busy := false, tx_irq := false, rx_irq := s.rx_irq && (readOut s).buf != X,
            reinit := s.reinit + if (readOut s).buf = X then 1 else 0 })) := by
  cases a with
  | Arrive byte => exact .inl ⟨byte, rfl, (Option.some.inj taken).symm⟩
  | Sent =>
    simp only [step] at taken
    split at taken
    · rename_i busy
      exact .inr (.inl ⟨rfl, busy, (Option.some.inj taken).symm⟩)
    · cases taken
  | Interrupt tx_ready =>
    simp only [step, direct_uart_callback, fifo_read_eq] at taken
    split at taken
    · rename_i pending
      have pending : s.rx_irq = true ∧ s.rx_fifo ≠ [] ∨ s.tx_irq = true ∧ s.transmitting = false := by
        simpa using pending
      refine .inr (.inr ⟨tx_ready, rfl, pending, ?_⟩)
      split at taken
      · split at taken
        · rename_i ready
          have next_eq := (Option.some.inj taken).symm
          simp only [Bool.and_eq_true, Bool.not_eq_true'] at ready
          right
          cases busy : s.tx_busy with
          | false =>
            left
            refine ⟨ready.1, ready.2, rfl, ?_⟩
            simp [next_eq, fifo_fill, readOut, busy]
          | true =>
            right
            have enabled : s.tx_irq = true := by simpa [busy] using ready.1
            refine ⟨enabled, ready.2, rfl, ?_⟩
            simp only [next_eq, fifo_fill, readOut, busy]
            generalize s.rx_fifo.getLastD s.buf = last
            by_cases x : last = X <;> simp [x]
        · cases taken
      · exact .inl (Option.some.inj taken).symm
    · cases taken

/-! ### The handler between two steps -/

/-- A byte waits in `buf` to be sent. -/
def waiting (s : Uart) : Bool := s.tx_irq && !s.tx_busy

/-- What holds between any two steps, where `read` is what the handler has read. -/
structure Inv (s : Uart) (read : List UInt8) : Prop where
  received : s.received = read ++ s.rx_fifo
  /-- What was sent, and what waits, was read in this order. -/
  echoed : (s.sent ++ if waiting s then [s.buf] else []).Sublist read
  latest : s.tx_irq = true → read.getLast? = some s.buf
  busy : s.tx_busy = true → s.tx_irq = true
  transmitting : s.transmitting = true → s.tx_busy = true
  on : s.rx_irq = true → s.reinit = 0 ∧ (s.tx_irq = false → read.getLast? ≠ some X)
  off : s.rx_irq = false → s.reinit = 1 ∧ s.tx_irq = false ∧ read.getLast? = some X

theorem released_inv (buf : UInt8) : Inv (released buf) [] := by
  constructor <;> simp [released, waiting]

theorem Inv.sent {s : Uart} {read : List UInt8} (inv : Inv s read) : s.sent.Sublist read :=
  (List.sublist_append_left _ _).trans inv.echoed

/-- A state in which the handler has read all bytes. -/
theorem readOut_of_empty {s : Uart} (empty : s.rx_fifo = []) : readOut s = s := by
  obtain ⟨rx_fifo, _, _, _, _, _, _, _, _⟩ := s
  subst empty
  simp [readOut]

/-- The handler reads, which it only does while the shell is not to come back. -/
theorem Inv.read_out {s : Uart} {read : List UInt8} (inv : Inv s read) (on : s.rx_irq = true) :
    Inv (readOut s) (read ++ s.rx_fifo) := by
  by_cases empty : s.rx_fifo = []
  · rw [readOut_of_empty empty, empty, List.append_nil]
    exact inv
  have enabled : (readOut s).tx_irq = true := by
    cases irq : s.tx_irq with
    | true => simp [readOut, irq]
    | false =>
      have idle : s.tx_busy = false := by
        rw [← Bool.not_eq_true]
        intro busy
        rw [inv.busy busy] at irq
        cases irq
      simp [readOut, irq, idle, empty]
  have last : (read ++ s.rx_fifo).getLast? = some (readOut s).buf := by
    rw [List.getLast?_append_of_ne_nil _ empty]
    obtain ⟨byte, rest, fifo⟩ := List.exists_cons_of_ne_nil empty
    simp [readOut, fifo, List.getLast?_cons]
  constructor
  · exact inv.received.trans (List.append_nil _).symm
  · by_cases idle : waiting (readOut s) = true
    · rw [if_pos idle]
      refine List.Sublist.append inv.sent (List.singleton_sublist.mpr ?_)
      rw [List.getLast?_append_of_ne_nil _ empty] at last
      exact List.mem_of_getLast? last
    · rw [if_neg idle, List.append_nil]
      exact inv.sent.trans (List.sublist_append_left _ _)
  · exact fun _ => last
  · exact fun _ => enabled
  · exact inv.transmitting
  · intro _
    refine ⟨(inv.on on).1, ?_⟩
    intro disabled
    rw [enabled] at disabled
    cases disabled
  · intro off
    exact absurd (on.symm.trans off) (by decide)

/-- An interrupt only comes while the shell is not to come back. -/
theorem Inv.enabled {s : Uart} {read : List UInt8} (inv : Inv s read)
    (pending : s.rx_irq = true ∧ s.rx_fifo ≠ [] ∨ s.tx_irq = true ∧ s.transmitting = false) : s.rx_irq = true := by
  rcases pending with ⟨on, _⟩ | ⟨irq, _⟩
  · exact on
  · rw [← Bool.not_eq_false]
    intro off
    have disabled := (inv.off off).2.1
    rw [irq] at disabled
    cases disabled

/-- The waiting byte is sent. -/
theorem Inv.fill {s : Uart} {read : List UInt8} (inv : Inv s read) (on : s.rx_irq = true) (irq : s.tx_irq = true)
    (idle : s.tx_busy = false) :
    Inv { s with transmitting := true, sent := s.sent ++ [s.buf], tx_busy := true } read := by
  have waits : waiting s = true := by simp [waiting, irq, idle]
  have echoed := inv.echoed
  rw [if_pos waits] at echoed
  constructor
  · exact inv.received
  · have none : waiting { s with transmitting := true, sent := s.sent ++ [s.buf], tx_busy := true } = false := by
      simp [waiting]
    rw [none, if_neg (by decide), List.append_nil]
    exact echoed
  · exact inv.latest
  · exact fun _ => irq
  · exact fun _ => rfl
  · exact inv.on
  · intro off
    exact absurd (on.symm.trans off) (by decide)

/-- The byte is done, and decides whether the shell comes back. -/
theorem Inv.complete {s : Uart} {read : List UInt8} (inv : Inv s read) (on : s.rx_irq = true) (irq : s.tx_irq = true)
    (done : s.transmitting = false) :
    Inv { s with
      tx_busy := false, tx_irq := false, rx_irq := s.rx_irq && s.buf != X
      reinit := s.reinit + if s.buf = X then 1 else 0 } read := by
  have last := inv.latest irq
  have zero := (inv.on on).1
  constructor
  · exact inv.received
  · show (s.sent ++ if waiting { s with tx_busy := false, tx_irq := false, rx_irq := _, reinit := _ } then _ else []).Sublist read
    simpa [waiting] using inv.sent
  · intro enabled
    cases enabled
  · intro busy
    cases busy
  · intro busy
    exact absurd (done.symm.trans busy) (by decide)
  · intro stays
    have other : s.buf ≠ X := by simpa [on] using stays
    refine ⟨by simp [zero, other], ?_⟩
    intro _
    rw [last]
    simpa using other
  · intro off
    have x : s.buf = X := by simpa [on] using off
    exact ⟨by simp [zero, x], rfl, by rw [last, x]⟩

theorem step_inv {s next : Uart} {a : UartAction} (holds : ∃ read, Inv s read) (taken : step s a = some next) :
    ∃ read, Inv next read := by
  obtain ⟨read, inv⟩ := holds
  rcases step_cases taken with ⟨byte, _, rfl⟩ | ⟨_, _, rfl⟩ | ⟨tx_ready, _, pending, effect⟩
  · refine ⟨read, ?_⟩
    obtain ⟨received, echoed, latest, busy, transmitting, on, off⟩ := inv
    exact ⟨by rw [received, List.append_assoc], echoed, latest, busy, transmitting, on, off⟩
  · refine ⟨read, ?_⟩
    obtain ⟨received, echoed, latest, busy, _, on, off⟩ := inv
    exact ⟨received, echoed, latest, busy, fun never => absurd never Bool.false_ne_true, on, off⟩
  · have on := inv.enabled pending
    have reads := inv.read_out on
    refine ⟨read ++ s.rx_fifo, ?_⟩
    rcases effect with rfl | ⟨irq, _, idle, rfl⟩ | ⟨irq, done, busy, rfl⟩
    · exact reads
    · exact reads.fill on irq idle
    · exact reads.complete on (by simp [readOut, irq]) done

theorem run_inv {buf : UInt8} {acts : List UartAction} {s : Uart} (executed : run step (released buf) acts = some s) :
    ∃ read, Inv s read :=
  run_preserves (fun _ _ _ holds taken => step_inv holds taken) ⟨[], released_inv buf⟩ executed

/-- The handler has nothing left to do. -/
def Rest (s : Uart) : Prop := s.rx_fifo = [] ∧ s.tx_irq = false

theorem Inv.reinit_le {s : Uart} {read : List UInt8} (inv : Inv s read) : s.reinit ≤ 1 := by
  cases irq : s.rx_irq with
  | true =>
    rw [(inv.on irq).1]
    decide
  | false => rw [(inv.off irq).1]

theorem Inv.returns_iff {s : Uart} {read : List UInt8} (inv : Inv s read) (rest : Rest s) :
    s.reinit = 1 ↔ s.received.getLast? = some X := by
  obtain ⟨empty, disabled⟩ := rest
  have received := inv.received
  rw [empty, List.append_nil] at received
  rw [received]
  cases irq : s.rx_irq with
  | true =>
    obtain ⟨zero, other⟩ := inv.on irq
    rw [zero]
    exact ⟨fun back => absurd back Nat.zero_ne_one, fun x => absurd x (other disabled)⟩
  | false =>
    obtain ⟨back, _, x⟩ := inv.off irq
    exact ⟨fun _ => x, fun _ => back⟩

/-- **The way back.** In every interleaving of arriving bytes, the transmitter and
    the handler, what is sent is part of what was received, in the same order, the
    shell comes back once at most, and from then on nothing is enabled and the static
    variables are such that the next release starts as this one. Once the handler has
    nothing left to do, the shell is to come back exactly if the last byte was an `x`. -/
theorem loopback_returns {buf : UInt8} {acts : List UartAction} {s : Uart}
    (executed : run step (released buf) acts = some s) :
    s.sent.Sublist s.received ∧ s.reinit ≤ 1 ∧
    (s.reinit = 1 → s.rx_irq = false ∧ s.tx_irq = false ∧ s.tx_busy = false ∧ s.transmitting = false) ∧
    (Rest s → (s.reinit = 1 ↔ s.received.getLast? = some X)) := by
  obtain ⟨read, inv⟩ := run_inv executed
  refine ⟨?_, inv.reinit_le, ?_, inv.returns_iff⟩
  · rw [inv.received]
    exact inv.sent.trans (List.sublist_append_left _ _)
  · intro back
    cases irq : s.rx_irq with
    | true =>
      rw [(inv.on irq).1] at back
      cases back
    | false =>
      have disabled := (inv.off irq).2.1
      have idle : s.tx_busy = false := by
        rw [← Bool.not_eq_true]
        intro busy
        exact absurd ((inv.busy busy).symm.trans disabled) (by decide)
      have still : s.transmitting = false := by
        rw [← Bool.not_eq_true]
        intro transmitting
        exact absurd ((inv.transmitting transmitting).symm.trans idle) (by decide)
      exact ⟨rfl, disabled, idle, still⟩

/-- `a`, and an `x` while it is sent: the `x` is not sent back, but brings the shell back. -/
def hurried : List UartAction :=
  [.Arrive 'a'.toUInt8, .Interrupt true, .Arrive X, .Interrupt false, .Sent, .Interrupt true]

theorem loopback_returns_hurried : ∃ s, run step (released 0) hurried = some s ∧ s.sent = ['a'.toUInt8] ∧
    (s.reinit = 1 ↔ s.received.getLast? = some X) := by
  have executed := (rfl : run step (released 0) hurried = some _)
  obtain ⟨_, _, _, returns⟩ := loopback_returns executed
  exact ⟨_, executed, rfl, returns ⟨rfl, rfl⟩⟩

/-! ### What is lost -/

/-- A byte is on its way to being sent back. -/
def pending (s : Uart) : Bool := !s.tx_busy && (s.tx_irq || s.rx_irq && !s.rx_fifo.isEmpty)

/-- The bytes that were sent back, and the one that will be. -/
def accounted (s : Uart) : Nat := s.sent.length + if pending s then 1 else 0

/-- A byte arrives only while the handler has nothing left to do and the shell is
    not to come back. -/
def Alone (s : Uart) (a : UartAction) : Prop :=
  ∀ byte, a = .Arrive byte → s.rx_irq = true ∧ s.rx_fifo = [] ∧ s.tx_irq = false

theorem alone_of_ne {s : Uart} {a : UartAction} (other : ∀ byte, a ≠ .Arrive byte) : Alone s a :=
  fun byte same => absurd same (other byte)

/-- An arrival is accounted for exactly if it is alone. -/
theorem accounted_arrive {s : Uart} {read : List UInt8} (inv : Inv s read) (byte : UInt8) :
    (Alone s (.Arrive byte) ∧
      accounted { s with rx_fifo := s.rx_fifo ++ [byte], received := s.received ++ [byte] } = accounted s + 1) ∨
    (¬ Alone s (.Arrive byte) ∧
      accounted { s with rx_fifo := s.rx_fifo ++ [byte], received := s.received ++ [byte] } = accounted s) := by
  have nonempty : (s.rx_fifo ++ [byte]).isEmpty = false := by simp
  cases irq : s.tx_irq with
  | true =>
    right
    constructor
    · intro alone
      exact absurd (irq.symm.trans (alone byte rfl).2.2) (by decide)
    · simp [accounted, pending, irq]
  | false =>
    have idle : s.tx_busy = false := by
      rw [← Bool.not_eq_true]
      intro busy
      rw [inv.busy busy] at irq
      cases irq
    cases on : s.rx_irq with
    | false =>
      right
      constructor
      · intro alone
        exact absurd (on.symm.trans (alone byte rfl).1) (by decide)
      · simp [accounted, pending, irq, on]
    | true =>
      by_cases empty : s.rx_fifo = []
      · left
        exact ⟨fun _ _ => ⟨on, empty, irq⟩, by simp [accounted, pending, irq, idle, on, empty]⟩
      · right
        refine ⟨fun alone => absurd (alone byte rfl).2.1 empty, ?_⟩
        simp [accounted, pending, irq, idle, on, empty]

/-- What the handler and the transmitter do loses nothing and doubles nothing. -/
theorem accounted_step {s next : Uart} {a : UartAction} {read : List UInt8} (inv : Inv s read)
    (other : ∀ byte, a ≠ .Arrive byte) (taken : step s a = some next) :
    accounted next = accounted s ∧ next.received = s.received := by
  rcases step_cases taken with ⟨byte, rfl, _⟩ | ⟨_, _, rfl⟩ | ⟨tx_ready, _, cause, effect⟩
  · exact absurd rfl (other byte)
  · exact ⟨rfl, rfl⟩
  · have on := inv.enabled cause
    have reads : accounted (readOut s) = accounted s := by
      cases idle : s.tx_busy <;> simp [accounted, pending, readOut, idle, on]
    rcases effect with rfl | ⟨irq, _, idle, rfl⟩ | ⟨irq, _, busy, rfl⟩
    · exact ⟨reads, rfl⟩
    · refine ⟨?_, rfl⟩
      rw [← reads]
      have same : (readOut s).tx_busy = false := idle
      simp only [accounted, pending, irq, same]
      simp [readOut]
    · refine ⟨?_, rfl⟩
      have empty : (readOut s).rx_fifo = [] := rfl
      rw [← reads]
      simp [accounted, pending, readOut, busy]

/-- Every byte is accounted for, or one was lost. -/
def Complete (s : Uart) : Prop := accounted s = s.received.length

theorem step_complete_iff {s next : Uart} {a : UartAction} (holds : (∃ read, Inv s read) ∧ accounted s ≤ s.received.length)
    (taken : step s a = some next) :
    accounted next ≤ next.received.length ∧ (Complete s → (Complete next ↔ Alone s a)) ∧ (¬ Complete s → ¬ Complete next) := by
  obtain ⟨⟨read, inv⟩, bound⟩ := holds
  unfold Complete
  by_cases arrives : ∃ byte, a = .Arrive byte
  · obtain ⟨byte, rfl⟩ := arrives
    cases taken
    have longer : (s.received ++ [byte]).length = s.received.length + 1 := by simp
    rcases accounted_arrive inv byte with ⟨alone, more⟩ | ⟨late, same⟩
    · rw [more, longer]
      exact ⟨by omega, fun _ => ⟨fun _ => alone, fun _ => by omega⟩, fun lost => by omega⟩
    · rw [same, longer]
      exact ⟨by omega, fun _ => ⟨fun _ => by omega, fun alone => absurd alone late⟩, fun lost => by omega⟩
  · have other : ∀ byte, a ≠ .Arrive byte := fun byte same => arrives ⟨byte, same⟩
    obtain ⟨same, received⟩ := accounted_step inv other taken
    rw [same, received]
    exact ⟨bound, fun complete => ⟨fun _ => alone_of_ne other, fun _ => complete⟩, fun lost => lost⟩

theorem complete_iff {buf : UInt8} {acts : List UartAction} {s : Uart} (executed : run step (released buf) acts = some s) :
    Complete s ↔ EachStep step Alone (released buf) acts := by
  refine last_iff_eachStep (I := fun s => (∃ read, Inv s read) ∧ accounted s ≤ s.received.length) ?_ ?_ ?_
    ⟨⟨[], released_inv buf⟩, Nat.le_refl _⟩ rfl executed
  · exact fun s a next holds taken => ⟨step_inv holds.1 taken, (step_complete_iff holds taken).1⟩
  · exact fun s a next holds complete taken => (step_complete_iff holds taken).2.1 complete
  · exact fun s a next holds lost taken => (step_complete_iff holds taken).2.2 lost

theorem sent_iff {s : Uart} {read : List UInt8} (inv : Inv s read) (rest : Rest s) : s.sent = s.received ↔ Complete s := by
  obtain ⟨empty, disabled⟩ := rest
  have none : pending s = false := by simp [pending, disabled, empty]
  rw [Complete, accounted, none, if_neg (by decide), Nat.add_zero]
  constructor
  · intro same
    rw [same]
  · intro lengths
    have part : s.sent.Sublist s.received := by
      rw [inv.received, empty, List.append_nil]
      exact inv.sent
    exact part.eq_of_length lengths

/-- **The loopback.** In every interleaving, once the handler has nothing left to
    do, what was sent is what was received exactly if each byte arrived while the
    handler had nothing left to do. -/
theorem loopback_exact_iff {buf : UInt8} {acts : List UartAction} {s : Uart}
    (executed : run step (released buf) acts = some s) (rest : Rest s) :
    s.sent = s.received ↔ EachStep step Alone (released buf) acts := by
  obtain ⟨read, inv⟩ := run_inv executed
  exact (sent_iff inv rest).trans (complete_iff executed)

theorem loopback_exact_iff_hurried : ¬ EachStep step Alone (released 0) hurried := by
  have executed := (rfl : run step (released 0) hurried = some _)
  rw [← loopback_exact_iff executed ⟨rfl, rfl⟩]
  decide

/-! ### With polling -/

/-- Whether the timer runs, what was written, and how often the shell was to come back. -/
structure Polled where
  timer : Bool
  output : List UInt8
  reinit : Nat
deriving DecidableEq, Repr

/-- Only a timer that runs is stopped, which calls `uart_poll_timer_stopped`. -/
def k_timer_stop (s : Polled) : Polled := if s.timer then { s with timer := false, reinit := s.reinit + 1 } else s

/-- The loop over `uart_poll_in`. -/
def uart_poll_timeout : List UInt8 → Polled → Polled
  | [], s => s
  | c :: rest, s => uart_poll_timeout rest (if c ≠ X then { s with output := s.output ++ [c] } else k_timer_stop s)

/-- The expiries of the timer, for the bytes that each of them finds. -/
def polled (batches : List (List UInt8)) : Polled :=
  batches.foldl (fun s batch => if s.timer then uart_poll_timeout batch s else s) ⟨true, [], 0⟩

theorem uart_poll_timeout_eq (bytes : List UInt8) (s : Polled) : uart_poll_timeout bytes s =
    { timer := s.timer && !decide (X ∈ bytes)
      output := s.output ++ bytes.filter (· ≠ X)
      reinit := s.reinit + if s.timer = true ∧ X ∈ bytes then 1 else 0 } := by
  induction bytes generalizing s with
  | nil => simp [uart_poll_timeout]
  | cons c rest ih =>
    rw [uart_poll_timeout, ih]
    by_cases x : c = X
    · subst x
      cases running : s.timer <;> simp [k_timer_stop, running]
    · simp [x, Ne.symm x]

/-- Once stopped, the timer does not expire. -/
theorem stopped_eq (batches : List (List UInt8)) {s : Polled} (stopped : s.timer = false) :
    batches.foldl (fun s batch => if s.timer then uart_poll_timeout batch s else s) s = s := by
  induction batches with
  | nil => rfl
  | cons batch rest ih => rw [List.foldl_cons, stopped, if_neg (by decide), ih]

/-- Where an `x` is the last byte, or there is none, all others are written. -/
theorem polled_eq {batches : List (List UInt8)} (last : X ∉ batches.flatten.dropLast) (output : List UInt8) :
    batches.foldl (fun s batch => if s.timer then uart_poll_timeout batch s else s) ⟨true, output, 0⟩ =
      ⟨!decide (X ∈ batches.flatten), output ++ batches.flatten.filter (· ≠ X),
        if X ∈ batches.flatten then 1 else 0⟩ := by
  induction batches generalizing output with
  | nil => simp
  | cons batch rest ih =>
    rw [List.flatten_cons] at last ⊢
    rw [List.foldl_cons, if_pos rfl, uart_poll_timeout_eq]
    by_cases x : X ∈ batch
    · -- the timer stops, and nothing comes later
      have ended : rest.flatten = [] := by
        by_contra more
        rw [List.dropLast_append_of_ne_nil more] at last
        exact last (List.mem_append_left _ x)
      rw [stopped_eq _ (by simp [x])]
      simp [x, ended]
    · have later : X ∉ rest.flatten.dropLast := by
        intro member
        by_cases none : rest.flatten = []
        · rw [none] at member
          cases member
        · rw [List.dropLast_append_of_ne_nil none] at last
          exact last (List.mem_append_right _ member)
      have goes := ih later (output ++ batch.filter (· ≠ X))
      simpa [x] using goes

/-- What is received alone ends with the first `x`. -/
theorem alone_last {buf : UInt8} {acts : List UartAction} {s : Uart} (executed : run step (released buf) acts = some s)
    (alone : EachStep step Alone (released buf) acts) : X ∉ s.received.dropLast := by
  have start : (∃ read, Inv (released buf) read) ∧ X ∉ (released buf).received.dropLast :=
    ⟨⟨[], released_inv buf⟩, List.not_mem_nil⟩
  refine (EachStep.preserves (P := fun s => (∃ read, Inv s read) ∧ X ∉ s.received.dropLast) ?_ start alone executed).2
  rintro s a next ⟨holds, before⟩ meets taken
  refine ⟨step_inv holds taken, ?_⟩
  obtain ⟨read, inv⟩ := holds
  by_cases arrives : ∃ byte, a = .Arrive byte
  · obtain ⟨byte, rfl⟩ := arrives
    obtain ⟨on, empty, disabled⟩ := meets byte rfl
    cases taken
    have received := inv.received
    rw [empty, List.append_nil] at received
    have other := (inv.on on).2 disabled
    rw [← received] at other
    show X ∉ (s.received ++ [byte]).dropLast
    rw [List.dropLast_concat]
    intro member
    have nonempty := List.ne_nil_of_mem member
    rw [← List.dropLast_concat_getLast nonempty, List.mem_append, List.mem_singleton] at member
    rcases member with early | latest
    · exact before early
    · rw [List.getLast?_eq_some_getLast nonempty, ← latest] at other
      exact other rfl
  · obtain ⟨_, same⟩ := accounted_step inv (fun byte same => arrives ⟨byte, same⟩) taken
    rw [same]
    exact before

/-- **Both variants.** Where each byte arrives alone, the timer writes what the
    interrupts send back, however the bytes fall into its expiries, but for the `x`,
    which only the interrupts send back; and both bring the shell back alike. -/
theorem variants_agree {buf : UInt8} {acts : List UartAction} {s : Uart}
    (executed : run step (released buf) acts = some s) (rest : Rest s)
    (alone : EachStep step Alone (released buf) acts) {batches : List (List UInt8)}
    (same : batches.flatten = s.received) :
    (polled batches).output = s.sent.filter (· ≠ X) ∧ (polled batches).reinit = s.reinit := by
  obtain ⟨read, inv⟩ := run_inv executed
  have sent := (sent_iff inv rest).mpr ((complete_iff executed).mpr alone)
  have last := alone_last executed alone
  have run := polled_eq (by rw [same]; exact last) []
  have returns := inv.returns_iff rest
  have result : polled batches = _ := run
  rw [result, same, sent]
  refine ⟨List.nil_append _, ?_⟩
  by_cases x : X ∈ s.received
  · have nonempty := List.ne_nil_of_mem x
    rw [← List.dropLast_concat_getLast nonempty, List.mem_append, List.mem_singleton] at x
    have latest : s.received.getLast? = some X := by
      rw [List.getLast?_eq_some_getLast nonempty, ← x.resolve_left last]
    rw [returns.mpr latest]
    simp [List.mem_of_getLast? latest]
  · have never : s.reinit ≠ 1 := fun back => x (List.mem_of_getLast? (returns.mp back))
    have bound := inv.reinit_le
    have zero : s.reinit = 0 := by omega
    simp [x, zero]

/-- `a` and then `x`, each sent back before the next. -/
def patient : List UartAction :=
  [.Arrive 'a'.toUInt8, .Interrupt true, .Sent, .Interrupt true, .Arrive X, .Interrupt false, .Interrupt true, .Sent,
    .Interrupt true]

theorem variants_agree_patient : ∃ s, run step (released 0) patient = some s ∧
    (polled [['a'.toUInt8, X], []]).output = s.sent.filter (· ≠ X) ∧ (polled [['a'.toUInt8, X], []]).reinit = s.reinit := by
  have executed := (rfl : run step (released 0) patient = some _)
  have alone := (complete_iff executed).mp rfl
  exact ⟨_, executed, variants_agree executed ⟨rfl, rfl⟩ alone rfl⟩

end ZephyrWorkshop.UartLoopback
