import ZephyrWorkshop.ByteRing
import ZephyrWorkshop.Loop
import ZephyrWorkshop.Zephyr

/-!
The app's sensor log, `app/src/components/sensor_log/sensor_log.c`: its entries,
how one is printed, and the command that prints them all. Zephyr's ring buffer
is a parameter, known by its documentation only, and so is the layout that the
compiler gives to an entry.
-/

namespace ZephyrWorkshop.SensorLog
open ZephyrWorkshop.Zephyr ZephyrWorkshop.ByteRing ZephyrWorkshop.Loop

/-! ### Log entries -/

/-- `enum log_entry_type`; bytes that the log did not write may hold another number. -/
inductive LogEntryType
  | State
  | Sensor
  | Alert
  | Other (number : Nat)
deriving DecidableEq, Repr

/-- `struct log_entry`. The union is kept as its 32 bits; `SYS_ACTIVE` is 1. -/
structure LogEntry where
  timestamp : Int64
  type : LogEntryType
  data : Int32
deriving DecidableEq, Repr

/-- The size of an entry, and the entry that bytes are a copy of. -/
structure LogEntryLayout where
  size : Nat
  ofBytes : List UInt8 → LogEntry
  size_pos : 0 < size
  size_lt : size < 2 ^ 32

private def number (bytes : List UInt8) : Nat := bytes.foldr (fun b n => b.toNat + 256 * n) 0

/-- The layout on a little-endian target: 8, 4 and 4 bytes. -/
def littleEndian : LogEntryLayout where
  size := 16
  ofBytes bytes :=
    { timestamp := Int64.ofNat (number (bytes.take 8))
      type := match number ((bytes.drop 8).take 4) with
        | 0 => .State
        | 1 => .Sensor
        | 2 => .Alert
        | other => .Other other
      data := Int32.ofNat (number ((bytes.drop 12).take 4)) }
  size_pos := by decide
  size_lt := by decide

def SYS_ACTIVE : Int32 := 1

def print_entry (entry : LogEntry) : List ShellLine :=
  let ms := entry.timestamp
  let secs := ms / 1000
  let frac := ms % 1000
  let time : List ShellArg :=
    [.num (secs / 3600).toInt, .num (secs % 3600 / 60).toInt, .num (secs % 60).toInt, .num frac.toInt]
  let temp : List ShellArg := [.num (entry.data / 100).toInt, .num (entry.data % 100).toInt]
  match entry.type with
  | .State =>
    [.print "[%02lld:%02lld:%02lld.%03lld] STATE    %s"
      (time ++ [.str (if entry.data = SYS_ACTIVE then "ACTIVE".toList else "SLEEP".toList)])]
  | .Sensor => [.print "[%02lld:%02lld:%02lld.%03lld] SENSOR   temp=%d.%02d °C" (time ++ temp)]
  | .Alert => [.print "[%02lld:%02lld:%02lld.%03lld] ALERT    temp=%d.%02d °C" (time ++ temp)]
  | .Other _ => []

/-! ### Zephyr's ring buffer -/

/-- The calls on a `ring_buf`. A claim returns where its bytes are in the array
    and how many they are; `memory` is the array. -/
structure RingBufApi (RingBuf : Type*) where
  memory : RingBuf → List UInt8
  ring_buf_size_get : RingBuf → UInt32
  ring_buf_get_claim : RingBuf → UInt32 → Nat × UInt32 × RingBuf
  ring_buf_get_finish : RingBuf → UInt32 → RingBuf

/-- What the documentation promises: each call does to the buffer what the byte
    ring that it stands for does. -/
structure RingBufApi.Documented {RingBuf : Type*} (api : RingBufApi RingBuf) (ring : RingBuf → Ring) : Prop where
  memory : ∀ r, api.memory r = (ring r).bytes
  size : ∀ r, (ring r).claimed = 0 → (api.ring_buf_size_get r).toNat = (ring r).unread
  claim_pointer : ∀ r size, (api.ring_buf_get_claim r size).1 = (ring r).cursor
  claim_granted : ∀ r size, (api.ring_buf_get_claim r size).2.1.toNat = (ring r).grant size.toNat
  claim_ring : ∀ r size, ring (api.ring_buf_get_claim r size).2.2 = (ring r).claim size.toNat
  finish_none : ∀ r, ring (api.ring_buf_get_finish r 0) = (ring r).rewind

/-- The byte ring itself as a `ring_buf`. -/
def byteRing : RingBufApi Ring where
  memory r := r.bytes
  ring_buf_size_get r := UInt32.ofNat r.unread
  ring_buf_get_claim r size := (r.cursor, UInt32.ofNat (r.grant size.toNat), r.claim size.toNat)
  ring_buf_get_finish r _ := r.rewind

theorem byteRing_documented : byteRing.Documented id where
  memory _ := rfl
  size r _ := UInt32.toNat_ofNat_of_lt' (Nat.lt_of_le_of_lt r.unread_le r.size_lt)
  claim_pointer _ _ := rfl
  claim_granted r size := by
    have unread := r.unread_le
    have small := r.size_lt
    refine UInt32.toNat_ofNat_of_lt' (show r.grant size.toNat < 2 ^ 32 from ?_)
    unfold Ring.grant
    omega
  claim_ring _ _ := rfl
  finish_none _ := rfl

/-! ### `sensor_log history` -/

/-- A `memcpy` of an entry: where in the array it reads, how many bytes, and the entry they are. -/
structure Memcpy where
  source : Nat
  size : Nat
  entry : LogEntry
deriving DecidableEq, Repr

section
variable {RingBuf : Type*} (api : RingBufApi RingBuf) (layout : LogEntryLayout)

def entry_size : UInt32 := UInt32.ofNat layout.size

def memcpyEntry (memory : List UInt8) (source : Nat) : Memcpy :=
  ⟨source, layout.size, layout.ofBytes ((memory.drop source).take layout.size)⟩

/-- The variables of the inner loop, and the copies so far; `print_entry` is called with each. -/
structure ChunkState where
  i : UInt32
  count : UInt32
  copies : List Memcpy

def chunk_body (memory : List UInt8) (data_ptr : Nat) (chunk_size : UInt32) (s : ChunkState) :
    Option (ChunkState ⊕ ChunkState) :=
  if s.i < chunk_size then
    some (.inl
      { i := s.i + entry_size layout
        count := s.count + 1
        copies := s.copies ++ [memcpyEntry layout memory (data_ptr + s.i.toNat)] })
  else some (.inr s)

/-- The variables of the outer loop, the buffer, and the copies so far. `processed`
    is only ever written, and left out. -/
structure HistoryState (RingBuf : Type*) where
  log_ring_buf : RingBuf
  remaining : UInt32
  count : UInt32
  copies : List Memcpy

def history_body (fuel : Nat) (s : HistoryState RingBuf) : Option (HistoryState RingBuf ⊕ HistoryState RingBuf) :=
  if s.remaining ≥ entry_size layout then
    match api.ring_buf_get_claim s.log_ring_buf s.remaining with
    | (data_ptr, claimed, log_ring_buf) =>
      if claimed < entry_size layout then
        some (.inr { s with log_ring_buf := api.ring_buf_get_finish log_ring_buf 0 })
      else
        let chunk_size := claimed - claimed % entry_size layout
        match loop (chunk_body layout (api.memory log_ring_buf) data_ptr chunk_size) fuel ⟨0, s.count, s.copies⟩ with
        | none => none
        | some chunk =>
          some (.inl
            { log_ring_buf := api.ring_buf_get_finish log_ring_buf 0
              remaining := s.remaining - chunk_size
              count := chunk.count
              copies := chunk.copies })
  else some (.inr s)

/-- What the command leaves behind: the buffer, the entries it copied and printed, and the lines it writes. -/
structure HistoryOutcome (RingBuf : Type*) where
  log_ring_buf : RingBuf
  copies : List Memcpy
  lines : List ShellLine
  result : Int

/-- After the loop. -/
def history_outcome (s : HistoryState RingBuf) : HistoryOutcome RingBuf where
  log_ring_buf := s.log_ring_buf
  copies := s.copies
  lines := .print "Sensor log history:" [] :: (s.copies.flatMap (fun copy => print_entry copy.entry)) ++
    (if s.count = 0 then [.print "(Buffer is empty)" []] else [])
  result := 0

def cmd_sensor_log_history (has_entries : Bool) (log_ring_buf : RingBuf) (fuel : Nat) :
    Option (HistoryOutcome RingBuf) :=
  if !has_entries then some ⟨log_ring_buf, [], [.print "No entries logged yet" []], 0⟩
  else
    match loop (history_body api layout fuel) fuel
        ⟨log_ring_buf, api.ring_buf_size_get log_ring_buf, 0, []⟩ with
    | none => none
    | some s => some (history_outcome s)

end

end ZephyrWorkshop.SensorLog
