import ZephyrWorkshop.SensorLog
import Mathlib.Tactic.Ring

/-!
What `sensor_log history` prints. The command claims a contiguous part of the
unread bytes, prints the records in it, and gives the claim back before it
claims again: every claim starts at the oldest record. The command therefore
prints the records up to the end of the array over and over
(`history_copies`), which is the log exactly when the log does not go on at the
start of the array.
-/

namespace ZephyrWorkshop.SensorLogHistory
open ZephyrWorkshop.Zephyr ZephyrWorkshop.ByteRing ZephyrWorkshop.Loop ZephyrWorkshop.SensorLog

/-- The ring holds `n` records in an array of `N`, the oldest one at place `k`. -/
structure Stores (layout : LogEntryLayout) (R : Ring) (N k n : Nat) : Prop where
  capacity : R.capacity = N * layout.size
  read : R.read = k * layout.size
  unread : R.unread = n * layout.size
  unclaimed : R.claimed = 0

/-- The copy of a record, counted from the oldest one. -/
def record (layout : LogEntryLayout) (R : Ring) (index : Nat) : Memcpy :=
  memcpyEntry layout R.bytes (R.position (index * layout.size))

variable {layout : LogEntryLayout}

theorem entry_size_toNat : (entry_size layout).toNat = layout.size :=
  UInt32.toNat_ofNat_of_lt' layout.size_lt

/-- The inner loop prints the records of a chunk from index `j` on. -/
theorem chunk_prints (memory : List UInt8) (data_ptr : Nat) {chunk_size : UInt32} (j left : Nat)
    (whole : chunk_size.toNat = (j + left) * layout.size) {s : ChunkState} (reached : s.i.toNat = j * layout.size) :
    ∃ last, LoopsTo (fun _ => chunk_body layout memory data_ptr chunk_size) s last ∧
      last.copies = s.copies ++
        (List.range' j left).map (fun t => memcpyEntry layout memory (data_ptr + t * layout.size)) := by
  induction left generalizing j s with
  | zero =>
    refine ⟨s, .done (.of_all fun _ => ?_), by simp⟩
    rw [Nat.add_zero] at whole
    rw [chunk_body, if_neg]
    rw [UInt32.lt_iff_toNat_lt]
    omega
  | succ left ih =>
    have size := layout.size_pos
    have bounded := chunk_size.toNat_lt
    have split : (j + (left + 1)) * layout.size = j * layout.size + layout.size + left * layout.size := by ring
    have advanced : (s.i + entry_size layout).toNat = (j + 1) * layout.size := by
      rw [UInt32.toNat_add, entry_size_toNat, Nat.mod_eq_of_lt (by omega), reached, Nat.add_mul, Nat.one_mul]
    obtain ⟨last, loops, printed⟩ := ih (j + 1) (s :=
      { i := s.i + entry_size layout
        count := s.count + 1
        copies := s.copies ++ [memcpyEntry layout memory (data_ptr + s.i.toNat)] })
      (by rw [whole]; ring) advanced
    refine ⟨last, .again (.of_all fun _ => ?_) loops, ?_⟩
    · rw [chunk_body, if_pos]
      rw [UInt32.lt_iff_toNat_lt]
      have := Nat.zero_le (left * layout.size)
      omega
    · rw [printed, reached, List.range'_succ, List.map_cons, List.append_assoc, List.singleton_append]

/-- How many records are contiguous, from the oldest one on. -/
def contiguous (N k n : Nat) : Nat := min n (N - k)

theorem contiguous_pos {R : Ring} {N k n : Nat} (stores : Stores layout R N k n) (nonempty : 0 < n) :
    0 < contiguous N k n := by
  have inside : k * layout.size < N * layout.size := by
    rw [← stores.read, ← stores.capacity]
    exact R.read_lt
  have := Nat.lt_of_mul_lt_mul_right inside
  unfold contiguous
  omega

/-- Up to the end of the array, a record is where its chunk has it. -/
theorem record_contiguous {R : Ring} {N k n : Nat} (stores : Stores layout R N k n) {index : Nat}
    (inside : index < contiguous N k n) :
    record layout R index = memcpyEntry layout R.bytes (R.read + index * layout.size) := by
  have room : (k + index) * layout.size < N * layout.size :=
    Nat.mul_lt_mul_of_pos_right (by unfold contiguous at inside; omega) layout.size_pos
  rw [record, Ring.position_contiguous]
  rw [stores.read, stores.capacity, ← Nat.add_mul]
  exact room

section
variable {RingBuf : Type*} {api : RingBufApi RingBuf} {ring : RingBuf → Ring}

/-- A claim starts at the oldest record and gets whole records, as many as are
    contiguous. -/
theorem claim_oldest (documented : api.Documented ring) {R : Ring} {N k n : Nat} (stores : Stores layout R N k n)
    {r : RingBuf} (same : ring r = R) {size : UInt32} {m : Nat} (asked : size.toNat = m * layout.size) :
    (api.ring_buf_get_claim r size).1 = R.read ∧
      (api.ring_buf_get_claim r size).2.1.toNat = min m (contiguous N k n) * layout.size ∧
      ring (api.ring_buf_get_claim r size).2.2 = R.claim size.toNat := by
  refine ⟨?_, ?_, ?_⟩
  · rw [documented.claim_pointer, same, Ring.cursor_unclaimed stores.unclaimed]
  · rw [documented.claim_granted, same, Ring.grant_unclaimed stores.unclaimed, asked, stores.unread, stores.capacity,
      stores.read, ← Nat.sub_mul, Nat.mul_min_mul_right, Nat.mul_min_mul_right, contiguous]
  · rw [documented.claim_ring, same]

/-- Whole records pass the check of a claim, and the chunk is all of them. -/
theorem whole_records {claimed : UInt32} {c : Nat} (granted : claimed.toNat = c * layout.size) (nonempty : 0 < c) :
    ¬ claimed < entry_size layout ∧ claimed - claimed % entry_size layout = claimed := by
  constructor
  · rw [UInt32.lt_iff_toNat_lt, entry_size_toNat, granted, not_lt]
    exact Nat.le_mul_of_pos_left _ nonempty
  · have zero : claimed % entry_size layout = 0 := by
      apply UInt32.toNat_inj.mp
      rw [UInt32.toNat_mod, granted, entry_size_toNat, Nat.mul_mod_left]
      rfl
    rw [zero, UInt32.sub_zero]

/-- A round whose claim holds a record goes on once its inner loop has ended. -/
theorem history_goes_on {s : HistoryState RingBuf} {data_ptr : Nat} {claimed : UInt32} {log_ring_buf : RingBuf}
    {last : ChunkState} (left : s.remaining ≥ entry_size layout)
    (claimIs : api.ring_buf_get_claim s.log_ring_buf s.remaining = (data_ptr, claimed, log_ring_buf))
    (enough : ¬ claimed < entry_size layout)
    (loops : LoopsTo (fun _ => chunk_body layout (api.memory log_ring_buf) data_ptr (claimed - claimed % entry_size layout))
      ⟨0, s.count, s.copies⟩ last) :
    Eventually (fun fuel => history_body api layout fuel s)
      (.inl ⟨api.ring_buf_get_finish log_ring_buf 0, s.remaining - (claimed - claimed % entry_size layout), last.count,
        last.copies⟩) := by
  obtain ⟨fuel, runs⟩ := loops.eventually
  refine ⟨fuel, fun more large => ?_⟩
  have prints := runs more large
  dsimp only at prints
  show history_body api layout more s = _
  rw [history_body, if_pos left, claimIs]
  dsimp only
  rw [if_neg enough, prints]

/-- One round of the outer loop prints the oldest records, as many as are
    contiguous or still to be printed. -/
theorem history_round (documented : api.Documented ring) {R : Ring} {N k n : Nat} (stores : Stores layout R N k n)
    (nonempty : 0 < n) {m : Nat} (left : 0 < m) {s : HistoryState RingBuf} (same : ring s.log_ring_buf = R)
    (remaining : s.remaining.toNat = m * layout.size) :
    ∃ next, Eventually (fun fuel => history_body api layout fuel s) (.inl next) ∧
      ring next.log_ring_buf = R ∧ next.remaining.toNat = (m - min m (contiguous N k n)) * layout.size ∧
      next.copies = s.copies ++ (List.range (min m (contiguous N k n))).map (record layout R) := by
  have some := contiguous_pos stores nonempty
  obtain ⟨pointer, granted, after⟩ := claim_oldest documented stores same remaining
  generalize claimIs : api.ring_buf_get_claim s.log_ring_buf s.remaining = claim at pointer granted after
  obtain ⟨data_ptr, claimed, log_ring_buf⟩ := claim
  dsimp only at pointer granted after
  generalize chunk : min m (contiguous N k n) = c at granted ⊢
  obtain ⟨enough, aligned⟩ := whole_records granted (by omega)
  obtain ⟨last, loops, printed⟩ := chunk_prints (api.memory log_ring_buf) data_ptr 0 c
    (by rw [granted, Nat.zero_add]) (s := ⟨0, s.count, s.copies⟩) (by rw [Nat.zero_mul]; rfl)
  refine ⟨⟨api.ring_buf_get_finish log_ring_buf 0, s.remaining - claimed, last.count, last.copies⟩, ?_, ?_, ?_, ?_⟩
  · have goesOn : s.remaining ≥ entry_size layout := by
      rw [ge_iff_le, UInt32.le_iff_toNat_le, entry_size_toNat, remaining]
      exact Nat.le_mul_of_pos_left _ left
    have round := history_goes_on goesOn claimIs enough (by rw [aligned]; exact loops)
    rwa [aligned] at round
  · rw [documented.finish_none, after, Ring.rewind_claim, Ring.rewind_eq_self stores.unclaimed]
  · have fits : claimed ≤ s.remaining := by
      rw [UInt32.le_iff_toNat_le, granted, remaining]
      exact Nat.mul_le_mul_right _ (by omega)
    rw [UInt32.toNat_sub_of_le _ _ fits, granted, remaining, Nat.sub_mul]
  · rw [printed, documented.memory, after, Ring.bytes_claim, pointer, List.range_eq_range']
    refine congrArg (s.copies ++ ·) ?_
    refine List.map_congr_left fun index member => ?_
    rw [List.mem_range'_1] at member
    exact (record_contiguous stores (by omega)).symm

/-- A repeated list is its first pass and the rest of it. -/
private theorem repeated_split {α : Type*} (f : Nat → α) (m c : Nat) :
    (List.range m).map (fun j => f (j % c)) =
      (List.range (min m c)).map f ++ (List.range (m - min m c)).map (fun j => f (j % c)) := by
  have parts : m = min m c + (m - min m c) := by omega
  conv_lhs => rw [parts]
  rw [List.range_add, List.map_append, List.map_map]
  congr 1
  · refine List.map_congr_left fun j member => ?_
    rw [List.mem_range] at member
    rw [Nat.mod_eq_of_lt (by omega)]
  · refine List.map_congr_left fun j member => ?_
    rw [List.mem_range] at member
    have full : min m c = c := by omega
    rw [Function.comp_apply, full, Nat.add_mod_left]

/-- The outer loop prints the contiguous records over and over. -/
theorem history_loop (documented : api.Documented ring) {R : Ring} {N k n : Nat} (stores : Stores layout R N k n)
    (nonempty : 0 < n) (m : Nat) {s : HistoryState RingBuf} (same : ring s.log_ring_buf = R)
    (remaining : s.remaining.toNat = m * layout.size) :
    ∃ last, LoopsTo (history_body api layout) s last ∧ ring last.log_ring_buf = R ∧
      last.copies = s.copies ++ (List.range m).map (fun j => record layout R (j % contiguous N k n)) := by
  induction m using Nat.strong_induction_on generalizing s with
  | _ m ih =>
    by_cases left : 0 < m
    · obtain ⟨next, goesOn, sameNext, remainingNext, printed⟩ :=
        history_round documented stores nonempty left same remaining
      have some := contiguous_pos stores nonempty
      obtain ⟨last, loops, sameLast, printedLast⟩ := ih _ (by omega) sameNext remainingNext
      refine ⟨last, .again goesOn loops, sameLast, ?_⟩
      rw [printedLast, printed, List.append_assoc, repeated_split (record layout R) m]
    · obtain rfl : m = 0 := by omega
      refine ⟨s, .done (.of_all fun fuel => ?_), same, by simp⟩
      have finished : ¬ s.remaining ≥ entry_size layout := by
        have size := layout.size_pos
        rw [ge_iff_le, UInt32.le_iff_toNat_le, entry_size_toNat, remaining]
        omega
      rw [history_body, if_neg finished]

/-- The command ends with what its outer loop leaves behind. -/
theorem history_command {r : RingBuf} {last : HistoryState RingBuf}
    (loops : LoopsTo (history_body api layout) ⟨r, api.ring_buf_size_get r, 0, []⟩ last) :
    Eventually (cmd_sensor_log_history api layout true r) (history_outcome last) := by
  obtain ⟨enough, runs⟩ := loops.eventually
  refine ⟨enough, fun fuel large => ?_⟩
  have ends := runs fuel large
  dsimp only at ends
  rw [cmd_sensor_log_history, if_neg (by simp), ends]

end

/-- A reading of 4.00 degrees after one second, and one of 6.00 degrees after two. -/
def twoReadings : List UInt8 :=
  [0xE8, 0x03, 0, 0, 0, 0, 0, 0, 1, 0, 0, 0, 0x90, 0x01, 0, 0,
   0xD0, 0x07, 0, 0, 0, 0, 0, 0, 1, 0, 0, 0, 0x58, 0x02, 0, 0]

/-- The two readings in an array for two, with the oldest one at a place. -/
def readingsFrom (read : Nat) (inside : read < 32) : Ring :=
  ⟨twoReadings, read, 32, 0, inside, by decide, by decide, by decide⟩

end ZephyrWorkshop.SensorLogHistory
