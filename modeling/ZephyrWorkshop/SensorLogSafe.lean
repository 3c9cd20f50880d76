import ZephyrWorkshop.SensorLogLast

/-!
The two walks through the log on any ring buffer, also one whose cursors lie at
no record. All that they rely on is that a claim gets no more than it asks for
and moves only the claim cursor, and that giving it back rewinds that cursor
(`Lends`). Then every copy that a round makes reads within the bytes of its claim,
the count of the bytes left never underflows, each round takes at least one
record from it, and the buffer is in the end as it was. The inner loops of both
walks copy alike (`CopiesRecords`), so what they copy is proved once.
-/

namespace ZephyrWorkshop.SensorLogSafe
open ZephyrWorkshop.Zephyr ZephyrWorkshop.ByteRing ZephyrWorkshop.Loop ZephyrWorkshop.SensorLog
open ZephyrWorkshop.SensorLogHistory ZephyrWorkshop.SensorLogLast

/-- What the walks assume of the ring buffer. -/
structure Lends {RingBuf : Type*} (api : RingBufApi RingBuf) (ring : RingBuf → Ring) : Prop where
  at_most : ∀ r size, (api.ring_buf_get_claim r size).2.1 ≤ size
  bytes : ∀ r size, (ring (api.ring_buf_get_claim r size).2.2).bytes = (ring r).bytes
  read : ∀ r size, (ring (api.ring_buf_get_claim r size).2.2).read = (ring r).read
  unread : ∀ r size, (ring (api.ring_buf_get_claim r size).2.2).unread = (ring r).unread
  finish_none : ∀ r, ring (api.ring_buf_get_finish r 0) = (ring r).rewind

section
variable {RingBuf : Type*} {api : RingBufApi RingBuf} {ring : RingBuf → Ring}

/-- A ring buffer that keeps all that its documentation promises keeps this. -/
theorem lends_of_documented (documented : api.Documented ring) : Lends api ring where
  at_most r size := by
    rw [UInt32.le_iff_toNat_le, documented.claim_granted]
    exact Nat.min_le_left _ _
  bytes r size := by rw [documented.claim_ring, Ring.bytes_claim]
  read r size := by
    rw [documented.claim_ring]
    rfl
  unread r size := by
    rw [documented.claim_ring]
    rfl
  finish_none := documented.finish_none

/-- Rings that differ in their claims only are the same without them. -/
theorem rewind_congr {R S : Ring} (bytes : R.bytes = S.bytes) (read : R.read = S.read) (unread : R.unread = S.unread) :
    R.rewind = S.rewind := by
  obtain ⟨bytesR, readR, unreadR, claimedR, _, _, _, _⟩ := R
  obtain ⟨bytesS, readS, unreadS, claimedS, _, _, _, _⟩ := S
  dsimp only at bytes read unread
  subst bytes read unread
  rfl

/-- A claim that is given back leaves the ring as it was. -/
theorem given_back (lends : Lends api ring) {r : RingBuf} (unclaimed : (ring r).claimed = 0) (size : UInt32) :
    ring (api.ring_buf_get_finish (api.ring_buf_get_claim r size).2.2 0) = ring r := by
  rw [lends.finish_none, rewind_congr (lends.bytes r size) (lends.read r size) (lends.unread r size),
    Ring.rewind_eq_self unclaimed]

end

/-! ### One claim -/

variable {layout : LogEntryLayout}

/-- A chunk is the whole records of a claim. -/
theorem chunk_toNat (claimed : UInt32) :
    (claimed - claimed % entry_size layout).toNat = claimed.toNat / layout.size * layout.size := by
  have part : claimed % entry_size layout ≤ claimed := by
    rw [UInt32.le_iff_toNat_le, UInt32.toNat_mod]
    exact Nat.mod_le _ _
  have split := Nat.div_add_mod claimed.toNat layout.size
  rw [UInt32.toNat_sub_of_le _ _ part, UInt32.toNat_mod, entry_size_toNat, Nat.mul_comm]
  omega

theorem chunk_le (claimed : UInt32) : (claimed - claimed % entry_size layout).toNat ≤ claimed.toNat := by
  rw [chunk_toNat]
  exact Nat.div_mul_le_self _ _

/-- A chunk is a record at least, if that was claimed. -/
theorem le_chunk {claimed : UInt32} (enough : ¬ claimed < entry_size layout) :
    layout.size ≤ (claimed - claimed % entry_size layout).toNat := by
  rw [UInt32.lt_iff_toNat_lt, entry_size_toNat, not_lt] at enough
  rw [chunk_toNat]
  exact Nat.le_mul_of_pos_left _ (Nat.div_pos enough layout.size_pos)

/-- What an inner loop does with a chunk: it copies the record at its offset and
    goes on to the next one, and leaves at the end of the chunk. -/
structure CopiesRecords {State : Type*} (layout : LogEntryLayout) (body : State → Option (State ⊕ State))
    (offset : State → UInt32) (copies : State → List Memcpy) (memory : List UInt8) (data_ptr : Nat)
    (chunk_size : UInt32) : Prop where
  advances : ∀ s, offset s < chunk_size → ∃ next, body s = some (.inl next) ∧
    offset next = offset s + entry_size layout ∧
    copies next = copies s ++ [memcpyEntry layout memory (data_ptr + (offset s).toNat)]
  leaves : ∀ s, ¬ offset s < chunk_size → body s = some (.inr s)

theorem chunk_body_copies (memory : List UInt8) (data_ptr : Nat) (chunk_size : UInt32) :
    CopiesRecords layout (chunk_body layout memory data_ptr chunk_size) (·.i) (·.copies) memory data_ptr chunk_size where
  advances _ inside := ⟨_, if_pos inside, rfl, rfl⟩
  leaves _ outside := if_neg outside

theorem copy_body_copies (memory : List UInt8) (data_ptr : Nat) (chunk_size : UInt32) :
    CopiesRecords layout (copy_body layout memory data_ptr chunk_size) (·.i) (·.copies) memory data_ptr chunk_size where
  advances _ inside := ⟨_, if_pos inside, rfl, rfl⟩
  leaves _ outside := if_neg outside

/-- The bytes that a copy reads are bytes of the claim. -/
def Within (data_ptr : Nat) (claimed : UInt32) (copy : Memcpy) : Prop :=
  data_ptr ≤ copy.source ∧ copy.source + copy.size ≤ data_ptr + claimed.toNat

/-- Whole records of this many bytes have been copied since `before`, each from within the claim. -/
def CopiedWithin (layout : LogEntryLayout) (data_ptr : Nat) (claimed : UInt32) (bytes : Nat)
    (before now : List Memcpy) : Prop :=
  ∃ new, now = before ++ new ∧ (∀ copy ∈ new, Within data_ptr claimed copy) ∧ new.length * layout.size = bytes

theorem copied_none {data_ptr : Nat} {claimed : UInt32} (copies : List Memcpy) :
    CopiedWithin layout data_ptr claimed 0 copies copies := by
  refine ⟨[], (List.append_nil _).symm, ?_, Nat.zero_mul _⟩
  intro copy member
  cases member

/-- At the start of a round of an inner loop, the records before the offset have been copied. -/
structure CopiedUpTo (layout : LogEntryLayout) (data_ptr : Nat) (claimed offset : UInt32)
    (before now : List Memcpy) : Prop where
  inside : offset ≤ claimed - claimed % entry_size layout
  copied : CopiedWithin layout data_ptr claimed offset.toNat before now

/-- Within the chunk, the record at the offset lies within the claim, and the
    offset after it is still within the chunk. -/
theorem CopiedUpTo.next {data_ptr : Nat} {claimed offset : UInt32} {before now : List Memcpy}
    (upTo : CopiedUpTo layout data_ptr claimed offset before now)
    (more : offset < claimed - claimed % entry_size layout) (memory : List UInt8) :
    CopiedUpTo layout data_ptr claimed (offset + entry_size layout) before
      (now ++ [memcpyEntry layout memory (data_ptr + offset.toNat)]) := by
  obtain ⟨new, rfl, within, count⟩ := upTo.copied
  -- the offset is a whole number of records, and so is the chunk
  have room : (new.length + 1) * layout.size ≤ (claimed - claimed % entry_size layout).toNat := by
    rw [UInt32.lt_iff_toNat_lt, chunk_toNat, ← count] at more
    rw [chunk_toNat]
    exact Nat.mul_le_mul_right _ (Nat.lt_of_mul_lt_mul_right more)
  have whole : (claimed - claimed % entry_size layout).toNat ≤ claimed.toNat := chunk_le claimed
  have bounded := claimed.toNat_lt
  have advanced : (offset + entry_size layout).toNat = (new.length + 1) * layout.size := by
    rw [UInt32.toNat_add, entry_size_toNat, ← count, ← Nat.succ_mul]
    exact Nat.mod_eq_of_lt (room.trans_lt (whole.trans_lt bounded))
  refine ⟨?_, new ++ [memcpyEntry layout memory (data_ptr + offset.toNat)], List.append_assoc .., ?_, ?_⟩
  · rw [UInt32.le_iff_toNat_le, advanced]
    exact room
  · intro copy member
    rcases List.mem_append.mp member with earlier | last
    · exact within copy earlier
    · rw [List.mem_singleton] at last
      rw [last]
      refine ⟨Nat.le_add_right _ _, ?_⟩
      rw [Nat.succ_mul] at room
      show data_ptr + offset.toNat + layout.size ≤ data_ptr + claimed.toNat
      omega
  · rw [advanced, List.length_append, List.length_singleton]

/-- An inner loop copies the whole chunk, record by record, from within the claim. -/
theorem chunk_copied {State : Type*} {body : State → Option (State ⊕ State)} {offset : State → UInt32}
    {copies : State → List Memcpy} {memory : List UInt8} {data_ptr : Nat} {claimed : UInt32}
    (copying : CopiesRecords layout body offset copies memory data_ptr (claimed - claimed % entry_size layout))
    {fuel : Nat} {s last : State} (start : offset s = 0) (ends : loop body fuel s = some last) :
    CopiedWithin layout data_ptr claimed (claimed - claimed % entry_size layout).toNat (copies s) (copies last) := by
  refine loop_invariant (I := fun t => CopiedUpTo layout data_ptr claimed (offset t) (copies s) (copies t))
    (Q := fun last => CopiedWithin layout data_ptr claimed (claimed - claimed % entry_size layout).toNat (copies s)
      (copies last)) ?_ ?_ ?_ ends
  · intro t next upTo goesOn
    have more : offset t < claimed - claimed % entry_size layout := by
      by_contra outside
      rw [copying.leaves t outside] at goesOn
      cases goesOn
    obtain ⟨other, round, advanced, copiedNext⟩ := copying.advances t more
    rw [goesOn] at round
    cases round
    rw [advanced, copiedNext]
    exact upTo.next more memory
  · intro t last upTo leaves
    have outside : ¬ offset t < claimed - claimed % entry_size layout := by
      intro more
      obtain ⟨next, round, _⟩ := copying.advances t more
      rw [leaves] at round
      cases round
    rw [copying.leaves t outside] at leaves
    cases leaves
    have whole : claimed - claimed % entry_size layout = offset t :=
      UInt32.le_antisymm (UInt32.not_lt.mp outside) upTo.inside
    rw [whole]
    exact upTo.copied
  · rw [start]
    exact ⟨UInt32.zero_le, copied_none _⟩

/-! ### The walks -/

section
variable {RingBuf : Type*} (api : RingBufApi RingBuf) (layout : LogEntryLayout)

/-- What a round may do from `remaining` bytes left: every copy that it makes reads
    within the bytes of its claim, and `left` bytes are then left, those before
    less those copied, with no underflow. -/
def RoundSafe (log_ring_buf : RingBuf) (remaining left : UInt32) (before now : List Memcpy) : Prop :=
  let (data_ptr, claimed, _) := api.ring_buf_get_claim log_ring_buf remaining
  ∃ bytes, CopiedWithin layout data_ptr claimed bytes before now ∧ left.toNat + bytes = remaining.toNat

/-- Whether it goes on or leaves the loop, a round of the history command is safe. -/
def HistoryRoundSafe (s : HistoryState RingBuf) : Prop :=
  ∀ fuel round, history_body api layout fuel s = some round →
    let t := round.elim id id
    RoundSafe api layout s.log_ring_buf s.remaining t.remaining s.copies t.copies

/-- The same of a round of the search for the last entry. -/
def SearchRoundSafe (s : SearchState RingBuf) : Prop :=
  ∀ fuel round, search_body api layout fuel s = some round →
    let t := round.elim id id
    RoundSafe api layout s.log_ring_buf s.remaining t.remaining s.copies t.copies

variable {api} {ring : RingBuf → Ring}

/-- A chunk is no more than what is left. -/
theorem chunk_left (lends : Lends api ring) (r : RingBuf) (remaining : UInt32) :
    (api.ring_buf_get_claim r remaining).2.1 - (api.ring_buf_get_claim r remaining).2.1 % entry_size layout ≤
      remaining := by
  have claimed := UInt32.le_iff_toNat_le.mp (lends.at_most r remaining)
  rw [UInt32.le_iff_toNat_le]
  exact (chunk_le _).trans claimed

/-- A round that copies nothing. -/
theorem round_safe_none (log_ring_buf : RingBuf) (remaining : UInt32) (copies : List Memcpy) :
    RoundSafe api layout log_ring_buf remaining remaining copies copies := ⟨0, copied_none _, rfl⟩

/-- A round that copies a chunk. -/
theorem round_safe_chunk (lends : Lends api ring) {log_ring_buf : RingBuf} {remaining : UInt32} {before now : List Memcpy}
    {data_ptr : Nat} {claimed : UInt32} {claimant : RingBuf}
    (claimIs : api.ring_buf_get_claim log_ring_buf remaining = (data_ptr, claimed, claimant))
    (copied : CopiedWithin layout data_ptr claimed (claimed - claimed % entry_size layout).toNat before now) :
    RoundSafe api layout log_ring_buf remaining (remaining - (claimed - claimed % entry_size layout)) before now := by
  have left := chunk_left layout lends log_ring_buf remaining
  rw [claimIs] at left
  dsimp only at left
  rw [RoundSafe, claimIs]
  refine ⟨_, copied, ?_⟩
  rw [UInt32.toNat_sub_of_le _ _ left]
  exact Nat.sub_add_cancel (UInt32.le_iff_toNat_le.mp left)

theorem history_round_safe (lends : Lends api ring) (s : HistoryState RingBuf) : HistoryRoundSafe api layout s := by
  intro fuel round ends
  unfold history_body at ends
  split at ends
  swap
  · cases ends
    exact round_safe_none layout _ _ _
  generalize claimIs : api.ring_buf_get_claim s.log_ring_buf s.remaining = claim at ends
  obtain ⟨data_ptr, claimed, log_ring_buf⟩ := claim
  dsimp only at ends
  split at ends
  · cases ends
    exact round_safe_none layout _ _ _
  · split at ends
    · cases ends
    · rename_i chunk inner
      cases ends
      exact round_safe_chunk layout lends claimIs (chunk_copied (chunk_body_copies _ _ _) rfl inner)

theorem search_round_safe (lends : Lends api ring) (s : SearchState RingBuf) : SearchRoundSafe api layout s := by
  intro fuel round ends
  unfold search_body at ends
  split at ends
  swap
  · cases ends
    exact round_safe_none layout _ _ _
  generalize claimIs : api.ring_buf_get_claim s.log_ring_buf s.remaining = claim at ends
  obtain ⟨data_ptr, claimed, log_ring_buf⟩ := claim
  dsimp only at ends
  split at ends
  · cases ends
    exact round_safe_none layout _ _ _
  · split at ends
    · cases ends
    · rename_i chunk inner
      cases ends
      exact round_safe_chunk layout lends claimIs (chunk_copied (copy_body_copies _ _ _) rfl inner)

/-- A round of the outer loop leaves it, or goes on with at least one record less;
    the buffer is as before. -/
theorem history_round_total (lends : Lends api ring) {R : Ring} (unclaimed : R.claimed = 0) (s : HistoryState RingBuf)
    (same : ring s.log_ring_buf = R) :
    (∃ next, Eventually (fun fuel => history_body api layout fuel s) (.inl next) ∧ ring next.log_ring_buf = R ∧
      next.remaining.toNat < s.remaining.toNat) ∨
    ∃ last, Eventually (fun fuel => history_body api layout fuel s) (.inr last) ∧ ring last.log_ring_buf = R := by
  by_cases goesOn : s.remaining ≥ entry_size layout
  swap
  · exact .inr ⟨s, .of_all fun fuel => if_neg goesOn, same⟩
  have back := given_back lends (r := s.log_ring_buf) (by rw [same, unclaimed]) s.remaining
  have left := chunk_left layout lends s.log_ring_buf s.remaining
  generalize claimIs : api.ring_buf_get_claim s.log_ring_buf s.remaining = claim at back left
  obtain ⟨data_ptr, claimed, log_ring_buf⟩ := claim
  dsimp only at back left
  rw [same] at back
  by_cases short : claimed < entry_size layout
  · refine .inr ⟨{ s with log_ring_buf := api.ring_buf_get_finish log_ring_buf 0 }, .of_all fun fuel => ?_, back⟩
    rw [history_body, if_pos goesOn, claimIs]
    exact if_pos short
  · -- the inner loop ends after the whole records of the claim
    have whole : (claimed - claimed % entry_size layout).toNat = (0 + claimed.toNat / layout.size) * layout.size := by
      rw [chunk_toNat, Nat.zero_add]
    obtain ⟨last, loops, _⟩ := chunk_prints (api.memory log_ring_buf) data_ptr 0 (claimed.toNat / layout.size) whole
      (s := ⟨0, s.count, s.copies⟩) (by rw [Nat.zero_mul]; rfl)
    refine .inl ⟨_, history_goes_on goesOn claimIs short loops, back, ?_⟩
    have record := le_chunk short
    have positive := layout.size_pos
    have taken := UInt32.le_iff_toNat_le.mp left
    show (s.remaining - (claimed - claimed % entry_size layout)).toNat < s.remaining.toNat
    rw [UInt32.toNat_sub_of_le _ _ left]
    omega

/-- The outer loop ends, with the buffer as it was. -/
theorem history_total (lends : Lends api ring) {R : Ring} (unclaimed : R.claimed = 0) {s : HistoryState RingBuf}
    (same : ring s.log_ring_buf = R) :
    ∃ last, LoopsTo (history_body api layout) s last ∧ ring last.log_ring_buf = R := by
  refine LoopsTo.of_measure (I := fun s => ring s.log_ring_buf = R) (fun s => s.remaining.toNat) ?_ same
  intro s same
  exact history_round_total layout lends unclaimed s same

/-- `sensor_log history` ends and leaves the buffer as it was. -/
theorem history_ends (lends : Lends api ring) {r : RingBuf} (unclaimed : (ring r).claimed = 0) (has_entries : Bool) :
    ∃ outcome, Eventually (cmd_sensor_log_history api layout has_entries r) outcome ∧
      ring outcome.log_ring_buf = ring r := by
  cases has_entries with
  | false => exact ⟨_, .of_all fun fuel => rfl, rfl⟩
  | true =>
    obtain ⟨last, loops, same⟩ := history_total layout lends unclaimed
      (s := ⟨r, api.ring_buf_size_get r, 0, []⟩) rfl
    exact ⟨history_outcome last, history_command loops, same⟩

/-- `sensor_log_get_last_entry` ends and leaves the buffer as it was. -/
theorem last_entry_ends (lends : Lends api ring) {r : RingBuf} (unclaimed : (ring r).claimed = 0)
    (entry : Option LogEntry) :
    ∃ outcome, Eventually (sensor_log_get_last_entry api layout entry r) outcome ∧
      ring outcome.log_ring_buf = ring r := by
  by_cases none_stored : sensor_log_get_entry_count api layout r = 0
  · exact ⟨_, .of_all fun fuel => if_pos none_stored, rfl⟩
  cases entry with
  | none => exact ⟨_, .of_all fun fuel => if_neg none_stored, rfl⟩
  | some entry =>
    obtain ⟨last, loops, same⟩ := history_total layout lends unclaimed
      (s := ⟨r, api.ring_buf_size_get r, 0, []⟩) rfl
    exact ⟨_, last_entry_command entry none_stored loops, same⟩

/-- **The walks are safe.** On every ring buffer without a claim, wherever its
    cursors are, both walks end and leave its bytes and cursors as they were;
    and in every round of either, whatever state it starts from, `remaining`
    does not underflow and every copy reads within the bytes of the claim. -/
theorem log_walks_safe (lends : Lends api ring) {r : RingBuf} (unclaimed : (ring r).claimed = 0) :
    (∀ has_entries, ∃ outcome, Eventually (cmd_sensor_log_history api layout has_entries r) outcome ∧
      ring outcome.log_ring_buf = ring r) ∧
    (∀ entry, ∃ outcome, Eventually (sensor_log_get_last_entry api layout entry r) outcome ∧
      ring outcome.log_ring_buf = ring r) ∧
    (∀ s : HistoryState RingBuf, HistoryRoundSafe api layout s) ∧
    ∀ s : SearchState RingBuf, SearchRoundSafe api layout s :=
  ⟨history_ends layout lends unclaimed, last_entry_ends layout lends unclaimed, history_round_safe layout lends,
    search_round_safe layout lends⟩

end

/-- An array that is no multiple of an entry, the oldest byte in the middle of
    one, and a part of an entry at the end. -/
def unaligned : Ring :=
  ⟨List.replicate 41 7, 19, 39, 0, by decide, by decide, by decide, by decide⟩

/-- Its first claim gets 22 bytes from place 19, and the record there is copied. -/
theorem log_walks_safe_unaligned :
    (∃ outcome, Eventually (cmd_sensor_log_history byteRing littleEndian true unaligned) outcome ∧
      outcome.log_ring_buf = unaligned) ∧
    ∃ next, history_body byteRing littleEndian 2 ⟨unaligned, 39, 0, []⟩ = some (.inl next) ∧
      next.copies.map (·.source) = [19] ∧
      RoundSafe byteRing littleEndian unaligned 39 next.remaining [] next.copies := by
  have safe := log_walks_safe littleEndian (lends_of_documented byteRing_documented)
    (show (id unaligned).claimed = 0 from rfl)
  exact ⟨safe.1 true, _, rfl, by decide, safe.2.2.1 ⟨unaligned, 39, 0, []⟩ 2 _ rfl⟩

end ZephyrWorkshop.SensorLogSafe
