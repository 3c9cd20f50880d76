import ZephyrWorkshop.SensorLogHistory

/-!
`sensor_log_get_last_entry`, which the tests read the log with. It walks through
the log with the loops of `sensor_log history` and keeps the record it copied
last; `copied` and `searched` make the two walks one. It therefore ends on the
last record that the history command would print, which is the newest one only
where the log does not go on at the start of the array.
-/

namespace ZephyrWorkshop.SensorLogLast
open ZephyrWorkshop.Zephyr ZephyrWorkshop.ByteRing ZephyrWorkshop.Loop ZephyrWorkshop.SensorLog
open ZephyrWorkshop.SensorLogHistory

section
variable {RingBuf : Type*} (api : RingBufApi RingBuf) (layout : LogEntryLayout)

/-- A `size_t` -/
def sensor_log_get_entry_count (log_ring_buf : RingBuf) : Nat :=
  (api.ring_buf_size_get log_ring_buf).toNat / layout.size

/-- The variables of the inner loop, `*entry`, and the copies so far. -/
structure CopyState where
  i : UInt32
  processed : UInt32
  entry : LogEntry
  copies : List Memcpy

def copy_body (memory : List UInt8) (data_ptr : Nat) (chunk_size : UInt32) (s : CopyState) :
    Option (CopyState ⊕ CopyState) :=
  if s.i < chunk_size then
    let copy := memcpyEntry layout memory (data_ptr + s.i.toNat)
    some (.inl
      { i := s.i + entry_size layout
        processed := s.processed + entry_size layout
        entry := copy.entry
        copies := s.copies ++ [copy] })
  else some (.inr s)

/-- The variables of the outer loop, the buffer, `*entry`, and the copies so far. -/
structure SearchState (RingBuf : Type*) where
  log_ring_buf : RingBuf
  remaining : UInt32
  processed : UInt32
  entry : LogEntry
  copies : List Memcpy

def search_body (fuel : Nat) (s : SearchState RingBuf) : Option (SearchState RingBuf ⊕ SearchState RingBuf) :=
  if s.remaining ≥ entry_size layout then
    match api.ring_buf_get_claim s.log_ring_buf s.remaining with
    | (data_ptr, claimed, log_ring_buf) =>
      if claimed < entry_size layout then
        some (.inr { s with log_ring_buf := api.ring_buf_get_finish log_ring_buf 0 })
      else
        let chunk_size := claimed - claimed % entry_size layout
        match loop (copy_body layout (api.memory log_ring_buf) data_ptr chunk_size) fuel
            ⟨0, s.processed, s.entry, s.copies⟩ with
        | none => none
        | some chunk =>
          some (.inl
            { log_ring_buf := api.ring_buf_get_finish log_ring_buf 0
              remaining := s.remaining - chunk_size
              processed := chunk.processed
              entry := chunk.entry
              copies := chunk.copies })
  else some (.inr s)

/-- The buffer and `*entry` after the call, and what the call returns. A `NULL`
    pointer has no entry. -/
structure LastOutcome (RingBuf : Type*) where
  log_ring_buf : RingBuf
  entry : Option LogEntry
  result : Status

def sensor_log_get_last_entry (entry : Option LogEntry) (log_ring_buf : RingBuf) (fuel : Nat) :
    Option (LastOutcome RingBuf) :=
  if sensor_log_get_entry_count api layout log_ring_buf = 0 then some ⟨log_ring_buf, entry, .error .ENoEnt⟩
  else
    match entry with
    | none => some ⟨log_ring_buf, none, .error .ENoEnt⟩
    | some entry =>
      match loop (search_body api layout fuel) fuel
          ⟨log_ring_buf, api.ring_buf_size_get log_ring_buf, 0, entry, []⟩ with
      | none => none
      | some s =>
        some ⟨s.log_ring_buf, some s.entry, if s.processed ≥ entry_size layout then .ok () else .error .ENoEnt⟩

/-! ### The walk of the history command -/

/-- The entry of the last copy, or the one there was before. -/
def lastEntry (before : LogEntry) (copies : List Memcpy) : LogEntry :=
  (copies.getLast?.map (·.entry)).getD before

def bytesOf (copies : List Memcpy) : UInt32 := UInt32.ofNat (copies.length * layout.size)

/-- The inner loop as it would be, had it copied what the history command printed. -/
def copied (before : LogEntry) (s : ChunkState) : CopyState :=
  ⟨s.i, bytesOf layout s.copies, lastEntry before s.copies, s.copies⟩

def searched (before : LogEntry) (s : HistoryState RingBuf) : SearchState RingBuf :=
  ⟨s.log_ring_buf, s.remaining, bytesOf layout s.copies, lastEntry before s.copies, s.copies⟩

theorem bytesOf_concat (copies : List Memcpy) (copy : Memcpy) :
    bytesOf layout (copies ++ [copy]) = bytesOf layout copies + entry_size layout := by
  unfold bytesOf entry_size
  rw [List.length_append, List.length_singleton, Nat.add_mul, Nat.one_mul, UInt32.ofNat_add]

theorem lastEntry_concat (before : LogEntry) (copies : List Memcpy) (copy : Memcpy) :
    lastEntry before (copies ++ [copy]) = copy.entry := by
  simp [lastEntry]

theorem copy_body_copied (before : LogEntry) (memory : List UInt8) (data_ptr : Nat) (chunk_size : UInt32)
    (s : ChunkState) :
    copy_body layout memory data_ptr chunk_size (copied layout before s) =
      (chunk_body layout memory data_ptr chunk_size s).map (Sum.map (copied layout before) (copied layout before)) := by
  unfold copy_body chunk_body
  by_cases inside : s.i < chunk_size
  · rw [if_pos inside, if_pos (show (copied layout before s).i < chunk_size from inside)]
    simp [copied, bytesOf_concat, lastEntry_concat]
  · rw [if_neg inside, if_neg (show ¬ (copied layout before s).i < chunk_size from inside)]
    rfl

theorem search_body_searched (before : LogEntry) (fuel : Nat) (s : HistoryState RingBuf) :
    search_body api layout fuel (searched layout before s) =
      (history_body api layout fuel s).map (Sum.map (searched layout before) (searched layout before)) := by
  obtain ⟨ring_buf, remaining, count, copies⟩ := s
  show search_body api layout fuel ⟨ring_buf, remaining, bytesOf layout copies, lastEntry before copies, copies⟩ = _
  unfold search_body history_body
  by_cases goesOn : remaining ≥ entry_size layout
  swap
  · rw [if_neg goesOn, if_neg goesOn]
    rfl
  rw [if_pos goesOn, if_pos goesOn]
  generalize api.ring_buf_get_claim ring_buf remaining = claim
  obtain ⟨data_ptr, claimed, log_ring_buf⟩ := claim
  dsimp only
  by_cases short : claimed < entry_size layout
  · rw [if_pos short, if_pos short]
    rfl
  rw [if_neg short, if_neg short]
  have walk := loop_map (copied layout before) (copied layout before)
    (copy_body_copied layout before (api.memory log_ring_buf) data_ptr (claimed - claimed % entry_size layout)) fuel
    ⟨0, count, copies⟩
  dsimp only [copied] at walk
  rw [walk]
  cases loop (chunk_body layout (api.memory log_ring_buf) data_ptr (claimed - claimed % entry_size layout)) fuel
    ⟨0, count, copies⟩ <;> rfl

end

/-! ### What the call returns -/

variable {RingBuf : Type*} {api : RingBufApi RingBuf} {layout : LogEntryLayout} {ring : RingBuf → Ring}

theorem entry_count (documented : api.Documented ring) {r : RingBuf} {N k n : Nat}
    (stores : Stores layout (ring r) N k n) : sensor_log_get_entry_count api layout r = n := by
  rw [sensor_log_get_entry_count, documented.size r stores.unclaimed, stores.unread]
  exact Nat.mul_div_cancel n layout.size_pos

/-- Of an empty log there is no last entry. -/
theorem last_entry_empty (documented : api.Documented ring) {r : RingBuf} {N k : Nat}
    (stores : Stores layout (ring r) N k 0) (entry : LogEntry) (fuel : Nat) :
    sensor_log_get_last_entry api layout (some entry) r fuel = some ⟨r, some entry, .error .ENoEnt⟩ := by
  rw [sensor_log_get_last_entry, if_pos (entry_count documented stores)]

theorem lastEntry_range (before : LogEntry) (f : Nat → Memcpy) {n : Nat} (nonempty : 0 < n) :
    lastEntry before ((List.range n).map f) = (f (n - 1)).entry := by
  obtain ⟨m, rfl⟩ : ∃ m, n = m + 1 := ⟨n - 1, by omega⟩
  rw [List.range_succ, List.map_append, List.map_singleton, lastEntry_concat, Nat.add_sub_cancel]

/-- Where the walk of the history command ends, the call ends with what it has
    copied by then. -/
theorem last_entry_command {r : RingBuf} {last : HistoryState RingBuf} (entry : LogEntry)
    (stored : sensor_log_get_entry_count api layout r ≠ 0)
    (loops : LoopsTo (history_body api layout) ⟨r, api.ring_buf_size_get r, 0, []⟩ last) :
    Eventually (sensor_log_get_last_entry api layout (some entry) r)
      ⟨last.log_ring_buf, some (lastEntry entry last.copies),
        if bytesOf layout last.copies ≥ entry_size layout then .ok () else .error .ENoEnt⟩ := by
  have start : searched layout entry (⟨r, api.ring_buf_size_get r, 0, []⟩ : HistoryState RingBuf) =
      ⟨r, api.ring_buf_size_get r, 0, entry, []⟩ := by
    simp [searched, bytesOf, lastEntry]
  obtain ⟨enough, runs⟩ := loops.eventually
  refine ⟨enough, fun fuel large => ?_⟩
  have walk := loop_map (searched layout entry) (searched layout entry) (search_body_searched api layout entry fuel)
    fuel ⟨r, api.ring_buf_size_get r, 0, []⟩
  have ends := runs fuel large
  dsimp only at ends
  rw [ends, start] at walk
  rw [sensor_log_get_last_entry, if_neg stored, walk]
  rfl

/-- The call ends on the last record that the history command would print. -/
theorem last_entry_result (documented : api.Documented ring) {r : RingBuf} {N k n : Nat}
    (stores : Stores layout (ring r) N k n) (nonempty : 0 < n) (entry : LogEntry) :
    ∃ outcome, Eventually (sensor_log_get_last_entry api layout (some entry) r) outcome ∧
      ring outcome.log_ring_buf = ring r ∧ outcome.result = .ok () ∧
      outcome.entry = some (record layout (ring r) ((n - 1) % contiguous N k n)).entry := by
  have remaining : (api.ring_buf_size_get r).toNat = n * layout.size := by
    rw [documented.size r stores.unclaimed, stores.unread]
  obtain ⟨last, loops, same, printed⟩ := history_loop documented stores nonempty n
    (s := ⟨r, api.ring_buf_size_get r, 0, []⟩) rfl remaining
  rw [List.nil_append] at printed
  have some_entries : sensor_log_get_entry_count api layout r ≠ 0 := by
    rw [entry_count documented stores]
    omega
  have processed : (bytesOf layout last.copies).toNat = n * layout.size := by
    have bounded := (api.ring_buf_size_get r).toNat_lt
    rw [bytesOf, printed, List.length_map, List.length_range]
    exact UInt32.toNat_ofNat_of_lt' (by rw [← remaining]; exact bounded)
  have found : bytesOf layout last.copies ≥ entry_size layout := by
    rw [ge_iff_le, UInt32.le_iff_toNat_le, entry_size_toNat, processed]
    exact Nat.le_mul_of_pos_left _ nonempty
  refine ⟨_, last_entry_command entry some_entries loops, same, if_pos found, ?_⟩
  dsimp only
  rw [printed, lastEntry_range _ _ nonempty]

/-- The call succeeds exactly on a log that is not empty, and then stores the
    newest record; on an empty log it reports that there is none and stores nothing. -/
def ReturnsNewest (api : RingBufApi RingBuf) (layout : LogEntryLayout) (ring : RingBuf → Ring) (r : RingBuf)
    (n : Nat) (entry : LogEntry) : Prop :=
  ∃ outcome, Eventually (sensor_log_get_last_entry api layout (some entry) r) outcome ∧
    (outcome.result = .ok () ↔ 1 ≤ n) ∧
    (1 ≤ n → outcome.entry = some (record layout (ring r) (n - 1)).entry) ∧
    (n = 0 → outcome.result = .error .ENoEnt ∧ outcome.entry = some entry)

/-- The newest record is returned exactly where the log is empty, or does not go
    on at the start of the array, or where the record that the walk ends on
    happens to be equal to it. -/
theorem returns_newest_iff (documented : api.Documented ring) {r : RingBuf} {N k n : Nat}
    (stores : Stores layout (ring r) N k n) (entry : LogEntry) :
    ReturnsNewest api layout ring r n entry ↔
      n = 0 ∨ k + n ≤ N ∨
        (record layout (ring r) ((n - 1) % (N - k))).entry = (record layout (ring r) (n - 1)).entry := by
  by_cases nonempty : 0 < n
  swap
  · obtain rfl : n = 0 := by omega
    refine ⟨fun _ => .inl rfl, fun _ => ?_⟩
    refine ⟨⟨r, some entry, .error .ENoEnt⟩, .of_all (last_entry_empty documented stores entry), ?_, ?_, ?_⟩
    · simp
    · omega
    · exact fun _ => ⟨rfl, rfl⟩
  obtain ⟨outcome, ends, _, result, stored⟩ := last_entry_result documented stores nonempty entry
  constructor
  · rintro ⟨other, endsOther, _, newest, _⟩
    obtain rfl := ends.unique endsOther
    by_cases straight : k + n ≤ N
    · exact .inr (.inl straight)
    · have short : contiguous N k n = N - k := by unfold contiguous; omega
      rw [short, newest nonempty] at stored
      exact .inr (.inr (Option.some.inj stored).symm)
  · intro condition
    refine ⟨outcome, ends, ⟨fun _ => nonempty, fun _ => result⟩, fun _ => ?_, fun none => by omega⟩
    rw [stored]
    rcases condition with none | straight | equal
    · omega
    · rw [Nat.mod_eq_of_lt (by unfold contiguous; omega)]
    · by_cases straight : k + n ≤ N
      · rw [Nat.mod_eq_of_lt (by unfold contiguous; omega)]
      · have short : contiguous N k n = N - k := by unfold contiguous; omega
        rw [short, equal]

/-- With the older reading at the start of the array, the newer one is returned. -/
theorem returns_newest_iff_straight :
    ReturnsNewest byteRing littleEndian id (readingsFrom 0 (by decide)) 2 ⟨0, .State, 0⟩ :=
  (returns_newest_iff byteRing_documented (N := 2) (k := 0) ⟨by decide, by decide, by decide, by decide⟩ _).mpr
    (.inr (.inl (by decide)))

/-- Where the log goes on at the start of the array, the walk ends on the older
    of the two readings. -/
theorem wrapped_log_returns_older :
    Stores littleEndian (readingsFrom 16 (by decide)) 2 1 2 ∧
      ¬ ReturnsNewest byteRing littleEndian id (readingsFrom 16 (by decide)) 2 ⟨0, .State, 0⟩ := by
  have stores : Stores littleEndian (readingsFrom 16 (by decide)) 2 1 2 :=
    ⟨by decide, by decide, by decide, by decide⟩
  refine ⟨stores, ?_⟩
  rintro ⟨outcome, ends, _, newest, _⟩
  obtain ⟨other, endsOther, _, _, stored⟩ := last_entry_result byteRing_documented stores (by decide) ⟨0, .State, 0⟩
  obtain rfl := ends.unique endsOther
  rw [newest (by decide)] at stored
  revert stored
  decide

end ZephyrWorkshop.SensorLogLast
