import Kernelflinger.Installer.SplitView

/-
The loop of `installer_split_and_flash` over its buffer refines the view of `Installer.SplitView`
over the file: the carried bytes and what a turn reads are the file's bytes from the view's
`next` on, so the chunk loop counts the view's chunks, and each flashed buffer is the view's
`groupBuffer`. Both return the same outcome after the same flashes.
-/

namespace Kernelflinger.Installer

open Memory BootImage

theorem toUInt8_toNat (byte : UInt8) : byte.toNat.toUInt8 = byte := by
  cases byte with
  | mk val => simp [Nat.toUInt8, UInt8.ofNat, UInt8.toNat, Fin.ofNat, Nat.mod_eq_of_lt val.isLt]

/-- The bytes of a field are the little-endian bytes of the value read from it. -/
theorem byteOf_readLE (memory : Bytes) (address width : Nat) :
    ∀ i < width, byteOf (readLE memory address width) i = memory (address + i) := by
  induction width generalizing address with
  | zero => exact fun i below => absurd below (Nat.not_lt_zero i)
  | succ width inductionHypothesis =>
      have low : (memory address).toNat < 256 := (memory address).val.isLt
      intro i below
      cases i with
      | zero =>
          have first : readLE memory address (width + 1) / 256 ^ 0 % 256 = (memory address).toNat := by
            rw [readLE]; omega
          rw [byteOf, first, toUInt8_toNat, Nat.add_zero]
      | succ i =>
          have shifted : readLE memory address (width + 1) / 256 = readLE memory (address + 1) width := by
            rw [readLE]; omega
          rw [byteOf, Nat.pow_succ', ← Nat.div_div_eq_div_mul, shifted, ← byteOf,
            inductionHypothesis _ i (by omega), Nat.add_assoc, Nat.add_comm 1]

theorem bytesAt_eq_le32 (memory : Bytes) (address : Nat) :
    bytesAt memory address 4 = le32 (readLE memory address 4) := by
  simp only [bytesAt, le32, List.map_inj_left, List.mem_range]
  exact fun i below => (byteOf_readLE memory address 4 i below).symm

theorem le32_mod (value : Nat) : le32 (value % 2 ^ 32) = le32 value := by
  simp only [le32, List.map_inj_left, List.mem_range, byteOf]
  intro i below
  congr 1
  obtain _ | _ | _ | _ | i := i <;>
    simp only [Nat.pow_zero, Nat.pow_succ, Nat.one_mul, Nat.reduceMul] <;> omega

theorem bytesAt_byteOf (value address count : Nat) :
    bytesAt (fun i => byteOf value (i - address)) address count = (List.range count).map (byteOf value) := by
  simp only [bytesAt, Nat.add_sub_cancel_left]

theorem bytesAt_add (memory : Bytes) (address first second : Nat) :
    bytesAt memory address (first + second) =
      bytesAt memory address first ++ bytesAt memory (address + first) second := by
  simp [bytesAt, List.range_add, Function.comp_def, Nat.add_assoc]

theorem listBytes_drop_take (bytes : List UInt8) {start count i : Nat} (below : i < count) :
    listBytes ((bytes.drop start).take count) i = listBytes bytes (start + i) := by
  simp [listBytes, List.getD_eq_getElem?_getD, List.getElem?_take, below]

theorem bytesAt_listBytes (bytes : List UInt8) {address count : Nat}
    (inside : address + count ≤ bytes.length) :
    bytesAt (listBytes bytes) address count = (bytes.drop address).take count := by
  refine List.ext_getElem (by simp; omega) fun i below _ => ?_
  simp only [length_bytesAt] at below
  simp [bytesAt, listBytes, List.getD_eq_getElem?_getD, show address + i < bytes.length by omega]

section Window

variable {memory file : Bytes} {base start length : Nat}
  (same : ∀ i < length, memory (base + i) = file (start + i))

include same

theorem readLE_shift {offset width : Nat} (inside : offset + width ≤ length) :
    readLE memory (base + offset) width = readLE file (start + offset) width := by
  induction width generalizing offset with
  | zero => rfl
  | succ width inductionHypothesis =>
      rw [readLE, readLE, Nat.add_assoc base, Nat.add_assoc start, inductionHypothesis (by omega),
        same offset (by omega)]

theorem bytesAt_shift {offset count : Nat} (inside : offset + count ≤ length) :
    bytesAt memory (base + offset) count = bytesAt file (start + offset) count := by
  simp only [bytesAt, List.map_inj_left, List.mem_range]
  intro i below
  rw [Nat.add_assoc, Nat.add_assoc, same _ (by omega)]

theorem totalSz_shift {offset : Nat} (header : offset + chunkHeaderSize ≤ length) :
    totalSz memory (base + offset) = totalSz file (start + offset) := by
  rw [totalSz, totalSz, Nat.add_assoc base, Nat.add_assoc start]
  exact readLE_shift same (by unfold chunkHeaderSize at header; omega)

theorem chunkSz_shift {offset : Nat} (header : offset + chunkHeaderSize ≤ length) :
    chunkSz memory (base + offset) = chunkSz file (start + offset) := by
  rw [chunkSz, chunkSz, Nat.add_assoc base, Nat.add_assoc start]
  exact readLE_shift same (by unfold chunkHeaderSize at header; omega)

theorem fitsBelow_shift (offset : Nat) :
    fitsBelow memory (base + length) (base + offset) = fitsBelow file (start + length) (start + offset) := by
  unfold fitsBelow
  by_cases header : offset + chunkHeaderSize ≤ length
  · rw [totalSz_shift same header]
    simp only [Nat.add_assoc, Nat.add_le_add_iff_left]
  · simp only [Nat.add_assoc, Nat.add_le_add_iff_left, header, false_and]

/-- The window parses as the file does from the same place. -/
theorem chunksIn_shift : ∀ offset count,
    chunksIn memory (base + length) (base + offset) count = chunksIn file (start + length) (start + offset) count
  | _, 0 => rfl
  | offset, count + 1 => by
      rw [chunksIn, chunksIn, fitsBelow_shift same offset]
      split
      · rename_i fits
        have fitting : offset + chunkHeaderSize ≤ length ∧ offset + totalSz file (start + offset) ≤ length := by
          simpa [fitsBelow, Nat.add_assoc] using fits
        rw [totalSz_shift same fitting.1, chunkSz_shift same fitting.1, bytesAt_shift same fitting.2,
          Nat.add_assoc base, Nat.add_assoc start, chunksIn_shift _ count]
      · rfl

end Window

theorem flatten_chunksIn (memory : Bytes) (limit : Nat) : ∀ offset count,
    ((chunksIn memory limit offset count).map Prod.snd).flatten =
      bytesAt memory offset (spanOf (chunksIn memory limit offset count))
  | _, 0 => rfl
  | offset, count + 1 => by
      rw [chunksIn]
      split
      · simp only [List.map_cons, List.flatten_cons, spanOf_cons, length_bytesAt, bytesAt_add,
          flatten_chunksIn memory limit]
      · rfl

/-- The header bytes no turn rewrites. -/
def KeptHeader (i : Nat) : Prop := i < 16 ∨ 24 ≤ i ∧ i < 32 ∨ 36 ≤ i ∧ i < 40

theorem initialBuffer_sph (env : SplitEnv) (sph : List UInt8) {i : Nat} (below : i < 28) :
    initialBuffer env sph i = listBytes sph i := by
  simp only [initialBuffer, writeLE, sparseHeaderSize]
  rw [overwrite_outside _ _ (by omega), overwrite_outside _ _ (by omega),
    overwrite_inside _ _ (by omega) (by omega), Nat.sub_zero]

theorem initialBuffer_chunkType (env : SplitEnv) (sph : List UInt8) {i : Nat} (below : i < 2) :
    initialBuffer env sph (28 + i) = byteOf chunkTypeDontCare i := by
  simp only [initialBuffer, writeLE, sparseHeaderSize]
  rw [overwrite_outside _ _ (by omega), overwrite_inside _ _ (by omega) (by omega),
    Nat.add_sub_cancel_left]

theorem initialBuffer_pool (env : SplitEnv) (sph : List UInt8) {i : Nat} (low : 30 ≤ i)
    (high : i < 36) : initialBuffer env sph i = env.pool i := by
  simp only [initialBuffer, writeLE, sparseHeaderSize]
  rw [overwrite_outside _ _ (by omega), overwrite_outside _ _ (by omega),
    overwrite_outside _ _ (by omega)]

theorem initialBuffer_totalSz (env : SplitEnv) (sph : List UInt8) {i : Nat} (below : i < 4) :
    initialBuffer env sph (36 + i) = byteOf chunkHeaderSize i := by
  simp only [initialBuffer, writeLE]
  rw [overwrite_inside _ _ (by omega) (by omega), Nat.add_sub_cancel_left]

/-- A buffer whose kept header bytes are those the first turn wrote. -/
theorem bytesAt_header (env : SplitEnv) {sph : List UInt8} (length : sph.length = sparseHeaderSize)
    {memory : Bytes} (kept : ∀ i, KeptHeader i → memory i = initialBuffer env sph i) (count : Nat) :
    bytesAt memory 0 (headerSize + count) =
      sph.take 16 ++ le32 (readLE memory 16 4) ++ le32 (readLE memory 20 4) ++ sph.drop 24 ++
        le16 chunkTypeDontCare ++ env.reserved1 ++ le32 (readLE memory 32 4) ++
        le32 chunkHeaderSize ++ bytesAt memory headerSize count := by
  have sphBytes (address n : Nat) (inside : address + n ≤ 28)
      (keptAll : ∀ j < n, KeptHeader (address + j)) :
      bytesAt memory address n = (sph.drop address).take n := by
    rw [← bytesAt_listBytes sph (by rw [length]; exact inside)]
    exact bytesAt_congr fun j below =>
      (kept _ (keptAll j below)).trans (initialBuffer_sph env sph (by omega))
  have chunkType : bytesAt memory 28 2 = le16 chunkTypeDontCare := by
    rw [le16, ← bytesAt_byteOf _ 28]
    exact bytesAt_congr fun j below => (kept _ (by unfold KeptHeader; omega)).trans
      ((initialBuffer_chunkType env sph below).trans (by rw [Nat.add_sub_cancel_left]))
  have reserved : bytesAt memory 30 2 = env.reserved1 := by
    rw [bytesAt_succ, bytesAt_succ, kept 30 (by unfold KeptHeader; omega),
      kept 31 (by unfold KeptHeader; omega), initialBuffer_pool env sph (le_refl _) (by omega),
      initialBuffer_pool env sph (by omega) (by omega)]
    rfl
  have totalSz : bytesAt memory 36 4 = le32 chunkHeaderSize := by
    rw [le32, ← bytesAt_byteOf _ 36]
    exact bytesAt_congr fun j below => (kept _ (by unfold KeptHeader; omega)).trans
      ((initialBuffer_totalSz env sph below).trans (by rw [Nat.add_sub_cancel_left]))
  have pieces : headerSize + count = 16 + (4 + (4 + (4 + (2 + (2 + (4 + (4 + count))))))) := by
    unfold headerSize sparseHeaderSize chunkHeaderSize
    omega
  have tail : (sph.drop 24).take 4 = sph.drop 24 :=
    List.take_of_length_le (by rw [List.length_drop, length]; decide)
  rw [pieces]
  simp only [bytesAt_add, Nat.zero_add, Nat.reduceAdd]
  rw [sphBytes 0 16 (by decide) fun j below => by unfold KeptHeader; omega,
    sphBytes 24 4 (by decide) fun j below => by unfold KeptHeader; omega, tail, chunkType, reserved,
    totalSz, bytesAt_eq_le32 memory 16, bytesAt_eq_le32 memory 20, bytesAt_eq_le32 memory 32,
    List.drop_zero]
  simp only [List.append_assoc]
  rfl

theorem resetHeaders_kept (buffer : Bytes) (blkCount : UInt32) {i : Nat}
    (outside : i < 16 ∨ 24 ≤ i ∧ i < 32 ∨ 36 ≤ i) : resetHeaders buffer blkCount i = buffer i := by
  simp only [resetHeaders, writeLE]
  rw [overwrite_outside _ _ (by omega), overwrite_outside _ _ (by omega),
    overwrite_outside _ _ (by omega)]

/-- A turn's start resets the three header fields. -/
theorem readLE_resetHeaders (buffer : Bytes) (blkCount : UInt32) :
    readLE (resetHeaders buffer blkCount) 16 4 = blkCount.toNat ∧
      readLE (resetHeaders buffer blkCount) 20 4 = 1 ∧
      readLE (resetHeaders buffer blkCount) 32 4 = blkCount.toNat := by
  have below : blkCount.toNat < 256 ^ 4 := blkCount.toBitVec.isLt
  refine ⟨?_, ?_, (readLE_writeLE _ 32 _ 4).trans (Nat.mod_eq_of_lt below)⟩
  · simp only [resetHeaders, writeLE]
    rw [readLE_overwrite_of_outside _ _ fun _ _ => by omega]
    exact (readLE_writeLE _ 16 _ 4).trans (Nat.mod_eq_of_lt below)
  · simp only [resetHeaders, writeLE]
    rw [readLE_overwrite_of_outside _ _ fun _ _ => by omega,
      readLE_overwrite_of_outside _ _ fun _ _ => by omega]
    exact readLE_writeLE _ 20 1 4

/-- A flashed buffer built this way is the view's `groupBuffer`. -/
theorem bytesAt_groupBuffer (env : SplitEnv) {sph : List UInt8} (length : sph.length = sparseHeaderSize)
    {memory : Bytes} (kept : ∀ i, KeptHeader i → memory i = initialBuffer env sph i) (before : Nat)
    (chunks : List (Nat × List UInt8))
    (totalBlks : readLE memory 16 4 = (before + blocksOf chunks) % 2 ^ 32)
    (totalChunks : readLE memory 20 4 = (chunks.length + 1) % 2 ^ 32)
    (skipped : readLE memory 32 4 = before % 2 ^ 32)
    (data : bytesAt memory headerSize (spanOf chunks) = (chunks.map Prod.snd).flatten) :
    bytesAt memory 0 (headerSize + spanOf chunks) = groupBuffer sph env.reserved1 before chunks := by
  rw [bytesAt_header env length kept, totalBlks, totalChunks, skipped, le32_mod, le32_mod, le32_mod,
    data]
  rfl

/-- The end of a turn moves the bytes from `ckh` to `limit` to the front. -/
theorem flatCarryOver_fields (env : SplitEnv) (s : SplitState) {ckh limit : Nat} (below : ckh ≤ limit) :
    let s' := flatCarryOver env s ckh ckh limit
    s'.readPtr = headerSize + (limit - ckh) ∧ s'.readSize = env.dataSize - (limit - ckh) ∧
      (∀ i < limit - ckh, s'.buffer (headerSize + i) = s.buffer (ckh + i)) ∧
      ∀ i < headerSize, s'.buffer i = s.buffer i := by
  unfold flatCarryOver
  split
  · refine ⟨rfl, rfl, fun i short => ?_, fun i short => ?_⟩
    · simp only [memcpy]
      rw [overwrite_inside _ _ (Nat.le_add_right _ _) (by omega), Nat.add_sub_cancel_left]
    · simp only [memcpy]
      rw [overwrite_outside _ _ (.inl short)]
  · have none : limit - ckh = 0 := by omega
    simp [none]

/-- How a state of the code between two turns stands to a view of the file. -/
structure SplitState.Tracks (env : SplitEnv) (content : List UInt8) (s : SplitState)
    (v : SplitView) : Prop where
  inside : v.Inside env content
  remainingData : s.remainingData = v.remainingData
  nbChunks : s.nbChunks = v.nbChunks
  readPtr : s.readPtr = headerSize + v.carried content
  readSize : s.readSize = env.dataSize - v.carried content
  carriedBytes : ∀ i < v.carried content, s.buffer (headerSize + i) = listBytes content (v.next + i)
  header : ∀ i, KeptHeader i → s.buffer i = initialBuffer env (content.take sparseHeaderSize) i
  blkCount : s.blkCount.toNat = blocksOf v.groups.flatten % 2 ^ 32
  flashed : s.flashed = groupBuffers (content.take sparseHeaderSize) env.reserved1 0 v.groups

namespace SplitState.Tracks

variable {env : SplitEnv} {content : List UInt8} {s : SplitState} {v : SplitView}

theorem turnReadSize (tracks : s.Tracks env content v) :
    s.turnReadSize = v.readSize env content := by
  unfold SplitState.turnReadSize SplitView.readSize
  rw [tracks.remainingData, tracks.readSize]

/-- The piece a turn reads. -/
def piece (content : List UInt8) (v : SplitView) (env : SplitEnv) : List UInt8 :=
  (content.drop (v.position content)).take (v.readSize env content)

/-- A turn reads the view's piece of the file after the carried bytes. -/
theorem turnRead (tracks : s.Tracks env content v) (remaining : 0 < v.remainingData) :
    let buffer := (flatTurnScan s (piece content v env)).buffer
    readFile content (content.length - s.remainingData) s.turnReadSize = some (piece content v env) ∧
      s.readPtr + s.turnReadSize = headerSize + (v.window env content - v.next) ∧
      (∀ i < v.window env content - v.next, buffer (headerSize + i) = listBytes content (v.next + i)) ∧
      (∀ i, KeptHeader i → buffer i = initialBuffer env (content.take sparseHeaderSize) i) ∧
      readLE buffer 16 4 = s.blkCount.toNat ∧ readLE buffer 20 4 = 1 ∧
      readLE buffer 32 4 = s.blkCount.toNat := by
  obtain ⟨atMost, ahead, read, -, -⟩ := tracks.inside.window_bounds remaining
  have behind := tracks.inside.behind
  have limit : s.readPtr + s.turnReadSize = headerSize + (v.window env content - v.next) := by
    rw [tracks.readPtr, tracks.turnReadSize]
    simp only [SplitView.window, SplitView.carried] at ahead ⊢
    omega
  have below (i : Nat) (short : i < headerSize + 0) : i < s.readPtr ∨ s.readPtr + s.turnReadSize ≤ i :=
    .inl (by rw [tracks.readPtr]; omega)
  refine ⟨?_, limit, fun i inside => ?_, fun i kept => ?_, ?_⟩
  · rw [tracks.remainingData, tracks.turnReadSize]
    exact readFile_eq_some.mpr ⟨by unfold SplitView.window at read; exact read, rfl⟩
  · by_cases carried : i < v.carried content
    · simp only [Installer.flatTurnScan]
      rw [overwrite_outside _ _ (.inl (by rw [tracks.readPtr]; omega)),
        resetHeaders_kept _ _ (by unfold headerSize sparseHeaderSize chunkHeaderSize; omega)]
      exact tracks.carriedBytes i carried
    · simp only [Installer.flatTurnScan]
      have offset : headerSize + i - s.readPtr = i - v.carried content := by
        rw [tracks.readPtr]; omega
      have short : i - v.carried content < v.readSize env content := by
        simp only [SplitView.window, SplitView.carried] at inside carried ⊢; omega
      rw [overwrite_inside _ _ (by rw [tracks.readPtr]; omega) (by rw [limit]; omega), offset, piece,
        listBytes_drop_take _ short]
      simp only [SplitView.carried] at carried ⊢
      congr 1
      omega
  · have low : i < 40 := by unfold KeptHeader at kept; omega
    simp only [Installer.flatTurnScan]
    rw [overwrite_outside _ _ (below i low),
      resetHeaders_kept _ _ (by unfold KeptHeader at kept; omega)]
    exact tracks.header i kept
  · obtain ⟨field16, field20, field32⟩ := readLE_resetHeaders s.buffer s.blkCount
    simp only [Installer.flatTurnScan]
    rw [readLE_overwrite_of_outside _ _ fun j below => ?_, readLE_overwrite_of_outside _ _ fun j below => ?_,
      readLE_overwrite_of_outside _ _ fun j below => ?_]
    · exact ⟨field16, field20, field32⟩
    all_goals exact .inl (by rw [tracks.readPtr]; unfold headerSize sparseHeaderSize chunkHeaderSize; omega)

end SplitState.Tracks

/-- A turn of the code and a turn of the view that agree. -/
def TurnTracks (env : SplitEnv) (content : List UInt8) : Turn → ViewTurn → Prop
  | .next s, .next v => s.Tracks env content v
  | .stop s outcome, .stop v outcome' =>
      outcome = outcome' ∧
        s.flashed = groupBuffers (content.take sparseHeaderSize) env.reserved1 0 v.groups
  | _, _ => False

/-- The chunk loop of a turn counts the view's chunks. -/
theorem SplitState.Tracks.flatChunkLoop {env : SplitEnv} {content : List UInt8} {s : SplitState}
    {v : SplitView} (tracks : s.Tracks env content v) (remaining : 0 < v.remainingData) :
    let result := Installer.flatChunkLoop (s.readPtr + s.turnReadSize)
      (flatTurnScan s (SplitState.Tracks.piece content v env)) s.nbChunks
    result.1.ckh = headerSize + spanOf (v.chunks env content) ∧
      result.1.flashSize = headerSize + spanOf (v.chunks env content) ∧
      result.1.blkCount.toNat = blocksOf (v.groups ++ [v.chunks env content]).flatten % 2 ^ 32 ∧
      (∀ i < v.window env content - v.next,
        result.1.buffer (headerSize + i) = listBytes content (v.next + i)) ∧
      (∀ i, KeptHeader i → result.1.buffer i = initialBuffer env (content.take sparseHeaderSize) i) ∧
      bytesAt result.1.buffer 0 result.1.flashSize = groupBuffer (content.take sparseHeaderSize)
        env.reserved1 (blocksOf v.groups.flatten) (v.chunks env content) ∧
      result.2 = if (v.chunks env content).length = v.nbChunks ∧ fitsBelow (listBytes content)
          (v.window env content) (v.next + spanOf (v.chunks env content))
        then .error .tooManyChunks else .ok (v.nbChunks - (v.chunks env content).length) := by
  dsimp only
  obtain ⟨-, limitEq, window, kept, field16, field20, field32⟩ := tracks.turnRead remaining
  obtain ⟨-, -, read, -, span⟩ := tracks.inside.window_bounds remaining
  have behind := tracks.inside.behind
  have wNext : v.next + (v.window env content - v.next) = v.window env content := by
    simp only [SplitView.window] at read ⊢; omega
  have chunksEq : chunksIn (flatTurnScan s (SplitState.Tracks.piece content v env)).buffer
      (s.readPtr + s.turnReadSize) headerSize s.nbChunks = v.chunks env content := by
    rw [limitEq, tracks.nbChunks, SplitView.chunks]
    conv_rhs => rw [← wNext, ← Nat.add_zero v.next]
    exact chunksIn_shift window 0 v.nbChunks
  have fitsEq : fitsBelow (flatTurnScan s (SplitState.Tracks.piece content v env)).buffer
      (s.readPtr + s.turnReadSize) (headerSize + spanOf (v.chunks env content)) =
      fitsBelow (listBytes content) (v.window env content) (v.next + spanOf (v.chunks env content)) := by
    rw [limitEq]
    conv_rhs => rw [← wNext]
    exact fitsBelow_shift window _
  have sphLength : (content.take sparseHeaderSize).length = sparseHeaderSize := by
    have := tracks.inside.start
    simp only [SplitView.position] at behind
    simp only [List.length_take]
    omega
  obtain ⟨ckh, flash, blk, total16, total20, frame, outcome⟩ :=
    flatChunkLoop_spec (s.readPtr + s.turnReadSize) (flatTurnScan s (SplitState.Tracks.piece content v env))
      s.nbChunks (show 24 ≤ headerSize by decide)
  simp only [flatTurnScan_ckh, flatTurnScan_flashSize, flatTurnScan_blkCount, chunksEq] at ckh flash blk total16
  simp only [flatTurnScan_ckh, chunksEq, fitsEq] at total20 outcome
  generalize Installer.flatChunkLoop (s.readPtr + s.turnReadSize)
    (flatTurnScan s (SplitState.Tracks.piece content v env)) s.nbChunks = result at *
  have windowAfter (i : Nat) (inside : i < v.window env content - v.next) :=
    (frame (headerSize + i) (.inr (Nat.le_add_right_of_le (by decide)))).trans (window i inside)
  have keptAfter (i : Nat) (kept' : KeptHeader i) :=
    (frame i (by unfold KeptHeader at kept'; omega)).trans (kept i kept')
  refine ⟨ckh, flash, ?_, windowAfter, keptAfter, ?_, outcome.trans (by rw [tracks.nbChunks])⟩
  · rw [blk, tracks.blkCount, Nat.mod_add_mod, List.flatten_append, List.flatten_singleton,
      blocksOf_append]
  rw [flash]
  refine bytesAt_groupBuffer env sphLength keptAfter _ _ ?_ ?_ ?_ ?_
  · rw [total16, field16, tracks.blkCount, Nat.mod_add_mod]
  · rw [total20, field20, Nat.add_comm]
  · rw [readLE_congr 4 fun j _ => frame (32 + j) (.inr (by omega)), field32, tracks.blkCount]
  · rw [SplitView.chunks, flatten_chunksIn, ← SplitView.chunks, ← Nat.add_zero headerSize,
      ← Nat.add_zero v.next]
    exact bytesAt_shift windowAfter (by omega)

/-- After the chunks are flashed, the state tracks the advanced view. -/
theorem SplitState.Tracks.flatCarryOver {env : SplitEnv} {content : List UInt8} {s mid : SplitState}
    {v : SplitView} {limit : Nat} (tracks : s.Tracks env content v)
    (going : 0 < v.nbChunks ∧ 0 < v.remainingData) (spanned : spanOf (v.chunks env content) ≠ 0)
    (limitEq : limit = headerSize + (v.window env content - v.next))
    (remainingData : mid.remainingData = s.remainingData - s.turnReadSize)
    (nbChunks : mid.nbChunks = v.nbChunks - (v.chunks env content).length)
    (blkCount : mid.blkCount.toNat = blocksOf (v.groups ++ [v.chunks env content]).flatten % 2 ^ 32)
    (flashed : mid.flashed = s.flashed ++ [groupBuffer (content.take sparseHeaderSize)
      env.reserved1 (blocksOf v.groups.flatten) (v.chunks env content)])
    (window : ∀ i < v.window env content - v.next,
      mid.buffer (headerSize + i) = listBytes content (v.next + i))
    (kept : ∀ i, KeptHeader i → mid.buffer i = initialBuffer env (content.take sparseHeaderSize) i) :
    (Installer.flatCarryOver env mid (headerSize + spanOf (v.chunks env content))
      (headerSize + spanOf (v.chunks env content)) limit).Tracks env content (v.advance env content) := by
  obtain ⟨-, -, -, -, span⟩ := tracks.inside.window_bounds going.2
  obtain ⟨readPtr', readSize', moved, front⟩ := flatCarryOver_fields env mid
    (show headerSize + spanOf (v.chunks env content) ≤ limit by rw [limitEq]; omega)
  have carried : (v.advance env content).carried content =
      limit - (headerSize + spanOf (v.chunks env content)) := by
    rw [limitEq, SplitView.carried, tracks.inside.advance_position going.2]
    dsimp only [SplitView.advance]
    omega
  refine ⟨tracks.inside.advance going.2 spanned, ?_, ?_, ?_, ?_, fun i short => ?_, fun i kept' => ?_,
    ?_, ?_⟩
  · rw [flatCarryOver_remainingData, remainingData, tracks.remainingData, tracks.turnReadSize]
    rfl
  · rw [flatCarryOver_nbChunks, nbChunks]
    rfl
  · rw [readPtr', carried]
  · rw [readSize', carried]
  · rw [carried] at short
    rw [moved i short, Nat.add_assoc, window _ (by rw [limitEq] at short; omega), ← Nat.add_assoc]
    rfl
  · exact (front i (show i < 40 by unfold KeptHeader at kept'; omega)).trans (kept i kept')
  · rw [flatCarryOver_blkCount]
    exact blkCount
  · rw [flatCarryOver_flashed, flashed, tracks.flashed]
    dsimp only [SplitView.advance]
    rw [groupBuffers_append, Nat.zero_add]

/-- Each turn of the code does what the view's turn does. -/
theorem flatSplitTurn_tracks {env : SplitEnv} {content : List UInt8} {s : SplitState} {v : SplitView}
    (tracks : s.Tracks env content v) (going : 0 < v.nbChunks ∧ 0 < v.remainingData) :
    TurnTracks env content (flatSplitTurn env content s) (viewTurn env content v) := by
  obtain ⟨readEq, limitEq, -⟩ := tracks.turnRead going.2
  obtain ⟨ckh, flash, blk, window, kept, grouped, outcome⟩ := tracks.flatChunkLoop going.2
  unfold flatSplitTurn viewTurn
  dsimp only
  rw [readEq]
  dsimp only
  generalize flatChunkLoop (s.readPtr + s.turnReadSize) (flatTurnScan s (SplitState.Tracks.piece content v env))
    s.nbChunks = result at ckh flash blk window kept grouped outcome ⊢
  obtain ⟨scan, ended⟩ := result
  dsimp only at ckh flash blk window kept grouped outcome ⊢
  rw [outcome, grouped]
  by_cases tooMany : (v.chunks env content).length = v.nbChunks ∧
      fitsBelow (listBytes content) (v.window env content) (v.next + spanOf (v.chunks env content)) = true
  · rw [if_pos tooMany, if_pos tooMany]
    exact ⟨rfl, tracks.flashed⟩
  rw [if_neg tooMany, if_neg tooMany]
  dsimp only
  by_cases spanned : spanOf (v.chunks env content) = 0
  · rw [if_pos (show scan.flashSize = headerSize by rw [flash, spanned]; rfl), if_pos spanned]
    have same : scan.ckh + chunkHeaderSize < s.readPtr + s.turnReadSize ↔
        v.next + spanOf (v.chunks env content) + chunkHeaderSize < v.window env content := by
      rw [ckh, limitEq]
      omega
    simp only [same]
    split_ifs <;> exact ⟨rfl, tracks.flashed⟩
  rw [if_neg (show scan.flashSize ≠ headerSize by rw [flash]; omega), if_neg spanned]
  cases flashing : env.flashOk (groupBuffer (content.take sparseHeaderSize) env.reserved1
    (blocksOf v.groups.flatten) (v.chunks env content))
  · rw [if_pos (show (!false) = true from rfl), if_pos (show (!false) = true from rfl)]
    refine ⟨rfl, ?_⟩
    rw [tracks.flashed, groupBuffers_append, Nat.zero_add]
  rw [if_neg (show ¬(!true) = true from Bool.false_ne_true),
    if_neg (show ¬(!true) = true from Bool.false_ne_true), ckh, flash]
  exact tracks.flatCarryOver going spanned limitEq rfl rfl blk rfl window kept

/-- Tracking states end at the same outcome after the same flashes. -/
theorem splitLoop_tracks {env : SplitEnv} {content : List UInt8} (fuel : Nat) {s : SplitState}
    {v : SplitView} (tracks : s.Tracks env content v) :
    (splitLoop (flatSplitTurn env content) fuel s).2 = (viewLoop env content fuel v).2 ∧
      (splitLoop (flatSplitTurn env content) fuel s).1.flashed =
        groupBuffers (content.take sparseHeaderSize) env.reserved1 0 (viewLoop env content fuel v).1.groups := by
  induction fuel generalizing s v with
  | zero => exact ⟨rfl, tracks.flashed⟩
  | succ fuel inductionHypothesis =>
      rw [splitLoop, viewLoop, tracks.nbChunks, tracks.remainingData]
      split
      · rename_i going
        have step := flatSplitTurn_tracks tracks going
        generalize flatSplitTurn env content s = turn at step ⊢
        generalize viewTurn env content v = viewed at step ⊢
        cases turn <;> cases viewed
        · exact inductionHypothesis step
        · exact step.elim
        · exact step.elim
        · exact ⟨congrArg some step.1, step.2⟩
      · exact ⟨rfl, tracks.flashed⟩

/-- The split over unbounded offsets refines the view. -/
theorem flatSplitAndFlash_refines (env : SplitEnv) (content : List UInt8)
    (room : headerSize < env.maxDownloadSize) :
    (flatSplitAndFlash env content).2 = (splitView env content).2 ∧
      (flatSplitAndFlash env content).1.flashed =
        groupBuffers (content.take sparseHeaderSize) env.reserved1 0 (splitView env content).1.groups := by
  unfold flatSplitAndFlash splitWith splitView
  split
  · rename_i missing
    simp only [missing, true_and]
    rfl
  rename_i sph header
  obtain ⟨long, rfl⟩ := readFile_eq_some.mp header
  simp only [header, List.drop_zero]
  split
  · exact ⟨rfl, rfl⟩
  have position : content.length - (content.length - sparseHeaderSize) - sparseHeaderSize = 0 := by
    omega
  refine splitLoop_tracks _ ⟨⟨Nat.sub_le _ _, le_refl _, by simp only [SplitView.position]; omega, ?_⟩,
    rfl, rfl, ?_, ?_, ?_, fun _ _ => rfl, rfl, rfl⟩
  · simp only [SplitView.carried, SplitView.position, position, SplitEnv.dataSize]
    exact Nat.sub_pos_of_lt room
  · simp only [SplitView.carried, SplitView.position, position]
    rfl
  · simp only [SplitView.carried, SplitView.position, position]
    rfl
  · simp only [SplitView.carried, SplitView.position, position]
    exact fun i short => absurd short (Nat.not_lt_zero i)

/-- A split that ends at its test flashed the file's whole chunks in order. -/
theorem installerSplitAndFlash_done (env : SplitEnv) (content : List UInt8)
    (room : headerSize < env.maxDownloadSize) (noWrap : env.NoWrap)
    (done : (installerSplitAndFlash env content).2 = some .done) :
    ∃ groups : List (List (Nat × List UInt8)),
      (∀ chunks ∈ groups, chunks ≠ []) ∧
      groups.flatten = chunksIn (listBytes content) content.length sparseHeaderSize
        (totalChunksOf env (content.take sparseHeaderSize)) ∧
      (installerSplitAndFlash env content).1.flashed =
        groupBuffers (content.take sparseHeaderSize) env.reserved1 0 groups ∧
      ∀ buffer ∈ (installerSplitAndFlash env content).1.flashed,
        buffer.length ≤ env.maxDownloadSize := by
  rw [installerSplitAndFlash_eq_flat noWrap room] at done ⊢
  obtain ⟨outcome, flashed⟩ := flatSplitAndFlash_refines env content room
  obtain ⟨parsed, flatten⟩ := splitView_done env content room (outcome ▸ done)
  have length : (content.take sparseHeaderSize).length = sparseHeaderSize := by
    have := parsed.start
    have := parsed.behind
    simp only [SplitView.position] at *
    simp only [List.length_take]
    omega
  refine ⟨_, parsed.nonempty, flatten, flashed, fun buffer member => ?_⟩
  rw [flashed] at member
  obtain ⟨chunks, inside, earlier, rfl⟩ := mem_groupBuffers member
  rw [groupBuffer_length length (show env.reserved1.length = 2 from rfl)]
  exact parsed.fit chunks inside

/-- `truncatedSparse` flashes its two chunks in two buffers. -/
theorem installerSplitAndFlash_done_truncated :
    headerSize < smallEnv.maxDownloadSize ∧ smallEnv.NoWrap ∧
      (installerSplitAndFlash smallEnv truncatedSparse).2 = some .done ∧
      totalChunksOf smallEnv (truncatedSparse.take sparseHeaderSize) = 3 ∧
      (chunksIn (listBytes truncatedSparse) truncatedSparse.length sparseHeaderSize 3).length = 2 ∧
      ∃ groups : List (List (Nat × List UInt8)),
        (∀ chunks ∈ groups, chunks ≠ []) ∧
        groups.flatten = chunksIn (listBytes truncatedSparse) truncatedSparse.length sparseHeaderSize
          (totalChunksOf smallEnv (truncatedSparse.take sparseHeaderSize)) ∧
        (installerSplitAndFlash smallEnv truncatedSparse).1.flashed =
          groupBuffers (truncatedSparse.take sparseHeaderSize) smallEnv.reserved1 0 groups ∧
        ∀ buffer ∈ (installerSplitAndFlash smallEnv truncatedSparse).1.flashed,
          buffer.length ≤ smallEnv.maxDownloadSize :=
  have noWrap : smallEnv.NoWrap := ⟨by decide, by decide⟩
  have done : (installerSplitAndFlash smallEnv truncatedSparse).2 = some .done := by
    rw [installerSplitAndFlash_eq_flat noWrap (by decide)]
    exact (flatSplitAndFlash_refines smallEnv truncatedSparse (by decide)).1.trans (by decide)
  ⟨by decide, noWrap, done, by decide, by decide,
    installerSplitAndFlash_done smallEnv truncatedSparse (by decide) noWrap done⟩

end Kernelflinger.Installer
