import Kernelflinger.Installer.Split

/-
The split over unbounded offsets, the shape of `installer_split_and_flash` while no pointer sum
wraps, and the proof that the code computes it then.
-/

namespace Kernelflinger.Installer

open Memory BootImage

/-- The body of the chunk loop over unbounded offsets. -/
def ChunkScan.flatCount (scan : ChunkScan) : ChunkScan where
  buffer := addLE (addLE scan.buffer 16 (chunkSz scan.buffer scan.ckh)) 20 1
  ckh := scan.ckh + totalSz scan.buffer scan.ckh
  flashSize := scan.flashSize + totalSz scan.buffer scan.ckh
  blkCount := scan.blkCount + (chunkSz scan.buffer scan.ckh).toUInt32
  accesses := scan.accesses

/-- The chunk loop over unbounded offsets. -/
def flatChunkLoop (limit : Nat) : ChunkScan → Nat → ChunkScan × Except SplitFailure Nat
  | scan, nbChunks =>
      if scan.ckh + chunkHeaderSize ≤ limit then
        let read := { scan with accesses := (scan.ckh, chunkHeaderSize) :: scan.accesses }
        if read.ckh + totalSz read.buffer read.ckh ≤ limit then
          match nbChunks with
          | 0 => (read, .error .tooManyChunks)
          | nbChunks + 1 => flatChunkLoop limit read.flatCount nbChunks
        else (read, .ok nbChunks)
      else (scan, .ok nbChunks)

/-- The end of a turn over unbounded offsets. -/
def flatCarryOver (env : SplitEnv) (s : SplitState) (ckh flashSize limit : Nat) : SplitState :=
  if flashSize < limit then
    let alreadyRead := limit - ckh
    { s with
      buffer := memcpy s.buffer headerSize ckh alreadyRead
      readSize := env.dataSize - alreadyRead, readPtr := headerSize + alreadyRead
      accesses := (headerSize, alreadyRead) :: (ckh, alreadyRead) :: s.accesses }
  else { s with readSize := env.dataSize, readPtr := headerSize }

/-- The chunk loop's start in a turn that read `piece` after what it carried over. -/
def flatTurnScan (s : SplitState) (piece : List UInt8) : ChunkScan :=
  ⟨overwrite (resetHeaders s.buffer s.blkCount) s.readPtr s.turnReadSize (listBytes piece),
    headerSize, headerSize, s.blkCount, (s.readPtr, s.turnReadSize) :: s.accesses⟩

/-- A turn of the outer loop over unbounded offsets. -/
def flatSplitTurn (env : SplitEnv) (content : List UInt8) (s : SplitState) : Turn :=
  let buffer := resetHeaders s.buffer s.blkCount
  let readSize := s.turnReadSize
  match readFile content (content.length - s.remainingData) readSize with
  | none => .stop { s with buffer := buffer } (.failed .readFailed)
  | some piece =>
      let limit := s.readPtr + readSize
      let (scan, ended) := flatChunkLoop limit (flatTurnScan s piece) s.nbChunks
      let s := { s with
        buffer := scan.buffer, remainingData := s.remainingData - readSize, readSize := readSize
        blkCount := scan.blkCount, accesses := scan.accesses }
      match ended with
      | .error failure => .stop s (.failed failure)
      | .ok nbChunks =>
          let s := { s with nbChunks := nbChunks }
          if scan.flashSize = headerSize then
            if scan.ckh + chunkHeaderSize < limit then .stop s (.failed .corrupted)
            else .stop s (.failed .tooBigChunk)
          else
            let flashedBuffer := bytesAt scan.buffer 0 scan.flashSize
            let s := { s with
              flashed := s.flashed ++ [flashedBuffer], accesses := (0, scan.flashSize) :: s.accesses }
            if !env.flashOk flashedBuffer then .stop s .flashFailed
            else .next (flatCarryOver env s scan.ckh scan.flashSize limit)

/-- The split with offsets that never wrap. -/
def flatSplitAndFlash (env : SplitEnv) (content : List UInt8) : SplitState × Option SplitEnd :=
  splitWith env content (flatSplitTurn env content)

/-- Whether a chunk header and the chunk it describes lie below `limit` at `offset`. -/
def fitsBelow (memory : Bytes) (limit offset : Nat) : Bool :=
  decide (offset + chunkHeaderSize ≤ limit ∧ offset + totalSz memory offset ≤ limit)

/-- The chunks that lie whole below `limit`, at most `count` of them. -/
def chunksIn (memory : Bytes) (limit : Nat) : Nat → Nat → List (Nat × List UInt8)
  | _, 0 => []
  | offset, count + 1 =>
      if fitsBelow memory limit offset then
        (chunkSz memory offset, bytesAt memory offset (totalSz memory offset)) ::
          chunksIn memory limit (offset + totalSz memory offset) count
      else []

/-- The bytes a list of chunks spans. -/
def spanOf (chunks : List (Nat × List UInt8)) : Nat := (chunks.map fun chunk => chunk.2.length).sum

/-- The blocks a list of chunks describes. -/
def blocksOf (chunks : List (Nat × List UInt8)) : Nat := (chunks.map Prod.fst).sum

@[simp] theorem spanOf_nil : spanOf [] = 0 := rfl

@[simp] theorem spanOf_cons (chunk : Nat × List UInt8) (chunks : List (Nat × List UInt8)) :
    spanOf (chunk :: chunks) = chunk.2.length + spanOf chunks := by
  simp [spanOf]

@[simp] theorem blocksOf_nil : blocksOf [] = 0 := rfl

@[simp] theorem blocksOf_cons (chunk : Nat × List UInt8) (chunks : List (Nat × List UInt8)) :
    blocksOf (chunk :: chunks) = chunk.1 + blocksOf chunks := by
  simp [blocksOf]

theorem addLE_outside (memory : Bytes) {field value i : Nat} (outside : i < field ∨ field + 4 ≤ i) :
    addLE memory field value i = memory i :=
  overwrite_outside memory _ outside

theorem readLE_addLE (memory : Bytes) (field value : Nat) :
    readLE (addLE memory field value) field 4 = (readLE memory field 4 + value) % 2 ^ 32 :=
  readLE_writeLE memory field _ 4

/-- Reads that miss a field store see the memory before it. -/
theorem readLE_addLE_of_apart (memory : Bytes) {field value address width : Nat}
    (apart : address + width ≤ field ∨ field + 4 ≤ address) :
    readLE (addLE memory field value) address width = readLE memory address width :=
  readLE_overwrite_of_outside memory _ fun _ below => by omega

/-- Memories that agree from `low` on parse the same chunks from there. -/
theorem chunksIn_congr {memory other : Bytes} {low : Nat} (same : ∀ i, low ≤ i → memory i = other i)
    (limit : Nat) : ∀ {offset : Nat} (count : Nat), low ≤ offset →
      chunksIn memory limit offset count = chunksIn other limit offset count
  | _, 0, _ => rfl
  | offset, count + 1, above => by
      have sameAt : ∀ width, ∀ start, low ≤ start → readLE memory start width = readLE other start width :=
        fun width start atLeast => readLE_congr width fun _ _ => same _ (by omega)
      have total : totalSz memory offset = totalSz other offset := sameAt 4 _ (by omega)
      have header : chunkSz memory offset = chunkSz other offset := sameAt 4 _ (by omega)
      have bytes : bytesAt memory offset (totalSz other offset) =
          bytesAt other offset (totalSz other offset) :=
        bytesAt_congr fun _ _ => same _ (by omega)
      simp only [chunksIn, fitsBelow, total, header, bytes,
        chunksIn_congr same limit count (show low ≤ offset + totalSz other offset by omega)]

theorem chunksIn_of_not_fits {memory : Bytes} {limit offset : Nat}
    (outside : fitsBelow memory limit offset = false) (count : Nat) :
    chunksIn memory limit offset count = [] := by
  cases count <;> simp [chunksIn, outside]

theorem fitsBelow_congr {memory other : Bytes} {low : Nat} (same : ∀ i, low ≤ i → memory i = other i)
    (limit : Nat) {offset : Nat} (above : low ≤ offset) :
    fitsBelow memory limit offset = fitsBelow other limit offset := by
  have total : totalSz memory offset = totalSz other offset :=
    readLE_congr 4 fun _ _ => same _ (by omega)
  simp only [fitsBelow, total]

/-- Counting a chunk adds its blocks and one chunk, and keeps the buffer. -/
theorem ChunkScan.flatCount_fields (scan : ChunkScan) :
    readLE scan.flatCount.buffer 16 4 = (readLE scan.buffer 16 4 + chunkSz scan.buffer scan.ckh) % 2 ^ 32 ∧
      readLE scan.flatCount.buffer 20 4 = (readLE scan.buffer 20 4 + 1) % 2 ^ 32 ∧
      ∀ i, i < 16 ∨ 24 ≤ i → scan.flatCount.buffer i = scan.buffer i := by
  refine ⟨?_, ?_, fun i outside => ?_⟩
  · dsimp only [ChunkScan.flatCount]
    rw [readLE_addLE_of_apart _ (by omega), readLE_addLE]
  · dsimp only [ChunkScan.flatCount]
    rw [readLE_addLE, readLE_addLE_of_apart _ (by omega)]
  · dsimp only [ChunkScan.flatCount]
    rw [addLE_outside _ (by omega), addLE_outside _ (by omega)]

/-- A loop that ends before counting leaves counters and buffer. -/
theorem ChunkScan.uncounted {scan : ChunkScan} (result : ChunkScan) (buffer : result.buffer = scan.buffer)
    (ckh : result.ckh = scan.ckh) (flashSize : result.flashSize = scan.flashSize)
    (blkCount : result.blkCount = scan.blkCount) :
    result.ckh = scan.ckh + spanOf [] ∧ result.flashSize = scan.flashSize + spanOf [] ∧
      result.blkCount.toNat = (scan.blkCount.toNat + blocksOf []) % 2 ^ 32 ∧
      readLE result.buffer 16 4 = (readLE scan.buffer 16 4 + blocksOf []) % 2 ^ 32 ∧
      readLE result.buffer 20 4 = (readLE scan.buffer 20 4 + 0) % 2 ^ 32 ∧
      ∀ i, i < 16 ∨ 24 ≤ i → result.buffer i = scan.buffer i := by
  have blkBelow : scan.blkCount.toNat < 4294967296 := scan.blkCount.toBitVec.isLt
  have field16 : readLE scan.buffer 16 4 < 4294967296 := readLE_lt scan.buffer 16 4
  have field20 : readLE scan.buffer 20 4 < 4294967296 := readLE_lt scan.buffer 20 4
  rw [buffer, ckh, flashSize, blkCount]
  exact ⟨rfl, rfl, (Nat.mod_eq_of_lt blkBelow).symm, (Nat.mod_eq_of_lt field16).symm,
    (Nat.mod_eq_of_lt field20).symm, fun _ _ => rfl⟩

/-- The chunk loop counts the whole chunks below `limit`, up to those expected. -/
theorem flatChunkLoop_spec (limit : Nat) (scan : ChunkScan) (count : Nat) (above : 24 ≤ scan.ckh) :
    let chunks := chunksIn scan.buffer limit scan.ckh count
    let result := flatChunkLoop limit scan count
    result.1.ckh = scan.ckh + spanOf chunks ∧
      result.1.flashSize = scan.flashSize + spanOf chunks ∧
      result.1.blkCount.toNat = (scan.blkCount.toNat + blocksOf chunks) % 2 ^ 32 ∧
      readLE result.1.buffer 16 4 = (readLE scan.buffer 16 4 + blocksOf chunks) % 2 ^ 32 ∧
      readLE result.1.buffer 20 4 = (readLE scan.buffer 20 4 + chunks.length) % 2 ^ 32 ∧
      (∀ i, i < 16 ∨ 24 ≤ i → result.1.buffer i = scan.buffer i) ∧
      result.2 = if chunks.length = count ∧ fitsBelow scan.buffer limit (scan.ckh + spanOf chunks)
        then .error .tooManyChunks else .ok (count - chunks.length) := by
  induction scan, count using flatChunkLoop.induct limit with
  | case1 scan header read fits =>
      obtain ⟨ckh, flash, blk, total16, total20, frame⟩ := ChunkScan.uncounted read rfl rfl rfl rfl
      have fitting : fitsBelow scan.buffer limit scan.ckh := by simpa [fitsBelow] using ⟨header, fits⟩
      rw [flatChunkLoop, if_pos header]
      dsimp only
      rw [if_pos fits]
      exact ⟨ckh, flash, blk, total16, total20, frame, by
        simp only [chunksIn, List.length_nil, spanOf_nil, Nat.add_zero, fitting, and_self, if_true]⟩
  | case2 scan header read fits count inductionHypothesis =>
      have fits' : scan.ckh + totalSz scan.buffer scan.ckh ≤ limit := fits
      have fitting : fitsBelow scan.buffer limit scan.ckh := by simpa [fitsBelow] using ⟨header, fits'⟩
      obtain ⟨field16, field20, frame⟩ := read.flatCount_fields
      obtain ⟨ckh, flash, blk, total16, total20, sameElsewhere, outcome⟩ :=
        inductionHypothesis (show 24 ≤ scan.ckh + totalSz scan.buffer scan.ckh by omega)
      have rest : chunksIn read.flatCount.buffer limit read.flatCount.ckh count =
          chunksIn scan.buffer limit (scan.ckh + totalSz scan.buffer scan.ckh) count :=
        chunksIn_congr (fun i above => frame i (.inr above)) limit count (by dsimp [read, ChunkScan.flatCount]; omega)
      have restFits : ∀ offset, 24 ≤ offset →
          fitsBelow read.flatCount.buffer limit offset = fitsBelow scan.buffer limit offset :=
        fun offset above => fitsBelow_congr (fun i above => frame i (.inr above)) limit above
      have blkAdd : read.flatCount.blkCount.toNat =
          (scan.blkCount.toNat + chunkSz scan.buffer scan.ckh % 2 ^ 32) % 2 ^ 32 :=
        uint32_toNat_add _ _
      rw [rest] at ckh flash blk total16 total20 outcome
      rw [flatChunkLoop, if_pos header]
      dsimp only
      rw [if_pos fits']
      simp only [chunksIn, fitting, if_true, spanOf_cons, blocksOf_cons, List.length_cons,
        length_bytesAt]
      refine ⟨?_, ?_, ?_, ?_, ?_, fun i outside => (sameElsewhere i outside).trans (frame i outside), ?_⟩
      · rw [ckh]; dsimp [read, ChunkScan.flatCount]; omega
      · rw [flash]; dsimp [read, ChunkScan.flatCount]; omega
      · rw [blk, blkAdd]; omega
      · rw [total16, field16]; dsimp only [read]; omega
      · rw [total20, field20]; dsimp only [read]; omega
      · rw [outcome, restFits _ (by dsimp [read, ChunkScan.flatCount]; omega)]
        dsimp only [read, ChunkScan.flatCount]
        simp only [Nat.add_assoc, Nat.succ_eq_add_one, Nat.add_right_cancel_iff, Nat.add_sub_add_right]
  | case3 scan count header read big =>
      obtain ⟨ckh, flash, blk, total16, total20, frame⟩ := ChunkScan.uncounted read rfl rfl rfl rfl
      have big' : ¬scan.ckh + totalSz scan.buffer scan.ckh ≤ limit := big
      have outside : fitsBelow scan.buffer limit scan.ckh = false := by
        simpa [fitsBelow] using fun _ => Nat.lt_of_not_le big'
      rw [flatChunkLoop, if_pos header]
      dsimp only
      rw [if_neg big', chunksIn_of_not_fits outside]
      exact ⟨ckh, flash, blk, total16, total20, frame, by
        simp only [List.length_nil, spanOf_nil, Nat.add_zero, Nat.sub_zero, outside,
          Bool.false_eq_true, and_false, if_false]⟩
  | case4 scan count noHeader =>
      obtain ⟨ckh, flash, blk, total16, total20, frame⟩ := ChunkScan.uncounted scan rfl rfl rfl rfl
      have outside : fitsBelow scan.buffer limit scan.ckh = false := by
        simpa [fitsBelow] using fun h => absurd h noHeader
      rw [flatChunkLoop, if_neg noHeader, chunksIn_of_not_fits outside]
      exact ⟨ckh, flash, blk, total16, total20, frame, by
        simp only [List.length_nil, spanOf_nil, Nat.add_zero, Nat.sub_zero, outside,
          Bool.false_eq_true, and_false, if_false]⟩

/-- Every chunk header the loop reads lies below `limit`. -/
theorem flatChunkLoop_accesses (limit : Nat) (scan : ChunkScan) (count : Nat) :
    ∀ access ∈ (flatChunkLoop limit scan count).1.accesses,
      access ∈ scan.accesses ∨ access.1 + access.2 ≤ limit := by
  induction scan, count using flatChunkLoop.induct limit with
  | case1 scan header read fits =>
      rw [flatChunkLoop, if_pos header]
      dsimp only
      rw [if_pos fits]
      rintro access (_ | ⟨_, member⟩)
      · exact .inr header
      · exact .inl member
  | case2 scan header read fits count inductionHypothesis =>
      rw [flatChunkLoop, if_pos header]
      dsimp only
      rw [if_pos fits]
      intro access member
      rcases inductionHypothesis access member with (_ | ⟨_, earlier⟩) | below
      · exact .inr header
      · exact .inl earlier
      · exact .inr below
  | case3 scan count header read big =>
      rw [flatChunkLoop, if_pos header]
      dsimp only
      rw [if_neg big]
      rintro access (_ | ⟨_, member⟩)
      · exact .inr header
      · exact .inl member
  | case4 scan count noHeader =>
      rw [flatChunkLoop, if_neg noHeader]
      exact fun access member => .inl member

/-- The chunks that lie below `limit` from `offset` on end there at the latest. -/
theorem chunksIn_span (memory : Bytes) (limit : Nat) (offset count : Nat) (start : offset ≤ limit) :
    offset + spanOf (chunksIn memory limit offset count) ≤ limit := by
  induction offset, count using chunksIn.induct memory limit with
  | case1 offset => simpa [chunksIn] using start
  | case2 offset count fits inductionHypothesis =>
      have fitting : offset + chunkHeaderSize ≤ limit ∧ offset + totalSz memory offset ≤ limit := by
        simpa [fitsBelow] using fits
      have rest := inductionHypothesis (by omega)
      rw [chunksIn, if_pos fits, spanOf_cons, length_bytesAt]
      omega
  | case3 offset count outside => simpa [chunksIn, outside] using start

theorem chunksIn_length_le (memory : Bytes) (limit : Nat) :
    ∀ offset count, (chunksIn memory limit offset count).length ≤ count
  | _, 0 => le_refl 0
  | offset, count + 1 => by
      rw [chunksIn]
      split
      · exact Nat.succ_le_succ (chunksIn_length_le memory limit _ count)
      · exact Nat.zero_le _

@[simp] theorem flatTurnScan_ckh (s : SplitState) (piece : List UInt8) : (flatTurnScan s piece).ckh = headerSize := rfl

@[simp] theorem flatTurnScan_flashSize (s : SplitState) (piece : List UInt8) :
    (flatTurnScan s piece).flashSize = headerSize := rfl

@[simp] theorem flatTurnScan_blkCount (s : SplitState) (piece : List UInt8) :
    (flatTurnScan s piece).blkCount = s.blkCount := rfl

@[simp] theorem flatTurnScan_accesses (s : SplitState) (piece : List UInt8) :
    (flatTurnScan s piece).accesses = (s.readPtr, s.turnReadSize) :: s.accesses := rfl

@[simp] theorem flatCarryOver_nbChunks (env : SplitEnv) (s : SplitState) (ckh flashSize limit : Nat) :
    (flatCarryOver env s ckh flashSize limit).nbChunks = s.nbChunks := by
  unfold flatCarryOver; split <;> rfl

@[simp] theorem flatCarryOver_remainingData (env : SplitEnv) (s : SplitState) (ckh flashSize limit : Nat) :
    (flatCarryOver env s ckh flashSize limit).remainingData = s.remainingData := by
  unfold flatCarryOver; split <;> rfl

@[simp] theorem flatCarryOver_flashed (env : SplitEnv) (s : SplitState) (ckh flashSize limit : Nat) :
    (flatCarryOver env s ckh flashSize limit).flashed = s.flashed := by
  unfold flatCarryOver; split <;> rfl

@[simp] theorem flatCarryOver_blkCount (env : SplitEnv) (s : SplitState) (ckh flashSize limit : Nat) :
    (flatCarryOver env s ckh flashSize limit).blkCount = s.blkCount := by
  unfold flatCarryOver; split <;> rfl

/-- A turn that goes on read, counted a chunk and flashed with success. -/
theorem flatSplitTurn_next {env : SplitEnv} {content : List UInt8} {s s' : SplitState}
    (next : flatSplitTurn env content s = .next s') :
    ∃ piece scan nbChunks,
      readFile content (content.length - s.remainingData) s.turnReadSize = some piece ∧
      flatChunkLoop (s.readPtr + s.turnReadSize) (flatTurnScan s piece) s.nbChunks = (scan, .ok nbChunks) ∧
      scan.flashSize ≠ headerSize ∧
      env.flashOk (bytesAt scan.buffer 0 scan.flashSize) = true ∧
      s' = flatCarryOver env { s with
        buffer := scan.buffer, remainingData := s.remainingData - s.turnReadSize
        readSize := s.turnReadSize, nbChunks := nbChunks, blkCount := scan.blkCount
        flashed := s.flashed ++ [bytesAt scan.buffer 0 scan.flashSize]
        accesses := (0, scan.flashSize) :: scan.accesses }
        scan.ckh scan.flashSize (s.readPtr + s.turnReadSize) := by
  unfold flatSplitTurn at next
  dsimp only at next
  split at next
  · cases next
  rename_i piece read
  generalize looped : flatChunkLoop (s.readPtr + s.turnReadSize) (flatTurnScan s piece) s.nbChunks = result at next
  obtain ⟨scan, ended⟩ := result
  cases ended with
  | error failure => cases next
  | ok nbChunks =>
      dsimp only at next
      split at next
      · split at next <;> cases next
      rename_i flashing
      split at next
      · cases next
      rename_i succeeded
      cases next
      exact ⟨piece, scan, nbChunks, read, looped, flashing, by simpa using succeeded, rfl⟩

/-- Between two turns the carried bytes follow the headers and fill the buffer. -/
structure SplitState.Wellformed (env : SplitEnv) (s : SplitState) : Prop where
  start : headerSize ≤ s.readPtr
  room : s.readPtr < env.maxDownloadSize
  fill : s.readPtr + s.readSize = env.maxDownloadSize

/-- A turn reads at least one byte, within the buffer and what is left. -/
theorem SplitState.turnReadSize_bounds {env : SplitEnv} {s : SplitState} (wf : s.Wellformed env)
    (remaining : 0 < s.remainingData) :
    0 < s.turnReadSize ∧ s.turnReadSize ≤ s.remainingData ∧
      s.readPtr + s.turnReadSize ≤ env.maxDownloadSize := by
  have := wf.room
  have := wf.fill
  unfold SplitState.turnReadSize
  split <;> omega

/-- What a turn that goes on counted. -/
theorem flatSplitTurn_counted {env : SplitEnv} {s : SplitState} {piece : List UInt8}
    {scan : ChunkScan} {nbChunks : Nat} (wf : s.Wellformed env)
    (looped : flatChunkLoop (s.readPtr + s.turnReadSize) (flatTurnScan s piece) s.nbChunks = (scan, .ok nbChunks))
    (flashing : scan.flashSize ≠ headerSize) :
    let chunks := chunksIn (flatTurnScan s piece).buffer (s.readPtr + s.turnReadSize) headerSize s.nbChunks
    chunks ≠ [] ∧ nbChunks = s.nbChunks - chunks.length ∧ chunks.length ≤ s.nbChunks ∧
      scan.ckh = headerSize + spanOf chunks ∧ scan.flashSize = headerSize + spanOf chunks ∧
      headerSize + spanOf chunks ≤ s.readPtr + s.turnReadSize := by
  obtain ⟨ckh, flash, -, -, -, -, outcome⟩ :=
    flatChunkLoop_spec (s.readPtr + s.turnReadSize) (flatTurnScan s piece) s.nbChunks
      (show 24 ≤ headerSize by decide)
  rw [looped] at ckh flash outcome
  simp only [flatTurnScan_ckh, flatTurnScan_flashSize] at ckh flash outcome
  have span := chunksIn_span (flatTurnScan s piece).buffer (s.readPtr + s.turnReadSize) headerSize s.nbChunks
    (by have := wf.start; omega)
  split at outcome
  · cases outcome
  · cases outcome
    refine ⟨fun empty => flashing ?_, rfl, chunksIn_length_le _ _ _ _, ckh, flash, span⟩
    rw [flash, empty]
    rfl

/-- A turn that goes on keeps the invariant and makes progress. -/
theorem flatSplitTurn_progress {env : SplitEnv} {content : List UInt8} {s s' : SplitState}
    (wf : s.Wellformed env) (going : 0 < s.nbChunks ∧ 0 < s.remainingData)
    (next : flatSplitTurn env content s = .next s') :
    s'.Wellformed env ∧ s'.nbChunks < s.nbChunks ∧ s'.remainingData < s.remainingData ∧
      ∃ buffer, s'.flashed = s.flashed ++ [buffer] ∧ headerSize < buffer.length := by
  obtain ⟨piece, scan, nbChunks, -, looped, flashing, -, rfl⟩ := flatSplitTurn_next next
  obtain ⟨nonempty, rfl, -, ckh, flash, span⟩ := flatSplitTurn_counted wf looped flashing
  obtain ⟨positive, atMost, inside⟩ := s.turnReadSize_bounds wf going.2
  have counted : 0 < (chunksIn (flatTurnScan s piece).buffer (s.readPtr + s.turnReadSize) headerSize
      s.nbChunks).length := List.length_pos.mpr nonempty
  have spanned : 0 < spanOf (chunksIn (flatTurnScan s piece).buffer (s.readPtr + s.turnReadSize) headerSize
      s.nbChunks) := by
    have := flashing; omega
  have start := wf.start
  simp only [flatCarryOver_nbChunks, flatCarryOver_remainingData, flatCarryOver_flashed]
  refine ⟨?_, by omega, by omega, _, rfl, by rw [length_bytesAt, flash]; omega⟩
  have room := wf.room
  unfold flatCarryOver
  split
  · exact ⟨Nat.le_add_right _ _, by dsimp only; omega, by dsimp only [SplitEnv.dataSize]; omega⟩
  · exact ⟨le_refl _, by dsimp only; omega, by dsimp only [SplitEnv.dataSize]; omega⟩

/-- A turn's chunk loop ends within what was read and reads only the buffer. -/
theorem flatTurnScan_loop {env : SplitEnv} {s : SplitState} (piece : List UInt8) (wf : s.Wellformed env)
    (remaining : 0 < s.remainingData) :
    let result := flatChunkLoop (s.readPtr + s.turnReadSize) (flatTurnScan s piece) s.nbChunks
    result.1.flashSize = result.1.ckh ∧ headerSize ≤ result.1.ckh ∧
      result.1.ckh ≤ s.readPtr + s.turnReadSize ∧
      ∀ access ∈ result.1.accesses, access ∈ s.accesses ∨ access.1 + access.2 ≤ env.maxDownloadSize := by
  obtain ⟨ckh, flash, -⟩ := flatChunkLoop_spec (s.readPtr + s.turnReadSize) (flatTurnScan s piece) s.nbChunks
    (show 24 ≤ headerSize by decide)
  simp only [flatTurnScan_ckh, flatTurnScan_flashSize] at ckh flash
  have span := chunksIn_span (flatTurnScan s piece).buffer (s.readPtr + s.turnReadSize) headerSize s.nbChunks
    (by have := wf.start; omega)
  obtain ⟨-, -, inside⟩ := s.turnReadSize_bounds wf remaining
  refine ⟨by rw [ckh, flash], by rw [ckh]; omega, by rw [ckh]; exact span, fun access member => ?_⟩
  rcases flatChunkLoop_accesses _ _ _ access member with read | below
  · rw [flatTurnScan_accesses] at read
    rcases read with _ | ⟨_, earlier⟩
    · exact .inr inside
    · exact .inl earlier
  · exact .inr (by omega)

/-- A turn reads and writes nothing past the buffer, whatever it ends in. -/
theorem flatSplitTurn_accesses {env : SplitEnv} (content : List UInt8) {s : SplitState}
    (wf : s.Wellformed env) (remaining : 0 < s.remainingData) :
    ∀ access ∈ (flatSplitTurn env content s).state.accesses,
      access ∈ s.accesses ∨ access.1 + access.2 ≤ env.maxDownloadSize := by
  unfold flatSplitTurn
  dsimp only
  split
  · exact fun access member => .inl member
  rename_i piece _
  obtain ⟨flash, start, below, bounded⟩ := flatTurnScan_loop piece wf remaining
  obtain ⟨-, -, inside⟩ := s.turnReadSize_bounds wf remaining
  generalize flatChunkLoop (s.readPtr + s.turnReadSize) (flatTurnScan s piece) s.nbChunks = result at *
  obtain ⟨scan, ended⟩ := result
  dsimp only at flash start below bounded ⊢
  have flashed : (0, scan.flashSize).1 + (0, scan.flashSize).2 ≤ env.maxDownloadSize := by
    dsimp only; omega
  cases ended with
  | error failure => exact bounded
  | ok nbChunks =>
      dsimp only
      split
      · split <;> exact bounded
      split
      · rintro access (_ | ⟨_, member⟩)
        · exact .inr flashed
        · exact bounded access member
      unfold flatCarryOver
      split
      · rintro access (_ | ⟨_, _ | ⟨_, _ | ⟨_, member⟩⟩⟩)
        · exact .inr (by dsimp only; omega)
        · exact .inr (by dsimp only; omega)
        · exact .inr flashed
        · exact bounded access member
      · rintro access (_ | ⟨_, member⟩)
        · exact .inr flashed
        · exact bounded access member

/-- From a well-formed state the loop ends, within the buffer. -/
theorem splitLoop_bounded {env : SplitEnv} {content : List UInt8} (fuel : Nat) (s : SplitState)
    (wf : s.Wellformed env) (enough : s.nbChunks < fuel)
    (inside : ∀ access ∈ s.accesses, access.1 + access.2 ≤ env.maxDownloadSize) :
    (splitLoop (flatSplitTurn env content) fuel s).2.isSome ∧
      ∀ access ∈ (splitLoop (flatSplitTurn env content) fuel s).1.accesses, access.1 + access.2 ≤ env.maxDownloadSize := by
  induction fuel generalizing s with
  | zero => omega
  | succ fuel inductionHypothesis =>
      rw [splitLoop]
      split
      · rename_i going
        have turn := flatSplitTurn_accesses content wf going.2
        split
        · rename_i s' next
          rw [next] at turn
          obtain ⟨wf', fewer, -⟩ := flatSplitTurn_progress wf going next
          exact inductionHypothesis s' wf' (by omega) fun access member =>
            (turn access member).elim (inside access) id
        · rename_i s' _ stop
          rw [stop] at turn
          exact ⟨rfl, fun access member => (turn access member).elim (inside access) id⟩
      · exact ⟨rfl, inside⟩

/-- Over unbounded offsets the split returns and stays in the buffer. -/
theorem flatSplitAndFlash_bounded (env : SplitEnv) (content : List UInt8) (room : headerSize < env.maxDownloadSize) :
    (flatSplitAndFlash env content).2.isSome ∧
      ∀ access ∈ (flatSplitAndFlash env content).1.accesses, access.1 + access.2 ≤ env.maxDownloadSize := by
  unfold flatSplitAndFlash splitWith
  split
  · exact ⟨rfl, by simp⟩
  split
  · exact ⟨rfl, by simp⟩
  refine splitLoop_bounded _ _ ⟨le_refl _, room, ?_⟩ (Nat.lt_succ_self _) ?_
  · dsimp only [SplitEnv.dataSize]; omega
  · simp only [List.mem_singleton, forall_eq]
    exact le_trans (show sparseHeaderSize ≤ headerSize by decide) room.le

/-- The split's pointer sums stay below `2 ^ UINTN`. -/
structure SplitEnv.NoWrap (env : SplitEnv) : Prop where
  top : env.base + env.maxDownloadSize + chunkHeaderSize + 2 ^ 32 ≤ 2 ^ env.bits
  unsigned : env.maxDownloadSize < 2 ^ 32

theorem SplitEnv.ptrLe_iff (env : SplitEnv) {offset limit : Nat} (low : env.base + offset < 2 ^ env.bits)
    (high : env.base + limit < 2 ^ env.bits) : env.ptrLe offset limit = true ↔ offset ≤ limit := by
  simp only [SplitEnv.ptrLe, decide_eq_true_eq, Nat.mod_eq_of_lt low, Nat.mod_eq_of_lt high]
  omega

theorem SplitEnv.ptrLt_iff (env : SplitEnv) {offset limit : Nat} (low : env.base + offset < 2 ^ env.bits)
    (high : env.base + limit < 2 ^ env.bits) : env.ptrLt offset limit = true ↔ offset < limit := by
  simp only [SplitEnv.ptrLt, decide_eq_true_eq, Nat.mod_eq_of_lt low, Nat.mod_eq_of_lt high]
  omega

/-- Below `2 ^ bits`, counting a chunk is the unbounded count. -/
theorem ChunkScan.count_eq_flatCount {bits : Nat} {scan : ChunkScan} (above : 24 ≤ scan.ckh)
    (header : scan.ckh + chunkHeaderSize ≤ 2 ^ bits) (flash : scan.flashSize ≤ scan.ckh)
    (advance : scan.ckh + totalSz scan.buffer scan.ckh < 2 ^ bits) :
    scan.count bits = scan.flatCount := by
  have fits : scan.ckh + 8 + 4 ≤ 2 ^ bits := header
  have size : chunkSz (wrapBytes bits scan.buffer) scan.ckh = chunkSz scan.buffer scan.ckh :=
    readLE_wrapBytes _ _ (by omega)
  have size' : chunkSz (wrapBytes bits (addLE scan.buffer 16 (chunkSz scan.buffer scan.ckh))) scan.ckh =
      chunkSz scan.buffer scan.ckh := by
    rw [chunkSz, readLE_wrapBytes _ _ (by omega), readLE_addLE_of_apart _ (.inr (by omega))]
    rfl
  have total : totalSz (wrapBytes bits scan.buffer) scan.ckh = totalSz scan.buffer scan.ckh :=
    readLE_wrapBytes _ _ fits
  have total' : totalSz (wrapBytes bits (addLE (addLE scan.buffer 16 (chunkSz scan.buffer scan.ckh)) 20 1))
      scan.ckh = totalSz scan.buffer scan.ckh := by
    rw [totalSz, readLE_wrapBytes _ _ fits, readLE_addLE_of_apart _ (.inr (by omega)),
      readLE_addLE_of_apart _ (.inr (by omega))]
    rfl
  simp only [ChunkScan.count, ChunkScan.flatCount, size, size', total, total', Nat.mod_eq_of_lt advance,
    Nat.mod_eq_of_lt (show scan.flashSize + totalSz scan.buffer scan.ckh < 2 ^ bits by omega)]

/-- The two tests of the chunk loop, with room, are the unbounded ones. -/
theorem chunkLoop_tests (env : SplitEnv) {limit : Nat}
    (room : env.base + limit + chunkHeaderSize + 2 ^ 32 ≤ 2 ^ env.bits) (scan : ChunkScan) (below : scan.ckh ≤ limit) :
    (env.ptrLe (scan.ckh + chunkHeaderSize) limit = true ↔ scan.ckh + chunkHeaderSize ≤ limit) ∧
      (scan.ckh + chunkHeaderSize ≤ limit →
        totalSz (wrapBytes env.bits scan.buffer) scan.ckh = totalSz scan.buffer scan.ckh ∧
        (env.ptrLe (scan.ckh + totalSz scan.buffer scan.ckh) limit = true ↔
          scan.ckh + totalSz scan.buffer scan.ckh ≤ limit)) := by
  have small : totalSz scan.buffer scan.ckh < 2 ^ 32 := readLE_lt _ _ _
  refine ⟨env.ptrLe_iff (by omega) (by omega), fun header => ⟨readLE_wrapBytes _ _ ?_, env.ptrLe_iff (by omega) (by omega)⟩⟩
  unfold chunkHeaderSize at header room
  omega

/-- With room past `limit`, the chunk loop is the unbounded one. -/
theorem chunkLoop_eq_flat (env : SplitEnv) {limit : Nat}
    (room : env.base + limit + chunkHeaderSize + 2 ^ 32 ≤ 2 ^ env.bits) (scan : ChunkScan) (count : Nat)
    (above : 24 ≤ scan.ckh) (below : scan.ckh ≤ limit) (flash : scan.flashSize ≤ scan.ckh) :
    chunkLoop env limit scan count = flatChunkLoop limit scan count := by
  induction scan, count using flatChunkLoop.induct limit with
  | case1 scan header read fits =>
      obtain ⟨headerTest, fitsTest⟩ := chunkLoop_tests env room scan below
      obtain ⟨total, fitsTest⟩ := fitsTest header
      rw [chunkLoop, flatChunkLoop, if_pos (headerTest.mpr header), if_pos header]
      dsimp only
      rw [total, if_pos (fitsTest.mpr fits), if_pos fits]
  | case2 scan header read fits count inductionHypothesis =>
      obtain ⟨headerTest, fitsTest⟩ := chunkLoop_tests env room scan below
      obtain ⟨total, fitsTest⟩ := fitsTest header
      have fits' : scan.ckh + totalSz scan.buffer scan.ckh ≤ limit := fits
      have small : totalSz scan.buffer scan.ckh < 2 ^ 32 := readLE_lt _ _ _
      rw [chunkLoop, flatChunkLoop, if_pos (headerTest.mpr header), if_pos header]
      dsimp only
      rw [total, if_pos (fitsTest.mpr fits'), if_pos fits']
      rw [@ChunkScan.count_eq_flatCount _ read above
        (show scan.ckh + chunkHeaderSize ≤ 2 ^ env.bits by omega) flash
        (show scan.ckh + totalSz scan.buffer scan.ckh < 2 ^ env.bits by omega)]
      exact inductionHypothesis (by dsimp [read, ChunkScan.flatCount]; omega)
        (by dsimp [read, ChunkScan.flatCount]; omega) (by dsimp [read, ChunkScan.flatCount]; omega)
  | case3 scan count header read big =>
      obtain ⟨headerTest, fitsTest⟩ := chunkLoop_tests env room scan below
      obtain ⟨total, fitsTest⟩ := fitsTest header
      rw [chunkLoop, flatChunkLoop, if_pos (headerTest.mpr header), if_pos header]
      dsimp only
      rw [total, if_neg (fun test => big (fitsTest.mp test)), if_neg big]
  | case4 scan count noHeader =>
      rw [chunkLoop, flatChunkLoop, if_neg (fun test => noHeader ((chunkLoop_tests env room scan below).1.mp test)),
        if_neg noHeader]

/-- Below the buffer's end, the carry-over of a turn is the unbounded one. -/
theorem carryOver_eq_flat {env : SplitEnv} (noWrap : env.NoWrap) {ckh flashSize limit : Nat}
    (start : headerSize ≤ ckh) (below : ckh ≤ limit) (flash : flashSize ≤ limit)
    (inside : limit ≤ env.maxDownloadSize) (s : SplitState) :
    carryOver env s ckh flashSize limit = flatCarryOver env s ckh flashSize limit := by
  have top := noWrap.top
  have already : (limit + 2 ^ env.bits - ckh) % 2 ^ env.bits = limit - ckh := by
    rw [show limit + 2 ^ env.bits - ckh = limit - ckh + 2 ^ env.bits by omega, Nat.add_mod_right,
      Nat.mod_eq_of_lt (by omega)]
  have moved : (env.dataSize + 2 ^ env.bits - (limit - ckh)) % 2 ^ env.bits = env.dataSize - (limit - ckh) := by
    unfold SplitEnv.dataSize
    rw [show env.maxDownloadSize - headerSize + 2 ^ env.bits - (limit - ckh) =
        env.maxDownloadSize - headerSize - (limit - ckh) + 2 ^ env.bits by omega, Nat.add_mod_right,
      Nat.mod_eq_of_lt (by omega)]
  simp only [carryOver, flatCarryOver, already, moved, env.ptrLt_iff (show env.base + flashSize < _ by omega)
      (show env.base + limit < _ by omega), memcpyWrap_of_fits env.bits s.buffer
      (show headerSize + (limit - ckh) < 2 ^ env.bits by omega) (show ckh + (limit - ckh) ≤ 2 ^ env.bits by omega),
    Nat.mod_eq_of_lt (show headerSize + (limit - ckh) < 2 ^ env.bits by omega)]

/-- With data left, a turn of the code is the unbounded turn. -/
theorem splitTurn_eq_flat {env : SplitEnv} (noWrap : env.NoWrap) (content : List UInt8) {s : SplitState}
    (wf : s.Wellformed env) (remaining : 0 < s.remainingData) :
    splitTurn env content s = flatSplitTurn env content s := by
  have top := noWrap.top
  have unsigned := noWrap.unsigned
  obtain ⟨-, -, inside⟩ := s.turnReadSize_bounds wf remaining
  have start := wf.start
  unfold splitTurn flatSplitTurn
  dsimp only
  cases readFile content (content.length - s.remainingData) s.turnReadSize with
  | none => rfl
  | some piece =>
      dsimp only
      have scanEq : turnScan env.bits s piece = flatTurnScan s piece := by
        rw [turnScan, flatTurnScan, overwriteWrap_of_fits _ _ _ (by omega)]
      obtain ⟨flash, atLeast, below, -⟩ := flatTurnScan_loop piece wf remaining
      rw [scanEq, chunkLoop_eq_flat env (by omega) _ _ (show 24 ≤ headerSize by decide)
        (show headerSize ≤ s.readPtr + s.turnReadSize by omega) le_rfl]
      generalize flatChunkLoop (s.readPtr + s.turnReadSize) (flatTurnScan s piece) s.nbChunks = result
        at flash atLeast below ⊢
      obtain ⟨scan, ended⟩ := result
      dsimp only at flash atLeast below ⊢
      cases ended with
      | error failure => rfl
      | ok nbChunks =>
          simp only [env.ptrLt_iff (show env.base + (scan.ckh + chunkHeaderSize) < _ by omega)
              (show env.base + (s.readPtr + s.turnReadSize) < _ by omega),
            Nat.mod_eq_of_lt (show scan.flashSize < 2 ^ 32 by omega),
            bytesAt_wrapBytes env.bits scan.buffer (show 0 + scan.flashSize ≤ 2 ^ env.bits by omega),
            carryOver_eq_flat noWrap atLeast below (show scan.flashSize ≤ _ by omega) inside]

/-- From a well-formed state the code's outer loop is the unbounded one. -/
theorem splitLoop_eq_flat {env : SplitEnv} (noWrap : env.NoWrap) (content : List UInt8) :
    ∀ (fuel : Nat) {s : SplitState}, s.Wellformed env →
      splitLoop (splitTurn env content) fuel s = splitLoop (flatSplitTurn env content) fuel s
  | 0, _, _ => rfl
  | fuel + 1, s, wf => by
      rw [splitLoop, splitLoop]
      by_cases going : 0 < s.nbChunks ∧ 0 < s.remainingData
      · rw [if_pos going, if_pos going, splitTurn_eq_flat noWrap content wf going.2]
        cases next : flatSplitTurn env content s with
        | next s' => exact splitLoop_eq_flat noWrap content fuel (flatSplitTurn_progress wf going next).1
        | stop s' outcome => rfl
      · rw [if_neg going, if_neg going]

/-- When no pointer sum wraps, the split is the unbounded one. -/
theorem installerSplitAndFlash_eq_flat {env : SplitEnv} (noWrap : env.NoWrap)
    (room : headerSize < env.maxDownloadSize) (content : List UInt8) :
    installerSplitAndFlash env content = flatSplitAndFlash env content := by
  unfold installerSplitAndFlash flatSplitAndFlash splitWith
  split
  · rfl
  split
  · rfl
  exact splitLoop_eq_flat noWrap content _ ⟨le_refl _, room, by dsimp only [SplitEnv.dataSize]; omega⟩

/-- `installer_split_and_flash` returns, and in bounds when nothing wraps. -/
theorem installerSplitAndFlash_terminates (env : SplitEnv) (content : List UInt8) :
    (installerSplitAndFlash env content).2.isSome ∧
      (env.NoWrap → headerSize < env.maxDownloadSize →
        (∀ access ∈ (installerSplitAndFlash env content).1.accesses,
          access.1 + access.2 ≤ env.maxDownloadSize) ∧
        ∀ s s', s.Wellformed env → 0 < s.nbChunks ∧ 0 < s.remainingData →
          splitTurn env content s = .next s' →
            s'.Wellformed env ∧ s'.nbChunks < s.nbChunks ∧ s'.remainingData < s.remainingData ∧
              ∃ buffer, s'.flashed = s.flashed ++ [buffer] ∧ headerSize < buffer.length) :=
  ⟨installerSplitAndFlash_returns env content, fun noWrap room =>
    ⟨installerSplitAndFlash_eq_flat noWrap room content ▸ (flatSplitAndFlash_bounded env content room).2,
      fun _ _ wf going next =>
        flatSplitTurn_progress wf going (splitTurn_eq_flat noWrap content wf going.2 ▸ next)⟩⟩

/-- `truncatedSparse` under `smallEnv` returns within the buffer. -/
theorem installerSplitAndFlash_terminates_truncated :
    smallEnv.NoWrap ∧ headerSize < smallEnv.maxDownloadSize ∧
      (installerSplitAndFlash smallEnv truncatedSparse).2.isSome ∧
      ∀ access ∈ (installerSplitAndFlash smallEnv truncatedSparse).1.accesses,
        access.1 + access.2 ≤ smallEnv.maxDownloadSize :=
  have noWrap : smallEnv.NoWrap := ⟨by decide, by decide⟩
  ⟨noWrap, by decide, (installerSplitAndFlash_terminates smallEnv truncatedSparse).1,
    ((installerSplitAndFlash_terminates smallEnv truncatedSparse).2 noWrap (by decide)).1⟩

end Kernelflinger.Installer
