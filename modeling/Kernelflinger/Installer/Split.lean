import Kernelflinger.BootImage

/-
`installer_split_and_flash` of the installer as it computes: offsets from `buf` compared and
moved as the `UINTN` addresses they give, which wrap at `2 ^ UINTN`.
-/

namespace Kernelflinger.Installer

open Memory BootImage

/-- `sizeof(struct sparse_header)`, of the Android layout; it is not under src/. -/
def sparseHeaderSize : Nat := 28

/-- `sizeof(struct chunk_header)`. -/
def chunkHeaderSize : Nat := 12

/-- `CHUNK_TYPE_DONT_CARE`. -/
def chunkTypeDontCare : Nat := 0xCAC3

/-- `header_size`: the new sparse header and the skip chunk. -/
def headerSize : Nat := sparseHeaderSize + chunkHeaderSize

/-- `chunk_sz` of the chunk header at `ckh`. -/
def chunkSz (memory : Bytes) (ckh : Nat) : Nat := readLE memory (ckh + 4) 4

/-- `total_sz` of the chunk header at `ckh`. -/
def totalSz (memory : Bytes) (ckh : Nat) : Nat := readLE memory (ckh + 8) 4

/-- `field += value` on a 32-bit field of the buffer. -/
def addLE (memory : Bytes) (field value : Nat) : Bytes :=
  writeLE memory field (readLE memory field 4 + value) 4

/-- What `installer_split_and_flash` reads besides the file. -/
structure SplitEnv where
  config : BuildConfig
  /-- The address of the buffer `AllocatePool` returns. -/
  base : Nat
  maxDownloadSize : Nat
  isSparseImage : List UInt8 → Bool
  /-- The bytes at each offset from the buffer, as `AllocatePool` leaves them. -/
  pool : Bytes
  /-- Whether the flash command reports success for a buffer. -/
  flashOk : List UInt8 → Bool

/-- The width of a pointer. -/
def SplitEnv.bits (env : SplitEnv) : Nat := env.config.intnBits

/-- `buf + offset <= buf + limit`, on addresses that wrap at `2 ^ UINTN`. -/
def SplitEnv.ptrLe (env : SplitEnv) (offset limit : Nat) : Bool :=
  decide ((env.base + offset) % 2 ^ env.bits ≤ (env.base + limit) % 2 ^ env.bits)

/-- `buf + offset < buf + limit`, on addresses that wrap at `2 ^ UINTN`. -/
def SplitEnv.ptrLt (env : SplitEnv) (offset limit : Nat) : Bool :=
  decide ((env.base + offset) % 2 ^ env.bits < (env.base + limit) % 2 ^ env.bits)

/-- `data_size`: what the buffer holds after the two headers. -/
def SplitEnv.dataSize (env : SplitEnv) : Nat := env.maxDownloadSize - headerSize

/-- The failures `installer_split_and_flash` reports with `fastboot_fail`. -/
inductive SplitFailure where
  /-- "Failed to read %d bytes (only %d read)", from `read_file`. -/
  | readFailed
  /-- "sparse file expected". -/
  | notSparse
  /-- "Corrupted sparse file: too many chunks". -/
  | tooManyChunks
  /-- "Corrupted sparse file". -/
  | corrupted
  /-- "Found a too big chunk". -/
  | tooBigChunk
  deriving DecidableEq, Repr

/-- How `installer_split_and_flash` returns. -/
inductive SplitEnd where
  | done
  | failed (failure : SplitFailure)
  | flashFailed
  deriving DecidableEq, Repr

/-- `read_file`: `count` bytes from `position`, none when fewer are left. -/
def readFile (content : List UInt8) (position count : Nat) : Option (List UInt8) :=
  if position + count ≤ content.length then some ((content.drop position).take count) else none

/-- The variables of the chunk loop, with the chunk headers it read. -/
structure ChunkScan where
  buffer : Bytes
  ckh : Nat
  flashSize : Nat
  blkCount : UInt32
  accesses : List (Nat × Nat)

/-- The body of the chunk loop, its stores in the source's order. -/
def ChunkScan.count (bits : Nat) (scan : ChunkScan) : ChunkScan :=
  let flashSize := (scan.flashSize + totalSz (wrapBytes bits scan.buffer) scan.ckh) % 2 ^ bits
  let summed := addLE scan.buffer 16 (chunkSz (wrapBytes bits scan.buffer) scan.ckh)
  let blkCount := scan.blkCount + (chunkSz (wrapBytes bits summed) scan.ckh).toUInt32
  let buffer := addLE summed 20 1
  ⟨buffer, (scan.ckh + totalSz (wrapBytes bits buffer) scan.ckh) % 2 ^ bits, flashSize, blkCount,
    scan.accesses⟩

/-- The chunk loop up to `limit`, with `nb_chunks` chunks still expected. -/
def chunkLoop (env : SplitEnv) (limit : Nat) : ChunkScan → Nat → ChunkScan × Except SplitFailure Nat
  | scan, nbChunks =>
      if env.ptrLe (scan.ckh + chunkHeaderSize) limit then
        let read := { scan with accesses := (scan.ckh, chunkHeaderSize) :: scan.accesses }
        if env.ptrLe (read.ckh + totalSz (wrapBytes env.bits read.buffer) read.ckh) limit then
          match nbChunks with
          | 0 => (read, .error .tooManyChunks)
          | nbChunks + 1 => chunkLoop env limit (read.count env.bits) nbChunks
        else (read, .ok nbChunks)
      else (scan, .ok nbChunks)

/-- The variables between two turns, with what was flashed and accessed. -/
structure SplitState where
  buffer : Bytes
  remainingData : Nat
  readSize : Nat
  readPtr : Nat
  nbChunks : Nat
  blkCount : UInt32
  flashed : List (List UInt8)
  /-- The buffer ranges read or written, as offset and length. -/
  accesses : List (Nat × Nat)

/-- Where a turn of the outer loop leaves the function. -/
inductive Turn where
  | next (state : SplitState)
  | stop (state : SplitState) (outcome : SplitEnd)

/-- The state a turn leaves the function in. -/
def Turn.state : Turn → SplitState
  | .next state => state
  | .stop state _ => state

/-- `read_size` for the turn: what is left of the file when that is less. -/
def SplitState.turnReadSize (s : SplitState) : Nat :=
  if s.remainingData < s.readSize then s.remainingData else s.readSize

/-- `new_sph->total_chunks = 1; new_sph->total_blks = skip_ckh->chunk_sz = blk_count;` -/
def resetHeaders (buffer : Bytes) (blkCount : UInt32) : Bytes :=
  writeLE (writeLE (writeLE buffer 20 1 4) 16 blkCount.toNat 4) 32 blkCount.toNat 4

/-- The end of a turn: the incomplete chunk moved to the front. -/
def carryOver (env : SplitEnv) (s : SplitState) (ckh flashSize limit : Nat) : SplitState :=
  if env.ptrLt flashSize limit then
    let alreadyRead := (limit + 2 ^ env.bits - ckh) % 2 ^ env.bits
    { s with
      buffer := memcpyWrap env.bits s.buffer headerSize ckh alreadyRead
      readSize := (env.dataSize + 2 ^ env.bits - alreadyRead) % 2 ^ env.bits
      readPtr := (headerSize + alreadyRead) % 2 ^ env.bits
      accesses := (headerSize, alreadyRead) :: (ckh, alreadyRead) :: s.accesses }
  else { s with readSize := env.dataSize, readPtr := headerSize }

/-- The chunk loop's start in a turn that read `piece` at `read_ptr`. -/
def turnScan (bits : Nat) (s : SplitState) (piece : List UInt8) : ChunkScan :=
  ⟨overwriteWrap bits (resetHeaders s.buffer s.blkCount) s.readPtr s.turnReadSize (listBytes piece),
    headerSize, headerSize, s.blkCount, (s.readPtr, s.turnReadSize) :: s.accesses⟩

/-- A turn of the outer loop. -/
def splitTurn (env : SplitEnv) (content : List UInt8) (s : SplitState) : Turn :=
  let buffer := resetHeaders s.buffer s.blkCount
  let readSize := s.turnReadSize
  match readFile content (content.length - s.remainingData) readSize with
  | none => .stop { s with buffer := buffer } (.failed .readFailed)
  | some piece =>
      let limit := s.readPtr + readSize
      let (scan, ended) := chunkLoop env limit (turnScan env.bits s piece) s.nbChunks
      let s := { s with
        buffer := scan.buffer, remainingData := s.remainingData - readSize, readSize := readSize
        blkCount := scan.blkCount, accesses := scan.accesses }
      match ended with
      | .error failure => .stop s (.failed failure)
      | .ok nbChunks =>
          let s := { s with nbChunks := nbChunks }
          if scan.flashSize = headerSize then
            if env.ptrLt (scan.ckh + chunkHeaderSize) limit then .stop s (.failed .corrupted)
            else .stop s (.failed .tooBigChunk)
          else
            let flashedBuffer := bytesAt (wrapBytes env.bits scan.buffer) 0 (scan.flashSize % 2 ^ 32)
            let s := { s with
              flashed := s.flashed ++ [flashedBuffer]
              accesses := (0, scan.flashSize % 2 ^ 32) :: s.accesses }
            if !env.flashOk flashedBuffer then .stop s .flashFailed
            else .next (carryOver env s scan.ckh scan.flashSize limit)

/-- The outer loop over turns `turn`, for at most `fuel` turns. -/
def splitLoop (turn : SplitState → Turn) : Nat → SplitState → SplitState × Option SplitEnd
  | 0, s => (s, none)
  | fuel + 1, s =>
      if 0 < s.nbChunks ∧ 0 < s.remainingData then
        match turn s with
        | .next s => splitLoop turn fuel s
        | .stop s outcome => (s, some outcome)
      else (s, some .done)

/-- `nb_chunks = sph.total_chunks`, negative in a 32-bit build from 2^31 on. -/
def nbChunksOf (config : BuildConfig) (totalChunks : Nat) : Int :=
  if totalChunks < 2 ^ (config.intnBits - 1) then totalChunks else totalChunks - 2 ^ config.intnBits

/-- The buffer before the loop. -/
def initialBuffer (env : SplitEnv) (sph : List UInt8) : Bytes :=
  writeLE (writeLE (overwrite env.pool 0 sparseHeaderSize (listBytes sph)) 28 chunkTypeDontCare 2)
    36 chunkHeaderSize 4

/-- The split of `content` with turns `turn`. -/
def splitWith (env : SplitEnv) (content : List UInt8) (turn : SplitState → Turn) :
    SplitState × Option SplitEnd :=
  let start : SplitState := ⟨env.pool, content.length, 0, 0, 0, 0, [], []⟩
  match readFile content 0 sparseHeaderSize with
  | none => (start, some (.failed .readFailed))
  | some sph =>
      if !env.isSparseImage sph then (start, some (.failed .notSparse))
      else
        let nbChunks := nbChunksOf env.config (readLE (listBytes sph) 20 4)
        let s : SplitState := ⟨initialBuffer env sph, content.length - sparseHeaderSize, env.dataSize,
          headerSize, nbChunks.toNat, 0, [], [(0, sparseHeaderSize)]⟩
        splitLoop turn (nbChunks.toNat + 1) s

/-- `installer_split_and_flash`. -/
def installerSplitAndFlash (env : SplitEnv) (content : List UInt8) : SplitState × Option SplitEnd :=
  splitWith env content (splitTurn env content)

@[simp] theorem carryOver_nbChunks (env : SplitEnv) (s : SplitState) (ckh flashSize limit : Nat) :
    (carryOver env s ckh flashSize limit).nbChunks = s.nbChunks := by
  unfold carryOver; split <;> rfl

/-- The chunk loop ends with at most the chunks it expected. -/
theorem chunkLoop_fewer (env : SplitEnv) (limit : Nat) (scan : ChunkScan) (count : Nat) {rest : Nat}
    (ended : (chunkLoop env limit scan count).2 = .ok rest) :
    rest ≤ count ∧ (rest = count → (chunkLoop env limit scan count).1.flashSize = scan.flashSize) := by
  induction scan, count using chunkLoop.induct env limit with
  | case1 scan header read fits =>
      rw [chunkLoop, if_pos header] at ended
      dsimp only at ended
      rw [if_pos fits] at ended
      cases ended
  | case2 scan header read fits count inductionHypothesis =>
      rw [chunkLoop, if_pos header] at ended ⊢
      dsimp only at ended ⊢
      rw [if_pos fits] at ended ⊢
      exact ⟨Nat.le_succ_of_le (inductionHypothesis ended).1, fun same => absurd (inductionHypothesis ended).1 (by omega)⟩
  | case3 scan count header read big =>
      rw [chunkLoop, if_pos header] at ended ⊢
      dsimp only at ended ⊢
      rw [if_neg big] at ended ⊢
      cases ended
      exact ⟨le_refl _, fun _ => rfl⟩
  | case4 scan count noHeader =>
      rw [chunkLoop, if_neg noHeader] at ended ⊢
      cases ended
      exact ⟨le_refl _, fun _ => rfl⟩

/-- A turn that goes on has counted a chunk. -/
theorem splitTurn_fewer {env : SplitEnv} {content : List UInt8} {s s' : SplitState}
    (next : splitTurn env content s = .next s') : s'.nbChunks < s.nbChunks := by
  unfold splitTurn at next
  dsimp only at next
  split at next
  · cases next
  rename_i piece _
  generalize looped : chunkLoop env (s.readPtr + s.turnReadSize) (turnScan env.bits s piece) s.nbChunks = result
    at next
  obtain ⟨scan, ended⟩ := result
  cases ended with
  | error failure => cases next
  | ok rest =>
      have fewer := chunkLoop_fewer env _ _ _ (show (chunkLoop env _ _ _).2 = .ok rest by rw [looped])
      rw [looped] at fewer
      dsimp only at next
      split at next
      · split at next <;> cases next
      rename_i moved
      split at next
      · cases next
      cases next
      rw [carryOver_nbChunks]
      exact Nat.lt_of_le_of_ne fewer.1 fun same => moved (fewer.2 same)

/-- The outer loop returns given more turns than chunks, each turn counting one. -/
theorem splitLoop_returns (turn : SplitState → Turn)
    (fewer : ∀ s s', turn s = .next s' → s'.nbChunks < s.nbChunks) :
    ∀ (fuel : Nat) (s : SplitState), s.nbChunks < fuel → (splitLoop turn fuel s).2.isSome
  | 0, _, enough => absurd enough (Nat.not_lt_zero _)
  | fuel + 1, s, enough => by
      rw [splitLoop]
      split
      · split
        · rename_i s' next
          exact splitLoop_returns turn fewer fuel s' (by have := fewer s s' next; omega)
        · rfl
      · rfl

/-- `installer_split_and_flash` returns on every file, in every build. -/
theorem installerSplitAndFlash_returns (env : SplitEnv) (content : List UInt8) :
    (installerSplitAndFlash env content).2.isSome := by
  unfold installerSplitAndFlash splitWith
  split
  · rfl
  split
  · rfl
  exact splitLoop_returns _ (fun _ _ => splitTurn_fewer) _ _ (Nat.lt_succ_self _)

/-- A raw chunk of one 8-byte block. -/
def rawChunk : List UInt8 := [0xC1, 0xCA, 0, 0] ++ le32 1 ++ le32 20 ++ List.replicate 8 0xAB

/-- A sparse file of 8-byte blocks that declares three chunks and holds two. -/
def truncatedSparse : List UInt8 :=
  le32 0xED26FF3A ++ [1, 0, 0, 0, 28, 0, 12, 0] ++ le32 8 ++ le32 3 ++ le32 3 ++ le32 0 ++
    rawChunk ++ rawChunk

/-- A 64-bit build with a 64-byte buffer at 0x1000 where every flash succeeds. -/
def smallEnv : SplitEnv where
  config :=
    { user := true, userdebug := false, userfastboot := false, noDeviceUnlock := false,
      halAutodetect := false, lp64 := true }
  base := 0x1000
  maxDownloadSize := 64
  isSparseImage := fun _ => true
  pool := fun _ => 0
  flashOk := fun _ => true

/-- `smallEnv` in an IA-32 build. -/
def wrapEnv : SplitEnv := { smallEnv with config := { smallEnv.config with lp64 := false } }

/-- A sparse file that declares two chunks, the first with `total_sz` 2^32 - 64. -/
def wrapSparse : List UInt8 :=
  le32 0xED26FF3A ++ [1, 0, 0, 0, 28, 0, 12, 0] ++ le32 8 ++ le32 1 ++ le32 2 ++ le32 0 ++
    [0xC1, 0xCA, 0, 0] ++ le32 0 ++ le32 (2 ^ 32 - 64) ++ List.replicate 40 0

/-- In IA-32 a wrapping `total_sz` moves `ckh` 24 bytes below `buf`. -/
theorem installerSplitAndFlash_reads_below_buffer :
    wrapEnv.config.intnBits = 32 ∧ wrapSparse.length = 80 ∧
      (2 ^ 32 - 24, chunkHeaderSize) ∈ (installerSplitAndFlash wrapEnv wrapSparse).1.accesses ∧
      (installerSplitAndFlash wrapEnv wrapSparse).2 = some (.failed .tooManyChunks) :=
  ⟨rfl, rfl, by decide, by decide⟩

end Kernelflinger.Installer
