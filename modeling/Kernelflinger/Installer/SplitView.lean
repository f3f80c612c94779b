import Kernelflinger.Installer.SplitFlat

/-
What `installer_split_and_flash` makes of the file, stated over the file alone: each turn takes
the chunks that lie whole in what has been read, flashes them after the input's header and a skip
chunk for the blocks flashed before, and goes on from the first chunk it could not take. The
buffer does not appear here; `Installer.SplitRefinement` shows that the code's loop computes this.
-/

namespace Kernelflinger.Installer

open Memory BootImage

/-- Two little-endian bytes of a 16-bit field. -/
def le16 (value : Nat) : List UInt8 := (List.range 2).map (byteOf value)

/-- `reserved1` of the skip chunk, which the code never sets. -/
def SplitEnv.reserved1 (env : SplitEnv) : List UInt8 := [env.pool 30, env.pool 31]

/-- A flashed buffer: the header, a skip chunk, and the chunks. -/
def groupBuffer (sph reserved : List UInt8) (before : Nat) (chunks : List (Nat × List UInt8)) :
    List UInt8 :=
  sph.take 16 ++ le32 (before + blocksOf chunks) ++ le32 (chunks.length + 1) ++ sph.drop 24 ++
    le16 chunkTypeDontCare ++ reserved ++ le32 before ++ le32 chunkHeaderSize ++
    (chunks.map Prod.snd).flatten

/-- The buffers flashed for consecutive groups of chunks after `before` blocks. -/
def groupBuffers (sph reserved : List UInt8) :
    Nat → List (List (Nat × List UInt8)) → List (List UInt8)
  | _, [] => []
  | before, chunks :: groups =>
      groupBuffer sph reserved before chunks ::
        groupBuffers sph reserved (before + blocksOf chunks) groups

/-- The split between two turns as it stands in the file. -/
structure SplitView where
  remainingData : Nat
  nbChunks : Nat
  next : Nat
  groups : List (List (Nat × List UInt8))

namespace SplitView

variable (env : SplitEnv) (content : List UInt8) (v : SplitView)

/-- How much of the file has been read. -/
def position : Nat := content.length - v.remainingData

/-- The bytes read but not flashed. -/
def carried : Nat := v.position content - v.next

/-- What the turn reads: the buffer's data after the carried bytes, or what is left. -/
def readSize : Nat :=
  if v.remainingData < env.dataSize - v.carried content then v.remainingData
  else env.dataSize - v.carried content

/-- The end of what has been read once the turn has read. -/
def window : Nat := v.position content + v.readSize env content

/-- The chunks that lie whole in what has been read, at most those still expected. -/
def chunks : List (Nat × List UInt8) :=
  chunksIn (listBytes content) (v.window env content) v.next v.nbChunks

/-- The view after a turn that flashed its chunks. -/
def advance : SplitView :=
  ⟨v.remainingData - v.readSize env content, v.nbChunks - (v.chunks env content).length,
    v.next + spanOf (v.chunks env content), v.groups ++ [v.chunks env content]⟩

end SplitView

/-- Where a turn of the view leaves the function. -/
inductive ViewTurn where
  | next (view : SplitView)
  | stop (view : SplitView) (outcome : SplitEnd)

/-- A turn over the file. -/
def viewTurn (env : SplitEnv) (content : List UInt8) (v : SplitView) : ViewTurn :=
  let window := v.window env content
  let chunks := v.chunks env content
  let stop := v.next + spanOf chunks
  if chunks.length = v.nbChunks ∧ fitsBelow (listBytes content) window stop then
    .stop v (.failed .tooManyChunks)
  else if spanOf chunks = 0 then
    .stop v (.failed (if stop + chunkHeaderSize < window then .corrupted else .tooBigChunk))
  else
    let buffer := groupBuffer (content.take sparseHeaderSize) env.reserved1
      (blocksOf v.groups.flatten) chunks
    let v' := { v with groups := v.groups ++ [chunks] }
    if !env.flashOk buffer then .stop v' .flashFailed
    else
      .next { v' with
        remainingData := v.remainingData - v.readSize env content
        nbChunks := v.nbChunks - chunks.length, next := stop }

/-- The view's loop, for at most `fuel` turns. -/
def viewLoop (env : SplitEnv) (content : List UInt8) : Nat → SplitView → SplitView × Option SplitEnd
  | 0, v => (v, none)
  | fuel + 1, v =>
      if 0 < v.nbChunks ∧ 0 < v.remainingData then
        match viewTurn env content v with
        | .next v => viewLoop env content fuel v
        | .stop v outcome => (v, some outcome)
      else (v, some .done)

/-- The chunk count of the header `sph`, as the code takes it. -/
def totalChunksOf (env : SplitEnv) (sph : List UInt8) : Nat :=
  (nbChunksOf env.config (readLE (listBytes sph) 20 4)).toNat

/-- The view of `installer_split_and_flash`. -/
def splitView (env : SplitEnv) (content : List UInt8) : SplitView × Option SplitEnd :=
  let start : SplitView := ⟨content.length, 0, 0, []⟩
  match readFile content 0 sparseHeaderSize with
  | none => (start, some (.failed .readFailed))
  | some sph =>
      if !env.isSparseImage sph then (start, some (.failed .notSparse))
      else
        viewLoop env content (totalChunksOf env sph + 1)
          ⟨content.length - sparseHeaderSize, totalChunksOf env sph, sparseHeaderSize, []⟩

@[simp] theorem spanOf_append (first second : List (Nat × List UInt8)) :
    spanOf (first ++ second) = spanOf first + spanOf second := by
  induction first with
  | nil => simp
  | cons chunk first inductionHypothesis => simp [inductionHypothesis, Nat.add_assoc]

@[simp] theorem blocksOf_append (first second : List (Nat × List UInt8)) :
    blocksOf (first ++ second) = blocksOf first + blocksOf second := by
  induction first with
  | nil => simp
  | cons chunk first inductionHypothesis => simp [inductionHypothesis, Nat.add_assoc]

theorem groupBuffers_append (sph reserved : List UInt8) (before : Nat)
    (groups : List (List (Nat × List UInt8))) (chunks : List (Nat × List UInt8)) :
    groupBuffers sph reserved before (groups ++ [chunks]) =
      groupBuffers sph reserved before groups ++
        [groupBuffer sph reserved (before + blocksOf groups.flatten) chunks] := by
  induction groups generalizing before with
  | nil => rfl
  | cons group groups inductionHypothesis =>
      rw [List.cons_append, groupBuffers, groupBuffers, inductionHypothesis, List.flatten_cons,
        blocksOf_append, Nat.add_assoc, List.cons_append]

/-- A flashed buffer holds the two headers and its chunks' bytes. -/
theorem groupBuffer_length {sph reserved : List UInt8} (length : sph.length = sparseHeaderSize)
    (two : reserved.length = 2) (before : Nat) (chunks : List (Nat × List UInt8)) :
    (groupBuffer sph reserved before chunks).length = headerSize + spanOf chunks := by
  have bytes : ((chunks.map Prod.snd).flatten).length = spanOf chunks := by
    simp [List.length_flatten, spanOf, Function.comp_def]
  simp only [groupBuffer, List.length_append, List.length_take, List.length_drop, le32, le16,
    List.length_map, List.length_range, two, bytes]
  unfold headerSize sparseHeaderSize chunkHeaderSize at *
  omega

theorem mem_groupBuffers {sph reserved buffer : List UInt8} :
    ∀ {before : Nat} {groups : List (List (Nat × List UInt8))},
      buffer ∈ groupBuffers sph reserved before groups →
        ∃ chunks ∈ groups, ∃ earlier, buffer = groupBuffer sph reserved earlier chunks
  | _, [], member => absurd member (List.not_mem_nil _)
  | before, chunks :: groups, member => by
      rcases List.mem_cons.mp member with rfl | later
      · exact ⟨chunks, List.mem_cons_self _ _, before, rfl⟩
      · obtain ⟨found, inside, earlier, rfl⟩ := mem_groupBuffers later
        exact ⟨found, List.mem_cons_of_mem _ inside, earlier, rfl⟩

theorem fitsBelow_mono (memory : Bytes) {window limit offset : Nat} (within : window ≤ limit)
    (fits : fitsBelow memory window offset = true) : fitsBelow memory limit offset = true := by
  simp only [fitsBelow, decide_eq_true_eq] at fits ⊢
  omega

/-- The chunks below `limit` split at a `window` short of it. -/
theorem chunksIn_append_window (memory : Bytes) {window limit : Nat} (within : window ≤ limit) :
    ∀ offset count, chunksIn memory limit offset count =
      chunksIn memory window offset count ++
        chunksIn memory limit (offset + spanOf (chunksIn memory window offset count))
          (count - (chunksIn memory window offset count).length)
  | _, 0 => rfl
  | offset, count + 1 => by
      by_cases fits : fitsBelow memory window offset
      · simp only [chunksIn, fits, fitsBelow_mono memory within fits, if_true, List.cons_append,
          spanOf_cons, length_bytesAt, List.length_cons, Nat.add_sub_add_right, ← Nat.add_assoc]
        rw [chunksIn_append_window memory within]
      · simp [chunksIn, fits]

/-- A parse short of `count` chunks ends where no chunk lies whole. -/
theorem chunksIn_stop (memory : Bytes) (limit : Nat) :
    ∀ offset count, (chunksIn memory limit offset count).length < count →
      fitsBelow memory limit (offset + spanOf (chunksIn memory limit offset count)) = false
  | _, 0, short => absurd short (Nat.not_lt_zero _)
  | offset, count + 1, short => by
      by_cases fits : fitsBelow memory limit offset
      · simp only [chunksIn, fits, if_true, List.length_cons, spanOf_cons, length_bytesAt] at short ⊢
        rw [← Nat.add_assoc]
        exact chunksIn_stop memory limit _ count (by omega)
      · simp [chunksIn, fits]

theorem readFile_eq_some {content : List UInt8} {position count : Nat} {piece : List UInt8} :
    readFile content position count = some piece ↔
      position + count ≤ content.length ∧ piece = (content.drop position).take count := by
  unfold readFile
  split <;> simp [*, eq_comm]

/-- Where a view stands in the file. -/
structure SplitView.Inside (env : SplitEnv) (content : List UInt8) (v : SplitView) : Prop where
  remaining : v.remainingData ≤ content.length
  start : sparseHeaderSize ≤ v.next
  behind : v.next ≤ v.position content
  carried : v.carried content < env.dataSize

/-- A turn's read is non-empty, within the file and the buffer. -/
theorem SplitView.Inside.window_bounds {env : SplitEnv} {content : List UInt8} {v : SplitView}
    (inside : v.Inside env content) (remaining : 0 < v.remainingData) :
    v.readSize env content ≤ v.remainingData ∧ v.position content < v.window env content ∧
      v.window env content ≤ content.length ∧ v.window env content - v.next ≤ env.dataSize ∧
      v.next + spanOf (v.chunks env content) ≤ v.window env content := by
  obtain ⟨below, -, behind, carried⟩ := inside
  have sizes : v.readSize env content ≤ v.remainingData ∧ v.position content < v.window env content ∧
      v.window env content ≤ content.length ∧ v.window env content - v.next ≤ env.dataSize := by
    simp only [SplitView.window, SplitView.readSize, SplitView.carried, SplitView.position] at behind carried ⊢
    split <;> omega
  exact ⟨sizes.1, sizes.2.1, sizes.2.2.1, sizes.2.2.2,
    chunksIn_span _ _ _ _ (by have := sizes.2.1; omega)⟩

/-- What a turn of the view that goes on did. -/
theorem viewTurn_next {env : SplitEnv} {content : List UInt8} {v v' : SplitView}
    (next : viewTurn env content v = .next v') :
    ¬((v.chunks env content).length = v.nbChunks ∧
        fitsBelow (listBytes content) (v.window env content)
          (v.next + spanOf (v.chunks env content)) = true) ∧
      spanOf (v.chunks env content) ≠ 0 ∧
      env.flashOk (groupBuffer (content.take sparseHeaderSize) env.reserved1
        (blocksOf v.groups.flatten) (v.chunks env content)) = true ∧
      v' = v.advance env content := by
  unfold viewTurn at next
  dsimp only at next
  split_ifs at next with tooMany zero flashing
  cases next
  exact ⟨tooMany, zero, by simpa using flashing, rfl⟩

/-- A turn of the view stops only at a failure. -/
theorem viewTurn_stop_ne_done {env : SplitEnv} {content : List UInt8} {v v' : SplitView}
    {outcome : SplitEnd} (stop : viewTurn env content v = .stop v' outcome) : outcome ≠ .done := by
  unfold viewTurn at stop
  dsimp only at stop
  split_ifs at stop <;> cases stop <;> simp

/-- After a turn that flashed, all that was read has been read. -/
theorem SplitView.Inside.advance_position {env : SplitEnv} {content : List UInt8} {v : SplitView}
    (inside : v.Inside env content) (remaining : 0 < v.remainingData) :
    (v.advance env content).position content = v.window env content := by
  have bounds := inside.window_bounds remaining
  have := inside.remaining
  simp only [SplitView.advance, SplitView.position, SplitView.window] at bounds ⊢
  omega

theorem SplitView.Inside.advance {env : SplitEnv} {content : List UInt8} {v : SplitView}
    (inside : v.Inside env content) (remaining : 0 < v.remainingData)
    (spanned : spanOf (v.chunks env content) ≠ 0) : (v.advance env content).Inside env content := by
  have position := inside.advance_position remaining
  obtain ⟨atMost, -, -, fits, span⟩ := inside.window_bounds remaining
  have := inside.start
  have := inside.remaining
  refine ⟨by dsimp only [SplitView.advance]; omega, by dsimp only [SplitView.advance]; omega,
    by rw [position]; exact span, ?_⟩
  simp only [SplitView.carried, position]
  dsimp only [SplitView.advance]
  omega

/-- What a view has made of a file that declares `total` chunks. -/
structure SplitView.Parsed (env : SplitEnv) (content : List UInt8) (total : Nat) (v : SplitView)
    extends v.Inside env content : Prop where
  stopped : fitsBelow (listBytes content) (v.position content) v.next = false
  parsed : chunksIn (listBytes content) content.length sparseHeaderSize total =
    v.groups.flatten ++ chunksIn (listBytes content) content.length v.next v.nbChunks
  nonempty : ∀ chunks ∈ v.groups, chunks ≠ []
  fit : ∀ chunks ∈ v.groups, headerSize + spanOf chunks ≤ env.maxDownloadSize

theorem viewTurn_parsed {env : SplitEnv} {content : List UInt8} {total : Nat} {v v' : SplitView}
    (parsed : v.Parsed env content total) (remaining : 0 < v.remainingData)
    (next : viewTurn env content v = .next v') : v'.Parsed env content total := by
  obtain ⟨notTooMany, spanned, -, rfl⟩ := viewTurn_next next
  have inside := parsed.advance remaining spanned
  have position := parsed.advance_position remaining
  obtain ⟨-, -, read, fits, span⟩ := parsed.window_bounds remaining
  have counted : (v.chunks env content).length ≤ v.nbChunks := chunksIn_length_le _ _ _ _
  have carried := parsed.carried
  refine ⟨inside, ?_, ?_, ?_, ?_⟩
  · rw [position]
    by_cases short : (v.chunks env content).length < v.nbChunks
    · exact chunksIn_stop _ _ _ _ short
    · simpa [show (v.chunks env content).length = v.nbChunks by omega] using notTooMany
  · rw [parsed.parsed, chunksIn_append_window (listBytes content) read]
    simp only [SplitView.advance, List.flatten_append, List.flatten_singleton, List.append_assoc]
    rfl
  · simp only [SplitView.advance, List.mem_append, List.mem_singleton]
    rintro chunks (earlier | rfl)
    · exact parsed.nonempty chunks earlier
    · intro empty
      exact spanned (by rw [empty]; rfl)
  · simp only [SplitView.advance, List.mem_append, List.mem_singleton]
    rintro chunks (earlier | rfl)
    · exact parsed.fit chunks earlier
    · simp only [SplitEnv.dataSize] at fits carried
      omega

/-- A view whose loop has ended has flashed all the whole chunks. -/
theorem SplitView.Parsed.flatten_groups {env : SplitEnv} {content : List UInt8} {total : Nat}
    {v : SplitView} (parsed : v.Parsed env content total)
    (ended : ¬(0 < v.nbChunks ∧ 0 < v.remainingData)) :
    v.groups.flatten = chunksIn (listBytes content) content.length sparseHeaderSize total := by
  rw [parsed.parsed, List.self_eq_append_right]
  by_cases none : v.nbChunks = 0
  · rw [none]
    rfl
  · have read : v.position content = content.length := by
      simp only [SplitView.position]
      omega
    exact chunksIn_of_not_fits (read ▸ parsed.stopped) _

/-- A view loop that ends at its test has flashed the whole chunks. -/
theorem viewLoop_done {env : SplitEnv} {content : List UInt8} {total : Nat} (fuel : Nat)
    (v : SplitView) (parsed : v.Parsed env content total)
    (done : (viewLoop env content fuel v).2 = some .done) :
    (viewLoop env content fuel v).1.Parsed env content total ∧
      (viewLoop env content fuel v).1.groups.flatten =
        chunksIn (listBytes content) content.length sparseHeaderSize total := by
  induction fuel generalizing v with
  | zero => cases done
  | succ fuel inductionHypothesis =>
      rw [viewLoop] at done ⊢
      split
      · rename_i going
        rw [if_pos going] at done
        split at done
        · rename_i v' next
          exact inductionHypothesis v' (viewTurn_parsed parsed going.2 next) done
        · rename_i v' outcome stop
          cases done
          exact absurd rfl (viewTurn_stop_ne_done stop)
      · rename_i ended
        exact ⟨parsed, parsed.flatten_groups ended⟩

/-- A split ending at its test has flashed the whole chunks. -/
theorem splitView_done (env : SplitEnv) (content : List UInt8)
    (room : headerSize < env.maxDownloadSize) (done : (splitView env content).2 = some .done) :
    let total := totalChunksOf env (content.take sparseHeaderSize)
    (splitView env content).1.Parsed env content total ∧
      (splitView env content).1.groups.flatten =
        chunksIn (listBytes content) content.length sparseHeaderSize total := by
  unfold splitView at done ⊢
  split at done
  · cases done
  rename_i sph header
  obtain ⟨long, rfl⟩ := readFile_eq_some.mp header
  rw [List.drop_zero] at done ⊢
  split at done
  · cases done
  rename_i sparse
  simp only [sparse, if_false, Bool.false_eq_true]
  have position : content.length - (content.length - sparseHeaderSize) = sparseHeaderSize := by
    omega
  refine viewLoop_done _ _ ⟨⟨Nat.sub_le _ _, le_refl _, position.ge, ?_⟩, ?_, rfl, by simp, by simp⟩ done
  · simp only [SplitView.carried, SplitView.position, position, SplitEnv.dataSize, Nat.sub_self]
    exact Nat.sub_pos_of_lt room
  · simp only [SplitView.position, position, fitsBelow, decide_eq_false_iff_not]
    exact fun fits => absurd fits.1 (by decide)

end Kernelflinger.Installer
