import Kernelflinger.Basic

/-
Physical memory and the firmware's page allocations, as the boot loader's byte helpers and the
boot services see them.
-/

namespace Kernelflinger.Memory

/-- Physical memory, one byte per address. -/
abbrev Bytes := Nat → UInt8

/-- `EFI_SIZE_TO_PAGES`: whole pages, and one more for a partial page. -/
def efiSizeToPages (size : Nat) : Nat := size / 4096 + if size % 4096 = 0 then 0 else 1

theorem efiSizeToPages_mul_ge (size : Nat) : size ≤ efiSizeToPages size * 4096 := by
  unfold efiSizeToPages
  split <;> omega

theorem efiSizeToPages_lt {count : Nat} (long : 2 ≤ count) : efiSizeToPages count < count := by
  unfold efiSizeToPages; split <;> omega

theorem efiSizeToPages_pos {count : Nat} (nonempty : 0 < count) : 0 < efiSizeToPages count := by
  unfold efiSizeToPages; split <;> omega

/-- The little-endian value of the `width` bytes from `address`. -/
def readLE (memory : Bytes) (address : Nat) : Nat → Nat
  | 0 => 0
  | width + 1 => (memory address).toNat + 256 * readLE memory (address + 1) width

/-- Byte `index` of the little-endian encoding of `value`. -/
def byteOf (value index : Nat) : UInt8 := (value / 256 ^ index % 256).toUInt8

/-- Memory with the `count` bytes from `address` replaced by `bytes`. -/
def overwrite (memory : Bytes) (address count : Nat) (bytes : Nat → UInt8) : Bytes :=
  fun i => if address ≤ i ∧ i < address + count then bytes (i - address) else memory i

/-- A store of `value` to a field of `width` bytes, truncated as in C. -/
def writeLE (memory : Bytes) (address value width : Nat) : Bytes :=
  overwrite memory address width (byteOf value)

/-- `memset`. -/
def memset (memory : Bytes) (address count : Nat) (byte : UInt8) : Bytes :=
  overwrite memory address count fun _ => byte

/-- `memcpy`: the `count` bytes from `source` as they are before the copy. -/
def memcpy (memory : Bytes) (dest source count : Nat) : Bytes :=
  overwrite memory dest count fun offset => memory (source + offset)

/-- Memory read through pointers of `bits` bits. -/
def wrapBytes (bits : Nat) (memory : Bytes) : Bytes := fun i => memory (i % 2 ^ bits)

/-- `overwrite` through pointers of `bits` bits. -/
def overwriteWrap (bits : Nat) (memory : Bytes) (address count : Nat) (bytes : Nat → UInt8) : Bytes :=
  fun i => if i < 2 ^ bits ∧ (i + 2 ^ bits - address % 2 ^ bits) % 2 ^ bits < count
    then bytes ((i + 2 ^ bits - address % 2 ^ bits) % 2 ^ bits) else memory i

/-- `memcpy` through pointers of `bits` bits. -/
def memcpyWrap (bits : Nat) (memory : Bytes) (dest source count : Nat) : Bytes :=
  overwriteWrap bits memory dest count fun offset => wrapBytes bits memory (source + offset)

/-- A buffer read through a pointer; past its end reads as 0. -/
def listBytes (bytes : List UInt8) : Bytes := fun i => bytes.getD i 0

/-- The `count` bytes from `address`, as a list. -/
def bytesAt (memory : Bytes) (address count : Nat) : List UInt8 :=
  (List.range count).map fun offset => memory (address + offset)

@[simp] theorem length_bytesAt (memory : Bytes) (address count : Nat) :
    (bytesAt memory address count).length = count := by
  simp [bytesAt]

theorem bytesAt_succ (memory : Bytes) (address count : Nat) :
    bytesAt memory address (count + 1) = memory address :: bytesAt memory (address + 1) count := by
  simp [bytesAt, List.range_succ_eq_map, Nat.add_assoc, Nat.add_comm 1]

theorem overwrite_inside (memory : Bytes) {address count i : Nat} (bytes : Nat → UInt8)
    (low : address ≤ i) (high : i < address + count) :
    overwrite memory address count bytes i = bytes (i - address) := by
  simp [overwrite, low, high]

theorem overwrite_outside (memory : Bytes) {address count i : Nat} (bytes : Nat → UInt8)
    (outside : i < address ∨ address + count ≤ i) :
    overwrite memory address count bytes i = memory i := by
  simp only [overwrite]
  rw [if_neg (by omega)]

theorem overwrite_congr (memory : Bytes) (address count : Nat) {bytes other : Nat → UInt8}
    (same : ∀ offset < count, bytes offset = other offset) :
    overwrite memory address count bytes = overwrite memory address count other := by
  funext i
  unfold overwrite
  split_ifs with inside
  · exact same _ (by omega)
  · rfl

/-- A wrapping `overwrite` that ends below `2 ^ bits` is a plain one. -/
theorem overwriteWrap_of_fits (bits : Nat) (memory : Bytes) {address count : Nat} (bytes : Nat → UInt8)
    (fits : address + count < 2 ^ bits) :
    overwriteWrap bits memory address count bytes = overwrite memory address count bytes := by
  funext i
  unfold overwriteWrap overwrite
  rw [Nat.mod_eq_of_lt (show address < 2 ^ bits by omega)]
  generalize 2 ^ bits = top at *
  rcases Nat.lt_or_ge i address with before | after
  · rw [Nat.mod_eq_of_lt (show i + top - address < top by omega), if_neg (by omega), if_neg (by omega)]
  · rw [show i + top - address = i - address + top by omega, Nat.add_mod_right]
    by_cases high : i < top
    · rw [Nat.mod_eq_of_lt (by omega)]
      exact if_congr (by omega) rfl rfl
    · rw [if_neg fun inside => high inside.1, if_neg (by omega)]

theorem memcpyWrap_of_fits (bits : Nat) (memory : Bytes) {dest source count : Nat}
    (destFits : dest + count < 2 ^ bits) (sourceFits : source + count ≤ 2 ^ bits) :
    memcpyWrap bits memory dest source count = memcpy memory dest source count := by
  rw [memcpyWrap, overwriteWrap_of_fits _ _ _ destFits, memcpy]
  exact overwrite_congr _ _ _ fun offset below => congrArg memory (Nat.mod_eq_of_lt (by omega))

theorem readLE_congr {memory other : Bytes} {address : Nat} (width : Nat)
    (same : ∀ offset < width, memory (address + offset) = other (address + offset)) :
    readLE memory address width = readLE other address width := by
  induction width generalizing address with
  | zero => rfl
  | succ width inductionHypothesis =>
      have first : memory address = other address := same 0 (Nat.succ_pos _)
      have rest : readLE memory (address + 1) width = readLE other (address + 1) width :=
        inductionHypothesis fun offset below => by
        simpa [Nat.add_assoc, Nat.add_comm 1] using same (offset + 1) (by omega)
      simp only [readLE, rest, first]

theorem range_map_getD {bytes : List UInt8} {count : Nat} (length : bytes.length = count) :
    (List.range count).map (fun i => bytes.getD i 0) = bytes := by
  subst length
  refine List.ext_getElem (by simp) fun i inRange _ => ?_
  simp [List.getD_eq_getElem?_getD, show i < bytes.length by simpa using inRange]

theorem bytesAt_congr {memory other : Bytes} {address count : Nat}
    (same : ∀ offset < count, memory (address + offset) = other (address + offset)) :
    bytesAt memory address count = bytesAt other address count := by
  simp only [bytesAt, List.map_inj_left, List.mem_range]
  exact same

theorem readLE_wrapBytes (bits : Nat) (memory : Bytes) {address width : Nat}
    (fits : address + width ≤ 2 ^ bits) : readLE (wrapBytes bits memory) address width = readLE memory address width :=
  readLE_congr width fun _ _ => congrArg memory (Nat.mod_eq_of_lt (by omega))

theorem bytesAt_wrapBytes (bits : Nat) (memory : Bytes) {address count : Nat}
    (fits : address + count ≤ 2 ^ bits) : bytesAt (wrapBytes bits memory) address count = bytesAt memory address count :=
  bytesAt_congr fun _ _ => congrArg memory (Nat.mod_eq_of_lt (by omega))

/-- A field read is unaffected by a store that misses each of its bytes. -/
theorem readLE_overwrite_of_outside (memory : Bytes) (bytes : Nat → UInt8)
    {address count field width : Nat}
    (outside : ∀ offset < width, field + offset < address ∨ address + count ≤ field + offset) :
    readLE (overwrite memory address count bytes) field width = readLE memory field width :=
  readLE_congr width fun offset below => overwrite_outside memory bytes (outside offset below)

theorem bytesAt_overwrite_of_outside (memory : Bytes) (bytes : Nat → UInt8)
    {address count start length : Nat}
    (outside : ∀ offset < length, start + offset < address ∨ address + count ≤ start + offset) :
    bytesAt (overwrite memory address count bytes) start length = bytesAt memory start length :=
  bytesAt_congr fun offset below => overwrite_outside memory bytes (outside offset below)

theorem bytesAt_overwrite_self (memory : Bytes) (address count : Nat) (bytes : Nat → UInt8) :
    bytesAt (overwrite memory address count bytes) address count =
      (List.range count).map bytes := by
  simp only [bytesAt, List.map_inj_left, List.mem_range]
  intro offset below
  rw [overwrite_inside memory bytes (by omega) (by omega), Nat.add_sub_cancel_left]

theorem readLE_lt (memory : Bytes) (address width : Nat) :
    readLE memory address width < 256 ^ width := by
  induction width generalizing address with
  | zero => simp [readLE]
  | succ width inductionHypothesis =>
      have low : (memory address).toNat < 256 := (memory address).val.isLt
      have high := inductionHypothesis (address + 1)
      rw [readLE, Nat.pow_succ]
      omega

theorem readLE_byteOf (value width : Nat) (address : Nat) :
    readLE (fun i => byteOf value (i - address)) address width = value % 256 ^ width := by
  induction width generalizing address value with
  | zero => simp [readLE, Nat.mod_one]
  | succ width inductionHypothesis =>
      have rest : readLE (fun i => byteOf value (i - address)) (address + 1) width =
          value / 256 % 256 ^ width := by
        rw [← inductionHypothesis (value / 256) (address + 1)]
        refine readLE_congr width fun offset _ => ?_
        simp only [byteOf, show address + 1 + offset - address = offset + 1 by omega,
          show address + 1 + offset - (address + 1) = offset by omega, Nat.pow_succ,
          Nat.div_div_eq_div_mul, Nat.mul_comm]
      have first : (byteOf value (address - address)).toNat = value % 256 := by
        simp [byteOf, Nat.toUInt8, UInt8.toNat, UInt8.ofNat, Fin.ofNat, Nat.mod_mod_of_dvd]
      rw [readLE, rest, first, Nat.pow_succ', Nat.mod_mul]

/-- Reading back a field just stored gives the stored value truncated to the field. -/
theorem readLE_writeLE (memory : Bytes) (address value width : Nat) :
    readLE (writeLE memory address value width) address width = value % 256 ^ width := by
  rw [← readLE_byteOf value width address]
  exact readLE_congr width fun offset below =>
    overwrite_inside memory _ (Nat.le_add_right _ _) (by omega)

/-- The firmware's page allocations: whether each page frame is allocated. -/
abbrev Ledger := Nat → Bool

/-- Every page of the `pages` pages from `address` has the state `allocated`. -/
def PagesIn (ledger : Ledger) (allocated : Bool) (address pages : Nat) : Prop :=
  ∀ k < pages, ledger (address / 4096 + k) = allocated

instance (ledger : Ledger) (allocated : Bool) (address pages : Nat) :
    Decidable (PagesIn ledger allocated address pages) :=
  inferInstanceAs (Decidable (∀ k < pages, _))

/-- The ledger with the `pages` pages from `address` set to `allocated`. -/
def markPages (ledger : Ledger) (address pages : Nat) (allocated : Bool) : Ledger :=
  fun frame => if address / 4096 ≤ frame ∧ frame < address / 4096 + pages then allocated
    else ledger frame

/-- `FreePages` from the UEFI specification: all or nothing. -/
def freePages (ledger : Ledger) (address pages : Nat) : Ledger :=
  if address % 4096 = 0 ∧ PagesIn ledger true address pages then markPages ledger address pages false
  else ledger

/-- Where a page request may place its pages. -/
inductive Placement where
  | maxAddress (limit : Nat)
  | address (exact : Nat)
  | aligned (alignment : Nat)
  deriving DecidableEq, Repr

/-- The addresses a placement allows for `pages` pages. -/
def Placement.Allows : Placement → Nat → Nat → Prop
  | .maxAddress limit, start, pages => start + pages * 4096 ≤ limit + 1
  | .address exact, start, _ => start = exact
  | .aligned alignment, start, _ => alignment = 0 ∨ start % alignment = 0

instance (placement : Placement) (address pages : Nat) : Decidable (placement.Allows address pages) := by
  cases placement <;> unfold Placement.Allows <;> infer_instance

/-- The firmware's page allocator: any that grants only free pages. -/
structure Firmware where
  allocatePages : Ledger → Placement → Nat → Option Nat
  fresh : ∀ ledger placement pages address,
    allocatePages ledger placement pages = some address →
      address % 4096 = 0 ∧ PagesIn ledger false address pages ∧ placement.Allows address pages

/-- The firmware that grants only `address`. -/
def Firmware.fixed (address : Nat) (aligned : address % 4096 = 0) : Firmware where
  allocatePages ledger placement pages :=
    if PagesIn ledger false address pages ∧ placement.Allows address pages then some address else none
  fresh := by
    intro ledger placement pages granted answered
    simp only at answered
    split at answered
    · rename_i allowed
      cases answered
      exact ⟨aligned, allowed⟩
    · cases answered

/-- Memory and the page ledger. -/
structure Machine where
  memory : Bytes
  ledger : Ledger

/-- `AllocatePages` of `pages` pages: the address and the ledger that records them. -/
def allocatePages (firmware : Firmware) (ledger : Ledger) (placement : Placement) (pages : Nat) :
    Option (Nat × Ledger) :=
  (firmware.allocatePages ledger placement pages).map fun address =>
    (address, markPages ledger address pages true)

/-- `emalloc` from its contract: it lives in the efilinux sources. -/
def emalloc (firmware : Firmware) (ledger : Ledger) (size alignment : Nat) : Option (Nat × Ledger) :=
  allocatePages firmware ledger (.aligned alignment) (efiSizeToPages size)

/-- `efree`: release the pages that hold `size` bytes. -/
def efree (ledger : Ledger) (address size : Nat) : Ledger :=
  freePages ledger address (efiSizeToPages size)

theorem markPages_outside (ledger : Ledger) {address pages frame : Nat} (allocated : Bool)
    (outside : frame < address / 4096 ∨ address / 4096 + pages ≤ frame) :
    markPages ledger address pages allocated frame = ledger frame := by
  simp only [markPages]
  rw [if_neg (by omega)]

theorem markPages_inside (ledger : Ledger) {address pages frame : Nat} (allocated : Bool)
    (low : address / 4096 ≤ frame) (high : frame < address / 4096 + pages) :
    markPages ledger address pages allocated frame = allocated := by
  simp [markPages, low, high]

/-- Releasing what was just allocated restores the ledger. -/
theorem freePages_markPages (ledger : Ledger) {address pages : Nat} (aligned : address % 4096 = 0)
    (wasFree : PagesIn ledger false address pages) :
    freePages (markPages ledger address pages true) address pages = ledger := by
  have allocated : PagesIn (markPages ledger address pages true) true address pages :=
    fun k below => markPages_inside ledger true (by omega) (by omega)
  funext frame
  simp only [freePages, aligned, allocated, and_self, if_true, markPages]
  split
  · rename_i inside
    have := wasFree (frame - address / 4096) (by omega)
    rw [Nat.add_sub_cancel' inside.1] at this
    exact this.symm
  · rfl

/-- Every byte of `[start, start + length)` lies in an allocated page. -/
def Allocated (ledger : Ledger) (start length : Nat) : Prop :=
  ∀ offset < length, ledger ((start + offset) / 4096) = true

/-- Pages that were free hold no byte of a live range. -/
theorem outside_of_free {ledger : Ledger} {address pages start length : Nat}
    (aligned : address % 4096 = 0) (free : PagesIn ledger false address pages)
    (live : Allocated ledger start length) :
    ∀ offset < length, start + offset < address ∨ address + pages * 4096 ≤ start + offset := by
  intro offset below
  by_contra inside
  have page := free ((start + offset) / 4096 - address / 4096) (by omega)
  rw [show address / 4096 + ((start + offset) / 4096 - address / 4096) = (start + offset) / 4096 by
    omega, live offset below] at page
  cases page

theorem Allocated.mono {ledger : Ledger} {start length shorter : Nat}
    (live : Allocated ledger start length) (within : shorter ≤ length) :
    Allocated ledger start shorter :=
  fun offset below => live offset (by omega)

theorem Allocated.shift {ledger : Ledger} {start length skip : Nat}
    (live : Allocated ledger start length) (within : skip ≤ length) :
    Allocated ledger (start + skip) (length - skip) :=
  fun offset below => by simpa [Nat.add_assoc] using live (skip + offset) (by omega)

/-- A live range stays live when more pages are allocated. -/
theorem Allocated.markPages_true {ledger : Ledger} {start length : Nat}
    (live : Allocated ledger start length) (address pages : Nat) :
    Allocated (markPages ledger address pages true) start length := by
  intro offset below
  simp only [markPages]
  split
  · rfl
  · exact live offset below

/-- Pages just allocated hold every byte of their range. -/
theorem Allocated.markPages_self (ledger : Ledger) {address : Nat} (aligned : address % 4096 = 0)
    (pages : Nat) : Allocated (markPages ledger address pages true) address (pages * 4096) :=
  fun offset below => markPages_inside ledger true (by omega) (by omega)

/-- A write into pages that were free keeps every byte of a live range. -/
theorem overwrite_of_free (memory : Bytes) (bytes : Nat → UInt8) {ledger : Ledger}
    {address pages count start length : Nat} (aligned : address % 4096 = 0)
    (free : PagesIn ledger false address pages) (within : count ≤ pages * 4096)
    (live : Allocated ledger start length) :
    ∀ offset < length, overwrite memory address count bytes (start + offset) = memory (start + offset) :=
  fun offset below => overwrite_outside memory bytes
    (by have := outside_of_free aligned free live offset below; omega)

/-- Releasing more pages than were allocated never restores the ledger. -/
theorem freePages_markPages_ne {ledger : Ledger} {address pages count : Nat}
    (free : PagesIn ledger false address pages) (nonempty : 0 < pages) (longer : pages < count) :
    freePages (markPages ledger address pages true) address count ≠ ledger := by
  intro restored
  unfold freePages at restored
  split at restored
  · rename_i released
    have beyond := congrFun restored (address / 4096 + pages)
    have wasAllocated := released.2 pages longer
    rw [markPages_outside ledger true (by omega)] at wasAllocated
    rw [markPages_inside _ false (by omega) (by omega), wasAllocated] at beyond
    cases beyond
  · have first := congrFun restored (address / 4096)
    have wasFree := free 0 nonempty
    rw [Nat.add_zero] at wasFree
    rw [markPages_inside ledger true (by omega) (by omega), wasFree] at first
    cases first

theorem allocatePages_spec {firmware : Firmware} {ledger : Ledger} {placement : Placement}
    {pages address : Nat} {after : Ledger}
    (answered : allocatePages firmware ledger placement pages = some (address, after)) :
    after = markPages ledger address pages true ∧ address % 4096 = 0 ∧
      PagesIn ledger false address pages ∧ placement.Allows address pages := by
  simp only [allocatePages, Option.map_eq_some', Prod.mk.injEq] at answered
  obtain ⟨found, granted, rfl, rfl⟩ := answered
  exact ⟨rfl, firmware.fresh _ _ _ _ granted⟩

end Kernelflinger.Memory
