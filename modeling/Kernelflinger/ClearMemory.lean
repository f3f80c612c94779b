import Kernelflinger.Memory

/-
`android_clear_memory` of android.c, which `load_image` calls before it hands over an image in any
boot state but GREEN: the free regions of the firmware's memory map zeroed, one after another,
and every other byte kept, the image among them.
-/

namespace Kernelflinger.ClearMemory

open Memory

/-- `EfiConventionalMemory`, the `EFI_MEMORY_TYPE` of free memory. -/
def efiConventionalMemory : Nat := 7

/-- `EFI_PAGE_SIZE`. -/
def efiPageSize : Nat := 4096

/-- The fields of `EFI_MEMORY_DESCRIPTOR` that `android_clear_memory` reads. -/
structure MemoryDescriptor where
  type : Nat
  physicalStart : Nat
  numberOfPages : Nat
  deriving DecidableEq, Repr

/-- `map_sz = entry->NumberOfPages * EFI_PAGE_SIZE`, a `UINT64`. -/
def MemoryDescriptor.mapSz (entry : MemoryDescriptor) : Nat := entry.numberOfPages * efiPageSize % 2 ^ 64

/-- `ZeroMem` of `size` bytes from `buffer`, through pointers of `bits` bits. -/
def zeroMem (bits : Nat) (memory : Bytes) (buffer size : Nat) : Bytes :=
  overwriteWrap bits memory buffer size fun _ => 0

/-- Whether `ZeroMem` of an entry reaches `address` through the `UINTN` casts. -/
def MemoryDescriptor.Clears (bits : Nat) (entry : MemoryDescriptor) (address : Nat) : Prop :=
  entry.type = efiConventionalMemory ∧ address < 2 ^ bits ∧
    (address + 2 ^ bits - entry.physicalStart % 2 ^ bits) % 2 ^ bits < entry.mapSz % 2 ^ bits

instance (bits : Nat) (entry : MemoryDescriptor) (address : Nat) : Decidable (entry.Clears bits address) :=
  inferInstanceAs (Decidable (_ ∧ _))

/-- One turn of the loop: a free region zeroed. -/
def clearEntry (bits : Nat) (memory : Bytes) (entry : MemoryDescriptor) : Bytes :=
  if entry.type = efiConventionalMemory then
    zeroMem bits memory entry.physicalStart (entry.mapSz % 2 ^ bits)
  else memory

/-- `android_clear_memory` over what `LibMemoryMap` returned. -/
def androidClearMemory (config : BuildConfig) (map : Option (List MemoryDescriptor)) (memory : Bytes) :
    Bytes × EfiStatus :=
  match map with
  | none => (memory, .outOfResources)
  | some entries => (entries.foldl (clearEntry config.intnBits) memory, .success)

theorem clearEntry_of_clears {bits : Nat} (memory : Bytes) {entry : MemoryDescriptor} {address : Nat}
    (clears : entry.Clears bits address) : clearEntry bits memory entry address = 0 := by
  rw [clearEntry, if_pos clears.1, zeroMem, overwriteWrap, if_pos clears.2]

theorem clearEntry_of_not_clears {bits : Nat} (memory : Bytes) {entry : MemoryDescriptor} {address : Nat}
    (misses : ¬entry.Clears bits address) : clearEntry bits memory entry address = memory address := by
  unfold clearEntry zeroMem overwriteWrap
  split_ifs with free
  · exact if_neg fun inside => misses ⟨free, inside⟩
  · rfl

/-- An entry that ends below `2 ^ bits` clears only its own pages. -/
theorem MemoryDescriptor.Clears.within {bits : Nat} {entry : MemoryDescriptor} {address : Nat}
    (clears : entry.Clears bits address) (fits : entry.physicalStart + entry.numberOfPages * efiPageSize ≤ 2 ^ bits) :
    entry.physicalStart ≤ address ∧ address < entry.physicalStart + entry.numberOfPages * efiPageSize := by
  obtain ⟨-, below, offset⟩ := clears
  have size : entry.mapSz % 2 ^ bits ≤ entry.numberOfPages * efiPageSize :=
    (Nat.mod_le _ _).trans (Nat.mod_le _ _)
  generalize 2 ^ bits = top at *
  generalize entry.numberOfPages * efiPageSize = length at *
  have start : entry.physicalStart % top = entry.physicalStart ∨ length = 0 := by
    rcases Nat.lt_or_ge entry.physicalStart top with inside | edge
    · exact .inl (Nat.mod_eq_of_lt inside)
    · exact .inr (by omega)
  rcases start with start | empty
  · rw [start] at offset
    rcases Nat.lt_or_ge address entry.physicalStart with before | after
    · rw [Nat.mod_eq_of_lt (by omega)] at offset
      omega
    · rw [show address + top - entry.physicalStart = address - entry.physicalStart + top by omega,
        Nat.add_mod_right, Nat.mod_eq_of_lt (by omega)] at offset
      omega
  · omega

/-- After the loop a byte is zero if a free region covers it, else kept. -/
theorem foldl_clearEntry (bits address : Nat) : ∀ (entries : List MemoryDescriptor) (memory : Bytes),
    ((∃ entry ∈ entries, entry.Clears bits address) → entries.foldl (clearEntry bits) memory address = 0) ∧
      ((∀ entry ∈ entries, ¬entry.Clears bits address) →
        entries.foldl (clearEntry bits) memory address = memory address)
  | [], memory => ⟨fun ⟨_, member, _⟩ => absurd member (List.not_mem_nil _), fun _ => rfl⟩
  | entry :: entries, memory => by
      obtain ⟨covered, missed⟩ := foldl_clearEntry bits address entries (clearEntry bits memory entry)
      refine ⟨fun ⟨other, member, clears⟩ => ?_, fun misses => ?_⟩
      · rcases List.mem_cons.mp member with rfl | later
        · by_cases again : ∃ entry ∈ entries, entry.Clears bits address
          · exact covered again
          · rw [List.foldl_cons, missed (fun entry member clears => again ⟨entry, member, clears⟩)]
            exact clearEntry_of_clears memory clears
        · exact covered ⟨other, later, clears⟩
      · rw [List.foldl_cons, missed fun other member => misses other (List.mem_cons_of_mem _ member)]
        exact clearEntry_of_not_clears memory (misses entry (List.mem_cons_self _ _))

/-- An IA-32 build clears a free page above 4 GiB at address 0. -/
example : (androidClearMemory ⟨false, false, false, false, false, false⟩ (some [⟨7, 2 ^ 32, 1⟩])
    fun _ => 1).1 0 = 0 := by
  decide

/-- Over free, aligned pages below `2 ^ UINTN`, allocated bytes survive. -/
theorem androidClearMemory_keeps_allocated (config : BuildConfig) (entries : List MemoryDescriptor)
    (memory : Bytes) (ledger : Ledger) (start length : Nat)
    (free : ∀ entry ∈ entries, entry.type = efiConventionalMemory →
      entry.physicalStart % 4096 = 0 ∧ PagesIn ledger false entry.physicalStart entry.numberOfPages ∧
        entry.physicalStart + entry.numberOfPages * 4096 ≤ 2 ^ config.intnBits)
    (live : Allocated ledger start length) :
    bytesAt (androidClearMemory config (some entries) memory).1 start length = bytesAt memory start length := by
  unfold bytesAt
  refine List.map_congr_left fun offset member => ?_
  have below := List.mem_range.mp member
  refine (foldl_clearEntry config.intnBits (start + offset) entries memory).2 fun entry inMap clears => ?_
  obtain ⟨aligned, pages, fits⟩ := free entry inMap clears.1
  have inside := clears.within fits
  rcases outside_of_free aligned pages live offset below with before | after
  · exact absurd inside.1 (by omega)
  · exact absurd inside.2 (by unfold efiPageSize; omega)

/-- An IA-32 build keeps an allocated page beside a free one. -/
theorem androidClearMemory_keeps_allocated_page :
    (∀ entry ∈ [(⟨7, 0, 1⟩ : MemoryDescriptor)], entry.type = efiConventionalMemory →
        entry.physicalStart % 4096 = 0 ∧ PagesIn (fun frame => decide (frame = 1)) false entry.physicalStart
          entry.numberOfPages ∧
          entry.physicalStart + entry.numberOfPages * 4096 ≤
            2 ^ (⟨false, false, false, false, false, false⟩ : BuildConfig).intnBits) ∧
      Allocated (fun frame => decide (frame = 1)) 4096 8 ∧
      bytesAt (androidClearMemory ⟨false, false, false, false, false, false⟩ (some [⟨7, 0, 1⟩]) fun _ => 1).1
        4096 8 = bytesAt (fun _ => 1) 4096 8 :=
  have free : ∀ entry ∈ [(⟨7, 0, 1⟩ : MemoryDescriptor)], entry.type = efiConventionalMemory →
      entry.physicalStart % 4096 = 0 ∧ PagesIn (fun frame => decide (frame = 1)) false entry.physicalStart
        entry.numberOfPages ∧
        entry.physicalStart + entry.numberOfPages * 4096 ≤
          2 ^ (⟨false, false, false, false, false, false⟩ : BuildConfig).intnBits := by
    intro entry member _
    rw [List.mem_singleton.mp member]
    exact ⟨rfl, by decide, by decide⟩
  have live : Allocated (fun frame => decide (frame = 1)) 4096 8 := by
    unfold Allocated
    decide
  ⟨free, live, androidClearMemory_keeps_allocated _ [⟨7, 0, 1⟩] (fun _ => 1) _ 4096 8 free live⟩

end Kernelflinger.ClearMemory
