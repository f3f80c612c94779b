import Kernelflinger.Handover

/-
The `struct boot_params` a kernel finds at `handover_jump`: the block the boot protocol asks for,
what each step of `android_image_start_buffer` keeps of the image and of what it placed before,
and the block, command line and ramdisk the kernel is handed.
-/

namespace Kernelflinger.Handover

open Memory BootImage CommandLine

/-- The ramdisk section lies in allocated pages apart from the sectors. -/
def RamdiskLive (machine : Machine) (image : Nat) : Prop :=
  let aospHeader := bootImgHdr (imageView machine.memory image)
  let buf := bootParamsOf machine.memory image
  let roffset := (aospHeader.pageSize + pagealign aospHeader aospHeader.kernelSize).toNat
  let rsize := aospHeader.ramdiskSize.toNat
  Allocated machine.ledger (image + roffset) rsize ∧
    ∀ offset < rsize, image + roffset + offset < buf ∨ buf + 1024 ≤ image + roffset + offset

/-- What the loader has set up in `machine` for the image at `image`. -/
structure Placed (entry : Bytes) (machine : Machine) (image buf headerLength : Nat) (sectors : Bytes)
    (blocks : List (Nat × List UInt8)) : Prop where
  header : ∀ offset < headerLength, machine.memory (image + offset) = entry (image + offset)
  headerLive : Allocated machine.ledger image headerLength
  window : ∀ offset < 1024, machine.memory (buf + offset) = sectors offset
  windowLive : Allocated machine.ledger buf 1024
  stored : ∀ block ∈ blocks, bytesAt machine.memory block.1 block.2.length = block.2
  blocksLive : ∀ block ∈ blocks, Allocated machine.ledger block.1 block.2.length
  blocksApart : ∀ block ∈ blocks, ∀ offset < block.2.length,
    block.1 + offset < buf ∨ buf + 1024 ≤ block.1 + offset

section Placed

variable {entry : Bytes} {machine : Machine} {image buf headerLength : Nat} {sectors : Bytes}
  {blocks : List (Nat × List UInt8)}

/-- At entry nothing is placed yet but the image's ramdisk section. -/
theorem Placed.initial {machine : Machine} {image : Nat} (live : ImageLive machine image)
    (ramdisk : RamdiskLive machine image) :
    let aospHeader := bootImgHdr (imageView machine.memory image)
    let roffset := (aospHeader.pageSize + pagealign aospHeader aospHeader.kernelSize).toNat
    let rsize := aospHeader.ramdiskSize.toNat
    Placed machine.memory machine image (bootParamsOf machine.memory image) 40
      (imageView machine.memory (bootParamsOf machine.memory image))
      [(image + roffset, bytesAt machine.memory (image + roffset) rsize)] := by
  intro aospHeader roffset rsize
  have length : (bytesAt machine.memory (image + roffset) rsize).length = rsize := by simp [bytesAt]
  refine ⟨fun _ _ => rfl, live.1.mono (by decide), fun _ _ => rfl, live.2, ?_, ?_, ?_⟩ <;>
    simp only [List.mem_singleton, forall_eq, length]
  · exact ramdisk.1
  · exact ramdisk.2

theorem Placed.tail {block : Nat × List UInt8}
    (placed : Placed entry machine image buf headerLength sectors (block :: blocks)) :
    Placed entry machine image buf headerLength sectors blocks :=
  ⟨placed.header, placed.headerLive, placed.window, placed.windowLive,
    fun other kept => placed.stored other (List.mem_cons_of_mem _ kept),
    fun other kept => placed.blocksLive other (List.mem_cons_of_mem _ kept),
    fun other kept => placed.blocksApart other (List.mem_cons_of_mem _ kept)⟩

/-- A write into free pages keeps what was placed and places its bytes. -/
theorem Placed.place (placed : Placed entry machine image buf headerLength sectors blocks)
    {address pages count : Nat} (aligned : address % 4096 = 0)
    (free : PagesIn machine.ledger false address pages) (within : count ≤ pages * 4096)
    (bytes : Nat → UInt8) :
    Placed entry ⟨overwrite machine.memory address count bytes, markPages machine.ledger address pages true⟩
      image buf headerLength sectors ((address, (List.range count).map bytes) :: blocks) := by
  have kept := fun {start length : Nat} (live : Allocated machine.ledger start length) =>
    overwrite_of_free machine.memory bytes aligned free within live
  have length : ((List.range count).map bytes).length = count := by simp
  refine ⟨fun offset below => (kept placed.headerLive offset below).trans (placed.header offset below),
    placed.headerLive.markPages_true _ _,
    fun offset below => (kept placed.windowLive offset below).trans (placed.window offset below),
    placed.windowLive.markPages_true _ _, ?_, ?_, ?_⟩ <;>
    simp only [List.mem_cons, forall_eq_or_imp, length]
  · refine ⟨bytesAt_overwrite_self _ _ _ _, fun block member => ?_⟩
    rw [bytesAt_congr (kept (placed.blocksLive block member))]
    exact placed.stored block member
  · exact ⟨(Allocated.markPages_self _ aligned pages).mono within,
      fun block member => (placed.blocksLive block member).markPages_true _ _⟩
  · refine ⟨fun offset below => ?_, placed.blocksApart⟩
    have apart := outside_of_free aligned free placed.windowLive
    by_contra inside
    have := apart (address + offset - buf) (by omega)
    omega

/-- A write into the kernel sectors past the kept header changes only them. -/
theorem Placed.write (placed : Placed entry machine image buf headerLength sectors blocks)
    {address count : Nat} (bytes : Nat → UInt8) (pastHeader : image + headerLength ≤ buf + address)
    (inWindow : address + count ≤ 1024) :
    Placed entry ⟨overwrite machine.memory (buf + address) count bytes, machine.ledger⟩ image buf
      headerLength (overwrite sectors address count bytes) blocks := by
  refine ⟨fun offset below => ?_, placed.headerLive, fun offset below => ?_, placed.windowLive,
    fun block member => ?_, placed.blocksLive, placed.blocksApart⟩
  · show overwrite _ _ _ _ (image + offset) = _
    rw [overwrite_outside _ _ (show image + offset < buf + address ∨ _ by omega)]
    exact placed.header offset below
  · show overwrite _ _ _ _ (buf + offset) = _
    by_cases inside : address ≤ offset ∧ offset < address + count
    · rw [overwrite_inside _ _ (show buf + address ≤ buf + offset by omega) (by omega),
        overwrite_inside _ _ inside.1 inside.2, Nat.add_sub_add_left]
    · rw [overwrite_outside _ _ (show buf + offset < buf + address ∨ _ by omega),
        overwrite_outside _ _ (show offset < address ∨ _ by omega)]
      exact placed.window offset below
  · rw [bytesAt_overwrite_of_outside _ _ fun offset below => by
      have := placed.blocksApart block member offset below; omega]
    exact placed.stored block member

/-- `memset` of the start of the sectors, once the header no longer matters. -/
theorem Placed.clear (placed : Placed entry machine image buf 0 sectors blocks) {count : Nat}
    (inWindow : count ≤ 1024) (pastImage : image ≤ buf) :
    Placed entry ⟨memset machine.memory buf count 0, machine.ledger⟩ image buf 0
      (memset sectors 0 count 0) blocks := by
  simpa only [memset, Nat.add_zero] using
    placed.write (fun _ => 0) (show image + 0 ≤ buf + 0 by omega) (show 0 + count ≤ 1024 by omega)

/-- `memcpy` into pages that were free places a copy of the source. -/
theorem Placed.copy (placed : Placed entry machine image buf headerLength sectors blocks)
    {address pages count : Nat} (aligned : address % 4096 = 0)
    (free : PagesIn machine.ledger false address pages) (within : count ≤ pages * 4096) (source : Nat) :
    Placed entry ⟨memcpy machine.memory address source count, markPages machine.ledger address pages true⟩
      image buf headerLength sectors ((address, bytesAt machine.memory source count) :: blocks) :=
  placed.place aligned free within _

theorem Placed.sameBootParams (placed : Placed entry machine image buf 40 sectors blocks) :
    bootParamsOf machine.memory image = bootParamsOf entry image :=
  bootParamsOf_congr placed.header

end Placed

section Steps

variable {firmware : Firmware} {entry : Bytes} {machine : Machine} {image buf : Nat}
  {sectors : Bytes} {blocks : List (Nat × List UInt8)}

end Steps

end Kernelflinger.Handover
