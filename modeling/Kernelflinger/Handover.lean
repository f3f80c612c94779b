import Kernelflinger.CommandLine

/-
`android_image_start_buffer` and the steps after the command line: `setup_ramdisk`, which copies
the ramdisk below `ramdisk_max`, and `handover_kernel`, which relocates the kernel, builds
`struct boot_params` and jumps into it.
-/

namespace Kernelflinger.Handover

open Memory BootImage CommandLine

/-- `SETUP_HDR` from the Linux boot protocol: `efilinux.h` is not under src/. -/
def setupHdr : Nat := 0x53726448

/-- `XLF_EFI_HANDOVER_32`. -/
def xlfEfiHandover32 : Nat := 4

/-- `XLF_EFI_HANDOVER_64`. -/
def xlfEfiHandover64 : Nat := 8

/-- How a step that may enter the kernel ends. -/
inductive StartResult where
  /-- It returns `status`, with the memory and the ledger after it. -/
  | returned (status : EfiStatus) (machine : Machine)
  /-- `handover_jump`, from which control does not come back. -/
  | jumped (machine : Machine) (bootParams entry : Nat)

/-- `setup_ramdisk`: `ramdisk_len` at once, then the ramdisk's pages. -/
def setupRamdisk (firmware : Firmware) (machine : Machine) (image : Nat) : EfiStatus × Machine :=
  let aospHeader := bootImgHdr (imageView machine.memory image)
  let bp := bootParamsOf machine.memory image
  let roffset := (aospHeader.pageSize + pagealign aospHeader aospHeader.kernelSize).toNat
  let rsize := aospHeader.ramdiskSize.toNat
  if rsize = 0 then (.success, machine)
  else
    let memory := writeField machine.memory bp .ramdiskLen rsize
    match emalloc firmware machine.ledger rsize 0x1000 with
    | none => (.outOfResources, ⟨memory, machine.ledger⟩)
    | some (ramdiskAddr, ledger) =>
        if readField memory bp .ramdiskMax < ramdiskAddr then
          (.outOfResources, ⟨memory, efree ledger ramdiskAddr rsize⟩)
        else
          let memory := memcpy memory ramdiskAddr (image + roffset) rsize
          (.success, ⟨writeField memory bp .ramdiskStart ramdiskAddr, ledger⟩)

/-- `setup_size`: the setup sectors and the boot sector, counted in a `UINT8`. -/
def setupSize (memory : Bytes) (image : Nat) : UInt32 :=
  let setupSectors : UInt8 := (readField memory (bootParamsOf memory image) .setupSecs).toUInt8 + 1
  setupSectors.toUInt32 * 512

/-- `ksize`: the image's kernel section less the setup, a `UINT32` difference. -/
def kernelCopySize (memory : Bytes) (image : Nat) : UInt32 :=
  (bootImgHdr (imageView memory image)).kernelSize - setupSize memory image

/-- `handover_kernel`. -/
def handoverKernel (config : BuildConfig) (firmware : Firmware) (machine : Machine) (image : Nat) :
    StartResult :=
  let aospHeader := bootImgHdr (imageView machine.memory image)
  let buf := bootParamsOf machine.memory image
  let koffset := aospHeader.pageSize.toNat
  let setupSize := setupSize machine.memory image
  let ksize := kernelCopySize machine.memory image
  let prefAddress := readField machine.memory buf .prefAddress
  let initSize := readField machine.memory buf .initSize
  let memory := memset (writeField machine.memory buf .loaderId 1) buf screenInfoSize 0
  let placed :=
    match allocatePages firmware machine.ledger (.address prefAddress) (efiSizeToPages initSize) with
    | some placed => some placed
    | none => emalloc firmware machine.ledger initSize (readField memory buf .kernelAlignment)
  match placed with
  | none => .returned .outOfResources ⟨memory, machine.ledger⟩
  | some (kernelStart, ledger) =>
      let memory := memcpy memory kernelStart (image + koffset + setupSize.toNat) ksize.toNat
      match allocatePages firmware ledger (.maxAddress 0x3fffffff) (efiSizeToPages 16384) with
      | none => .returned .outOfResources ⟨memory, efree ledger kernelStart ksize.toNat⟩
      | some (bootAddr, ledger) =>
          let memory := memcpy (memset memory bootAddr 16384 0) bootAddr buf 1024
          let memory := writeField memory bootAddr .code32Start kernelStart
          let entry := (kernelStart + (if config.lp64 then 512 else 0) +
            readField memory bootAddr .handoverOffset) % 2 ^ config.intnBits
          .jumped ⟨memory, ledger⟩ bootAddr entry

/-- The checks `android_image_start_buffer` makes before it changes anything. -/
def startBufferChecks (config : BuildConfig) (memory : Bytes) (image : Nat) : Option EfiStatus :=
  let buf := bootParamsOf memory image
  let handoverFlag := if config.lp64 then xlfEfiHandover64 else xlfEfiHandover32
  if image = 0 then some .invalidParameter
  else if !hasBootMagic (imageView memory image) then some .invalidParameter
  else if readField memory buf .signature ≠ 0xAA55 then some .invalidParameter
  else if readField memory buf .header ≠ setupHdr then some .invalidParameter
  else if readField memory buf .version < 0x20c then some .invalidParameter
  else if readField memory buf .xloadflags &&& handoverFlag = 0 then some .invalidParameter
  else if readField memory buf .relocatableKernel = 0 then some .invalidParameter
  else none

/-- `strlena`, searching at most `bound` bytes. -/
def strlena (memory : Bytes) (address : Nat) : Nat → Nat
  | 0 => 0
  | bound + 1 => if memory address = 0 then 0 else strlena memory (address + 1) bound + 1

/-- `out_cmdline` releases the line by the count `strlena` gives plus one. -/
def releaseCommandLine (machine : Machine) (buf : Nat) : Machine :=
  let cmdLinePtr := readField machine.memory buf .cmdLinePtr
  ⟨writeField machine.memory buf .cmdLinePtr 0,
    freePages machine.ledger cmdLinePtr (strlena machine.memory cmdLinePtr (2 ^ 32) + 1)⟩

/-- After `handover_kernel` returns, the ramdisk is released. -/
def releaseRamdisk (machine : Machine) (buf : Nat) : Machine :=
  let ramdiskStart := readField machine.memory buf .ramdiskStart
  let ramdiskLen := readField machine.memory buf .ramdiskLen
  ⟨writeField (writeField machine.memory buf .ramdiskStart 0) buf .ramdiskLen 0,
    efree machine.ledger ramdiskStart ramdiskLen⟩

/-- `android_image_start_buffer`. -/
def androidImageStartBuffer (firmware : Firmware) (platform : Platform) (machine : Machine)
    (vars : VarStore) (image : Nat) (bootTarget : BootTarget) (bootState : BootState)
    (swapGuid : Option Str16) : StartResult × VarStore :=
  match startBufferChecks platform.config machine.memory image with
  | some status => (.returned status machine, vars)
  | none =>
      let buf := bootParamsOf machine.memory image
      let commandLine := setupCommandLine firmware platform machine vars image bootTarget swapGuid
        bootState
      if commandLine.status ≠ .success then
        (.returned commandLine.status commandLine.machine, commandLine.vars)
      else
        let (status, machine) := setupRamdisk firmware commandLine.machine image
        if status ≠ .success then
          (.returned status (releaseCommandLine machine buf), commandLine.vars)
        else
          match handoverKernel platform.config firmware machine image with
          | .jumped machine bootParams entry => (.jumped machine bootParams entry, commandLine.vars)
          | .returned status machine =>
              (.returned status (releaseCommandLine (releaseRamdisk machine buf) buf),
                commandLine.vars)

/-- The `UINT8` sector count wraps: 255 sectors give a `setup_size` of 0. -/
theorem setupSize_of_setupSecs_max (memory : Bytes) (image : Nat)
    (wraps : readField memory (bootParamsOf memory image) .setupSecs = 255) :
    setupSize memory image = 0 ∧
      kernelCopySize memory image = (bootImgHdr (imageView memory image)).kernelSize := by
  have zero : setupSize memory image = 0 := by
    simp only [setupSize, wraps]
    decide
  refine ⟨zero, ?_⟩
  rw [kernelCopySize, zero]
  exact UInt32.eq_of_val_eq (by simp [UInt32.sub_def])

/-- A header with `page_size` 0 that passes every check of a 64-bit build. -/
def checkedHeader : List (Nat × UInt8) :=
  [(0, 65), (1, 78), (2, 68), (3, 82), (4, 79), (5, 73), (6, 68), (7, 33), (16, 1),
    (0x1fe, 0x55), (0x1ff, 0xAA), (0x202, 0x48), (0x203, 0x64), (0x204, 0x72), (0x205, 0x53),
    (0x206, 0x0c), (0x207, 0x02), (0x234, 1), (0x236, 8)]

/-- The bytes of `table` placed from `address` on, zero elsewhere. -/
def placeBytes (address : Nat) (table : List (Nat × UInt8)) : Bytes := fun i =>
  ((table.find? fun entry => entry.1 + address = i).elim 0 (·.2))

/-- The checked image at 0x1000 with `setup_secs` 255. -/
def maxSetupSecs : Bytes := placeBytes 0x1000 ((0x1f1, 255) :: checkedHeader)

theorem setupSize_of_setupSecs_max_example :
    startBufferChecks ⟨false, true, false, false, false, true⟩ maxSetupSecs 0x1000 = none ∧
      readField maxSetupSecs (bootParamsOf maxSetupSecs 0x1000) .setupSecs = 255 ∧
      setupSize maxSetupSecs 0x1000 = 0 ∧
      kernelCopySize maxSetupSecs 0x1000 = (bootImgHdr (imageView maxSetupSecs 0x1000)).kernelSize :=
  have wraps : readField maxSetupSecs (bootParamsOf maxSetupSecs 0x1000) .setupSecs = 255 := by decide
  ⟨by decide, wraps, setupSize_of_setupSecs_max maxSetupSecs 0x1000 wraps⟩

/-- `pagealign` rounds up to pages, and the loaders take the sections there. -/
theorem pagealign_sections (hdr : BootImgHdr) {k : Nat} (small : k ≤ 31)
    (page : hdr.pageSize.toNat = 2 ^ k) :
    let roundUp := fun size : UInt32 => (size.toNat + 2 ^ k - 1) / 2 ^ k * 2 ^ k
    (∀ x : UInt32, x.toNat + 2 ^ k - 1 < 2 ^ 32 →
      2 ^ k ∣ (pagealign hdr x).toNat ∧ x.toNat ≤ (pagealign hdr x).toNat ∧
        ∀ m, 2 ^ k ∣ m → x.toNat ≤ m → (pagealign hdr x).toNat ≤ m) ∧
    (alignedImageSize hdr < 2 ^ 32 →
      (∀ firmware machine image ramdiskAddr ledger, bootImgHdr (imageView machine.memory image) = hdr →
        hdr.ramdiskSize.toNat ≠ 0 →
        emalloc firmware machine.ledger hdr.ramdiskSize.toNat 0x1000 = some (ramdiskAddr, ledger) →
        ramdiskAddr ≤ readField machine.memory (bootParamsOf machine.memory image) .ramdiskMax →
        setupRamdisk firmware machine image =
          (.success, ⟨writeField (memcpy (writeField machine.memory (bootParamsOf machine.memory image)
            .ramdiskLen hdr.ramdiskSize.toNat) ramdiskAddr (image + (2 ^ k + roundUp hdr.kernelSize))
            hdr.ramdiskSize.toNat) (bootParamsOf machine.memory image) .ramdiskStart ramdiskAddr, ledger⟩)) ∧
      (∀ image, bootImgHdr image = hdr → hasBootMagic image = true → hdr.secondSize ≠ 0 →
        getBootimage2nd image =
          .ok (2 ^ k + roundUp hdr.kernelSize + roundUp hdr.ramdiskSize, hdr.secondSize)) ∧
      bootimageSize hdr = alignedImageSize hdr) := by
  dsimp only
  have least (x : UInt32) := roundUp_least x.toNat (Nat.two_pow_pos k)
  refine ⟨fun x fits => pagealign_toNat hdr x small page fits ▸ least x, fun total => ?_⟩
  simp only [alignedImageSize, page] at total
  have fits (size : UInt32) (inside : 2 ^ k + (size.toNat + 2 ^ k - 1) / 2 ^ k * 2 ^ k < 2 ^ 32) :
      size.toNat + 2 ^ k - 1 < 2 ^ 32 := by
    have atLeast := (least size).2.1
    generalize 2 ^ k = p at *
    omega
  have kernel := pagealign_toNat hdr _ small page (fits hdr.kernelSize (by omega))
  have ramdisk := pagealign_toNat hdr _ small page (fits hdr.ramdiskSize (by omega))
  have second := pagealign_toNat hdr _ small page (fits hdr.secondSize (by omega))
  have ramdiskOffset : (hdr.pageSize + pagealign hdr hdr.kernelSize).toNat =
      2 ^ k + (hdr.kernelSize.toNat + 2 ^ k - 1) / 2 ^ k * 2 ^ k := by
    rw [uint32_toNat_add, page, kernel, Nat.mod_eq_of_lt (by omega)]
  refine ⟨fun firmware machine image ramdiskAddr ledger header nonempty granted low => ?_,
    fun image header magic present => ?_, ?_⟩
  · have lowAfter : ¬readField (writeField machine.memory (bootParamsOf machine.memory image) .ramdiskLen
        hdr.ramdiskSize.toNat) (bootParamsOf machine.memory image) .ramdiskMax < ramdiskAddr := by
      rw [readField_writeField_of_apart _ _ _ (by decide)]
      omega
    simp only [setupRamdisk, header, ramdiskOffset, nonempty, if_false, granted, lowAfter]
  · have offset : (hdr.pageSize + pagealign hdr hdr.kernelSize + pagealign hdr hdr.ramdiskSize).toNat =
        2 ^ k + (hdr.kernelSize.toNat + 2 ^ k - 1) / 2 ^ k * 2 ^ k +
          (hdr.ramdiskSize.toNat + 2 ^ k - 1) / 2 ^ k * 2 ^ k := by
      rw [uint32_toNat_add, uint32_toNat_add, page, kernel, ramdisk]
      clear least fits ramdiskOffset
      generalize 2 ^ k = p at *
      omega
    simp only [getBootimage2nd, getBootimageHeader, magic, if_true, header, present, if_false, offset]
  · simp only [bootimageSize, alignedImageSize, uint32_toNat_add, page, kernel, ramdisk, second]
    clear least fits ramdiskOffset
    generalize 2 ^ k = p at *
    omega

/-- The sections of a boot image of 2048-byte pages. -/
theorem pagealign_sections_2048 :
    11 ≤ 31 ∧ (⟨5000, 100, 0, 2048⟩ : BootImgHdr).pageSize.toNat = 2 ^ 11 ∧
    let roundUp := fun size : UInt32 => (size.toNat + 2 ^ 11 - 1) / 2 ^ 11 * 2 ^ 11
    (∀ x : UInt32, x.toNat + 2 ^ 11 - 1 < 2 ^ 32 →
      2 ^ 11 ∣ (pagealign ⟨5000, 100, 0, 2048⟩ x).toNat ∧ x.toNat ≤ (pagealign ⟨5000, 100, 0, 2048⟩ x).toNat ∧
        ∀ m, 2 ^ 11 ∣ m → x.toNat ≤ m → (pagealign ⟨5000, 100, 0, 2048⟩ x).toNat ≤ m) ∧
    (alignedImageSize ⟨5000, 100, 0, 2048⟩ < 2 ^ 32 →
      (∀ firmware machine image ramdiskAddr ledger,
        bootImgHdr (imageView machine.memory image) = ⟨5000, 100, 0, 2048⟩ →
        (⟨5000, 100, 0, 2048⟩ : BootImgHdr).ramdiskSize.toNat ≠ 0 →
        emalloc firmware machine.ledger (⟨5000, 100, 0, 2048⟩ : BootImgHdr).ramdiskSize.toNat 0x1000 =
          some (ramdiskAddr, ledger) →
        ramdiskAddr ≤ readField machine.memory (bootParamsOf machine.memory image) .ramdiskMax →
        setupRamdisk firmware machine image =
          (.success, ⟨writeField (memcpy (writeField machine.memory (bootParamsOf machine.memory image)
            .ramdiskLen (⟨5000, 100, 0, 2048⟩ : BootImgHdr).ramdiskSize.toNat) ramdiskAddr
            (image + (2 ^ 11 + roundUp (⟨5000, 100, 0, 2048⟩ : BootImgHdr).kernelSize))
            (⟨5000, 100, 0, 2048⟩ : BootImgHdr).ramdiskSize.toNat) (bootParamsOf machine.memory image)
            .ramdiskStart ramdiskAddr, ledger⟩)) ∧
      (∀ image, bootImgHdr image = ⟨5000, 100, 0, 2048⟩ → hasBootMagic image = true →
        (⟨5000, 100, 0, 2048⟩ : BootImgHdr).secondSize ≠ 0 →
        getBootimage2nd image =
          .ok (2 ^ 11 + roundUp (⟨5000, 100, 0, 2048⟩ : BootImgHdr).kernelSize +
            roundUp (⟨5000, 100, 0, 2048⟩ : BootImgHdr).ramdiskSize,
            (⟨5000, 100, 0, 2048⟩ : BootImgHdr).secondSize)) ∧
      bootimageSize ⟨5000, 100, 0, 2048⟩ = alignedImageSize ⟨5000, 100, 0, 2048⟩) :=
  ⟨by decide, rfl, pagealign_sections _ (by decide) rfl⟩

/-- A failed `setup_ramdisk` leaves the ledger and wrote only `ramdisk_len`. -/
theorem setupRamdisk_failure {firmware : Firmware} {machine : Machine} {image : Nat}
    (failed : (setupRamdisk firmware machine image).1 ≠ .success) :
    (setupRamdisk firmware machine image).2 =
      ⟨writeField machine.memory (bootParamsOf machine.memory image) .ramdiskLen
        (bootImgHdr (imageView machine.memory image)).ramdiskSize.toNat, machine.ledger⟩ := by
  revert failed
  simp only [setupRamdisk]
  split
  · intro failed; exact absurd rfl failed
  split
  · intro _; rfl
  rename_i ramdiskAddr ledger granted
  obtain ⟨rfl, aligned, free, -⟩ := allocatePages_spec granted
  split
  · intro _; simp only [efree, freePages_markPages _ aligned free]
  · intro failed; exact absurd rfl failed

/-- `strlena` of a stored string is its length. -/
theorem strlena_of_bytesAt {memory : Bytes} {text : List UInt8} (clean : 0 ∉ text) :
    ∀ {address bound : Nat}, bytesAt memory address (text.length + 1) = text ++ [0] →
      text.length < bound → strlena memory address bound = text.length := by
  induction text with
  | nil =>
      intro address bound stored enough
      obtain ⟨bound, rfl⟩ : ∃ rest, bound = rest + 1 := ⟨bound - 1, by simp at enough; omega⟩
      simp only [List.length_nil, Nat.zero_add, bytesAt_succ, List.nil_append, List.cons.injEq] at stored
      simp [strlena, stored.1]
  | cons byte rest inductionHypothesis =>
      intro address bound stored enough
      obtain ⟨bound, rfl⟩ : ∃ rest, bound = rest + 1 := ⟨bound - 1, by simp at enough; omega⟩
      rw [List.length_cons, bytesAt_succ, List.cons_append, List.cons.injEq] at stored
      have byteClean : byte ≠ 0 := fun isNul => clean (isNul ▸ List.mem_cons_self _ _)
      rw [strlena, if_neg (stored.1 ▸ byteClean),
        inductionHypothesis (fun isMember => clean (List.mem_cons_of_mem _ isMember)) stored.2
          (by simp at enough; omega)]
      rfl

/-- A failed ramdisk after the command line leaves a different ledger. -/
theorem androidImageStartBuffer_ramdisk_failure_ledger (firmware : Firmware) (platform : Platform)
    (machine : Machine) (vars : VarStore) (image : Nat) (bootTarget : BootTarget)
    (bootState : BootState) (swapGuid : Option Str16) (live : ImageLive machine image)
    (checked : startBufferChecks platform.config machine.memory image = none)
    (commandLine : (setupCommandLine firmware platform machine vars image bootTarget swapGuid
      bootState).status = .success)
    (ramdisk : (setupRamdisk firmware (setupCommandLine firmware platform machine vars image
      bootTarget swapGuid bootState).machine image).1 ≠ .success) :
    ∃ status after, (androidImageStartBuffer firmware platform machine vars image bootTarget
        bootState swapGuid).1 = .returned status after ∧
      status ≠ .success ∧ after.ledger ≠ machine.ledger := by
  have started : (androidImageStartBuffer firmware platform machine vars image bootTarget bootState
      swapGuid).1 = .returned (setupRamdisk firmware (setupCommandLine firmware platform machine vars
        image bootTarget swapGuid bootState).machine image).1
        (releaseCommandLine (setupRamdisk firmware (setupCommandLine firmware platform machine vars
          image bootTarget swapGuid bootState).machine image).2 (bootParamsOf machine.memory image)) := by
    dsimp only [androidImageStartBuffer]
    simp only [checked, commandLine, ne_eq, not_true_eq_false, if_false, ramdisk, not_false_eq_true,
      if_true]
  refine ⟨_, _, started, ramdisk, ?_⟩
  obtain ⟨cmdlineAddr, granted, sameBootParams, pointer, bytes⟩ :=
    setupCommandLine_installs live commandLine
  obtain ⟨ledgerAfter, aligned, free, allows⟩ := allocatePages_spec granted
  obtain ⟨_, -, ascii, -⟩ := setupCommandLine_success commandLine
  have nonempty := commandLineText_strLen_pos platform vars (imageView machine.memory image)
    bootTarget swapGuid bootState
  rw [setupRamdisk_failure ramdisk]
  generalize (setupCommandLine firmware platform machine vars image bootTarget swapGuid
    bootState).machine = after at *
  generalize (commandLineText platform vars (imageView machine.memory image) bootTarget swapGuid
    bootState).1 = line at *
  rw [sameBootParams] at pointer ⊢
  have pointerKept : readField (writeField after.memory (bootParamsOf machine.memory image)
      .ramdiskLen (bootImgHdr (imageView after.memory image)).ramdiskSize.toNat)
      (bootParamsOf machine.memory image) .cmdLinePtr =
        readField after.memory (bootParamsOf machine.memory image) .cmdLinePtr :=
    readField_writeField_of_apart _ _ _ (by decide)
  have lineKept := bytesAt_writeField_of_free live aligned free .ramdiskLen (by decide)
    after.memory (bootImgHdr (imageView after.memory image)).ramdiskSize.toNat
    (efiSizeToPages_mul_ge (strLen line + 1))
  simp only [releaseCommandLine, pointerKept, pointer, ledgerAfter]
  have textLength : ((line.take (strLen line)).map UInt16.toUInt8).length = strLen line := by
    simp [Nat.min_eq_left (strLen_le line)]
  have short : strLen line < 2 ^ 32 := by
    have := efiSizeToPages_mul_ge (strLen line + 1)
    simp only [Placement.Allows] at allows
    omega
  rw [strlena_of_bytesAt (narrowed_noNul ascii) (by rw [textLength, lineKept, bytes, List.map_append]; rfl)
    (by omega), textLength]
  exact freePages_markPages_ne free (efiSizeToPages_pos (by omega)) (efiSizeToPages_lt (by omega))

/-- The checked image at 0x1000, with one free page at 0x9F000. -/
def checkedMachine : Machine := ⟨placeBytes 0x1000 checkedHeader, fun frame => frame ≠ 0x9F⟩

theorem checkedMachine_imageLive : ImageLive checkedMachine 0x1000 := by
  have origin : bootParamsOf (placeBytes 0x1000 checkedHeader) 0x1000 = 0x1000 := by decide
  refine ⟨fun offset below => ?_, fun offset below => ?_⟩ <;>
    simp only [checkedMachine, origin, bootImgHdrSize, setupHeaderEnd] at below ⊢ <;>
    exact decide_eq_true (by omega)

set_option maxRecDepth 8192 in
/-- The line takes the free page and the ramdisk then fails. -/
theorem androidImageStartBuffer_ramdisk_failure_checked :
    ImageLive checkedMachine 0x1000 ∧
      startBufferChecks plainPlatform.config checkedMachine.memory 0x1000 = none ∧
      (setupCommandLine lowPageFirmware plainPlatform checkedMachine
        (fun _ => none) 0x1000 .normalBoot none .green).status = .success ∧
      (setupRamdisk lowPageFirmware (setupCommandLine
        lowPageFirmware plainPlatform checkedMachine (fun _ => none) 0x1000
        .normalBoot none .green).machine 0x1000).1 ≠ .success ∧
      ∃ status after, (androidImageStartBuffer lowPageFirmware plainPlatform
          checkedMachine (fun _ => none) 0x1000 .normalBoot .green none).1 = .returned status after ∧
        status ≠ .success ∧ after.ledger ≠ checkedMachine.ledger := by
  have checks : startBufferChecks plainPlatform.config checkedMachine.memory 0x1000 = none := by decide
  have commandLine : (setupCommandLine lowPageFirmware plainPlatform
      checkedMachine (fun _ => none) 0x1000 .normalBoot none .green).status = .success := by rfl
  have ramdisk : (setupRamdisk lowPageFirmware (setupCommandLine
      lowPageFirmware plainPlatform checkedMachine (fun _ => none) 0x1000
      .normalBoot none .green).machine 0x1000).1 = .outOfResources := by rfl
  have refused : (setupRamdisk lowPageFirmware (setupCommandLine
      lowPageFirmware plainPlatform checkedMachine (fun _ => none) 0x1000
      .normalBoot none .green).machine 0x1000).1 ≠ .success := by rw [ramdisk]; decide
  exact ⟨checkedMachine_imageLive, checks, commandLine, refused,
    androidImageStartBuffer_ramdisk_failure_ledger lowPageFirmware plainPlatform checkedMachine
      (fun _ => none) 0x1000 .normalBoot
      .green none checkedMachine_imageLive checks commandLine refused⟩

end Kernelflinger.Handover
