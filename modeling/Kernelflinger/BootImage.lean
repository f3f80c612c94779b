import Kernelflinger.Memory

/-
The Android boot image: its header, the section arithmetic of `pagealign` and
`bootimage_size`, and the two loaders that bring an image into a pool buffer.
-/

namespace Kernelflinger.BootImage

open Memory

/-- `BOOT_MAGIC`. -/
def bootMagic : Str8 := lit8 "ANDROID!"

/-- `BOOT_MAGIC_SIZE`. -/
def bootMagicSize : Nat := 8

/-- `sizeof(struct boot_img_hdr)` of the version-0 layout, from the spec. -/
def bootImgHdrSize : Nat := 1632

/-- `BOOT_ARGS_SIZE`. -/
def bootArgsSize : Nat := 512

/-- `BOOT_EXTRA_ARGS_SIZE`. -/
def bootExtraArgsSize : Nat := 1024

/-- The offset of `cmdline` in the header. -/
def cmdlineOffset : Nat := 64

/-- The offset of `extra_cmdline` in the header. -/
def extraCmdlineOffset : Nat := 608

/-- The fields of `struct boot_img_hdr` that place the sections. -/
structure BootImgHdr where
  kernelSize : UInt32
  ramdiskSize : UInt32
  secondSize : UInt32
  pageSize : UInt32
  deriving DecidableEq, Repr

/-- The header at the first byte of an image. -/
def bootImgHdr (image : Bytes) : BootImgHdr where
  kernelSize := (readLE image 8 4).toUInt32
  ramdiskSize := (readLE image 16 4).toUInt32
  secondSize := (readLE image 24 4).toUInt32
  pageSize := (readLE image 36 4).toUInt32

/-- `strncmpa(BOOT_MAGIC, hdr->magic, BOOT_MAGIC_SIZE)` is zero. -/
def hasBootMagic (image : Bytes) : Bool :=
  strncmpa bootMagic (bytesAt image 0 bootMagicSize) bootMagicSize = 0

/-- `pagealign`. -/
def pagealign (hdr : BootImgHdr) (blobSize : UInt32) : UInt32 :=
  let pageMask := hdr.pageSize - 1
  (blobSize + pageMask) &&& ~~~pageMask

/-- `bootimage_size`: a `UINT32` sum, widened to `UINTN` when it is returned. -/
def bootimageSize (hdr : BootImgHdr) : Nat :=
  (pagealign hdr hdr.kernelSize + pagealign hdr hdr.ramdiskSize + pagealign hdr hdr.secondSize +
    hdr.pageSize).toNat

/-- `get_bootimage_header`: the header, when the image starts with the magic. -/
def getBootimageHeader (image : Bytes) : Option BootImgHdr :=
  if hasBootMagic image then some (bootImgHdr image) else none

/-- `get_bootimage_2nd`: offset and size of the second-stage section. -/
def getBootimage2nd (image : Bytes) : Except EfiStatus (Nat × UInt32) :=
  match getBootimageHeader image with
  | none => .error .invalidParameter
  | some bh =>
      if bh.secondSize = 0 then .error .notFound
      else .ok ((bh.pageSize + pagealign bh bh.kernelSize + pagealign bh bh.ramdiskSize).toNat,
        bh.secondSize)

/-- The image size the spec describes, over unbounded integers. -/
def alignedImageSize (hdr : BootImgHdr) : Nat :=
  let page := hdr.pageSize.toNat
  let roundUp (size : UInt32) := (size.toNat + page - 1) / page * page
  page + roundUp hdr.kernelSize + roundUp hdr.ramdiskSize + roundUp hdr.secondSize

/-- Clearing the low `k` bits rounds down to a multiple of `2 ^ k`. -/
theorem land_highBits {y k : Nat} (fits : y < 2 ^ 32) (low : k ≤ 32) :
    y &&& (2 ^ 32 - 1 - (2 ^ k - 1)) = y / 2 ^ k * 2 ^ k := by
  have mask : 2 ^ 32 - 1 - (2 ^ k - 1) = (2 ^ (32 - k) - 1) <<< k := by
    have split : 2 ^ 32 = 2 ^ (32 - k) * 2 ^ k := by rw [← Nat.pow_add, Nat.sub_add_cancel low]
    have pos : 0 < 2 ^ k := Nat.two_pow_pos k
    rw [Nat.shiftLeft_eq, Nat.sub_one_mul, ← split]
    omega
  rw [mask, ← Nat.shiftRight_eq_div_pow, ← Nat.shiftLeft_eq]
  apply Nat.eq_of_testBit_eq
  intro i
  simp only [Nat.testBit_and, Nat.testBit_shiftLeft, Nat.testBit_two_pow_sub_one,
    Nat.testBit_shiftRight]
  by_cases above : k ≤ i
  · by_cases inside : i < 32
    · simp [above, show i - k < 32 - k by omega, Nat.add_sub_cancel' above]
    · have high : y.testBit i = false :=
        Nat.testBit_lt_two_pow (Nat.lt_of_lt_of_le fits (Nat.pow_le_pow_right (by decide) (by omega)))
      simp [above, show ¬ i - k < 32 - k by omega, high]
  · simp [above]

/-- `(x + p - 1) / p * p` is the least multiple of `p` that is at least `x`. -/
theorem roundUp_least (x : Nat) {p : Nat} (pos : 0 < p) :
    p ∣ (x + p - 1) / p * p ∧ x ≤ (x + p - 1) / p * p ∧
      ∀ m, p ∣ m → x ≤ m → (x + p - 1) / p * p ≤ m := by
  have split := Nat.mod_add_div' (x + p - 1) p
  have below := Nat.mod_lt (x + p - 1) pos
  refine ⟨Nat.dvd_mul_left _ _, by omega, ?_⟩
  rintro _ ⟨j, rfl⟩ atLeast
  rw [Nat.mul_comm p j]
  apply Nat.mul_le_mul_right
  rw [← Nat.lt_succ_iff, Nat.div_lt_iff_lt_mul pos, Nat.succ_mul]
  rw [Nat.mul_comm] at atLeast
  omega

/-- With `2 ^ k`-byte pages and no carry, `pagealign` rounds up to a page. -/
theorem pagealign_toNat (hdr : BootImgHdr) (x : UInt32) {k : Nat} (small : k ≤ 31)
    (page : hdr.pageSize.toNat = 2 ^ k) (fits : x.toNat + 2 ^ k - 1 < 2 ^ 32) :
    (pagealign hdr x).toNat = (x.toNat + 2 ^ k - 1) / 2 ^ k * 2 ^ k := by
  have pos : 1 ≤ 2 ^ k := Nat.one_le_two_pow
  have mask : (hdr.pageSize - 1).toNat = 2 ^ k - 1 := by
    rw [UInt32.toNat_sub_of_le _ _ (show (1 : UInt32).toNat ≤ hdr.pageSize.toNat by
      rw [page]; exact pos), page]
    rfl
  have sum : (x + (hdr.pageSize - 1)).toNat = x.toNat + 2 ^ k - 1 := by
    show (x.toNat + (hdr.pageSize - 1).toNat) % 2 ^ 32 = _
    rw [mask, Nat.mod_eq_of_lt (by omega)]
    omega
  have notMask : (~~~(hdr.pageSize - 1)).toNat = 2 ^ 32 - 1 - (hdr.pageSize - 1).toNat :=
    BitVec.toNat_not
  unfold pagealign
  rw [UInt32.and_toNat, notMask, sum, mask]
  exact land_highBits fits (by omega)

/-- A field of `struct boot_params`: its offset and its width in bytes. -/
structure Field where
  offset : Nat
  width : Nat
  deriving DecidableEq, Repr

/-- `hdr.setup_secs`. -/
def Field.setupSecs : Field := ⟨0x1f1, 1⟩
/-- `hdr.signature`. -/
def Field.signature : Field := ⟨0x1fe, 2⟩
/-- `hdr.header`. -/
def Field.header : Field := ⟨0x202, 4⟩
/-- `hdr.version`. -/
def Field.version : Field := ⟨0x206, 2⟩
/-- `hdr.loader_id`. -/
def Field.loaderId : Field := ⟨0x210, 1⟩
/-- `hdr.code32_start`. -/
def Field.code32Start : Field := ⟨0x214, 4⟩
/-- `hdr.ramdisk_start`. -/
def Field.ramdiskStart : Field := ⟨0x218, 4⟩
/-- `hdr.ramdisk_len`. -/
def Field.ramdiskLen : Field := ⟨0x21c, 4⟩
/-- `hdr.cmd_line_ptr`. -/
def Field.cmdLinePtr : Field := ⟨0x228, 4⟩
/-- `hdr.ramdisk_max`. -/
def Field.ramdiskMax : Field := ⟨0x22c, 4⟩
/-- `hdr.kernel_alignment`. -/
def Field.kernelAlignment : Field := ⟨0x230, 4⟩
/-- `hdr.relocatable_kernel`. -/
def Field.relocatableKernel : Field := ⟨0x234, 1⟩
/-- `hdr.xloadflags`. -/
def Field.xloadflags : Field := ⟨0x236, 2⟩
/-- `hdr.pref_address`. -/
def Field.prefAddress : Field := ⟨0x258, 8⟩
/-- `hdr.init_size`. -/
def Field.initSize : Field := ⟨0x260, 4⟩
/-- `hdr.handover_offset`. -/
def Field.handoverOffset : Field := ⟨0x264, 4⟩

/-- `struct setup_header`, from `setup_secs` to `handover_offset`. -/
def setupHeaderStart : Nat := 0x1f1

/-- The end of `struct setup_header` in `struct boot_params`. -/
def setupHeaderEnd : Nat := 0x268

/-- `sizeof(struct screen_info)`, the first bytes of `struct boot_params`. -/
def screenInfoSize : Nat := 0x40

/-- A field of the `struct boot_params` at `bootParams`. -/
def readField (memory : Bytes) (bootParams : Nat) (field : Field) : Nat :=
  readLE memory (bootParams + field.offset) field.width

/-- A store to a field of the `struct boot_params` at `bootParams`. -/
def writeField (memory : Bytes) (bootParams : Nat) (field : Field) (value : Nat) : Bytes :=
  writeLE memory (bootParams + field.offset) value field.width

/-- The image read from its first byte. -/
def imageView (memory : Bytes) (image : Nat) : Bytes := fun offset => memory (image + offset)

/-- `buf`, the `struct boot_params` one page into the image. -/
def bootParamsOf (memory : Bytes) (image : Nat) : Nat :=
  image + (bootImgHdr (imageView memory image)).pageSize.toNat

theorem readField_writeField (memory : Bytes) (bootParams : Nat) (field : Field) (value : Nat) :
    readField (writeField memory bootParams field value) bootParams field = value % 256 ^ field.width :=
  readLE_writeLE memory _ value field.width

/-- A store to one field leaves a field it does not overlap. -/
theorem readField_writeField_of_apart (memory : Bytes) (bootParams : Nat) {field other : Field}
    (value : Nat) (apart : field.offset + field.width ≤ other.offset ∨
      other.offset + other.width ≤ field.offset) :
    readField (writeField memory bootParams other value) bootParams field =
      readField memory bootParams field :=
  readLE_overwrite_of_outside _ _ fun _ _ => by omega

/-- The header is read from the image's first 40 bytes. -/
theorem bootImgHdr_congr {image other : Bytes} (same : ∀ offset < 40, image offset = other offset) :
    bootImgHdr image = bootImgHdr other := by
  have field : ∀ start, start + 4 ≤ 40 → readLE image start 4 = readLE other start 4 :=
    fun start inside => readLE_congr 4 fun offset _ => same _ (by omega)
  simp only [bootImgHdr, field 8 (by decide), field 16 (by decide), field 24 (by decide),
    field 36 (by decide)]

theorem bootParamsOf_congr {memory other : Bytes} {image : Nat}
    (same : ∀ offset < 40, memory (image + offset) = other (image + offset)) :
    bootParamsOf memory image = bootParamsOf other image := by
  have header : bootImgHdr (imageView memory image) = bootImgHdr (imageView other image) :=
    bootImgHdr_congr same
  rw [bootParamsOf, bootParamsOf, header]

/-- `buf` moves only when the image's `page_size` is overwritten. -/
theorem bootParamsOf_overwrite_of_outside (memory : Bytes) (bytes : Nat → UInt8)
    {image address count : Nat}
    (outside : ∀ offset < 40, image + offset < address ∨ address + count ≤ image + offset) :
    bootParamsOf (overwrite memory address count bytes) image = bootParamsOf memory image :=
  bootParamsOf_congr fun offset below => overwrite_outside memory bytes (outside offset below)

/-- What the disk holds and the firmware answers for `android_image_load_partition`. -/
structure BootPartition where
  /-- What `gpt_get_partition_by_label` returns. -/
  lookup : Except EfiStatus Unit
  /-- The disk from the partition's first byte to the disk's end. -/
  disk : List UInt8
  /-- Whether `AllocatePool` grants the image buffer. -/
  poolOk : Bool

/-- `ReadDisk` of `count` bytes from the start; past the end is refused. -/
def readDisk (disk : List UInt8) (count : Nat) : Except EfiStatus (List UInt8) :=
  if count ≤ disk.length then .ok (disk.take count) else .error .invalidParameter

/-- `android_image_load_partition` with `BOOT_SIGNATURE_MAX_SIZE` as a parameter. -/
def androidImageLoadPartition (bootSignatureMaxSize : Nat) (partition : BootPartition) :
    Except EfiStatus (List UInt8) :=
  match partition.lookup with
  | .error status => .error status
  | .ok () =>
      match readDisk partition.disk bootImgHdrSize with
      | .error status => .error status
      | .ok header =>
          if !hasBootMagic (listBytes header) then .error .invalidParameter
          else
            let imgSize :=
              (bootimageSize (bootImgHdr (listBytes header)) + bootSignatureMaxSize) % 2 ^ 32
            if !partition.poolOk then .error .outOfResources
            else readDisk partition.disk imgSize

/-- Four little-endian bytes of a `UINT32` field. -/
def le32 (value : Nat) : List UInt8 := (List.range 4).map (byteOf value)

/-- A header whose kernel section rounds up to 2^32 bytes in 2048-byte pages. -/
def wrappingHeader : List UInt8 :=
  bootMagic ++ le32 0xFFFFF801 ++ List.replicate 24 0 ++ le32 2048 ++ List.replicate 1592 0

/-- A wrapping header gets a buffer shorter than the image it describes. -/
theorem androidImageLoadPartition_wraps (bootSignatureMaxSize : Nat) :
    ∃ buffer, androidImageLoadPartition bootSignatureMaxSize
        ⟨.ok (), wrappingHeader ++ List.replicate ((2048 + bootSignatureMaxSize) % 2 ^ 32) 0, true⟩ =
          .ok buffer ∧
      hasBootMagic (listBytes wrappingHeader) ∧
      buffer.length < alignedImageSize (bootImgHdr (listBytes wrappingHeader)) := by
  have magicLength : bootMagic.length = 8 := by decide
  have headerLength : wrappingHeader.length = bootImgHdrSize := by
    simp only [wrappingHeader, List.length_append, List.length_replicate, le32, List.length_map,
      List.length_range, magicLength, bootImgHdrSize]
  have magic : hasBootMagic (listBytes wrappingHeader) = true := by decide
  have size : bootimageSize (bootImgHdr (listBytes wrappingHeader)) = 2048 := by decide
  have required : alignedImageSize (bootImgHdr (listBytes wrappingHeader)) = 2048 + 2 ^ 32 := by
    decide
  generalize imgSize : (2048 + bootSignatureMaxSize) % 2 ^ 32 = count
  have bounded : count < 2 ^ 32 := imgSize ▸ Nat.mod_lt _ (by decide)
  have fits : count ≤ (wrappingHeader ++ List.replicate count 0).length := by simp
  refine ⟨(wrappingHeader ++ List.replicate count 0).take count, ?_, magic, ?_⟩
  · have headerRead : readDisk (wrappingHeader ++ List.replicate count 0) bootImgHdrSize =
        .ok wrappingHeader := by
      rw [readDisk, if_pos (by simp [headerLength]), List.take_left' headerLength]
    simp only [androidImageLoadPartition, headerRead, magic, size, Bool.not_true, imgSize]
    rw [if_neg Bool.false_ne_true, if_neg Bool.false_ne_true, readDisk, if_pos fits]
  · rw [List.length_take_of_le fits, required]
    omega

/-- What `Read` answers for the image file. -/
inductive FileRead where
  /-- The bytes are read. -/
  | copies
  /-- `EFI_BUFFER_TOO_SMALL` with the size asked for, then the second read. -/
  | tooSmall (needed : Nat) (second : Except EfiStatus Unit)
  /-- An error. -/
  | fails (status : EfiStatus)

/-- What the file system and the pool answer for `android_image_load_file`. -/
structure EspFile where
  /-- Whether `FileDevicePath` builds a path. -/
  devicePath : Bool
  /-- `HandleProtocol`, then `OpenVolume`. -/
  volume : Except EfiStatus Unit
  /-- `root->Open`. -/
  opened : Except EfiStatus Unit
  /-- Whether `AllocatePool` grants the file information. -/
  infoPoolOk : Bool
  /-- `GetInfo`, after its retry with the size it asks for. -/
  info : Except EfiStatus Unit
  /-- The file; `FileSize` is its length. -/
  contents : List UInt8
  /-- Whether `AllocatePool` grants the image buffer. -/
  bufferPoolOk : Bool
  /-- What `Read` answers. -/
  read : FileRead
  /-- What the pool held where the buffer is placed. -/
  stale : Bytes

/-- A pool buffer whose first bytes were read and the rest left stale. -/
def filledPool (size : Nat) (stale : Bytes) (data : List UInt8) : List UInt8 :=
  (List.range size).map fun i => data.getD i (stale i)

/-- The read of `android_image_load_file`; the unchecked reallocation is granted. -/
def readImageFile (intnBits bootSignatureMaxSize : Nat) (file : EspFile) :
    Except EfiStatus (List UInt8) :=
  let bufferSize := file.contents.length % 2 ^ intnBits
  if !file.bufferPoolOk then .error .outOfResources
  else
    match file.read with
    | .copies =>
        .ok (filledPool ((bufferSize + bootSignatureMaxSize) % 2 ^ intnBits) file.stale
          (file.contents.take bufferSize))
    | .tooSmall needed (.ok ()) => .ok (filledPool needed file.stale (file.contents.take needed))
    | .tooSmall _ (.error status) => .error status
    | .fails status => .error status

/-- What `android_image_load_file` returns, and whether it deleted the file. -/
structure LoadedFile where
  result : Except EfiStatus (List UInt8)
  deleted : Bool

/-- `android_image_load_file`, which deletes or closes the file it opened. -/
def androidImageLoadFile (intnBits bootSignatureMaxSize : Nat) (file : EspFile) (delete : Bool) :
    LoadedFile :=
  if !file.devicePath then ⟨.error .invalidParameter, false⟩
  else
    match file.volume, file.opened with
    | .error status, _ => ⟨.error status, false⟩
    | .ok (), .error status => ⟨.error status, false⟩
    | .ok (), .ok () =>
        if !file.infoPoolOk then ⟨.error .outOfResources, false⟩
        else
          let result : Except EfiStatus (List UInt8) :=
            match file.info with
            | .error status => .error status
            | .ok () =>
                match readImageFile intnBits bootSignatureMaxSize file with
                | .error status => .error status
                | .ok buffer =>
                    if !hasBootMagic (listBytes buffer) then .error .invalidParameter else .ok buffer
          ⟨result, delete⟩

/-- The file loader sizes its buffer from the file, never from the header. -/
theorem androidImageLoadFile_length {intnBits bootSignatureMaxSize : Nat} {file : EspFile}
    {delete : Bool} {buffer : List UInt8}
    (loaded : (androidImageLoadFile intnBits bootSignatureMaxSize file delete).result = .ok buffer) :
    hasBootMagic (listBytes buffer) ∧
      (file.read = .copies ∧
          buffer.length = (file.contents.length % 2 ^ intnBits + bootSignatureMaxSize) % 2 ^ intnBits ∨
        ∃ needed, file.read = .tooSmall needed (.ok ()) ∧ buffer.length = needed) := by
  unfold androidImageLoadFile at loaded
  split at loaded
  · cases loaded
  split at loaded
  · cases loaded
  · cases loaded
  split at loaded
  · cases loaded
  simp only at loaded
  split at loaded
  · cases loaded
  split at loaded
  · cases loaded
  rename_i read filled
  split at loaded
  · cases loaded
  rename_i magic
  cases loaded
  refine ⟨by simpa using magic, ?_⟩
  unfold readImageFile at filled
  split at filled
  · cases filled
  split at filled <;> cases filled
  · exact .inl ⟨‹_›, by simp [filledPool]⟩
  · exact .inr ⟨_, ‹_›, by simp [filledPool]⟩

end Kernelflinger.BootImage
