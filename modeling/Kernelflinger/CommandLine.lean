import Kernelflinger.BootImage

/-
`setup_command_line`: the kernel command line the loader builds from the image, the debug
variables and what it reads of the platform, and the pages below 0xA0000 it installs it in.
-/

namespace Kernelflinger.CommandLine

open Memory BootImage

/-- `prepend_command_line` with `"%s %s"` applied. -/
def prependCommandLine (text line : Str16) : Str16 := text ++ lit " " ++ line

/-- A code unit `get_serial_port` accepts: `[0-9a-zA-Z,]`. -/
def serialPortChar (c : UInt16) : Bool :=
  (48 ≤ c && c ≤ 57) || (97 ≤ c && c ≤ 122) || (65 ≤ c && c ≤ 90) || c == 44

/-- A code unit `get_boot_reason` accepts from the variable: `[0-9a-z_]`. -/
def bootReasonChar (c : UInt16) : Bool :=
  (48 ≤ c && c ≤ 57) || (97 ≤ c && c ≤ 122) || c == 95

/-- How `get_serial_port` reads its variable, as 8-bit or 16-bit text. -/
def serialPortCandidate (data : List UInt8) : Option Str16 :=
  let size := data.length
  if size < 3 then none
  else if data.getD 0 0 ≠ 0 ∧ data.getD 1 0 ≠ 0 then some (straToStr (data.set (size - 1) 0))
  else if size % 2 = 0 then some (utf16Str ((data.set (size - 1) 0).set (size - 2) 0))
  else none

/-- `get_serial_port`: the reading if it is in `[0-9a-zA-Z,]`, else `"tty0"`. -/
def getSerialPort (vars : VarStore) : Str16 :=
  match (vars .serialPort).bind serialPortCandidate with
  | some val => if val.all serialPortChar then val else lit "tty0"
  | none => lit "tty0"

/-- `get_wake_reason`. -/
def getWakeReason : WakeSource → Option Str16
  | .batteryInserted => some (lit "battery_inserted")
  | .usbChargerInserted => some (lit "usb_charger_inserted")
  | .acdcChargerInserted => some (lit "acdc_charger_inserted")
  | .powerButtonPressed => some (lit "power_button_pressed")
  | .rtcTimer => some (lit "rtc_timer")
  | .batteryReachedIaThreshold => some (lit "battery_reached_ia_threshold")
  | .other _ => none

/-- `get_reset_reason`. -/
def getResetReason : ResetSource → Option Str16
  | .kernelWatchdog => some (lit "watchdog")
  | .securityWatchdog => some (lit "security_watchdog")
  | .pmcWatchdog => some (lit "pmc_watchdog")
  | .ecWatchdog => some (lit "ec_watchdog")
  | .platformWatchdog => some (lit "platform_watchdog")
  | .securityInitiated => some (lit "security_initiated")
  | .other _ => none

/-- `get_boot_reason`; the reboot-reason variable is deleted on every path. -/
def getBootReason (wake : WakeSource) (reset : ResetSource) (vars : VarStore) : Str16 × VarStore :=
  let reason :=
    match getWakeReason wake, getResetReason reset with
    | some reason, _ => reason
    | none, some reason => reason
    | none, none =>
        match getEfiVariableStr vars .loaderEntryRebootReason with
        | none => lit "unknown"
        | some text => if text.all bootReasonChar then text else lit "unknown"
  (reason, vars.delete .loaderEntryRebootReason)

/-- `full_cmdline` read by `stra_to_str`, running on into `frame` without a NUL. -/
def imageCommandLine (image : Bytes) (frame : List UInt8) : Str16 :=
  let cmdline := bytesAt image cmdlineOffset (bootArgsSize - 1)
  if image (cmdlineOffset + bootArgsSize - 2) ≠ 0 then
    straToStr (cmdline ++ bytesAt image extraCmdlineOffset bootExtraArgsSize ++ frame)
  else straToStr (cmdline ++ frame)

/-- The debug variables `get_command_line` reads, outside `USER` builds. -/
def debugCommandLineVar (config : BuildConfig) (vars : VarStore) (bootTarget : BootTarget)
    (name : EfiVar) : Option Str16 :=
  if !config.user && decide (bootTarget = .normalBoot) then getEfiVariableStr8 vars name else none

/-- `get_command_line` with the replace, prepend and append variables. -/
def getCommandLine (config : BuildConfig) (vars : VarStore) (image : Bytes) (frame : List UInt8)
    (bootTarget : BootTarget) : Str16 :=
  let debugVar := debugCommandLineVar config vars bootTarget
  let line := (debugVar .replaceCmdline).getD (imageCommandLine image frame)
  let line :=
    match debugVar .prependCmdline with
    | some text => prependCommandLine text line
    | none => line
  match debugVar .appendCmdline with
  | some text => prependCommandLine line text
  | none => line

/-- The command line of the Android boot image. -/
def androidCommandLine (image : Bytes) : Str16 :=
  let cmdline := bytesAt image cmdlineOffset (bootArgsSize - 1)
  if 0 ∈ cmdline then straToStr cmdline
  else cmdline.map UInt8.toUInt16 ++ straToStr (bytesAt image extraCmdlineOffset bootExtraArgsSize)

theorem androidCommandLine_eq (image : Bytes) :
    androidCommandLine image = straToStr (bytesAt image cmdlineOffset (bootArgsSize - 1) ++
      bytesAt image extraCmdlineOffset bootExtraArgsSize) := by
  rw [androidCommandLine, straToStr_append]
  split
  · rfl
  · rename_i clean
    rw [straToStr_of_noNul clean]

/-- `full_cmdline` is the Android line, then stack bytes when it has no NUL. -/
theorem imageCommandLine_eq (image : Bytes) (frame : List UInt8) :
    imageCommandLine image frame = androidCommandLine image ++
      if 0 ∈ bytesAt image cmdlineOffset (bootArgsSize - 1) ++
          bytesAt image extraCmdlineOffset bootExtraArgsSize then []
      else straToStr frame := by
  rw [imageCommandLine]
  split
  · rw [straToStr_append _ frame, androidCommandLine_eq]
    split <;> simp
  · rename_i last
    have nul : 0 ∈ bytesAt image cmdlineOffset (bootArgsSize - 1) :=
      List.mem_map.mpr ⟨bootArgsSize - 2, List.mem_range.mpr (by decide), not_not.mp last⟩
    rw [straToStr_append, if_pos nul, androidCommandLine, if_pos nul,
      if_pos (List.mem_append_left _ nul), List.append_nil]

/-- Without overrides `get_command_line` is the image's own line. -/
theorem getCommandLine_of_noOverride (config : BuildConfig) (vars : VarStore) (image : Bytes)
    (frame : List UInt8) (bootTarget : BootTarget)
    (noOverride : ∀ name ∈ [EfiVar.replaceCmdline, .prependCmdline, .appendCmdline],
      debugCommandLineVar config vars bootTarget name = none) :
    getCommandLine config vars image frame bootTarget = androidCommandLine image ++
      if 0 ∈ bytesAt image cmdlineOffset (bootArgsSize - 1) ++
          bytesAt image extraCmdlineOffset bootExtraArgsSize then []
      else straToStr frame := by
  have replaced := noOverride .replaceCmdline (by simp)
  have prepended := noOverride .prependCmdline (by simp)
  have appended := noOverride .appendCmdline (by simp)
  simp only [getCommandLine, replaced, prepended, appended, Option.getD_none]
  exact imageCommandLine_eq image frame

/-- A `USER` build for a 64-bit platform. -/
def userBuild : BuildConfig :=
  { user := true, userdebug := false, userfastboot := false, noDeviceUnlock := false,
    halAutodetect := false, lp64 := true }

/-- An image with no NUL in its line runs on into the stack. -/
theorem getCommandLine_unterminated :
    (∀ name ∈ [EfiVar.replaceCmdline, .prependCmdline, .appendCmdline],
        debugCommandLineVar userBuild (fun _ => none) .normalBoot name = none) ∧
      getCommandLine userBuild (fun _ => none) (fun _ => 0x41) [0x42] .normalBoot =
        androidCommandLine (fun _ => 0x41) ++ [0x42] := by
  have noOverride : ∀ name ∈ [EfiVar.replaceCmdline, .prependCmdline, .appendCmdline],
      debugCommandLineVar userBuild (fun _ => none) .normalBoot name = none := fun _ _ => rfl
  refine ⟨noOverride, ?_⟩
  rw [getCommandLine_of_noOverride _ _ _ _ _ noOverride, if_neg (by simp [bytesAt])]
  rfl

/-- `%0<width>x` of a byte: lowercase hexadecimal digits, at least `width` of them. -/
def hexByte (width : Nat) (value : UInt8) : Str16 :=
  let digit (d : Nat) : UInt16 := if d < 10 then 48 + d.toUInt16 else 87 + d.toUInt16
  if value.toNat < 16 ∧ width < 2 then [digit value.toNat]
  else [digit (value.toNat / 16), digit (value.toNat % 16)]

/-- What `setup_command_line` reads of the platform besides the variables. -/
structure Platform where
  config : BuildConfig
  wakeSource : WakeSource
  resetSource : ResetSource
  /-- `get_serial_number`: the DMI serial number, if there is one. -/
  serialNumber : Option Str8
  /-- `get_boot_device`: the PCI device and function of the boot disk, if it is found. -/
  bootDevice : Option (UInt8 × UInt8)
  /-- `get_property_bootloader`. -/
  bootloader : Str8
  /-- The product properties read in `HAL_AUTODETECT` builds. -/
  halProperties : Str8 × Str8 × Str8 × Str8
  /-- The lines of the image's bootvars blob, read in `HAL_AUTODETECT` builds. -/
  bootvars : List Str8
  /-- `boot_state_to_string`, which is not under src/. -/
  bootStateToString : BootState → Str16
  /-- The stack bytes after `full_cmdline`'s copied ones. -/
  frame : List UInt8

/-- `parse_bootvars_line`: skip blanks and comments, prepend the rest. -/
def addBootvarsLine (line : Str16) (bootvar : Str8) : Str16 :=
  if bootvar.headD 0 = 0 ∨ bootvar.headD 0 = 35 then line
  else prependCommandLine (straToStr bootvar) line

/-- The `HAL_AUTODETECT` part of `setup_command_line`. -/
def halCommandLine (platform : Platform) (line : Str16) : Str16 :=
  let (brand, name, device, model) := platform.halProperties
  platform.bootvars.foldl addBootvarsLine
    (prependCommandLine (lit "androidboot.brand=" ++ straToStr brand ++ lit " androidboot.name=" ++
      straToStr name ++ lit " androidboot.device=" ++ straToStr device ++ lit " androidboot.model=" ++
      straToStr model) line)

/-- The line `setup_command_line` builds before it allocates. -/
def commandLineText (platform : Platform) (vars : VarStore) (image : Bytes)
    (bootTarget : BootTarget) (swapGuid : Option Str16) (bootState : BootState) :
    Str16 × VarStore :=
  let line := getCommandLine platform.config vars image platform.frame bootTarget
  let line :=
    match platform.serialNumber with
    | some serialno => prependCommandLine (lit "androidboot.serialno=" ++ straToStr serialno ++
        lit " g_ffs.iSerialNumber=" ++ straToStr serialno) line
    | none => line
  let line :=
    if bootTarget = .charger then prependCommandLine (lit "androidboot.mode=charger") line else line
  let (bootreason, vars) := getBootReason platform.wakeSource platform.resetSource vars
  let line := prependCommandLine (lit "androidboot.bootreason=" ++ bootreason) line
  let line := prependCommandLine
    (lit "androidboot.verifiedbootstate=" ++ cString (platform.bootStateToString bootState)) line
  let line :=
    match swapGuid with
    | some guid => prependCommandLine (lit "resume=PARTUUID=" ++ cString guid) line
    | none => line
  let line := prependCommandLine (lit "console=" ++ getSerialPort vars) line
  let line :=
    match platform.bootDevice with
    | some (device, function) => prependCommandLine
        (lit "androidboot.diskbus=" ++ hexByte 2 device ++ lit "." ++ hexByte 0 function) line
    | none => line
  let line := prependCommandLine (lit "androidboot.bootloader=" ++ straToStr platform.bootloader) line
  (if platform.config.halAutodetect then halCommandLine platform line else line, vars)

/-- `StrLen`. -/
def strLen (line : Str16) : Nat := (line.takeWhile (· ≠ 0)).length

/-- `str_to_stra` from its contract: narrowed to bytes, refused if not ASCII. -/
def strToStra (line : Str16) : Option (List UInt8) :=
  if line.all (· ≤ 0x7F) then some (line.map UInt16.toUInt8) else none

/-- A step's status, memory, page ledger and variables. -/
structure Outcome where
  status : EfiStatus
  machine : Machine
  vars : VarStore

/-- `setup_command_line` for the image at `image`. -/
def setupCommandLine (firmware : Firmware) (platform : Platform) (machine : Machine)
    (vars : VarStore) (image : Nat) (bootTarget : BootTarget) (swapGuid : Option Str16)
    (bootState : BootState) : Outcome :=
  let buf := bootParamsOf machine.memory image
  let (line, vars) := commandLineText platform vars (imageView machine.memory image) bootTarget
    swapGuid bootState
  let cmdlen := strLen line
  let pages := efiSizeToPages (cmdlen + 1)
  match allocatePages firmware machine.ledger (.maxAddress 0xA0000) pages with
  | none => ⟨.outOfResources, machine, vars⟩
  | some (cmdlineAddr, ledger) =>
      match strToStra (line.take cmdlen ++ [0]) with
      | none => ⟨.invalidParameter, ⟨machine.memory, freePages ledger cmdlineAddr pages⟩, vars⟩
      | some cmdline =>
          let memory := overwrite machine.memory cmdlineAddr (cmdlen + 1) fun i => cmdline.getD i 0
          ⟨.success, ⟨writeField memory buf .cmdLinePtr cmdlineAddr, ledger⟩, vars⟩

/-- The image's header and `struct boot_params` lie in allocated pages. -/
def ImageLive (machine : Machine) (image : Nat) : Prop :=
  Allocated machine.ledger image bootImgHdrSize ∧
    Allocated machine.ledger (bootParamsOf machine.memory image) 1024

/-- A field of a live image lies outside pages that were free. -/
theorem field_outside_free {machine : Machine} {image address pages : Nat}
    (live : ImageLive machine image) (aligned : address % 4096 = 0)
    (free : PagesIn machine.ledger false address pages) {field : Field}
    (inHeader : field.offset + field.width ≤ 1024) :
    ∀ offset < field.width,
      bootParamsOf machine.memory image + field.offset + offset < address ∨
        address + pages * 4096 ≤ bootParamsOf machine.memory image + field.offset + offset :=
  outside_of_free aligned free ((live.2.shift (by omega)).mono (by omega))

/-- A store to a field of a live image keeps what stands in free pages. -/
theorem bytesAt_writeField_of_free {machine : Machine} {image address pages : Nat}
    (live : ImageLive machine image) (aligned : address % 4096 = 0)
    (free : PagesIn machine.ledger false address pages) (field : Field)
    (inHeader : field.offset + field.width ≤ 1024) (memory : Bytes) (value : Nat)
    {count : Nat} (within : count ≤ pages * 4096) :
    bytesAt (writeField memory (bootParamsOf machine.memory image) field value) address count =
      bytesAt memory address count := by
  have apart := field_outside_free live aligned free inHeader
  refine bytesAt_overwrite_of_outside _ _ fun offset below => ?_
  by_contra overlaps
  have := apart (address + offset - (bootParamsOf machine.memory image + field.offset)) (by omega)
  omega

/-- Tokens joined by single spaces. -/
def joinTokens : List Str16 → Str16
  | [] => []
  | [token] => token
  | token :: rest => token ++ lit " " ++ joinTokens rest

/-- The tokens the spec puts ahead of the image's line. -/
def bootloaderTokens (bootloader : Str16) (diskbus : Option Str16)
    (console verifiedBootState bootReason : Str16) (charger : Bool) (serialno : Option Str16) :
    List Str16 :=
  [lit "androidboot.bootloader=" ++ bootloader] ++
    diskbus.toList.map (lit "androidboot.diskbus=" ++ ·) ++
    [lit "console=" ++ console, lit "androidboot.verifiedbootstate=" ++ verifiedBootState,
      lit "androidboot.bootreason=" ++ bootReason] ++
    (if charger then [lit "androidboot.mode=charger"] else []) ++
    serialno.toList.map fun serial =>
      lit "androidboot.serialno=" ++ serial ++ lit " g_ffs.iSerialNumber=" ++ serial

/-- Prepending tokens one after another joins them with spaces ahead of the line. -/
theorem foldr_prependCommandLine (line : Str16) :
    ∀ {tokens : List Str16}, tokens ≠ [] →
      tokens.foldr prependCommandLine line = joinTokens tokens ++ lit " " ++ line
  | [], nonempty => absurd rfl nonempty
  | [token], _ => rfl
  | token :: next :: rest, _ => by
      rw [List.foldr_cons, foldr_prependCommandLine line (List.cons_ne_nil next rest)]
      simp [prependCommandLine, joinTokens]

/-- The line built is the image's line with the spec's tokens prepended. -/
theorem commandLineText_eq (platform : Platform) (vars : VarStore) (image : Bytes)
    (bootTarget : BootTarget) (bootState : BootState)
    (noHal : platform.config.halAutodetect = false) :
    commandLineText platform vars image bootTarget none bootState =
      let (reason, after) := getBootReason platform.wakeSource platform.resetSource vars
      ((bootloaderTokens (straToStr platform.bootloader)
          (platform.bootDevice.map fun (device, function) => hexByte 2 device ++ lit "." ++ hexByte 0 function)
          (getSerialPort after) (cString (platform.bootStateToString bootState)) reason
          (decide (bootTarget = .charger)) (platform.serialNumber.map straToStr)).foldr
        prependCommandLine (getCommandLine platform.config vars image platform.frame bootTarget), after) := by
  simp only [commandLineText, noHal, bootloaderTokens]
  cases platform.serialNumber <;> cases platform.bootDevice <;> by_cases charger : bootTarget = .charger <;>
    simp [charger, prependCommandLine]

theorem getSerialPort_chars (vars : VarStore) : ∀ c ∈ getSerialPort vars, serialPortChar c := by
  have fallback : ∀ c ∈ lit "tty0", serialPortChar c := by decide
  unfold getSerialPort
  split
  · split
    · exact List.all_eq_true.mp ‹_›
    · exact fallback
  · exact fallback

theorem getBootReason_chars (wake : WakeSource) (reset : ResetSource) (vars : VarStore) :
    ∀ c ∈ (getBootReason wake reset vars).1, bootReasonChar c := by
  have unknown : ∀ c ∈ lit "unknown", bootReasonChar c := by decide
  have wakeChars : (getWakeReason wake).all (·.all bootReasonChar) := by cases wake <;> rfl
  have resetChars : (getResetReason reset).all (·.all bootReasonChar) := by cases reset <;> rfl
  simp only [getBootReason]
  split
  · rename_i reason _ found
    simpa [found] using wakeChars
  · rename_i reason found
    simpa [found] using resetChars
  · split
    · exact unknown
    · split
      · exact List.all_eq_true.mp ‹_›
      · exact unknown

theorem straToStr_noNul (bytes : List UInt8) : 0 ∉ straToStr bytes := by
  simp only [straToStr, List.mem_map, not_exists, not_and]
  intro byte kept widened
  have : byte ≠ 0 := by simpa using List.mem_takeWhile_imp kept
  exact this (UInt8.toNat.inj (congrArg UInt16.toNat widened))

theorem cString_noNul (text : Str16) : 0 ∉ cString text := fun kept => by
  simpa using List.mem_takeWhile_imp kept

theorem noNul_of_chars {text : Str16} {accepted : UInt16 → Bool} (rejectsNul : accepted 0 = false)
    (chars : ∀ c ∈ text, accepted c) : 0 ∉ text := fun isMember => by
  simpa [rejectsNul] using chars 0 isMember

theorem hexByte_noNul (width : Nat) (value : UInt8) : 0 ∉ hexByte width value := by
  have digits : ∀ d < 16, (if d < 10 then 48 + d.toUInt16 else 87 + d.toUInt16) ≠ (0 : UInt16) := by
    decide
  have low := digits (value.toNat % 16) (Nat.mod_lt _ (by decide))
  have high := digits (value.toNat / 16) (by have : value.toNat < 256 := value.val.isLt; omega)
  unfold hexByte
  split
  · simpa using (digits value.toNat (by omega)).symm
  · intro isMember
    simp only [List.mem_cons, List.not_mem_nil, or_false] at isMember
    exact isMember.elim (fun isHigh => high isHigh.symm) fun isLow => low isLow.symm

theorem prependCommandLine_noNul {text line : Str16} (textClean : 0 ∉ text) (lineClean : 0 ∉ line) :
    0 ∉ prependCommandLine text line := by
  have space : 0 ∉ lit " " := by decide
  simp only [prependCommandLine, List.mem_append, not_or]
  exact ⟨⟨textClean, space⟩, lineClean⟩

theorem debugCommandLineVar_noNul {config : BuildConfig} {vars : VarStore} {bootTarget : BootTarget}
    {name : EfiVar} {text : Str16} (found : debugCommandLineVar config vars bootTarget name = some text) :
    0 ∉ text := by
  unfold debugCommandLineVar at found
  split at found
  · obtain ⟨bytes, -, rfl⟩ := Option.map_eq_some'.mp found
    exact straToStr_noNul bytes
  · cases found

/-- No piece of the line carries a NUL into it. -/
theorem getCommandLine_noNul (config : BuildConfig) (vars : VarStore) (image : Bytes)
    (frame : List UInt8) (bootTarget : BootTarget) :
    0 ∉ getCommandLine config vars image frame bootTarget := by
  have base : 0 ∉ (debugCommandLineVar config vars bootTarget .replaceCmdline).getD
      (imageCommandLine image frame) := by
    cases replaced : debugCommandLineVar config vars bootTarget .replaceCmdline with
    | none => rw [Option.getD_none, imageCommandLine]; split <;> apply straToStr_noNul
    | some text => exact debugCommandLineVar_noNul replaced
  unfold getCommandLine
  simp only []
  split <;> split
  all_goals first
    | exact prependCommandLine_noNul (prependCommandLine_noNul (debugCommandLineVar_noNul ‹_›) base)
        (debugCommandLineVar_noNul ‹_›)
    | exact prependCommandLine_noNul base (debugCommandLineVar_noNul ‹_›)
    | exact prependCommandLine_noNul (debugCommandLineVar_noNul ‹_›) base
    | exact base

theorem foldr_prependCommandLine_noNul {line : Str16} (lineClean : 0 ∉ line) {tokens : List Str16}
    (tokensClean : ∀ token ∈ tokens, 0 ∉ token) : 0 ∉ tokens.foldr prependCommandLine line := by
  induction tokens with
  | nil => exact lineClean
  | cons token tokens inductionHypothesis =>
      exact prependCommandLine_noNul (tokensClean token (.head _))
        (inductionHypothesis fun other isMember => tokensClean other (.tail _ isMember))

theorem bootloaderTokens_noNul {bootloader console verifiedBootState bootReason : Str16}
    {diskbus serialno : Option Str16} {charger : Bool} (bootloaderClean : 0 ∉ bootloader)
    (consoleClean : 0 ∉ console) (stateClean : 0 ∉ verifiedBootState) (reasonClean : 0 ∉ bootReason)
    (diskbusClean : ∀ bus ∈ diskbus, 0 ∉ bus) (serialClean : ∀ serial ∈ serialno, 0 ∉ serial) :
    ∀ token ∈ bootloaderTokens bootloader diskbus console verifiedBootState bootReason charger
      serialno, 0 ∉ token := by
  intro token isMember
  simp only [bootloaderTokens, List.mem_append, List.mem_singleton, List.mem_cons, List.mem_map,
    Option.mem_toList, List.not_mem_nil, or_false] at isMember
  rcases isMember with (((rfl | ⟨bus, found, rfl⟩) | rfl | rfl | rfl) | charged) | ⟨serial, found, rfl⟩
  · exact List.not_mem_append (by decide) bootloaderClean
  · exact List.not_mem_append (by decide) (diskbusClean bus found)
  · exact List.not_mem_append (by decide) consoleClean
  · exact List.not_mem_append (by decide) stateClean
  · exact List.not_mem_append (by decide) reasonClean
  · split at charged
    · rw [List.mem_singleton.mp charged]; decide
    · cases charged
  · have clean := serialClean serial found
    exact List.not_mem_append (List.not_mem_append (List.not_mem_append (by decide) clean)
      (by decide)) clean

theorem strToStra_eq_some {line : Str16} {bytes : List UInt8} (narrowed : strToStra line = some bytes) :
    bytes = line.map UInt16.toUInt8 := by
  unfold strToStra at narrowed
  split at narrowed <;> cases narrowed
  rfl

theorem strLen_le (line : Str16) : strLen line ≤ line.length :=
  (List.takeWhile_prefix _).length_le

theorem strLen_of_noNul {line : Str16} (clean : 0 ∉ line) : strLen line = line.length := by
  rw [strLen, List.takeWhile_eq_self_iff.mpr fun c isMember => by
    simpa using fun isNul : c = 0 => clean (isNul ▸ isMember)]

/-- Installing a line keeps the header and leaves line and pointer readable. -/
theorem install_line {memory : Bytes} {ledger : Ledger} {image cmdlineAddr count pages : Nat}
    {bytes : List UInt8} (live : ImageLive ⟨memory, ledger⟩ image) (aligned : cmdlineAddr % 4096 = 0)
    (free : PagesIn ledger false cmdlineAddr pages) (fits : count ≤ pages * 4096)
    (below : cmdlineAddr < 2 ^ 32) (length : bytes.length = count) :
    let after := writeField (overwrite memory cmdlineAddr count fun i => bytes.getD i 0)
      (bootParamsOf memory image) .cmdLinePtr cmdlineAddr
    bootParamsOf after image = bootParamsOf memory image ∧
      readField after (bootParamsOf after image) .cmdLinePtr = cmdlineAddr ∧
      bytesAt after cmdlineAddr count = bytes := by
  intro after
  have headerFresh := outside_of_free aligned free (live.1.mono (show 40 ≤ bootImgHdrSize by decide))
  have fieldFresh := outside_of_free aligned free
    ((live.2.shift (show 0x228 ≤ 1024 by decide)).mono (show 4 ≤ 1024 - 0x228 by decide))
  have sameBootParams : bootParamsOf after image = bootParamsOf memory image := by
    simp only [after, writeField, writeLE]
    rw [bootParamsOf_overwrite_of_outside _ _ fun offset inHeader => .inl (by
        simp only [bootParamsOf, Field.cmdLinePtr]; omega),
      bootParamsOf_overwrite_of_outside _ _ fun offset inHeader => by
        have := headerFresh offset inHeader; omega]
  refine ⟨sameBootParams, ?_, ?_⟩
  · rw [sameBootParams, readField_writeField]
    exact Nat.mod_eq_of_lt below
  · simp only [after, writeField, writeLE]
    rw [bytesAt_overwrite_of_outside _ _ fun offset inLine => by
        simp only [Field.cmdLinePtr] at fieldFresh ⊢
        by_contra overlaps
        have := fieldFresh (cmdlineAddr + offset - (bootParamsOf memory image + 552)) (by omega)
        omega, bytesAt_overwrite_self]
    exact range_map_getD length

theorem strLen_pos_iff (line : Str16) : 0 < strLen line ↔ ∃ c rest, line = c :: rest ∧ c ≠ 0 := by
  cases line with
  | nil => simp [strLen]
  | cons c rest => by_cases isNul : c = 0 <;> simp [strLen, List.takeWhile_cons, isNul]

theorem prependCommandLine_strLen_pos {text : Str16} (line : Str16) (clean : 0 < strLen text) :
    0 < strLen (prependCommandLine text line) := by
  obtain ⟨c, rest, rfl, cClean⟩ := (strLen_pos_iff text).mp clean
  exact (strLen_pos_iff _).mpr ⟨c, _, rfl, cClean⟩

theorem addBootvarsLine_strLen_pos {line : Str16} (bootvar : Str8) (clean : 0 < strLen line) :
    0 < strLen (addBootvarsLine line bootvar) := by
  unfold addBootvarsLine
  split
  · exact clean
  · rename_i kept
    cases bootvar with
    | nil => simp at kept
    | cons byte rest =>
        have byteClean : byte ≠ 0 := fun isNul => kept (.inl (by simpa using isNul))
        refine prependCommandLine_strLen_pos line ((strLen_pos_iff _).mpr
          ⟨byte.toUInt16, straToStr rest, by simp [straToStr, List.takeWhile_cons, byteClean], ?_⟩)
        exact fun isNul => byteClean (UInt8.toNat.inj (congrArg UInt16.toNat isNul))

theorem halCommandLine_strLen_pos (platform : Platform) (line : Str16) :
    0 < strLen (halCommandLine platform line) := by
  have fold : ∀ (bootvars : List Str8) (line : Str16), 0 < strLen line →
      0 < strLen (bootvars.foldl addBootvarsLine line) := by
    intro bootvars
    induction bootvars with
    | nil => exact fun _ clean => clean
    | cons bootvar bootvars inductionHypothesis =>
        exact fun line clean => inductionHypothesis _ (addBootvarsLine_strLen_pos bootvar clean)
  exact fold _ _ (prependCommandLine_strLen_pos line ((strLen_pos_iff _).mpr ⟨97, _, rfl, by decide⟩))

/-- The line `setup_command_line` builds never starts with a NUL. -/
theorem commandLineText_strLen_pos (platform : Platform) (vars : VarStore) (image : Bytes)
    (bootTarget : BootTarget) (swapGuid : Option Str16) (bootState : BootState) :
    0 < strLen (commandLineText platform vars image bootTarget swapGuid bootState).1 := by
  simp only [commandLineText]
  split
  · exact halCommandLine_strLen_pos _ _
  · exact prependCommandLine_strLen_pos _ ((strLen_pos_iff _).mpr ⟨97, _, rfl, by decide⟩)

/-- The line `setup_command_line` installs has no NUL before its end. -/
theorem narrowed_noNul {line : Str16} (ascii : (line.take (strLen line) ++ [0]).all (· ≤ 0x7F)) :
    0 ∉ (line.take (strLen line)).map UInt16.toUInt8 := by
  have leading : line.take (strLen line) = line.takeWhile (· ≠ 0) :=
    (List.prefix_iff_eq_take.mp (List.takeWhile_prefix _)).symm
  intro isMember
  obtain ⟨c, kept, narrowed⟩ := List.mem_map.mp isMember
  have small : c.toNat ≤ 127 := by
    simpa using List.all_eq_true.mp ascii c (List.mem_append_left _ kept)
  have clean : c ≠ 0 := by
    rw [leading] at kept
    simpa using List.mem_takeWhile_imp kept
  have cleanNat : c.toNat ≠ 0 := fun isNul => clean (UInt16.toNat.inj (b := 0) isNul)
  have : c.toUInt8.toNat = c.toNat % 256 := rfl
  rw [narrowed, show (0 : UInt8).toNat = 0 from rfl] at this
  omega

/-- What a successful `setup_command_line` did. -/
theorem setupCommandLine_success {firmware : Firmware} {platform : Platform} {machine : Machine}
    {vars : VarStore} {image : Nat} {bootTarget : BootTarget} {swapGuid : Option Str16}
    {bootState : BootState}
    (succeeded : (setupCommandLine firmware platform machine vars image bootTarget swapGuid
      bootState).status = .success) :
    let line := (commandLineText platform vars (imageView machine.memory image) bootTarget swapGuid
      bootState).1
    let pages := efiSizeToPages (strLen line + 1)
    let installed := (line.take (strLen line) ++ [0]).map UInt16.toUInt8
    ∃ cmdlineAddr,
      allocatePages firmware machine.ledger (.maxAddress 0xA0000) pages =
        some (cmdlineAddr, markPages machine.ledger cmdlineAddr pages true) ∧
      (line.take (strLen line) ++ [0]).all (· ≤ 0x7F) ∧
      (setupCommandLine firmware platform machine vars image bootTarget swapGuid bootState).machine =
        ⟨writeField (overwrite machine.memory cmdlineAddr (strLen line + 1) fun i => installed.getD i 0)
          (bootParamsOf machine.memory image) .cmdLinePtr cmdlineAddr,
          markPages machine.ledger cmdlineAddr pages true⟩ := by
  intro line pages installed
  revert succeeded
  simp only [setupCommandLine]
  split
  · intro failed; cases failed
  rename_i cmdlineAddr ledger granted
  obtain ⟨rfl, -⟩ := allocatePages_spec granted
  split
  · intro failed; cases failed
  rename_i cmdline narrowed
  intro _
  unfold strToStra at narrowed
  split at narrowed
  · rename_i ascii
    cases narrowed
    exact ⟨cmdlineAddr, granted, ascii, rfl⟩
  · cases narrowed

/-- `setup_command_line` succeeds when granted pages for an ASCII line. -/
theorem setupCommandLine_status (firmware : Firmware) (platform : Platform) (machine : Machine)
    (vars : VarStore) (image : Nat) (bootTarget : BootTarget) (swapGuid : Option Str16)
    (bootState : BootState) :
    let line := (commandLineText platform vars (imageView machine.memory image) bootTarget swapGuid
      bootState).1
    (setupCommandLine firmware platform machine vars image bootTarget swapGuid bootState).status =
        .success ↔
      (allocatePages firmware machine.ledger (.maxAddress 0xA0000)
        (efiSizeToPages (strLen line + 1))).isSome ∧ (line.take (strLen line)).all (· ≤ 0x7F) := by
  intro line
  have ascii : (line.take (strLen line) ++ [0]).all (· ≤ 0x7F) = (line.take (strLen line)).all (· ≤ 0x7F) := by
    simp
  simp only [setupCommandLine]
  split
  · rename_i refused
    simp [line, refused]
  · rename_i granted
    simp only [line, granted, Option.isSome_some, true_and]
    split <;> rename_i narrowed <;> unfold strToStra at narrowed <;> split at narrowed <;>
      simp_all

/-- After `setup_command_line`, `cmd_line_ptr` points at the line. -/
theorem setupCommandLine_installs {firmware : Firmware} {platform : Platform} {machine : Machine}
    {vars : VarStore} {image : Nat} {bootTarget : BootTarget} {swapGuid : Option Str16}
    {bootState : BootState} (live : ImageLive machine image)
    (succeeded : (setupCommandLine firmware platform machine vars image bootTarget swapGuid
      bootState).status = .success) :
    let after := (setupCommandLine firmware platform machine vars image bootTarget swapGuid
      bootState).machine
    let line := (commandLineText platform vars (imageView machine.memory image) bootTarget swapGuid
      bootState).1
    ∃ cmdlineAddr,
      allocatePages firmware machine.ledger (.maxAddress 0xA0000) (efiSizeToPages (strLen line + 1)) =
        some (cmdlineAddr, after.ledger) ∧
      bootParamsOf after.memory image = bootParamsOf machine.memory image ∧
      readField after.memory (bootParamsOf after.memory image) .cmdLinePtr = cmdlineAddr ∧
      bytesAt after.memory cmdlineAddr (strLen line + 1) =
        (line.take (strLen line) ++ [0]).map UInt16.toUInt8 := by
  intro after line
  obtain ⟨cmdlineAddr, granted, -, installed⟩ := setupCommandLine_success succeeded
  obtain ⟨-, aligned, free, allows⟩ := allocatePages_spec granted
  have below : cmdlineAddr < 2 ^ 32 := by simp only [Placement.Allows] at allows; omega
  obtain ⟨sameBootParams, pointer, bytes⟩ := install_line live aligned free (efiSizeToPages_mul_ge _)
    below (show ((line.take (strLen line) ++ [0]).map UInt16.toUInt8).length = strLen line + 1 by
      simp [Nat.min_eq_left (strLen_le _), line])
  simp only [after, installed]
  exact ⟨cmdlineAddr, granted, sameBootParams, pointer, bytes⟩

/-- Without `HAL_AUTODETECT` the line is the prefix, a space, the image's line. -/
theorem setupCommandLine_prefix (firmware : Firmware) (platform : Platform) (machine : Machine)
    (vars : VarStore) (image : Nat) (bootTarget : BootTarget) (bootState : BootState)
    (noHal : platform.config.halAutodetect = false) (live : ImageLive machine image) :
    let outcome := setupCommandLine firmware platform machine vars image bootTarget none bootState
    let bootReason := getBootReason platform.wakeSource platform.resetSource vars
    let console := getSerialPort bootReason.2
    let prefixTokens := bootloaderTokens (straToStr platform.bootloader)
      (platform.bootDevice.map fun (device, function) =>
        hexByte 2 device ++ lit "." ++ hexByte 0 function)
      console (cString (platform.bootStateToString bootState)) bootReason.1
      (decide (bootTarget = .charger)) (platform.serialNumber.map straToStr)
    let line := joinTokens prefixTokens ++ lit " " ++
      getCommandLine platform.config vars (imageView machine.memory image) platform.frame bootTarget
    (∀ c ∈ console, serialPortChar c) ∧ (∀ c ∈ bootReason.1, bootReasonChar c) ∧
      (outcome.status = .success ↔
        (allocatePages firmware machine.ledger (.maxAddress 0xA0000)
          (efiSizeToPages (line.length + 1))).isSome ∧ line.all (· ≤ 0x7F)) ∧
      (outcome.status = .success →
        bytesAt outcome.machine.memory
          (readField outcome.machine.memory (bootParamsOf outcome.machine.memory image) .cmdLinePtr)
          (line.length + 1) = (line ++ [0]).map UInt16.toUInt8) := by
  intro outcome bootReason console prefixTokens line
  have consoleChars := getSerialPort_chars bootReason.2
  have reasonChars := getBootReason_chars platform.wakeSource platform.resetSource vars
  have tokensClean : ∀ token ∈ prefixTokens, 0 ∉ token :=
    bootloaderTokens_noNul (straToStr_noNul _) (noNul_of_chars (by decide) consoleChars)
      (cString_noNul _) (noNul_of_chars (by decide) reasonChars)
      (fun bus found => by
        obtain ⟨⟨device, function⟩, -, rfl⟩ := Option.map_eq_some'.mp found
        exact List.not_mem_append (List.not_mem_append (hexByte_noNul _ _) (by decide))
          (hexByte_noNul _ _))
      (fun serial found => by
        obtain ⟨bytes, -, rfl⟩ := Option.map_eq_some'.mp found
        exact straToStr_noNul bytes)
  have text : (commandLineText platform vars (imageView machine.memory image) bootTarget none
      bootState).1 = prefixTokens.foldr prependCommandLine
        (getCommandLine platform.config vars (imageView machine.memory image) platform.frame
          bootTarget) := by
    rw [commandLineText_eq _ _ _ _ _ noHal]
  have clean := text ▸ foldr_prependCommandLine_noNul (getCommandLine_noNul _ _ _ _ _) tokensClean
  have built : (commandLineText platform vars (imageView machine.memory image) bootTarget none
      bootState).1 = line := by
    rw [text, foldr_prependCommandLine _ (by simp [prefixTokens, bootloaderTokens])]
  have whole : strLen line = line.length := strLen_of_noNul (built ▸ clean)
  have status := setupCommandLine_status firmware platform machine vars image bootTarget none bootState
  simp only [built, whole, List.take_length] at status
  refine ⟨consoleChars, reasonChars, status, fun succeeded => ?_⟩
  obtain ⟨cmdlineAddr, -, -, pointer, bytes⟩ := setupCommandLine_installs live succeeded
  rw [built, whole, List.take_length] at bytes
  rw [pointer]
  exact bytes

/-- A `userdebug` platform with no serial number and no boot device found. -/
def plainPlatform : Platform where
  config := ⟨false, true, false, false, false, true⟩
  wakeSource := .other 0
  resetSource := .other 0
  serialNumber := none
  bootDevice := none
  bootloader := lit8 "1.0"
  halProperties := ([], [], [], [])
  bootvars := []
  bootStateToString := fun _ => lit "green"
  frame := []

/-- Every page allocated but the one at 0x9F000; memory holds zeros. -/
def lowPageFree : Machine := ⟨fun _ => 0, fun frame => frame ≠ 0x9F⟩

/-- Firmware that grants the page at 0x9F000 and nothing else. -/
def lowPageFirmware : Firmware := Firmware.fixed 0x9F000 (by decide)

theorem lowPageFree_imageLive : ImageLive lowPageFree 0 := by
  have origin : bootParamsOf (fun _ => 0) 0 = 0 := rfl
  refine ⟨fun offset below => ?_, fun offset below => ?_⟩ <;>
    simp only [lowPageFree, origin, bootImgHdrSize] at below ⊢ <;>
    exact decide_eq_true (by omega)

set_option maxRecDepth 8192 in
/-- The prefix theorem where the free page at 0x9F000 is granted. -/
theorem setupCommandLine_prefix_lowPage :
    plainPlatform.config.halAutodetect = false ∧ ImageLive lowPageFree 0 ∧
    (setupCommandLine lowPageFirmware plainPlatform lowPageFree (fun _ => none) 0 .normalBoot none
      .green).status = .success ∧
    let outcome := setupCommandLine lowPageFirmware plainPlatform lowPageFree
      (fun _ => none) 0 .normalBoot none .green
    let bootReason := getBootReason plainPlatform.wakeSource plainPlatform.resetSource fun _ => none
    let console := getSerialPort bootReason.2
    let prefixTokens := bootloaderTokens (straToStr plainPlatform.bootloader)
      (plainPlatform.bootDevice.map fun (device, function) =>
        hexByte 2 device ++ lit "." ++ hexByte 0 function)
      console (cString (plainPlatform.bootStateToString .green)) bootReason.1
      (decide (BootTarget.normalBoot = .charger)) (plainPlatform.serialNumber.map straToStr)
    let line := joinTokens prefixTokens ++ lit " " ++
      getCommandLine plainPlatform.config (fun _ => none) (imageView lowPageFree.memory 0)
        plainPlatform.frame .normalBoot
    (∀ c ∈ console, serialPortChar c) ∧ (∀ c ∈ bootReason.1, bootReasonChar c) ∧
      (outcome.status = .success ↔
        (allocatePages lowPageFirmware lowPageFree.ledger (.maxAddress 0xA0000)
          (efiSizeToPages (line.length + 1))).isSome ∧ line.all (· ≤ 0x7F)) ∧
      (outcome.status = .success →
        bytesAt outcome.machine.memory
          (readField outcome.machine.memory (bootParamsOf outcome.machine.memory 0) .cmdLinePtr)
          (line.length + 1) = (line ++ [0]).map UInt16.toUInt8) :=
  ⟨rfl, lowPageFree_imageLive, by rfl, setupCommandLine_prefix lowPageFirmware
    plainPlatform lowPageFree (fun _ => none) 0 .normalBoot .green rfl lowPageFree_imageLive⟩

end Kernelflinger.CommandLine
