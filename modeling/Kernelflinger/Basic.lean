import Mathlib

/-
The enumerations, build switches, strings and variable store that every part of the
boot loader reads.
-/

namespace Kernelflinger

/-- The boot targets of `targets.h`; `FALSE` as a target is `normalBoot`. -/
inductive BootTarget where
  | normalBoot
  | recovery
  | fastboot
  | memory
  | espEfiBinary
  | espBootimage
  | charger
  | powerOff
  | tdos
  | exitShell
  | unknownTarget
  deriving DecidableEq, Repr

/-- The four verified-boot states `BOOT_STATE_GREEN` .. `BOOT_STATE_RED`. -/
inductive BootState where
  | green
  | yellow
  | orange
  | red
  deriving DecidableEq, Repr

/-- The `UINT8` value the boot state is stored and compared as. -/
def BootState.toNat : BootState → Nat
  | .green => 0
  | .yellow => 1
  | .orange => 2
  | .red => 3

instance : LE BootState := ⟨fun a b => a.toNat ≤ b.toNat⟩

instance (a b : BootState) : Decidable (a ≤ b) := inferInstanceAs (Decidable (a.toNat ≤ b.toNat))

theorem BootState.le_def (a b : BootState) : a ≤ b ↔ a.toNat ≤ b.toNat := Iff.rfl

theorem BootState.green_le (a : BootState) : BootState.green ≤ a := by
  cases a <;> decide

theorem BootState.le_red (a : BootState) : a ≤ BootState.red := by
  cases a <;> decide

theorem BootState.le_refl (a : BootState) : a ≤ a := Nat.le_refl _

theorem BootState.le_trans {a b c : BootState} (first : a ≤ b) (second : b ≤ c) : a ≤ c :=
  Nat.le_trans first second

/-- The reset sources `rsci_get_reset_source` tells apart. -/
inductive ResetSource where
  | kernelWatchdog
  | securityWatchdog
  | pmcWatchdog
  | ecWatchdog
  | platformWatchdog
  | securityInitiated
  | other (code : Nat)
  deriving DecidableEq, Repr

/-- The wake sources `rsci_get_wake_source` tells apart. -/
inductive WakeSource where
  | batteryInserted
  | usbChargerInserted
  | acdcChargerInserted
  | powerButtonPressed
  | rtcTimer
  | batteryReachedIaThreshold
  | other (code : Nat)
  deriving DecidableEq, Repr

/-- The `EFI_STATUS` values the boot loader returns or tests. -/
inductive EfiStatus where
  | success
  | invalidParameter
  | outOfResources
  | accessDenied
  | notFound
  | unsupported
  | loadError
  | bufferTooSmall
  | badBufferSize
  | deviceError
  deriving DecidableEq, Repr

/-- The preprocessor switches the sources test, one field each. -/
structure BuildConfig where
  user : Bool
  userdebug : Bool
  userfastboot : Bool
  noDeviceUnlock : Bool
  halAutodetect : Bool
  lp64 : Bool
  deriving DecidableEq, Repr

/-- The width of `INTN` and `UINTN`. -/
def BuildConfig.intnBits (config : BuildConfig) : Nat := if config.lp64 then 64 else 32

theorem uint8_toNat_add (a b : UInt8) : (a + b).toNat = (a.toNat + b.toNat) % 256 :=
  BitVec.toNat_add _ _

theorem uint32_toNat_add (a b : UInt32) : (a + b).toNat = (a.toNat + b.toNat) % 2 ^ 32 :=
  BitVec.toNat_add _ _

theorem uint8_eq_zero_iff (a : UInt8) : a = 0 ↔ a.toNat = 0 :=
  ⟨fun isZero => isZero ▸ rfl, fun isZero => UInt8.toNat.inj isZero⟩

/-- A `CHAR16` string up to (not including) its terminating NUL. -/
abbrev Str16 := List UInt16

/-- A `CHAR8` string up to (not including) its terminating NUL. -/
abbrev Str8 := List UInt8

/-- The `CHAR16` code units of an ASCII literal such as `L"boot-"`. -/
def lit (text : String) : Str16 := text.toList.map fun c => c.toNat.toUInt16

/-- The `CHAR8` bytes of an ASCII literal such as `"boot-"`. -/
def lit8 (text : String) : Str8 := text.toList.map fun c => c.toNat.toUInt8

/-- `stra_to_str`: every byte widened to a `CHAR16`, up to the first NUL. -/
def straToStr (bytes : List UInt8) : Str16 := (bytes.takeWhile (· ≠ 0)).map UInt8.toUInt16

theorem straToStr_cons (byte : UInt8) (rest : List UInt8) :
    straToStr (byte :: rest) = if byte = 0 then [] else byte.toUInt16 :: straToStr rest := by
  by_cases nul : byte = 0 <;> simp [straToStr, nul]

/-- The NUL scan stops in the first of two strings if it holds a NUL. -/
theorem straToStr_append (first second : List UInt8) :
    straToStr (first ++ second) =
      if 0 ∈ first then straToStr first else straToStr first ++ straToStr second := by
  induction first with
  | nil => simp [straToStr]
  | cons byte first inductionHypothesis =>
      rw [List.cons_append, straToStr_cons, straToStr_cons, inductionHypothesis]
      by_cases nul : byte = 0
      · simp [nul]
      · simp only [nul, if_false, List.mem_cons, Ne.symm nul, false_or]
        split <;> rfl

theorem straToStr_of_noNul {bytes : List UInt8} (clean : 0 ∉ bytes) :
    straToStr bytes = bytes.map UInt8.toUInt16 := by
  rw [straToStr, List.takeWhile_eq_self_iff.mpr fun byte member => by
    simpa using fun nul : byte = 0 => clean (nul ▸ member)]

/-- The string a `CHAR16 *` points at: its units up to the first NUL. -/
def cString (text : Str16) : Str16 := text.takeWhile (· ≠ 0)

/-- `strncmpa`: compare at most `len` bytes; past the end reads as NUL. -/
def strncmpa (first second : List UInt8) : Nat → Int
  | 0 => 0
  | len + 1 =>
      let c1 := first.headD 0
      let c2 := second.headD 0
      if c1 ≠ 0 ∧ c1 = c2 then strncmpa first.tail second.tail len
      else (c1.toNat : Int) - c2.toNat

/-- `strncmpa` against a NUL-free literal is zero iff the text starts with it. -/
theorem strncmpa_eq_zero_iff (text literal : List UInt8) (noNul : ∀ c ∈ literal, c ≠ 0) :
    strncmpa text literal literal.length = 0 ↔ text.take literal.length = literal := by
  induction literal generalizing text with
  | nil => simp [strncmpa]
  | cons c literal inductionHypothesis =>
      have cNonzero : c ≠ 0 := noNul c (List.mem_cons_self _ _)
      have rest := fun text => inductionHypothesis text
        (fun d isMember => noNul d (List.mem_cons_of_mem _ isMember))
      cases text with
      | nil =>
          have : (c.toNat : Int) ≠ 0 := by
            intro isZero; exact cNonzero (UInt8.toNat.inj (by exact_mod_cast isZero))
          simp [strncmpa, this]
      | cons d text =>
          by_cases same : d = c
          · subst same
            simp [strncmpa, cNonzero, rest]
          · have : (d.toNat : Int) - c.toNat ≠ 0 := by
              intro isZero; exact same (UInt8.toNat.inj (by omega))
            simp [strncmpa, same, this]

/-- The same with the literal first, as in `strncmpa(BOOT_MAGIC, ...)`. -/
theorem strncmpa_literal_eq_zero_iff (literal text : List UInt8) (noNul : ∀ c ∈ literal, c ≠ 0) :
    strncmpa literal text literal.length = 0 ↔ text.take literal.length = literal := by
  induction literal generalizing text with
  | nil => simp [strncmpa]
  | cons c literal inductionHypothesis =>
      have cNonzero : c ≠ 0 := noNul c (List.mem_cons_self _ _)
      have rest := fun text => inductionHypothesis text
        (fun d isMember => noNul d (List.mem_cons_of_mem _ isMember))
      cases text with
      | nil =>
          have : (c.toNat : Int) ≠ 0 := by
            intro isZero; exact cNonzero (UInt8.toNat.inj (by exact_mod_cast isZero))
          simp [strncmpa, cNonzero, this]
      | cons d text =>
          by_cases same : c = d
          · subst same
            simp [strncmpa, cNonzero, rest]
          · have : (c.toNat : Int) - d.toNat ≠ 0 := by
              intro isZero; exact same (UInt8.toNat.inj (by omega))
            simp [strncmpa, same, this, Ne.symm same]

/-- The persistent EFI variables of the loader and fastboot namespaces. -/
inductive EfiVar where
  | loaderEntryOneShot
  | loaderEntryRebootReason
  | magicKeyTimeout
  | serialPort
  | replaceCmdline
  | prependCmdline
  | appendCmdline
  | bootState
  deriving DecidableEq, Repr

/-- The variable store: the raw bytes of each variable, `none` when it is absent. -/
abbrev VarStore := EfiVar → Option (List UInt8)

/-- `del_efi_variable`. -/
def VarStore.delete (store : VarStore) (name : EfiVar) : VarStore :=
  fun other => if other = name then none else store other

@[simp] theorem VarStore.delete_same (store : VarStore) (name : EfiVar) :
    store.delete name name = none := by
  simp [VarStore.delete]

@[simp] theorem VarStore.delete_other (store : VarStore) {name other : EfiVar}
    (different : other ≠ name) : store.delete name other = store other := by
  simp [VarStore.delete, different]

/-- Bytes read as a `CHAR16` string: UTF-16LE code units up to the first NUL unit. -/
def utf16Str (bytes : List UInt8) : Str16 :=
  ((List.range (bytes.length / 2)).map fun k =>
    (bytes.getD (2 * k) 0).toUInt16 + 256 * (bytes.getD (2 * k + 1) 0).toUInt16).takeWhile (· ≠ 0)

/-- `get_efi_variable_str`, from the spec: its library is not under src/. -/
def getEfiVariableStr (store : VarStore) (name : EfiVar) : Option Str16 :=
  (store name).map utf16Str

/-- `get_efi_variable_str8`, from the spec, widened to `CHAR16`. -/
def getEfiVariableStr8 (store : VarStore) (name : EfiVar) : Option Str16 :=
  (store name).map straToStr

/-- The number a decimal ASCII string spells, if it is one. -/
def parseDecimal (digits : List UInt8) : Option Nat :=
  if digits.isEmpty || digits.any (fun digit => digit < 48 || 57 < digit) then none
  else some (digits.foldl (fun value digit => 10 * value + (digit.toNat - 48)) 0)

/-- `get_efi_variable_long_from_str8`, from the spec: the value parsed as decimal. -/
def getEfiVariableLongFromStr8 (store : VarStore) (name : EfiVar) : Option Nat :=
  (store name).bind fun bytes => parseDecimal (bytes.takeWhile (· ≠ 0))

end Kernelflinger
