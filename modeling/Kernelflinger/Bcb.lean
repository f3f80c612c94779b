import Kernelflinger.Basic

/-
The bootloader control block on `misc`, `check_bcb`, and the one-shot variable check.
-/

namespace Kernelflinger.Bcb

/-- `struct bootloader_message`, from the spec: `android.h` is not under src/. -/
structure BootloaderMessage where
  command : List UInt8
  status : List UInt8
  commandLength : command.length = 32
  statusLength : status.length = 32
  deriving DecidableEq

/-- Set one byte of the command field. -/
def BootloaderMessage.setCommand (bcb : BootloaderMessage) (index : Nat) (value : UInt8) :
    BootloaderMessage :=
  ⟨bcb.command.set index value, bcb.status, by simp [bcb.commandLength], bcb.statusLength⟩

/-- Set one byte of the status field. -/
def BootloaderMessage.setStatus (bcb : BootloaderMessage) (index : Nat) (value : UInt8) :
    BootloaderMessage :=
  ⟨bcb.command, bcb.status.set index value, bcb.commandLength, by simp [bcb.statusLength]⟩

@[simp] theorem BootloaderMessage.setCommand_command (bcb : BootloaderMessage) (index : Nat)
    (value : UInt8) : (bcb.setCommand index value).command = bcb.command.set index value := rfl

@[simp] theorem BootloaderMessage.setCommand_status (bcb : BootloaderMessage) (index : Nat)
    (value : UInt8) : (bcb.setCommand index value).status = bcb.status := rfl

@[simp] theorem BootloaderMessage.setStatus_command (bcb : BootloaderMessage) (index : Nat)
    (value : UInt8) : (bcb.setStatus index value).command = bcb.command := rfl

@[simp] theorem BootloaderMessage.setStatus_status (bcb : BootloaderMessage) (index : Nat)
    (value : UInt8) : (bcb.setStatus index value).status = bcb.status.set index value := rfl

theorem BootloaderMessage.ext' {first second : BootloaderMessage}
    (command : first.command = second.command) (status : first.status = second.status) :
    first = second := by
  cases first; cases second; cases command; cases status; rfl

/-- `read_bcb`: the record on `misc` with the last byte of each field set to NUL. -/
def readBcb (readOk : Bool) (disk : BootloaderMessage) : Option BootloaderMessage :=
  if readOk then some ((disk.setCommand 31 0).setStatus 31 0) else none

/-- `write_bcb`: the record on `misc` after the write. -/
def writeBcb (writeOk : Bool) (disk bcb : BootloaderMessage) : BootloaderMessage :=
  if writeOk then bcb else disk

/-- What `check_bcb` and `check_loader_entry_one_shot` ask their collaborators. -/
structure BcbEnv where
  bcbReadOk : Bool
  bcbWriteOk : Bool
  fileExists : Str16 → Bool
  nameToBootTarget : Str16 → BootTarget
  offModeCharge : Bool

/-- What `check_bcb` returns and leaves on `misc`. -/
structure BcbResult where
  target : BootTarget
  targetPath : Option Str16
  oneshot : Bool
  disk : BootloaderMessage

/-- The command starts with the literal, as `!strncmpa(bcb.command, ...)` tests. -/
def commandIs (bcb : BootloaderMessage) (literal : String) : Bool :=
  strncmpa bcb.command (lit8 literal) (lit8 literal).length = 0

/-- `L'\\'`. -/
def backslash : UInt16 := 0x5C

/-- The tail of `check_bcb` that resolves a target string read from the command. -/
def bcbTarget (env : BcbEnv) (target : Str16) : BootTarget × Option Str16 :=
  if target.head? = some backslash then
    if !env.fileExists target then (.normalBoot, none)
    else if 4 < target.length then
      let suffix := target.drop (target.length - 4)
      (if suffix = lit ".efi" ∨ suffix = lit ".EFI" then .espEfiBinary else .espBootimage, some target)
    else (.normalBoot, none)
  else
    match env.nameToBootTarget target with
    | .unknownTarget => (.normalBoot, none)
    | other => (other, none)

/-- The command tests of `check_bcb`: target, record to write, `*oneshot`. -/
def bcbCommand (bcb : BootloaderMessage) : Option Str16 × BootloaderMessage × Bool :=
  if commandIs bcb "boot-" then (some (straToStr (bcb.command.drop 5)), bcb, false)
  else if commandIs bcb "bootonce-" then (some (straToStr (bcb.command.drop 9)), bcb.setCommand 0 0, true)
  else (none, bcb, false)

/-- The target and `*target_path` of `check_bcb` for the string it read, if any. -/
def resolveBcbTarget (env : BcbEnv) : Option Str16 → BootTarget × Option Str16
  | none => (.normalBoot, none)
  | some target => bcbTarget env target

/-- `check_bcb`. -/
def checkBcb (env : BcbEnv) (disk : BootloaderMessage) : BcbResult :=
  match readBcb env.bcbReadOk disk with
  | none => ⟨.normalBoot, none, false, disk⟩
  | some bcb =>
      let command := bcbCommand (bcb.setStatus 0 0)
      let resolved := resolveBcbTarget env command.1
      ⟨resolved.1, resolved.2, command.2.2, writeBcb env.bcbWriteOk disk command.2.1⟩

/-- `check_loader_entry_one_shot`: the target and the variable store it leaves. -/
def checkLoaderEntryOneShot (env : BcbEnv) (vars : VarStore) : BootTarget × VarStore :=
  let vars' := vars.delete .loaderEntryOneShot
  match getEfiVariableStr vars .loaderEntryOneShot with
  | none => (.normalBoot, vars')
  | some target =>
      match env.nameToBootTarget target with
      | .unknownTarget => (.normalBoot, vars')
      | .charger => (if env.offModeCharge then .charger else .powerOff, vars')
      | other => (other, vars')

/-- `check_bcb` sets `*target_path` only with an ESP target. -/
theorem bcbTarget_path (env : BcbEnv) (target path : Str16)
    (found : (bcbTarget env target).2 = some path) :
    (bcbTarget env target).1 = .espEfiBinary ∨ (bcbTarget env target).1 = .espBootimage := by
  unfold bcbTarget at found ⊢
  by_cases isPath : target.head? = some backslash
  · by_cases present : env.fileExists target = true
    · by_cases long : 4 < target.length
      · simp only [isPath, present, long, if_true, Bool.not_true, Bool.false_eq_true, if_false]
        split <;> simp
      · simp [isPath, present, long] at found
    · simp [isPath, present] at found
  · simp only [isPath, if_false] at found
    split at found <;> simp at found

theorem checkBcb_targetPath (env : BcbEnv) (disk : BootloaderMessage) (path : Str16)
    (found : (checkBcb env disk).targetPath = some path) :
    (checkBcb env disk).target = .espEfiBinary ∨ (checkBcb env disk).target = .espBootimage := by
  have resolved : ∃ command, ((checkBcb env disk).target, (checkBcb env disk).targetPath) =
      resolveBcbTarget env command := by
    unfold checkBcb
    split
    · exact ⟨none, rfl⟩
    · exact ⟨_, rfl⟩
  obtain ⟨command, resolved⟩ := resolved
  cases command with
  | none => simp [resolveBcbTarget, found] at resolved
  | some target =>
      simp only [resolveBcbTarget, Prod.ext_iff] at resolved
      rw [resolved.1]
      exact bcbTarget_path env target path (resolved.2 ▸ found)

theorem checkBcb_normalBoot_path (env : BcbEnv) (disk : BootloaderMessage)
    (deferred : (checkBcb env disk).target = .normalBoot) : (checkBcb env disk).targetPath = none := by
  cases found : (checkBcb env disk).targetPath with
  | none => rfl
  | some path =>
      rcases checkBcb_targetPath env disk path found with esp | esp <;> rw [esp] at deferred <;>
        cases deferred

/-- The raw command begins with the literal. -/
def StartsWith (disk : BootloaderMessage) (literal : String) : Prop :=
  disk.command.take (lit8 literal).length = lit8 literal

instance (disk : BootloaderMessage) (literal : String) : Decidable (StartsWith disk literal) :=
  inferInstanceAs (Decidable (_ = _))

/-- The record `check_bcb` hands to `write_bcb`. -/
def bcbRewritten (disk : BootloaderMessage) (oneshot : Bool) : BootloaderMessage :=
  let read := ((disk.setCommand 31 0).setStatus 31 0).setStatus 0 0
  if oneshot then read.setCommand 0 0 else read

theorem noNul_boot : ∀ c ∈ lit8 "boot-", c ≠ 0 := by decide

theorem noNul_bootonce : ∀ c ∈ lit8 "bootonce-", c ≠ 0 := by decide

/-- The prefix tests see the raw command: the cleared bytes lie past them. -/
theorem commandIs_read (disk : BootloaderMessage) (literal : String)
    (short : (lit8 literal).length < 31) (noNul : ∀ c ∈ lit8 literal, c ≠ 0) :
    commandIs (((disk.setCommand 31 0).setStatus 31 0).setStatus 0 0) literal = true ↔
      StartsWith disk literal := by
  simp only [commandIs, decide_eq_true_eq, BootloaderMessage.setStatus_command,
    BootloaderMessage.setCommand_command, strncmpa_eq_zero_iff _ _ noNul, StartsWith]
  rw [List.take_set_of_lt _ _ short]

theorem boot_not_bootonce (disk : BootloaderMessage) (boot : StartsWith disk "boot-") :
    ¬ StartsWith disk "bootonce-" := by
  intro bootonce
  have five : disk.command.take 5 = lit8 "boot-" := boot
  have nine : disk.command.take 9 = lit8 "bootonce-" := bootonce
  have : (disk.command.take 9).take 5 = lit8 "boot-" := by rw [List.take_take]; exact five
  rw [nine] at this
  exact absurd this (by decide)

/-- `check_bcb` after a successful read. -/
theorem checkBcb_of_readOk (env : BcbEnv) (disk : BootloaderMessage) (readOk : env.bcbReadOk = true) :
    checkBcb env disk =
      if StartsWith disk "boot-" then
        ⟨(bcbTarget env (straToStr (disk.command.set 31 0 |>.drop 5))).1,
          (bcbTarget env (straToStr (disk.command.set 31 0 |>.drop 5))).2, false,
          writeBcb env.bcbWriteOk disk (bcbRewritten disk false)⟩
      else if StartsWith disk "bootonce-" then
        ⟨(bcbTarget env (straToStr (disk.command.set 31 0 |>.drop 9))).1,
          (bcbTarget env (straToStr (disk.command.set 31 0 |>.drop 9))).2, true,
          writeBcb env.bcbWriteOk disk (bcbRewritten disk true)⟩
      else ⟨.normalBoot, none, false, writeBcb env.bcbWriteOk disk (bcbRewritten disk false)⟩ := by
  have boot := commandIs_read disk "boot-" (by decide) noNul_boot
  have bootonce := commandIs_read disk "bootonce-" (by decide) noNul_bootonce
  unfold checkBcb bcbCommand
  simp only [readBcb, readOk, if_true]
  by_cases isBoot : StartsWith disk "boot-"
  · simp [boot.2 isBoot, isBoot, bcbRewritten, resolveBcbTarget]
  · have notBoot := mt boot.1 isBoot
    by_cases isBootonce : StartsWith disk "bootonce-"
    · simp [notBoot, bootonce.2 isBootonce, isBoot, isBootonce, bcbRewritten, resolveBcbTarget]
    · simp [notBoot, mt bootonce.1 isBootonce, isBoot, isBootonce, bcbRewritten, resolveBcbTarget]

/-- After a read and a write, `misc` holds the rewritten record. -/
theorem checkBcb_disk_oneshot (env : BcbEnv) (disk : BootloaderMessage)
    (readOk : env.bcbReadOk = true) (writeOk : env.bcbWriteOk = true) :
    (checkBcb env disk).disk = bcbRewritten disk (decide (StartsWith disk "bootonce-")) ∧
      (checkBcb env disk).oneshot = decide (StartsWith disk "bootonce-") := by
  rw [checkBcb_of_readOk env disk readOk]
  by_cases isBoot : StartsWith disk "boot-"
  · simp [isBoot, boot_not_bootonce disk isBoot, writeBcb, writeOk]
  · by_cases isBootonce : StartsWith disk "bootonce-" <;> simp [isBoot, isBootonce, writeBcb, writeOk]

theorem bcbRewritten_reread (disk : BootloaderMessage) (oneshot : Bool) :
    ((((bcbRewritten disk oneshot).setCommand 31 0).setStatus 31 0).setStatus 0 0) =
      bcbRewritten disk oneshot := by
  apply BootloaderMessage.ext'
  · cases oneshot <;> simp [bcbRewritten, List.set_comm _ _ _ (show 0 ≠ 31 by decide)]
  · cases oneshot <;> simp [bcbRewritten, List.set_comm _ _ _ (show 0 ≠ 31 by decide)]

theorem bcbRewritten_command (disk : BootloaderMessage) (oneshot : Bool) :
    (bcbRewritten disk oneshot).command =
      if oneshot then (disk.command.set 31 0).set 0 0 else disk.command.set 31 0 := by
  cases oneshot <;> rfl

/-- A `boot-` command survives: a second `check_bcb` acts as the first. -/
theorem checkBcb_second_boot (env : BcbEnv) (disk : BootloaderMessage)
    (readOk : env.bcbReadOk = true) (writeOk : env.bcbWriteOk = true)
    (boot : StartsWith disk "boot-") :
    checkBcb env (checkBcb env disk).disk = checkBcb env disk := by
  have written : (checkBcb env disk).disk = bcbRewritten disk false := by
    simpa [boot_not_bootonce disk boot] using (checkBcb_disk_oneshot env disk readOk writeOk).1
  have command : (bcbRewritten disk false).command.set 31 0 = disk.command.set 31 0 := by
    simp [bcbRewritten_command]
  have stillBoot : StartsWith (bcbRewritten disk false) "boot-" := by
    have short : (lit8 "boot-").length < 31 := by decide
    simpa [StartsWith, bcbRewritten_command, List.take_set_of_lt _ _ short] using boot
  have rewriteAgain : bcbRewritten (bcbRewritten disk false) false = bcbRewritten disk false := by
    simpa [bcbRewritten] using bcbRewritten_reread disk false
  rw [written, checkBcb_of_readOk env _ readOk, checkBcb_of_readOk env _ readOk]
  simp [boot, stillBoot, command, rewriteAgain, writeBcb, writeOk]

/-- A consumed `bootonce-` command is gone: a second `check_bcb` finds no target. -/
theorem checkBcb_second_bootonce (env : BcbEnv) (disk : BootloaderMessage)
    (readOk : env.bcbReadOk = true) (writeOk : env.bcbWriteOk = true)
    (bootonce : StartsWith disk "bootonce-") :
    (checkBcb env (checkBcb env disk).disk).target = .normalBoot ∧
      (checkBcb env (checkBcb env disk).disk).targetPath = none := by
  have written : (checkBcb env disk).disk = bcbRewritten disk true := by
    simpa [bootonce] using (checkBcb_disk_oneshot env disk readOk writeOk).1
  have cleared : ∀ literal, (lit8 literal).head? ≠ some 0 → lit8 literal ≠ [] →
      ¬ StartsWith (bcbRewritten disk true) literal := by
    intro literal nonzero nonempty starts
    have heads := congrArg List.head? starts
    rw [List.head?_take] at heads
    split at heads
    · exact nonempty (List.length_eq_zero.1 (by assumption))
    · have : (bcbRewritten disk true).command.head? = some 0 := by
        rw [bcbRewritten_command, if_pos rfl]
        have long : 0 < (disk.command.set 31 0).length := by simp [disk.commandLength]
        cases h : disk.command.set 31 0 with
        | nil => simp [h] at long
        | cons c rest => simp
      rw [this] at heads
      exact nonzero heads.symm
  rw [written, checkBcb_of_readOk env _ readOk]
  simp [cleared "boot-" (by decide) (by decide), cleared "bootonce-" (by decide) (by decide)]

/-- `check_loader_entry_one_shot` deletes `LoaderEntryOneShot` and nothing else. -/
theorem checkLoaderEntryOneShot_vars (env : BcbEnv) (vars : VarStore) :
    (checkLoaderEntryOneShot env vars).2 = vars.delete .loaderEntryOneShot := by
  unfold checkLoaderEntryOneShot
  split
  · rfl
  · split <;> rfl

/-- After `check_loader_entry_one_shot`, a second call defers. -/
theorem checkLoaderEntryOneShot_second (env : BcbEnv) (vars : VarStore) :
    (checkLoaderEntryOneShot env (checkLoaderEntryOneShot env vars).2).1 = .normalBoot := by
  have absent : getEfiVariableStr (vars.delete .loaderEntryOneShot) .loaderEntryOneShot = none := by
    simp [getEfiVariableStr]
  rw [checkLoaderEntryOneShot_vars, checkLoaderEntryOneShot, absent]

end Kernelflinger.Bcb
