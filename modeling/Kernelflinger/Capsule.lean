import Kernelflinger.Basic

/-
`push_capsule` and the firmware-update branch of `efi_main`, over consecutive boots.
-/

namespace Kernelflinger.Capsule

/-- `EFI_RESET_TYPE`. -/
inductive ResetType where
  | cold
  | warm
  | shutdown
  | platformSpecific
  deriving DecidableEq, Repr

/-- The calls `push_capsule` makes once it has read the capsule. -/
inductive CapsuleCall where
  /-- `file_delete` of the capsule file. -/
  | delete
  /-- `RT->QueryCapsuleCapabilities`. -/
  | query
  /-- `RT->UpdateCapsule`, its scatter list one block of `length` bytes. -/
  | update (length : Nat)
  deriving DecidableEq, Repr

/-- What the disk library and the firmware answer `push_capsule` at one boot. -/
structure CapsuleFirmware where
  readStatus : EfiStatus
  deleteStatus : EfiStatus
  /-- Whether `AllocatePool` grants the capsule header array. -/
  arrayGranted : Bool
  /-- Whether `AllocatePool` grants the scatter list. -/
  scatterGranted : Bool
  queryStatus : EfiStatus
  /-- `MaximumCapsuleSize`, written when the query succeeds. -/
  maxCapsuleSize : Nat
  /-- The `ResetType` a successful query writes. -/
  resetType : ResetType
  updateStatus : EfiStatus
  deriving DecidableEq, Repr

/-- The error of `file_read`, none when it reads the whole file. -/
def CapsuleFirmware.readError (fw : CapsuleFirmware) : Option EfiStatus :=
  if fw.readStatus = .success then none else some fw.readStatus

/-- Whether `file_delete` succeeds. -/
def CapsuleFirmware.deleteOk (fw : CapsuleFirmware) : Bool := fw.deleteStatus = .success

/-- What `push_capsule` leaves: its calls, the file, `*resetType` and its status. -/
structure PushCapsule where
  calls : List CapsuleCall
  kept : Bool
  /-- `*resetType`, none while nothing has written it. -/
  resetType : Option ResetType
  status : EfiStatus
  deriving DecidableEq, Repr

/-- `push_capsule`; `len <= 0` of a `UINTN` is `len = 0`. -/
def pushCapsule (fw : CapsuleFirmware) (content : List UInt8) : PushCapsule :=
  if fw.readStatus ≠ .success then ⟨[], true, none, fw.readStatus⟩
  else if content.length = 0 then ⟨[], true, none, .loadError⟩
  else if fw.deleteStatus ≠ .success then ⟨[.delete], true, none, fw.deleteStatus⟩
  else if !fw.arrayGranted then ⟨[.delete], false, none, .outOfResources⟩
  else if fw.queryStatus ≠ .success then ⟨[.delete, .query], false, none, fw.queryStatus⟩
  else if fw.maxCapsuleSize < content.length then
    ⟨[.delete, .query], false, some fw.resetType, .badBufferSize⟩
  else if !fw.scatterGranted then ⟨[.delete, .query], false, some fw.resetType, .outOfResources⟩
  else ⟨[.delete, .query, .update content.length], false, some fw.resetType, fw.updateStatus⟩

/-- Consecutive boots over a capsule file: every push, and whether one went on. -/
def capsuleRun : List CapsuleFirmware → Option (List UInt8) → List PushCapsule × Bool
  | [], _ => ([], false)
  | _ :: _, none => ([], true)
  | fw :: fws, some content =>
      let push := pushCapsule fw content
      let run := capsuleRun fws (if push.kept then some content else none)
      (push :: run.1, run.2)

/-- The capsule file goes exactly when it was read whole, non-empty, deleted. -/
theorem pushCapsule_kept (fw : CapsuleFirmware) (content : List UInt8) :
    (pushCapsule fw content).kept = false ↔ fw.readError = none ∧ 0 < content.length ∧ fw.deleteOk = true := by
  simp only [pushCapsule, CapsuleFirmware.readError, CapsuleFirmware.deleteOk]
  split_ifs <;> simp_all [Nat.pos_iff_ne_zero]

/-- A run goes on exactly when some earlier boot removed the capsule. -/
theorem capsuleRun_goes_on (content : List UInt8) : ∀ fws : List CapsuleFirmware,
    (capsuleRun fws (some content)).2 = true ↔
      0 < content.length ∧ ∃ fw ∈ fws.dropLast, fw.readError = none ∧ fw.deleteOk = true
  | [] => by simp [capsuleRun]
  | fw :: fws => by
      have kept := pushCapsule_kept fw content
      rw [capsuleRun]
      cases pushed : (pushCapsule fw content).kept with
      | true =>
          have stays : ¬(fw.readError = none ∧ 0 < content.length ∧ fw.deleteOk = true) := by
            rw [← kept, pushed]
            exact Bool.noConfusion
          dsimp only
          rw [if_pos rfl, capsuleRun_goes_on content fws]
          cases fws with
          | nil => simp
          | cons next rest =>
              simp only [List.dropLast_cons₂, List.mem_cons, exists_eq_or_imp]
              exact and_congr_right fun nonempty => (or_iff_right fun now => stays ⟨now.1, nonempty, now.2⟩).symm
      | false =>
          obtain ⟨read, nonempty, deleted⟩ := kept.mp pushed
          dsimp only
          rw [if_neg Bool.false_ne_true]
          cases fws with
          | nil => simp [capsuleRun]
          | cons next rest =>
              simp only [capsuleRun, List.dropLast_cons₂, List.mem_cons, exists_eq_or_imp, true_iff]
              exact ⟨nonempty, .inl ⟨read, deleted⟩⟩

end Kernelflinger.Capsule
