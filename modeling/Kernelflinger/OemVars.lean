import Kernelflinger.BootImage

/-
The OEM vars a boot image carries and the persisted flag that asks for them: the
`set_image_oemvars_nocheck` and `set_image_oemvars` of `kernelflinger.c`, and the switch of
`efi_main` that calls them once the image is loaded, over consecutive boots.
-/

namespace Kernelflinger.OemVars

open Memory BootImage

/-- `OEMVARS_MAGIC`. -/
def oemvarsMagic : Str8 := lit8 "#OEMVARS\n"

/-- `OEMVARS_MAGIC_SZ`. -/
def oemvarsMagicSz : Nat := 9

/-- What the OEM vars step reads besides the image. -/
structure OemvarsEnv where
  config : BuildConfig
  flashOemvars : List UInt8 → EfiStatus
  /-- `blobstore_get`, then `blobstore_get_item` of the OEMVARS item. -/
  blobstoreItem : List UInt8 → Option (Option (List UInt8))
  flagWriteOk : Bool

/-- `get_bootimage_blob` for the OEMVARS item. -/
def getBootimageBlob (env : OemvarsEnv) (image : Bytes) : Except EfiStatus (List UInt8) :=
  match getBootimage2nd image with
  | .error _ => .error .unsupported
  | .ok (offset, size) =>
      match env.blobstoreItem (bytesAt image offset size.toNat) with
      | none => .error .unsupported
      | some none => .error .notFound
      | some (some blob) => .ok blob

/-- A second stage that starts with `OEMVARS_MAGIC` carries raw OEM vars. -/
def rawOemvars (image : Bytes) : Option (List UInt8) :=
  match getBootimage2nd image with
  | .ok (offset, osz) =>
      if oemvarsMagicSz < osz.toNat ∧ bytesAt image offset oemvarsMagicSz = oemvarsMagic then
        some (bytesAt image (offset + oemvarsMagicSz) (osz.toNat - oemvarsMagicSz))
      else none
  | .error _ => none

/-- `set_image_oemvars_nocheck`: the payload it hands over, and its status. -/
def setImageOemvarsNocheck (env : OemvarsEnv) (image : Bytes) : Option (List UInt8) × EfiStatus :=
  match rawOemvars image with
  | some oemvars => (some oemvars, env.flashOemvars oemvars)
  | none =>
      if env.config.halAutodetect then
        match getBootimageBlob env image with
        | .error ret => (none, if ret = .unsupported ∨ ret = .notFound then .success else ret)
        | .ok oemvars => (some oemvars, env.flashOemvars oemvars)
      else (none, .notFound)

/-- `set_oemvars_update`: the flag, which a failed write leaves. -/
def setOemvarsUpdate (env : OemvarsEnv) (flag updated : Bool) : Bool :=
  if env.flagWriteOk then updated else flag

/-- `set_image_oemvars`: the flag is cleared before the vars are applied. -/
def setImageOemvars (env : OemvarsEnv) (flag : Bool) (image : Bytes) :
    Bool × Option (List UInt8) × EfiStatus :=
  if !flag then (flag, none, .success)
  else (setOemvarsUpdate env flag false, setImageOemvarsNocheck env image)

/-- The switch of `efi_main` on the target once the image is loaded. -/
def loadedImageOemvars (env : OemvarsEnv) (bootTarget : BootTarget) (flag : Bool) (image : Bytes) :
    Bool × Option (List UInt8) :=
  match bootTarget with
  | .recovery | .espBootimage =>
      let oemvars := (setImageOemvarsNocheck env image).1
      (setOemvarsUpdate env flag true, oemvars)
  | .normalBoot | .charger =>
      let (flag, oemvars, _) := setImageOemvars env flag image
      (flag, oemvars)
  | _ => (flag, none)

/-- A boot as the OEM vars step sees it. -/
structure OemvarsBoot where
  env : OemvarsEnv
  bootTarget : BootTarget
  image : Bytes

/-- Consecutive boots from a persisted flag. -/
def oemvarsRun (flag : Bool) : List OemvarsBoot → Bool × List (Option (List UInt8))
  | [] => (flag, [])
  | boot :: boots =>
      let step := loadedImageOemvars boot.env boot.bootTarget flag boot.image
      let run := oemvarsRun step.1 boots
      (run.1, step.2 :: run.2)

/-- The value a boot writes to the flag when the write succeeds. -/
def flagWrite (boot : OemvarsBoot) : Option Bool :=
  if boot.env.flagWriteOk then
    match boot.bootTarget with
    | .recovery | .espBootimage => some true
    | .normalBoot | .charger => some false
    | _ => none
  else none

/-- The flag a boot leaves is the value it writes, whatever `flash_oemvars` returns. -/
theorem loadedImageOemvars_flag (boot : OemvarsBoot) (flag : Bool) :
    (loadedImageOemvars boot.env boot.bootTarget flag boot.image).1 = (flagWrite boot).getD flag := by
  unfold loadedImageOemvars flagWrite setImageOemvars setOemvarsUpdate
  cases boot.env.flagWriteOk <;> cases flag <;> split <;> rfl

/-- After any run the flag holds the last value a boot wrote. -/
theorem oemvarsRun_flag (flag : Bool) (boots : List OemvarsBoot) :
    (oemvarsRun flag boots).1 = (boots.filterMap flagWrite).getLast?.getD flag := by
  induction boots generalizing flag with
  | nil => rfl
  | cons boot boots inductionHypothesis =>
      simp only [oemvarsRun, inductionHypothesis, loadedImageOemvars_flag, List.filterMap_cons]
      cases flagWrite boot with
      | none => rfl
      | some written => simp only [List.getLast?_cons, Option.getD_some]

end Kernelflinger.OemVars
