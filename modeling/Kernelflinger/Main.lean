import Kernelflinger.Decision
import Kernelflinger.BootImage

/-
`efi_main`: the boot target, the device's verified-boot state, and each image the run hands to
`load_image` with the state it hands it with.
-/

namespace Kernelflinger.Main

open Memory BootImage Decision

/-- The keystores an image is verified against: the OEM one or the user one. -/
inductive Keystore where
  | oem
  | user
  deriving DecidableEq, Repr

/-- The warnings `efi_main` shows for a state that is not GREEN. -/
inductive Warning where
  /-- `ux_prompt_user_secure_boot_off`. -/
  | secureBootOff
  /-- `ux_prompt_user_keystore_unverified`. -/
  | keystoreUnverified
  /-- `ux_prompt_user_device_unlocked`. -/
  | deviceUnlocked
  /-- `ux_warn_user_unverified_recovery`. -/
  | recoveryUnverified
  /-- `ux_prompt_user_bootimage_unverified`. -/
  | bootimageUnverified
  deriving DecidableEq, Repr

/-- What `fastboot_start` returns on one turn of the Fastboot loop. -/
inductive FastbootAnswer where
  /-- An error: the loop ends. -/
  | failed (status : EfiStatus)
  /-- An image sent by 'fastboot boot', and what `device_is_unlocked()` answers then. -/
  | bootImage (image : List UInt8) (unlocked : Bool)
  /-- An EFI application to load and start. -/
  | efiImage
  /-- A target to reboot into; `UNKNOWN_TARGET` asks for nothing. -/
  | target (target : BootTarget)
  deriving DecidableEq, Repr

/-- Where an image handed to `load_image` was read from. -/
inductive Source where
  | bootPartition
  | recoveryPartition
  | espFile
  /-- The image at `target_address`. -/
  | memory
  | fastbootFile
  | tdosFile
  /-- An image sent by 'fastboot boot'. -/
  | fastbootBoot
  deriving DecidableEq, Repr

/-- What a run of `efi_main` does that its verified-boot policy is about. -/
inductive Event where
  /-- `boot_state` is set. -/
  | setBootState (state : BootState)
  /-- A warning is shown. -/
  | warn (warning : Warning)
  /-- `load_image(image, state, target)`. -/
  | loadImage (source : Source) (image : List UInt8) (state : BootState) (target : BootTarget)
  /-- An EFI application is loaded and started. -/
  | efiApplication
  deriving DecidableEq, Repr

/-- How a run of `efi_main` ends. -/
inductive Ending where
  /-- `efi_main` returns `status`. -/
  | returned (status : EfiStatus)
  /-- `ResetSystem` after a firmware-update capsule. -/
  | reset
  /-- `halt_system`. -/
  | halted
  /-- `reboot`, to the target Fastboot asked for if any. -/
  | rebooted (target : Option BootTarget)
  /-- `android_image_start_buffer` entered the kernel. -/
  | kernel
  /-- The Fastboot loop is still running. -/
  | inFastboot
  deriving DecidableEq, Repr

/-- What `efi_main`'s collaborators answer on one run. -/
structure Device where
  /-- `OpenProtocol` of the loaded-image protocol. -/
  loadedImage : Except EfiStatus Unit
  /-- `is_efi_secure_boot_enabled()`. -/
  secureBootEnabled : Bool
  /-- `device_is_provisioning()`. -/
  provisioning : Bool
  /-- `device_is_unlocked()`, as `efi_main` asks it. -/
  unlocked : Bool
  /-- Whether `get_user_keystore` finds a user keystore. -/
  userKeystore : Bool
  /-- `verify_android_keystore` of a keystore against the OEM key. -/
  keystoreVerifies : Keystore → Bool
  /-- `verify_android_boot_image`: the target name the signature carries, if any. -/
  verify : List UInt8 → Keystore → Option Str16
  /-- `BOOT_SIGNATURE_MAX_SIZE`. -/
  bootSignatureMaxSize : Nat
  /-- The partitions `BOOT_LABEL` and `RECOVERY_LABEL` name. -/
  bootPartition : BootPartition
  recoveryPartition : BootPartition
  /-- The ESP file at a path (`NULL` included). -/
  espFile : Option Str16 → EspFile
  /-- The image `target_address` points at. -/
  memoryImage : Nat → List UInt8
  /-- What `fastboot_start` returns, turn after turn. -/
  fastbootSession : List FastbootAnswer
  /-- `android_image_start_buffer`: `none` when it enters the kernel. -/
  startBuffer : List UInt8 → BootState → BootTarget → Option EfiStatus

/-- `FASTBOOT_PATH`. -/
def fastbootPath : Str16 := lit "\\fastboot.img"

/-- `TDOS_PATH`. -/
def tdosPath : Str16 := lit "\\tdos.img"

/-- `FWUPDATE_FILE`. -/
def fwupdateFile : Str16 := lit "\\BIOSUPDATE.fv"

/-- A run: what it did, and how it ended. -/
abbrev Run := List Event × Ending

/-- The target names `validate_bootimage` takes: `expected`, `expected2`. -/
def expectedNames (config : BuildConfig) : BootTarget → Option Str16 × Option Str16
  | .normalBoot => (some (lit "/boot"), some (lit "/recovery"))
  | .charger => (some (lit "/boot"), none)
  | .recovery => (some (lit "/recovery"), none)
  | .espBootimage => (some (lit "/boot"), if config.userfastboot then some (lit "/fastboot") else none)
  | _ => (none, none)

/-- `validate_bootimage`: verified, with a name the target expects. -/
def validateBootimage (config : BuildConfig) (device : Device) (target : BootTarget)
    (image : List UInt8) (keystore : Keystore) : EfiStatus :=
  match device.verify image keystore with
  | none => .accessDenied
  | some name =>
      if (expectedNames config target).1 ≠ some name ∧ (expectedNames config target).2 ≠ some name then
        .accessDenied
      else .success

/-- The switch of `load_boot_image`: where the target's image is read from. -/
def readBootImage (config : BuildConfig) (device : Device) (target : BootTarget)
    (targetPath : Option Str16) (oneshot : Bool) : Option (Source × Except EfiStatus (List UInt8)) :=
  match target with
  | .normalBoot | .charger =>
      some (.bootPartition, androidImageLoadPartition device.bootSignatureMaxSize device.bootPartition)
  | .recovery =>
      some (.recoveryPartition,
        androidImageLoadPartition device.bootSignatureMaxSize device.recoveryPartition)
  | .espBootimage =>
      some (.espFile, (androidImageLoadFile config.intnBits device.bootSignatureMaxSize
        (device.espFile targetPath) oneshot).result)
  | _ => none

/-- What `load_boot_image` returns. -/
inductive Loaded where
  | ok (source : Source) (image : List UInt8)
  | denied (status : EfiStatus) (source : Source) (image : List UInt8)
  | failed (status : EfiStatus)

/-- `load_boot_image`: the target's image, validated when a keystore was selected. -/
def loadBootImage (config : BuildConfig) (device : Device) (target : BootTarget)
    (keystore : Option Keystore) (targetPath : Option Str16) (oneshot : Bool) : Loaded :=
  match readBootImage config device target targetPath oneshot with
  | none => .failed .invalidParameter
  | some (_, .error status) => .failed status
  | some (source, .ok image) =>
      match keystore with
      | none => .ok source image
      | some keystore =>
          match validateBootimage config device target image keystore with
          | .success => .ok source image
          | status => .denied status source image

/-- `load_image` as the last call of a path, else the path goes on with `ending`. -/
def handOver (device : Device) (source : Source) (image : List UInt8) (state : BootState)
    (target : BootTarget) (ending : EfiStatus → Ending) : Run :=
  ([.loadImage source image state target],
    match device.startBuffer image state target with
    | none => .kernel
    | some status => ending status)

/-- The loop of `enter_fastboot_mode` without `USERFASTBOOT`. -/
def fastbootLoop (device : Device) : List FastbootAnswer → Run
  | [] => ([], .inFastboot)
  | .failed _ :: _ => ([], .halted)
  | .bootImage image unlocked :: answers =>
      if unlocked then
        match device.startBuffer image .orange .normalBoot with
        | none => ([.loadImage .fastbootBoot image .orange .normalBoot], .kernel)
        | some _ =>
            let rest := fastbootLoop device answers
            (.loadImage .fastbootBoot image .orange .normalBoot :: rest.1, rest.2)
      else fastbootLoop device answers
  | .efiImage :: answers =>
      let rest := fastbootLoop device answers
      (.efiApplication :: rest.1, rest.2)
  | .target target :: answers =>
      if target = .unknownTarget then fastbootLoop device answers else ([], .rebooted (some target))

/-- The verified chainload `enter_tdos` and `enter_fastboot_mode` share. -/
def chainloadVerified (config : BuildConfig) (device : Device) (bootState : BootState)
    (label : Str16) (target : BootTarget) (source : Source) :
    Except EfiStatus (List UInt8) → Run
  | .error _ => ([], .halted)
  | .ok image =>
      if config.userdebug ∧ device.verify image .oem ≠ some label then ([], .halted)
      else handOver device source image bootState target fun _ => .halted

/-- `enter_fastboot_mode` with `USERFASTBOOT`. -/
def enterUserfastboot (config : BuildConfig) (device : Device) (bootState : BootState)
    (targetAddress : Nat) : Run :=
  if targetAddress = 0 then
    chainloadVerified config device bootState (lit "/fastboot") .fastboot .fastbootFile
      (androidImageLoadFile config.intnBits device.bootSignatureMaxSize
        (device.espFile (some fastbootPath)) false).result
  else
    chainloadVerified config device bootState (lit "/fastboot") .fastboot .memory
      (.ok (device.memoryImage targetAddress))

/-- `enter_fastboot_mode`. -/
def enterFastbootMode (config : BuildConfig) (device : Device) (bootState : BootState)
    (targetAddress : Nat) : Run :=
  if config.userfastboot then enterUserfastboot config device bootState targetAddress
  else fastbootLoop device device.fastbootSession

/-- `enter_tdos`: the ESP's TDOS image, chainloaded as `/tdos`. -/
def enterTdos (config : BuildConfig) (device : Device) (bootState : BootState) : Run :=
  chainloadVerified config device bootState (lit "/tdos") .tdos .tdosFile
    (androidImageLoadFile config.intnBits device.bootSignatureMaxSize
      (device.espFile (some tdosPath)) false).result

/-- `boot_state`, `lock_prompted` and `selected_keystore` after the checks. -/
structure DeviceState (config : BuildConfig) (device : Device) where
  bootState : BootState
  lockPrompted : Bool
  keystore : Option Keystore
  /-- GREEN comes with a keystore `verify_android_keystore` accepted. -/
  greenVerified : bootState = .green → ∃ selected, keystore = some selected ∧
    device.keystoreVerifies selected = true
  /-- The secure-boot warning is behind only where unlocking is allowed. -/
  promptedUnlockable : lockPrompted = true → config.noDeviceUnlock = false
  /-- Only builds without `USERDEBUG` are RED. -/
  notRed : config.userdebug = true → bootState ≠ .red

/-- `select_keystore`: the user keystore if there is one, else the OEM one. -/
def selectKeystore (device : Device) : Keystore := if device.userKeystore then .user else .oem

/-- The device-state checks of `efi_main`; `none` is a halt. -/
def checkDeviceState (config : BuildConfig) (device : Device) :
    List Event × Option (DeviceState config device) :=
  if debug : config.userdebug then
    if !device.secureBootEnabled ∧ !device.provisioning then
      if unlockable : config.noDeviceUnlock = false then
        ([.setBootState .orange, .warn .secureBootOff],
          some ⟨.orange, true, none, nofun, fun _ => unlockable, fun _ => nofun⟩)
      else ([.setBootState .orange, .warn .secureBootOff], none)
    else if device.unlocked then
      ([.setBootState .orange], some ⟨.orange, false, none, nofun, nofun, fun _ => nofun⟩)
    else if verified : device.keystoreVerifies (selectKeystore device) = true then
      ([], some ⟨.green, false, some (selectKeystore device), fun _ => ⟨_, rfl, verified⟩, nofun,
        fun _ => nofun⟩)
    else
      ([.setBootState .yellow],
        some ⟨.yellow, false, some (selectKeystore device), nofun, nofun, fun _ => nofun⟩)
  else
    ([.setBootState .red],
      some ⟨.red, false, none, nofun, nofun, fun isDebug => absurd isDebug debug⟩)

/-- The warning a state that is not GREEN asks for, if any. -/
def stateWarning (bootState : BootState) (lockPrompted : Bool) : Option Warning :=
  if bootState = .yellow then some .keystoreUnverified
  else if bootState = .orange ∧ lockPrompted = false then some .deviceUnlocked
  else none

/-- The end of `efi_main` for an image target. -/
def bootImagePath (config : BuildConfig) (device : Device) (target : BootTarget) (pass : Pass)
    (state : DeviceState config device) : Run :=
  let warning := stateWarning state.bootState state.lockPrompted
  let warned : List Event := warning.toList.map .warn
  if config.noDeviceUnlock ∧ warning.isSome then (warned, .halted)
  else
    let failure : List Event := [.setBootState .red,
      .warn (if target = .recovery then .recoveryUnverified else .bootimageUnverified)]
    match loadBootImage config device target state.keystore pass.targetPath pass.oneshot with
    | .ok source image =>
        let rest := handOver device source image state.bootState target .returned
        (warned ++ rest.1, rest.2)
    | .denied _ source image =>
        if config.noDeviceUnlock then (warned ++ failure, .halted)
        else
          let rest := handOver device source image .red target .returned
          (warned ++ failure ++ rest.1, rest.2)
    | .failed _ => (warned ++ failure, .halted)

/-- What `efi_main` does once the device state is known. -/
def afterDeviceState (config : BuildConfig) (device : Device) (target : BootTarget) (pass : Pass)
    (state : DeviceState config device) : Run :=
  if config.userdebug ∧ config.user ∧ device.provisioning then
    enterFastbootMode config device state.bootState pass.targetAddress
  else if target = .espEfiBinary then ([.efiApplication], .rebooted none)
  else if target = .fastboot ∨ target = .memory then
    enterFastbootMode config device state.bootState pass.targetAddress
  else if target = .tdos then enterTdos config device state.bootState
  else bootImagePath config device target pass state

/-- `efi_main`. -/
def efiMain (env : DecisionEnv) (world : World) (device : Device) : Run :=
  match device.loadedImage with
  | .error status => ([], .returned status)
  | .ok () =>
      if env.fileExists fwupdateFile then ([], .reset)
      else
        let decision := chooseBootTarget env world
        if decision.1 = .exitShell then ([], .returned .success)
        else if decision.1 = .powerOff then ([], .halted)
        else
          match checkDeviceState env.config device with
          | (events, none) => (events, .halted)
          | (events, some state) =>
              let rest := afterDeviceState env.config device decision.1 decision.2 state
              (events ++ rest.1, rest.2)

/-- The boot state an event sets, or hands an image over with. -/
def Event.bootState? : Event → Option BootState
  | .setBootState state => some state
  | .loadImage _ _ state _ => some state
  | _ => none

/-- Every boot state the events set or hand an image over with is `level`. -/
def StaysAt (level : BootState) (events : List Event) : Prop :=
  ∀ state ∈ events.filterMap Event.bootState?, state = level

/-- The targets `load_boot_image` has an image for. -/
def androidTargets : List BootTarget := [.normalBoot, .charger, .recovery, .espBootimage]

/-- What a GREEN hand-over needs. -/
def GreenAccepted (config : BuildConfig) (device : Device) (image : List UInt8) :
    BootTarget → Prop
  | .fastboot => device.verify image .oem = some (lit "/fastboot")
  | .tdos => device.verify image .oem = some (lit "/tdos")
  | target => ∃ keystore name, device.keystoreVerifies keystore = true ∧
      device.verify image keystore = some name ∧
      ((expectedNames config target).1 = some name ∨ (expectedNames config target).2 = some name)

/-- What verified boot asks of an image handed to `load_image`. -/
def HandOverAllowed (config : BuildConfig) (device : Device) : Event → Prop
  | .loadImage source image state target =>
      (state = .green → GreenAccepted config device image target) ∧
      (source = .fastbootBoot → .bootImage image true ∈ device.fastbootSession ∧
        state = .orange ∧ target = .normalBoot ∧ config.userfastboot = false)
  | _ => True

/-- What a `NO_DEVICE_UNLOCK` build hands over. -/
def LockedHandOver (config : BuildConfig) : Event → Prop
  | .loadImage source _ state target =>
      config.noDeviceUnlock = true → target ∈ androidTargets → state = .green ∨ source = .fastbootBoot
  | _ => True

/-- A part of a run at one level, at least `bootState`, handing over what is allowed. -/
def AllowedFrom (config : BuildConfig) (device : Device) (bootState : BootState)
    (events : List Event) : Prop :=
  ∃ level, bootState ≤ level ∧ StaysAt level events ∧
    ∀ event ∈ events, HandOverAllowed config device event ∧ LockedHandOver config event

section Levels

theorem staysAt_append {level : BootState} {first second : List Event} :
    StaysAt level (first ++ second) ↔ StaysAt level first ∧ StaysAt level second := by
  simp only [StaysAt, List.filterMap_append, List.mem_append, or_imp, forall_and]

@[simp] theorem staysAt_warns (level : BootState) (warnings : List Warning) :
    StaysAt level (warnings.map .warn) := by
  simp [StaysAt, List.filterMap_map, Function.comp_def, Event.bootState?]

@[simp] theorem handOverAllowed_warns (config : BuildConfig) (device : Device)
    (warnings : List Warning) :
    ∀ event ∈ warnings.map Event.warn, HandOverAllowed config device event ∧ LockedHandOver config event := by
  intro event member
  obtain ⟨_, _, rfl⟩ := List.mem_map.mp member
  exact ⟨trivial, trivial⟩

theorem BootState.le_orange_of_ne_red {state : BootState} (notRed : state ≠ .red) :
    state ≤ .orange := by
  cases state <;> first | decide | exact absurd rfl notRed

/-- Two parts at rising levels never lower the state. -/
theorem bootStates_pairwise {first second : List Event} {low high : BootState}
    (atLow : StaysAt low first) (atHigh : StaysAt high second) (rises : low ≤ high) :
    ((first ++ second).filterMap Event.bootState?).Pairwise (· ≤ ·) := by
  rw [List.filterMap_append, List.pairwise_append]
  refine ⟨List.pairwise_of_forall_mem_list ?_, List.pairwise_of_forall_mem_list ?_, ?_⟩
  · intro a isA b isB
    rw [atLow a isA, atLow b isB]
    exact BootState.le_refl low
  · intro a isA b isB
    rw [atHigh a isA, atHigh b isB]
    exact BootState.le_refl high
  · intro a isA b isB
    rw [atLow a isA, atHigh b isB]
    exact rises

end Levels

section Loading

variable {config : BuildConfig} {device : Device}

/-- An image `validate_bootimage` passes verifies with an expected name. -/
theorem validateBootimage_success {target : BootTarget} {image : List UInt8} {keystore : Keystore}
    (valid : validateBootimage config device target image keystore = .success) :
    ∃ name, device.verify image keystore = some name ∧
      ((expectedNames config target).1 = some name ∨ (expectedNames config target).2 = some name) := by
  unfold validateBootimage at valid
  split at valid
  · cases valid
  · rename_i name signed
    split_ifs at valid with unexpected
    exact ⟨name, signed, by tauto⟩

/-- A validated image under an accepted keystore is a GREEN image for its target. -/
theorem greenAccepted_of_validated {target : BootTarget} {image : List UInt8} {keystore : Keystore}
    (accepted : device.keystoreVerifies keystore = true)
    (valid : validateBootimage config device target image keystore = .success) :
    GreenAccepted config device image target := by
  obtain ⟨name, signed, expected⟩ := validateBootimage_success valid
  cases target <;> first
    | exact ⟨keystore, name, accepted, signed, expected⟩
    | simp [expectedNames] at expected

/-- `load_boot_image` reads from a partition or the ESP, never from 'fastboot boot'. -/
theorem readBootImage_source {target : BootTarget} {targetPath : Option Str16} {oneshot : Bool}
    {source : Source} {read : Except EfiStatus (List UInt8)}
    (found : readBootImage config device target targetPath oneshot = some (source, read)) :
    source ≠ .fastbootBoot := by
  cases target <;> simp only [readBootImage, Option.some.injEq, Prod.mk.injEq, reduceCtorEq] at found <;>
    rw [← found.1] <;> decide

/-- What `load_boot_image` accepts passed `validate_bootimage`. -/
theorem loadBootImage_ok {target : BootTarget} {keystore : Option Keystore}
    {targetPath : Option Str16} {oneshot : Bool} {source : Source} {image : List UInt8}
    (loaded : loadBootImage config device target keystore targetPath oneshot = .ok source image) :
    source ≠ .fastbootBoot ∧
      ∀ selected, keystore = some selected →
        validateBootimage config device target image selected = .success := by
  unfold loadBootImage at loaded
  split at loaded
  · cases loaded
  · cases loaded
  · rename_i found
    split at loaded
    · cases loaded
      exact ⟨readBootImage_source found, fun _ => nofun⟩
    · rename_i selected
      split at loaded
      · rename_i valid
        cases loaded
        refine ⟨readBootImage_source found, ?_⟩
        rintro _ ⟨⟩
        exact valid
      · cases loaded

/-- A failed image `load_boot_image` hands back was not sent by 'fastboot boot'. -/
theorem loadBootImage_denied {target : BootTarget} {keystore : Option Keystore}
    {targetPath : Option Str16} {oneshot : Bool} {status : EfiStatus} {source : Source}
    {image : List UInt8}
    (loaded : loadBootImage config device target keystore targetPath oneshot =
      .denied status source image) :
    source ≠ .fastbootBoot := by
  unfold loadBootImage at loaded
  split at loaded
  · cases loaded
  · cases loaded
  · rename_i found
    split at loaded
    · cases loaded
    · split at loaded
      · cases loaded
      · cases loaded
        exact readBootImage_source found

end Loading

section Paths

variable {config : BuildConfig} {device : Device}

/-- The 'fastboot boot' loop hands over only images sent while unlocked. -/
theorem fastbootLoop_events (answers : List FastbootAnswer) :
    ∀ event ∈ (fastbootLoop device answers).1, event = .efiApplication ∨
      ∃ image, .bootImage image true ∈ answers ∧
        event = .loadImage .fastbootBoot image .orange .normalBoot := by
  induction answers with
  | nil => exact List.forall_mem_nil _
  | cons answer answers ih =>
      have later : ∀ event ∈ (fastbootLoop device answers).1, event = .efiApplication ∨
          ∃ image, .bootImage image true ∈ answer :: answers ∧
            event = .loadImage .fastbootBoot image .orange .normalBoot :=
        fun event member => (ih event member).imp_right
          fun ⟨image, sent, handed⟩ => ⟨image, List.mem_cons_of_mem _ sent, handed⟩
      cases answer with
      | failed status => exact List.forall_mem_nil _
      | bootImage image unlocked =>
          cases unlocked with
          | false => exact later
          | true =>
              have sent : ∃ sentImage, .bootImage sentImage true ∈ .bootImage image true :: answers ∧
                  Event.loadImage .fastbootBoot image .orange .normalBoot =
                    .loadImage .fastbootBoot sentImage .orange .normalBoot :=
                ⟨image, List.mem_cons_self _ _, rfl⟩
              simp only [fastbootLoop, if_true]
              split
              · exact List.forall_mem_cons.mpr ⟨.inr sent, List.forall_mem_nil _⟩
              · exact List.forall_mem_cons.mpr ⟨.inr sent, later⟩
      | efiImage => exact List.forall_mem_cons.mpr ⟨.inl rfl, later⟩
      | target target =>
          simp only [fastbootLoop]
          split
          · exact later
          · exact List.forall_mem_nil _

/-- Outside `USERFASTBOOT` Fastboot hands over only ORANGE images. -/
theorem fastbootLoop_allowedFrom {bootState : BootState} (belowOrange : bootState ≤ .orange)
    (plain : config.userfastboot = false) :
    AllowedFrom config device bootState (fastbootLoop device device.fastbootSession).1 := by
  have events := @fastbootLoop_events device device.fastbootSession
  refine ⟨.orange, belowOrange, ?_, ?_⟩
  · intro state member
    obtain ⟨event, member, stated⟩ := List.mem_filterMap.mp member
    rcases events event member with rfl | ⟨image, _, rfl⟩ <;> cases stated
    rfl
  · intro event member
    rcases events event member with rfl | ⟨image, sent, rfl⟩
    · exact ⟨trivial, trivial⟩
    · exact ⟨⟨nofun, fun _ => ⟨sent, rfl, rfl, plain⟩⟩, fun _ _ => .inr rfl⟩

/-- A chainloaded image carries the OEM signature with its target name. -/
theorem chainloadVerified_events {bootState : BootState} {label : Str16} {target : BootTarget}
    {source : Source} {loaded : Except EfiStatus (List UInt8)} (userdebug : config.userdebug = true) :
    ∀ event ∈ (chainloadVerified config device bootState label target source loaded).1,
      ∃ image, device.verify image .oem = some label ∧
        event = .loadImage source image bootState target := by
  cases loaded with
  | error status => simp [chainloadVerified]
  | ok image =>
      simp only [chainloadVerified]
      split_ifs with rejected
      · simp
      · simp only [userdebug, true_and, not_not] at rejected
        simp only [handOver, List.mem_singleton]
        rintro _ rfl
        exact ⟨image, rejected, rfl⟩

theorem chainloadVerified_allowedFrom {bootState : BootState} {label : Str16}
    {target : BootTarget} {source : Source} {loaded : Except EfiStatus (List UInt8)}
    (userdebug : config.userdebug = true)
    (accepted : ∀ image, device.verify image .oem = some label → GreenAccepted config device image target)
    (notSent : source ≠ .fastbootBoot) (notAndroid : target ∉ androidTargets) :
    AllowedFrom config device bootState
      (chainloadVerified config device bootState label target source loaded).1 := by
  have events :=
    @chainloadVerified_events config device bootState label target source loaded userdebug
  refine ⟨bootState, BootState.le_refl _, ?_, ?_⟩
  · intro state member
    obtain ⟨event, member, stated⟩ := List.mem_filterMap.mp member
    obtain ⟨image, _, rfl⟩ := events event member
    cases stated
    rfl
  · intro event member
    obtain ⟨image, signed, rfl⟩ := events event member
    exact ⟨⟨fun _ => accepted image signed, fun sent => absurd sent notSent⟩,
      fun _ android => absurd android notAndroid⟩

theorem enterFastbootMode_allowedFrom {bootState : BootState} {targetAddress : Nat}
    (userdebug : config.userdebug = true) (belowOrange : bootState ≤ .orange) :
    AllowedFrom config device bootState
      (enterFastbootMode config device bootState targetAddress).1 := by
  unfold enterFastbootMode
  split
  · unfold enterUserfastboot
    split <;> exact chainloadVerified_allowedFrom userdebug (fun _ signed => signed) (by decide)
      (by decide)
  · rename_i plain
    exact fastbootLoop_allowedFrom belowOrange (by simpa using plain)

theorem enterTdos_allowedFrom {bootState : BootState} (userdebug : config.userdebug = true) :
    AllowedFrom config device bootState (enterTdos config device bootState).1 :=
  chainloadVerified_allowedFrom userdebug (fun _ signed => signed) (by decide) (by decide)

/-- A state with no warning to show is GREEN, RED, or ORANGE already warned about. -/
theorem stateWarning_eq_none {bootState : BootState} {lockPrompted : Bool}
    (quiet : stateWarning bootState lockPrompted = none) :
    bootState = .green ∨ bootState = .red ∨ (bootState = .orange ∧ lockPrompted = true) := by
  cases bootState <;> cases lockPrompted <;> simp_all [stateWarning]

/-- In a `NO_DEVICE_UNLOCK` build the image path is entered only in GREEN. -/
theorem DeviceState.green_of_quiet (state : DeviceState config device)
    (userdebug : config.userdebug = true) (locked : config.noDeviceUnlock = true)
    (quiet : stateWarning state.bootState state.lockPrompted = none) : state.bootState = .green := by
  rcases stateWarning_eq_none quiet with green | red | ⟨_, prompted⟩
  · exact green
  · exact absurd red (state.notRed userdebug)
  · rw [state.promptedUnlockable prompted] at locked
    cases locked

theorem bootImagePath_allowedFrom {target : BootTarget} {pass : Pass}
    (state : DeviceState config device) (userdebug : config.userdebug = true) :
    AllowedFrom config device state.bootState (bootImagePath config device target pass state).1 := by
  unfold bootImagePath
  dsimp only
  set warned := (stateWarning state.bootState state.lockPrompted).toList.map Event.warn
  set failure : List Event := [.setBootState .red,
    .warn (if target = .recovery then .recoveryUnverified else .bootimageUnverified)]
  -- the RED end: whatever follows the failure warning is RED as well
  have failed : ∀ extra, StaysAt .red extra →
      (∀ event ∈ extra, HandOverAllowed config device event ∧ LockedHandOver config event) →
      AllowedFrom config device state.bootState (warned ++ failure ++ extra) := by
    intro extra atRed allowed
    refine ⟨.red, BootState.le_red _, ?_, ?_⟩
    · simp only [staysAt_append]
      exact ⟨⟨staysAt_warns _ _, by simp [StaysAt, failure, Event.bootState?]⟩, atRed⟩
    · simp only [List.forall_mem_append]
      exact ⟨⟨handOverAllowed_warns _ _ _, by simp [failure, HandOverAllowed, LockedHandOver]⟩, allowed⟩
  have halted : AllowedFrom config device state.bootState (warned ++ failure) := by
    simpa using failed [] (by simp [StaysAt]) (List.forall_mem_nil _)
  by_cases halts : config.noDeviceUnlock = true ∧
    (stateWarning state.bootState state.lockPrompted).isSome = true
  · rw [if_pos halts]
    exact ⟨state.bootState, BootState.le_refl _, staysAt_warns _ _, handOverAllowed_warns _ _ _⟩
  rw [if_neg halts]
  split
  · rename_i source image loaded
    obtain ⟨notSent, validated⟩ := loadBootImage_ok loaded
    refine ⟨state.bootState, BootState.le_refl _, ?_, ?_⟩
    · rw [staysAt_append]
      exact ⟨staysAt_warns _ _, by simp [StaysAt, handOver, Event.bootState?]⟩
    · simp only [handOver, List.mem_append, List.mem_singleton]
      rintro event (member | rfl)
      · exact handOverAllowed_warns _ _ _ event member
      · refine ⟨⟨fun green => ?_, fun sent => absurd sent notSent⟩, fun locked _ => .inl ?_⟩
        · obtain ⟨selected, chosen, accepted⟩ := state.greenVerified green
          exact greenAccepted_of_validated accepted (validated selected chosen)
        · exact state.green_of_quiet userdebug locked (by simpa [locked] using halts)
  · rename_i status source image loaded
    split
    · exact halted
    · rename_i unlockable
      refine failed _ (by simp [StaysAt, handOver, Event.bootState?]) ?_
      simp only [handOver, List.mem_singleton]
      rintro _ rfl
      exact ⟨⟨nofun, fun sent => absurd sent (loadBootImage_denied loaded)⟩,
        fun locked => absurd locked unlockable⟩
  · exact halted

theorem afterDeviceState_allowedFrom {target : BootTarget} {pass : Pass}
    (state : DeviceState config device) (userdebug : config.userdebug = true) :
    AllowedFrom config device state.bootState
      (afterDeviceState config device target pass state).1 := by
  have belowOrange := BootState.le_orange_of_ne_red (state.notRed userdebug)
  unfold afterDeviceState
  split_ifs
  · exact enterFastbootMode_allowedFrom userdebug belowOrange
  · exact ⟨state.bootState, BootState.le_refl _, by simp [StaysAt, Event.bootState?],
      by simp [HandOverAllowed, LockedHandOver]⟩
  · exact enterFastbootMode_allowedFrom userdebug belowOrange
  · exact enterTdos_allowedFrom userdebug
  · exact bootImagePath_allowedFrom state userdebug

end Paths

section DeviceChecks

variable {config : BuildConfig} {device : Device}

/-- The device-state checks set no state but the one they end in. -/
theorem checkDeviceState_staysAt {events : List Event} {state : DeviceState config device}
    (checked : checkDeviceState config device = (events, some state)) :
    StaysAt state.bootState events := by
  unfold checkDeviceState at checked
  split_ifs at checked <;> cases checked <;> simp [StaysAt, Event.bootState?]

/-- The device-state checks halt only after the secure-boot warning, in ORANGE. -/
theorem checkDeviceState_halted {events : List Event}
    (checked : checkDeviceState config device = (events, none)) :
    events = [.setBootState .orange, .warn .secureBootOff] := by
  unfold checkDeviceState at checked
  split_ifs at checked <;> cases checked
  rfl

theorem checkDeviceState_allowed (config : BuildConfig) (device : Device) :
    ∀ event ∈ (checkDeviceState config device).1,
      HandOverAllowed config device event ∧ LockedHandOver config event := by
  unfold checkDeviceState
  split_ifs <;> intro event member <;>
    simp only [List.mem_cons, List.not_mem_nil, or_false] at member <;> rcases member with rfl | rfl <;>
    exact ⟨trivial, trivial⟩

end DeviceChecks

/-- In `USERDEBUG` builds a run never lowers its boot state. -/
theorem efiMain_verifiedBoot (env : DecisionEnv) (world : World) (device : Device)
    (userdebug : env.config.userdebug = true) :
    ((efiMain env world device).1.filterMap Event.bootState?).Pairwise (· ≤ ·) ∧
      ∀ event ∈ (efiMain env world device).1,
        HandOverAllowed env.config device event ∧ LockedHandOver env.config event := by
  unfold efiMain
  split
  · simp
  split
  · simp
  dsimp only
  split
  · simp
  split
  · simp
  rcases checked : checkDeviceState env.config device with ⟨events, _ | state⟩
  · rw [checkDeviceState_halted checked]
    exact ⟨by simp [Event.bootState?], by simp [HandOverAllowed, LockedHandOver]⟩
  · obtain ⟨level, rises, atLevel, allowed⟩ :=
      @afterDeviceState_allowedFrom env.config device (chooseBootTarget env world).1
        (chooseBootTarget env world).2 state userdebug
    have checks := checkDeviceState_allowed env.config device
    rw [checked] at checks
    refine ⟨bootStates_pairwise (checkDeviceState_staysAt checked) atLevel rises, ?_⟩
    intro event member
    rcases List.mem_append.mp member with member | member
    · exact checks event member
    · exact allowed event member

/-- A locked `USERDEBUG` build started with the Fastboot sentinel on the ESP. -/
def sentinelEnv : DecisionEnv where
  bcbReadOk := false
  bcbWriteOk := false
  fileExists := fun path => decide (path = lit "\\force_fastboot")
  nameToBootTarget := fun _ => .unknownTarget
  offModeCharge := false
  config :=
    { user := false, userdebug := true, userfastboot := false, noDeviceUnlock := true,
      halAutodetect := false, lp64 := true }
  frameBytes := fun _ => 0
  watchdogBoot :=
    { crashEventMenu := false, statusReadOk := false, resetSource := .other 0, now := none,
      resetOk := false, timeRefWriteOk := false, counterWriteOk := false,
      promptAnswer := .normalBoot }
  argv := none
  strtoul16 := fun _ => 0
  keyStrokes := fun _ => none
  isMagicKey := fun _ => false
  magicKeyHeld := false
  wakeSource := .powerButtonPressed
  batteryBelowBootThreshold := false
  chargerPluggedIn := false

/-- Blank variables and a blank `misc` record. -/
def blankWorld : World :=
  ⟨⟨0, ⟨0, 0, 0, 0, 0, 0⟩⟩,
    ⟨List.replicate 32 0, List.replicate 32 0, List.length_replicate _ _, List.length_replicate _ _⟩,
    fun _ => none⟩

/-- An unlocked device that 'fastboot boot' sends one image to. -/
def unlockedDevice : Device where
  loadedImage := .ok ()
  secureBootEnabled := true
  provisioning := false
  unlocked := true
  userKeystore := false
  keystoreVerifies := fun _ => false
  verify := fun _ _ => none
  bootSignatureMaxSize := 0
  bootPartition := ⟨.error .notFound, [], false⟩
  recoveryPartition := ⟨.error .notFound, [], false⟩
  espFile := fun _ => ⟨false, .ok (), .ok (), false, .ok (), [], false, .copies, fun _ => 0⟩
  memoryImage := fun _ => []
  fastbootSession := [.bootImage [0x41] true]
  startBuffer := fun _ _ _ => none

theorem efiMain_verifiedBoot_sentinel :
    sentinelEnv.config.userdebug = true ∧
      ((efiMain sentinelEnv blankWorld unlockedDevice).1.filterMap Event.bootState?).Pairwise
          (· ≤ ·) ∧
        ∀ event ∈ (efiMain sentinelEnv blankWorld unlockedDevice).1,
          HandOverAllowed sentinelEnv.config unlockedDevice event ∧
            LockedHandOver sentinelEnv.config event :=
  ⟨rfl, efiMain_verifiedBoot sentinelEnv blankWorld unlockedDevice rfl⟩

/-- A `NO_DEVICE_UNLOCK` build boots a 'fastboot boot' image as ORANGE. -/
theorem efiMain_fastbootBoot_orange :
    sentinelEnv.config.userdebug = true ∧ sentinelEnv.config.noDeviceUnlock = true ∧
      efiMain sentinelEnv blankWorld unlockedDevice =
        ([.setBootState .orange, .loadImage .fastbootBoot [0x41] .orange .normalBoot], .kernel) ∧
      BootTarget.normalBoot ∈ androidTargets :=
  ⟨rfl, rfl, by decide, by decide⟩

end Kernelflinger.Main
