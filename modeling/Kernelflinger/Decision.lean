import Kernelflinger.Watchdog
import Kernelflinger.Bcb

/-
`choose_boot_target`: the nine checks of the boot decision engine and the chain that runs
them, against the fold that stops at the first check with an opinion.
-/

namespace Kernelflinger.Decision

open Kernelflinger.Time Kernelflinger.Watchdog Kernelflinger.Bcb

/-- `EFI_INPUT_KEY`. -/
structure InputKey where
  scanCode : UInt16
  unicodeChar : UInt16
  deriving DecidableEq, Repr

/-- What the checks of one decision pass ask their collaborators. -/
structure DecisionEnv extends BcbEnv where
  config : BuildConfig
  /-- The bytes past `DAY_OF_MONTH` in `efi_time_to_ctime`'s frame. -/
  frameBytes : Nat → UInt8
  watchdogBoot : WatchdogBoot
  argv : Option (List Str16)
  strtoul16 : Str16 → Nat
  keyStrokes : Nat → Option InputKey
  /-- `ui_keycode_to_event(code) == MAGIC_KEY`. -/
  isMagicKey : UInt16 → Bool
  /-- `ui_enforce_key_held`. -/
  magicKeyHeld : Bool
  wakeSource : WakeSource
  batteryBelowBootThreshold : Bool
  chargerPluggedIn : Bool

/-- The persistent state the decision pass reads and writes. -/
structure World where
  watchdog : WatchdogStatus
  misc : BootloaderMessage
  vars : VarStore

/-- The calls a check makes that show on the device. -/
inductive Effect where
  | crashEventPrompt
  | unittest (argument : Option Str16)
  | lowBatteryNotice
  deriving DecidableEq, Repr

/-- The state of `choose_boot_target` between two checks. -/
structure Pass where
  world : World
  /-- A pointer, `0` for `NULL`. -/
  targetAddress : Nat
  targetPath : Option Str16
  oneshot : Bool
  effects : List Effect

/-- `check_fastboot_sentinel`. -/
def checkFastbootSentinel (env : DecisionEnv) : BootTarget :=
  if env.fileExists (lit "\\force_fastboot") then .fastboot else .normalBoot

/-- `EFI_RESET_WAIT_MS`. -/
def efiResetWaitMs : Nat := 200

/-- The poll bound of `check_magic_key`, if the variable is at most a second. -/
def magicKeyWaitMs (timeout : Option Nat) : Nat :=
  match timeout with
  | none => efiResetWaitMs
  | some waitMs => if 1000 < waitMs then efiResetWaitMs else waitMs

/-- The key `check_magic_key` reads: the first stroke of polls `0 .. wait_ms`. -/
def pollKeyStroke (env : DecisionEnv) (waitMs : Nat) : Option InputKey :=
  (List.range (waitMs + 1)).findSome? env.keyStrokes

/-- `check_magic_key`. -/
def checkMagicKey (env : DecisionEnv) (vars : VarStore) : BootTarget :=
  match pollKeyStroke env (magicKeyWaitMs (getEfiVariableLongFromStr8 vars .magicKeyTimeout)) with
  | none => .normalBoot
  | some key =>
      if !env.isMagicKey key.scanCode then .normalBoot
      else if env.config.userfastboot then (if env.magicKeyHeld then .fastboot else .recovery)
      else if env.magicKeyHeld then .fastboot
      else .normalBoot

/-- What `check_command_line` returns, and what `unittest_main` ran with. -/
structure CommandLineResult where
  target : BootTarget
  address : Nat
  unittest : Option (Option Str16)

/-- The argument loop of `check_command_line` from position `pos`. -/
def scanArguments (env : DecisionEnv) (pos : Nat) (target : BootTarget) (address : Nat) :
    List Str16 → CommandLineResult
  | [] => ⟨target, address, none⟩
  | argument :: rest =>
      if !env.config.userfastboot && argument == lit "-f" then
        scanArguments env (pos + 1) .fastboot address rest
      else if !env.config.user && argument == lit "-U" then ⟨.exitShell, address, some rest.head?⟩
      else if argument == lit "-a" then
        match rest with
        | [] => ⟨target, address, none⟩
        | operand :: rest =>
            if env.config.userfastboot then
              scanArguments env (pos + 2) .memory (env.strtoul16 operand) rest
            else scanArguments env (pos + 2) .fastboot address rest
      else if pos = 0 then scanArguments env 1 target address rest
      else ⟨target, address, none⟩

/-- `check_command_line`. -/
def checkCommandLine (env : DecisionEnv) : CommandLineResult :=
  match env.argv with
  | none => ⟨.normalBoot, 0, none⟩
  | some argv => scanArguments env 0 .normalBoot 0 argv

/-- `check_battery_inserted`. -/
def checkBatteryInserted (env : DecisionEnv) : BootTarget :=
  if env.wakeSource = .batteryInserted then .powerOff else .normalBoot

/-- `check_charge_mode`. -/
def checkChargeMode (env : DecisionEnv) : BootTarget :=
  if !env.offModeCharge then .normalBoot
  else if env.wakeSource = .usbChargerInserted ∨ env.wakeSource = .acdcChargerInserted then .charger
  else .normalBoot

/-- `check_battery`. -/
def checkBattery (env : DecisionEnv) : BootTarget :=
  if env.batteryBelowBootThreshold then (if env.chargerPluggedIn then .charger else .powerOff)
  else .normalBoot

/-- One check of the chain: its target and the pass it leaves. -/
abbrev Check := Pass → BootTarget × Pass

/-- `check_watchdog` in the pass. -/
def passWatchdog (env : DecisionEnv) : Check := fun pass =>
  let result := checkWatchdog env.config.intnBits env.frameBytes env.watchdogBoot pass.world.watchdog
  (result.target, { pass with
    world := { pass.world with watchdog := result.status }
    effects := pass.effects ++ if result.prompted then [.crashEventPrompt] else [] })

/-- `check_command_line(target_address)` in the pass. -/
def passCommandLine (env : DecisionEnv) : Check := fun pass =>
  let result := checkCommandLine env
  (result.target, { pass with
    targetAddress := result.address
    effects := pass.effects ++ match result.unittest with
      | some argument => [.unittest argument]
      | none => [] })

/-- `check_fastboot_sentinel` in the pass. -/
def passFastbootSentinel (env : DecisionEnv) : Check := fun pass =>
  (checkFastbootSentinel env, pass)

/-- `check_magic_key` in the pass. -/
def passMagicKey (env : DecisionEnv) : Check := fun pass =>
  (checkMagicKey env pass.world.vars, pass)

/-- `check_battery_inserted` in the pass. -/
def passBatteryInserted (env : DecisionEnv) : Check := fun pass =>
  (checkBatteryInserted env, pass)

/-- `check_bcb(target_path, oneshot)` in the pass. -/
def passBcb (env : DecisionEnv) : Check := fun pass =>
  let result := checkBcb env.toBcbEnv pass.world.misc
  (result.target, { pass with
    world := { pass.world with misc := result.disk }
    targetPath := result.targetPath
    oneshot := result.oneshot })

/-- `check_loader_entry_one_shot` in the pass. -/
def passLoaderEntryOneShot (env : DecisionEnv) : Check := fun pass =>
  let result := checkLoaderEntryOneShot env.toBcbEnv pass.world.vars
  (result.1, { pass with world := { pass.world with vars := result.2 } })

/-- `check_battery` with the notice shown before powering off. -/
def passBattery (env : DecisionEnv) : Check := fun pass =>
  let target := checkBattery env
  (target, { pass with
    effects := pass.effects ++ if target = .powerOff then [.lowBatteryNotice] else [] })

/-- `check_charge_mode` in the pass. -/
def passChargeMode (env : DecisionEnv) : Check := fun pass =>
  (checkChargeMode env, pass)

/-- The pass `choose_boot_target` starts from. -/
def initialPass (world : World) : Pass := ⟨world, 0, none, true, []⟩

/-- `choose_boot_target`. -/
def chooseBootTarget (env : DecisionEnv) (world : World) : BootTarget × Pass :=
  let (ret, pass) := passWatchdog env (initialPass world)
  if ret ≠ .normalBoot then (ret, pass) else
  let (ret, pass) := passCommandLine env pass
  if ret ≠ .normalBoot then (ret, pass) else
  let (ret, pass) := passFastbootSentinel env pass
  if ret ≠ .normalBoot then (ret, pass) else
  let (ret, pass) := passMagicKey env pass
  if ret ≠ .normalBoot then (ret, pass) else
  let (ret, pass) := passBatteryInserted env pass
  if ret ≠ .normalBoot then (ret, pass) else
  let (ret, pass) := passBcb env pass
  if ret ≠ .normalBoot then (ret, pass) else
  let (ret, pass) := passLoaderEntryOneShot env pass
  if ret ≠ .normalBoot then (ret, pass) else
  let (ret, pass) := passBattery env pass
  if ret ≠ .normalBoot then (ret, pass) else
  passChargeMode env pass

/-- Run the checks in order up to the first that decides. -/
def firstDecision : List Check → Pass → BootTarget × Pass
  | [], pass => (.normalBoot, pass)
  | check :: checks, pass =>
      if (check pass).1 ≠ .normalBoot then check pass else firstDecision checks (check pass).2

/-- The nine checks in the order of the policy. -/
def decisionChecks (env : DecisionEnv) : List Check :=
  [passWatchdog env, passCommandLine env, passFastbootSentinel env, passMagicKey env,
    passBatteryInserted env, passBcb env, passLoaderEntryOneShot env, passBattery env,
    passChargeMode env]

/-- The first `count` checks all defer, so the fold evaluates check number `count`. -/
def Reaches : List Check → Nat → Pass → Prop
  | _, 0, _ => True
  | [], _ + 1, _ => False
  | check :: checks, count + 1, pass =>
      (check pass).1 = .normalBoot ∧ Reaches checks count (check pass).2

/-- The pass after the first `count` checks. -/
def runChecks : List Check → Nat → Pass → Pass
  | _, 0, pass => pass
  | [], _ + 1, pass => pass
  | check :: checks, count + 1, pass => runChecks checks count (check pass).2

/-- A component no check changes is the same after the fold. -/
theorem firstDecision_frame {α : Type} (view : Pass → α) (checks : List Check)
    (keeps : ∀ check ∈ checks, ∀ pass, view (check pass).2 = view pass) (pass : Pass) :
    view (firstDecision checks pass).2 = view pass := by
  induction checks generalizing pass with
  | nil => rfl
  | cons check checks inductionHypothesis =>
      have first := keeps check (List.mem_cons_self _ _) pass
      simp only [firstDecision]
      split
      · exact first
      · rw [inductionHypothesis (fun other isMember => keeps other (List.mem_cons_of_mem _ isMember)),
          first]

/-- A component one check owns changes only once the fold reaches it. -/
theorem firstDecision_changes {α : Type} (view : Pass → α) (before : List Check) (owner : Check)
    (after : List Check) (keeps : ∀ check ∈ before ++ after, ∀ pass, view (check pass).2 = view pass)
    (pass : Pass) (changed : view (firstDecision (before ++ owner :: after) pass).2 ≠ view pass) :
    Reaches (before ++ owner :: after) before.length pass := by
  induction before generalizing pass with
  | nil => trivial
  | cons check before inductionHypothesis =>
      have first := keeps check (List.mem_cons_self _ _) pass
      simp only [List.cons_append, firstDecision] at changed
      split at changed
      · exact absurd first changed
      · rename_i deferred
        refine ⟨not_not.1 deferred, inductionHypothesis
          (fun other isMember => keeps other (List.mem_cons_of_mem _ isMember)) _ ?_⟩
        rwa [first]

/-- The checks that do not change a component leave it as it was. -/
theorem runChecks_frame {α : Type} (view : Pass → α) (checks : List Check) (count : Nat)
    (keeps : ∀ check ∈ checks.take count, ∀ pass, view (check pass).2 = view pass) (pass : Pass) :
    view (runChecks checks count pass) = view pass := by
  induction checks generalizing count pass with
  | nil => cases count <;> rfl
  | cons check checks inductionHypothesis =>
      cases count with
      | zero => rfl
      | succ count =>
          simp only [runChecks]
          rw [inductionHypothesis count (fun other isMember => keeps other
            (by simp only [List.take_succ_cons]; exact List.mem_cons_of_mem _ isMember)) _,
            keeps check (by simp) pass]

/-- Reaching check `count`, the fold goes on from what the first `count` left. -/
theorem firstDecision_of_reaches (checks : List Check) (count : Nat) (pass : Pass)
    (reaches : Reaches checks count pass) :
    firstDecision checks pass = firstDecision (checks.drop count) (runChecks checks count pass) := by
  induction checks generalizing count pass with
  | nil => cases count <;> rfl
  | cons check checks inductionHypothesis =>
      cases count with
      | zero => rfl
      | succ count =>
          obtain ⟨deferred, rest⟩ := reaches
          simp only [firstDecision, deferred, ne_eq, not_true_eq_false, if_false, List.drop_succ_cons,
            runChecks]
          exact inductionHypothesis count _ rest

theorem decided_or_deferred (result : BootTarget × Pass) :
    (if result.1 ≠ .normalBoot then result else (.normalBoot, result.2)) = result := by
  split
  · rfl
  · rename_i deferred
    exact Prod.ext (not_not.1 deferred).symm rfl

/-- The goto chain of `choose_boot_target` folds the nine checks. -/
theorem chooseBootTarget_eq_firstDecision (env : DecisionEnv) (world : World) :
    chooseBootTarget env world = firstDecision (decisionChecks env) (initialPass world) := by
  simp only [decisionChecks, firstDecision, decided_or_deferred]
  rfl

/-- Only `check_bcb` sets `*target_path`. -/
theorem decisionChecks_keep_targetPath (env : DecisionEnv) :
    ∀ check ∈ [passWatchdog env, passCommandLine env, passFastbootSentinel env, passMagicKey env,
      passBatteryInserted env] ++ [passLoaderEntryOneShot env, passBattery env, passChargeMode env],
      ∀ pass, (check pass).2.targetPath = pass.targetPath := by
  simp only [List.mem_append, List.mem_cons, List.not_mem_nil, or_false]
  rintro check ((rfl | rfl | rfl | rfl | rfl) | (rfl | rfl | rfl)) pass <;> rfl

/-- Only `check_bcb` writes `misc`. -/
theorem decisionChecks_keep_misc (env : DecisionEnv) :
    ∀ check ∈ [passWatchdog env, passCommandLine env, passFastbootSentinel env, passMagicKey env,
      passBatteryInserted env] ++ [passLoaderEntryOneShot env, passBattery env, passChargeMode env],
      ∀ pass, (check pass).2.world.misc = pass.world.misc := by
  simp only [List.mem_append, List.mem_cons, List.not_mem_nil, or_false]
  rintro check ((rfl | rfl | rfl | rfl | rfl) | (rfl | rfl | rfl)) pass <;> rfl

/-- Only `check_loader_entry_one_shot` writes the variable store. -/
theorem decisionChecks_keep_vars (env : DecisionEnv) :
    ∀ check ∈ [passWatchdog env, passCommandLine env, passFastbootSentinel env, passMagicKey env,
      passBatteryInserted env, passBcb env] ++ [passBattery env, passChargeMode env],
      ∀ pass, (check pass).2.world.vars = pass.world.vars := by
  simp only [List.mem_append, List.mem_cons, List.not_mem_nil, or_false]
  rintro check ((rfl | rfl | rfl | rfl | rfl | rfl) | (rfl | rfl)) pass <;> rfl

/-- `choose_boot_target` returns the first decision; the rest do not run. -/
theorem chooseBootTarget_first_decision (env : DecisionEnv) (world : World) :
    let checks := decisionChecks env
    let start := initialPass world
    let result := chooseBootTarget env world
    (∀ count check, checks[count]? = some check → Reaches checks count start →
        (check (runChecks checks count start)).1 ≠ .normalBoot →
          result = check (runChecks checks count start)) ∧
      (Reaches checks checks.length start →
        result = (.normalBoot, runChecks checks checks.length start)) ∧
      (result.2.world.watchdog ≠ world.watchdog → Reaches checks 0 start) ∧
      (result.2.world.misc ≠ world.misc → Reaches checks 5 start) ∧
      (result.2.world.vars ≠ world.vars → Reaches checks 6 start) ∧
      (result.2.targetPath ≠ none → Reaches checks 5 start ∧
        result = passBcb env (runChecks checks 5 start) ∧
        (result.1 = .espEfiBinary ∨ result.1 = .espBootimage)) := by
  intro checks start result
  have fold : result = firstDecision checks start := chooseBootTarget_eq_firstDecision env world
  refine ⟨?first, ?all, fun _ => trivial, ?misc, ?vars, ?path⟩
  case first =>
    intro count check found reaches decided
    obtain ⟨inRange, isCheck⟩ := List.getElem?_eq_some_iff.1 found
    rw [fold, firstDecision_of_reaches checks count start reaches, List.drop_eq_getElem_cons inRange,
      isCheck, firstDecision, if_pos decided]
  case all =>
    intro reaches
    rw [fold, firstDecision_of_reaches checks _ start reaches, List.drop_length]
    rfl
  case misc =>
    intro changed
    rw [fold] at changed
    exact firstDecision_changes (fun pass => pass.world.misc) _ (passBcb env) _
      (decisionChecks_keep_misc env) start changed
  case vars =>
    intro changed
    rw [fold] at changed
    exact firstDecision_changes (fun pass => pass.world.vars) _ (passLoaderEntryOneShot env) _
      (decisionChecks_keep_vars env) start changed
  case path =>
    intro hasPath
    have reaches : Reaches checks 5 start := by
      rw [fold] at hasPath
      exact firstDecision_changes (fun pass => pass.targetPath) _ (passBcb env) _
        (decisionChecks_keep_targetPath env) start hasPath
    have atBcb : firstDecision checks start =
        firstDecision (passBcb env :: [passLoaderEntryOneShot env, passBattery env, passChargeMode env])
          (runChecks checks 5 start) := firstDecision_of_reaches checks 5 start reaches
    rw [fold, atBcb] at hasPath ⊢
    rw [firstDecision] at hasPath ⊢
    split at hasPath
    · rename_i decided
      rw [if_pos decided]
      refine ⟨reaches, rfl, ?_⟩
      obtain ⟨path, found⟩ := Option.ne_none_iff_exists'.1 hasPath
      exact checkBcb_targetPath env.toBcbEnv _ path found
    · rename_i deferred
      have none : (passBcb env (runChecks checks 5 start)).2.targetPath = none :=
        checkBcb_normalBoot_path env.toBcbEnv _ (not_not.1 deferred)
      refine absurd ?_ hasPath
      rw [firstDecision_frame (fun pass => pass.targetPath) _
        (fun check isMember => decisionChecks_keep_targetPath env check
          (List.mem_append_right _ isMember)) _, none]

/-- The checks after `check_bcb` keep `*oneshot`. -/
theorem decisionChecks_keep_oneshot (env : DecisionEnv) :
    ∀ check ∈ [passLoaderEntryOneShot env, passBattery env, passChargeMode env],
      ∀ pass, (check pass).2.oneshot = pass.oneshot ∧ (check pass).2.world.misc = pass.world.misc := by
  simp only [List.mem_cons, List.not_mem_nil, or_false]
  rintro check (rfl | rfl | rfl) pass <;> exact ⟨rfl, rfl⟩

/-- Reaching `check_bcb` leaves on `misc` what it wrote. -/
theorem chooseBootTarget_of_reaches_bcb (env : DecisionEnv) (world : World)
    (reaches : Reaches (decisionChecks env) 5 (initialPass world)) :
    (chooseBootTarget env world).2.world.misc = (checkBcb env.toBcbEnv world.misc).disk ∧
      (chooseBootTarget env world).2.oneshot = (checkBcb env.toBcbEnv world.misc).oneshot := by
  have atBcb := firstDecision_of_reaches (decisionChecks env) 5 (initialPass world) reaches
  have misc : (runChecks (decisionChecks env) 5 (initialPass world)).world.misc = world.misc :=
    runChecks_frame (fun pass => pass.world.misc) (decisionChecks env) 5
      (fun check isMember => decisionChecks_keep_misc env check (List.mem_append_left _ isMember)) _
  rw [chooseBootTarget_eq_firstDecision, atBcb]
  rw [show (decisionChecks env).drop 5 =
    passBcb env :: [passLoaderEntryOneShot env, passBattery env, passChargeMode env] from rfl, firstDecision]
  split
  · simp [passBcb, misc]
  · have kept := firstDecision_frame (fun pass => (pass.oneshot, pass.world.misc)) _
      (fun check isMember pass => Prod.ext (decisionChecks_keep_oneshot env check isMember pass).1
        (decisionChecks_keep_oneshot env check isMember pass).2)
      (passBcb env (runChecks (decisionChecks env) 5 (initialPass world))).2
    simp only [Prod.ext_iff] at kept
    rw [kept.1, kept.2]
    simp [passBcb, misc]

/-- Reaching `check_loader_entry_one_shot` leaves the store it left. -/
theorem chooseBootTarget_of_reaches_oneShot (env : DecisionEnv) (world : World)
    (reaches : Reaches (decisionChecks env) 6 (initialPass world)) :
    (chooseBootTarget env world).2.world.vars = (checkLoaderEntryOneShot env.toBcbEnv world.vars).2 := by
  have atOneShot := firstDecision_of_reaches (decisionChecks env) 6 (initialPass world) reaches
  have vars : (runChecks (decisionChecks env) 6 (initialPass world)).world.vars = world.vars :=
    runChecks_frame (fun pass => pass.world.vars) (decisionChecks env) 6
      (fun check isMember => decisionChecks_keep_vars env check (List.mem_append_left _ isMember)) _
  rw [chooseBootTarget_eq_firstDecision, atOneShot]
  rw [show (decisionChecks env).drop 6 =
    passLoaderEntryOneShot env :: [passBattery env, passChargeMode env] from rfl, firstDecision]
  split
  · simp [passLoaderEntryOneShot, vars]
  · rw [firstDecision_frame (fun pass => pass.world.vars) _ (by
      simp only [List.mem_cons, List.not_mem_nil, or_false]
      rintro check (rfl | rfl) pass <;> rfl)]
    simp [passLoaderEntryOneShot, vars]

/-- A one-shot target is consumed: the next pass does not take it again. -/
theorem chooseBootTarget_consumes_oneshots (env : DecisionEnv) (world : World) :
    let checks := decisionChecks env
    let result := chooseBootTarget env world
    let first := runChecks checks 5 (initialPass world)
    let second := runChecks checks 5 (initialPass result.2.world)
    (Reaches checks 5 (initialPass world) → env.bcbReadOk = true → env.bcbWriteOk = true →
      result.2.world.misc = bcbRewritten world.misc (decide (StartsWith world.misc "bootonce-")) ∧
      result.2.oneshot = decide (StartsWith world.misc "bootonce-") ∧
      (StartsWith world.misc "boot-" →
        (passBcb env second).1 = (passBcb env first).1 ∧
        (passBcb env second).2.targetPath = (passBcb env first).2.targetPath ∧
        (passBcb env second).2.oneshot = false) ∧
      (StartsWith world.misc "bootonce-" →
        (passBcb env second).1 = .normalBoot ∧ (passBcb env second).2.targetPath = none)) ∧
    (Reaches checks 6 (initialPass world) →
      result.2.world.vars .loaderEntryOneShot = none ∧
      (passLoaderEntryOneShot env (runChecks checks 6 (initialPass result.2.world))).1 = .normalBoot) := by
  intro checks result first second
  have miscAt : ∀ start : World, (runChecks checks 5 (initialPass start)).world.misc = start.misc :=
    fun start => runChecks_frame (fun pass => pass.world.misc) (decisionChecks env) 5
      (fun check isMember => decisionChecks_keep_misc env check (List.mem_append_left _ isMember)) _
  have varsAt : ∀ start : World, (runChecks checks 6 (initialPass start)).world.vars = start.vars :=
    fun start => runChecks_frame (fun pass => pass.world.vars) (decisionChecks env) 6
      (fun check isMember => decisionChecks_keep_vars env check (List.mem_append_left _ isMember)) _
  refine ⟨fun reaches readOk writeOk => ?_, fun reaches => ?_⟩
  · obtain ⟨misc, oneshot⟩ := chooseBootTarget_of_reaches_bcb env world reaches
    obtain ⟨written, setsOneshot⟩ := checkBcb_disk_oneshot env.toBcbEnv world.misc readOk writeOk
    have secondReads : second.world.misc = (checkBcb env.toBcbEnv world.misc).disk := by
      rw [miscAt, misc]
    have firstReads : first.world.misc = world.misc := miscAt world
    refine ⟨misc.trans written, oneshot.trans setsOneshot, fun boot => ?_, fun bootonce => ?_⟩
    · have again := checkBcb_second_boot env.toBcbEnv world.misc readOk writeOk boot
      have clear : (checkBcb env.toBcbEnv world.misc).oneshot = false := by
        simpa [boot_not_bootonce world.misc boot] using setsOneshot
      simp only [passBcb, secondReads, firstReads, again, clear, and_self]
    · have again := checkBcb_second_bootonce env.toBcbEnv world.misc readOk writeOk bootonce
      simpa only [passBcb, secondReads] using again
  · have vars : result.2.world.vars = _ := chooseBootTarget_of_reaches_oneShot env world reaches
    refine ⟨by rw [vars, checkLoaderEntryOneShot_vars]; simp, ?_⟩
    simp only [passLoaderEntryOneShot, varsAt, vars]
    exact checkLoaderEntryOneShot_second env.toBcbEnv world.vars

end Kernelflinger.Decision
