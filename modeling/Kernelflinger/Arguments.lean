import Kernelflinger.Decision

/-
The argument vector of `check_command_line`: a first argument the loop may pass over, a run of
options, and what ends the run. The loop returns the target and address of the last option.
-/

namespace Kernelflinger.Decision

/-- An option `check_command_line` acts on. -/
inductive CommandOption where
  /-- `-f`: Fastboot. -/
  | fastboot
  /-- `-a` and its operand: a memory image, or Fastboot. -/
  | address (operand : Str16)
  deriving DecidableEq, Repr

/-- The arguments an option is written as. -/
def CommandOption.args : CommandOption → List Str16
  | .fastboot => [lit "-f"]
  | .address operand => [lit "-a", operand]

/-- Whether the build knows the option: `-f` only without `USERFASTBOOT`. -/
def CommandOption.allowed (config : BuildConfig) : CommandOption → Bool
  | .fastboot => !config.userfastboot
  | .address _ => true

/-- The options the loop knows: `-f` unless `USERFASTBOOT`, `-U` unless `USER`, `-a`. -/
def recognized (config : BuildConfig) (argument : Str16) : Bool :=
  (!config.userfastboot && argument == lit "-f") || (!config.user && argument == lit "-U") ||
    argument == lit "-a"

/-- How an option sets the target and the address. -/
def optionStep (env : DecisionEnv) (chosen : BootTarget × Nat) : CommandOption → BootTarget × Nat
  | .fastboot => (.fastboot, chosen.2)
  | .address operand =>
      if env.config.userfastboot then (.memory, env.strtoul16 operand) else (.fastboot, chosen.2)

/-- The target and address the last option sets; `NORMAL_BOOT` and `NULL` without one. -/
def lastOption (env : DecisionEnv) (options : List CommandOption) : BootTarget × Nat :=
  options.foldl (optionStep env) (.normalBoot, 0)

/-- The arguments a run of options is written as. -/
def optionArgs (options : List CommandOption) : List Str16 := (options.map CommandOption.args).flatten

theorem lit_a_ne_f : (lit "-a" == lit "-f") = false := by decide

theorem lit_a_ne_U : (lit "-a" == lit "-U") = false := by decide

theorem lit_U_ne_f : (lit "-U" == lit "-f") = false := by decide

section Scan

variable {env : DecisionEnv}

/-- One turn of the loop, whatever follows the argument. -/
theorem scanArguments_cons (pos : Nat) (target : BootTarget) (address : Nat) (argument : Str16)
    (rest : List Str16) :
    scanArguments env pos target address (argument :: rest) =
      if !env.config.userfastboot && argument == lit "-f" then
        scanArguments env (pos + 1) .fastboot address rest
      else if !env.config.user && argument == lit "-U" then ⟨.exitShell, address, some rest.head?⟩
      else if argument == lit "-a" then
        match rest with
        | [] => ⟨target, address, none⟩
        | operand :: rest =>
            if env.config.userfastboot then
              scanArguments env (pos + 2) .memory (env.strtoul16 operand) rest
            else scanArguments env (pos + 2) .fastboot address rest
      else if pos = 0 then scanArguments env 1 target address rest
      else ⟨target, address, none⟩ := by
  cases rest <;> rfl

theorem scanArguments_fastboot (known : env.config.userfastboot = false) (pos : Nat)
    (target : BootTarget) (address : Nat) (rest : List Str16) :
    scanArguments env pos target address (lit "-f" :: rest) =
      scanArguments env (pos + 1) (optionStep env (target, address) .fastboot).1
        (optionStep env (target, address) .fastboot).2 rest := by
  rw [scanArguments_cons, if_pos (by simp [known])]
  rfl

theorem scanArguments_address (pos : Nat) (target : BootTarget) (address : Nat)
    (operand : Str16) (rest : List Str16) :
    scanArguments env pos target address (lit "-a" :: operand :: rest) =
      scanArguments env (pos + 2) (optionStep env (target, address) (.address operand)).1
        (optionStep env (target, address) (.address operand)).2 rest := by
  simp only [scanArguments_cons, lit_a_ne_f, lit_a_ne_U, Bool.and_false, Bool.false_eq_true,
    if_false, beq_self_eq_true, if_true, optionStep]
  split <;> rfl

theorem scanArguments_missingOperand (pos : Nat) (target : BootTarget) (address : Nat) :
    scanArguments env pos target address [lit "-a"] = ⟨target, address, none⟩ := by
  simp only [scanArguments_cons, lit_a_ne_f, lit_a_ne_U, Bool.and_false, Bool.false_eq_true,
    if_false, beq_self_eq_true, if_true]

theorem scanArguments_unittest (debug : env.config.user = false) (pos : Nat) (target : BootTarget)
    (address : Nat) (rest : List Str16) :
    scanArguments env pos target address (lit "-U" :: rest) = ⟨.exitShell, address, some rest.head?⟩ := by
  simp only [scanArguments_cons, lit_U_ne_f, Bool.and_false, Bool.false_eq_true, if_false, debug,
    Bool.not_false, beq_self_eq_true, Bool.and_self, if_true]

theorem scanArguments_unrecognized {argument : Str16} (unknown : recognized env.config argument = false)
    (pos : Nat) (target : BootTarget) (address : Nat) (rest : List Str16) :
    scanArguments env pos target address (argument :: rest) =
      if pos = 0 then scanArguments env 1 target address rest else ⟨target, address, none⟩ := by
  simp only [recognized, Bool.or_eq_false_iff] at unknown
  rw [scanArguments_cons, if_neg (by simp [unknown.1.1]), if_neg (by simp [unknown.1.2]),
    if_neg (by simp [unknown.2])]

/-- The loop passes over a run of known options, each applying `optionStep`. -/
theorem scanArguments_options (options : List CommandOption)
    (allowed : ∀ option ∈ options, option.allowed env.config = true) (pos : Nat) (target : BootTarget)
    (address : Nat) (rest : List Str16) :
    scanArguments env pos target address (optionArgs options ++ rest) =
      scanArguments env (pos + (optionArgs options).length)
        (options.foldl (optionStep env) (target, address)).1
        (options.foldl (optionStep env) (target, address)).2 rest := by
  induction options generalizing pos target address with
  | nil => rfl
  | cons option options inductionHypothesis =>
      have later := inductionHypothesis fun other member => allowed other (List.mem_cons_of_mem _ member)
      have known := allowed option (List.mem_cons_self _ _)
      have unfolded : optionArgs (option :: options) ++ rest = option.args ++ (optionArgs options ++ rest) := by
        simp [optionArgs]
      have length : (optionArgs (option :: options)).length =
          option.args.length + (optionArgs options).length := by
        simp [optionArgs]
      rw [unfolded, length, List.foldl_cons]
      cases option with
      | fastboot =>
          simp only [CommandOption.allowed, Bool.not_eq_true'] at known
          rw [CommandOption.args, List.singleton_append, scanArguments_fastboot known, later, Prod.mk.eta]
          congr 1
          simp only [List.length_singleton]
          omega
      | address operand =>
          rw [CommandOption.args, List.cons_append, List.singleton_append, scanArguments_address, later,
            Prod.mk.eta]
          congr 1
          simp only [List.length_cons, List.length_nil]
          omega

/-- A run of options from the first argument sets its last option's target. -/
theorem scanArguments_parsed (head : List Str16) (options : List CommandOption)
    (skipped : head = [] ∨ ∃ name, head = [name] ∧ recognized env.config name = false)
    (allowed : ∀ option ∈ options, option.allowed env.config = true) (tail : List Str16) :
    scanArguments env 0 .normalBoot 0 (head ++ optionArgs options ++ tail) =
      scanArguments env (head ++ optionArgs options).length (lastOption env options).1
        (lastOption env options).2 tail := by
  rcases skipped with rfl | ⟨name, rfl, unknown⟩
  · simpa using scanArguments_options options allowed 0 .normalBoot 0 tail
  · rw [List.singleton_append, List.cons_append, scanArguments_unrecognized unknown, if_pos rfl,
      scanArguments_options options allowed, List.length_cons, Nat.add_comm]
    rfl

end Scan

/-- Every argument list is a run of known options, then where the loop stops. -/
theorem optionArgs_cover (config : BuildConfig) : ∀ arguments : List Str16,
    ∃ options tail, arguments = optionArgs options ++ tail ∧
      (∀ option ∈ options, option.allowed config = true) ∧
      (tail = [] ∨ tail = [lit "-a"] ∨
        (∃ bad rest, tail = bad :: rest ∧ recognized config bad = false) ∨
        ∃ rest, tail = lit "-U" :: rest ∧ config.user = false)
  | [] => ⟨[], [], rfl, nofun, .inl rfl⟩
  | argument :: rest => by
      by_cases fastboot : (!config.userfastboot && argument == lit "-f") = true
      · simp only [Bool.and_eq_true, Bool.not_eq_true', beq_iff_eq] at fastboot
        obtain ⟨options, tail, split, allowed, ending⟩ := optionArgs_cover config rest
        refine ⟨.fastboot :: options, tail, ?_, ?_, ending⟩
        · simp [optionArgs, CommandOption.args, fastboot.2, split]
        · simpa [CommandOption.allowed, fastboot.1] using allowed
      by_cases unittest : (!config.user && argument == lit "-U") = true
      · simp only [Bool.and_eq_true, Bool.not_eq_true', beq_iff_eq] at unittest
        exact ⟨[], argument :: rest, rfl, nofun, .inr (.inr (.inr ⟨rest, by rw [unittest.2], unittest.1⟩))⟩
      by_cases address : (argument == lit "-a") = true
      · rw [beq_iff_eq] at address
        match rest with
        | [] => exact ⟨[], [argument], rfl, nofun, .inr (.inl (by rw [address]))⟩
        | operand :: rest =>
            obtain ⟨options, tail, split, allowed, ending⟩ := optionArgs_cover config rest
            refine ⟨.address operand :: options, tail, ?_, ?_, ending⟩
            · simp [optionArgs, CommandOption.args, address, split]
            · simpa [CommandOption.allowed] using allowed
      · refine ⟨[], argument :: rest, rfl, nofun, .inr (.inr (.inl ⟨argument, rest, rfl, ?_⟩))⟩
        simpa [recognized, fastboot, unittest] using address

/-- Every argument vector is a run of known options and a stop; only `-U` exits. -/
theorem checkCommandLine_arguments (env : DecisionEnv) (argv : List Str16) :
    ∃ head options tail, argv = head ++ optionArgs options ++ tail ∧
      (head = [] ∨ ∃ name, head = [name] ∧ recognized env.config name = false) ∧
      (∀ option ∈ options, option.allowed env.config = true) ∧
      (((tail = [] ∨ tail = [lit "-a"] ∨
          ∃ bad rest, tail = bad :: rest ∧ recognized env.config bad = false ∧
            head ++ optionArgs options ≠ []) ∧
          checkCommandLine { env with argv := some argv } =
            ⟨(lastOption env options).1, (lastOption env options).2, none⟩) ∨
        ((∃ rest, tail = lit "-U" :: rest) ∧ env.config.user = false ∧
          checkCommandLine { env with argv := some argv } =
            ⟨.exitShell, (lastOption env options).2, some tail.tail.head?⟩)) := by
  -- the first argument is passed over when the loop does not recognise it
  obtain ⟨head, arguments, split, skipped, unskippedFirst⟩ :
      ∃ head arguments, argv = head ++ arguments ∧
        (head = [] ∨ ∃ name, head = [name] ∧ recognized env.config name = false) ∧
        (head = [] → ∀ first rest, arguments = first :: rest → recognized env.config first = true) := by
    cases argv with
    | nil => exact ⟨[], [], rfl, .inl rfl, fun _ _ _ => nofun⟩
    | cons first rest =>
        by_cases known : recognized env.config first = true
        · exact ⟨[], first :: rest, rfl, .inl rfl, fun _ _ _ same => by cases same; exact known⟩
        · exact ⟨[first], rest, rfl, .inr ⟨first, rfl, by simpa using known⟩, nofun⟩
  obtain ⟨options, tail, rfl, allowed, ending⟩ := optionArgs_cover env.config arguments
  rw [← List.append_assoc] at split
  have checked : checkCommandLine { env with argv := some argv } =
      scanArguments { env with argv := some argv } (head ++ optionArgs options).length
        (lastOption env options).1 (lastOption env options).2 tail := by
    have run := @scanArguments_parsed { env with argv := some argv } head options skipped allowed tail
    rw [← split] at run
    exact run
  refine ⟨head, options, tail, split, skipped, allowed, ?_⟩
  rcases ending with rfl | rfl | ⟨bad, rest, rfl, unknown⟩ | ⟨rest, rfl, debug⟩
  · exact .inl ⟨.inl rfl, checked⟩
  · exact .inl ⟨.inr (.inl rfl), by rw [checked, scanArguments_missingOperand]⟩
  · have started : head ++ optionArgs options ≠ [] := by
      intro empty
      obtain ⟨noHead, noOptions⟩ := List.append_eq_nil.mp empty
      rw [noOptions, List.nil_append] at unskippedFirst
      rw [unskippedFirst noHead bad rest rfl] at unknown
      cases unknown
    refine .inl ⟨.inr (.inr ⟨bad, rest, rfl, unknown, started⟩), ?_⟩
    rw [checked, @scanArguments_unrecognized { env with argv := some argv } bad unknown,
      if_neg (fun zero => started (List.eq_nil_of_length_eq_zero zero))]
  · exact .inr ⟨⟨rest, rfl⟩, debug, by
      rw [checked, @scanArguments_unittest { env with argv := some argv } debug]; rfl⟩

/-- A `USERDEBUG` build started from the shell with no other input. -/
def shellEnv (argv : List Str16) : DecisionEnv where
  bcbReadOk := false
  bcbWriteOk := false
  fileExists := fun _ => false
  nameToBootTarget := fun _ => .unknownTarget
  offModeCharge := false
  config :=
    { user := false, userdebug := true, userfastboot := false, noDeviceUnlock := false,
      halAutodetect := false, lp64 := true }
  frameBytes := fun _ => 0
  watchdogBoot :=
    { crashEventMenu := false, statusReadOk := false, resetSource := .other 0, now := none,
      resetOk := false, timeRefWriteOk := false, counterWriteOk := false,
      promptAnswer := .normalBoot }
  argv := some argv
  strtoul16 := fun _ => 0
  keyStrokes := fun _ => none
  isMagicKey := fun _ => false
  magicKeyHeld := false
  wakeSource := .powerButtonPressed
  batteryBelowBootThreshold := false
  chargerPluggedIn := false

/-- An unknown argument or a bare `-a` after `-f` leaves the target at Fastboot. -/
theorem checkCommandLine_error_after_option :
    recognized (shellEnv []).config (lit "-x") = false ∧
      (checkCommandLine (shellEnv [lit "kernelflinger.efi", lit "-f", lit "-x"])).target = .fastboot ∧
      (checkCommandLine (shellEnv [lit "kernelflinger.efi", lit "-f", lit "-a"])).target = .fastboot := by
  decide

end Kernelflinger.Decision
