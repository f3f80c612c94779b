import Kernelflinger.Installer.Driver

/-
The installer's own flash handler, and the root commands and `fastboot_flash_cmd` over the run.
-/

namespace Kernelflinger.Installer

open Memory BootImage Driver

/-- The installer's own handler, called with two arguments, fails. -/
theorem flashBuffer_own_handler (env : DriverEnv) (argv : List Str8) (data : List UInt8) (s : Driver) :
    (flashBuffer env .installer (installerFlashCmd env .installer 2 argv) data 2 argv s).lastCmdSucceeded = false ∧
      (flashBuffer env .installer (installerFlashCmd env .installer 2 argv) data 2 argv s).calls = s.calls := by
  simp only [flashBuffer, installerFlashCmd, send_fail]
  exact ⟨rfl, rfl⟩

theorem foldl_own_handler (env : DriverEnv) (argv : List Str8) : ∀ (buffers : List (List UInt8)) (s : Driver),
    (buffers.foldl (fun s buffer =>
        flashBuffer env .installer (installerFlashCmd env .installer 2 argv) buffer 2 argv s) s).lastCmdSucceeded =
        (buffers.isEmpty && s.lastCmdSucceeded) ∧
      (buffers.foldl (fun s buffer =>
        flashBuffer env .installer (installerFlashCmd env .installer 2 argv) buffer 2 argv s) s).calls = s.calls
  | [], s => ⟨rfl, rfl⟩
  | buffer :: buffers, s => by
      obtain ⟨flag, calls⟩ := flashBuffer_own_handler env argv buffer s
      obtain ⟨flag', calls'⟩ := foldl_own_handler env argv buffers
        (flashBuffer env .installer (installerFlashCmd env .installer 2 argv) buffer 2 argv s)
      rw [List.foldl_cons, flag', calls', flag, calls, Bool.and_false]
      exact ⟨rfl, rfl⟩

/-- With the installer's own handler a flash asks nothing of the library. -/
theorem installerFlashCmd_own_handler (env : DriverEnv) (argc : Nat) (argv : List Str8) (s : Driver) :
    (installerFlashCmd env .installer argc argv s).calls = s.calls ∧
      ((installerFlashCmd env .installer argc argv s).lastCmdSucceeded = true → s.lastCmdSucceeded = true) := by
  have refused (t : Driver) (format : Str8) (calls : t.calls = s.calls) :
      (t.send [.fail format]).calls = s.calls ∧ ((t.send [.fail format]).lastCmdSucceeded = true → s.lastCmdSucceeded = true) := by
    rw [send_fail]
    exact ⟨calls, nofun⟩
  rcases argc with _ | argc
  · exact refused s _ rfl
  rw [installerFlashCmd]
  split_ifs with three
  · exact refused s _ rfl
  obtain rfl : argc = 2 := by omega
  dsimp only
  cases env.file (straToStr (argv.getD 2 [])) with
  | error ret => exact refused s _ rfl
  | ok content =>
      dsimp only
      split_ifs with large
      · unfold splitAndFlash
        dsimp only
        generalize installerSplitAndFlash _ content = split
        obtain ⟨flag, calls⟩ := foldl_own_handler env argv split.1.flashed s
        split
        · exact refused _ _ calls
        · refine ⟨calls, fun succeeded => ?_⟩
          rw [flag, Bool.and_eq_true] at succeeded
          exact succeeded.2
      · obtain ⟨failed, calls⟩ := flashBuffer_own_handler env argv content s
        exact ⟨calls, fun succeeded => absurd (failed.symm.trans succeeded) Bool.false_ne_true⟩

/-- The handler of the library's own `flash` command, if it has one. -/
def libraryFlash (env : DriverEnv) : Option Handle :=
  (getRootCmd (Driver.initial env).table (lit8 "flash")).map (·.handle)

theorem replaced_handle (table : List FastbootCmd) (replacement : Replacement) :
    (replaced table replacement).handle = .installer := by
  unfold replaced
  cases getRootCmd table replacement.name <;> rfl

/-- `replaced` is stable on a table where the command is already replaced. -/
theorem replaced_stable {table original : List FastbootCmd} {replacement : Replacement}
    (found : getRootCmd table replacement.name = getRootCmd original replacement.name ∨
      getRootCmd table replacement.name = some (replaced original replacement)) :
    replaced table replacement = replaced original replacement := by
  rcases found with same | again
  · rw [replaced, same, replaced]
  · have handle := replaced_handle original replacement
    rw [replaced, again]
    generalize replaced original replacement = cmd at handle ⊢
    cases cmd
    cases handle
    rfl

/-- The root commands and `fastboot_flash_cmd` between two calls. -/
structure Driver.RootCmds (env : DriverEnv) (s : Driver) : Prop where
  /-- A name `REPLACEMENTS` does not hold is the library's own. -/
  others : ∀ name, (∀ replacement ∈ replacements, replacement.name ≠ name) →
    getRootCmd s.table name = getRootCmd (initial env).table name
  /-- Once initialized each name of `REPLACEMENTS` is `replaced`. -/
  named : s.initialized = true → ∀ replacement ∈ replacements,
    getRootCmd s.table replacement.name = some (replaced (initial env).table replacement)
  /-- The library's `flash`, or the installer's own if it has none. -/
  saved : s.initialized = true → s.flashCmd = some ((libraryFlash env).getD .installer)
  unset : s.initialized = false → s.flashCmd = none
  /-- Before, all the library's, or all replaced if it has no `flash`. -/
  before : s.initialized = false →
    (∀ replacement ∈ replacements,
      getRootCmd s.table replacement.name = getRootCmd (initial env).table replacement.name) ∨
    libraryFlash env = none ∧ ∀ replacement ∈ replacements,
      getRootCmd s.table replacement.name = some (replaced (initial env).table replacement)

namespace Driver

theorem rootCmds_start (env : DriverEnv) (command : Str8) : ((initial env).storeCommand command).RootCmds env :=
  ⟨fun _ _ => rfl, nofun, nofun, fun _ => rfl, fun _ => .inl fun _ _ => rfl⟩

theorem RootCmds.of_same {env : DriverEnv} {s t : Driver} (root : s.RootCmds env)
    (flashCmd : t.flashCmd = s.flashCmd) (initialized : t.initialized = s.initialized) (table : t.table = s.table) :
    t.RootCmds env :=
  ⟨table ▸ root.others, fun set => table ▸ root.named (initialized ▸ set),
    fun set => flashCmd ▸ root.saved (initialized ▸ set), fun idle => flashCmd ▸ root.unset (initialized ▸ idle),
    fun idle => table ▸ root.before (initialized ▸ idle)⟩

theorem RootCmds.within {env : DriverEnv} {s t : Driver} (root : s.RootCmds env) (within : s.Within t) :
    t.RootCmds env :=
  root.of_same within.flashCmd within.initialized within.table

theorem handOver_keeps (bufLen : Nat) (flash : Handle) (s : Driver) :
    (handOver bufLen flash s).1.flashCmd = s.flashCmd ∧ (handOver bufLen flash s).1.initialized = s.initialized ∧
      (handOver bufLen flash s).1.table = s.table := by
  unfold handOver
  split
  · exact ⟨rfl, rfl, rfl⟩
  · split_ifs
    · rw [send_fail]
      exact ⟨rfl, rfl, rfl⟩
    · exact ⟨rfl, rfl, rfl⟩

theorem usbRunCommands_keeps (bufLen : Nat) (flash : Handle) (s : Driver) :
    (s.usbRunCommands bufLen flash).1.flashCmd = s.flashCmd ∧
      (s.usbRunCommands bufLen flash).1.initialized = s.initialized ∧ (s.usbRunCommands bufLen flash).1.table = s.table := by
  unfold usbRunCommands
  split_ifs
  · exact handOver_keeps bufLen flash s.afterCommand
  · exact ⟨rfl, rfl, rfl⟩
  · exact handOver_keeps bufLen flash s

end Driver

/-- A call of `fastboot_usb_run` keeps `RootCmds`, unless it fails early. -/
theorem fastbootUsbRun_rootCmds (env : DriverEnv) (bufLen : Nat) {s : Driver} (root : s.RootCmds env) :
    (fastbootUsbRun env bufLen s).1.RootCmds env ∨
      (fastbootUsbRun env bufLen s).1.initialized = false ∧ ∃ ret, (fastbootUsbRun env bufLen s).2 = .error ret := by
  unfold fastbootUsbRun
  split_ifs with initialized
  · obtain ⟨flashCmd, init, table⟩ := Driver.usbRunCommands_keeps bufLen (s.flashCmd.get (s.flashSet initialized)) s
    exact .inl (root.of_same flashCmd init table)
  have idle : s.initialized = false := by simpa using initialized
  have stable (replacement : Replacement) (member : replacement ∈ replacements) :
      replaced s.table replacement = replaced (Driver.initial env).table replacement := by
    rcases root.before idle with same | ⟨-, again⟩
    · exact replaced_stable (.inl (same replacement member))
    · exact replaced_stable (.inr (again replacement member))
  split
  · exact .inr ⟨idle, _, rfl⟩
  · rename_i table done
    obtain ⟨named, untouched, unsaved⟩ := replaceFunctions_replacements done
    have missing : libraryFlash env = none := by
      rcases root.before idle with same | ⟨none, -⟩
      · rw [same _ (List.mem_cons_self _ _), root.unset idle] at unsaved
        simpa [libraryFlash] using unsaved.symm
      · exact none
    rw [Driver.send_fail]
    exact .inl ⟨fun name other => (untouched name other).trans (root.others name other), nofun, nofun,
      fun _ => rfl, fun _ => .inr ⟨missing, fun replacement member => by
        rw [named replacement member, stable replacement member]⟩⟩
  · rename_i table flash done
    obtain ⟨named, untouched, saved⟩ := replaceFunctions_replacements done
    obtain ⟨flashCmd, init, kept⟩ := Driver.usbRunCommands_keeps bufLen flash
      { s with table, flashCmd := some flash, initialized := true, flashSet := fun _ => rfl }
    have set : (Driver.usbRunCommands bufLen flash
        { s with table, flashCmd := some flash, initialized := true, flashSet := fun _ => rfl }).1.initialized = true :=
      init
    refine .inl ⟨fun name other => kept ▸ (untouched name other).trans (root.others name other),
      fun _ replacement member => ?_, fun _ => ?_, fun unset => absurd (set.symm.trans unset) Bool.true_eq_false.mp,
      fun unset => absurd (set.symm.trans unset) Bool.true_eq_false.mp⟩
    · rw [kept, named replacement member, stable replacement member]
    rw [flashCmd]
    rw [root.unset idle] at saved
    rcases root.before idle with same | ⟨none, again⟩
    · rw [same _ (List.mem_cons_self _ _)] at saved
      change some flash = (libraryFlash env).orElse _ at saved
      cases library : libraryFlash env with
      | none => simp [library] at saved
      | some handle => simpa [library] using saved
    · rw [again _ (List.mem_cons_self _ _)] at saved
      simpa [none, replaced_handle] using saved

/-- `RootCmds` where the run ends, but after an early failure. -/
theorem installerRun_rootCmds (env : DriverEnv) (bufLen : Nat) : ∀ (fuel : Nat) {s : Driver}, s.RootCmds env →
    (installerRun env bufLen fuel s).1.initialized = true → (installerRun env bufLen fuel s).1.RootCmds env
  | 0, s, root => fun _ => root
  | fuel + 1, s, root => by
      have step := fastbootUsbRun_rootCmds env bufLen root
      rw [installerRun]
      generalize fastbootUsbRun env bufLen s = call at step ⊢
      obtain ⟨s', result⟩ := call
      rcases step with root' | ⟨idle, ret, failed⟩
      · cases result with
        | error ret => exact fun _ => root'
        | stopped => exact fun _ => root'
        | waiting => exact installerRun_rootCmds env bufLen fuel root'
        | handed command flash =>
            dsimp only
            cases ran : runCommand env flash command s' with
            | none => exact fun _ => root'
            | some s'' => exact installerRun_rootCmds env bufLen fuel (root'.within (runCommand_within env flash ran))
      · cases failed
        exact fun set => absurd (idle.symm.trans set) Bool.false_ne_true

/-- `RootCmds` where `efi_main` returns, once `fastboot_usb_run` was initialized. -/
theorem installerMain_rootCmds (env : DriverEnv) (fuel : Nat) (options : OptionsOutcome)
    (initialized : (installerMain env fuel options).1.initialized = true) :
    (installerMain env fuel options).1.RootCmds env := by
  rcases options with _ | _ | command
  · exact absurd initialized Bool.false_ne_true
  · exact absurd initialized Bool.false_ne_true
  cases buffer : env.cmdBufLen with
  | none =>
      simp only [installerMain, buffer] at initialized
      exact absurd initialized Bool.false_ne_true
  | some bufLen =>
      rw [(installerMain_run env fuel bufLen command buffer).1] at initialized ⊢
      exact installerRun_rootCmds env bufLen fuel (Driver.rootCmds_start env command) initialized

/-- With every registration granted, `installer_replace_functions` returns no error. -/
theorem replaceFunctions_registered {env : DriverEnv} : ∀ {replacements : List Replacement}
    (table : List FastbootCmd) (flashCmd : Option Handle),
    (∀ replacement ∈ replacements, env.register replacement.name = .success) →
    ∃ table' flash', replaceFunctions env replacements table flashCmd = ((table', flash'), none)
  | [], table, flashCmd, _ => ⟨table, flashCmd, rfl⟩
  | replacement :: rest, table, flashCmd, registered => by
      have later := fun later member => registered later (List.mem_cons_of_mem replacement member)
      rw [replaceFunctions]
      split
      · exact replaceFunctions_registered _ _ later
      · rw [if_pos (registered replacement (List.mem_cons_self _ _))]
        exact replaceFunctions_registered _ _ later

/-- A command found by `fastboot_get_root_cmd` has the name asked for. -/
theorem getRootCmd_name {table : List FastbootCmd} {name : Str8} {cmd : FastbootCmd}
    (found : getRootCmd table name = some cmd) : cmd.name = name := by
  simpa using List.find?_some found

theorem replaced_name (table : List FastbootCmd) (replacement : Replacement) :
    (replaced table replacement).name = replacement.name := by
  unfold replaced
  cases found : getRootCmd table replacement.name with
  | none => rfl
  | some cmd => exact @getRootCmd_name _ _ cmd found

/-- A first call of `fastboot_usb_run` whose replacements saved a flash handler. -/
theorem fastbootUsbRun_saved {env : DriverEnv} {bufLen : Nat} {s : Driver} {table : List FastbootCmd}
    {flash : Handle} (idle : s.initialized = false)
    (done : replaceFunctions env replacements s.table s.flashCmd = ((table, some flash), none)) :
    (fastbootUsbRun env bufLen s).1.initialized = true ∧ (fastbootUsbRun env bufLen s).1.flashCmd = some flash := by
  unfold fastbootUsbRun
  rw [dif_neg (by rw [idle]; exact Bool.false_ne_true), done]
  exact ⟨(usbRunCommands_keeps bufLen flash _).2.1, (usbRunCommands_keeps bufLen flash _).1⟩

/-- A first call of `fastboot_usb_run` whose replacements saved no flash handler. -/
theorem fastbootUsbRun_unsaved {env : DriverEnv} {bufLen : Nat} {s : Driver} {table : List FastbootCmd}
    (idle : s.initialized = false)
    (done : replaceFunctions env replacements s.table s.flashCmd = ((table, none), none)) :
    fastbootUsbRun env bufLen s =
      ({ s with table, flashCmd := none, flashSet := fun set => absurd (idle.symm.trans set) Bool.false_ne_true }.send
        [.fail (lit8 "Failed to get the flash handle")], .waiting) := by
  unfold fastbootUsbRun
  rw [dif_neg (by rw [idle]; exact Bool.false_ne_true), done]

/-- `fastboot_flash_cmd` once initialized: the library's `flash`, else ours. -/
theorem installerMain_flashCmd (env : DriverEnv) (bufLen : Nat) (command : Str8)
    (registered : ∀ replacement ∈ replacements, env.register replacement.name = .success) :
    (∀ fuel options, (installerMain env fuel options).1.initialized = true →
      (installerMain env fuel options).1.flashCmd = some ((libraryFlash env).getD .installer)) ∧
    (∀ flash, libraryFlash env = some flash →
      (fastbootUsbRun env bufLen ((Driver.initial env).storeCommand command)).1.initialized = true ∧
        (fastbootUsbRun env bufLen ((Driver.initial env).storeCommand command)).1.flashCmd = some flash) ∧
    (libraryFlash env = none → ∃ table,
      fastbootUsbRun env bufLen ((Driver.initial env).storeCommand command) =
        ({ (Driver.initial env).storeCommand command with table }.send
          [.fail (lit8 "Failed to get the flash handle")], .waiting) ∧
      (∀ replacement ∈ replacements,
        getRootCmd table replacement.name = some (replaced (Driver.initial env).table replacement)) ∧
      (fastbootUsbRun env bufLen (fastbootUsbRun env bufLen ((Driver.initial env).storeCommand command)).1).1.initialized =
        true ∧
      (fastbootUsbRun env bufLen (fastbootUsbRun env bufLen ((Driver.initial env).storeCommand command)).1).1.flashCmd =
        some .installer) := by
  refine ⟨fun fuel options set => (installerMain_rootCmds env fuel options set).saved set, ?_⟩
  obtain ⟨table, flash', done⟩ := replaceFunctions_registered (Driver.initial env).table none registered
  obtain ⟨named, -, saved⟩ := replaceFunctions_replacements done
  change flash' = (libraryFlash env).orElse fun _ => none at saved
  refine ⟨fun flash library => ?_, fun missing => ?_⟩
  · rw [library] at saved
    obtain rfl : flash' = some flash := saved
    exact fastbootUsbRun_saved rfl done
  rw [missing] at saved
  obtain rfl : flash' = none := saved
  have first := @fastbootUsbRun_unsaved env bufLen ((Driver.initial env).storeCommand command) _ rfl done
  obtain ⟨table', flash'', again⟩ := replaceFunctions_registered table none registered
  obtain ⟨-, -, resaved⟩ := replaceFunctions_replacements again
  rw [named _ (List.mem_cons_self _ _), Option.map_some', replaced_handle] at resaved
  obtain rfl : flash'' = some .installer := resaved
  refine ⟨table, first, named, ?_⟩
  rw [first, send_fail]
  exact fastbootUsbRun_saved rfl again

/-- `quietEnv` without its `flash` command. -/
def noFlashEnv : DriverEnv := { quietEnv with rootCmds := [(lit8 "getvar", .unknownState)] }

/-- Without a library `flash`, the second call saves the installer's own handler. -/
theorem installerMain_flashCmd_noFlash :
    (∀ replacement ∈ replacements, noFlashEnv.register replacement.name = .success) ∧ libraryFlash noFlashEnv = none ∧
      (fastbootUsbRun noFlashEnv 64
        (fastbootUsbRun noFlashEnv 64 ((Driver.initial noFlashEnv).storeCommand (lit8 "getvar"))).1).1.flashCmd =
        some .installer :=
  ⟨fun _ _ => rfl, rfl,
    let ⟨_, _, _, _, saved⟩ := (installerMain_flashCmd noFlashEnv 64 (lit8 "getvar") fun _ _ => rfl).2.2 rfl
    saved⟩

/-- Once initialized the unsupported commands are refused. -/
theorem runCommand_unsupported {env : DriverEnv} {s : Driver} (root : s.RootCmds env) (set : s.initialized = true)
    (flash : Handle) (command : Str8)
    (named : (env.splitArgs command).headD [] ∈
      [lit8 "update", lit8 "flashall", lit8 "boot", lit8 "devices", lit8 "download"]) :
    runCommand env flash command s = some (s.ask env (.denied (env.splitArgs command))) ∨
      runCommand env flash command s = some (unsupportedCmd s) := by
  obtain ⟨replacement, member, same, handler⟩ : ∃ replacement ∈ replacements,
      replacement.name = (env.splitArgs command).headD [] ∧ installerHandler replacement.name = .unsupportedCmd := by
    generalize (env.splitArgs command).headD [] = name at named
    simp only [List.mem_cons, List.mem_singleton, List.not_mem_nil, or_false] at named
    rcases named with rfl | rfl | rfl | rfl | rfl
    · exact ⟨replacements[2], List.getElem_mem _, rfl, rfl⟩
    · exact ⟨replacements[3], List.getElem_mem _, rfl, rfl⟩
    · exact ⟨replacements[4], List.getElem_mem _, rfl, rfl⟩
    · exact ⟨replacements[5], List.getElem_mem _, rfl, rfl⟩
    · exact ⟨replacements[6], List.getElem_mem _, rfl, rfl⟩
  have found := root.named set replacement member
  rw [same] at found
  unfold runCommand
  simp only [found]
  split_ifs
  · exact .inl rfl
  · right
    simp only [replaced_handle, replaced_name, handler, runInstaller]

/-- The root commands once `fastboot_usb_run` is initialized. -/
theorem installerMain_dispatch (env : DriverEnv) (fuel : Nat) (options : OptionsOutcome)
    (initialized : (installerMain env fuel options).1.initialized = true) :
    (∀ replacement ∈ replacements,
      getRootCmd (installerMain env fuel options).1.table replacement.name =
        some (replaced (Driver.initial env).table replacement)) ∧
    (∀ name, (∀ replacement ∈ replacements, replacement.name ≠ name) →
      getRootCmd (installerMain env fuel options).1.table name = getRootCmd (Driver.initial env).table name) ∧
    ∀ (flash : Handle) (command : Str8), (env.splitArgs command).headD [] ∈
        [lit8 "update", lit8 "flashall", lit8 "boot", lit8 "devices", lit8 "download"] →
      runCommand env flash command (installerMain env fuel options).1 =
          some ((installerMain env fuel options).1.ask env (.denied (env.splitArgs command))) ∨
        runCommand env flash command (installerMain env fuel options).1 =
          some (unsupportedCmd (installerMain env fuel options).1) :=
  ⟨(installerMain_rootCmds env fuel options initialized).named initialized,
    (installerMain_rootCmds env fuel options initialized).others,
    runCommand_unsupported (installerMain_rootCmds env fuel options initialized) initialized⟩

/-- After `getvar`, `boot` is refused by `unsupported_cmd`. -/
theorem installerMain_dispatch_getvar :
    (installerMain quietEnv 2 (.queued (lit8 "getvar"))).1.initialized = true ∧
      (runCommand quietEnv .installer (lit8 "boot") (installerMain quietEnv 2 (.queued (lit8 "getvar"))).1 =
          some ((installerMain quietEnv 2 (.queued (lit8 "getvar"))).1.ask quietEnv (.denied [lit8 "boot"])) ∨
        runCommand quietEnv .installer (lit8 "boot") (installerMain quietEnv 2 (.queued (lit8 "getvar"))).1 =
          some (unsupportedCmd (installerMain quietEnv 2 (.queued (lit8 "getvar"))).1)) :=
  ⟨rfl, (installerMain_dispatch quietEnv 2 (.queued (lit8 "getvar")) rfl).2.2 .installer (lit8 "boot") (by decide)⟩

end Kernelflinger.Installer
