import Kernelflinger.Installer.Commands

/-
`fastboot_usb_run`, which the fastboot library calls until the installer stops it: the root
commands changed by `installer_replace_functions` on the first call, then at each call the last
command's outcome tested and the next command of the queue handed to the library. With the
library's loop around it, `efi_main` of the installer.
-/

namespace Kernelflinger.Installer

open Memory BootImage

/-- `cmd->handle = ...` on the first root command of that name. -/
def setHandle (name : Str8) : List FastbootCmd → List FastbootCmd
  | [] => []
  | cmd :: rest => if cmd.name = name then { cmd with handle := .installer } :: rest else cmd :: setHandle name rest

/-- The loop of `installer_replace_functions` from `replacements` on. -/
def replaceFunctions (env : DriverEnv) :
    List Replacement → List FastbootCmd → Option Handle → (List FastbootCmd × Option Handle) × Option EfiStatus
  | [], table, flashCmd => ((table, flashCmd), none)
  | replacement :: rest, table, flashCmd =>
      match getRootCmd table replacement.name with
      | some cmd =>
          replaceFunctions env rest (setHandle replacement.name table)
            (if replacement.saveHandle then some cmd.handle else flashCmd)
      | none =>
          if env.register replacement.name = .success then
            replaceFunctions env rest (table ++ [⟨replacement.name, replacement.minState, .installer⟩]) flashCmd
          else ((table, flashCmd), some (env.register replacement.name))

/-- How a call of `fastboot_usb_run` returns. -/
inductive UsbRun where
  | error (status : EfiStatus)
  | waiting
  | handed (command : Str8) (flash : Handle)
  | stopped

namespace Driver

/-- The test after a command: the transmit buffer flushed, and the outcome recorded. -/
def afterCommand (s : Driver) : Driver :=
  { s.flushTxBuffer with outcomes := s.outcomes ++ [s.lastCmdSucceeded] }

/-- Hand the next command over, unless the queue is done or it does not fit. -/
def handOver (bufLen : Nat) (flash : Handle) (s : Driver) : Driver × UsbRun :=
  match s.queue.nextCommand with
  | (queue, none) => ({ s with queue }, .stopped)
  | (queue, some command) =>
      if bufLen < command.length then
        ({ s with queue }.send [.fail (lit8 "command too long for fastboot command buffer: %r")], .stopped)
      else ({ s with queue, started := s.started ++ [command] }, .handed command flash)

/-- `fastboot_usb_run` once initialized: test the last command, hand the next. -/
def usbRunCommands (bufLen : Nat) (flash : Handle) (s : Driver) : Driver × UsbRun :=
  if 0 < s.queue.currentCommand then
    if s.lastCmdSucceeded then handOver bufLen flash s.afterCommand else (s.afterCommand, .stopped)
  else handOver bufLen flash s

end Driver

/-- `fastboot_usb_run`, which changes the root commands on its first call. -/
def fastbootUsbRun (env : DriverEnv) (bufLen : Nat) (s : Driver) : Driver × UsbRun :=
  if initialized : s.initialized then
    s.usbRunCommands bufLen (s.flashCmd.get (s.flashSet initialized))
  else
    match replaceFunctions env replacements s.table s.flashCmd with
    | ((table, flashCmd), some ret) =>
        ({ s with table, flashCmd, flashSet := fun set => absurd set initialized }, .error ret)
    | ((table, none), none) =>
        ({ s with table, flashCmd := none, flashSet := fun set => absurd set initialized }.send
          [.fail (lit8 "Failed to get the flash handle")], .waiting)
    | ((table, some flash), none) =>
        Driver.usbRunCommands bufLen flash
          { s with table, flashCmd := some flash, initialized := true, flashSet := fun _ => rfl }

/-- How the installer's run ends. -/
inductive RunEnd where
  | error (status : EfiStatus)
  | stopped
  | fault
  deriving DecidableEq, Repr

/-- The library's loop, for at most `fuel` calls of `fastboot_usb_run`. -/
def installerRun (env : DriverEnv) (bufLen : Nat) : Nat → Driver → Driver × Option RunEnd
  | 0, s => (s, none)
  | fuel + 1, s =>
      match fastbootUsbRun env bufLen s with
      | (s, .error ret) => (s, some (.error ret))
      | (s, .stopped) => (s, some .stopped)
      | (s, .waiting) => installerRun env bufLen fuel s
      | (s, .handed command flash) =>
          match runCommand env flash command s with
          | some s => installerRun env bufLen fuel s
          | none => (s, some .fault)

/-- How the installer's `efi_main` ends. -/
inductive InstallerEnding where
  /-- The option preparation or a command reads memory it must not. -/
  | fault
  | returned (status : EfiStatus)
  | rebootToTarget (target : BootTarget)
  deriving DecidableEq, Repr

/-- The installer's `efi_main` from its options on. -/
def installerMain (env : DriverEnv) (fuel : Nat) (options : OptionsOutcome) :
    Driver × Option InstallerEnding :=
  match options with
  | .outOfBounds | .nullDereference => (Driver.initial env, some .fault)
  | .queued command =>
      let s := (Driver.initial env).storeCommand command
      match env.cmdBufLen with
      | none => (s, some (.returned .invalidParameter))
      | some bufLen =>
          match installerRun env bufLen fuel s with
          | (s, none) => (s, none)
          | (s, some .fault) => (s, some .fault)
          | (s, some (.error ret)) => (s, some (.returned ret))
          | (s, some .stopped) =>
              if env.startTarget ≠ .unknownTarget then (s, some (.rebootToTarget env.startTarget))
              else (s, some (.returned (if s.lastCmdSucceeded then .success else .invalidParameter)))

namespace CommandQueue

/-- The queue once a command is stored. -/
structure Live (q : CommandQueue) : Prop where
  stored : q.commands.map Prod.snd = q.stored
  current : q.currentCommand ≤ q.commands.length
  count : q.stored.length = q.stores
  nonempty : 0 < q.stores
  array : q.array = some (q.stores - 1)
  freed : ∀ allocation ∈ q.freed, ∃ n, allocation = .array n ∧ n + 1 < q.stores

theorem Live.length {q : CommandQueue} (live : q.Live) : q.commands.length = q.stored.length := by
  rw [← live.stored, List.length_map]

theorem Live.current_le {q : CommandQueue} (live : q.Live) : q.currentCommand ≤ q.stored.length :=
  live.length ▸ live.current

theorem live_storeCommand_empty (command : Str8) : (empty.storeCommand command).Live :=
  ⟨rfl, Nat.zero_le _, rfl, Nat.one_pos, rfl, fun _ member => absurd member (List.not_mem_nil _)⟩

theorem Live.storeCommand {q : CommandQueue} (live : q.Live) (command : Str8) : (q.storeCommand command).Live where
  stored := by simp only [CommandQueue.storeCommand, List.map_append, live.stored, List.map_singleton]
  current := by simp only [CommandQueue.storeCommand, List.length_append]; have := live.current; omega
  count := by simp only [CommandQueue.storeCommand, List.length_append, live.count, List.length_singleton]
  nonempty := Nat.succ_pos _
  array := rfl
  freed := by
    intro allocation member
    simp only [CommandQueue.storeCommand, live.array, Option.toList_some, List.map_singleton,
      List.mem_append, List.mem_singleton] at member ⊢
    rcases member with earlier | rfl
    · obtain ⟨n, rfl, below⟩ := live.freed _ earlier
      exact ⟨n, rfl, by omega⟩
    · exact ⟨_, rfl, by have := live.nonempty; omega⟩

theorem storeCommands_spec (q : CommandQueue) (lines : List Str8) :
    (lines.foldl CommandQueue.storeCommand q).stored = q.stored ++ lines.map (·.takeWhile (· ≠ 0)) ∧
      (lines.foldl CommandQueue.storeCommand q).currentCommand = q.currentCommand := by
  induction lines generalizing q with
  | nil => exact ⟨(List.append_nil _).symm, rfl⟩
  | cons line lines inductionHypothesis =>
      obtain ⟨stored, current⟩ := inductionHypothesis (q.storeCommand line)
      exact ⟨by rw [List.foldl_cons, stored]; simp [CommandQueue.storeCommand], current⟩

theorem Live.storeCommands {q : CommandQueue} (live : q.Live) (lines : List Str8) :
    (lines.foldl CommandQueue.storeCommand q).Live := by
  induction lines generalizing q with
  | nil => exact live
  | cons line lines inductionHypothesis => exact inductionHypothesis (live.storeCommand line)

/-- `next_command` hands out the stored commands in order. -/
theorem nextCommand_some {q q' : CommandQueue} {command : Str8} (live : q.Live)
    (next : q.nextCommand = (q', some command)) :
    q' = { q with currentCommand := q.currentCommand + 1 } ∧ q.currentCommand < q.commands.length ∧
      q.stored.take (q.currentCommand + 1) = q.stored.take q.currentCommand ++ [command] := by
  unfold nextCommand at next
  split_ifs at next with exhausted
  · simp at next
  simp only [Prod.mk.injEq, Option.some.injEq] at next
  obtain ⟨rfl, rfl⟩ := next
  have more : q.currentCommand < q.commands.length := lt_of_le_of_ne live.current (Ne.symm exhausted)
  refine ⟨rfl, more, ?_⟩
  rw [List.take_succ, ← live.stored, List.getElem?_map, List.getD_eq_getElem?_getD,
    List.getElem?_eq_getElem more]
  rfl

/-- Once every command was taken, `next_command` frees the queue. -/
theorem nextCommand_none {q q' : CommandQueue} (live : q.Live) (next : q.nextCommand = (q', none)) :
    q.commands.length = q.currentCommand ∧ q'.array = none ∧ q'.stored = q.stored ∧ q'.stores = q.stores ∧
      q'.freed = q.freed ++ List.replicate (q.stored.length + 1) (.array (q.stores - 1)) := by
  unfold nextCommand at next
  split_ifs at next with exhausted
  swap
  · simp at next
  simp only [Prod.mk.injEq] at next
  obtain ⟨rfl, -⟩ := next
  refine ⟨exhausted, ?_⟩
  simp only [freeCommands, live.array, List.replicate_succ', List.append_assoc, live.length, and_self]

end CommandQueue

theorem getRootCmd_cons (cmd : FastbootCmd) (table : List FastbootCmd) (name : Str8) :
    getRootCmd (cmd :: table) name = if cmd.name = name then some cmd else getRootCmd table name := by
  simp only [getRootCmd, List.find?_cons, beq_iff_eq]
  split <;> split_ifs <;> simp_all

theorem getRootCmd_setHandle (name other : Str8) : ∀ table : List FastbootCmd,
    getRootCmd (setHandle name table) other =
      if other = name then (getRootCmd table other).map fun cmd => { cmd with handle := .installer }
      else getRootCmd table other
  | [] => by split <;> rfl
  | cmd :: rest => by
      rw [setHandle]
      by_cases named : cmd.name = name
      · rw [if_pos named, getRootCmd_cons, getRootCmd_cons]
        by_cases same : other = name
        · simp [named, same]
        · simp [named, same, Ne.symm same]
      · rw [if_neg named, getRootCmd_cons, getRootCmd_cons, getRootCmd_setHandle name other rest]
        by_cases same : other = name
        · subst same
          simp [named]
        · simp [same]

theorem getRootCmd_append (table : List FastbootCmd) (cmd : FastbootCmd) (name : Str8) :
    getRootCmd (table ++ [cmd]) name = (getRootCmd table name).orElse fun _ => getRootCmd [cmd] name := by
  simp only [getRootCmd, List.find?_append]
  cases List.find? _ table <;> rfl

/-- The root command a replacement leaves under its name. -/
def replaced (table : List FastbootCmd) (replacement : Replacement) : FastbootCmd :=
  (getRootCmd table replacement.name).elim ⟨replacement.name, replacement.minState, .installer⟩
    fun cmd => { cmd with handle := .installer }

/-- One turn of `installer_replace_functions`, as the rest of the loop sees it. -/
theorem replaceFunctions_cons_named {replacement : Replacement} {rest : List Replacement}
    {table next table' : List FastbootCmd} (others : ∀ later ∈ rest, later.name ≠ replacement.name)
    (here : getRootCmd next replacement.name = some (replaced table replacement))
    (step : ∀ name, name ≠ replacement.name → getRootCmd next name = getRootCmd table name)
    (laterNames : ∀ later ∈ rest, getRootCmd table' later.name = some (replaced next later))
    (untouched : ∀ name, (∀ later ∈ rest, later.name ≠ name) → getRootCmd table' name = getRootCmd next name) :
    (∀ later ∈ replacement :: rest, getRootCmd table' later.name = some (replaced table later)) ∧
      ∀ name, (∀ later ∈ replacement :: rest, later.name ≠ name) →
        getRootCmd table' name = getRootCmd table name := by
  refine ⟨fun later member => ?_, fun name differ => ?_⟩
  · rcases List.mem_cons.mp member with rfl | member
    · rw [untouched _ fun other member same => others other member same, here]
    · rw [laterNames later member, replaced, replaced, step _ (others later member)]
  · rw [untouched name fun other member => differ other (List.mem_cons_of_mem _ member),
      step name fun same => differ replacement (List.mem_cons_self _ _) same.symm]

/-- Replacing distinct names gives each the installer's handler. -/
theorem replaceFunctions_spec (env : DriverEnv) : ∀ {replacements : List Replacement}
    {table table' : List FastbootCmd} {flashCmd flash' : Option Handle},
    (replacements.map (·.name)).Nodup →
    replaceFunctions env replacements table flashCmd = ((table', flash'), none) →
    (∀ replacement ∈ replacements, getRootCmd table' replacement.name = some (replaced table replacement)) ∧
      (∀ name, (∀ replacement ∈ replacements, replacement.name ≠ name) →
        getRootCmd table' name = getRootCmd table name) ∧
      ((∀ replacement ∈ replacements, replacement.saveHandle = false) → flash' = flashCmd)
  | [], _, _, _, _, _, done => by
      cases done
      exact ⟨fun _ member => absurd member (List.not_mem_nil _), fun _ _ => rfl, fun _ => rfl⟩
  | replacement :: rest, table, table', flashCmd, flash', distinct, done => by
      obtain ⟨fresh, distinct⟩ := List.nodup_cons.mp distinct
      have others : ∀ later ∈ rest, later.name ≠ replacement.name := fun later member same =>
        fresh (List.mem_map.mpr ⟨later, member, same⟩)
      rw [replaceFunctions] at done
      cases found : getRootCmd table replacement.name with
      | some cmd =>
          rw [found] at done
          obtain ⟨laterNames, untouched, kept⟩ := replaceFunctions_spec env distinct done
          obtain ⟨named, unnamed⟩ := replaceFunctions_cons_named others
            (by rw [getRootCmd_setHandle, if_pos rfl, found, replaced, found]; rfl)
            (fun name differs => by rw [getRootCmd_setHandle, if_neg differs]) laterNames untouched
          refine ⟨named, unnamed, fun unsaved => ?_⟩
          rw [kept fun other member => unsaved other (List.mem_cons_of_mem _ member),
            unsaved replacement (List.mem_cons_self _ _), if_neg Bool.false_ne_true]
      | none =>
          rw [found] at done
          dsimp only at done
          split_ifs at done with registered
          swap
          · simp at done
          obtain ⟨laterNames, untouched, kept⟩ := replaceFunctions_spec env distinct done
          obtain ⟨named, unnamed⟩ := replaceFunctions_cons_named others
            (by rw [getRootCmd_append, found, replaced, found]; simp [getRootCmd_cons])
            (fun name differs => by
              rw [getRootCmd_append, getRootCmd_cons, if_neg (Ne.symm differs)]
              cases getRootCmd table name <;> rfl)
            laterNames untouched
          exact ⟨named, unnamed, fun unsaved => kept fun other member => unsaved other (List.mem_cons_of_mem _ member)⟩

/-- `installer_replace_functions` on `REPLACEMENTS`. -/
theorem replaceFunctions_replacements {env : DriverEnv} {table table' : List FastbootCmd}
    {flashCmd flash' : Option Handle}
    (done : replaceFunctions env replacements table flashCmd = ((table', flash'), none)) :
    (∀ replacement ∈ replacements, getRootCmd table' replacement.name = some (replaced table replacement)) ∧
      (∀ name, (∀ replacement ∈ replacements, replacement.name ≠ name) →
        getRootCmd table' name = getRootCmd table name) ∧
      flash' = ((getRootCmd table (lit8 "flash")).map (·.handle)).orElse fun _ => flashCmd := by
  obtain ⟨named, untouched, -⟩ := replaceFunctions_spec env (by decide) done
  refine ⟨named, untouched, ?_⟩
  rw [replacements, replaceFunctions] at done
  have rest := fun {table : List FastbootCmd} {flash : Option Handle}
      (done : replaceFunctions env (replacements.drop 1) table flash = ((table', flash'), none)) =>
    (replaceFunctions_spec env (by decide) done).2.2 (by decide)
  cases found : getRootCmd table (lit8 "flash") with
  | some cmd =>
      rw [found] at done
      exact rest done
  | none =>
      rw [found] at done
      dsimp only at done
      split_ifs at done
      · exact rest done
      · simp at done

/-- `installer_replace_functions` returns only the errors of `fastboot_register`. -/
theorem replaceFunctions_error {env : DriverEnv} : ∀ {replacements : List Replacement}
    {table table' : List FastbootCmd} {flashCmd flash' : Option Handle} {ret : EfiStatus},
    replaceFunctions env replacements table flashCmd = ((table', flash'), some ret) → ret ≠ .success
  | [], _, _, _, _, _, done => by cases done
  | replacement :: rest, table, _, flashCmd, _, _, done => by
      rw [replaceFunctions] at done
      split at done
      · exact replaceFunctions_error done
      · split_ifs at done with registered
        · exact replaceFunctions_error done
        · simp only [Prod.mk.injEq, Option.some.injEq] at done
          exact done.2 ▸ registered

namespace Driver

/-- The globals between two calls of `fastboot_usb_run` while the run goes on. -/
structure Running (s : Driver) : Prop where
  live : s.queue.Live
  started : s.started = s.queue.stored.take s.queue.currentCommand
  tested : s.outcomes.length = s.queue.currentCommand - 1
  succeeded : ∀ outcome ∈ s.outcomes, outcome = true
  idle : s.initialized = false → s.queue.currentCommand = 0

/-- The globals once the installer has stopped the library. -/
structure Ended (s : Driver) : Prop where
  handed : s.started <+: s.queue.stored
  tested : s.outcomes.length = s.started.length
  status : s.lastCmdSucceeded = true ↔ s.started = s.queue.stored ∧ ∀ outcome ∈ s.outcomes, outcome = true
  freed : s.lastCmdSucceeded = true → s.queue.array = none ∧
    s.queue.freed.count (.array (s.queue.stores - 1)) = s.queue.stored.length + 1 ∧
      ∀ allocation ∈ s.queue.freed, ∃ n, allocation = .array n

/-- A failed stop ends the run when some command did not succeed. -/
theorem Ended.of_failed {s : Driver} (failed : s.lastCmdSucceeded = false) (handed : s.started <+: s.queue.stored)
    (tested : s.outcomes.length = s.started.length)
    (short : ¬(s.started = s.queue.stored ∧ ∀ outcome ∈ s.outcomes, outcome = true)) : s.Ended :=
  ⟨handed, tested, by rw [failed]; exact iff_of_false Bool.false_ne_true short,
    fun set => (Bool.false_ne_true (failed.symm.trans set)).elim⟩

/-- The calls that can still fail for want of a flash handler. -/
def retries (s : Driver) : Nat :=
  if s.initialized = false ∧ getRootCmd s.table (lit8 "flash") = none then 1 else 0

theorem running_start (env : DriverEnv) (command : Str8) : ((initial env).storeCommand command).Running :=
  ⟨CommandQueue.live_storeCommand_empty command, rfl, rfl, fun _ member => absurd member (List.not_mem_nil _),
    fun _ => rfl⟩

/-- While the run goes on, the commands handed over are the first ones stored. -/
theorem Running.handed {s : Driver} (running : s.Running) : s.started <+: s.queue.stored :=
  running.started ▸ List.take_prefix _ _

theorem Running.within {s s' : Driver} (running : s.Running) (within : s.Within s') : s'.Running := by
  obtain ⟨lines, queue⟩ := within.queue
  obtain ⟨stored, current⟩ := CommandQueue.storeCommands_spec s.queue lines
  have live := running.live
  refine ⟨queue ▸ live.storeCommands lines, ?_, ?_, within.outcomes ▸ running.succeeded, fun idle => ?_⟩
  · rw [within.started, running.started, queue, stored, current, List.take_append_of_le_length live.current_le]
  · rw [within.outcomes, running.tested, queue, current]
  · rw [queue, current]
    exact running.idle (within.initialized ▸ idle)

end Driver

/-- What a call of `fastboot_usb_run` leaves, by how it returns. -/
def UsbRun.Spec (s s' : Driver) : UsbRun → Prop
  | .error ret => s'.Running ∧ s'.started = s.started ∧ ret ≠ .success
  | .waiting => s'.Running ∧ s'.started = s.started ∧ s.retries = 1 ∧ s'.retries = 0
  | .handed command _ => s'.Running ∧ s'.started = s.started ++ [command] ∧ s'.retries = 0
  | .stopped => s'.Ended

namespace Driver

/-- The hand-over once the last command succeeded. -/
theorem handOver_spec {bufLen : Nat} {flash : Handle} {s before : Driver} (same : s.started = before.started)
    (live : s.queue.Live)
    (started : s.started = s.queue.stored.take s.queue.currentCommand)
    (tested : s.outcomes.length = s.queue.currentCommand) (succeeded : ∀ outcome ∈ s.outcomes, outcome = true)
    (last : 0 < s.queue.currentCommand → s.lastCmdSucceeded = true) (initialized : s.initialized = true) :
    UsbRun.Spec before (handOver bufLen flash s).1 (handOver bufLen flash s).2 := by
  have handed : s.started <+: s.queue.stored := started ▸ List.take_prefix _ _
  unfold handOver
  split
  · rename_i queue next
    obtain ⟨exhausted, array, stored, stores, freed⟩ := CommandQueue.nextCommand_none live next
    have all : s.started = s.queue.stored := by
      rw [started, ← exhausted, live.length, List.take_length]
    have flag : s.lastCmdSucceeded = true := last (by
      have := live.length; have := live.count; have := live.nonempty; omega)
    refine ⟨?_, ?_, ?_, fun _ => ?_⟩ <;> dsimp only
    · rw [stored, all]
    · rw [tested, all, ← live.length, exhausted]
    · rw [stored, flag, all]
      exact ⟨fun _ => ⟨rfl, succeeded⟩, fun _ => rfl⟩
    · have fresh : Allocation.array (s.queue.stores - 1) ∉ s.queue.freed := fun member => by
        obtain ⟨n, same, below⟩ := live.freed _ member
        have := Allocation.array.inj same
        have := live.nonempty
        omega
      refine ⟨array, ?_, fun allocation member => ?_⟩
      · rw [stored, stores, freed, List.count_append, List.count_eq_zero_of_not_mem fresh,
          List.count_replicate_self, Nat.zero_add]
      · rw [freed] at member
        rcases List.mem_append.mp member with earlier | copy
        · obtain ⟨n, rfl, -⟩ := live.freed _ earlier
          exact ⟨n, rfl⟩
        · exact ⟨_, List.eq_of_mem_replicate copy⟩
  · rename_i queue command next
    obtain ⟨rfl, more, taken⟩ := CommandQueue.nextCommand_some live next
    have inside : s.queue.currentCommand < s.queue.stored.length := live.length ▸ more
    split_ifs with long
    · rw [send_fail]
      have short : (s.queue.stored.take s.queue.currentCommand).length = s.queue.currentCommand := by
        rw [List.length_take, Nat.min_eq_left inside.le]
      refine Ended.of_failed rfl handed (by rw [tested, started, short]) fun ⟨all, _⟩ => ?_
      have whole : (s.queue.stored.take s.queue.currentCommand).length = s.queue.stored.length :=
        congrArg List.length (started.symm.trans all)
      omega
    · refine ⟨⟨⟨live.stored, more, live.count, live.nonempty, live.array, live.freed⟩, ?_, ?_, succeeded,
        fun idle => by simp [initialized] at idle⟩, by rw [same], ?_⟩
      · show s.started ++ [command] = _
        rw [taken, started]
      · show s.outcomes.length = _
        rw [tested, Nat.add_sub_cancel]
      · simp [retries, initialized]

/-- `fastboot_usb_run` once initialized, from a running state. -/
theorem usbRunCommands_spec {bufLen : Nat} {flash : Handle} {s before : Driver} (same : s.started = before.started)
    (running : s.Running) (initialized : s.initialized = true) :
    UsbRun.Spec before (s.usbRunCommands bufLen flash).1 (s.usbRunCommands bufLen flash).2 := by
  have live := running.live
  have short : (s.queue.stored.take s.queue.currentCommand).length = s.queue.currentCommand := by
    rw [List.length_take, Nat.min_eq_left live.current_le]
  unfold usbRunCommands
  split_ifs with pending flag
  · refine handOver_spec same live running.started ?_ ?_ (fun _ => flag) initialized
    · show (s.outcomes ++ [s.lastCmdSucceeded]).length = s.queue.currentCommand
      rw [List.length_append, running.tested, List.length_singleton]
      omega
    · show ∀ outcome ∈ s.outcomes ++ [s.lastCmdSucceeded], outcome = true
      simpa [flag] using running.succeeded
  · refine Ended.of_failed (eq_false_of_ne_true flag) running.handed ?_
      fun ⟨_, succeeded⟩ => flag (succeeded _ (List.mem_append_right _ (List.mem_singleton_self _)))
    show (s.outcomes ++ [s.lastCmdSucceeded]).length = s.started.length
    rw [List.length_append, running.tested, running.started, short, List.length_singleton]
    omega
  · exact handOver_spec same live running.started (by rw [running.tested]; omega) running.succeeded
      (fun more => absurd more pending) initialized

end Driver

/-- One call of `fastboot_usb_run` from a running state. -/
theorem fastbootUsbRun_spec (env : DriverEnv) (bufLen : Nat) {s : Driver} (running : s.Running) :
    UsbRun.Spec s (fastbootUsbRun env bufLen s).1 (fastbootUsbRun env bufLen s).2 := by
  unfold fastbootUsbRun
  split_ifs with initialized
  · exact Driver.usbRunCommands_spec rfl running initialized
  have idle := running.idle (by simpa using initialized)
  have kept (t : Driver) (queue : t.queue = s.queue) (started : t.started = s.started)
      (outcomes : t.outcomes = s.outcomes) : t.Running :=
    ⟨queue ▸ running.live, by rw [started, queue, running.started], by rw [outcomes, queue, running.tested],
      outcomes ▸ running.succeeded, fun _ => by rw [queue, idle]⟩
  split
  · rename_i table flashCmd ret done
    exact ⟨kept _ rfl rfl rfl, rfl, replaceFunctions_error done⟩
  · rename_i table done
    obtain ⟨named, -, saved⟩ := replaceFunctions_replacements done
    have missing : getRootCmd s.table (lit8 "flash") = none := by
      revert saved
      cases getRootCmd s.table (lit8 "flash") <;> simp
    rw [Driver.send_fail]
    refine ⟨kept _ rfl rfl rfl, rfl, by simp [Driver.retries, missing, initialized], ?_⟩
    have registered := named _ (List.mem_cons_self _ _)
    simp [Driver.retries, registered]
  · rename_i table flash done
    exact Driver.usbRunCommands_spec rfl (kept _ rfl rfl rfl) rfl

/-- The whole run from a running state. -/
theorem installerRun_spec (env : DriverEnv) (bufLen : Nat) : ∀ (fuel : Nat) {s : Driver}, s.Running →
    ((installerRun env bufLen fuel s).2 = some .stopped → (installerRun env bufLen fuel s).1.Ended) ∧
      ((installerRun env bufLen fuel s).2 ≠ some .stopped → (installerRun env bufLen fuel s).1.Running) ∧
      (∀ ret, (installerRun env bufLen fuel s).2 = some (.error ret) → ret ≠ .success) ∧
      ((installerRun env bufLen fuel s).2 = none →
        fuel + s.started.length ≤ (installerRun env bufLen fuel s).1.started.length + s.retries)
  | 0, s, running => ⟨nofun, fun _ => running, nofun, fun _ => by simp only [installerRun]; omega⟩
  | fuel + 1, s, running => by
      have step := fastbootUsbRun_spec env bufLen running
      rw [installerRun]
      generalize fastbootUsbRun env bufLen s = call at step ⊢
      obtain ⟨s', result⟩ := call
      cases result with
      | error ret =>
          refine ⟨nofun, fun _ => step.1, fun _ failed => ?_, nofun⟩
          cases failed
          exact step.2.2
      | stopped => exact ⟨fun _ => step, fun going => absurd rfl going, nofun, nofun⟩
      | waiting =>
          obtain ⟨running', started, retries, retries'⟩ := step
          obtain ⟨stopped, going, failed, cutoff⟩ := installerRun_spec env bufLen fuel running'
          refine ⟨stopped, going, failed, fun cut => ?_⟩
          have := cutoff cut
          dsimp only at this ⊢
          rw [retries', started] at this
          rw [retries]
          omega
      | handed command flash =>
          obtain ⟨running', started, retries'⟩ := step
          dsimp only
          cases ran : runCommand env flash command s' with
          | none => exact ⟨nofun, fun _ => running', nofun, nofun⟩
          | some s'' =>
              have within := runCommand_within env flash ran
              obtain ⟨stopped, going, failed, cutoff⟩ := installerRun_spec env bufLen fuel (running'.within within)
              refine ⟨stopped, going, failed, fun cut => ?_⟩
              have := cutoff cut
              dsimp only
              have retries'' : s''.retries = 0 := by
                rw [← retries']
                simp only [Driver.retries, within.initialized, within.table]
              rw [retries'', within.started, started, List.length_append, List.length_singleton] at this
              omega

theorem Driver.retries_le_one (s : Driver) : s.retries ≤ 1 := by
  unfold Driver.retries
  split <;> omega

/-- `efi_main` once `usb_read` has set the command buffer. -/
theorem installerMain_run (env : DriverEnv) (fuel bufLen : Nat) (command : Str8)
    (buffer : env.cmdBufLen = some bufLen) :
    (installerMain env fuel (.queued command)).1 =
        (installerRun env bufLen fuel ((Driver.initial env).storeCommand command)).1 ∧
      ((installerMain env fuel (.queued command)).2 = none ↔
        (installerRun env bufLen fuel ((Driver.initial env).storeCommand command)).2 = none) ∧
      ((installerMain env fuel (.queued command)).2 = some (.returned .success) ↔
        (installerRun env bufLen fuel ((Driver.initial env).storeCommand command)).2 = some .stopped ∧
          env.startTarget = .unknownTarget ∧
          (installerRun env bufLen fuel ((Driver.initial env).storeCommand command)).1.lastCmdSucceeded = true) := by
  have failed := (installerRun_spec env bufLen fuel (Driver.running_start env command)).2.2.1
  simp only [installerMain, buffer]
  generalize installerRun env bufLen fuel ((Driver.initial env).storeCommand command) = run at failed ⊢
  obtain ⟨s, result⟩ := run
  rcases result with _ | (ret | _ | _)
  · simp
  · simpa using failed ret rfl
  · by_cases target : env.startTarget = .unknownTarget <;> simp [target]
  · simp

/-- The library was handed the first commands stored, in order. -/
theorem installerMain_handed_prefix (env : DriverEnv) (fuel : Nat) (options : OptionsOutcome) :
    (installerMain env fuel options).1.started <+: (installerMain env fuel options).1.queue.stored := by
  rcases options with _ | _ | command
  · exact List.nil_prefix
  · exact List.nil_prefix
  cases buffer : env.cmdBufLen with
  | none =>
      simp only [installerMain, buffer]
      exact List.nil_prefix
  | some bufLen =>
      rw [(installerMain_run env fuel bufLen command buffer).1]
      obtain ⟨ended, going, -⟩ := installerRun_spec env bufLen fuel (Driver.running_start env command)
      by_cases stopped : (installerRun env bufLen fuel ((Driver.initial env).storeCommand command)).2 = some .stopped
      · exact (ended stopped).handed
      · exact (going stopped).handed

/-- `efi_main` succeeds exactly when every command stored succeeded. -/
theorem installerMain_success (env : DriverEnv) (fuel : Nat) (command : Str8)
    (noTarget : env.startTarget = .unknownTarget) :
    (installerMain env fuel (.queued command)).2 = some (.returned .success) ↔
      (∃ bufLen, env.cmdBufLen = some bufLen ∧
        (installerRun env bufLen fuel ((Driver.initial env).storeCommand command)).2 = some .stopped) ∧
      (installerMain env fuel (.queued command)).1.started = (installerMain env fuel (.queued command)).1.queue.stored ∧
      ∀ outcome ∈ (installerMain env fuel (.queued command)).1.outcomes, outcome = true := by
  cases buffer : env.cmdBufLen with
  | none => simp [installerMain, buffer]
  | some bufLen =>
      obtain ⟨state, -, success⟩ := installerMain_run env fuel bufLen command buffer
      have ended := (installerRun_spec env bufLen fuel (Driver.running_start env command)).1
      rw [success, state]
      constructor
      · rintro ⟨stopped, -, flag⟩
        exact ⟨⟨bufLen, rfl, stopped⟩, (ended stopped).status.mp flag⟩
      · rintro ⟨⟨_, same, stopped⟩, all⟩
        cases same
        exact ⟨stopped, noTarget, (ended stopped).status.mpr all⟩

/-- A library with `flash` and `getvar` that answers `OKAY`, and no files. -/
def quietEnv : DriverEnv where
  rootCmds := [(lit8 "flash", .unknownState), (lit8 "getvar", .unknownState)]
  splitArgs := fun command => [command]
  allows := fun _ _ => true
  answer := fun _ _ => ⟨[], true, []⟩
  register := fun _ => .success
  file := fun _ => .error .notFound
  parseTextBuffer := fun _ => ([], false)
  cmdBufLen := some 64
  startTarget := .unknownTarget
  config := smallEnv.config
  maxDownloadSize := 64
  isSparseImage := fun _ => true
  bufAddress := 0x1000
  pool := fun _ => 0

/-- `getvar` alone succeeds under `quietEnv`. -/
theorem installerMain_success_getvar : quietEnv.startTarget = .unknownTarget ∧
    (installerMain quietEnv 2 (.queued (lit8 "getvar"))).1.started =
      (installerMain quietEnv 2 (.queued (lit8 "getvar"))).1.queue.stored :=
  ⟨rfl, ((installerMain_success quietEnv 2 (lit8 "getvar") rfl).mp (by decide)).2.1⟩

/-- On success `free_commands` has freed the queue. -/
theorem installerMain_freed (env : DriverEnv) (fuel : Nat) (command : Str8)
    (success : (installerMain env fuel (.queued command)).2 = some (.returned .success)) :
    (installerMain env fuel (.queued command)).1.queue.array = none ∧
      (installerMain env fuel (.queued command)).1.queue.freed.count
          (.array ((installerMain env fuel (.queued command)).1.queue.stores - 1)) =
        (installerMain env fuel (.queued command)).1.queue.stored.length + 1 ∧
      ∀ allocation ∈ (installerMain env fuel (.queued command)).1.queue.freed, ∃ n, allocation = .array n := by
  cases buffer : env.cmdBufLen with
  | none => simp [installerMain, buffer] at success
  | some bufLen =>
      obtain ⟨state, -, returned⟩ := installerMain_run env fuel bufLen command buffer
      obtain ⟨stopped, -, flag⟩ := returned.mp success
      rw [state]
      exact ((installerRun_spec env bufLen fuel (Driver.running_start env command)).1 stopped).freed flag

/-- One command that succeeds: `FreePool` is given its array twice. -/
theorem installerMain_freed_getvar :
    (installerMain quietEnv 2 (.queued (lit8 "getvar"))).2 = some (.returned .success) ∧
      (installerMain quietEnv 2 (.queued (lit8 "getvar"))).1.queue.freed.count (.array 0) = 2 :=
  ⟨by decide, (installerMain_freed quietEnv 2 (lit8 "getvar") (by decide)).2.1⟩

/-- A run still going took a command at each call but the first. -/
theorem installerMain_progress (env : DriverEnv) (fuel : Nat) (command : Str8)
    (going : (installerMain env fuel (.queued command)).2 = none) :
    fuel ≤ (installerMain env fuel (.queued command)).1.started.length + 1 := by
  cases buffer : env.cmdBufLen with
  | none => simp [installerMain, buffer] at going
  | some bufLen =>
      obtain ⟨state, cut, -⟩ := installerMain_run env fuel bufLen command buffer
      have cutoff := (installerRun_spec env bufLen fuel (Driver.running_start env command)).2.2.2 (cut.mp going)
      have := Driver.retries_le_one ((Driver.initial env).storeCommand command)
      have nothing : ((Driver.initial env).storeCommand command).started = [] := rfl
      rw [nothing, List.length_nil] at cutoff
      rw [state]
      omega

/-- `quietEnv` with a batch file of two `getvar`, read by `-b x`. -/
def batchEnv : DriverEnv :=
  { quietEnv with
    splitArgs := fun command => if command = lit8 "-b x" then [lit8 "-b", lit8 "x"] else [command]
    file := fun _ => .ok []
    parseTextBuffer := fun _ => ([lit8 "getvar", lit8 "getvar"], true) }

/-- Two calls on a batch: each hands a command over. -/
theorem installerMain_progress_batch :
    (installerMain batchEnv 2 (.queued (lit8 "-b x"))).2 = none ∧
      2 ≤ (installerMain batchEnv 2 (.queued (lit8 "-b x"))).1.started.length + 1 :=
  ⟨rfl, installerMain_progress batchEnv 2 (lit8 "-b x") rfl⟩

end Kernelflinger.Installer
