import Kernelflinger.Installer.Split
import Kernelflinger.Installer.Options

/-
The fastboot commands of the installer and the globals they share: the command queue that
`efi_main` and the batch files fill (`store_command`, `next_command`, `free_commands`), the
packets `usb_write` reads, the root commands after `installer_replace_functions`, and the
handlers `installer_flash_cmd`, `installer_format`, `batch`, `usage` and `unsupported_cmd`. The
fastboot library is missing from src/: it is `DriverEnv`, through what it answers.
-/

namespace Kernelflinger.Installer

open Memory BootImage

/-- `enum device_state` of `vars.h`. -/
inductive DeviceState where
  | unknownState
  | locked
  | verified
  | unlocked
  deriving DecidableEq, Repr

/-- A root command's handler: a library one by index, or the installer's by name. -/
inductive Handle where
  | library (index : Nat)
  | installer
  deriving DecidableEq, Repr

/-- `struct fastboot_cmd`. -/
structure FastbootCmd where
  name : Str8
  minState : DeviceState
  handle : Handle
  deriving DecidableEq, Repr

/-- The installer's handlers. -/
inductive InstallerHandler where
  | installerFlashCmd
  | installerFormat
  | unsupportedCmd
  | usage
  | batch
  deriving DecidableEq, Repr

/-- An entry of `REPLACEMENTS`, and whether it saves `fastboot_flash_cmd`. -/
structure Replacement where
  name : Str8
  minState : DeviceState
  handler : InstallerHandler
  saveHandle : Bool

/-- `REPLACEMENTS`. -/
def replacements : List Replacement :=
  [⟨lit8 "flash", .unknownState, .installerFlashCmd, true⟩,
    ⟨lit8 "format", .verified, .installerFormat, false⟩,
    ⟨lit8 "update", .unknownState, .unsupportedCmd, false⟩,
    ⟨lit8 "flashall", .unknownState, .unsupportedCmd, false⟩,
    ⟨lit8 "boot", .unknownState, .unsupportedCmd, false⟩,
    ⟨lit8 "devices", .unknownState, .unsupportedCmd, false⟩,
    ⟨lit8 "download", .unknownState, .unsupportedCmd, false⟩,
    ⟨lit8 "--help", .locked, .usage, false⟩,
    ⟨lit8 "-h", .locked, .usage, false⟩,
    ⟨lit8 "--batch", .locked, .batch, false⟩,
    ⟨lit8 "-b", .locked, .batch, false⟩]

/-- The handler `REPLACEMENTS` gives for `name`; the default is never read. -/
def installerHandler (name : Str8) : InstallerHandler :=
  ((replacements.find? fun replacement => replacement.name == name).map (·.handler)).getD .unsupportedCmd

/-- `fastboot_info`, `fastboot_okay` or `fastboot_fail` with its format string. -/
inductive Reply where
  | info (format : Str8)
  | okay (format : Str8)
  | fail (format : Str8)
  deriving DecidableEq, Repr

/-- The packet of a reply, the format string standing for its text. -/
def Reply.packet : Reply → List UInt8
  | .info format => lit8 "INFO" ++ format
  | .okay format => lit8 "OKAY" ++ format
  | .fail format => lit8 "FAIL" ++ format

/-- How the library answers a command it runs itself. -/
structure Answer where
  infos : List Str8
  okay : Bool
  text : Str8

/-- The replies of an answer, in the order the library sends them. -/
def Answer.replies (answer : Answer) : List Reply :=
  answer.infos.map .info ++ [if answer.okay then .okay answer.text else .fail answer.text]

/-- The calls into the fastboot library whose answers reach `usb_write`. -/
inductive LibraryCall where
  /-- A command no root command is named after. -/
  | unknown (argv : List Str8)
  /-- A command whose root command needs another device state. -/
  | denied (argv : List Str8)
  /-- A library handler run with `fastboot_set_dlbuffer` set. -/
  | run (index : Nat) (argv : List Str8) (download : Option (List UInt8))
  /-- `fastboot_run_root_cmd`. -/
  | runRootCmd (name : Str8) (argv : List Str8)
  deriving DecidableEq, Repr

/-- What the installer's commands read besides its globals. -/
structure DriverEnv where
  /-- The library's root commands; it runs the `i`-th with handler `i`. -/
  rootCmds : List (Str8 × DeviceState)
  /-- How the library cuts a command into `argv`. -/
  splitArgs : Str8 → List Str8
  /-- Whether the device state allows a command's `min_state`. -/
  allows : List Str8 → DeviceState → Bool
  answer : List Str8 → LibraryCall → Answer
  /-- `fastboot_register`. -/
  register : Str8 → EfiStatus
  file : Str16 → Except EfiStatus (List UInt8)
  parseTextBuffer : List UInt8 → List Str8 × Bool
  /-- `fastboot_cmd_buf_len` as `usb_read` sets it, if it is called. -/
  cmdBufLen : Option Nat
  /-- The target `fastboot_start` reports after `fastboot_stop`. -/
  startTarget : BootTarget
  config : BuildConfig
  maxDownloadSize : Nat
  isSparseImage : List UInt8 → Bool
  /-- The address `AllocatePool` returns for the split's buffer. -/
  bufAddress : Nat
  pool : Bytes

/-- A pool allocation of the command queue by `store_command`. -/
inductive Allocation where
  | array (n : Nat)
  | copy (n : Nat)
  deriving DecidableEq, Repr

/-- `commands`, `command_nb`, `current_command` and what was freed. -/
structure CommandQueue where
  /-- The `store_command` call whose array `commands` points to, none for `NULL`. -/
  array : Option Nat
  /-- `commands[0 .. command_nb)`: the call that copied each command, and the copy. -/
  commands : List (Nat × Str8)
  currentCommand : Nat
  /-- The calls of `store_command` so far. -/
  stores : Nat
  freed : List Allocation
  stored : List Str8

namespace CommandQueue

/-- The queue before the first `store_command`. -/
def empty : CommandQueue := ⟨none, [], 0, 0, [], []⟩

/-- `store_command`, its allocations granted. -/
def storeCommand (q : CommandQueue) (command : Str8) : CommandQueue where
  array := some q.stores
  commands := q.commands ++ [(q.stores, command.takeWhile (· ≠ 0))]
  currentCommand := q.currentCommand
  stores := q.stores + 1
  freed := q.freed ++ q.array.toList.map .array
  stored := q.stored ++ [command.takeWhile (· ≠ 0)]

/-- `free_commands` frees `commands` once per command, then once more. -/
def freeCommands (q : CommandQueue) : CommandQueue :=
  match q.array with
  | none => q
  | some array =>
      { q with
        array := none, commands := [], currentCommand := 0
        freed := q.freed ++ List.replicate q.commands.length (.array array) ++ [.array array] }

/-- `next_command`: the next command, or the queue freed once every one was taken. -/
def nextCommand (q : CommandQueue) : CommandQueue × Option Str8 :=
  if q.commands.length = q.currentCommand then (q.freeCommands, none)
  else ({ q with currentCommand := q.currentCommand + 1 }, some (q.commands.getD q.currentCommand (0, [])).2)

end CommandQueue

/-- The installer's globals between two calls into it. -/
structure Driver where
  lastCmdSucceeded : Bool
  needTxCb : Bool
  /-- `fastboot_flash_cmd`, none for `NULL`. -/
  flashCmd : Option Handle
  /-- `initialized` of `fastboot_usb_run`. -/
  initialized : Bool
  /-- The library's root commands. -/
  table : List FastbootCmd
  queue : CommandQueue
  started : List Str8
  outcomes : List Bool
  calls : List LibraryCall
  /-- `fastboot_usb_run` sets `initialized` only once `fastboot_flash_cmd` is set. -/
  flashSet : initialized = true → flashCmd.isSome = true

namespace Driver

/-- The globals at the start of `efi_main`: static storage is zero. -/
def initial (env : DriverEnv) : Driver where
  lastCmdSucceeded := false
  needTxCb := false
  flashCmd := none
  initialized := false
  table := env.rootCmds.enum.map fun (index, name, minState) => ⟨name, minState, .library index⟩
  queue := .empty
  started := []
  outcomes := []
  calls := []
  flashSet := fun initialized => absurd initialized Bool.false_ne_true

/-- `usb_write`: `INFO` asks for a callback, `OKAY` and `FAIL` set the flag. -/
def usbWrite (s : Driver) (packet : List UInt8) : Driver :=
  if packet.length < 4 then s
  else
    let s := if packet.take 4 = lit8 "INFO" then { s with needTxCb := true } else s
    if packet.take 4 = lit8 "OKAY" then { s with lastCmdSucceeded := true }
    else if packet.take 4 = lit8 "FAIL" then { s with lastCmdSucceeded := false }
    else s

/-- Replies written one after another. -/
def send (s : Driver) (replies : List Reply) : Driver :=
  replies.foldl (fun s reply => s.usbWrite reply.packet) s

/-- A call into the library and its answer relayed. -/
def ask (s : Driver) (env : DriverEnv) (call : LibraryCall) : Driver :=
  { s.send (env.answer s.started call).replies with calls := s.calls ++ [call] }

/-- `flush_tx_buffer`: the library sends what it holds. -/
def flushTxBuffer (s : Driver) : Driver := { s with needTxCb := false }

/-- `store_command` on the driver's queue. -/
def storeCommand (s : Driver) (command : Str8) : Driver :=
  { s with queue := s.queue.storeCommand command }

end Driver

/-- `get_format_image_filename`, `data` read as `userdata`. -/
def getFormatImageFilename (label : Str8) : Str16 :=
  straToStr ((if label = lit8 "data" then lit8 "userdata" else label) ++ lit8 ".img")

/-- The texts `installer_split_and_flash` fails with. -/
def SplitFailure.format : SplitFailure → Str8
  | .readFailed => lit8 "Failed to read %d bytes (only %d read)"
  | .notSparse => lit8 "sparse file expected"
  | .tooManyChunks => lit8 "Corrupted sparse file: too many chunks"
  | .corrupted => lit8 "Corrupted sparse file"
  | .tooBigChunk => lit8 "Found a too big chunk"

/-- What `installer_split_and_flash` reads in the installer. -/
def DriverEnv.splitEnv (env : DriverEnv) (flashOk : List UInt8 → Bool) : SplitEnv :=
  ⟨env.config, env.bufAddress, env.maxDownloadSize, env.isSparseImage, env.pool, flashOk⟩

/-- `installer_flash_buffer` with `flash` in `fastboot_flash_cmd`. -/
def flashBuffer (env : DriverEnv) (flash : Handle) (installer : Driver → Driver) (data : List UInt8)
    (argc : Nat) (argv : List Str8) (s : Driver) : Driver :=
  let s := match flash with
    | .library index => s.ask env (.run index (argv.take argc) (some data))
    | .installer => installer s
  s.flushTxBuffer

/-- `installer_split_and_flash` with `flashData` as the flash. -/
def splitAndFlash (env : DriverEnv) (flashData : List UInt8 → Driver → Driver) (content : List UInt8)
    (s : Driver) : Driver :=
  let split := installerSplitAndFlash (env.splitEnv fun buffer => (flashData buffer s).lastCmdSucceeded) content
  let s := split.1.flashed.foldl (fun s buffer => flashData buffer s) s
  match split.2 with
  | some (.failed failure) => s.send [.fail failure.format]
  | _ => s

/-- `installer_flash_cmd`; after `argc--` the structural predecessor. -/
def installerFlashCmd (env : DriverEnv) (flash : Handle) : Nat → List Str8 → Driver → Driver
  | 0, _, s => s.send [.fail (lit8 "Flash command requires exactly 3 arguments")]
  | argc + 1, argv, s =>
      if argc + 1 ≠ 3 then s.send [.fail (lit8 "Flash command requires exactly 3 arguments")]
      else
        let flashData := fun data => flashBuffer env flash (installerFlashCmd env flash argc argv) data argc argv
        match env.file (straToStr (argv.getD 2 [])) with
        | .error _ => s.send [.fail (lit8 "Failed to get %s file size: %r")]
        | .ok content =>
            if env.maxDownloadSize < content.length then splitAndFlash env flashData content s
            else flashData content s

/-- The end of `installer_format`: erase, then flash the image if any. -/
def eraseAndFlash (env : DriverEnv) (flash : Handle) (argc : Nat) (argv : List Str8)
    (data : Option (List UInt8)) (s : Driver) : Driver :=
  let s := (s.ask env (.runRootCmd (lit8 "erase") (argv.take argc))).flushTxBuffer
  if !s.lastCmdSucceeded then s
  else match data with
    | some data => flashBuffer env flash (installerFlashCmd env flash argc argv) data argc argv s
    | none => s

/-- `installer_format`, none when it reads `argv[1]` past `argc`. -/
def installerFormat (env : DriverEnv) (flash : Handle) (argc : Nat) (argv : List Str8) (s : Driver) :
    Option Driver :=
  if argc < 2 then none
  else
    let filename := getFormatImageFilename (argv.getD 1 [])
    match env.file filename with
    | .ok data => some (eraseAndFlash env flash argc argv (some data) s)
    | .error ret =>
        if ret = .notFound ∧ filename = lit "userdata.img" then
          some (eraseAndFlash env flash argc argv none
            (s.send [.info (lit8 "userdata.img is missing, cannot format %a"),
              .info (lit8 "Android fs_mgr will manage this")]))
        else some (s.send [.fail (lit8 "Unable to read file %s: %r")])

/-- `batch`: the lines of the file stored as commands, after those already queued. -/
def batch (env : DriverEnv) (argc : Nat) (argv : List Str8) (s : Driver) : Driver :=
  if argc ≠ 2 then s.send [.fail (lit8 "Batch command takes one parameter")]
  else
    match env.file (straToStr (argv.getD 1 [])) with
    | .error _ => s.send [.fail (lit8 "Failed to read %s file: %r")]
    | .ok data =>
        let (lines, parsed) := env.parseTextBuffer data
        let s := lines.foldl Driver.storeCommand s
        if parsed then s.send [.okay []] else s.send [.fail (lit8 "Failed to parse batch file: %r")]

/-- `usage`: the text is printed, and the command succeeds. -/
def usage (s : Driver) : Driver := s.send [.okay []]

/-- `unsupported_cmd`. -/
def unsupportedCmd (s : Driver) : Driver :=
  s.send [.fail (lit8 "installer does not the support the '%a' command")]

/-- An installer handler called by the library; none when it reads past `argv`. -/
def runInstaller (env : DriverEnv) (flash : Handle) (handler : InstallerHandler) (argv : List Str8)
    (s : Driver) : Option Driver :=
  match handler with
  | .installerFlashCmd => some (installerFlashCmd env flash argv.length argv s)
  | .installerFormat => installerFormat env flash argv.length argv s
  | .unsupportedCmd => some (unsupportedCmd s)
  | .usage => some (usage s)
  | .batch => some (batch env argv.length argv s)

/-- `fastboot_get_root_cmd`: the first root command of that name. -/
def getRootCmd (table : List FastbootCmd) (name : Str8) : Option FastbootCmd :=
  table.find? fun cmd => cmd.name == name

/-- The library running a command handed to `fastboot_rx_cb`. -/
def runCommand (env : DriverEnv) (flash : Handle) (command : Str8) (s : Driver) : Option Driver :=
  let argv := env.splitArgs command
  match getRootCmd s.table (argv.headD []) with
  | none => some (s.ask env (.unknown argv))
  | some cmd =>
      if !env.allows s.started cmd.minState then some (s.ask env (.denied argv))
      else
        match cmd.handle with
        | .library index => some (s.ask env (.run index argv none))
        | .installer => runInstaller env flash (installerHandler cmd.name) argv s

/-- What a reply does to `last_cmd_succeeded`: `OKAY` sets it, `FAIL` clears it. -/
def Reply.outcome : Reply → Option Bool
  | .info _ => none
  | .okay _ => some true
  | .fail _ => some false

/-- `last_cmd_succeeded` after `replies`, from `before`. -/
def lastOutcome (replies : List Reply) (before : Bool) : Bool :=
  replies.foldl (fun flag reply => reply.outcome.getD flag) before

/-- An answer of the library leaves `last_cmd_succeeded` at its final reply. -/
@[simp] theorem lastOutcome_answer (answer : Answer) (before : Bool) :
    lastOutcome answer.replies before = answer.okay := by
  rw [lastOutcome, Answer.replies, List.foldl_append]
  cases answer.okay <;> rfl

/-- `s'` goes on from `s` within one command. -/
structure Driver.Within (s s' : Driver) : Prop where
  flashCmd : s'.flashCmd = s.flashCmd
  initialized : s'.initialized = s.initialized
  table : s'.table = s.table
  started : s'.started = s.started
  outcomes : s'.outcomes = s.outcomes
  queue : ∃ lines : List Str8, s'.queue = lines.foldl CommandQueue.storeCommand s.queue

namespace Driver

theorem Within.refl (s : Driver) : s.Within s := ⟨rfl, rfl, rfl, rfl, rfl, [], rfl⟩

theorem Within.trans {s s' s'' : Driver} (first : s.Within s') (second : s'.Within s'') : s.Within s'' := by
  obtain ⟨lines, queue⟩ := first.queue
  obtain ⟨lines', queue'⟩ := second.queue
  exact ⟨second.flashCmd.trans first.flashCmd, second.initialized.trans first.initialized,
    second.table.trans first.table, second.started.trans first.started,
    second.outcomes.trans first.outcomes, lines ++ lines', by rw [queue', queue, List.foldl_append]⟩

theorem prefix_tagged (tag format : Str8) (four : tag.length = 4) :
    ¬(tag ++ format).length < 4 ∧ (tag ++ format).take 4 = tag :=
  ⟨by simp [four], List.take_left' four⟩

theorem tags_distinct : lit8 "OKAY" ≠ lit8 "INFO" ∧ lit8 "FAIL" ≠ lit8 "INFO" ∧
    lit8 "INFO" ≠ lit8 "OKAY" ∧ lit8 "FAIL" ≠ lit8 "OKAY" ∧ lit8 "INFO" ≠ lit8 "FAIL" := by
  decide

@[simp] theorem usbWrite_info (s : Driver) (format : Str8) :
    s.usbWrite (Reply.info format).packet = { s with needTxCb := true } := by
  obtain ⟨long, taken⟩ := prefix_tagged (lit8 "INFO") format rfl
  simp only [Reply.packet, usbWrite, long, taken, tags_distinct, if_true, if_false]

@[simp] theorem usbWrite_okay (s : Driver) (format : Str8) :
    s.usbWrite (Reply.okay format).packet = { s with lastCmdSucceeded := true } := by
  obtain ⟨long, taken⟩ := prefix_tagged (lit8 "OKAY") format rfl
  simp only [Reply.packet, usbWrite, long, taken, tags_distinct, if_true, if_false]

@[simp] theorem usbWrite_fail (s : Driver) (format : Str8) :
    s.usbWrite (Reply.fail format).packet = { s with lastCmdSucceeded := false } := by
  obtain ⟨long, taken⟩ := prefix_tagged (lit8 "FAIL") format rfl
  simp only [Reply.packet, usbWrite, long, taken, tags_distinct, if_true, if_false]

/-- Replies set `last_cmd_succeeded` to the last `OKAY` or `FAIL`. -/
theorem send_spec (s : Driver) (replies : List Reply) :
    (s.send replies).lastCmdSucceeded = lastOutcome replies s.lastCmdSucceeded ∧
      s.Within (s.send replies) ∧ (s.send replies).calls = s.calls := by
  induction replies generalizing s with
  | nil => exact ⟨rfl, Within.refl s, rfl⟩
  | cons reply replies inductionHypothesis =>
      have step : (s.usbWrite reply.packet).lastCmdSucceeded = reply.outcome.getD s.lastCmdSucceeded ∧
          s.Within (s.usbWrite reply.packet) ∧ (s.usbWrite reply.packet).calls = s.calls := by
        cases reply <;> (first | rw [usbWrite_info] | rw [usbWrite_okay] | rw [usbWrite_fail]) <;>
          exact ⟨rfl, ⟨rfl, rfl, rfl, rfl, rfl, [], rfl⟩, rfl⟩
      obtain ⟨flag, within, calls⟩ := inductionHypothesis (s.usbWrite reply.packet)
      exact ⟨flag.trans (by rw [step.1]; rfl), step.2.1.trans within, calls.trans step.2.2⟩

theorem send_fail (s : Driver) (format : Str8) :
    s.send [.fail format] = { s with lastCmdSucceeded := false } :=
  usbWrite_fail s format

/-- A call into the library leaves `last_cmd_succeeded` at the answer's outcome. -/
theorem ask_spec (s : Driver) (env : DriverEnv) (call : LibraryCall) :
    (s.ask env call).lastCmdSucceeded = (env.answer s.started call).okay ∧
      s.Within (s.ask env call) ∧ (s.ask env call).calls = s.calls ++ [call] := by
  obtain ⟨flag, within, -⟩ := send_spec s (env.answer s.started call).replies
  exact ⟨flag.trans (lastOutcome_answer _ _),
    ⟨within.flashCmd, within.initialized, within.table, within.started, within.outcomes, within.queue⟩, rfl⟩

@[simp] theorem flushTxBuffer_lastCmdSucceeded (s : Driver) :
    s.flushTxBuffer.lastCmdSucceeded = s.lastCmdSucceeded := rfl

@[simp] theorem flushTxBuffer_calls (s : Driver) : s.flushTxBuffer.calls = s.calls := rfl

theorem Within.flushTxBuffer {s s' : Driver} (within : s.Within s') : s.Within s'.flushTxBuffer :=
  ⟨within.flashCmd, within.initialized, within.table, within.started, within.outcomes, within.queue⟩

theorem storeCommands_within (s : Driver) (lines : List Str8) :
    s.Within (lines.foldl storeCommand s) ∧ (lines.foldl storeCommand s).lastCmdSucceeded = s.lastCmdSucceeded ∧
      (lines.foldl storeCommand s).queue = lines.foldl CommandQueue.storeCommand s.queue := by
  induction lines generalizing s with
  | nil => exact ⟨Within.refl s, rfl, rfl⟩
  | cons line lines inductionHypothesis =>
      obtain ⟨within, flag, queue⟩ := inductionHypothesis (s.storeCommand line)
      exact ⟨⟨within.flashCmd, within.initialized, within.table, within.started, within.outcomes,
        line :: lines, queue⟩, flag, queue⟩

end Driver

section Handlers

variable (env : DriverEnv) (flash : Handle)

open Driver

theorem foldl_within {α : Type} {step : α → Driver → Driver} (within : ∀ (a : α) (s : Driver), s.Within (step a s)) :
    ∀ (xs : List α) (s : Driver), s.Within (xs.foldl (fun s a => step a s) s)
  | [], s => Within.refl s
  | a :: xs, s => (within a s).trans (foldl_within within xs _)

theorem flashBuffer_within {installer : Driver → Driver} (call : ∀ s : Driver, s.Within (installer s))
    (data : List UInt8) (argc : Nat) (argv : List Str8) (s : Driver) :
    s.Within (flashBuffer env flash installer data argc argv s) := by
  cases flash with
  | library index => exact (ask_spec s env _).2.1.flushTxBuffer
  | installer => exact (call s).flushTxBuffer

theorem splitAndFlash_within {flashData : List UInt8 → Driver → Driver}
    (within : ∀ (data : List UInt8) (s : Driver), s.Within (flashData data s)) (content : List UInt8) (s : Driver) :
    s.Within (splitAndFlash env flashData content s) := by
  have flashed := foldl_within within
    (installerSplitAndFlash (env.splitEnv fun buffer => (flashData buffer s).lastCmdSucceeded) content).1.flashed s
  unfold splitAndFlash
  dsimp only
  split
  · exact flashed.trans (send_spec _ _).2.1
  · exact flashed

theorem installerFlashCmd_within : ∀ (argc : Nat) (argv : List Str8) (s : Driver),
    s.Within (installerFlashCmd env flash argc argv s)
  | 0, _, s => (send_spec s _).2.1
  | argc + 1, argv, s => by
      have flashData : ∀ (data : List UInt8) (s : Driver),
          s.Within (flashBuffer env flash (installerFlashCmd env flash argc argv) data argc argv s) :=
        fun data s => flashBuffer_within env flash (installerFlashCmd_within argc argv) data argc argv s
      rw [installerFlashCmd]
      split_ifs
      · exact (send_spec s _).2.1
      · split
        · exact (send_spec s _).2.1
        · split_ifs
          · exact splitAndFlash_within env flashData _ s
          · exact flashData _ s

theorem eraseAndFlash_within (argc : Nat) (argv : List Str8) (data : Option (List UInt8)) (s : Driver) :
    s.Within (eraseAndFlash env flash argc argv data s) := by
  have erased := (ask_spec s env (.runRootCmd (lit8 "erase") (argv.take argc))).2.1.flushTxBuffer
  unfold eraseAndFlash
  dsimp only
  split_ifs
  · exact erased
  · cases data with
    | none => exact erased
    | some data =>
        exact erased.trans (flashBuffer_within env flash (installerFlashCmd_within env flash argc argv) _ _ _ _)

theorem installerFormat_within {argc : Nat} {argv : List Str8} {s s' : Driver}
    (formatted : installerFormat env flash argc argv s = some s') : s.Within s' := by
  unfold installerFormat at formatted
  dsimp only at formatted
  split_ifs at formatted
  split at formatted
  · cases formatted
    exact eraseAndFlash_within env flash _ _ _ s
  · split_ifs at formatted <;> cases formatted
    · exact (send_spec s _).2.1.trans (eraseAndFlash_within env flash _ _ _ _)
    · exact (send_spec s _).2.1

theorem batch_within (argc : Nat) (argv : List Str8) (s : Driver) : s.Within (batch env argc argv s) := by
  unfold batch
  split_ifs
  · exact (send_spec s _).2.1
  · split
    · exact (send_spec s _).2.1
    · rename_i data _
      have stored := (storeCommands_within s (env.parseTextBuffer data).1).1
      dsimp only
      split_ifs
      · exact stored.trans (send_spec _ _).2.1
      · exact stored.trans (send_spec _ _).2.1

theorem runInstaller_within {handler : InstallerHandler} {argv : List Str8} {s s' : Driver}
    (ran : runInstaller env flash handler argv s = some s') : s.Within s' := by
  cases handler <;> simp only [runInstaller, Option.some.injEq] at ran
  · exact ran ▸ installerFlashCmd_within env flash _ _ s
  · exact installerFormat_within env flash ran
  · exact ran ▸ (send_spec s _).2.1
  · exact ran ▸ (send_spec s _).2.1
  · exact ran ▸ batch_within env _ _ s

/-- A command run by the library keeps the globals and the queue. -/
theorem runCommand_within {command : Str8} {s s' : Driver} (ran : runCommand env flash command s = some s') :
    s.Within s' := by
  unfold runCommand at ran
  dsimp only at ran
  split at ran
  · cases ran
    exact (ask_spec s env _).2.1
  · split_ifs at ran
    · cases ran
      exact (ask_spec s env _).2.1
    · split at ran
      · cases ran
        exact (ask_spec s env _).2.1
      · exact runInstaller_within env flash ran

end Handlers

end Kernelflinger.Installer
