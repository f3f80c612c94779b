import Kernelflinger.Time

/-
`check_watchdog`, the crash-event escalation tracker, against a model that keeps the
whole current run of watchdog boots.
-/

namespace Kernelflinger.Watchdog

open Kernelflinger.Time

/-- `WATCHDOG_COUNTER_MAX`. -/
def watchdogCounterMax : Nat := 2

/-- `WATCHDOG_DELAY`, in seconds. -/
def watchdogDelay : Int := 10 * 60

/-- The persisted watchdog record. -/
structure WatchdogStatus where
  counter : UInt8
  timeRef : EfiTime
  deriving DecidableEq, Repr

/-- What the collaborators answer during one boot's `check_watchdog`. -/
structure WatchdogBoot where
  crashEventMenu : Bool
  statusReadOk : Bool
  resetSource : ResetSource
  now : Option EfiTime
  resetOk : Bool
  timeRefWriteOk : Bool
  counterWriteOk : Bool
  promptAnswer : BootTarget
  deriving DecidableEq, Repr

/-- The two reset sources `check_watchdog` counts. -/
def isWatchdogReset (source : ResetSource) : Bool :=
  source == .kernelWatchdog || source == .securityWatchdog

/-- `reset_watchdog_status`. Modelled from the spec: the counter goes back to zero. -/
def resetWatchdogStatus (status : WatchdogStatus) : WatchdogStatus := { status with counter := 0 }

/-- The outcome of one `check_watchdog`. -/
structure WatchdogResult where
  target : BootTarget
  status : WatchdogStatus
  prompted : Bool
  deriving DecidableEq, Repr

section Clock

variable (intnBits : Nat) (beyond : Nat → UInt8)

/-- `time_diff`: the `INTN` difference of the two `efi_time_to_ctime` values. -/
def timeDiff (now timeRef : EfiTime) : Int :=
  Int.bmod (efiTimeToCtime intnBits beyond now - efiTimeToCtime intnBits beyond timeRef) (2 ^ intnBits)

/-- The reset condition `time_diff < 0 || time_diff > WATCHDOG_DELAY`. -/
def outsideWindow (now timeRef : EfiTime) : Bool :=
  decide (timeDiff intnBits beyond now timeRef < 0) || decide (watchdogDelay < timeDiff intnBits beyond now timeRef)

/-- The part of `check_watchdog` after the current time was read. -/
def countWatchdogBoot (boot : WatchdogBoot) (status : WatchdogStatus) (now : EfiTime) :
    WatchdogResult :=
  let counter := if 0 < status.counter.toNat && outsideWindow intnBits beyond now status.timeRef
    then 0 else status.counter
  if counter = 0 && !boot.timeRefWriteOk then ⟨.normalBoot, status, false⟩
  else
    let status := if counter = 0 then { status with timeRef := now } else status
    let counter := counter + 1
    if counter.toNat ≤ watchdogCounterMax then
      ⟨.normalBoot, if boot.counterWriteOk then { status with counter := counter } else status, false⟩
    else
      ⟨boot.promptAnswer, if boot.resetOk then resetWatchdogStatus status else status, true⟩

/-- `check_watchdog`. -/
def checkWatchdog (boot : WatchdogBoot) (status : WatchdogStatus) : WatchdogResult :=
  if !boot.crashEventMenu || !boot.statusReadOk then ⟨.normalBoot, status, false⟩
  else if !isWatchdogReset boot.resetSource then
    if status.counter ≠ 0 && boot.resetOk then ⟨.normalBoot, resetWatchdogStatus status, false⟩
    else ⟨.normalBoot, status, false⟩
  else
    match boot.now with
    | none => ⟨.normalBoot, status, false⟩
    | some now => countWatchdogBoot intnBits beyond boot status now

/-- A boot at `now` lies in the window that opened at `first`. -/
def InWindow (first now : EfiTime) : Prop := outsideWindow intnBits beyond now first = false

/-- The run a watchdog boot at `now` leaves, before the prompt is considered. -/
def extendRun (run : List EfiTime) (now : EfiTime) : List EfiTime :=
  match run with
  | first :: _ => if outsideWindow intnBits beyond now first then [now] else run ++ [now]
  | [] => [now]

/-- One boot of the abstract tracker; an unreadable clock is not counted. -/
def runStep (run : List EfiTime) (boot : WatchdogBoot) : List EfiTime × Bool :=
  if !isWatchdogReset boot.resetSource then ([], false)
  else
    match boot.now with
    | none => (run, false)
    | some now =>
      if (extendRun intnBits beyond run now).length = watchdogCounterMax + 1 then ([], true)
      else (extendRun intnBits beyond run now, false)

/-- A run is at most `WATCHDOG_COUNTER_MAX` boots, each in the window of the first. -/
def RunWellFormed (run : List EfiTime) : Prop :=
  run.length ≤ watchdogCounterMax ∧ ∀ first rest, run = first :: rest →
    ∀ member ∈ run, InWindow intnBits beyond first member

/-- The record stores the run's length and first time. -/
def Tracks (status : WatchdogStatus) (run : List EfiTime) : Prop :=
  status.counter.toNat = run.length ∧ ∀ first rest, run = first :: rest → status.timeRef = first

/-- Every access to the record succeeds and the crash-event menu is enabled. -/
def RecordOk (boot : WatchdogBoot) : Prop :=
  boot.crashEventMenu ∧ boot.statusReadOk ∧ boot.resetOk ∧ boot.timeRefWriteOk ∧ boot.counterWriteOk

theorem inWindow_self (time : EfiTime) : InWindow intnBits beyond time time := by
  simp [InWindow, outsideWindow, timeDiff, watchdogDelay]

theorem extendRun_length_le (run : List EfiTime) (now : EfiTime) :
    (extendRun intnBits beyond run now).length ≤ run.length + 1 := by
  cases run with
  | nil => simp [extendRun]
  | cons first rest => simp only [extendRun]; split <;> simp

/-- Every member of an extended run lies in the window of its first boot. -/
theorem extendRun_members (run : List EfiTime) (now : EfiTime)
    (members : ∀ first rest, run = first :: rest → ∀ member ∈ run, InWindow intnBits beyond first member) :
    ∀ first rest, extendRun intnBits beyond run now = first :: rest →
      ∀ member ∈ extendRun intnBits beyond run now, InWindow intnBits beyond first member := by
  intro first rest extended
  rw [extended]
  cases run with
  | nil =>
      simp only [extendRun, List.cons.injEq] at extended
      obtain ⟨rfl, rfl⟩ := extended
      simpa using inWindow_self intnBits beyond _
  | cons head tail =>
      simp only [extendRun] at extended
      split at extended
      · simp only [List.cons.injEq] at extended
        obtain ⟨rfl, rfl⟩ := extended
        simpa using inWindow_self intnBits beyond _
      · rename_i inside
        simp only [List.cons_append, List.cons.injEq] at extended
        obtain ⟨rfl, rfl⟩ := extended
        intro member isMember
        simp only [List.mem_cons, List.mem_append, List.not_mem_nil, or_false] at isMember
        rcases isMember with rfl | old | rfl
        · exact members _ _ rfl _ (List.mem_cons_self _ _)
        · exact members _ _ rfl _ (List.mem_cons_of_mem _ old)
        · simpa [InWindow] using inside

/-- A well-formed run stays well formed after any boot. -/
theorem runStep_wellFormed (run : List EfiTime) (boot : WatchdogBoot)
    (wellFormed : RunWellFormed intnBits beyond run) :
    RunWellFormed intnBits beyond (runStep intnBits beyond run boot).1 := by
  have empty : RunWellFormed intnBits beyond [] := ⟨Nat.zero_le _, by simp⟩
  unfold runStep
  split
  · exact empty
  · split
    · exact wellFormed
    · rename_i now _
      split
      · exact empty
      · rename_i notFull
        dsimp only
        refine ⟨?_, extendRun_members intnBits beyond run now wellFormed.2⟩
        have longer := extendRun_length_le intnBits beyond run now
        have bounded := wellFormed.1
        unfold watchdogCounterMax at *
        omega

/-- A boot finding no open run starts a run of one. -/
theorem countWatchdogBoot_restart (boot : WatchdogBoot) (status : WatchdogStatus) (now : EfiTime)
    (restart : status.counter = 0 ∨ outsideWindow intnBits beyond now status.timeRef = true)
    (timeRefWriteOk : boot.timeRefWriteOk = true) (counterWriteOk : boot.counterWriteOk = true) :
    countWatchdogBoot intnBits beyond boot status now = ⟨.normalBoot, ⟨1, now⟩, false⟩ := by
  have effective : (if 0 < status.counter.toNat && outsideWindow intnBits beyond now status.timeRef
      then 0 else status.counter) = 0 := by
    rcases restart with isZero | outside
    · simp [isZero]
    · split
      · rfl
      · rename_i keep
        simp only [outside, Bool.and_true, decide_eq_true_eq, Nat.not_lt, Nat.le_zero] at keep
        exact (uint8_eq_zero_iff _).2 keep
  unfold countWatchdogBoot
  simp only [effective, timeRefWriteOk, counterWriteOk]
  rfl

/-- A boot inside the window counts one more and may prompt. -/
theorem countWatchdogBoot_extend (boot : WatchdogBoot) (status : WatchdogStatus) (now : EfiTime)
    (running : status.counter ≠ 0) (inside : outsideWindow intnBits beyond now status.timeRef = false)
    (resetOk : boot.resetOk = true) (counterWriteOk : boot.counterWriteOk = true) :
    countWatchdogBoot intnBits beyond boot status now =
      if (status.counter + 1).toNat ≤ watchdogCounterMax then
        ⟨.normalBoot, { status with counter := status.counter + 1 }, false⟩
      else ⟨boot.promptAnswer, resetWatchdogStatus status, true⟩ := by
  unfold countWatchdogBoot
  simp [inside, running, resetOk, counterWriteOk]

/-- `check_watchdog` on a boot that no watchdog caused clears the counter. -/
theorem checkWatchdog_of_not_watchdog (boot : WatchdogBoot) (status : WatchdogStatus)
    (ok : RecordOk boot) (notWatchdog : isWatchdogReset boot.resetSource = false) :
    checkWatchdog intnBits beyond boot status = ⟨.normalBoot, resetWatchdogStatus status, false⟩ := by
  obtain ⟨menu, read, resetOk, -, -⟩ := ok
  by_cases isZero : status.counter = 0
  · have same : resetWatchdogStatus status = status := by simp [resetWatchdogStatus, ← isZero]
    simp [checkWatchdog, menu, read, notWatchdog, isZero, same]
  · simp [checkWatchdog, menu, read, notWatchdog, isZero, resetOk]

/-- `check_watchdog` on a watchdog boot: nothing without the clock, else the count. -/
theorem checkWatchdog_of_watchdog (boot : WatchdogBoot) (status : WatchdogStatus)
    (ok : RecordOk boot) (watchdog : isWatchdogReset boot.resetSource = true) :
    checkWatchdog intnBits beyond boot status =
      match boot.now with
      | none => ⟨.normalBoot, status, false⟩
      | some now => countWatchdogBoot intnBits beyond boot status now := by
  simp [checkWatchdog, ok.1, ok.2.1, watchdog]

/-- The counting part of `check_watchdog` keeps the record in step. -/
theorem countWatchdogBoot_tracks (boot : WatchdogBoot) (status : WatchdogStatus)
    (run : List EfiTime) (now : EfiTime) (ok : RecordOk boot)
    (wellFormed : RunWellFormed intnBits beyond run) (tracks : Tracks status run) :
    Tracks (countWatchdogBoot intnBits beyond boot status now).status
        (if (extendRun intnBits beyond run now).length = watchdogCounterMax + 1 then []
          else extendRun intnBits beyond run now) ∧
      (countWatchdogBoot intnBits beyond boot status now).prompted =
        decide ((extendRun intnBits beyond run now).length = watchdogCounterMax + 1) := by
  obtain ⟨-, -, resetOk, timeRefWriteOk, counterWriteOk⟩ := ok
  obtain ⟨counterLength, timeRefFirst⟩ := tracks
  have startsRun : ∀ restart, countWatchdogBoot intnBits beyond boot status now =
      ⟨.normalBoot, ⟨1, now⟩, false⟩ := fun restart =>
    countWatchdogBoot_restart intnBits beyond boot status now restart timeRefWriteOk counterWriteOk
  cases run with
  | nil =>
      rw [startsRun (.inl ((uint8_eq_zero_iff _).2 counterLength))]
      simp [extendRun, Tracks, watchdogCounterMax]
  | cons first rest =>
      have bounded := wellFormed.1
      simp only [List.length_cons, watchdogCounterMax] at counterLength bounded
      rw [← timeRefFirst first rest rfl]
      by_cases outside : outsideWindow intnBits beyond now status.timeRef = true
      · rw [startsRun (.inr outside)]
        simp [extendRun, outside, Tracks, watchdogCounterMax]
      · have inside : outsideWindow intnBits beyond now status.timeRef = false := by
          simpa using outside
        have running : status.counter ≠ 0 := fun isZero => by
          rw [isZero] at counterLength; simp at counterLength
        have next : (status.counter + 1).toNat = rest.length + 2 := by
          rw [uint8_toNat_add]; simp only [show (1 : UInt8).toNat = 1 from rfl]; omega
        rw [countWatchdogBoot_extend intnBits beyond boot status now running inside resetOk counterWriteOk]
        by_cases full : rest.length = 1
        · simp [next, full, extendRun, inside, Tracks, resetWatchdogStatus, watchdogCounterMax]
        · have restEmpty : rest.length = 0 := by omega
          simp [next, restEmpty, extendRun, inside, Tracks, watchdogCounterMax]

/-- One boot of `check_watchdog` keeps the record in step with the run. -/
theorem checkWatchdog_step (boot : WatchdogBoot) (status : WatchdogStatus) (run : List EfiTime)
    (ok : RecordOk boot) (wellFormed : RunWellFormed intnBits beyond run)
    (tracks : Tracks status run) :
    Tracks (checkWatchdog intnBits beyond boot status).status (runStep intnBits beyond run boot).1 ∧
      (checkWatchdog intnBits beyond boot status).prompted = (runStep intnBits beyond run boot).2 := by
  cases watchdog : isWatchdogReset boot.resetSource with
  | false =>
      rw [checkWatchdog_of_not_watchdog intnBits beyond boot status ok watchdog]
      simp [runStep, watchdog, Tracks, resetWatchdogStatus]
  | true =>
      rw [checkWatchdog_of_watchdog intnBits beyond boot status ok watchdog]
      unfold runStep
      cases clock : boot.now with
      | none => simpa [watchdog] using tracks
      | some now =>
          have counted := countWatchdogBoot_tracks intnBits beyond boot status run now ok wellFormed tracks
          by_cases full : (extendRun intnBits beyond run now).length = watchdogCounterMax + 1
          · simpa [watchdog, full] using counted
          · simpa [watchdog, full] using counted

/-- The record and the prompts of `check_watchdog` over a sequence of boots. -/
def watchdogRun (status : WatchdogStatus) : List WatchdogBoot → WatchdogStatus × List Bool
  | [] => (status, [])
  | boot :: boots =>
      let result := checkWatchdog intnBits beyond boot status
      let rest := watchdogRun result.status boots
      (rest.1, result.prompted :: rest.2)

/-- The run and the prompts of the abstract tracker over a sequence of boots. -/
def trackerRun (run : List EfiTime) : List WatchdogBoot → List EfiTime × List Bool
  | [] => (run, [])
  | boot :: boots =>
      let step := runStep intnBits beyond run boot
      let rest := trackerRun step.1 boots
      (rest.1, step.2 :: rest.2)

/-- Over any boots `check_watchdog` prompts when the tracker does. -/
theorem watchdogRun_tracks (status : WatchdogStatus) (run : List EfiTime)
    (boots : List WatchdogBoot) (ok : ∀ boot ∈ boots, RecordOk boot)
    (wellFormed : RunWellFormed intnBits beyond run) (tracks : Tracks status run) :
    (watchdogRun intnBits beyond status boots).2 = (trackerRun intnBits beyond run boots).2 ∧
      Tracks (watchdogRun intnBits beyond status boots).1 (trackerRun intnBits beyond run boots).1 ∧
      RunWellFormed intnBits beyond (trackerRun intnBits beyond run boots).1 := by
  induction boots generalizing status run with
  | nil => exact ⟨rfl, tracks, wellFormed⟩
  | cons boot boots inductionHypothesis =>
      have bootOk := ok boot (List.mem_cons_self _ _)
      obtain ⟨stepTracks, stepPrompt⟩ :=
        checkWatchdog_step intnBits beyond boot status run bootOk wellFormed tracks
      obtain ⟨prompts, finalTracks, finalWellFormed⟩ := inductionHypothesis _ _
        (fun other isMember => ok other (List.mem_cons_of_mem _ isMember))
        (runStep_wellFormed intnBits beyond run boot wellFormed) stepTracks
      exact ⟨by simp only [watchdogRun, trackerRun, stepPrompt, prompts], finalTracks, finalWellFormed⟩

/-- `check_watchdog` prompts exactly on the boot that overflows a run. -/
theorem checkWatchdog_tracks_runs (status : WatchdogStatus) (boots : List WatchdogBoot)
    (initial : status.counter.toNat ≤ watchdogCounterMax) (ok : ∀ boot ∈ boots, RecordOk boot) :
    let start := List.replicate status.counter.toNat status.timeRef
    (watchdogRun intnBits beyond status boots).2 = (trackerRun intnBits beyond start boots).2 ∧
      Tracks (watchdogRun intnBits beyond status boots).1 (trackerRun intnBits beyond start boots).1 ∧
      RunWellFormed intnBits beyond (trackerRun intnBits beyond start boots).1 := by
  refine watchdogRun_tracks intnBits beyond status _ boots ok ⟨by simpa using initial, ?_⟩
    ⟨by simp, fun first rest start => (List.eq_of_mem_replicate (start ▸ List.mem_cons_self _ _)).symm⟩
  intro first rest start member isMember
  have firstIsRef : first = status.timeRef :=
    List.eq_of_mem_replicate (start ▸ List.mem_cons_self first rest)
  rw [List.eq_of_mem_replicate isMember, firstIsRef]
  exact inWindow_self intnBits beyond _

end Clock

/-- A kernel-watchdog boot with the given clock answer. -/
def watchdogBootAt (now : Option EfiTime) : WatchdogBoot :=
  ⟨true, true, .kernelWatchdog, now, true, true, true, .normalBoot⟩

theorem checkWatchdog_tracks_runs_twoBoots :
    (0 : UInt8).toNat ≤ watchdogCounterMax ∧
      (∀ boot ∈ [watchdogBootAt (some firstDayOf1971), watchdogBootAt none], RecordOk boot) ∧
      let start := List.replicate (0 : UInt8).toNat firstDayOf1971
      let boots := [watchdogBootAt (some firstDayOf1971), watchdogBootAt none]
      (watchdogRun 64 (fun _ => 0) ⟨0, firstDayOf1971⟩ boots).2 =
          (trackerRun 64 (fun _ => 0) start boots).2 ∧
        Tracks (watchdogRun 64 (fun _ => 0) ⟨0, firstDayOf1971⟩ boots).1
          (trackerRun 64 (fun _ => 0) start boots).1 ∧
        RunWellFormed 64 (fun _ => 0) (trackerRun 64 (fun _ => 0) start boots).1 :=
  have ok : ∀ boot ∈ [watchdogBootAt (some firstDayOf1971), watchdogBootAt none], RecordOk boot := by
    simp [watchdogBootAt, RecordOk]
  ⟨by decide, ok, checkWatchdog_tracks_runs 64 (fun _ => 0) ⟨0, firstDayOf1971⟩ _ (by decide) ok⟩

/-- A boot with an unreadable clock leaves a zero counter at zero. -/
theorem checkWatchdog_unreadable_clock :
    RecordOk (watchdogBootAt none) ∧ isWatchdogReset (watchdogBootAt none).resetSource = true ∧
      (checkWatchdog 64 (fun _ => 0) (watchdogBootAt none) ⟨0, firstDayOf1971⟩).status.counter = 0 := by
  simp [RecordOk, watchdogBootAt, isWatchdogReset, checkWatchdog]

end Kernelflinger.Watchdog
