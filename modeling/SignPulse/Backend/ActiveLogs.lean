import SignPulse.Foundation.StepRun
import SignPulse.Flow.FlowModels

/-!
# Polling the logs of a running task

The log that `get_active_logs` of `sign_tasks.py` shows is the log of the task's runs,
then a separator, then the log of `KeywordMonitorService`.  `get_active_logs_since` sends
what lies behind the total that the caller was last given.  Lines carry a stamp here, so
that two lines of one text are told apart.
-/

namespace SignPulse.ActiveLogs

open Foundation
open FlowModels (pyOr truthy)

structure LogLine where
  text : String
  stamp : ℕ
  deriving DecidableEq, Repr

abbrev TaskKey := String × String
abbrev RunKey := String × String × String

/-- `SignTaskService` and `KeywordMonitorService`, as far as their logs go. -/
structure LogService where
  activeLogs : Dict TaskKey (List LogLine) := []
  activeLogsByRun : Dict RunKey (List LogLine) := []
  /-- `_task_logs` of the keyword monitor. -/
  taskLogs : Dict TaskKey (List LogLine) := []
  /-- The stamp of the next line. -/
  clock : ℕ := 1
  deriving DecidableEq, Repr

def maxActiveLogLines : ℕ := 2000

def maxTaskLogLines : ℕ := 1000

/-- `del lines[:overflow]`. -/
def trimHead (limit : ℕ) (lines : List LogLine) : List LogLine :=
  lines.drop (lines.length - limit)

def separator : LogLine :=
  { text := "---- 关键词后台监听日志 ----", stamp := 0 }

/-- `_merge_active_and_monitor_logs`. -/
def mergeLogs (activeLogs monitorLogs : List LogLine) : List LogLine :=
  if monitorLogs = [] then activeLogs
  else if activeLogs = [] then monitorLogs
  else activeLogs ++ separator :: monitorLogs

/-- `make_task_key`. -/
def makeTaskKey (accountName taskName : String) : TaskKey :=
  (pyStrip accountName, pyStrip taskName)

def findLogs (logs : Dict TaskKey (List LogLine)) (taskName : String) :
    Option TaskKey → List LogLine
  | some key => (Dict.getItem logs key).getD []
  | none => ((logs.find? fun item => item.1.2 == taskName).map Prod.snd).getD []

namespace LogService

/-- `_append_active_log`, with the run id of the stored status. -/
def appendActiveLog (service : LogService) (taskKey : TaskKey) (text : String)
    (runId statusRunId : Option String) : LogService :=
  let effRunId := (pyOr runId statusRunId).getD ""
  let runKey := (taskKey.1, taskKey.2, effRunId)
  let line : LogLine := { text, stamp := service.clock }
  let runLogs := trimHead maxActiveLogLines
    ((Dict.getItem service.activeLogsByRun runKey).getD [] ++ [line])
  { service with
    activeLogs := Dict.setItem service.activeLogs taskKey runLogs
    activeLogsByRun := Dict.setItem service.activeLogsByRun runKey runLogs
    clock := service.clock + 1 }

/-- `execute_sign_task` starts a new log. -/
def newRun (service : LogService) (taskKey : TaskKey) : LogService :=
  { service with activeLogs := Dict.setItem service.activeLogs taskKey [] }

/-- `_append_task_log` of the keyword monitor, with the time stamp already in the text. -/
def appendTaskLog (service : LogService) (taskKey : TaskKey) (text : String) : LogService :=
  let line : LogLine := { text, stamp := service.clock }
  let logs := trimHead maxTaskLogLines ((Dict.getItem service.taskLogs taskKey).getD [] ++ [line])
  { service with
    taskLogs := Dict.setItem service.taskLogs taskKey logs
    clock := service.clock + 1 }

def runLogs (service : LogService) (taskName : String) (accountName : Option String) :
    List LogLine :=
  findLogs service.activeLogs taskName
    ((accountName.filter fun _ => truthy accountName).map (makeTaskKey · taskName))

/-- `get_task_logs` of the keyword monitor, whose keys are not stripped. -/
def getTaskLogs (service : LogService) (taskName : String) (accountName : Option String) :
    List LogLine :=
  findLogs service.taskLogs taskName
    ((accountName.filter fun _ => truthy accountName).map (·, taskName))

/-- `get_active_logs`. -/
def getActiveLogs (service : LogService) (taskName : String) (accountName : Option String) :
    List LogLine :=
  mergeLogs (service.runLogs taskName accountName) (service.getTaskLogs taskName accountName)

/-- `get_active_logs_since`. -/
def getActiveLogsSince (service : LogService) (taskName : String)
    (accountName : Option String) (prevTotal : ℕ) : List LogLine × ℕ :=
  let active := service.runLogs taskName accountName
  let monitorLogs := service.getTaskLogs taskName accountName
  let activeLen := active.length
  let monitorLen := monitorLogs.length
  let total := activeLen + monitorLen + if activeLen ≠ 0 ∧ monitorLen ≠ 0 then 1 else 0
  if total = prevTotal then ([], total)
  else
    let merged := mergeLogs active monitorLogs
    if total < prevTotal then (merged, total) else (merged.drop prevTotal, total)

end LogService

/-! ## A caller -/

/-- The services, and a caller that polls the log of one task: what it was last given,
what the log was then, and all it was ever given. -/
structure Polling where
  service : LogService := {}
  total : ℕ := 0
  active : List LogLine := []
  monitor : List LogLine := []
  clock : ℕ := 1
  returned : List LogLine := []
  deriving DecidableEq, Repr

inductive Action where
  | appendActiveLog (taskKey : TaskKey) (text : String) (runId statusRunId : Option String)
  | newRun (taskKey : TaskKey)
  | appendTaskLog (taskKey : TaskKey) (text : String)
  | poll
  deriving DecidableEq, Repr

section Caller

variable (taskName : String) (accountName : Option String)

namespace Polling

/-- The result of a poll, for the total that the caller was last given. -/
def answer (polling : Polling) : List LogLine × ℕ :=
  polling.service.getActiveLogsSince taskName accountName polling.total

def poll (polling : Polling) : Polling where
  service := polling.service
  total := (polling.answer taskName accountName).2
  active := polling.service.runLogs taskName accountName
  monitor := polling.service.getTaskLogs taskName accountName
  clock := polling.service.clock
  returned := polling.returned ++ (polling.answer taskName accountName).1

/-- A poll leaves the services as they are, so other callers need not be told apart. -/
def act (polling : Polling) : Action → Option Polling
  | .appendActiveLog taskKey text runId statusRunId =>
    some
      { polling with
        service := polling.service.appendActiveLog taskKey text runId statusRunId }
  | .newRun taskKey => some { polling with service := polling.service.newRun taskKey }
  | .appendTaskLog taskKey text =>
    some { polling with service := polling.service.appendTaskLog taskKey text }
  | .poll => some (polling.poll taskName accountName)

abbrev Run := StepRun (act taskName accountName) fun _ _ => True

/-- What is promised of a poll: every line of the log that was appended since the last
poll is sent, and no line is sent again unless the whole log is. -/
def Complete (polling : Polling) : Prop :=
  let log := polling.service.getActiveLogs taskName accountName
  let sent := (polling.answer taskName accountName).1
  (∀ line ∈ log, polling.clock ≤ line.stamp → line ∈ sent) ∧
    (sent = log ∨ ∀ line ∈ sent, line ∉ polling.returned)

def ExtendedBy (polling : Polling) (before now : List LogLine) : Prop :=
  ∃ added, now = before ++ added ∧ ∀ line ∈ added, polling.clock ≤ line.stamp

/-- Since the last poll the log has become shorter, or it was empty then, or both its parts
have at most been extended, and the first part only if there was no second part. -/
def GrownAtEnd (polling : Polling) : Prop :=
  let active := polling.service.runLogs taskName accountName
  let monitor := polling.service.getTaskLogs taskName accountName
  (mergeLogs active monitor).length < polling.total ∨ polling.total = 0 ∨
    (polling.ExtendedBy polling.active active ∧ polling.ExtendedBy polling.monitor monitor ∧
      (polling.monitor = [] ∨ active = polling.active))

end Polling

end Caller

/-! ## The lists behind a log -/

section Lists

variable {logs : Dict TaskKey (List LogLine)} {taskName : String} {key : Option TaskKey}

theorem length_mergeLogs (activeLogs monitorLogs : List LogLine) :
    (mergeLogs activeLogs monitorLogs).length = activeLogs.length + monitorLogs.length +
        if activeLogs.length ≠ 0 ∧ monitorLogs.length ≠ 0 then 1 else 0 := by
  unfold mergeLogs
  split
  · next hmonitor => simp [hmonitor]
  · next hmonitor =>
    split
    · next hactive => simp [hactive]
    · next hactive => simp [hactive, hmonitor]; omega

theorem mem_mergeLogs {line : LogLine} {activeLogs monitorLogs : List LogLine}
    (hline : line ∈ mergeLogs activeLogs monitorLogs) :
    line ∈ activeLogs ∨ line ∈ monitorLogs ∨ line = separator ∧ monitorLogs ≠ [] := by
  unfold mergeLogs at hline
  split at hline
  · exact .inl hline
  · next hmonitor =>
    split at hline
    · exact .inr (.inl hline)
    · rcases List.mem_append.mp hline with hactive | hrest
      · exact .inl hactive
      · rcases List.mem_cons.mp hrest with hseparator | hin
        · exact .inr (.inr ⟨hseparator, hmonitor⟩)
        · exact .inr (.inl hin)

theorem findLogs_mem (hfound : findLogs logs taskName key ≠ []) :
    ∃ found, (found, findLogs logs taskName key) ∈ logs := by
  cases key with
  | some key =>
    simp only [findLogs] at hfound ⊢
    cases hitem : Dict.getItem logs key with
    | none => simp [hitem] at hfound
    | some lines => exact ⟨key, Dict.mem_of_getItem hitem⟩
  | none =>
    simp only [findLogs] at hfound ⊢
    cases hitem : logs.find? fun item => item.1.2 == taskName with
    | none => simp [hitem] at hfound
    | some found => exact ⟨found.1, List.mem_of_find?_eq_some hitem⟩

theorem findLogs_setItem (stored : TaskKey) (lines : List LogLine) :
    findLogs (Dict.setItem logs stored lines) taskName key = findLogs logs taskName key ∨
      findLogs (Dict.setItem logs stored lines) taskName key = lines := by
  cases key with
  | some key =>
    simp only [findLogs]
    by_cases hkey : key = stored
    · rw [hkey, Dict.getItem_setItem_self]
      exact .inr rfl
    · rw [Dict.getItem_setItem_of_ne logs lines hkey]
      exact .inl rfl
  | none =>
    simp only [findLogs]
    induction logs with
    | nil =>
      by_cases hname : (stored.2 == taskName) = true
      · exact .inr (by simp [Dict.setItem, hname])
      · exact .inl (by simp [Dict.setItem, hname])
    | cons item rest ih =>
      by_cases hkey : item.1 = stored
      · by_cases hname : (item.1.2 == taskName) = true
        · exact .inr (by simp [Dict.setItem, hkey, hkey ▸ hname])
        · exact .inl (by simp [Dict.setItem, hkey, hkey ▸ hname])
      · by_cases hname : (item.1.2 == taskName) = true
        · exact .inl (by simp [Dict.setItem, hkey, hname])
        · simpa [Dict.setItem, hkey, hname] using ih

theorem mem_trimHead {limit : ℕ} {lines : List LogLine} {line : LogLine}
    (hline : line ∈ trimHead limit lines) : line ∈ lines :=
  List.mem_of_mem_drop hline

theorem trimHead_concat_ne_nil {limit : ℕ} (hlimit : 0 < limit) (lines : List LogLine)
    (line : LogLine) : trimHead limit (lines ++ [line]) ≠ [] := by
  intro hnil
  have hlength := List.drop_eq_nil_iff.mp hnil
  rw [List.length_append, List.length_singleton] at hlength
  omega

end Lists

/-! ## Stamps -/

section Stamps

variable {κ : Type*} {clock later : ℕ}

/-- The line has been appended before the clock showed `clock`. -/
def StampedBefore (clock : ℕ) (line : LogLine) : Prop :=
  1 ≤ line.stamp ∧ line.stamp < clock

def Stamped (clock : ℕ) (logs : Dict κ (List LogLine)) : Prop :=
  ∀ key lines, (key, lines) ∈ logs → ∀ line ∈ lines, StampedBefore clock line

theorem StampedBefore.mono {line : LogLine} (hline : StampedBefore clock line)
    (hlater : clock ≤ later) : StampedBefore later line :=
  ⟨hline.1, hline.2.trans_le hlater⟩

theorem Stamped.mono {logs : Dict κ (List LogLine)} (hlogs : Stamped clock logs)
    (hlater : clock ≤ later) : Stamped later logs :=
  fun key lines hmem line hline => (hlogs key lines hmem line hline).mono hlater

variable [DecidableEq κ]

theorem Stamped.setItem {logs : Dict κ (List LogLine)} (hlogs : Stamped clock logs) (key : κ)
    {lines : List LogLine} (hlines : ∀ line ∈ lines, StampedBefore clock line) :
    Stamped clock (Dict.setItem logs key lines) := by
  induction logs with
  | nil =>
    intro other found hmem
    obtain ⟨-, rfl⟩ := Prod.mk.inj (List.mem_singleton.mp hmem)
    exact hlines
  | cons item rest ih =>
    have hrest : Stamped clock rest := fun other found hmem =>
      hlogs other found (List.mem_cons_of_mem _ hmem)
    intro other found hmem
    obtain ⟨first, firstLines⟩ := item
    by_cases hkey : first = key
    · simp only [Dict.setItem, if_pos hkey] at hmem
      rcases List.mem_cons.mp hmem with hsame | hin
      · obtain ⟨-, rfl⟩ := Prod.mk.inj hsame
        exact hlines
      · exact hrest other found hin
    · simp only [Dict.setItem, if_neg hkey] at hmem
      rcases List.mem_cons.mp hmem with hsame | hin
      · obtain ⟨rfl, rfl⟩ := Prod.mk.inj hsame
        exact hlogs other found List.mem_cons_self
      · exact ih hrest other found hin

theorem Stamped.extend {logs : Dict κ (List LogLine)} (hlogs : Stamped clock logs)
    (hclock : 1 ≤ clock) (key : κ) (limit : ℕ) (text : String) :
    ∀ line ∈ trimHead limit ((Dict.getItem logs key).getD [] ++ [{ text, stamp := clock }]),
      StampedBefore (clock + 1) line := by
  intro line hline
  rcases List.mem_append.mp (mem_trimHead hline) with hold | hnew
  · cases hitem : Dict.getItem logs key with
    | none => simp [hitem] at hold
    | some lines =>
      rw [hitem] at hold
      exact (hlogs key lines (Dict.mem_of_getItem hitem) line hold).mono (Nat.le_succ _)
  · obtain rfl := List.mem_singleton.mp hnew
    exact ⟨hclock, Nat.lt_succ_self _⟩

end Stamps

/-! ## What every poll can rely on -/

namespace Polling

section Relying

variable {taskName : String} {accountName : Option String} {polling : Polling}

/-- What holds between any two actions. -/
structure Sound (taskName : String) (accountName : Option String) (polling : Polling) :
    Prop where
  active : Stamped polling.service.clock polling.service.activeLogs
  byRun : Stamped polling.service.clock polling.service.activeLogsByRun
  task : Stamped polling.service.clock polling.service.taskLogs
  started : 1 ≤ polling.clock
  clock : polling.clock ≤ polling.service.clock
  seen : ∀ line ∈ polling.active ++ polling.monitor, line.stamp < polling.clock
  returned : ∀ line ∈ polling.returned, line.stamp < polling.clock
  total : polling.total = (mergeLogs polling.active polling.monitor).length
  divided : separator ∈ polling.returned → polling.monitor ≠ []
  kept : polling.monitor ≠ [] → polling.service.getTaskLogs taskName accountName ≠ []

theorem sound_empty (taskName : String) (accountName : Option String) :
    Sound taskName accountName {} where
  active := fun _ _ hmem => absurd hmem List.not_mem_nil
  byRun := fun _ _ hmem => absurd hmem List.not_mem_nil
  task := fun _ _ hmem => absurd hmem List.not_mem_nil
  started := le_rfl
  clock := le_rfl
  seen := fun _ hline => absurd hline List.not_mem_nil
  returned := fun _ hline => absurd hline List.not_mem_nil
  total := rfl
  divided := fun hline => absurd hline List.not_mem_nil
  kept := fun hmonitor => absurd rfl hmonitor

theorem stamped_find {logs : Dict TaskKey (List LogLine)} {clock : ℕ} {key : Option TaskKey}
    (hlogs : Stamped clock logs) {line : LogLine} (hline : line ∈ findLogs logs taskName key) :
    StampedBefore clock line := by
  obtain ⟨found, hmem⟩ := findLogs_mem (List.ne_nil_of_mem hline)
  exact hlogs found _ hmem line hline

theorem Sound.log (hsound : Sound taskName accountName polling) {line : LogLine}
    (hline : line ∈ polling.service.getActiveLogs taskName accountName) :
    StampedBefore polling.service.clock line ∨
      line = separator ∧ polling.service.getTaskLogs taskName accountName ≠ [] := by
  rcases mem_mergeLogs hline with hactive | hmonitor | hseparator
  · exact .inl (stamped_find hsound.active hactive)
  · exact .inl (stamped_find hsound.task hmonitor)
  · exact .inr hseparator

theorem answer_eq : polling.answer taskName accountName =
      (if (polling.service.getActiveLogs taskName accountName).length = polling.total then []
        else if (polling.service.getActiveLogs taskName accountName).length < polling.total then
          polling.service.getActiveLogs taskName accountName
        else (polling.service.getActiveLogs taskName accountName).drop polling.total,
        (polling.service.getActiveLogs taskName accountName).length) := by
  unfold answer LogService.getActiveLogsSince LogService.getActiveLogs
  dsimp only
  rw [← length_mergeLogs]
  split
  · rfl
  · split
    · rfl
    · rfl

theorem mem_answer {line : LogLine} (hline : line ∈ (polling.answer taskName accountName).1) :
    line ∈ polling.service.getActiveLogs taskName accountName := by
  rw [answer_eq] at hline
  split at hline
  · exact absurd hline List.not_mem_nil
  · split at hline
    · exact hline
    · exact List.mem_of_mem_drop hline

theorem Sound.poll (hsound : Sound taskName accountName polling) :
    Sound taskName accountName (polling.poll taskName accountName) where
  active := hsound.active
  byRun := hsound.byRun
  task := hsound.task
  started := hsound.started.trans hsound.clock
  clock := le_rfl
  seen := by
    intro line hline
    rcases List.mem_append.mp hline with hactive | hmonitor
    · exact (stamped_find hsound.active hactive).2
    · exact (stamped_find hsound.task hmonitor).2
  returned := by
    intro line hline
    rcases List.mem_append.mp hline with hold | hnew
    · exact (hsound.returned line hold).trans_le hsound.clock
    · rcases hsound.log (mem_answer hnew) with hstamped | ⟨rfl, -⟩
      · exact hstamped.2
      · exact hsound.started.trans hsound.clock
  total := congrArg Prod.snd answer_eq
  divided := by
    intro hline
    rcases List.mem_append.mp hline with hold | hnew
    · exact hsound.kept (hsound.divided hold)
    · rcases hsound.log (mem_answer hnew) with hstamped | ⟨-, hmonitor⟩
      · exact absurd hstamped.1 (by decide)
      · exact hmonitor
  kept := id

theorem Sound.act (hsound : Sound taskName accountName polling) {action : Action}
    {next : Polling} (hact : act taskName accountName polling action = some next) :
    Sound taskName accountName next := by
  have hclock : 1 ≤ polling.service.clock := hsound.started.trans hsound.clock
  have hlater : polling.service.clock ≤ polling.service.clock + 1 := Nat.le_succ _
  cases action with
  | appendActiveLog taskKey text runId statusRunId =>
    cases hact
    have hlines := hsound.byRun.extend hclock
      (taskKey.1, taskKey.2, (pyOr runId statusRunId).getD "") maxActiveLogLines text
    exact
      { hsound with
        active := (hsound.active.mono hlater).setItem taskKey hlines
        byRun := (hsound.byRun.mono hlater).setItem _ hlines
        task := hsound.task.mono hlater
        clock := hsound.clock.trans hlater }
  | newRun taskKey =>
    cases hact
    exact
      { hsound with
        active := hsound.active.setItem taskKey fun _ hline => absurd hline List.not_mem_nil }
  | appendTaskLog taskKey text =>
    cases hact
    have hlines := hsound.task.extend hclock taskKey maxTaskLogLines text
    refine
      { hsound with
        active := hsound.active.mono hlater
        byRun := hsound.byRun.mono hlater
        task := (hsound.task.mono hlater).setItem taskKey hlines
        clock := hsound.clock.trans hlater
        kept := ?_ }
    -- a monitor log that has lines keeps some
    intro hmonitor
    have hkept := hsound.kept hmonitor
    unfold LogService.getTaskLogs LogService.appendTaskLog
    rcases findLogs_setItem taskKey _ with hsame | hnew
    · rw [hsame]
      exact hkept
    · rw [hnew]
      exact trimHead_concat_ne_nil (by decide) _ _
  | poll =>
    cases hact
    exact hsound.poll

theorem Run.sound {actions : List Action} (hrun : Run taskName accountName {} actions polling) :
    Sound taskName accountName polling :=
  StepRun.invariant hrun (Sound taskName accountName)
    (fun _ _ _ hsound _ hact => hsound.act hact) (sound_empty taskName accountName)

theorem merge_extended (hsound : Sound taskName accountName polling)
    {active monitor : List LogLine} (hactive : polling.ExtendedBy polling.active active)
    (hmonitor : polling.ExtendedBy polling.monitor monitor)
    (hgrown : polling.monitor = [] ∨ active = polling.active) :
    polling.total = 0 ∨ ∃ added,
      mergeLogs active monitor = mergeLogs polling.active polling.monitor ++ added ∧
        ∀ line ∈ added, polling.clock ≤ line.stamp ∨
          line = separator ∧ separator ∉ polling.returned := by
  obtain ⟨newLines, rfl, hnewLines⟩ := hactive
  obtain ⟨newMonitor, rfl, hnewMonitor⟩ := hmonitor
  by_cases hbefore : polling.monitor = []
  · by_cases hempty : polling.active = []
    · left
      rw [hsound.total, hbefore, hempty]
      rfl
    · right
      have hundivided : separator ∉ polling.returned := mt hsound.divided (not_not.mpr hbefore)
      rw [hbefore, List.nil_append]
      by_cases hnone : newMonitor = []
      · refine ⟨newLines, ?_, fun line hline => .inl (hnewLines line hline)⟩
        simp [mergeLogs, hnone]
      · refine ⟨newLines ++ separator :: newMonitor, ?_, ?_⟩
        · simp [mergeLogs, hnone, hempty]
        · intro line hline
          rcases List.mem_append.mp hline with hin | hin
          · exact .inl (hnewLines line hin)
          · rcases List.mem_cons.mp hin with rfl | hin
            · exact .inr ⟨rfl, hundivided⟩
            · exact .inl (hnewMonitor line hin)
  · right
    rw [hgrown.resolve_left hbefore]
    refine ⟨newMonitor, ?_, fun line hline => .inl (hnewMonitor line hline)⟩
    by_cases hempty : polling.active = []
    · simp [mergeLogs, hbefore, hempty]
    · simp [mergeLogs, hbefore, hempty]

/-- In every run, a poll keeps its promise if the log has only grown at its end since the
last poll of the caller, has become shorter, or was empty then. -/
theorem complete_of_grownAtEnd {actions : List Action}
    (hrun : Run taskName accountName {} actions polling)
    (hgrown : polling.GrownAtEnd taskName accountName) :
    polling.Complete taskName accountName := by
  have hsound := hrun.sound
  have hwhole : (polling.answer taskName accountName).1 =
      polling.service.getActiveLogs taskName accountName →
      polling.Complete taskName accountName := by
    intro hsent
    exact ⟨fun line hline _ => hsent ▸ hline, .inl hsent⟩
  have hempty : polling.total = 0 → polling.Complete taskName accountName := by
    intro hzero
    apply hwhole
    rw [answer_eq, hzero]
    by_cases hnil : polling.service.getActiveLogs taskName accountName = []
    · simp [hnil]
    · simp [hnil]
  rcases hgrown with hshorter | hzero | ⟨hactive, hmonitor, hgrown⟩
  · apply hwhole
    have hless : (polling.service.getActiveLogs taskName accountName).length < polling.total :=
      hshorter
    rw [answer_eq, if_neg (ne_of_lt hless), if_pos hless]
  · exact hempty hzero
  · rcases merge_extended hsound hactive hmonitor hgrown with hzero | ⟨added, hmerged, hadded⟩
    · exact hempty hzero
    · have hlog : polling.service.getActiveLogs taskName accountName =
          mergeLogs polling.active polling.monitor ++ added := hmerged
      have hsent : (polling.answer taskName accountName).1 = added := by
        rw [answer_eq, hlog, hsound.total, List.length_append]
        by_cases hnone : added = []
        · simp [hnone]
        · have hpos := List.length_pos_iff.mpr hnone
          rw [if_neg (by omega), if_neg (by omega), List.drop_left]
      refine ⟨?_, .inr ?_⟩
      · intro line hline hnew
        rw [hlog] at hline
        rw [hsent]
        rcases List.mem_append.mp hline with hold | hin
        · -- the lines of the last poll are older than it
          exfalso
          rcases mem_mergeLogs hold with hseen | hseen | ⟨rfl, -⟩
          · exact not_lt.mpr hnew (hsound.seen line (List.mem_append_left _ hseen))
          · exact not_lt.mpr hnew (hsound.seen line (List.mem_append_right _ hseen))
          · exact not_lt.mpr hnew hsound.started
        · exact hin
      · intro line hline hreturned
        rw [hsent] at hline
        rcases hadded line hline with hnew | ⟨rfl, hundivided⟩
        · exact not_lt.mpr hnew (hsound.returned line hreturned)
        · exact hundivided hreturned

end Relying

/-! ## Where lines are lost -/

def after (taskName : String) (accountName : Option String) (actions : List Action) : Polling :=
  (replay (act taskName accountName) (fun _ _ => true) {} actions).getD {}

theorem run_after {taskName : String} {accountName : Option String} {actions : List Action}
    (hpossible : (replay (act taskName accountName) (fun _ _ => true) {} actions).isSome = true) :
    Run taskName accountName {} actions (after taskName accountName actions) := by
  obtain ⟨polling, hpolling⟩ := Option.isSome_iff_exists.mp hpossible
  rw [after, hpolling]
  have hrun := stepRun_of_replay hpolling
  simpa using hrun

/-- Two lines of a run with a poll in between. -/
def grownLog : List Action :=
  [.appendActiveLog ("account", "task") "first" none none, .poll,
    .appendActiveLog ("account", "task") "second" none none]

theorem complete_grownLog :
    (after "task" (some "account") grownLog).Complete "task" (some "account") := by
  have hrun : Run "task" (some "account") {} grownLog (after "task" (some "account") grownLog) :=
    run_after (by decide)
  apply complete_of_grownAtEnd hrun
  exact .inr (.inr
    ⟨⟨[{ text := "second", stamp := 2 }], by decide, by decide⟩,
      ⟨[], by decide, by decide⟩, .inl (by decide)⟩)

/-- The keyword monitor writes a line, the caller polls, and a run writes its first line
before the line that the caller has. -/
def runBeforeMonitor : List Action :=
  [.appendTaskLog ("account", "task") "monitor", .poll,
    .appendActiveLog ("account", "task") "run" none none]

theorem poll_misses_line :
    ¬∀ (taskName : String) (accountName : Option String) (actions : List Action)
      (polling : Polling), Run taskName accountName {} actions polling →
      polling.Complete taskName accountName := by
  intro hall
  have hcomplete := hall "task" (some "account") runBeforeMonitor _ (run_after (by decide))
  have hsent := hcomplete.1 { text := "run", stamp := 2 } (by decide) (by decide)
  revert hsent
  decide

end Polling

end SignPulse.ActiveLogs
