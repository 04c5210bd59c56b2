import SignPulse.Foundation.StepRun
import SignPulse.Backend.StoredEdits

/-!
# Edit histories

Sequences of edits and of wildcard expansions, with restarts of the process in between.
-/

namespace SignPulse.TaskConfigs

open Foundation

namespace Edits

/-- An edit, with what it finds outside: whether the table of deleted copies is in reach for
each account, the identifier that is drawn for a group, whether jobs remain. -/
inductive Action where
  | create (situation : Situation) (database : String → Bool) (drawn taskName : String)
      (args : CreateArgs)
  | clone (situation : Situation) (database : String → Bool)
      (drawn taskName newName : String) (accountName : Option String)
  | update (situation : Situation) (database : String → Bool) (drawn : String)
      (call : UpdateCall)
  | delete (situation : Situation) (database : String → Bool) (jobsRemain : Bool)
      (taskName : String) (accountName : Option String)
  | expand (situation : Situation) (available : Bool)
  | restart
  | relist (files : Files)

/-- What a step leaves, whether its operation returns or raises. -/
def step (env : Environment) (service : Service) : Action → Option Service
  | .create situation database drawn taskName args =>
    some (service.createTask env situation database drawn taskName args).2
  | .clone situation database drawn taskName newName accountName =>
    some (service.cloneTask env situation database drawn taskName newName accountName).2
  | .update situation database drawn call =>
    some (service.updateTask env situation database drawn call).2
  | .delete situation database jobsRemain taskName accountName =>
    some (service.deleteTask env situation database jobsRemain taskName accountName).2
  | .expand situation available =>
    some (service.expandWildcardTasks env situation available)
  | .restart => some service.restart
  | .relist files => some { service with files }

/-- The registered accounts have valid names; listing the directories anew may only change
their order. -/
def Possible (env : Environment) (service : Service) : Action → Prop
  | .create situation _ _ _ _ => Registered env situation
  | .clone situation _ _ _ _ _ => Registered env situation
  | .update situation _ _ _ => Registered env situation
  | .delete _ _ _ _ _ => True
  | .expand situation _ => Registered env situation
  | .restart => True
  | .relist files => files.rows.Perm service.files.rows

end Edits

end SignPulse.TaskConfigs
