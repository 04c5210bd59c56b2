import SignPulse.Backend.SessionImports

/-!
# What unfinished imports leave

Where an import raises or is cancelled before it has replaced the session, the temporary session
is complete or it is removed, and the other files are as they were found.  The last step, which
removes the account's own session, has no part that cleans up.
-/

namespace SignPulse.SessionImports

open Foundation
open FlowModels (PyError)

/-! ## Endings of programs -/

section Endings

variable {surroundings : Surroundings} {α β : Type} {Inv : Directory → Prop}

def Ending.result : Ending α → Directory → EStateM.Result Exit Directory α
  | returned value, next => .ok value next
  | raised error, next => .error (.raised error) next
  | cancelled, next => .error .cancelled next

/-- The program ends as `ending` tells, and keeps `Inv`. -/
def EndsAs (Inv : Directory → Prop) (program : Importing α) (ending : Ending α) : Prop :=
  ∀ directory, Inv directory → ∃ next, Inv next ∧ program directory = ending.result next

variable {ending : Ending α} {Raised : Directory → Prop}

theorem endsAs_await : EndsAs Inv ending.await ending := by
  intro directory hinv
  refine ⟨directory, hinv, ?_⟩
  cases ending with
  | returned value => rfl
  | raised error => rfl
  | cancelled => rfl

theorem endsAs_edit {base : Base} {change : Files → Files}
    (hkeeps : ∀ directory, Inv directory →
      Inv (Function.update directory base (change (directory base)))) :
    EndsAs Inv (edit base change) (.returned ()) :=
  fun directory hinv => ⟨_, hkeeps directory hinv, rfl⟩

theorem EndsAs.bind {first : Importing α} {rest : α → Importing β} {after : α → Ending β}
    (hfirst : EndsAs Inv first ending) (hrest : ∀ value, EndsAs Inv (rest value) (after value)) :
    EndsAs Inv (first >>= rest) (ending.bind after) := by
  intro directory hinv
  obtain ⟨next, hnext, hrun⟩ := hfirst directory hinv
  have hbind : (first >>= rest) directory = EStateM.bind first rest directory := rfl
  rw [hbind, EStateM.bind, hrun]
  cases ending with
  | returned value => exact hrest value next hnext
  | raised error => exact ⟨next, hnext, rfl⟩
  | cancelled => exact ⟨next, hnext, rfl⟩

theorem EndsAs.exceptException {program : Importing α} {handler : PyError → Importing α}
    {Post : α → Directory → Prop} (hprogram : EndsAs Inv program ending)
    (hreturned : ∀ value, ending = .returned value → ∀ next, Inv next → Post value next)
    (hraised : ∀ error, ending = .raised error → Ends Inv (handler error) Post Raised)
    (hcancelled : ending = .cancelled → ∀ next, Inv next → Raised next) :
    Ends Inv (exceptException program handler) Post Raised := by
  intro directory hinv
  obtain ⟨next, hnext, hrun⟩ := hprogram directory hinv
  have htry : SessionImports.exceptException program handler directory =
      EStateM.tryCatch program (onException handler) directory := rfl
  rw [htry, EStateM.tryCatch, hrun]
  cases ending with
  | returned value => exact hreturned value rfl next hnext
  | raised error => exact hraised error rfl next hnext
  | cancelled => exact hcancelled rfl next hnext

theorem ends_finallyDo {program : Importing α} {closing : Importing Unit} {Pre : Directory → Prop}
    (Mid : α → Directory → Prop) (Failed : Directory → Prop) {Post : α → Directory → Prop}
    (hprogram : Ends Pre program Mid Failed)
    (hclosing : ∀ value, Ends (Mid value) closing (fun _ => Post value) Raised)
    (hfailed : Ends Failed closing (fun _ => Raised) Raised) :
    Ends Pre (finallyDo program closing) Post Raised := by
  refine Ends.bind Mid ?_ fun value => Ends.bind _ (hclosing value) fun _ => Ends.pure fun _ => id
  exact Ends.tryCatch Failed hprogram fun exit => Ends.bind _ hfailed fun _ =>
    Ends.throw fun _ => id

theorem ends_edit {base : Base} {change : Files → Files} {Pre Post : Directory → Prop}
    (hpost : ∀ directory, Pre directory →
      Post (Function.update directory base (change (directory base)))) :
    Ends Pre (edit base change) (fun _ => Post) Raised :=
  Ends.update hpost

theorem ends_disconnectClient {Post : Directory → Prop}
    (hends : (surroundings.isConnected && surroundings.disconnect.isCancelled) = false →
      ∀ directory, Inv directory → Post directory)
    (hcancelled : (surroundings.isConnected && surroundings.disconnect.isCancelled) = true →
      ∀ directory, Inv directory → Raised directory) :
    Ends Inv (disconnectClient surroundings) (fun _ => Post) Raised := by
  unfold disconnectClient
  refine Ends.ite (fun hconnected => ?_) fun hnot => Ends.pure (hends ?_)
  · refine endsAs_await.exceptException ?_ ?_ ?_
    · intro value hending
      exact hends (by rw [hending, hconnected]; rfl)
    · intro error hending
      exact Ends.pure (hends (by rw [hending, hconnected]; rfl))
    · intro hending
      exact hcancelled (by rw [hending, hconnected]; rfl)
  · rw [Bool.eq_false_iff.mpr hnot]
    rfl

end Endings

/-! ## Where the imported key is -/

section Keys

variable {target other : Files} {key : Bytes}

theorem not_holdsKey_empty : ¬Files.empty.HoldsKey key := by
  rintro ⟨suffix, content, hfile, -⟩
  cases hfile

theorem holdsKey_writeMain {content : Content} :
    Files.HoldsKey key (Function.update Files.empty .main (some content)) ↔
      content.HoldsKey key := by
  constructor
  · rintro ⟨suffix, found, hfile, hholds⟩
    by_cases hmain : suffix = .main
    · rw [hmain, Function.update_self] at hfile
      exact Option.some.inj hfile ▸ hholds
    · rw [Function.update_of_ne hmain] at hfile
      cases hfile
  · exact fun hholds => ⟨.main, content, Function.update_self .., hholds⟩

theorem holdsKey_withUser {content : Content} {userId : ℤ} {isBot : Bool}
    (hholds : content.HoldsKey key) : (content.withUser userId isBot).HoldsKey key := by
  cases content with
  | fragment bytes => exact hholds
  | database rows =>
    obtain ⟨row, hrow, hkey⟩ := hholds
    exact ⟨_, List.mem_map_of_mem hrow, hkey⟩

/-- The files besides the temporary session, which are not written until it replaces the
account's own. -/
structure Beside (target other : Files) (directory : Directory) : Prop where
  target : directory .target = target
  telethonTemp : directory .telethonTemp = other

/-- The temporary session is complete. -/
structure Staged (target other : Files) (key : Bytes) (directory : Directory) : Prop
    extends Beside target other directory where
  pyrogramTemp : ∃ content, directory .pyrogramTemp .main = some content ∧ content.HoldsKey key

/-- An import that has ended, tidily or not. -/
structure Settled (target other : Files) (key : Bytes) (tidy : Prop) (directory : Directory) :
    Prop where
  target : tidy → directory .target = target
  pyrogramTemp : tidy ↔ ¬(directory .pyrogramTemp).HoldsKey key
  telethonTemp : directory .telethonTemp = other

variable {directory : Directory} {tidy : Prop}

theorem Beside.edit {files : Files} (hbeside : Beside target other directory) :
    Beside target other (Function.update directory .pyrogramTemp files) :=
  ⟨hbeside.target, hbeside.telethonTemp⟩

theorem Staged.holdsKey (hstaged : Staged target other key directory) :
    (directory .pyrogramTemp).HoldsKey key :=
  have ⟨content, hmain, hholds⟩ := hstaged.pyrogramTemp
  ⟨.main, content, hmain, hholds⟩

/-- The temporary session is left. -/
theorem Staged.settled (hstaged : Staged target other key directory) (htidy : ¬tidy) :
    Settled target other key tidy directory where
  target := fun hyes => absurd hyes htidy
  pyrogramTemp := iff_of_false htidy (not_not_intro hstaged.holdsKey)
  telethonTemp := hstaged.telethonTemp

theorem Beside.settled (hbeside : Beside target other directory)
    (hkey : tidy ↔ ¬(directory .pyrogramTemp).HoldsKey key) :
    Settled target other key tidy directory where
  target := fun _ => hbeside.target
  pyrogramTemp := hkey
  telethonTemp := hbeside.telethonTemp

theorem ends_cleanup {α : Type} {error : PyError} {Post : α → Directory → Prop} (htidy : tidy) :
    Ends (Beside target other) (do cleanupFileAndAux .pyrogramTemp; raise error) Post
      (Settled target other key tidy) := by
  refine Ends.bind
    (fun _ directory => Beside target other directory ∧ directory .pyrogramTemp = Files.empty)
    (ends_edit fun directory hbeside => ⟨hbeside.edit, rfl⟩) fun _ => Ends.throw ?_
  rintro directory ⟨hbeside, hempty⟩
  refine hbeside.settled (iff_of_true htidy ?_)
  rw [hempty]
  exact not_holdsKey_empty

theorem staged_writeBeside {files : Files} (hstaged : Staged target other key directory) :
    Staged target other key (Function.update directory .pyrogramTemp
      (Function.update files .main (directory .pyrogramTemp .main))) :=
  ⟨hstaged.toBeside.edit, hstaged.pyrogramTemp⟩

end Keys

/-! ## Verification -/

section Verification

variable {surroundings : Surroundings} {target other : Files} {key : Bytes}

theorem endsAs_connection : EndsAs (Staged target other key)
      (do
        surroundings.semaphore.await
        writeBeside .pyrogramTemp surroundings.clientFiles
        surroundings.connect.await
        surroundings.getMe.await)
      (connection surroundings) := by
  have hwrite : EndsAs (Staged target other key)
      (writeBeside .pyrogramTemp surroundings.clientFiles) (.returned ()) :=
    endsAs_edit fun _ => staged_writeBeside
  have hrest : EndsAs (Staged target other key)
      (do
        surroundings.connect.await
        surroundings.getMe.await)
      (surroundings.connect.bind fun _ => surroundings.getMe) :=
    endsAs_await.bind fun _ => endsAs_await
  exact endsAs_await.bind fun _ => hwrite.bind fun _ => hrest

theorem ends_connectClient (hconstruction : surroundings.construction = .ok ()) :
    Ends (Staged target other key) (connectClient surroundings)
      (fun me directory =>
        Staged target other key directory ∧
          (connectsTidily surroundings = true ↔ authorizedUser me = none))
      (Settled target other key (connectsTidily surroundings = true)) := by
  refine ends_finallyDo
    (fun me directory =>
      Staged target other key directory ∧ connection surroundings = .returned me)
    (Settled target other key (connectsTidily surroundings = true)) ?_ ?_ ?_
  · refine endsAs_connection.exceptException ?_ ?_ ?_
    · exact fun me hending directory hstaged => ⟨hstaged, hending⟩
    · intro error hending
      have htidy : connectsTidily surroundings = true := by
        rw [connectsTidily, hconstruction, hending]
      exact (ends_cleanup htidy).strengthen fun _ hstaged => hstaged.toBeside
    · intro hending directory hstaged
      refine hstaged.settled ?_
      rw [connectsTidily, hconstruction, hending]
      exact Bool.false_ne_true
  · intro me
    refine ends_disconnectClient ?_ ?_
    · rintro hcloses directory ⟨hstaged, hending⟩
      refine ⟨hstaged, ?_⟩
      rw [connectsTidily, hconstruction, hending]
      dsimp only
      rw [hcloses, Bool.not_false, Bool.true_and, Option.isNone_iff_eq_none]
    · rintro hcancelled directory ⟨hstaged, hending⟩
      refine hstaged.settled ?_
      rw [connectsTidily, hconstruction, hending]
      dsimp only
      rw [hcancelled, Bool.not_true, Bool.false_and]
      exact Bool.false_ne_true
  · exact ends_disconnectClient (fun _ _ => id) fun _ _ => id

theorem ends_updateSession {userId : ℤ} {isBot : Bool} {tidy : Prop} (htidy : ¬tidy) :
    Ends (Staged target other key) (updateSession surroundings userId isBot)
      (fun _ => Staged target other key) (Settled target other key tidy) := by
  refine Ends.bind (fun _ => Staged target other key)
    (ends_edit fun _ => staged_writeBeside) fun _ => ?_
  cases surroundings.updateError with
  | some error => exact Ends.throw fun _ hstaged => hstaged.settled htidy
  | none =>
    refine ends_edit fun directory hstaged => ⟨hstaged.toBeside.edit, ?_⟩
    obtain ⟨content, hmain, hholds⟩ := hstaged.pyrogramTemp
    refine ⟨content.withUser userId isBot, ?_, holdsKey_withUser hholds⟩
    rw [Function.update_self, Function.update_self, hmain]
    rfl

theorem ends_replaceSession {tidy : Prop} (htidy : ¬tidy) :
    Ends (Staged target other key) (replaceSession surroundings) (fun _ _ => True)
      (Settled target other key tidy) := by
  refine Ends.bind (fun _ => Staged target other key) ?_ fun _ => ?_
  · refine endsAs_await.exceptException ?_ ?_ ?_
    · exact fun _ _ _ => id
    · exact fun _ _ => Ends.pure fun _ => id
    · exact fun _ directory hstaged => hstaged.settled htidy
  -- The account's own session is removed from here on.
  refine Ends.bind (fun _ => Staged .empty other key) ?_ fun _ => ?_
  · exact ends_edit fun directory hstaged =>
      ⟨⟨rfl, hstaged.telethonTemp⟩, hstaged.pyrogramTemp⟩
  cases surroundings.replaceError with
  | none => exact fun _ _ => trivial
  | some error =>
    refine Ends.throw fun directory hstaged => ?_
    exact
      { target := fun hyes => absurd hyes htidy
        pyrogramTemp := iff_of_false htidy (not_not_intro hstaged.holdsKey)
        telethonTemp := hstaged.telethonTemp }

theorem ends_connectAndReplace :
    Ends (Staged target other key) (connectAndReplace surroundings) (fun _ _ => True)
      (Settled target other key (connectsTidily surroundings = true)) := by
  unfold connectAndReplace
  cases hconstruction : surroundings.construction with
  | error error =>
    refine Ends.bind (fun _ _ => False) (Ends.throw fun directory hstaged => ?_) fun _ _ =>
      False.elim
    refine hstaged.settled ?_
    rw [connectsTidily, hconstruction]
    exact Bool.false_ne_true
  | ok constructed =>
    refine Ends.bind (fun _ => Staged target other key) (Ends.pure fun _ => id) fun _ => ?_
    refine Ends.bind _ (ends_connectClient hconstruction) fun me => ?_
    refine Ends.known (fun _ hmid => hmid.2) fun htidy => ?_
    cases huser : authorizedUser me with
    | none =>
      exact (ends_cleanup (htidy.mpr huser)).strengthen fun _ hmid => hmid.1.toBeside
    | some user =>
      have hleft : ¬connectsTidily surroundings = true := by
        rw [htidy, huser]
        exact nofun
      refine Ends.bind _ ?_ fun _ => ends_replaceSession hleft
      exact (ends_updateSession hleft).strengthen fun _ hmid => hmid.1

theorem ends_proxyGate {proxy : Option String} :
    Ends (Staged target other key) (proxyGate surroundings proxy)
      (fun _ directory => Staged target other key directory ∧
        gateTidily surroundings proxy = connectsTidily surroundings)
      (Settled target other key (gateTidily surroundings proxy = true)) := by
  unfold proxyGate gateTidily
  cases proxyInForce surroundings proxy with
  | none =>
    dsimp only
    refine Ends.ite (fun hrequired => ?_) fun hfree => Ends.pure fun _ hstaged => ?_
    · exact (ends_cleanup (Bool.or_eq_true_iff.mpr (.inl hrequired))).strengthen
        fun _ hstaged => hstaged.toBeside
    · rw [Bool.eq_false_iff.mpr hfree, Bool.false_or]
      exact ⟨hstaged, rfl⟩
  | some text =>
    dsimp only
    refine Ends.ite (fun hvalid => ?_) fun hinvalid => ?_
    · rw [hvalid, Bool.not_true, Bool.false_or]
      refine endsAs_await.exceptException ?_ ?_ ?_
      · intro checked hending directory hstaged
        rw [hending]
        exact ⟨hstaged, rfl⟩
      · intro error hending
        rw [hending]
        exact (ends_cleanup rfl).strengthen fun _ hstaged => hstaged.toBeside
      · intro hending directory hstaged
        rw [hending]
        exact hstaged.settled Bool.false_ne_true
    · rw [Bool.eq_false_iff.mpr hinvalid, Bool.not_false, Bool.true_or]
      exact (ends_cleanup rfl).strengthen fun _ hstaged => hstaged.toBeside

theorem ends_verifyImportedSession {proxy : Option String} :
    Ends (Staged target other key) (verifyImportedSession surroundings proxy) (fun _ _ => True)
      (Settled target other key (verifiesTidily surroundings proxy = true)) := by
  unfold verifyImportedSession resolveCredentials verifiesTidily
  cases surroundings.credentials with
  | error error =>
    refine Ends.bind (fun _ _ => False) ?_ fun _ _ => False.elim
    exact (ends_cleanup rfl).strengthen fun _ hstaged => hstaged.toBeside
  | ok credentials =>
    refine Ends.bind (fun _ => Staged target other key) (Ends.pure fun _ => id) fun _ => ?_
    -- What the gate lets through is as tidy as the connection.
    refine Ends.bind _ ends_proxyGate fun _ => ?_
    refine Ends.known (fun _ hmid => hmid.2) fun hsame => ?_
    rw [hsame]
    exact ends_connectAndReplace.strengthen fun _ hmid => hmid.1

end Verification

/-! ## Storing -/

section Storing

variable {surroundings : Surroundings} {target other : Files} {key : Bytes}
variable {proxy : Option String}

variable {row : SessionRow} {base : Base} {Raised : Directory → Prop} {upload : Content}

theorem authKey_of_insertSessionRecord {record : SessionRow}
    (hinsert : insertSessionRecord surroundings record = .ok row) :
    row.authKey = record.authKey := by
  unfold insertSessionRecord at hinsert
  split at hinsert
  · cases hinsert
  · split at hinsert
    · cases hinsert
    · split at hinsert
      · split at hinsert
        · cases hinsert
        · cases hinsert
          rfl
      · cases hinsert
        rfl

theorem ends_createDatabase (proxy : Option String) (record : SessionRow) :
    Ends (Beside target other) (createDatabase surroundings record)
      (fun _ directory =>
        Staged target other record.authKey directory ∧
          (StoresTidily surroundings proxy record ↔ verifiesTidily surroundings proxy = true))
      (Settled target other record.authKey (StoresTidily surroundings proxy record)) := by
  have hempty : ∀ directory, Beside target other directory ∧ directory .pyrogramTemp =
      Function.update Files.empty .main (some (.database [])) →
      StoresTidily surroundings proxy record →
      Settled target other record.authKey (StoresTidily surroundings proxy record) directory := by
    rintro directory ⟨hbeside, hfiles⟩ htidy
    refine hbeside.settled (iff_of_true htidy ?_)
    rw [hfiles, holdsKey_writeMain]
    rintro ⟨row, hrow, -⟩
    exact List.not_mem_nil hrow
  refine Ends.bind
    (fun _ directory => Beside target other directory ∧ directory .pyrogramTemp = Files.empty)
    (ends_edit fun directory hbeside => ⟨hbeside.edit, rfl⟩) fun _ => ?_
  refine Ends.bind
    (fun _ directory => Beside target other directory ∧ directory .pyrogramTemp =
      Function.update Files.empty .main (some (.database [])))
    (ends_edit fun directory hbefore => ⟨hbefore.1.edit, ?_⟩) fun _ => ?_
  · rw [Function.update_self, hbefore.2]
  cases hschema : surroundings.schemaError with
  | some error =>
    refine Ends.throw fun directory hfiles => hempty directory hfiles ?_
    rw [StoresTidily, hschema]
    trivial
  | none =>
    cases hinsert : insertSessionRecord surroundings record with
    | error error =>
      refine Ends.bind (fun _ _ => False)
        (Ends.throw fun directory hfiles => hempty directory hfiles ?_) fun _ _ => False.elim
      rw [StoresTidily, hschema, hinsert]
      trivial
    | ok row =>
      refine Ends.bind
        (fun stored directory =>
          (Beside target other directory ∧ directory .pyrogramTemp =
            Function.update Files.empty .main (some (.database []))) ∧ stored = row)
        (Ends.pure fun _ hfiles => ⟨hfiles, rfl⟩) fun stored => ?_
      refine Ends.known (fun _ hmid => hmid.2) fun hstored => ?_
      rw [hstored]
      cases hfault : surroundings.recordFault with
      | some fault =>
        have htidy : StoresTidily surroundings proxy record ↔ ¬fault.2.HoldsKey record.authKey := by
          rw [StoresTidily, hschema, hinsert, hfault]
        refine Ends.bind
          (fun _ directory =>
            Beside target other directory ∧ directory .pyrogramTemp = fault.2)
          (ends_edit fun directory hmid => ⟨hmid.1.1.edit, rfl⟩) fun _ => ?_
        refine Ends.throw fun directory hleft => hleft.1.settled ?_
        rw [hleft.2]
        exact htidy
      | none =>
        refine ends_edit fun directory hmid => ⟨⟨hmid.1.1.edit, ?_⟩, ?_⟩
        · refine ⟨.database [row], ?_, row, List.mem_cons_self,
            authKey_of_insertSessionRecord hinsert⟩
          rw [Function.update_self, Function.update_self]
        · rw [StoresTidily, hschema, hinsert, hfault]

theorem ends_fetchSession (content : Content) {Pre : Directory → Prop}
    (hmain : ∀ directory, Pre directory → directory base .main = some content)
    (hraised : ∀ bytes, content = .fragment bytes → ∀ directory, Pre directory → Raised directory) :
    Ends Pre (fetchSession base)
      (fun found directory => Pre directory ∧ ∃ rows, content = .database rows ∧
        found = rows.head?) Raised := by
  refine Ends.bind (fun found directory => Pre directory ∧ found = directory)
    (Ends.get fun _ hpre => ⟨hpre, rfl⟩) fun found => ?_
  have hread : ∀ directory, Pre directory ∧ found = directory →
      found base .main = some content := by
    rintro directory ⟨hpre, rfl⟩
    exact hmain found hpre
  refine Ends.known hread fun hfound => ?_
  rw [hfound]
  cases hcontent : content with
  | database rows => exact Ends.pure fun directory hboth => ⟨hboth.1, rows, rfl, rfl⟩
  | fragment bytes =>
    exact Ends.throw fun directory hboth => hraised bytes hcontent directory hboth.1

/-- An import that has ended: the two temporary files. -/
structure Ended (target : Files) (key : Bytes) (tidy : Prop) (directory : Directory) : Prop where
  target : tidy → directory .target = target
  temps : tidy ↔ ¬(directory .pyrogramTemp).HoldsKey key ∧ ¬(directory .telethonTemp).HoldsKey key

theorem Settled.ended {tidy : Prop} {directory : Directory}
    (hsettled : Settled target other key tidy directory) :
    Ended target key (¬other.HoldsKey key ∧ tidy) directory where
  target := fun hboth => hsettled.target hboth.2
  temps := by
    rw [hsettled.pyrogramTemp, hsettled.telethonTemp]
    exact And.comm

/-- The payload is stored, and what is left decides itself by the verification. -/
def Stored (target : Files) (key : Bytes) (tidy verified : Prop) (directory : Directory) : Prop :=
  ∃ other, Staged target other key directory ∧ (tidy ↔ ¬other.HoldsKey key ∧ verified)

theorem ends_writeUpload {Pre : Directory → Prop} {Post : Directory → Prop}
    (hfault : ∀ error written, surroundings.uploadFault = some (error, written) →
      ∀ directory, Pre directory → Raised (Function.update directory base
        (Function.update (directory base) .main (some (.fragment written)))))
    (hwhole : surroundings.uploadFault = none →
      ∀ directory, Pre directory → Post (Function.update directory base
        (Function.update (directory base) .main (some upload)))) :
    Ends Pre (writeUpload surroundings base upload) (fun _ => Post) Raised := by
  unfold writeUpload
  cases hupload : surroundings.uploadFault with
  | none => exact ends_edit (hwhole hupload)
  | some fault =>
    exact Ends.bind (fun _ => Raised) (ends_edit (hfault fault.1 fault.2 hupload)) fun _ =>
      Ends.throw fun _ => id

theorem ends_importTelethonSqliteSession {rows : List SessionRow} {entity : ℤ} {left : Files}
    (hkey : row.authKey ≠ []) :
    let tidy := ImportsTidily surroundings proxy left row.authKey
      (.telethonSqlite (.database (row :: rows)) entity)
    Ends (fun directory => directory .target = target)
      (importTelethonSqliteSession surroundings (.database (row :: rows)) entity)
      (fun _ => Stored target row.authKey tidy (verifiesTidily surroundings proxy = true))
      (Ended target row.authKey tidy) := by
  intro tidy
  refine Ends.bind (fun _ directory => Beside target .empty directory)
    (ends_edit fun directory htarget => ⟨htarget, rfl⟩) fun _ => ?_
  refine Ends.bind
    (fun _ directory => Beside target .empty directory ∧ directory .pyrogramTemp = Files.empty)
    (ends_edit fun directory hbeside => ⟨hbeside.edit, rfl⟩) fun _ => ?_
  let whole : Files := Function.update Files.empty .main (some (.database (row :: rows)))
  refine Ends.bind
    (fun _ directory => Beside target whole directory ∧ surroundings.uploadFault = none)
    (ends_writeUpload ?_ ?_) fun _ => ?_
  · rintro error written hfault directory ⟨hbeside, hempty⟩
    have htidy : tidy ↔ ¬row.authKey <:+: written := by
      unfold tidy ImportsTidily
      rw [hfault]
    refine ⟨fun _ => hbeside.target, ?_⟩
    rw [Function.update_of_ne Base.noConfusion, Function.update_self, hempty, hbeside.telethonTemp,
      holdsKey_writeMain, htidy]
    exact (and_iff_right not_holdsKey_empty).symm
  · rintro hwhole directory ⟨hbeside, -⟩
    refine ⟨⟨hbeside.target, ?_⟩, hwhole⟩
    rw [Function.update_self, hbeside.telethonTemp]
  refine Ends.known (fun _ hmid => hmid.2) fun hwhole => ?_
  have htidy : tidy ↔ StoresTidily surroundings proxy (telethonRecord row entity) := by
    unfold tidy ImportsTidily
    rw [hwhole]
  -- The file of Telethon is removed however the conversion ends.
  have hconvert : Ends (fun directory => Beside target whole directory)
      (convertTelethonToPyrogramSqlite surroundings entity)
      (fun _ directory => Staged target whole row.authKey directory ∧
        (tidy ↔ verifiesTidily surroundings proxy = true))
      (Settled target whole row.authKey tidy) := by
    refine Ends.bind _ (ends_fetchSession (.database (row :: rows))
      (fun directory hbeside => ?_) fun _ hbytes => nomatch hbytes) fun found => ?_
    · rw [hbeside.telethonTemp]
      exact Function.update_self ..
    · refine Ends.known (fun _ hmid => hmid.2) fun hfound => ?_
      obtain ⟨_, ⟨⟩, hfound⟩ := hfound
      rw [hfound, List.head?_cons]
      dsimp only
      rw [if_neg hkey, htidy]
      exact (ends_createDatabase proxy (telethonRecord row entity)).strengthen fun _ hmid => hmid.1
  refine ends_finallyDo _ _ (hconvert.strengthen fun _ hmid => hmid.1) (fun _ => ends_edit ?_)
    (ends_edit ?_)
  · rintro directory ⟨hstaged, hverified⟩
    refine ⟨.empty, ⟨⟨hstaged.target, rfl⟩, hstaged.pyrogramTemp⟩, ?_⟩
    rw [hverified]
    exact (and_iff_right not_holdsKey_empty).symm
  · intro directory hsettled
    have hended : Settled target .empty row.authKey tidy
        (Function.update directory .telethonTemp .empty) :=
      ⟨hsettled.target, hsettled.pyrogramTemp, rfl⟩
    refine ⟨hended.target, ?_⟩
    rw [hended.ended.temps.symm]
    exact (and_iff_right not_holdsKey_empty).symm

theorem ends_importPyrogramSqliteSession {row : SessionRow} {rows : List SessionRow} :
    let tidy := ImportsTidily surroundings proxy other row.authKey
      (.pyrogramSqlite (.database (row :: rows)))
    Ends (Beside target other) (importPyrogramSqliteSession surroundings (.database (row :: rows)))
      (fun _ => Stored target row.authKey tidy (verifiesTidily surroundings proxy = true))
      (Ended target row.authKey tidy) := by
  intro tidy
  refine Ends.bind
    (fun _ directory => Beside target other directory ∧ directory .pyrogramTemp = Files.empty)
    (ends_edit fun directory hbeside => ⟨hbeside.edit, rfl⟩) fun _ => ?_
  let whole : Files := Function.update Files.empty .main (some (.database (row :: rows)))
  refine Ends.bind
    (fun _ directory => (Beside target other directory ∧ directory .pyrogramTemp = whole) ∧
      surroundings.uploadFault = none)
    (ends_writeUpload ?_ ?_) fun _ => ?_
  · rintro error written hfault directory ⟨hbeside, hempty⟩
    have hsettled : Settled target other row.authKey (¬row.authKey <:+: written)
        (Function.update directory .pyrogramTemp
          (Function.update (directory .pyrogramTemp) .main (some (.fragment written)))) := by
      refine hbeside.edit.settled ?_
      rw [Function.update_self, hempty, holdsKey_writeMain]
      exact Iff.rfl
    have htidy : tidy = (¬other.HoldsKey row.authKey ∧ ¬row.authKey <:+: written) := by
      unfold tidy ImportsTidily
      rw [hfault]
    rw [htidy]
    exact hsettled.ended
  · rintro hwhole directory ⟨hbeside, hempty⟩
    refine ⟨⟨hbeside.edit, ?_⟩, hwhole⟩
    rw [Function.update_self, hempty]
  refine Ends.known (fun _ hmid => hmid.2) fun hwhole => ?_
  have htidy : tidy = (¬other.HoldsKey row.authKey ∧ row.authKey.length = 256 ∧
      verifiesTidily surroundings proxy = true) := by
    unfold tidy ImportsTidily
    rw [hwhole]
  have hstaged : ∀ directory, Beside target other directory ∧ directory .pyrogramTemp = whole →
      Staged target other row.authKey directory := by
    rintro directory ⟨hbeside, hfiles⟩
    refine ⟨hbeside, .database (row :: rows), ?_, row, List.mem_cons_self, rfl⟩
    rw [hfiles]
    exact Function.update_self ..
  refine Ends.bind _ (ends_fetchSession (.database (row :: rows))
    (fun directory hmid => ?_) fun _ hbytes => nomatch hbytes) fun found => ?_
  · rw [hmid.1.2]
    exact Function.update_self ..
  refine Ends.known (fun _ hmid => hmid.2) fun hfound => ?_
  obtain ⟨_, ⟨⟩, hfound⟩ := hfound
  rw [hfound, List.head?_cons, htidy]
  refine Ends.ite (fun hlength => Ends.throw fun directory hmid => ?_)
    fun hlength => Ends.pure fun directory hmid => ?_
  · refine ((hstaged directory hmid.1.1).settled ?_).ended
    rintro ⟨hsize, -⟩
    rw [Option.all_some, hsize] at hlength
    exact absurd hlength (by decide)
  · refine ⟨other, hstaged directory hmid.1.1, ?_⟩
    rw [Option.all_some, bne_iff_ne, not_not] at hlength
    rw [and_iff_right hlength]

theorem ends_importPyrogramStringSession {raw : Bytes} (hunpack : unpackSessionString raw = .ok row)
    :
    let tidy := ImportsTidily surroundings proxy other row.authKey (.pyrogramString (.ok raw))
    Ends (Beside target other) (importPyrogramStringSession surroundings (.ok raw))
      (fun _ => Stored target row.authKey tidy (verifiesTidily surroundings proxy = true))
      (Ended target row.authKey tidy) := by
  intro tidy
  have htidy : tidy ↔ ¬other.HoldsKey row.authKey ∧ StoresTidily surroundings proxy row := by
    refine and_congr_right fun _ => ⟨fun hall => hall row hunpack, ?_⟩
    rintro hstores found hfound
    rw [hunpack] at hfound
    exact Except.ok.inj hfound ▸ hstores
  have hprogram : importPyrogramStringSession surroundings (.ok raw) =
      (do
        let row ← ofExcept (unpackSessionString raw)
        createDatabase surroundings row) := rfl
  rw [hprogram, hunpack, propext htidy]
  refine ((ends_createDatabase proxy row).weaken ?_).relax fun _ => Settled.ended
  rintro _ directory ⟨hstaged, hverified⟩
  exact ⟨other, hstaged, and_congr_right fun _ => hverified⟩

theorem ends_importPayload {payload : Payload} (hkey : importedKey payload = some key) :
    let tidy := ImportsTidily surroundings proxy other key payload
    Ends (Beside target other) (importPayload surroundings payload)
      (fun _ => Stored target key tidy (verifiesTidily surroundings proxy = true))
      (Ended target key tidy) := by
  unfold importedKey at hkey
  split at hkey
  · obtain ⟨hfilled, hkey⟩ := Option.ite_none_left_eq_some.mp hkey
    cases hkey
    exact (ends_importTelethonSqliteSession hfilled).strengthen fun _ hbeside => hbeside.target
  · obtain ⟨-, hkey⟩ := Option.ite_none_left_eq_some.mp hkey
    cases hkey
    exact ends_importPyrogramSqliteSession
  · split at hkey
    · next hunpack =>
      cases hkey
      exact ends_importPyrogramStringSession hunpack
    · cases hkey
  · cases hkey

theorem ends_edit_of_ne {change : Files → Files} (hbase : base ≠ .target) :
    Ends (fun directory => directory .target = target) (edit base change)
      (fun _ directory => directory .target = target) Raised := by
  refine ends_edit fun directory htarget => ?_
  rw [Function.update_of_ne hbase.symm, htarget]

theorem ends_writeUpload_of_ne (hbase : base ≠ .target) :
    Ends (fun directory => directory .target = target) (writeUpload surroundings base upload)
      (fun _ directory => directory .target = target ∧ directory base .main = some upload)
      (fun directory => directory .target = target) := by
  refine ends_writeUpload ?_ ?_
  · intro error written _ directory htarget
    rw [Function.update_of_ne hbase.symm, htarget]
  · intro _ directory htarget
    rw [Function.update_of_ne hbase.symm, Function.update_self, Function.update_self]
    exact ⟨htarget, rfl⟩

theorem authKey_eq_nil {rows : List SessionRow}
    (hkey : importedKey (.pyrogramSqlite (.database rows)) = none) (hrow : rows.head? = some row) :
    row.authKey = [] := by
  obtain ⟨rest, rfl⟩ := List.head?_eq_some_iff.mp hrow
  by_contra hfilled
  have hsome : importedKey (.pyrogramSqlite (.database (row :: rest))) = some row.authKey :=
    if_neg hfilled
  rw [hkey] at hsome
  cases hsome

theorem ends_importTelethonSqliteSession_of_none {entity : ℤ}
    (hkey : importedKey (.telethonSqlite upload entity) = none) :
    Ends (fun directory => directory .target = target)
      (importTelethonSqliteSession surroundings upload entity) (fun _ _ => False)
      (fun directory => directory .target = target) := by
  refine Ends.bind _ (ends_edit_of_ne Base.noConfusion) fun _ => ?_
  refine Ends.bind _ (ends_edit_of_ne Base.noConfusion) fun _ => ?_
  refine Ends.bind _ (ends_writeUpload_of_ne Base.noConfusion) fun _ => ?_
  refine ends_finallyDo (fun _ _ => False) (fun directory => directory .target = target) ?_
    (fun _ _ => False.elim) (ends_edit_of_ne Base.noConfusion)
  refine Ends.bind _ (ends_fetchSession upload (fun _ hmid => hmid.2) fun _ _ _ hmid => hmid.1)
    fun found => ?_
  refine Ends.known (fun _ hmid => hmid.2) ?_
  rintro ⟨rows, rfl, hfound⟩
  cases found with
  | none => exact Ends.throw fun _ hmid => hmid.1.1
  | some row =>
    have hempty : row.authKey = [] := by
      refine authKey_eq_nil ?_ hfound.symm
      cases rows with
      | nil => rfl
      | cons first rest => exact hkey
    dsimp only
    rw [if_pos hempty]
    exact Ends.throw fun _ hmid => hmid.1.1

theorem ends_importPyrogramSqliteSession_of_none
    (hkey : importedKey (.pyrogramSqlite upload) = none) :
    Ends (fun directory => directory .target = target)
      (importPyrogramSqliteSession surroundings upload) (fun _ _ => False)
      (fun directory => directory .target = target) := by
  refine Ends.bind _ (ends_edit_of_ne Base.noConfusion) fun _ => ?_
  refine Ends.bind _ (ends_writeUpload_of_ne Base.noConfusion) fun _ => ?_
  refine Ends.bind _ (ends_fetchSession upload (fun _ hmid => hmid.2) fun _ _ _ hmid => hmid.1)
    fun found => ?_
  refine Ends.known (fun _ hmid => hmid.2) ?_
  rintro ⟨rows, rfl, hfound⟩
  have hrefused : (found.all fun row => row.authKey.length != 256) = true := by
    cases found with
    | none => rfl
    | some row =>
      rw [Option.all_some, authKey_eq_nil hkey hfound.symm]
      rfl
  refine Ends.ite (fun _ => Ends.throw fun _ hmid => hmid.1.1) fun hnot => ?_
  exact absurd hrefused hnot

theorem ends_importPayload_of_none {payload : Payload} (hkey : importedKey payload = none) :
    Ends (fun directory => directory .target = target) (importPayload surroundings payload)
      (fun _ _ => False) (fun directory => directory .target = target) := by
  cases payload with
  | telethonSqlite upload entity => exact ends_importTelethonSqliteSession_of_none hkey
  | pyrogramSqlite upload => exact ends_importPyrogramSqliteSession_of_none hkey
  | pyrogramString decoded =>
    refine Ends.bind (fun _ _ => False) ?_ fun _ _ => False.elim
    cases decoded with
    | error error => exact Ends.throw fun _ => id
    | ok raw =>
      unfold importedKey at hkey
      change Ends _ (ofExcept (unpackSessionString raw)) _ _
      cases hunpack : unpackSessionString raw with
      | error error => exact Ends.throw fun _ => id
      | ok row =>
        dsimp only at hkey
        rw [hunpack] at hkey
        cases hkey
  | telethonString => exact Ends.throw fun _ => id
  | unknown => exact Ends.throw fun _ => id

theorem ends_verify_of_stored {tidy : Prop} :
    Ends (Stored target key tidy (verifiesTidily surroundings proxy = true))
      (verifyImportedSession surroundings proxy) (fun _ _ => True) (Ended target key tidy) := by
  rintro directory ⟨other, hstaged, htidy⟩
  rw [propext htidy]
  exact (ends_verifyImportedSession.relax fun _ => Settled.ended) directory hstaged

end Storing

/-! ## Imports that are not finished -/

section Imports

variable {surroundings : Surroundings} {request : Request} {before after : Directory}

theorem ends_importSession {key : Bytes} (hkey : importedKey request.payload = some key) :
    Ends (fun directory => directory = before) (importSession surroundings request)
      (fun _ _ => True)
      (Ended (before .target) key (EndsTidily surroundings request before key)) := by
  refine Ends.bind (fun found directory => directory = before ∧ found = before)
    (Ends.get fun _ hsame => ⟨hsame, hsame⟩) fun found => ?_
  refine Ends.known (fun _ hmid => hmid.2) fun hfound => ?_
  rw [hfound]
  cases hcheck : checkRequest surroundings request before with
  | error error =>
    refine Ends.bind (fun _ _ => False) (Ends.throw ?_) fun _ _ => False.elim
    rintro directory ⟨rfl, -⟩
    refine ⟨fun _ => rfl, ?_⟩
    rw [EndsTidily, hcheck]
  | ok checked =>
    refine Ends.bind (fun _ directory => directory = before) (Ends.pure fun _ hmid => hmid.1)
      fun _ => ?_
    cases hlock : surroundings.lock with
    | returned locked =>
      have htidy : EndsTidily surroundings request before key =
          ImportsTidily surroundings request.proxy (before .telethonTemp) key request.payload := by
        rw [EndsTidily, hcheck, hlock]
      refine Ends.bind (fun _ directory => directory = before) (Ends.pure fun _ => id) fun _ => ?_
      rw [htidy]
      refine Ends.bind _ ((ends_importPayload hkey).strengthen ?_) fun _ =>
        ends_verify_of_stored
      rintro directory rfl
      exact ⟨rfl, rfl⟩
    | raised error =>
      refine Ends.bind (fun _ _ => False) (Ends.throw ?_) fun _ _ => False.elim
      rintro directory rfl
      refine ⟨fun _ => rfl, ?_⟩
      rw [EndsTidily, hcheck, hlock]
    | cancelled =>
      refine Ends.bind (fun _ _ => False) (Ends.throw ?_) fun _ _ => False.elim
      rintro directory rfl
      refine ⟨fun _ => rfl, ?_⟩
      rw [EndsTidily, hcheck, hlock]

theorem target_of_keyless {exit : Exit} (hkey : importedKey request.payload = none)
    (hrun : importSession surroundings request before = .error exit after) :
    after .target = before .target := by
  have hends : Ends (fun directory => directory .target = before .target)
      (importSession surroundings request) (fun _ _ => True)
      (fun directory => directory .target = before .target) := by
    refine Ends.bind (fun _ directory => directory .target = before .target)
      (Ends.get fun _ => id) fun found => ?_
    refine Ends.bind (fun _ directory => directory .target = before .target) ?_ fun _ => ?_
    · cases checkRequest surroundings request found with
      | error error => exact Ends.throw fun _ => id
      | ok checked => exact Ends.pure fun _ => id
    refine Ends.bind (fun _ directory => directory .target = before .target) ?_ fun _ => ?_
    · cases surroundings.lock with
      | returned locked => exact Ends.pure fun _ => id
      | raised error => exact Ends.throw fun _ => id
      | cancelled => exact Ends.throw fun _ => id
    · exact Ends.bind _ (ends_importPayload_of_none hkey) fun _ _ => False.elim
  exact hends.of_error rfl hrun

/-- An import that does not replace the session leaves the account's files and no imported key,
if and only if it ends where the code cleans up. -/
theorem untouched_iff {exit : Exit}
    (hrun : importSession surroundings request before = .error exit after) :
    Untouched request.payload before after ↔
      ∀ key ∈ importedKey request.payload, EndsTidily surroundings request before key := by
  cases hkey : importedKey request.payload with
  | none =>
    have htarget : after .target = before .target := target_of_keyless hkey hrun
    refine iff_of_true ⟨htarget, ?_, ?_⟩ (fun _ hmem => nomatch hmem)
    · rw [hkey]
      exact fun _ hmem => nomatch hmem
    · rw [hkey]
      exact fun _ hmem => nomatch hmem
  | some key =>
    have hended := (ends_importSession hkey).of_error rfl hrun
    constructor
    · rintro huntouched _ ⟨⟩
      exact hended.temps.mpr ⟨huntouched.pyrogramTemp key hkey, huntouched.telethonTemp key hkey⟩
    · intro htidy
      have hends := htidy key rfl
      have htemps := hended.temps.mp hends
      refine ⟨hended.target hends, ?_, ?_⟩
      · rw [hkey]
        rintro _ ⟨⟩
        exact htemps.1
      · rw [hkey]
        rintro _ ⟨⟩
        exact htemps.2

/-- A session of Pyrogram for an account that has none. -/
def sampleRequest : Request :=
  { accountName := "alice"
    payload := .pyrogramSqlite
      (.database [{ dcId := some 2, authKey := List.replicate 256 7, userId := 5 }]) }

/-- The server does not know the key. -/
def unregisteredKey : Surroundings :=
  { datacenters := fun _ _ => none
    credentials := .ok (1, "hash")
    getMe := .raised { name := "AuthKeyUnregistered" } }

def cancelledConnect : Surroundings :=
  { unregisteredKey with connect := .cancelled }

set_option maxRecDepth 4000 in
theorem untouched_iff_unregisteredKey :
    ∃ after, importSession unregisteredKey sampleRequest (fun _ => .empty) =
        .error (.raised unauthorized) after ∧
      (Untouched sampleRequest.payload (fun _ => .empty) after ↔
        ∀ key ∈ importedKey sampleRequest.payload,
          EndsTidily unregisteredKey sampleRequest (fun _ => .empty) key) :=
  ⟨_, rfl, untouched_iff rfl⟩

set_option maxRecDepth 4000 in
theorem key_left_of_cancelledConnect :
    ∃ after, importSession cancelledConnect sampleRequest (fun _ => .empty) =
        .error .cancelled after ∧
      ¬Untouched sampleRequest.payload (fun _ => .empty) after := by
  refine ⟨_, rfl, fun huntouched => ?_⟩
  refine huntouched.pyrogramTemp (List.replicate 256 7) rfl ?_
  exact ⟨.main, _, rfl, _, List.mem_cons_self, rfl⟩

end Imports

end SignPulse.SessionImports
