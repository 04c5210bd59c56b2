import SignPulse.Backend.BackgroundJobs

/-!
# The operations on a store

What every operation of a job store does to the job of one id and to its file, and the invariant
that every operation keeps.
-/

namespace SignPulse.BackgroundJobs

open Foundation

section Changes

variable {options : StoreOptions} {now error : String} {job : Job}
variable {summary : Option (Dict String PyValue)} {results : Option (List (Dict String PyValue))}

theorem isActive_completed : (job.completed options now summary results).status.isActive = false := by
  change JobStatus.isActive (if job.status = .canceling then .canceled else .completed) = false
  split <;> rfl

theorem isActive_failed : (job.failed options now error).status.isActive = false :=
  rfl

theorem isActive_interrupted : (job.interrupted options now).status.isActive = false := by
  unfold Job.interrupted
  split
  · rfl
  · next hfinal => exact Bool.eq_false_iff.2 hfinal

theorem jobId_interrupted : (job.interrupted options now).jobId = job.jobId := by
  unfold Job.interrupted
  split <;> rfl

end Changes

def Job.cleaned (options : StoreOptions) (now : String) (done : TaskEnd) (job : Job) : Job :=
  match done with
  | .returned => job
  | .raised message => if job.status.isActive then job.failed options now message else job
  | .cancelled =>
    match job.status with
    | .running => job.failed options now "任务被取消"
    | .canceling => job.completed options now none none
    | _ => job

theorem isActive_cleaned {options : StoreOptions} {now : String} {done : TaskEnd} {job : Job}
    (hdone : done = .returned → job.status.isActive = false) :
    (job.cleaned options now done).status.isActive = false := by
  cases done with
  | returned => exact hdone rfl
  | raised message =>
    simp only [Job.cleaned]
    split
    · exact isActive_failed
    · next hfinal => exact Bool.eq_false_iff.2 hfinal
  | cancelled =>
    unfold Job.cleaned
    cases hstatus : job.status with
    | running => exact isActive_failed
    | canceling => exact isActive_completed
    | completed => exact congrArg JobStatus.isActive hstatus
    | canceled => exact congrArg JobStatus.isActive hstatus
    | failed => exact congrArg JobStatus.isActive hstatus

theorem cleaned_of_final {options : StoreOptions} {now : String} {done : TaskEnd} {job : Job}
    (hfinal : job.status.isActive = false) : job.cleaned options now done = job := by
  cases done with
  | returned => rfl
  | raised message => exact if_neg (by rw [hfinal]; decide)
  | cancelled =>
    unfold Job.cleaned
    cases hstatus : job.status with
    | running => rw [hstatus] at hfinal; contradiction
    | canceling => rw [hstatus] at hfinal; contradiction
    | completed => rfl
    | canceled => rfl
    | failed => rfl

namespace BackgroundJobStore

section Stores

variable {store : BackgroundJobStore} {jobId other : String} {job : Job} {written : Bool}
variable {change : Job → Job} {unlinked : String → Bool} {now : String} {done : TaskEnd}

@[simp]
theorem jobs_writeJob : (store.writeJob job written).jobs = store.jobs := by
  unfold writeJob
  split <;> rfl

theorem getItem_changeJob (store : BackgroundJobStore) (jobId other : String)
    (change : Job → Job) (written : Bool) :
    (store.changeJob jobId change written).getJob other =
      if other = jobId then (store.getJob jobId).map change else store.getJob other := by
  unfold changeJob getJob
  split
  · next job hjob =>
    rw [jobs_writeJob]
    split
    · next heq => rw [heq, hjob, Dict.getItem_setItem_self, Option.map_some]
    · next hne => rw [Dict.getItem_setItem_of_ne _ _ hne]
  · next hnone =>
    split
    · next heq => rw [heq, hnone, Option.map_none]
    · rfl

theorem getItem_trimHistory (store : BackgroundJobStore) (unlinked : String → Bool)
    (jobId : String) :
    (store.trimHistory unlinked).getJob jobId =
      if store.jobs.length ≤ store.options.maxHistory ∨ jobId ∈ store.keptIds then
        store.getJob jobId
      else none := by
  unfold trimHistory getJob
  split
  · next hfew => rw [if_pos (Or.inl hfew)]
  · next hmany =>
    rw [Dict.getItem_filter_key (fun key => decide (key ∈ store.keptIds))]
    by_cases hkept : jobId ∈ store.keptIds <;> simp [hkept, hmany]

theorem getItem_createJob (hne : jobId ≠ job.jobId) :
    (store.createJob job written unlinked).getJob jobId = store.getJob jobId ∨
      (store.createJob job written unlinked).getJob jobId = none := by
  unfold createJob
  split
  · rw [getItem_trimHistory]
    split
    · left
      exact (congrArg (Dict.getItem · jobId) jobs_writeJob).trans
        (Dict.getItem_setItem_of_ne _ _ hne)
    · right
      rfl
  · left
    exact Dict.getItem_setItem_of_ne _ _ hne

theorem fst_requestCancel_of_running {cancelRunningTask : Bool}
    (hjob : store.getJob jobId = some job) (hstatus : job.status = .running) :
    (store.requestCancel now jobId cancelRunningTask written).1 =
      store.changeJob jobId (Job.withRequest store.options now) written := by
  unfold getJob at hjob
  rw [requestCancel, hjob]
  dsimp only
  rw [hstatus]
  dsimp only
  split <;> rfl

theorem fst_requestCancel_of_not_running {cancelRunningTask : Bool}
    (hjob : ∀ job, store.getJob jobId = some job → job.status ≠ .running) :
    (store.requestCancel now jobId cancelRunningTask written).1 = store := by
  unfold requestCancel
  cases hget : store.jobs.getItem jobId with
  | none => rfl
  | some job =>
    dsimp only
    cases hstatus : job.status with
    | running => exact absurd hstatus (hjob job hget)
    | canceling => rfl
    | completed => rfl
    | canceled => rfl
    | failed => rfl

theorem getItem_requestCancel (store : BackgroundJobStore) (now jobId other : String)
    (cancelRunningTask written : Bool) :
    (store.requestCancel now jobId cancelRunningTask written).1.getJob other =
      if other = jobId then (store.getJob jobId).map fun job =>
        if job.status = .running then job.withRequest store.options now else job
      else store.getJob other := by
  cases hjob : store.getJob jobId with
  | none =>
    rw [fst_requestCancel_of_not_running (by rw [hjob]; nofun), Option.map_none]
    exact (ite_eq_right_iff.2 fun heq => by rw [heq, hjob]).symm
  | some job =>
    rw [Option.map_some]
    by_cases hrunning : job.status = .running
    · rw [fst_requestCancel_of_running hjob hrunning, getItem_changeJob, hjob, if_pos hrunning,
        Option.map_some]
    · rw [fst_requestCancel_of_not_running (by rw [hjob]; rintro _ ⟨⟩; exact hrunning),
        if_neg hrunning]
      exact (ite_eq_right_iff.2 fun heq => by rw [heq, hjob]).symm

theorem changeJob_congr {change other : Job → Job} (hjob : store.getJob jobId = some job)
    (hsame : change job = other job) :
    store.changeJob jobId change written = store.changeJob jobId other written := by
  unfold getJob at hjob
  unfold changeJob
  rw [hjob]
  dsimp only
  rw [hsame]

theorem cleanup_eq (hjob : store.getJob jobId = some job) : store.cleanup now jobId done written =
      if job.status.isActive = true ∧ done ≠ .returned then
        (store.forgetTask jobId).changeJob jobId (Job.cleaned store.options now done) written
      else store.forgetTask jobId := by
  have hget : (store.forgetTask jobId).getJob jobId = some job := hjob
  unfold getJob at hjob
  rw [cleanup, hjob]
  dsimp only
  by_cases hactive : job.status.isActive = true
  · rw [if_pos hactive]
    cases done with
    | returned => exact (if_neg fun hboth => hboth.2 rfl).symm
    | raised message =>
      refine Eq.trans ?_ (if_pos ⟨hactive, nofun⟩).symm
      exact changeJob_congr hget (if_pos hactive).symm
    | cancelled =>
      refine Eq.trans ?_ (if_pos ⟨hactive, nofun⟩).symm
      dsimp only
      cases hstatus : job.status with
      | running =>
        rw [if_neg nofun]
        apply changeJob_congr hget
        rw [Job.cleaned.eq_def, hstatus]
        rfl
      | canceling =>
        rw [if_pos rfl]
        apply changeJob_congr hget
        rw [Job.cleaned.eq_def, hstatus]
        rfl
      | completed => rw [hstatus] at hactive; contradiction
      | canceled => rw [hstatus] at hactive; contradiction
      | failed => rw [hstatus] at hactive; contradiction
  · rw [if_neg hactive, if_neg fun hboth => hactive hboth.1]

theorem getItem_cleanup (store : BackgroundJobStore) (now jobId other : String) (done : TaskEnd)
    (written : Bool) :
    (store.cleanup now jobId done written).getJob other =
      if other = jobId then (store.getJob jobId).map (Job.cleaned store.options now done)
      else store.getJob other := by
  cases hjob : store.getJob jobId with
  | none =>
    have hcleanup : store.cleanup now jobId done written = store.forgetTask jobId := by
      unfold getJob at hjob
      rw [cleanup, hjob]
    rw [hcleanup, Option.map_none]
    exact (ite_eq_right_iff.2 fun heq => by rw [heq]; exact hjob.symm).symm
  | some job =>
    rw [cleanup_eq hjob, Option.map_some]
    split
    · rw [getItem_changeJob]
      exact if_congr Iff.rfl (congrArg (Option.map _) hjob) rfl
    · next hidle =>
      have hsame : job.cleaned store.options now done = job := by
        rw [not_and_or, not_not] at hidle
        rcases hidle with hfinal | hreturned
        · exact cleaned_of_final (Bool.eq_false_iff.2 hfinal)
        · rw [hreturned]
          rfl
      rw [hsame]
      exact (ite_eq_right_iff.2 fun heq => by rw [heq]; exact hjob.symm).symm

end Stores

/-! ## The invariant -/

/-- Jobs and files are stored under their own ids, which have been drawn, and no id twice. -/
structure Registered (drawn : List String) (store : BackgroundJobStore) : Prop where
  job : ∀ item ∈ store.jobs, item.1 = item.2.jobId ∧ item.1 ∈ drawn
  file : ∀ item ∈ store.files, item.1 = item.2.jobId ∧ item.1 ∈ drawn
  distinct : store.jobs.keyList.Nodup

namespace Registered

variable {drawn : List String} {store : BackgroundJobStore} {jobId now : String} {job : Job}
variable {change : Job → Job} {written : Bool} {unlinked : String → Bool} {done : TaskEnd}
variable {options : StoreOptions} {listed : List String}

variable (hstore : Registered drawn store)

include hstore

theorem mem_drawn (hjob : store.getJob jobId = some job) : jobId ∈ drawn :=
  (hstore.job _ (Dict.mem_of_getItem hjob)).2

theorem jobId_eq (hjob : store.getJob jobId = some job) : job.jobId = jobId :=
  (hstore.job _ (Dict.mem_of_getItem hjob)).1.symm

theorem draw : Registered (jobId :: drawn) store where
  job item hitem := ⟨(hstore.job item hitem).1, List.mem_cons_of_mem _ (hstore.job item hitem).2⟩
  file item hitem := ⟨(hstore.file item hitem).1, List.mem_cons_of_mem _ (hstore.file item hitem).2⟩
  distinct := hstore.distinct

theorem setJob (hdrawn : job.jobId ∈ drawn) :
    Registered drawn { store with jobs := store.jobs.setItem job.jobId job } where
  job item hitem := by
    rcases Dict.mem_of_mem_setItem hitem with ⟨hkey, hvalue⟩ | hold
    · rw [hkey, hvalue]
      exact ⟨rfl, hdrawn⟩
    · exact hstore.job item hold
  file := hstore.file
  distinct := Dict.nodup_setItem _ _ hstore.distinct

theorem writeJob (hdrawn : job.jobId ∈ drawn) : Registered drawn (store.writeJob job written) := by
  unfold BackgroundJobStore.writeJob
  split
  · refine ⟨hstore.job, fun item hitem => ?_, hstore.distinct⟩
    rcases Dict.mem_of_mem_setItem hitem with ⟨hkey, hvalue⟩ | hold
    · rw [hkey, hvalue]
      exact ⟨rfl, hdrawn⟩
    · exact hstore.file item hold
  · exact hstore

theorem changeJob (hchange : ∀ job, (change job).jobId = job.jobId) :
    Registered drawn (store.changeJob jobId change written) := by
  unfold BackgroundJobStore.changeJob
  split
  · next job hjob =>
    have hid : (change job).jobId = jobId := (hchange job).trans (hstore.jobId_eq hjob)
    have hdrawn : (change job).jobId ∈ drawn := by
      rw [hid]
      exact hstore.mem_drawn hjob
    have hset := hstore.setJob hdrawn
    rw [hid] at hset
    exact hset.writeJob hdrawn
  · exact hstore

theorem trimHistory : Registered drawn (store.trimHistory unlinked) := by
  unfold BackgroundJobStore.trimHistory
  split
  · exact hstore
  · exact
      { job := fun item hitem => hstore.job item (List.mem_of_mem_filter hitem)
        file := fun item hitem => hstore.file item (List.mem_of_mem_filter hitem)
        distinct := hstore.distinct.sublist (List.filter_sublist.map Prod.fst) }

theorem createJob (hdrawn : job.jobId ∈ drawn) :
    Registered drawn (store.createJob job written unlinked) := by
  have hset := hstore.setJob hdrawn
  unfold BackgroundJobStore.createJob
  split
  · exact (hset.writeJob hdrawn).trimHistory
  · exact hset

theorem forgetTask : Registered drawn (store.forgetTask jobId) :=
  ⟨hstore.job, hstore.file, hstore.distinct⟩

omit hstore

theorem jobId_cleaned (options : StoreOptions) (now : String) (done : TaskEnd) (job : Job) :
    (job.cleaned options now done).jobId = job.jobId := by
  unfold Job.cleaned
  cases done with
  | returned => rfl
  | raised message =>
    dsimp only
    split <;> rfl
  | cancelled => cases job.status <;> rfl

theorem cleanup (hstore : Registered drawn store) :
    Registered drawn (store.cleanup now jobId done written) := by
  cases hjob : store.getJob jobId with
  | none =>
    unfold BackgroundJobStore.getJob at hjob
    rw [BackgroundJobStore.cleanup, hjob]
    exact hstore.forgetTask
  | some job =>
    rw [cleanup_eq hjob]
    split
    · exact hstore.forgetTask.changeJob (jobId_cleaned _ _ _)
    · exact hstore.forgetTask

theorem requestCancel {cancelRunningTask : Bool} (hstore : Registered drawn store) :
    Registered drawn (store.requestCancel now jobId cancelRunningTask written).1 := by
  by_cases hrunning : ∃ job, store.getJob jobId = some job ∧ job.status = .running
  · obtain ⟨job, hjob, hstatus⟩ := hrunning
    rw [fst_requestCancel_of_running hjob hstatus]
    exact hstore.changeJob fun _ => rfl
  · rw [fst_requestCancel_of_not_running fun job hjob hstatus => hrunning ⟨job, hjob, hstatus⟩]
    exact hstore

/-! ### Loading -/

theorem mem_loadedJobs {files : Dict String Job}
    (hjob : job ∈ loadedJobs options files now listed) :
    ∃ jobId ∈ listed, ∃ stored, files.getItem jobId = some stored ∧
      job = stored.interrupted options now := by
  obtain ⟨jobId, hlisted, hget⟩ := List.mem_filterMap.1 hjob
  obtain ⟨stored, hstored, rfl⟩ := Option.map_eq_some_iff.1 hget
  exact ⟨jobId, hlisted, stored, hstored, rfl⟩

theorem map_jobId_loadedJobs (hstore : Registered drawn store) :
    ∀ {listed : List String}, (∀ jobId ∈ listed, jobId ∈ store.files.keyList) →
      (loadedJobs options store.files now listed).map (·.jobId) = listed
  | [], _ => rfl
  | jobId :: rest, hlisted => by
    obtain ⟨stored, hstored⟩ :=
      Dict.exists_getItem_of_mem_keyList (hlisted jobId List.mem_cons_self)
    have hid : (stored.interrupted options now).jobId = jobId :=
      jobId_interrupted.trans (hstore.file _ (Dict.mem_of_getItem hstored)).1.symm
    have hrest := map_jobId_loadedJobs hstore fun other hother =>
      hlisted other (List.mem_cons_of_mem jobId hother)
    unfold loadedJobs at hrest ⊢
    rw [List.filterMap_cons, hstored, Option.map_some]
    rw [List.map_cons, hid, hrest]

def latestJobs (options : StoreOptions) (loaded : List Job) : List Job :=
  (loaded.insertionSort Newer).take options.maxHistory

theorem nodup_latestJobs {loaded : List Job} (hnodup : (loaded.map (·.jobId)).Nodup) :
    ((latestJobs options loaded).map (·.jobId)).Nodup := by
  have hsorted : ((loaded.insertionSort Newer).map (·.jobId)).Nodup :=
    ((List.perm_insertionSort Newer loaded).map _).nodup_iff.2 hnodup
  exact hsorted.sublist ((List.take_sublist _ _).map _)

theorem jobs_loadJobs {written : String → Bool} (hstore : Registered drawn store)
    (hnodup : listed.Nodup) (hlisted : ∀ jobId ∈ listed, jobId ∈ store.files.keyList) :
    (BackgroundJobStore.loadJobs options store.files now listed written).jobs =
      (latestJobs options (loadedJobs options store.files now listed)).map
        fun job => (job.jobId, job) := by
  apply Dict.update_of_nodup
  rw [List.nil_append, Dict.keyList, List.map_map]
  apply nodup_latestJobs
  rwa [map_jobId_loadedJobs hstore hlisted]

theorem loadJobs {written : String → Bool} (hstore : Registered drawn store)
    (hnodup : listed.Nodup) (hlisted : ∀ jobId ∈ listed, jobId ∈ store.files.keyList) :
    Registered drawn (BackgroundJobStore.loadJobs options store.files now listed written) where
  job item hitem := by
    rw [jobs_loadJobs hstore hnodup hlisted] at hitem
    obtain ⟨job, hjob, rfl⟩ := List.mem_map.1 hitem
    refine ⟨rfl, ?_⟩
    have hloaded : job ∈ loadedJobs options store.files now listed :=
      List.mem_insertionSort Newer |>.1 (List.mem_of_mem_take hjob)
    obtain ⟨jobId, _, stored, hstored, rfl⟩ := mem_loadedJobs hloaded
    have hfile := hstore.file _ (Dict.mem_of_getItem hstored)
    rw [jobId_interrupted, ← hfile.1]
    exact hfile.2
  file item hitem := by
    obtain ⟨file, hfile, rfl⟩ := List.mem_map.1 hitem
    have hstored := hstore.file file hfile
    split
    · exact ⟨hstored.1.trans jobId_interrupted.symm, hstored.2⟩
    · exact hstored
  distinct := by
    rw [jobs_loadJobs hstore hnodup hlisted, Dict.keyList, List.map_map]
    apply nodup_latestJobs
    rwa [map_jobId_loadedJobs hstore hlisted]

end Registered

end BackgroundJobStore

namespace World

open BackgroundJobStore

/-- The invariant of a run. -/
structure Sound (world : World) : Prop where
  store : Registered world.drawn world.store
  callback : ∀ callback ∈ world.callbacks, callback.2 ∈ world.drawn

theorem sound_fresh (options : StoreOptions) : (fresh options).Sound where
  store := { job := nofun, file := nofun, distinct := List.nodup_nil }
  callback := nofun

theorem Sound.step {world next : World} {operation : Operation} (hsound : world.Sound)
    (hstep : world.step operation = some next) : next.Sound := by
  cases operation with
  | create now jobId kind payload progress written unlinked =>
    rw [World.step] at hstep
    split at hstep
    · contradiction
    · cases hstep
      exact ⟨hsound.store.draw.createJob List.mem_cons_self,
        fun callback hmem => List.mem_cons_of_mem _ (hsound.callback callback hmem)⟩
  | attach jobId task =>
    rw [World.step] at hstep
    split at hstep
    · next hdrawn =>
      cases hstep
      refine ⟨⟨hsound.store.job, hsound.store.file, hsound.store.distinct⟩, ?_⟩
      intro callback hmem
      rcases List.mem_append.1 hmem with hold | hnew
      · exact hsound.callback callback hold
      · rw [List.mem_singleton.1 hnew]
        exact hdrawn
    · contradiction
  | appendLog now jobId level message ref persist written =>
    cases hstep
    exact ⟨hsound.store.changeJob fun _ => rfl, hsound.callback⟩
  | updateProgress now jobId done total extra persist written =>
    cases hstep
    exact ⟨hsound.store.changeJob fun _ => rfl, hsound.callback⟩
  | requestCancel now jobId cancelRunningTask written =>
    cases hstep
    exact ⟨hsound.store.requestCancel, hsound.callback⟩
  | markCompleted now jobId summary results written =>
    cases hstep
    exact ⟨hsound.store.changeJob fun _ => rfl, hsound.callback⟩
  | markFailed now jobId error written =>
    cases hstep
    exact ⟨hsound.store.changeJob fun _ => rfl, hsound.callback⟩
  | ends task done =>
    rw [World.step] at hstep
    split at hstep
    · contradiction
    · cases hstep
      exact ⟨hsound.store, hsound.callback⟩
  | callback now task jobId written =>
    rw [World.step] at hstep
    split at hstep
    · obtain ⟨done, _, rfl⟩ := Option.map_eq_some_iff.1 hstep
      exact ⟨hsound.store.cleanup,
        fun callback hmem => hsound.callback callback (List.mem_of_mem_erase hmem)⟩
    · contradiction
  | restart options now listed written =>
    rw [World.step] at hstep
    split at hstep
    · next hlisted =>
      cases hstep
      exact ⟨hsound.store.loadJobs hlisted.1 hlisted.2, fun _ hmem => absurd hmem List.not_mem_nil⟩
    · contradiction

def change (world : World) (jobId : String) (operation : Operation) (job : Job) : Job :=
  match operation with
  | .appendLog now other level message ref _ _ =>
    if jobId = other then job.withLog world.store.options now level message ref else job
  | .updateProgress now other done total extra _ _ =>
    if jobId = other then job.withProgress now done total extra else job
  | .requestCancel now other _ _ =>
    if jobId = other ∧ job.status = .running then job.withRequest world.store.options now else job
  | .markCompleted now other summary results _ =>
    if jobId = other then job.completed world.store.options now summary results else job
  | .markFailed now other error _ =>
    if jobId = other then job.failed world.store.options now error else job
  | .callback now task other _ =>
    if jobId = other then
      match world.ended.getItem task with
      | some done => job.cleaned world.store.options now done
      | none => job
    else job
  | _ => job

/-- The operation neither creates nor loads jobs. -/
def Local : Operation → Prop
  | .create .. | .restart .. => False
  | _ => True

theorem local_or (operation : Operation) : Local operation ∨
    (∃ now jobId kind payload progress written unlinked,
      operation = .create now jobId kind payload progress written unlinked) ∨
    ∃ options now listed written, operation = .restart options now listed written := by
  cases operation with
  | create => exact .inr (.inl ⟨_, _, _, _, _, _, _, rfl⟩)
  | restart => exact .inr (.inr ⟨_, _, _, _, rfl⟩)
  | attach => exact .inl trivial
  | appendLog => exact .inl trivial
  | updateProgress => exact .inl trivial
  | requestCancel => exact .inl trivial
  | markCompleted => exact .inl trivial
  | markFailed => exact .inl trivial
  | ends => exact .inl trivial
  | callback => exact .inl trivial

theorem map_ite {jobId other : String} {store : BackgroundJobStore} {change : Job → Job} :
    (if jobId = other then (store.getJob other).map change else store.getJob jobId) =
      (store.getJob jobId).map fun job => if jobId = other then change job else job := by
  by_cases heq : jobId = other
  · rw [heq, if_pos rfl]
    simp only [if_true]
  · simp only [if_neg heq, Option.map_id']

theorem getJob_of_local {world next : World} {operation : Operation} (hlocal : Local operation)
    (hstep : world.step operation = some next) (jobId : String) :
    next.store.getJob jobId = (world.store.getJob jobId).map (world.change jobId operation) := by
  cases operation with
  | create now other kind payload progress written unlinked => exact hlocal.elim
  | attach other task =>
    rw [World.step] at hstep
    split at hstep
    · cases hstep
      exact Option.map_id'.symm
    · contradiction
  | appendLog now other level message ref persist written =>
    cases hstep
    exact (getItem_changeJob _ _ _ _ _).trans map_ite
  | updateProgress now other done total extra persist written =>
    cases hstep
    exact (getItem_changeJob _ _ _ _ _).trans map_ite
  | requestCancel now other cancelRunningTask written =>
    cases hstep
    refine (getItem_requestCancel _ _ _ _ _ _).trans (map_ite.trans ?_)
    congr 1
    funext job
    rw [← ite_and]
    rfl
  | markCompleted now other summary results written =>
    cases hstep
    exact (getItem_changeJob _ _ _ _ _).trans map_ite
  | markFailed now other error written =>
    cases hstep
    exact (getItem_changeJob _ _ _ _ _).trans map_ite
  | ends task done =>
    rw [World.step] at hstep
    split at hstep
    · contradiction
    · cases hstep
      exact Option.map_id'.symm
  | callback now task other written =>
    rw [World.step] at hstep
    split at hstep
    · obtain ⟨done, hdone, rfl⟩ := Option.map_eq_some_iff.1 hstep
      refine (getItem_cleanup _ _ _ _ _ _).trans (map_ite.trans ?_)
      congr 1
      funext job
      simp only [change]
      rw [hdone]
    · contradiction
  | restart options now listed written => exact hlocal.elim

theorem Sound.run {Allowed : World → Operation → Prop} {first last : World}
    {operations : List Operation} (hfirst : first.Sound)
    (hrun : StepRun World.step Allowed first operations last) : last.Sound :=
  hrun.invariant Sound (fun _ _ _ hsound _ hstep => hsound.step hstep) hfirst

end World

end SignPulse.BackgroundJobs
