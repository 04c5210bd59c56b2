import SignPulse.Backend.JobStores

/-!
# Jobs that are kept

Which jobs the trimming and a restart keep, and when every active job is found, with its file,
until it is final.
-/

namespace SignPulse.BackgroundJobs

open Foundation

/-- How many jobs stand before one in the list of jobs: those created later, and those created in
the same second and stored earlier. -/
def rank (jobs : List Job) (job : Job) : ℕ :=
  (jobs.takeWhile fun other => other.jobId ≠ job.jobId).countP
      (fun other => job.createdAt ≤ other.createdAt) +
    (jobs.dropWhile fun other => other.jobId ≠ job.jobId).countP
      (fun other => job.createdAt < other.createdAt)

section Ranks

variable {jobs : List Job} {job : Job} {n : ℕ}

theorem rank_eq {before after : List Job} (hbefore : ∀ other ∈ before, other.jobId ≠ job.jobId) :
    rank (before ++ job :: after) job = sortedRank Newer before job after := by
  have htake : (before ++ job :: after).takeWhile (fun other => other.jobId ≠ job.jobId) =
      before := by
    rw [List.takeWhile_append_of_pos (by simpa using hbefore), List.takeWhile_cons_of_neg (by simp),
      List.append_nil]
  have hdrop : (before ++ job :: after).dropWhile (fun other => other.jobId ≠ job.jobId) =
      job :: after := by
    rw [List.dropWhile_append_of_pos (by simpa using hbefore), List.dropWhile_cons_of_neg (by simp)]
  rw [rank, sortedRank, htake, hdrop, List.countP_cons_of_neg (by simp)]
  congr 1
  apply List.countP_congr
  intro other _
  simp

theorem mem_take_iff (hmem : job ∈ jobs) (hnodup : (jobs.map (·.jobId)).Nodup) :
    job ∈ (jobs.insertionSort Newer).take n ↔ rank jobs job < n := by
  obtain ⟨before, after, rfl⟩ := List.append_of_mem hmem
  have hbefore : ∀ other ∈ before, other.jobId ≠ job.jobId := by
    intro other hother heq
    rw [List.map_append, List.nodup_append] at hnodup
    exact hnodup.2.2 _ (List.mem_map_of_mem hother) _ List.mem_cons_self heq
  rw [rank_eq hbefore]
  exact mem_take_insertionSort_iff (List.Nodup.of_map _ hnodup)

end Ranks

namespace BackgroundJobStore

section Stores

variable {drawn : List String} {store next : BackgroundJobStore} {jobId now : String} {job : Job}
variable {change : Job → Job} {written : Bool} {unlinked : String → Bool} {done : TaskEnd}

/-- The same jobs are stored, and no file is removed. -/
structure Extends (store next : BackgroundJobStore) : Prop where
  options : next.options = store.options
  keys : next.jobs.keyList = store.jobs.keyList
  files : store.files.keyList ⊆ next.files.keyList

section

variable (store : BackgroundJobStore)

theorem Extends.refl : Extends store store :=
  ⟨rfl, rfl, List.Subset.refl _⟩

theorem files_writeJob (job : Job) (written : Bool) :
    store.files.keyList ⊆ (store.writeJob job written).files.keyList := by
  unfold writeJob
  split
  · exact fun key hkey => Dict.mem_keyList_setItem.2 (Or.inr hkey)
  · exact List.Subset.refl _

theorem extends_changeJob (jobId : String) (change : Job → Job)
    (written : Bool) : Extends store (store.changeJob jobId change written) := by
  unfold changeJob
  split
  · next job hjob =>
    have hwrite := files_writeJob { store with jobs := store.jobs.setItem jobId (change job) }
      (change job) written
    refine ⟨?_, ?_, hwrite⟩
    · unfold writeJob
      split <;> rfl
    · rw [jobs_writeJob]
      exact Dict.keyList_setItem_of_mem _ (Dict.mem_keyList_of_getItem hjob)
  · exact Extends.refl store

theorem extends_cleanup (now jobId : String) (done : TaskEnd)
    (written : Bool) : Extends store (store.cleanup now jobId done written) := by
  cases hjob : store.getJob jobId with
  | none =>
    unfold getJob at hjob
    rw [cleanup, hjob]
    exact ⟨rfl, rfl, List.Subset.refl _⟩
  | some job =>
    rw [cleanup_eq hjob]
    split
    · have hchange := extends_changeJob (store.forgetTask jobId) jobId
        (Job.cleaned store.options now done) written
      exact ⟨hchange.options, hchange.keys, hchange.files⟩
    · exact ⟨rfl, rfl, List.Subset.refl _⟩

theorem extends_requestCancel (now jobId : String) (cancelRunningTask written : Bool) :
    Extends store (store.requestCancel now jobId cancelRunningTask written).1 := by
  by_cases hrunning : ∃ job, store.getJob jobId = some job ∧ job.status = .running
  · obtain ⟨job, hjob, hstatus⟩ := hrunning
    rw [fst_requestCancel_of_running hjob hstatus]
    exact extends_changeJob _ _ _ _
  · rw [fst_requestCancel_of_not_running fun job hjob hstatus => hrunning ⟨job, hjob, hstatus⟩]
    exact Extends.refl store

end

/-! ## Trimming -/

theorem map_jobId_valueList (hstore : Registered drawn store) :
    store.jobs.valueList.map (·.jobId) = store.jobs.keyList := by
  rw [Dict.valueList, Dict.keyList, List.map_map]
  exact List.map_congr_left fun item hitem => (hstore.job item hitem).1.symm

theorem mem_keptIds (hstore : Registered drawn store) (hjob : store.getJob jobId = some job)
    (hrank : rank store.jobs.valueList job < store.options.maxHistory) :
    jobId ∈ store.keptIds := by
  rw [← hstore.jobId_eq hjob]
  apply List.mem_map_of_mem
  refine (mem_take_iff (Dict.mem_valueList_of_getItem hjob) ?_).2 hrank
  rw [map_jobId_valueList hstore]
  exact hstore.distinct

theorem length_trimHistory (hstore : Registered drawn store) :
    (store.trimHistory unlinked).jobs.length ≤ store.options.maxHistory := by
  unfold trimHistory
  split
  · next hfew => exact hfew
  · let kept : Dict String Job := store.jobs.filter fun item => decide (item.1 ∈ store.keptIds)
    have hnodup : kept.keyList.Nodup :=
      hstore.distinct.sublist (List.filter_sublist.map Prod.fst)
    have hsubset : kept.keyList ⊆ store.keptIds := by
      intro key hkey
      obtain ⟨item, hitem, rfl⟩ := List.mem_map.1 hkey
      exact of_decide_eq_true (List.mem_filter.1 hitem).2
    calc kept.length = kept.keyList.length := (List.length_map Prod.fst).symm
      _ ≤ store.keptIds.length := (List.subperm_of_subset hnodup hsubset).length_le
      _ ≤ store.options.maxHistory := by
        rw [keptIds, List.length_map]
        exact List.length_take_le _ _

theorem options_trimHistory : (store.trimHistory unlinked).options = store.options := by
  unfold trimHistory
  split <;> rfl

/-- Every active job has its file. -/
def Persisted (store : BackgroundJobStore) : Prop :=
  ∀ jobId job, store.getJob jobId = some job → job.status.isActive = true →
    jobId ∈ store.files.keyList

/-- Trimming removes no file of a job that it keeps. -/
theorem persisted_trimHistory (hpersisted : Persisted store) :
    Persisted (store.trimHistory unlinked) := by
  intro jobId job hjob hactive
  rw [getItem_trimHistory] at hjob
  split at hjob
  · next hkept =>
    have hfile := hpersisted jobId job hjob hactive
    unfold trimHistory
    split
    · exact hfile
    · next hmany =>
      obtain ⟨file, hmem, rfl⟩ := List.mem_map.1 hfile
      apply List.mem_map_of_mem
      apply List.mem_filter.2 ⟨hmem, ?_⟩
      exact decide_eq_true (Or.inr (Or.inl (hkept.resolve_left hmany)))
  · contradiction

end Stores

end BackgroundJobStore

namespace World

open BackgroundJobStore

/-- The jobs of the store once one more has been stored. -/
def jobsWith (world : World) (job : Job) : List Job :=
  world.store.jobs.valueList ++ [job]

def Retains (world : World) : Operation → Prop
  | .create now jobId kind payload progress written _ =>
    written = true ∧ ∀ job ∈ world.jobsWith (newJob now jobId kind payload progress),
      job.status.isActive = true →
        rank (world.jobsWith (newJob now jobId kind payload progress)) job <
          world.store.options.maxHistory
  | .restart options now listed _ => ∀ job ∈ world.store.jobs.valueList,
      job.status.isActive = true → ∃ loaded ∈ loadedJobs options world.store.files now listed,
        loaded.jobId = job.jobId ∧
          rank (loadedJobs options world.store.files now listed) loaded < options.maxHistory
  | _ => True

section Steps

variable {world next last : World} {operation : Operation} {operations : List Operation}
variable {jobId : String} {job found : Job}

theorem isActive_of_change (hactive : (world.change jobId operation job).status.isActive = true) :
    job.status.isActive = true := by
  cases operation with
  | create => exact hactive
  | attach => exact hactive
  | appendLog =>
    simp only [change] at hactive
    split at hactive <;> exact hactive
  | updateProgress =>
    simp only [change] at hactive
    split at hactive <;> exact hactive
  | requestCancel =>
    simp only [change] at hactive
    split at hactive
    · next hrunning =>
      rw [hrunning.2]
      rfl
    · exact hactive
  | markCompleted =>
    simp only [change] at hactive
    split at hactive
    · rw [isActive_completed] at hactive
      contradiction
    · exact hactive
  | markFailed =>
    simp only [change] at hactive
    split at hactive
    · rw [isActive_failed] at hactive
      contradiction
    · exact hactive
  | ends => exact hactive
  | callback now task other written =>
    by_contra hfinal
    simp only [change] at hactive
    split at hactive
    · cases hended : world.ended.getItem task with
      | none =>
        rw [hended] at hactive
        exact hfinal hactive
      | some done =>
        rw [hended] at hactive
        dsimp only at hactive
        rw [cleaned_of_final (Bool.eq_false_iff.2 hfinal)] at hactive
        exact hfinal hactive
    · exact hfinal hactive
  | restart => exact hactive

theorem extends_of_local (hlocal : Local operation) (hstep : world.step operation = some next) :
    Extends world.store next.store := by
  cases operation with
  | create => exact hlocal.elim
  | attach other task =>
    rw [World.step] at hstep
    split at hstep
    · cases hstep
      exact ⟨rfl, rfl, List.Subset.refl _⟩
    · contradiction
  | appendLog =>
    cases hstep
    exact extends_changeJob _ _ _ _
  | updateProgress =>
    cases hstep
    exact extends_changeJob _ _ _ _
  | requestCancel =>
    cases hstep
    exact extends_requestCancel _ _ _ _ _
  | markCompleted =>
    cases hstep
    exact extends_changeJob _ _ _ _
  | markFailed =>
    cases hstep
    exact extends_changeJob _ _ _ _
  | ends task done =>
    rw [World.step] at hstep
    split at hstep
    · contradiction
    · cases hstep
      exact Extends.refl _
  | callback now task other written =>
    rw [World.step] at hstep
    split at hstep
    · obtain ⟨done, _, rfl⟩ := Option.map_eq_some_iff.1 hstep
      exact extends_cleanup _ _ _ _ _
    · contradiction
  | restart => exact hlocal.elim

/-- The invariant of a run that retains its active jobs. -/
structure Retained (world : World) : Prop where
  sound : world.Sound
  persisted : Persisted world.store
  bounded : world.store.jobs.length ≤ world.store.options.maxHistory

/-- One operation keeps the invariant, and an active job is found afterwards. -/
structure Kept (world next : World) : Prop where
  retained : next.Retained
  found : ∀ jobId job, world.store.getJob jobId = some job → job.status.isActive = true →
    ∃ found, next.store.getJob jobId = some found

theorem kept_of_local (hworld : world.Retained) (hlocal : Local operation)
    (hstep : world.step operation = some next) : Kept world next := by
  have hextends := extends_of_local hlocal hstep
  have hjobs := getJob_of_local hlocal hstep
  refine ⟨⟨hworld.sound.step hstep, ?_, ?_⟩, ?_⟩
  · intro jobId found hfound hactive
    rw [hjobs] at hfound
    obtain ⟨job, hjob, rfl⟩ := Option.map_eq_some_iff.1 hfound
    exact hextends.files (hworld.persisted jobId job hjob (isActive_of_change hactive))
  · calc next.store.jobs.length = next.store.jobs.keyList.length := (List.length_map Prod.fst).symm
      _ = world.store.jobs.length := by rw [hextends.keys, Dict.keyList, List.length_map]
      _ ≤ next.store.options.maxHistory := by
        rw [hextends.options]
        exact hworld.bounded
  · intro jobId job hjob _
    exact ⟨_, by rw [hjobs, hjob, Option.map_some]⟩

/-- The store between the write of a new job and the trimming. -/
def storeWith (world : World) (job : Job) : BackgroundJobStore :=
  { world.store with jobs := world.store.jobs.setItem job.jobId job }.writeJob job true

theorem registered_storeWith (hworld : world.Sound) :
    Registered (job.jobId :: world.drawn) (world.storeWith job) :=
  (hworld.store.draw.setJob List.mem_cons_self).writeJob List.mem_cons_self

theorem jobs_storeWith (hworld : world.Sound) (hnew : job.jobId ∉ world.drawn) :
    (world.storeWith job).jobs = world.store.jobs ++ [(job.jobId, job)] := by
  apply Dict.setItem_of_not_mem
  intro hmem
  obtain ⟨item, hitem, heq⟩ := List.mem_map.1 hmem
  exact hnew (heq ▸ (hworld.store.job item hitem).2)

theorem getJob_create {unlinked : String → Bool} (hworld : world.Sound)
    (hnew : job.jobId ∉ world.drawn)
    (hranks : ∀ other ∈ world.jobsWith job, other.status.isActive = true →
      rank (world.jobsWith job) other < world.store.options.maxHistory)
    (hfound : (world.storeWith job).getJob jobId = some found)
    (hactive : found.status.isActive = true) :
    ((world.storeWith job).trimHistory unlinked).getJob jobId = some found := by
  have hvalues : (world.storeWith job).jobs.valueList = world.jobsWith job := by
    rw [jobs_storeWith hworld hnew]
    exact List.map_append
  have hmem : found ∈ world.jobsWith job := by
    rw [← hvalues]
    exact Dict.mem_valueList_of_getItem hfound
  have hkept : jobId ∈ (world.storeWith job).keptIds := by
    apply mem_keptIds (registered_storeWith hworld) hfound
    rw [hvalues]
    exact hranks found hmem hactive
  rw [getItem_trimHistory, if_pos (Or.inr hkept), hfound]

theorem getJob_storeWith (hworld : world.Sound) (hnew : job.jobId ∉ world.drawn)
    (hfound : world.store.getJob jobId = some found) :
    (world.storeWith job).getJob jobId = some found := by
  have hne : jobId ≠ job.jobId := fun heq => hnew (heq ▸ hworld.store.mem_drawn hfound)
  exact (Dict.getItem_setItem_of_ne _ _ hne).trans hfound

theorem persisted_storeWith (hpersisted : Persisted world.store) :
    Persisted (world.storeWith job) := by
  intro jobId found hfound hactive
  by_cases heq : jobId = job.jobId
  · rw [heq]
    exact Dict.mem_keyList_setItem.2 (Or.inl rfl)
  · have hold : world.store.getJob jobId = some found :=
      (Dict.getItem_setItem_of_ne _ _ heq).symm.trans hfound
    exact Dict.mem_keyList_setItem.2 (Or.inr (hpersisted jobId found hold hactive))

theorem createJob_eq {unlinked : String → Bool} :
    world.store.createJob job true unlinked = (world.storeWith job).trimHistory unlinked := by
  rw [createJob, if_pos rfl]
  rfl

theorem kept_of_create {now other kind : String} {payload : Option (Dict String PyValue)}
    {progress : Option (Dict String ℤ)} {written : Bool} {unlinked : String → Bool}
    (hworld : world.Retained)
    (hretains : world.Retains (.create now other kind payload progress written unlinked))
    (hstep : world.step (.create now other kind payload progress written unlinked) = some next) :
    Kept world next ∧ next.store.getJob other = some (newJob now other kind payload progress) := by
  have hsound := hworld.sound.step hstep
  obtain ⟨rfl, hranks⟩ := hretains
  rw [World.step] at hstep
  split at hstep
  · contradiction
  · next hnew =>
    cases hstep
    rw [createJob_eq] at hsound ⊢
    refine ⟨⟨⟨hsound, ?_, ?_⟩, ?_⟩, ?_⟩
    · exact persisted_trimHistory (persisted_storeWith hworld.persisted)
    · rw [options_trimHistory]
      exact length_trimHistory (registered_storeWith hworld.sound)
    · intro jobId job hjob hactive
      exact ⟨job, getJob_create hworld.sound hnew hranks
        (getJob_storeWith hworld.sound hnew hjob) hactive⟩
    · refine getJob_create hworld.sound hnew hranks ?_ rfl
      exact Dict.getItem_setItem_self _ _ _

theorem kept_of_restart {options : StoreOptions} {now : String} {listed : List String}
    {written : String → Bool} (hworld : world.Retained)
    (hretains : world.Retains (.restart options now listed written))
    (hstep : world.step (.restart options now listed written) = some next) : Kept world next := by
  have hsound := hworld.sound.step hstep
  rw [World.step] at hstep
  split at hstep
  · next hlisted =>
    cases hstep
    have hjobs := @Registered.jobs_loadJobs _ _ now options listed written hworld.sound.store
      hlisted.1 hlisted.2
    have hids := @Registered.map_jobId_loadedJobs _ _ now options hworld.sound.store listed
      hlisted.2
    refine ⟨⟨hsound, ?_, ?_⟩, ?_⟩
    · -- no loaded job is active
      intro jobId found hfound hactive
      have hmem := Dict.mem_of_getItem hfound
      rw [hjobs] at hmem
      obtain ⟨loaded, hloaded, heq⟩ := List.mem_map.1 hmem
      obtain ⟨-, rfl⟩ := Prod.mk.inj heq
      obtain ⟨_, _, stored, _, rfl⟩ :=
        Registered.mem_loadedJobs ((List.mem_insertionSort Newer).1 (List.mem_of_mem_take hloaded))
      rw [isActive_interrupted] at hactive
      contradiction
    · rw [hjobs, List.length_map]
      exact List.length_take_le _ _
    · intro jobId job hjob hactive
      obtain ⟨loaded, hloaded, hid, hrank⟩ :=
        hretains job (Dict.mem_valueList_of_getItem hjob) hactive
      refine ⟨loaded, Dict.getItem_of_mem hsound.store.distinct ?_⟩
      rw [hjobs, ← hworld.sound.store.jobId_eq hjob, ← hid]
      apply List.mem_map_of_mem
      refine (mem_take_iff hloaded ?_).2 hrank
      rw [hids]
      exact hlisted.1
  · contradiction

theorem kept_step (hworld : world.Retained) (hretains : world.Retains operation)
    (hstep : world.step operation = some next) : Kept world next := by
  rcases local_or operation with hlocal | ⟨_, _, _, _, _, _, _, rfl⟩ | ⟨_, _, _, _, rfl⟩
  · exact kept_of_local hworld hlocal hstep
  · exact (kept_of_create hworld hretains hstep).1
  · exact kept_of_restart hworld hretains hstep

/-! ## Runs -/

theorem retained_fresh (options : StoreOptions) : (fresh options).Retained where
  sound := sound_fresh options
  persisted := nofun
  bounded := Nat.zero_le _

theorem Retained.run (hworld : world.Retained)
    (hrun : StepRun World.step Retains world operations last) : last.Retained :=
  hrun.invariant Retained
    (fun _ _ _ hstate hretains hstep => (kept_step hstate hretains hstep).retained) hworld

/-- The job has been found final in a state of the run. -/
def BecomesFinal (jobId : String) (first : World) (operations : List Operation) : Prop :=
  ∃ earlier later middle, operations = earlier ++ later ∧
    StepRun World.step Retains first earlier middle ∧
      ∃ job, middle.store.getJob jobId = some job ∧ job.status.isActive = false

def FoundActive (jobId : String) (world : World) : Prop :=
  (∃ job, world.store.getJob jobId = some job ∧ job.status.isActive = true) ∧
    jobId ∈ world.store.files.keyList

theorem active_until_final (hworld : world.Retained)
    (hrun : StepRun World.step Retains world operations last)
    (hjob : world.store.getJob jobId = some job) (hactive : job.status.isActive = true) :
    FoundActive jobId last ∨ BecomesFinal jobId world operations := by
  induction hrun generalizing job with
  | done state => exact .inl ⟨⟨job, hjob, hactive⟩, hworld.persisted jobId job hjob hactive⟩
  | act hretains hstep hrest ih =>
    have hkept := kept_step hworld hretains hstep
    obtain ⟨found, hfound⟩ := hkept.found jobId job hjob hactive
    by_cases hstill : found.status.isActive = true
    · rcases ih hkept.retained hfound hstill with hlast | hfinal
      · exact .inl hlast
      · obtain ⟨earlier, later, middle, rfl, hmiddle, hsettled⟩ := hfinal
        exact .inr ⟨_ :: earlier, later, middle, rfl, .act hretains hstep hmiddle, hsettled⟩
    · exact .inr ⟨[_], _, _, rfl, .act hretains hstep (.done _), found, hfound,
        Bool.eq_false_iff.2 hstill⟩

end Steps

/-- In a run that retains its active jobs, an active job is found with its file until it is final,
the job of the last creation is found, and no more jobs are kept than the history holds. -/
theorem retained_of_run {options : StoreOptions} {before operations : List Operation}
    {middle last : World}
    (hbefore : StepRun World.step Retains (fresh options) before middle)
    (hrun : StepRun World.step Retains middle operations last) :
    (∀ jobId job, middle.store.getJob jobId = some job → job.status.isActive = true →
        FoundActive jobId middle ∧
          (FoundActive jobId last ∨ BecomesFinal jobId middle operations)) ∧
      (∀ now jobId kind payload progress written unlinked next,
        Retains last (.create now jobId kind payload progress written unlinked) →
        last.step (.create now jobId kind payload progress written unlinked) = some next →
        next.store.getJob jobId = some (newJob now jobId kind payload progress) ∧
          jobId ∈ next.store.files.keyList) ∧
      last.store.jobs.length ≤ last.store.options.maxHistory := by
  have hmiddle := (retained_fresh options).run hbefore
  have hlast := hmiddle.run hrun
  refine ⟨?_, ?_, hlast.bounded⟩
  · intro jobId job hjob hactive
    exact ⟨⟨⟨job, hjob, hactive⟩, hmiddle.persisted jobId job hjob hactive⟩,
      active_until_final hmiddle hrun hjob hactive⟩
  · intro now jobId kind payload progress written unlinked next hretains hstep
    obtain ⟨hkept, hfound⟩ := kept_of_create hlast hretains hstep
    exact ⟨hfound, hkept.retained.persisted jobId _ hfound rfl⟩

/-- The write of a new job succeeds. -/
def Writes : Operation → Prop
  | .create _ _ _ _ _ written _ => written = true
  | _ => True

def creation (now jobId : String) : Operation :=
  .create now jobId "demo" none none true fun _ => true

def creations : List Operation :=
  [creation "2026-01-01T00:00:00Z" "long", creation "2026-01-01T00:00:01Z" "short"]

def createdWorld : World :=
  stateAfter World.step (fresh (.ofArguments 1000 2 "")) creations

theorem retained_of_created :
    (∀ jobId job, createdWorld.store.getJob jobId = some job → job.status.isActive = true →
        FoundActive jobId createdWorld ∧
          (FoundActive jobId createdWorld ∨ BecomesFinal jobId createdWorld [])) ∧
      (∀ now jobId kind payload progress written unlinked next,
        Retains createdWorld (.create now jobId kind payload progress written unlinked) →
        createdWorld.step (.create now jobId kind payload progress written unlinked) = some next →
        next.store.getJob jobId = some (newJob now jobId kind payload progress) ∧
          jobId ∈ next.store.files.keyList) ∧
      createdWorld.store.jobs.length ≤ createdWorld.store.options.maxHistory := by
  have hlong : Retains (fresh (.ofArguments 1000 2 "")) (creation "2026-01-01T00:00:00Z" "long") := by
    refine ⟨rfl, fun job hjob _ => ?_⟩
    obtain rfl := List.mem_singleton.1 hjob
    decide
  have hshort : Retains (stateAfter World.step (fresh (.ofArguments 1000 2 "")) (creations.take 1))
      (creation "2026-01-01T00:00:01Z" "short") := by
    refine ⟨rfl, fun job hjob _ => ?_⟩
    rcases List.mem_cons.1 hjob with rfl | hjob
    · decide
    · obtain rfl := List.mem_singleton.1 hjob
      decide
  exact retained_of_run (.act hlong rfl (.act hshort rfl (.done _))) (.done _)

/-- In one second a new job is dropped by its own creation, and jobs that are newer drop one that
runs. -/
theorem active_dropped :
    (¬ ∀ (options : StoreOptions) (before : List Operation) (world next : World)
        (now jobId kind : String) (payload : Option (Dict String PyValue))
        (progress : Option (Dict String ℤ)) (unlinked : String → Bool),
      StepRun World.step (fun _ operation => Writes operation) (fresh options) before world →
      world.step (.create now jobId kind payload progress true unlinked) = some next →
      next.store.getJob jobId = some (newJob now jobId kind payload progress)) ∧
    ¬ ∀ (options : StoreOptions) (before after : List Operation) (world last : World),
      StepRun World.step (fun _ operation => Writes operation) (fresh options) before world →
      StepRun World.step (fun _ operation => Writes operation) world after last →
      ∀ jobId job, world.store.getJob jobId = some job → job.status.isActive = true →
        (∃ found, last.store.getJob jobId = some found) ∨
          ∃ earlier later middle, after = earlier ++ later ∧
            StepRun World.step (fun _ operation => Writes operation) world earlier middle ∧
            ∃ found, middle.store.getJob jobId = some found ∧ found.status.isActive = false := by
  constructor
  · intro hclaim
    have hfound := hclaim (.ofArguments 1000 1 "") [creation "2026-01-01T00:00:00Z" "first"] _ _
      "2026-01-01T00:00:00Z" "second" "demo" none none (fun _ => true)
      (.act rfl rfl (.done _)) rfl
    exact absurd (congrArg Option.isSome hfound) (by decide)
  · intro hclaim
    have hkept := hclaim (.ofArguments 1000 1 "") [creation "2026-01-01T00:00:00Z" "long"]
      [creation "2026-01-01T00:00:01Z" "short"] _ _ (.act rfl rfl (.done _))
      (.act rfl rfl (.done _)) "long" _ rfl rfl
    rcases hkept with ⟨found, hfound⟩ | ⟨earlier, later, middle, hsplit, hmiddle, found, hfound, hend⟩
    · exact absurd (hfound.symm.trans (rfl : _ = none)) (Option.some_ne_none found)
    · cases hmiddle with
      | done =>
        cases hfound
        contradiction
      | act hwrites hstep hrest =>
        rw [List.cons_append, List.cons.injEq] at hsplit
        obtain ⟨rfl, hrestSplit⟩ := hsplit
        obtain ⟨rfl, rfl⟩ := List.nil_eq_append_iff.1 hrestSplit
        cases hrest
        cases hstep
        exact absurd (hfound.symm.trans (rfl : _ = none)) (Option.some_ne_none found)

end World

end SignPulse.BackgroundJobs
