import SignPulse.Backend.JobStores

/-!
# Final jobs

When the outcome of a job that is final stays as it is, and the job of a task that has ended is
final.
-/

namespace SignPulse.BackgroundJobs

open Foundation

/-- The status, the results and the error are the same. -/
structure SameOutcome (job other : Job) : Prop where
  status : other.status = job.status
  results : other.results = job.results
  error : other.error = job.error

theorem SameOutcome.refl (job : Job) : SameOutcome job job :=
  ⟨rfl, rfl, rfl⟩

theorem SameOutcome.trans {job other last : Job} (hfirst : SameOutcome job other)
    (hsecond : SameOutcome other last) : SameOutcome job last :=
  ⟨hsecond.status.trans hfirst.status, hsecond.results.trans hfirst.results,
    hsecond.error.trans hfirst.error⟩

section Changes

variable {options : StoreOptions} {now level message error : String} {ref : Option String}
variable {job : Job} {done total : Option ℤ} {extra : Dict String ℤ}
variable {summary : Option (Dict String PyValue)} {results : Option (List (Dict String PyValue))}

theorem sameOutcome_withLog (options : StoreOptions) (now level message : String)
    (ref : Option String) (job : Job) : SameOutcome job (job.withLog options now level message ref) :=
  ⟨rfl, rfl, rfl⟩

theorem sameOutcome_withProgress (now : String) (done total : Option ℤ) (extra : Dict String ℤ)
    (job : Job) : SameOutcome job (job.withProgress now done total extra) :=
  ⟨rfl, rfl, rfl⟩

theorem sameOutcome_completed_iff (hfinal : job.status.isActive = false) :
    SameOutcome job (job.completed options now summary results) ↔
      job.status = .completed ∧ results.getD job.results = job.results := by
  have hstatus : (job.completed options now summary results).status = .completed := by
    have hne : job.status ≠ .canceling := by
      intro heq
      rw [heq] at hfinal
      contradiction
    exact if_neg hne
  constructor
  · intro hsame
    exact ⟨hsame.status.symm.trans hstatus, hsame.results⟩
  · rintro ⟨hcompleted, hresults⟩
    exact ⟨hstatus.trans hcompleted.symm, hresults, rfl⟩

theorem sameOutcome_failed_iff : SameOutcome job (job.failed options now error) ↔
      job.status = .failed ∧ job.error = some (textOr error "unknown error") := by
  constructor
  · intro hsame
    exact ⟨hsame.status.symm, hsame.error.symm⟩
  · rintro ⟨hfailed, herror⟩
    exact ⟨hfailed.symm, rfl, herror.symm⟩

end Changes

namespace World

open BackgroundJobStore

def Orderly (world : World) : Operation → Prop
  | .markCompleted _ jobId _ results _ => ∀ job, world.store.getJob jobId = some job →
      job.status.isActive = true ∨ job.status = .completed ∧ results.getD job.results = job.results
  | .markFailed _ jobId error _ => ∀ job, world.store.getJob jobId = some job →
      job.status.isActive = true ∨
        job.status = .failed ∧ job.error = some (textOr error "unknown error")
  | .callback _ task jobId _ => world.ended.getItem task = some .returned →
      ∀ job, world.store.getJob jobId = some job → job.status.isActive = false
  | .restart .. => False
  | _ => True

section Steps

variable {world next last : World} {operation : Operation} {operations : List Operation}
variable {jobId now : String} {job found : Job} {task : ℕ} {written : Bool}

theorem sameOutcome_change (horderly : world.Orderly operation)
    (hjob : world.store.getJob jobId = some job) (hfinal : job.status.isActive = false) :
    SameOutcome job (world.change jobId operation job) := by
  cases operation with
  | create now other kind payload progress written unlinked => exact SameOutcome.refl job
  | attach other task => exact SameOutcome.refl job
  | appendLog now other level message ref persist written =>
    simp only [change]
    split
    · exact sameOutcome_withLog _ _ _ _ _ _
    · exact SameOutcome.refl job
  | updateProgress now other done total extra persist written =>
    simp only [change]
    split
    · exact sameOutcome_withProgress _ _ _ _ _
    · exact SameOutcome.refl job
  | requestCancel now other cancelRunningTask written =>
    simp only [change]
    split
    · next hrunning =>
      rw [hrunning.2] at hfinal
      contradiction
    · exact SameOutcome.refl job
  | markCompleted now other summary results written =>
    simp only [change]
    split
    · next heq =>
      rcases horderly job (heq ▸ hjob) with hactive | hsaid
      · rw [hfinal] at hactive
        contradiction
      · exact (sameOutcome_completed_iff hfinal).2 hsaid
    · exact SameOutcome.refl job
  | markFailed now other error written =>
    simp only [change]
    split
    · next heq =>
      rcases horderly job (heq ▸ hjob) with hactive | hsaid
      · rw [hfinal] at hactive
        contradiction
      · exact sameOutcome_failed_iff.2 hsaid
    · exact SameOutcome.refl job
  | ends task done => exact SameOutcome.refl job
  | callback now task other written =>
    simp only [change]
    split
    · cases world.ended.getItem task with
      | none => exact SameOutcome.refl job
      | some done =>
        dsimp only
        rw [cleaned_of_final hfinal]
        exact SameOutcome.refl job
    · exact SameOutcome.refl job
  | restart options now listed written => exact SameOutcome.refl job

theorem exists_before (horderly : world.Orderly operation)
    (hstep : world.step operation = some next) (hdrawn : jobId ∈ world.drawn)
    (hfound : next.store.getJob jobId = some found) :
    ∃ job, world.store.getJob jobId = some job ∧
      (job.status.isActive = false → SameOutcome job found) := by
  rcases local_or operation with hlocal | ⟨_, other, _, _, _, _, _, rfl⟩ | ⟨_, _, _, _, rfl⟩
  · rw [getJob_of_local hlocal hstep jobId] at hfound
    obtain ⟨job, hjob, rfl⟩ := Option.map_eq_some_iff.1 hfound
    exact ⟨job, hjob, sameOutcome_change horderly hjob⟩
  · rw [World.step] at hstep
    split at hstep
    · contradiction
    · next hnew =>
      cases hstep
      have hne : jobId ≠ other := fun heq => hnew (heq ▸ hdrawn)
      rcases @getItem_createJob world.store jobId (newJob _ other _ _ _) _ _ hne with hkept | hgone
      · exact ⟨found, hkept.symm.trans hfound, fun _ => SameOutcome.refl found⟩
      · rw [hgone] at hfound
        contradiction
  · exact horderly.elim

theorem drawn_step (hstep : world.step operation = some next) (hdrawn : jobId ∈ world.drawn) :
    jobId ∈ next.drawn := by
  cases operation with
  | create now other kind payload progress written unlinked =>
    rw [World.step] at hstep
    split at hstep
    · contradiction
    · cases hstep
      exact List.mem_cons_of_mem other hdrawn
  | attach other task =>
    rw [World.step] at hstep
    split at hstep
    · cases hstep
      exact hdrawn
    · contradiction
  | appendLog => obtain rfl := Option.some.inj hstep; exact hdrawn
  | updateProgress => obtain rfl := Option.some.inj hstep; exact hdrawn
  | requestCancel => obtain rfl := Option.some.inj hstep; exact hdrawn
  | markCompleted => obtain rfl := Option.some.inj hstep; exact hdrawn
  | markFailed => obtain rfl := Option.some.inj hstep; exact hdrawn
  | ends task done =>
    rw [World.step] at hstep
    split at hstep
    · contradiction
    · cases hstep
      exact hdrawn
  | callback now task other written =>
    rw [World.step] at hstep
    split at hstep
    · obtain ⟨done, _, rfl⟩ := Option.map_eq_some_iff.1 hstep
      exact hdrawn
    · contradiction
  | restart options now listed written =>
    rw [World.step] at hstep
    split at hstep
    · cases hstep
      exact hdrawn
    · contradiction

/-! ## Runs -/

def Settled (jobId : String) (Outcome : Job → Prop) (world : World) : Prop :=
  jobId ∈ world.drawn ∧ ∀ job, world.store.getJob jobId = some job →
    job.status.isActive = false ∧ Outcome job

section

variable {Outcome : Job → Prop}
  (hkeep : ∀ job other, Outcome job → SameOutcome job other → Outcome other)
  (hsettled : Settled jobId Outcome world)

include hkeep hsettled

theorem Settled.step (horderly : world.Orderly operation)
    (hstep : world.step operation = some next) : Settled jobId Outcome next := by
  refine ⟨drawn_step hstep hsettled.1, fun found hfound => ?_⟩
  obtain ⟨job, hjob, hsame⟩ := exists_before horderly hstep hsettled.1 hfound
  obtain ⟨hfinal, houtcome⟩ := hsettled.2 job hjob
  have hkept := hsame hfinal
  exact ⟨by rw [hkept.status, hfinal], hkeep job found houtcome hkept⟩

theorem Settled.run (hrun : StepRun World.step World.Orderly world operations last) :
    Settled jobId Outcome last :=
  hrun.invariant (Settled jobId Outcome)
    (fun _ _ _ hold horderly hstep => hold.step hkeep horderly hstep) hsettled

end

theorem settled_callback (hsound : world.Sound)
    (horderly : world.Orderly (.callback now task jobId written))
    (hstep : world.step (.callback now task jobId written) = some next) :
    Settled jobId (fun _ => True) next := by
  have hlocal : Local (.callback now task jobId written) := trivial
  have hjobs := getJob_of_local hlocal hstep jobId
  rw [World.step] at hstep
  split at hstep
  · next hmem =>
    obtain ⟨done, hdone, rfl⟩ := Option.map_eq_some_iff.1 hstep
    refine ⟨hsound.callback _ hmem, fun found hfound => ⟨?_, trivial⟩⟩
    rw [hjobs] at hfound
    obtain ⟨job, hjob, rfl⟩ := Option.map_eq_some_iff.1 hfound
    unfold change
    dsimp only
    rw [if_pos rfl, hdone]
    apply isActive_cleaned
    rintro rfl
    exact horderly hdone job hjob
  · contradiction

theorem settled_of_callback_mem (hsound : world.Sound)
    (hrun : StepRun World.step World.Orderly world operations last)
    (hmem : Operation.callback now task jobId written ∈ operations) :
    Settled jobId (fun _ => True) last := by
  induction hrun with
  | done => exact absurd hmem List.not_mem_nil
  | act horderly hstep hrest ih =>
    rcases List.mem_cons.1 hmem with rfl | hlater
    · exact (settled_callback hsound horderly hstep).run (fun _ _ _ _ => trivial) hrest
    · exact ih (hsound.step hstep) hlater

end Steps

/-- From any state that a store can reach, as long as marks meet active jobs or say what the job
says already, and a task that returns has marked its job: a final job keeps its status, results
and error, and a job is final after the done callback of its task. -/
theorem outcome_of_run {options : StoreOptions} {before after : List Operation}
    {middle last : World}
    (hbefore : StepRun World.step (fun _ _ => True) (fresh options) before middle)
    (hafter : StepRun World.step World.Orderly middle after last) :
    (∀ jobId job, middle.store.getJob jobId = some job → job.status.isActive = false →
        ∀ found, last.store.getJob jobId = some found → SameOutcome job found) ∧
      ∀ now task jobId written, Operation.callback now task jobId written ∈ after →
        ∀ found, last.store.getJob jobId = some found → found.status.isActive = false := by
  have hsound := (sound_fresh options).run hbefore
  constructor
  · intro jobId job hjob hfinal found hfound
    have hsettled : Settled jobId (SameOutcome job) middle := by
      refine ⟨hsound.store.mem_drawn hjob, fun other hother => ?_⟩
      rw [hjob] at hother
      cases hother
      exact ⟨hfinal, SameOutcome.refl job⟩
    exact ((hsettled.run (fun _ _ => SameOutcome.trans) hafter).2 found hfound).2
  · intro now task jobId written hmem found hfound
    exact ((settled_of_callback_mem hsound hafter hmem).2 found hfound).1

/-- A worker that marks its job, and returns. -/
def finished : List Operation :=
  [.create "2026-01-01T00:00:00Z" "job" "demo" none none true fun _ => true, .attach "job" 0,
    .markCompleted "2026-01-01T00:00:05Z" "job" none none true]

def finishedWorld : World :=
  stateAfter World.step (fresh (.ofArguments 1000 50 "")) finished

def callbackRun : List Operation :=
  [.ends 0 .returned, .callback "2026-01-01T00:00:06Z" 0 "job" true]

theorem outcome_of_finished :
    (∀ jobId job, finishedWorld.store.getJob jobId = some job → job.status.isActive = false →
        ∀ found, (stateAfter World.step finishedWorld callbackRun).store.getJob jobId = some found →
          SameOutcome job found) ∧
      ∀ now task jobId written, Operation.callback now task jobId written ∈ callbackRun →
        ∀ found, (stateAfter World.step finishedWorld callbackRun).store.getJob jobId = some found →
          found.status.isActive = false := by
  have hbefore : StepRun World.step (fun _ _ => True) (fresh (.ofArguments 1000 50 "")) finished
      finishedWorld :=
    .act trivial rfl (.act trivial rfl (.act trivial rfl (.done _)))
  have hmarked : (stateAfter World.step finishedWorld [.ends 0 .returned]).Orderly
      (.callback "2026-01-01T00:00:06Z" 0 "job" true) := by
    rintro - job ⟨⟩
    rfl
  exact outcome_of_run hbefore (.act trivial rfl (.act hmarked rfl (.done _)))

def InProcess : Operation → Prop
  | .restart .. => False
  | _ => True

/-- A job that has been completed is failed by a later mark, as when the write of its file has
raised, and a job stays running whose task returns without a mark. -/
theorem outcome_overwritten :
    (¬ ∀ (options : StoreOptions) (before after : List Operation) (middle last : World),
      StepRun World.step (fun _ _ => True) (fresh options) before middle →
      StepRun World.step (fun _ operation => InProcess operation) middle after last →
      ∀ jobId job, middle.store.getJob jobId = some job → job.status.isActive = false →
        ∀ found, last.store.getJob jobId = some found → SameOutcome job found) ∧
    ¬ ∀ (options : StoreOptions) (before after : List Operation) (middle last : World),
      StepRun World.step (fun _ _ => True) (fresh options) before middle →
      StepRun World.step (fun _ operation => InProcess operation) middle after last →
      ∀ now task jobId written, Operation.callback now task jobId written ∈ after →
        ∀ found, last.store.getJob jobId = some found → found.status.isActive = false := by
  constructor
  · intro hclaim
    have hsame := hclaim (.ofArguments 1000 50 "") finished
      [.markFailed "2026-01-01T00:00:05Z" "job" "disk full" true] _ _
      (.act trivial rfl (.act trivial rfl (.act trivial rfl (.done _))))
      (.act trivial rfl (.done _)) "job" _ rfl rfl _ rfl
    exact absurd hsame.status (by decide)
  · intro hclaim
    have hfinal := hclaim (.ofArguments 1000 50 "") (finished.take 2)
      [.ends 0 .returned, .callback "2026-01-01T00:00:06Z" 0 "job" true] _ _
      (.act trivial rfl (.act trivial rfl (.done _)))
      (.act trivial rfl (.act trivial rfl (.done _))) _ _ _ _
      (List.mem_cons_of_mem _ List.mem_cons_self) _ rfl
    exact absurd hfinal (by decide)

end World

end SignPulse.BackgroundJobs
