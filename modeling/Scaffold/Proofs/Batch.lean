import Scaffold.Proofs.Sequence

/-!
# Batches in any order

A batch whose files `Generator.Admits` is on track after every schedule (`Batch.OnTrack.run`). So
when it is done, whatever the schedule was, each of its jobs returns what the file returns when it
is worked on alone, and the tree is the one that comes of working on the files one after another.
-/

namespace Scaffold

open FileTree

variable {g : Generator} {t₀ t t' : FileTree} {paths : List Place} {b b' : Batch}

namespace Batch

/-! ### Schedules -/

@[simp] theorem run_append (g : Generator) (b : Batch) (first second : List (Nat × Nat)) :
    b.run g (first ++ second) = (b.run g first).run g second := List.foldl_append

/-- A step of one job among others. -/
theorem step_eq (g : Generator) (t : FileTree) (before behind : List Job) (job : Job) (n : Nat) :
    step g ⟨t, before ++ job :: behind⟩ (before.length, n)
      = ⟨(job.step g t n).1, before ++ { job with stage := (job.step g t n).2 } :: behind⟩ := by
  have hget : (before ++ job :: behind)[before.length]? = some job := by simp
  have hset (j : Job) : (before ++ job :: behind).set before.length j = before ++ j :: behind := by
    simp
  simp only [step, hget, hset]

/-- A turn is that of a job, or nothing happens. -/
theorem step_cases (g : Generator) (b : Batch) (turn : Nat × Nat) :
    b.step g turn = b ∨ ∃ before job behind, b.jobs = before ++ job :: behind
      ∧ b.step g turn = ⟨(job.step g b.tree turn.2).1,
          before ++ { job with stage := (job.step g b.tree turn.2).2 } :: behind⟩ := by
  obtain ⟨t, jobs⟩ := b
  obtain ⟨i, n⟩ := turn
  cases hget : jobs[i]? with
  | none => exact .inl (by simp only [step, hget])
  | some job =>
    obtain ⟨before, behind, rfl, rfl⟩ := exists_split_of_getElem? hget
    exact .inr ⟨before, job, behind, rfl, step_eq g t before behind job n⟩

/-- What a job does by itself is a schedule of the batch. -/
theorem exists_run_of_reaches {p : Place} {a c : FileTree × Job.Stage} (h : Job.Reaches g p a c)
    (before behind : List Job) : ∃ schedule,
      run g ⟨a.1, before ++ ⟨p, a.2⟩ :: behind⟩ schedule = ⟨c.1, before ++ ⟨p, c.2⟩ :: behind⟩ := by
  induction h with
  | refl => exact ⟨[], rfl⟩
  | tail _ hstep ih =>
    obtain ⟨schedule, hrun⟩ := ih
    obtain ⟨n, rfl⟩ := hstep
    refine ⟨schedule ++ [(before.length, n)], ?_⟩
    rw [run_append, hrun]
    exact step_eq g _ before behind _ n

/-- What stops the work on one of several files stops them all. -/
theorem returned_generateFiles (g : Generator) (t : FileTree) (p : Place) (rest : List Place) :
    (g.generateFiles t (p :: rest)).returned = (do
      let report ← (g.generateFile t p).returned
      let others ← (g.generateFiles (g.generateFile t p).tree rest).returned
      return report :: others) := by
  rw [Generator.generateFiles]
  generalize g.generateFile t p = first
  generalize g.generateFiles first.tree rest = others
  unfold Aftermath.returned
  cases first.stopped with
  | some interruption => rfl
  | none => cases others.stopped <;> rfl

/-- Working on files one after another is a schedule, at the end of which all jobs are done. -/
theorem exists_run_generateFiles (g : Generator) (t : FileTree) (order : List Place)
    (before : List Job) : ∃ schedule jobs results,
      run g ⟨t, before ++ order.map fun p => { path := p }⟩ schedule
          = ⟨(g.generateFiles t order).tree, before ++ jobs⟩
        ∧ jobs.map Job.path = order ∧ jobs.mapM (Job.result? g) = some results
        ∧ results.mapM id = (g.generateFiles t order).returned := by
  induction order generalizing t before with
  | nil => exact ⟨[], [], [], rfl, rfl, rfl, rfl⟩
  | cons p rest ih =>
    obtain ⟨stage, hreaches, hresult⟩ := Job.reaches_generateFile g t p
    obtain ⟨first, hfirst⟩ :=
      exists_run_of_reaches hreaches before (rest.map fun p => { path := p })
    obtain ⟨others, jobs, results, hothers, hpaths, hresults, hreturned⟩ :=
      ih (g.generateFile t p).tree (before ++ [⟨p, stage⟩])
    refine ⟨first ++ others, ⟨p, stage⟩ :: jobs, (g.generateFile t p).returned :: results, ?_, ?_,
      ?_, ?_⟩
    · rw [run_append, List.map_cons, hfirst]
      simpa [Generator.generateFiles] using hothers
    · rw [List.map_cons, hpaths]
    · simp [hresult, hresults]
    · rw [List.mapM_cons, hreturned, returned_generateFiles]
      rfl

/-! ### The invariant -/

/-- All jobs are on track, and share the tree as their writers do. -/
structure OnTrack (g : Generator) (t₀ : FileTree) (paths : List Place) (b : Batch) : Prop where
  jobs : ∀ job ∈ b.jobs, job.OnTrack g t₀
  within : ∀ job ∈ b.jobs, job.path ∈ paths
  distinct : ((g.drafts t₀ (b.jobs.map Job.path)).map (·.entity)).Nodup
  pool : Pool (g.targets t₀ paths) t₀ b.tree (b.jobs.flatMap Job.writers)

/-- What a writer of a job writes is an artifact of the job's document. -/
theorem exists_artifact_of_mem_writers {job : Job} (hjob : job.OnTrack g t₀) {w : Writer}
    (hw : w ∈ job.writers) : ∃ d, g.draft? t₀ job.path = some d
      ∧ ∃ a ∈ d.artifacts, g.exporter.target d.entity a = w.target := by
  unfold Job.writers at hw
  unfold Job.OnTrack at hjob
  split at hw
  next d writers outcomes hstage =>
    rw [hstage] at hjob
    obtain ⟨hdraft, -, htasks, -⟩ := hjob
    have htask : w.task ∈ d.tasks g := htasks ▸ List.mem_map_of_mem hw
    obtain ⟨a, ha, heq⟩ := List.mem_map.mp htask
    exact ⟨d, hdraft, a, ha, congrArg Prod.fst heq⟩
  next => cases hw

/-- Jobs whose documents have different entities leave each other's modules alone. -/
theorem alone_of_distinct (h : g.Admits t₀ paths) {job : Job} {others : List Job}
    (hpaths : ∀ j ∈ job :: others, j.path ∈ paths) (hothers : ∀ j ∈ others, j.OnTrack g t₀)
    (hdistinct : ((g.drafts t₀ ((job :: others).map Job.path)).map (·.entity)).Nodup) :
    job.Alone g t₀ (others.flatMap Job.writers) := by
  intro d hdraft w hw side
  obtain ⟨j, hj, hwj⟩ := List.mem_flatMap.mp hw
  obtain ⟨d', hdraft', a, ha, heq⟩ := exists_artifact_of_mem_writers (hothers j hj) hwj
  have hd := Job.mem_drafts (hpaths job List.mem_cons_self) hdraft
  have hd' := Job.mem_drafts (hpaths j (List.mem_cons_of_mem _ hj)) hdraft'
  rw [Generator.drafts, List.map_cons, List.filterMap_cons_some hdraft, List.map_cons,
    List.nodup_cons] at hdistinct
  have hne : d.entity ≠ d'.entity := by
    intro hentity
    refine hdistinct.1 (List.mem_map.mpr ⟨d', List.mem_filterMap.mpr ⟨j.path, ?_, hdraft'⟩, ?_⟩)
    · exact List.mem_map_of_mem hj
    · exact hentity.symm
  rw [← heq]
  exact (h.inModules hd').aside h.roots (h.inModules hd).named hne ha side

theorem OnTrack.perm {jobs jobs' : List Job} (hb : OnTrack g t₀ paths ⟨t, jobs⟩)
    (hperm : jobs.Perm jobs') : OnTrack g t₀ paths ⟨t, jobs'⟩ where
  jobs job hjob := hb.jobs job (hperm.mem_iff.mpr hjob)
  within job hjob := hb.within job (hperm.mem_iff.mpr hjob)
  distinct := ((((hperm.map _).filterMap _).map _).nodup_iff).mp hb.distinct
  pool := hb.pool.perm (hperm.flatMap_right _)

theorem onTrack_start (h : g.Admits t₀ paths) {order : List Place} (horder : ∀ p ∈ order, p ∈ paths)
    (hdistinct : ((g.drafts t₀ order).map (·.entity)).Nodup) :
    OnTrack g t₀ paths (start t₀ order) := by
  have hpaths : (order.map fun p => ({ path := p } : Job)).map Job.path = order := by
    rw [List.map_map]
    exact List.map_id _
  have hwriters : (order.map fun p => ({ path := p } : Job)).flatMap Job.writers = [] := by
    simp [Job.writers]
  refine ⟨?_, ?_, ?_, ?_⟩
  · exact List.forall_mem_map.mpr fun p _ => trivial
  · exact List.forall_mem_map.mpr horder
  · rw [start, hpaths]
    exact hdistinct
  · rw [start, hwriters]
    exact Pool.initial h.wellFormed

/-- Every step of every job keeps a batch on track. -/
theorem OnTrack.step (h : g.Admits t₀ paths) (hb : OnTrack g t₀ paths b) (turn : Nat × Nat) :
    OnTrack g t₀ paths (b.step g turn) := by
  rcases step_cases g b turn with heq | ⟨before, job, behind, hjobs, heq⟩
  · rw [heq]
    exact hb
  · obtain ⟨t, jobs⟩ := b
    obtain rfl : jobs = before ++ job :: behind := hjobs
    rw [heq]
    have hfirst := hb.perm List.perm_middle
    refine OnTrack.perm ?_ List.perm_middle.symm
    obtain ⟨hjob, hothers⟩ := List.forall_mem_cons.mp hfirst.jobs
    obtain ⟨hpath, hpaths⟩ := List.forall_mem_cons.mp hfirst.within
    obtain ⟨hjob', hpool'⟩ := hjob.step h hpath
      (alone_of_distinct h hfirst.within hothers hfirst.distinct) hfirst.pool turn.2
    exact ⟨List.forall_mem_cons.mpr ⟨hjob', hothers⟩, List.forall_mem_cons.mpr ⟨hpath, hpaths⟩,
      hfirst.distinct, hpool'⟩

/-- A batch stays on track whatever the schedule is. -/
theorem OnTrack.run (h : g.Admits t₀ paths) (hb : OnTrack g t₀ paths b)
    (schedule : List (Nat × Nat)) : OnTrack g t₀ paths (b.run g schedule) := by
  induction schedule generalizing b with
  | nil => exact hb
  | cons turn rest ih => exact ih (hb.step h turn)

/-! ### Batches that are done -/

@[simp] theorem map_path_step (g : Generator) (b : Batch) (turn : Nat × Nat) :
    (b.step g turn).jobs.map Job.path = b.jobs.map Job.path := by
  rcases step_cases g b turn with heq | ⟨before, job, behind, hjobs, heq⟩
  · rw [heq]
  · rw [heq, hjobs, List.map_append, List.map_append]
    rfl

@[simp] theorem map_path_run (g : Generator) (b : Batch) (schedule : List (Nat × Nat)) :
    (b.run g schedule).jobs.map Job.path = b.jobs.map Job.path := by
  induction schedule generalizing b with
  | nil => rfl
  | cons turn rest ih => exact (ih (b.step g turn)).trans (map_path_step g b turn)

/-- The writers of one job and those of the others. -/
theorem OnTrack.exists_pool (hb : OnTrack g t₀ paths b) {job : Job} (hjob : job ∈ b.jobs) :
    ∃ others, Pool (g.targets t₀ paths) t₀ b.tree (job.writers ++ others) := by
  obtain ⟨before, behind, hjobs⟩ := List.append_of_mem hjob
  have hpool := hb.pool
  rw [hjobs] at hpool
  exact ⟨(before ++ behind).flatMap Job.writers,
    hpool.perm (List.perm_middle.flatMap_right Job.writers)⟩

/-- A job that is done returns what its file returns when it is worked on alone. -/
theorem OnTrack.eq_returned (h : g.Admits t₀ paths) (hb : OnTrack g t₀ paths b) {job : Job}
    (hjob : job ∈ b.jobs) {r : Except Interruption Report} (hresult : job.result? g = some r) :
    r = (g.generateFile t₀ job.path).returned := by
  have hpath := hb.within job hjob
  have hdistinct : ((g.drafts t₀ [job.path]).map (·.entity)).Nodup := by
    rw [Generator.drafts]
    cases hdraft : g.draft? t₀ job.path <;> simp [hdraft]
  obtain ⟨stage, hreaches, halone⟩ := Job.reaches_generateFile g t₀ job.path
  obtain ⟨schedule, hrun⟩ := exists_run_of_reaches hreaches [] []
  have hb' := (onTrack_start h (List.forall_mem_singleton.mpr hpath) hdistinct).run h schedule
  rw [start, List.map_singleton] at hb'
  rw [List.nil_append, List.nil_append] at hrun
  rw [hrun] at hb'
  obtain ⟨others, hpool⟩ := hb.exists_pool hjob
  obtain ⟨others', hpool'⟩ := hb'.exists_pool List.mem_cons_self
  exact ((hb.jobs job hjob).done hresult).unique ((hb'.jobs _ List.mem_cons_self).done halone) rfl
    hpool hpool' |>.2

/-- So do all jobs, in the order of the files. -/
theorem OnTrack.results_eq (h : g.Admits t₀ paths) (hb : OnTrack g t₀ paths b)
    {results : List (Except Interruption Report)} (hresults : b.results? g = some results) :
    results = (b.jobs.map Job.path).map fun p => (g.generateFile t₀ p).returned := by
  rw [List.map_map]
  exact eq_map_of_mapM (fun job hjob r hr => hb.eq_returned h hjob hr) hresults

/-- What the jobs of a batch have written is also written in another one for the same documents. -/
theorem OnTrack.covers (hb : OnTrack g t₀ paths b) (hb' : OnTrack g t₀ paths b')
    (hdone : ∀ job ∈ b.jobs, (job.result? g).isSome)
    (hdone' : ∀ job ∈ b'.jobs, (job.result? g).isSome)
    (hpaths : ∀ p ∈ b.jobs.map Job.path, (g.draft? t₀ p).isSome → p ∈ b'.jobs.map Job.path) :
    Pool.Covers (b.jobs.flatMap Job.writers) (b'.jobs.flatMap Job.writers) := by
  intro w hw
  obtain ⟨job, hjob, hw⟩ := List.mem_flatMap.mp hw
  obtain ⟨d, hdraft, -⟩ := exists_artifact_of_mem_writers (hb.jobs job hjob) hw
  obtain ⟨job', hjob', hpath⟩ := List.mem_map.mp
    (hpaths job.path (List.mem_map_of_mem hjob) (by rw [hdraft]; rfl))
  obtain ⟨r, hr⟩ := Option.isSome_iff_exists.mp (hdone job hjob)
  obtain ⟨r', hr'⟩ := Option.isSome_iff_exists.mp (hdone' job' hjob')
  obtain ⟨others, hpool⟩ := hb.exists_pool hjob
  obtain ⟨others', hpool'⟩ := hb'.exists_pool hjob'
  obtain ⟨htasks, -⟩ := ((hb.jobs job hjob).done hr).unique ((hb'.jobs job' hjob').done hr')
    hpath.symm hpool hpool'
  have htask : w.task ∈ job'.writers.map Writer.task := htasks ▸ List.mem_map_of_mem hw
  obtain ⟨v, hv, heq⟩ := List.mem_map.mp htask
  exact ⟨v, List.mem_flatMap.mpr ⟨job', hjob', hv⟩, congrArg Prod.fst heq, congrArg Prod.snd heq⟩

theorem OnTrack.ended (hb : OnTrack g t₀ paths b)
    (hdone : ∀ job ∈ b.jobs, (job.result? g).isSome) :
    ∀ w ∈ b.jobs.flatMap Job.writers, w.ended?.isSome := by
  intro w hw
  obtain ⟨job, hjob, hw⟩ := List.mem_flatMap.mp hw
  obtain ⟨r, hr⟩ := Option.isSome_iff_exists.mp (hdone job hjob)
  exact ((hb.jobs job hjob).done hr).ended w hw

/-- Two batches for the same documents leave the same tree when they are done. -/
theorem OnTrack.tree_eq (hb : OnTrack g t₀ paths b) (hb' : OnTrack g t₀ paths b')
    (hdone : ∀ job ∈ b.jobs, (job.result? g).isSome)
    (hdone' : ∀ job ∈ b'.jobs, (job.result? g).isSome)
    (hpaths : ∀ p, (g.draft? t₀ p).isSome →
      (p ∈ b.jobs.map Job.path ↔ p ∈ b'.jobs.map Job.path)) : b.tree = b'.tree :=
  hb.pool.eq_of_ended hb'.pool (hb.ended hdone) (hb'.ended hdone')
    (hb.covers hb' hdone hdone' fun p hp hdraft => (hpaths p hdraft).mp hp)
    (hb'.covers hb hdone' hdone fun p hp hdraft => (hpaths p hdraft).mpr hp)

end Batch

end Scaffold
