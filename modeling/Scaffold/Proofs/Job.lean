import Scaffold.Proofs.Draft
import Scaffold.Proofs.ListLemmas

/-!
# What a job does

A job works on a tree that has changed since the batch began, while other jobs go on changing it.
When no schema file is overwritten and no two documents have the same entity (`Generator.Admits`),
it does what it would have done on the first tree: `Job.OnTrack` says so of every stage, and every
step keeps it (`Job.OnTrack.step`), whatever the others have done.
-/

namespace Scaffold

open FileTree

variable {g : Generator} {t₀ t : FileTree} {d : Draft} {job : Job} {paths : List Place}
  {others : List Writer}

/-- What a writer writes, and where. -/
def Writer.task (w : Writer) : Place × ByteArray := (w.target, w.content)

namespace Draft

/-- What is to be written, and where. -/
def tasks (g : Generator) (d : Draft) : List (Place × ByteArray) :=
  d.artifacts.map fun a => (g.exporter.target d.entity a, a.content.toUTF8)

/-- The outcomes of the writers that are done, in the order of the artifacts from a number on. -/
def landed (g : Generator) (d : Draft) (n : Nat) : List Writer → List (Nat × Exporter.Outcome)
  | [] => []
  | w :: rest => (w.ended?.bind (d.outcome g n)).toList ++ landed g d (n + 1) rest

theorem writers_eq (g : Generator) (d : Draft) :
    d.writers g = (d.tasks g).map fun s => .start s.1 s.2 := by
  rw [writers, tasks, List.map_map]
  rfl

@[simp] theorem map_task_writers (g : Generator) (d : Draft) :
    (d.writers g).map Writer.task = d.tasks g := by
  rw [writers, tasks, List.map_map]
  rfl

theorem landed_append (n : Nat) (writers writers' : List Writer) :
    d.landed g n (writers ++ writers')
      = d.landed g n writers ++ d.landed g (n + writers.length) writers' := by
  induction writers generalizing n with
  | nil => rfl
  | cons w rest ih =>
    have hlength : n + (w :: rest).length = n + 1 + rest.length := by simp; omega
    rw [List.cons_append, landed, ih, landed, List.append_assoc, hlength]

/-- No writer is done at the beginning. -/
@[simp] theorem landed_start (n : Nat) (tasks : List (Place × ByteArray)) :
    d.landed g n (tasks.map fun s => .start s.1 s.2) = [] := by
  induction tasks generalizing n with
  | nil => rfl
  | cons s rest ih =>
    rw [List.map_cons, landed, ih]
    rfl

/-- The outcomes have different numbers. -/
theorem sublist_landed (n : Nat) (writers : List Writer) :
    ((d.landed g n writers).map (·.1)).Sublist (List.range' n writers.length) := by
  induction writers generalizing n with
  | nil => exact .slnil
  | cons w rest ih =>
    rw [landed, List.map_append, List.length_cons, List.range'_succ, ← List.singleton_append]
    refine List.Sublist.append ?_ (ih (n + 1))
    cases w.ended? with
    | none => exact List.nil_sublist _
    | some error =>
      rw [Option.bind_some, outcome]
      cases d.artifacts[n]? with
      | none => exact List.nil_sublist _
      | some a => cases error <;> exact List.Sublist.refl _

/-- Of as many writers as there are artifacts, each that is done has an outcome. -/
theorem isSome_outcome {n : Nat} (hn : n < d.artifacts.length) (error : Option FileError) :
    (d.outcome g n error).isSome := by
  rw [outcome, List.getElem?_eq_getElem hn]
  cases error <;> rfl

/-- As many outcomes as writers have come exactly when all writers are done. -/
theorem length_landed_eq_iff {n : Nat} {writers : List Writer}
    (hn : n + writers.length ≤ d.artifacts.length) :
    (d.landed g n writers).length = writers.length ↔ ∀ w ∈ writers, w.ended?.isSome := by
  induction writers generalizing n with
  | nil => simp [landed]
  | cons w rest ih =>
    rw [List.length_cons] at hn
    have hrest := (sublist_landed (g := g) (d := d) (n + 1) rest).length_le
    rw [List.length_map, List.length_range'] at hrest
    rw [landed, List.length_append, List.length_cons, List.forall_mem_cons,
      ← ih (n := n + 1) (by omega)]
    cases w.ended? with
    | none =>
      simp only [Option.bind_none, Option.toList_none, List.length_nil, Option.isSome_none,
        Bool.false_eq_true, false_and, iff_false]
      omega
    | some error =>
      have hone : (d.outcome g n error).toList.length = 1 :=
        Option.length_toList_eq_one_iff.mpr (isSome_outcome (by omega) error)
      simp only [Option.bind_some, hone, Option.isSome_some, true_and]
      omega

/-- All outcomes of a document have come exactly when all its writers are done. -/
theorem length_eq_iff_ended {writers : List Writer} {outcomes : List (Nat × Exporter.Outcome)}
    (htasks : writers.map Writer.task = d.tasks g)
    (houtcomes : outcomes.Perm (d.landed g 0 writers)) :
    outcomes.length = d.artifacts.length ↔ ∀ w ∈ writers, w.ended?.isSome := by
  have hcount : writers.length = d.artifacts.length := by
    have hmap := congrArg List.length htasks
    rwa [List.length_map, tasks, List.length_map] at hmap
  rw [houtcomes.length_eq, ← hcount, length_landed_eq_iff (by omega)]

/-- The outcomes are known from those of the writers. -/
theorem landed_congr {n : Nat} {writers writers' : List Writer}
    (h : writers.map Writer.ended? = writers'.map Writer.ended?) :
    d.landed g n writers = d.landed g n writers' := by
  induction writers generalizing n writers' with
  | nil =>
    rw [List.map_nil, eq_comm, List.map_eq_nil_iff] at h
    rw [h]
  | cons w rest ih =>
    obtain ⟨w', rest', rfl, hw, hrest⟩ := List.map_eq_cons_iff.mp h.symm
    rw [landed, landed, hw, ih hrest.symm]

/-- A report does not depend on the order in which the outcomes came. -/
theorem conclude_perm {outcomes outcomes' : List (Nat × Exporter.Outcome)}
    (hnumbers : (outcomes.map (·.1)).Nodup) (h : outcomes.Perm outcomes') :
    d.conclude g outcomes = d.conclude g outcomes' := by
  rw [conclude, conclude, Exporter.recordsOf_perm hnumbers h, Exporter.errorsOf_perm h]

end Draft

/-! ### Batches that can be worked on -/

namespace Generator

/-- What is exported of the files. -/
def drafts (g : Generator) (t : FileTree) (paths : List Place) : List Draft :=
  paths.filterMap (g.draft? t)

/-- The places of all artifacts of the files. -/
def targets (g : Generator) (t : FileTree) (paths : List Place) : List Place :=
  (g.drafts t paths).flatMap fun d => d.artifacts.map (g.exporter.target d.entity)

/-- Files that can be worked on at the same time: all of them are there, none is at the place of an
artifact, and no two documents that are exported have the same entity. The roots are equal or apart.
No module has a name on its way that is too long for the system, or goes up anywhere. -/
structure Admits (g : Generator) (t : FileTree) (paths : List Place) : Prop where
  themes : g.themes = ThemeTable.builtIn.map ThemeTable.theme
  wellFormed : t.WellFormed
  files : ∀ p ∈ paths, t.isFile p = true
  sources : ∀ p ∈ paths, p.settled ∉ g.targets t paths
  distinct : ((g.drafts t paths).map (·.entity)).Nodup
  roots : g.settings.HasApartRoots
  short : ∀ d ∈ g.drafts t paths, ∀ side, (g.exporter.modulePlace d.entity side).IsShort

namespace Admits

variable (h : g.Admits t₀ paths)

include h

theorem inModules (hd : d ∈ g.drafts t₀ paths) : g.exporter.InModules d.entity d.artifacts := by
  obtain ⟨p, -, hp⟩ := List.mem_filterMap.mp hd
  exact inModules_of_draft? h.themes hp

omit h in
theorem mem_targets {a : Artifact} (hd : d ∈ g.drafts t₀ paths) (ha : a ∈ d.artifacts) :
    g.exporter.target d.entity a ∈ g.targets t₀ paths :=
  List.mem_flatMap.mpr ⟨d, hd, List.mem_map_of_mem ha⟩

/-- The artifacts of all files can be written at the same time. -/
theorem territory : Territory (g.targets t₀ paths) := by
  have hterritory := Exporter.territory_targets (x := g.exporter)
    ((g.drafts t₀ paths).map fun d => (d.entity, d.artifacts)) h.roots
    (List.forall_mem_map.mpr fun d hd => h.inModules hd)
    (List.forall_mem_map.mpr fun d hd => h.short d hd)
  rwa [List.flatMap_map] at hterritory

/-- While a batch is worked on, its files are loaded as they were at the beginning. -/
theorem load_eq (hpool : Pool (g.targets t₀ paths) t₀ t others) {p : Place} (hp : p ∈ paths) :
    Source.load t p = Source.load t₀ p := by
  have hfile := h.files p hp
  rw [isFile, read?] at hfile
  split at hfile
  next content hstat =>
    have hfind := stat?_eq_some.mp hstat
    rw [Source.load, Source.load, hpool.find_file hfind (h.sources p hp), hfind]
  next => cases hfile

/-- The modules of an entity look as they did at the beginning, as long as no writer is in them. -/
theorem sameModules (hpool : Pool (g.targets t₀ paths) t₀ t others) (hd : d ∈ g.drafts t₀ paths)
    (haside : ∀ w ∈ others, ∀ side, ¬g.exporter.modulePlace d.entity side <+: w.target
      ∧ ¬w.target.parent <+: g.exporter.modulePlace d.entity side) :
    g.exporter.SameModules d.entity t t₀ := fun side =>
  hpool.contains_eq h.wellFormed (h.short d hd side) fun w hw => haside w hw side

end Admits

/-- How the work on a file goes on behind the look at its modules. -/
def course (g : Generator) (t : FileTree) (p : Place) : Job.Stage :=
  match g.draft? t p with
  | none => .ended (g.generateFile t p).returned
  | some d => d.check g t

end Generator

namespace Job

/-- The writers of a job. -/
def writers (job : Job) : List Writer :=
  match job.stage with
  | .writing _ writers _ => writers
  | _ => []

/-- A job has come to a stage to which it would have come on the first tree. -/
def OnTrack (g : Generator) (t₀ : FileTree) (job : Job) : Prop :=
  match job.stage with
  | .waiting => True
  | .checking d => g.draft? t₀ job.path = some d
  | .writing d writers outcomes =>
    g.draft? t₀ job.path = some d ∧ g.course t₀ job.path = .writing d (d.writers g) []
      ∧ writers.map Writer.task = d.tasks g ∧ outcomes.Perm (d.landed g 0 writers)
  | .ended result => g.course t₀ job.path = .ended result

/-- A step of one writer among others. -/
theorem write_eq {before behind : List Writer} {w : Writer} (hended : w.ended? = none)
    (outcomes : List (Nat × Exporter.Outcome)) :
    write g t before.length d (before ++ w :: behind) outcomes
      = ((w.step t).1, .writing d (before ++ { w with stage := (w.step t).2 } :: behind)
          (outcomes ++ ((Writer.ended? { w with stage := (w.step t).2 }).bind
            (d.outcome g before.length)).toList)) := by
  have hget : (before ++ w :: behind)[before.length]? = some w := by simp
  have hset (v : Writer) : (before ++ w :: behind).set before.length v = before ++ v :: behind := by
    simp
  simp only [write, hget, hended, hset]

/-- The others write neither at the modules of a job's document, nor above or below them. -/
def Alone (g : Generator) (t₀ : FileTree) (job : Job) (others : List Writer) : Prop :=
  ∀ d, g.draft? t₀ job.path = some d → ∀ w ∈ others, ∀ side,
    ¬g.exporter.modulePlace d.entity side <+: w.target
      ∧ ¬w.target.parent <+: g.exporter.modulePlace d.entity side

section step

variable (h : g.Admits t₀ paths) (hpath : job.path ∈ paths)

include h hpath

omit h in
theorem mem_drafts (hdraft : g.draft? t₀ job.path = some d) : d ∈ g.drafts t₀ paths :=
  List.mem_filterMap.mpr ⟨_, hpath, hdraft⟩

/-- A job that loads its file finds what was in it at the beginning. -/
theorem onTrack_begin (hpool : Pool (g.targets t₀ paths) t₀ t others) :
    OnTrack g t₀ { job with stage := begin g t job.path }
      ∧ writers { job with stage := begin g t job.path } = [] := by
  have hload := h.load_eq hpool hpath
  rw [begin, Generator.draft?_congr hload]
  cases hdraft : g.draft? t₀ job.path with
  | some d => exact ⟨hdraft, rfl⟩
  | none =>
    refine ⟨?_, rfl⟩
    show g.course t₀ job.path = .ended (g.generateFile t job.path).returned
    rw [Generator.course, hdraft, Generator.generateFile_of_no_draft hdraft hload.symm]
    rfl

/-- A job that looks for the modules of its document sees them as they were at the beginning. -/
theorem onTrack_check (hdraft : g.draft? t₀ job.path = some d) (halone : job.Alone g t₀ others)
    (hpool : Pool (g.targets t₀ paths) t₀ t others) :
    OnTrack g t₀ { job with stage := d.check g t }
      ∧ Pool (g.targets t₀ paths) t₀ t (writers { job with stage := d.check g t } ++ others) := by
  have hd := mem_drafts hpath hdraft
  have hcourse : g.course t₀ job.path = d.check g t := by
    rw [Generator.course, hdraft, Draft.check_congr (h.sameModules hpool hd (halone d hdraft))]
  rcases d.check_cases g t with ⟨r, hcheck⟩ | hcheck <;> rw [hcheck] at hcourse ⊢
  · exact ⟨hcourse, hpool⟩
  · refine ⟨⟨hdraft, hcourse, d.map_task_writers g, by rw [d.writers_eq g, d.landed_start]⟩, ?_⟩
    show Pool (g.targets t₀ paths) t₀ t (d.writers g ++ others)
    rw [d.writers_eq g]
    have hmodules := h.inModules hd
    refine hpool.join (List.forall_mem_map.mpr fun a ha => Generator.Admits.mem_targets hd ha) ?_
      (List.forall_mem_map.mpr fun a ha w hw heq => ?_)
    · rw [Draft.tasks, List.map_map]
      exact hmodules.nodup
    · -- the place would be in a module
      have hmodule := (hmodules.modulePlace_prefix_parent ha).trans (Place.parent_prefix _)
      exact (halone d hdraft w hw a.side).1 (heq ▸ hmodule)

omit hpath in
/-- A step of a writer keeps its job on track. -/
theorem onTrack_write {writers : List Writer} {outcomes : List (Nat × Exporter.Outcome)}
    (hstage : job.stage = .writing d writers outcomes) (hjob : job.OnTrack g t₀)
    (hpool : Pool (g.targets t₀ paths) t₀ t (writers ++ others)) (n : Nat) :
    let next := write g t n d writers outcomes
    OnTrack g t₀ { job with stage := next.2 }
      ∧ Pool (g.targets t₀ paths) t₀ next.1
        (Job.writers { job with stage := next.2 } ++ others) := by
  rw [OnTrack, hstage] at hjob
  obtain ⟨hdraft, hcourse, htasks, houtcomes⟩ := hjob
  cases hw : writers[n]? with
  | none =>
    rw [write, hw]
    exact ⟨⟨hdraft, hcourse, htasks, houtcomes⟩, hpool⟩
  | some w =>
    cases hended : w.ended? with
    | some error =>
      simp only [write, hw, hended]
      exact ⟨⟨hdraft, hcourse, htasks, houtcomes⟩, hpool⟩
    | none =>
      obtain ⟨before, behind, rfl, rfl⟩ := exists_split_of_getElem? hw
      rw [write_eq hended]
      set w' : Writer := { w with stage := (w.step t).2 }
      have hfirst (v : Writer) : (before ++ v :: behind ++ others).Perm
          (v :: (before ++ behind ++ others)) := by
        rw [List.append_assoc, List.cons_append, List.append_assoc]
        exact List.perm_middle
      refine ⟨⟨hdraft, hcourse, ?_, ?_⟩, ?_⟩
      · rw [← htasks, List.map_append, List.map_append]
        rfl
      · -- only this writer can have come to its end
        rw [Draft.landed_append, Draft.landed, Nat.zero_add] at houtcomes ⊢
        rw [hended] at houtcomes
        refine (houtcomes.append_right _).trans ?_
        simp only [Option.bind_none, Option.toList_none, List.nil_append, List.append_assoc]
        exact (List.perm_append_comm).append_left _
      · exact ((hpool.perm (hfirst w)).step h.territory).perm (hfirst w').symm

/-- Whatever the others have done, every step of a job keeps it on track. -/
theorem OnTrack.step (hjob : job.OnTrack g t₀) (halone : job.Alone g t₀ others)
    (hpool : Pool (g.targets t₀ paths) t₀ t (job.writers ++ others)) (n : Nat) :
    let next := job.step g t n
    OnTrack g t₀ { job with stage := next.2 }
      ∧ Pool (g.targets t₀ paths) t₀ next.1 (writers { job with stage := next.2 } ++ others) := by
  -- one lemma for each stage; a job that has ended stays as it is
  cases hstage : job.stage with
  | waiting =>
    rw [writers, hstage] at hpool
    obtain ⟨htrack, hnone⟩ := onTrack_begin h hpath hpool
    rw [Job.step, hstage]
    refine ⟨htrack, ?_⟩
    rw [hnone]
    exact hpool
  | checking d =>
    rw [OnTrack, hstage] at hjob
    rw [writers, hstage] at hpool
    rw [Job.step, hstage]
    exact onTrack_check h hpath hjob halone hpool
  | writing d writers outcomes =>
    rw [Job.writers, hstage] at hpool
    rw [Job.step, hstage]
    exact onTrack_write h hstage hjob hpool n
  | ended result =>
    rw [writers, hstage] at hpool
    rw [OnTrack, hstage] at hjob
    rw [Job.step, hstage]
    exact ⟨hjob, hpool⟩

end step

/-! ### Jobs that are done -/

/-- What a job has done and returns, when it is done. -/
structure Done (g : Generator) (t₀ : FileTree) (job : Job) (r : Except Interruption Report) :
    Prop where
  ended : ∀ w ∈ job.writers, w.ended?.isSome
  course : g.course t₀ job.path = .ended r ∧ job.writers = []
    ∨ ∃ d outcomes, g.course t₀ job.path = .writing d (d.writers g) []
      ∧ job.writers.map Writer.task = d.tasks g ∧ outcomes.Perm (d.landed g 0 job.writers)
      ∧ r = d.conclude g outcomes

theorem OnTrack.done {r : Except Interruption Report} (hjob : job.OnTrack g t₀)
    (hresult : job.result? g = some r) : job.Done g t₀ r := by
  unfold OnTrack at hjob
  unfold result? at hresult
  -- a job has a result once it is ended or all its writers are
  cases hstage : job.stage with
  | waiting =>
    rw [hstage] at hresult
    cases hresult
  | checking d =>
    rw [hstage] at hresult
    cases hresult
  | writing d ws outcomes =>
    rw [hstage] at hjob hresult
    dsimp only at hresult
    split at hresult <;> cases hresult
    next hlength =>
      obtain ⟨-, hcourse, htasks, houtcomes⟩ := hjob
      have hwriters : job.writers = ws := by rw [writers, hstage]
      exact ⟨hwriters ▸ (Draft.length_eq_iff_ended htasks houtcomes).mp hlength,
        .inr ⟨d, outcomes, hcourse, hwriters ▸ htasks, hwriters ▸ houtcomes, rfl⟩⟩
  | ended result =>
    rw [hstage] at hjob hresult
    cases hresult
    have hwriters : job.writers = [] := by rw [writers, hstage]
    exact ⟨by rw [hwriters]; nofun, .inl ⟨hjob, hwriters⟩⟩

/-- The writers of a job that is done have come to what the first tree let them come to. -/
theorem Done.map_ended? {r : Except Interruption Report} (hdone : job.Done g t₀ r)
    {places : List Place} (hpool : Pool places t₀ t (job.writers ++ others)) :
    job.writers.map Writer.ended?
      = (job.writers.map Writer.task).map fun s => some (t₀.writeFault? s.1) := by
  rw [List.map_map]
  refine List.map_congr_left fun w hw => ?_
  exact (hpool.sound_ended (List.mem_append_left _ hw) (hdone.ended w hw)).1

/-- Two jobs for one file that are done have written the same and return the same, whatever the
others were doing. -/
theorem Done.unique {job' : Job} {r r' : Except Interruption Report} {others' : List Writer}
    {t' : FileTree} {places : List Place} (hdone : job.Done g t₀ r) (hdone' : job'.Done g t₀ r')
    (hpath : job.path = job'.path) (hpool : Pool places t₀ t (job.writers ++ others))
    (hpool' : Pool places t₀ t' (job'.writers ++ others')) :
    job.writers.map Writer.task = job'.writers.map Writer.task ∧ r = r' := by
  -- the file decides the course of a job, and the order of the outcomes does not count
  have hcourse := hdone.course
  rw [hpath] at hcourse
  rcases hcourse with ⟨hended, hnone⟩ | ⟨d, outcomes, hwriting, htasks, houtcomes, rfl⟩ <;>
    rcases hdone'.course with
      ⟨hended', hnone'⟩ | ⟨d', outcomes', hwriting', htasks', houtcomes', rfl⟩
  · cases hended.symm.trans hended'
    rw [hnone, hnone']
    exact ⟨rfl, rfl⟩
  · cases hended.symm.trans hwriting'
  · cases hwriting.symm.trans hended'
  · obtain rfl : d = d' := by
      cases hwriting.symm.trans hwriting'
      rfl
    have hsame := htasks.trans htasks'.symm
    refine ⟨hsame, ?_⟩
    have hlanded : d.landed g 0 job.writers = d.landed g 0 job'.writers := by
      refine Draft.landed_congr ?_
      rw [hdone.map_ended? hpool, hdone'.map_ended? hpool', hsame]
    rw [← hlanded] at houtcomes'
    refine Draft.conclude_perm ?_ (houtcomes.trans houtcomes'.symm)
    exact (houtcomes.map _).nodup_iff.mpr ((Draft.sublist_landed 0 _).nodup List.nodup_range')

end Job

end Scaffold
