import Mathlib.Algebra.GroupWithZero.Nat
import Mathlib.Data.Nat.Pairing
import Mathlib.Data.Prod.Lex
import Scaffold.Proofs.Batch

/-!
# Batches come to an end

Every turn of a batch leaves it as it is or brings it nearer to its end (`Batch.step_left`), and as
long as it is not done there is a turn that does (`Batch.OnTrack.exists_turn`). So every schedule in
which each turn comes again and again makes all jobs done (`Batch.OnTrack.exists_results`), and what
they then return and leave behind is what the files do one by one (`Batch.runs_as_one_by_one`).
-/

namespace Scaffold

open FileTree

variable {g : Generator} {t₀ t : FileTree} {d : Draft} {paths : List Place} {b : Batch} {job : Job}

namespace Job

/-- The parts of the work on a file that are left in front of the writing. -/
def Stage.ahead : Stage → Nat
  | .waiting => 2
  | .checking _ => 1
  | _ => 0

/-- A bound on the steps that the writers of a job have left. -/
def left (job : Job) : Nat := (job.writers.map fun w => w.stage.left).sum

/-- A step of a job does nothing or brings it nearer to its end. -/
theorem step_left (g : Generator) (t : FileTree) (n : Nat) (job : Job) :
    job.step g t n = (t, job.stage)
      ∨ (job.step g t n).2.ahead < job.stage.ahead
      ∨ (job.step g t n).2.ahead = job.stage.ahead
        ∧ left { job with stage := (job.step g t n).2 } < job.left := by
  obtain ⟨p, stage⟩ := job
  -- a job comes to a later stage, or one of its writers makes a step
  cases stage with
  | waiting =>
    refine .inr (.inl ?_)
    simp only [step, begin]
    split <;> simp [Stage.ahead]
  | checking d =>
    refine .inr (.inl ?_)
    simp only [step]
    rcases d.check_cases g t with ⟨r, hcheck⟩ | hcheck <;> simp [hcheck, Stage.ahead]
  | writing d writers outcomes =>
    simp only [step]
    cases hw : writers[n]? with
    | none => exact .inl (by simp only [write, hw])
    | some w =>
      cases hended : w.ended? with
      | some error => exact .inl (by simp only [write, hw, hended])
      | none =>
        obtain ⟨before, behind, rfl, rfl⟩ := exists_split_of_getElem? hw
        rw [write_eq hended]
        refine .inr (.inr ⟨rfl, ?_⟩)
        have hless := Writer.left_step (t := t) hended
        simp only [left, Job.writers, List.map_append, List.map_cons, List.sum_append,
          List.sum_cons]
        omega
  | ended result => exact .inl rfl

/-- A job that is not done has a step that does something. -/
theorem exists_step (hjob : job.OnTrack g t₀) (hresult : job.result? g = none) (t : FileTree) :
    ∃ n, job.step g t n ≠ (t, job.stage) := by
  obtain ⟨p, stage⟩ := job
  cases stage with
  | waiting =>
    refine ⟨0, fun heq => ?_⟩
    simp only [step, begin] at heq
    split at heq <;> cases heq
  | checking d =>
    refine ⟨0, fun heq => ?_⟩
    simp only [step] at heq
    rcases d.check_cases g t with ⟨r, hcheck⟩ | hcheck <;> rw [hcheck] at heq <;> cases heq
  | writing d writers outcomes =>
    obtain ⟨-, -, htasks, houtcomes⟩ := hjob
    -- some writer is not done, as an outcome is missing
    have hexists : ∃ w ∈ writers, w.ended? = none := by
      by_contra hnone
      have hended : ∀ w ∈ writers, w.ended?.isSome := fun w hw => by
        rw [Option.isSome_iff_ne_none]
        exact fun heq => hnone ⟨w, hw, heq⟩
      have hlength := (Draft.length_eq_iff_ended htasks houtcomes).mpr hended
      rw [result?] at hresult
      simp only [hlength, if_true] at hresult
      cases hresult
    obtain ⟨w, hw, hended⟩ := hexists
    obtain ⟨before, behind, rfl⟩ := List.append_of_mem hw
    refine ⟨before.length, fun heq => ?_⟩
    simp only [step] at heq
    rw [write_eq hended] at heq
    have hless := Writer.left_step (t := t) hended
    simp only [Prod.mk.injEq, Stage.writing.injEq, List.append_cancel_left_eq, List.cons.injEq,
      true_and, and_true] at heq
    rw [show (w.step t).2 = w.stage from congrArg Writer.stage heq.2.1] at hless
    exact absurd hless (Nat.lt_irrefl _)
  | ended result => cases hresult

end Job

namespace Batch

/-- How far a batch is from its end: the parts in front of the writing come first. -/
def left (b : Batch) : Nat ×ₗ Nat :=
  toLex ((b.jobs.map fun job => job.stage.ahead).sum, (b.jobs.map Job.left).sum)

/-- A turn that does something brings a batch nearer to its end. -/
theorem step_left (g : Generator) (b : Batch) (turn : Nat × Nat) :
    b.step g turn = b ∨ (b.step g turn).left < b.left := by
  rcases step_cases g b turn with heq | ⟨before, job, behind, hjobs, heq⟩
  · exact .inl heq
  · obtain ⟨t, jobs⟩ := b
    obtain rfl : jobs = before ++ job :: behind := hjobs
    rw [heq]
    rcases job.step_left g t turn.2 with hsame | hahead | ⟨hahead, hleft⟩
    · rw [hsame]
      exact .inl rfl
    · refine .inr (Prod.Lex.toLex_lt_toLex.mpr (.inl ?_))
      simp only [List.map_append, List.map_cons, List.sum_append, List.sum_cons]
      omega
    · refine .inr (Prod.Lex.toLex_lt_toLex.mpr (.inr ?_))
      simp only [List.map_append, List.map_cons, List.sum_append, List.sum_cons]
      omega

/-- As long as a batch is not done, there is a turn that does something. -/
theorem OnTrack.exists_turn (hb : OnTrack g t₀ paths b) (hresults : b.results? g = none) :
    ∃ turn, b.step g turn ≠ b := by
  obtain ⟨job, hjob, hresult⟩ : ∃ job ∈ b.jobs, job.result? g = none := by
    by_contra hall
    have hdone : (b.results? g).isSome := isSome_mapM_iff.mpr fun job hjob => by
      rw [Option.isSome_iff_ne_none]
      exact fun heq => hall ⟨job, hjob, heq⟩
    rw [hresults] at hdone
    cases hdone
  obtain ⟨t, jobs⟩ := b
  obtain ⟨before, behind, rfl⟩ := List.append_of_mem hjob
  obtain ⟨n, hstep⟩ := Job.exists_step (hb.jobs job hjob) hresult t
  refine ⟨(before.length, n), fun heq => hstep ?_⟩
  rw [step_eq] at heq
  simp only [Batch.mk.injEq, List.append_cancel_left_eq, List.cons.injEq, and_true] at heq
  exact Prod.ext heq.1 (congrArg Job.stage heq.2)

/-- Each turn comes again and again. -/
def IsFair (turns : Nat → Nat × Nat) : Prop := ∀ turn n, ∃ m, n ≤ m ∧ turns m = turn

/-- Reading the number of a turn as a pair of a pair comes to every turn again and again. -/
theorem isFair_unpair : IsFair fun n => n.unpair.1.unpair := by
  rintro ⟨i, j⟩ n
  refine ⟨Nat.pair (Nat.pair i j) n, Nat.right_le_pair _ _, ?_⟩
  simp

/-- The first turns of an endless schedule. -/
def firstTurns (turns : Nat → Nat × Nat) (n : Nat) : List (Nat × Nat) := (List.range n).map turns

theorem run_firstTurns_add (turns : Nat → Nat × Nat) (n k : Nat) :
    b.run g (firstTurns turns (n + k))
      = (b.run g (firstTurns turns n)).run g (firstTurns (fun i => turns (n + i)) k) := by
  rw [firstTurns, List.range_add, List.map_append, run_append, List.map_map]
  rfl

/-- A fair schedule comes to a turn that does something. -/
theorem exists_first_turn {turns : Nat → Nat × Nat} (hfair : IsFair turns) {turn : Nat × Nat}
    (hturn : b.step g turn ≠ b) :
    ∃ n, b.run g (firstTurns turns n) = b ∧ b.step g (turns n) ≠ b := by
  by_contra hnone
  simp only [not_exists, not_and, not_not] at hnone
  have hstill : ∀ n, b.run g (firstTurns turns n) = b := by
    intro n
    induction n with
    | zero => rfl
    | succ n ih =>
      rw [run_firstTurns_add, ih]
      exact hnone n ih
  obtain ⟨m, -, hm⟩ := hfair turn 0
  exact hturn (hm ▸ hnone m (hstill m))

/-- After enough turns of a fair schedule, all jobs are done. -/
theorem OnTrack.exists_results (h : g.Admits t₀ paths) (hb : OnTrack g t₀ paths b)
    {turns : Nat → Nat × Nat} (hfair : IsFair turns) :
    ∃ n, ((b.run g (firstTurns turns n)).results? g).isSome := by
  induction hleft : b.left using WellFoundedLT.induction generalizing b turns with
  | ind left ih =>
    cases hresults : b.results? g with
    | some results => exact ⟨0, by rw [firstTurns]; exact hresults ▸ rfl⟩
    | none =>
      obtain ⟨turn, hturn⟩ := hb.exists_turn hresults
      obtain ⟨n, hstill, hgoes⟩ := exists_first_turn hfair hturn
      have hless := (step_left g b (turns n)).resolve_left hgoes
      have hfair' : IsFair fun i => turns (n + 1 + i) := fun turn k => by
        obtain ⟨m, hm, hturn⟩ := hfair turn (n + 1 + k)
        have hm' : n + 1 + (m - (n + 1)) = m := by omega
        exact ⟨m - (n + 1), by omega, hturn ▸ congrArg turns hm'⟩
      obtain ⟨k, hk⟩ := ih _ (hleft ▸ hless) (hb.step h (turns n)) hfair' rfl
      refine ⟨n + 1 + k, ?_⟩
      have hfirst : b.run g (firstTurns turns (n + 1)) = b.step g (turns n) := by
        rw [run_firstTurns_add, hstill]
        rfl
      rw [run_firstTurns_add, hfirst]
      exact hk

def desk : Generator where
  settings := { (default : Settings) with generateFrontend := false }
  output := ["out"]

def documentText (name : String) : String :=
  "\x7b\"name\": \"" ++ name ++ "\", \"schema\": \x7b\"text\": \"string\"\x7d, "
    ++ "\"ui\": \x7b\"text\": \x7b\x7d\x7d\x7d"

def deskTree : FileTree :=
  ((FileTree.empty.put ["note.json"] (.file (documentText "note").toUTF8)).put
    ["task.json"] (.file (documentText "task").toUTF8)).put ["list.json"] (.file "[]".toUTF8)

def deskPaths : List Place := [["note.json"], ["list.json"], ["task.json"]]

theorem find_deskPaths : deskTree.find ["note.json"] = .ok (.file (documentText "note").toUTF8)
    ∧ deskTree.find ["task.json"] = .ok (.file (documentText "task").toUTF8)
    ∧ deskTree.find ["list.json"] = .ok (.file "[]".toUTF8) := by
  simp only [FileTree.find, Place.hasNull_eq_any]
  decide

/-- Whatever entity a file with this content has is named so. -/
def IsNamed (g : Generator) (p : Place) (content : ByteArray) (name : String) : Prop :=
  (Source.readContent p content).toOption.all (fun entries =>
    (g.validate (.map entries)).entity.all fun e => e.names.name = name) = true

instance {content : ByteArray} {name : String} : Decidable (IsNamed g p content name) :=
  inferInstanceAs (Decidable (_ = true))

/-- The entity of a document is known from the content of its file. -/
theorem IsNamed.entity_eq {content : ByteArray} {name : String} (hnames : IsNamed g p content name)
    (hfind : t.find p = .ok (.file content)) (h : g.draft? t p = some d) : d.entity = name := by
  obtain ⟨entries, e, hload, hentity, -, hdraft, -⟩ := Generator.exists_entity_of_draft? h
  rw [Source.load, hfind] at hload
  rw [IsNamed, show Source.readContent p content = _ from hload] at hnames
  simp only [Except.toOption, Option.all_some, hentity] at hnames
  rw [hdraft]
  exact of_decide_eq_true hnames

/-- Two of the files are documents of an entity each, and the third is no document. -/
theorem contents_desk :
    IsNamed desk ["note.json"] (documentText "note").toUTF8 "note"
      ∧ IsNamed desk ["task.json"] (documentText "task").toUTF8 "task"
      ∧ (Source.readContent ["list.json"] "[]".toUTF8).toOption = none := by
  decide +kernel

theorem entity_note (h : desk.draft? deskTree ["note.json"] = some d) : d.entity = "note" :=
  contents_desk.1.entity_eq find_deskPaths.1 h

theorem entity_task (h : desk.draft? deskTree ["task.json"] = some d) : d.entity = "task" :=
  contents_desk.2.1.entity_eq find_deskPaths.2.1 h

theorem draft?_list : desk.draft? deskTree ["list.json"] = none := by
  cases hdraft : desk.draft? deskTree ["list.json"] with
  | none => rfl
  | some d =>
    obtain ⟨entries, e, hload, -⟩ := Generator.exists_entity_of_draft? hdraft
    rw [Source.load, find_deskPaths.2.2] at hload
    have hread := contents_desk.2.2
    rw [show Source.readContent _ _ = _ from hload] at hread
    cases hread

theorem drafts_desk : desk.drafts deskTree deskPaths
    = (desk.draft? deskTree ["note.json"]).toList
      ++ (desk.draft? deskTree ["task.json"]).toList := by
  rw [Generator.drafts, deskPaths, List.filterMap_cons, List.filterMap_cons, draft?_list]
  cases desk.draft? deskTree ["note.json"] <;> cases htask : desk.draft? deskTree ["task.json"] <;>
    simp [htask]

theorem isShort_desk : ∀ name ∈ ["note", "task"], ∀ side,
    (desk.exporter.modulePlace name side).IsShort := by
  have hdots : ∀ name ∈ ["note", "task"], ∀ side ∈ [Side.frontend, .backend],
      ".." ∉ desk.exporter.modulePlace name side
        ∧ ∀ n ∈ desk.exporter.modulePlace name side, isTooLong n = false := by
    decide +kernel
  intro name hname side
  obtain ⟨hup, hshort⟩ := hdots name hname side (by cases side <;> decide)
  exact ⟨hup, hshort⟩

theorem admits_desk : desk.Admits deskTree deskPaths := by
  obtain ⟨hnote, htask, hlist⟩ := find_deskPaths
  refine ⟨rfl, ?_, ?_, ?_, ?_, by decide, ?_⟩
  · refine .put (.put (.put FileTree.wellFormed_empty ?_ ?_ ?_) ?_ ?_ ?_) ?_ ?_ ?_ <;>
      decide
  · simp [deskPaths, FileTree.isFile, FileTree.read?, FileTree.stat?, hnote, htask, hlist,
      Except.toOption]
  · -- artifacts are below the output directory, and the files are not
    intro p hp hmem
    obtain ⟨d, hd, hq⟩ := List.mem_flatMap.mp hmem
    obtain ⟨a, ha, heq⟩ := List.mem_map.mp hq
    obtain ⟨q, -, hdraft⟩ := List.mem_filterMap.mp hd
    have hmodules := Generator.inModules_of_draft? rfl hdraft
    have hbelow := (hmodules.modulePlace_prefix_parent ha).trans (Place.parent_prefix _)
    rw [heq, Exporter.modulePlace_eq hmodules.named, List.append_assoc] at hbelow
    have hout : ["out"] <+: p.settled := (List.prefix_append _ _).trans hbelow
    have hnot : ∀ p ∈ deskPaths, ¬["out"] <+: p.settled := by decide
    exact hnot p hp hout
  · rw [drafts_desk]
    cases hn : desk.draft? deskTree ["note.json"] <;>
      cases ht : desk.draft? deskTree ["task.json"] <;> simp
    rw [entity_note hn, entity_task ht]
    decide
  · rw [drafts_desk]
    refine List.forall_mem_append.mpr ⟨fun d hd => isShort_desk _ ?_, fun d hd => isShort_desk _ ?_⟩
    · rw [entity_note (Option.mem_toList.mp hd)]
      decide
    · rw [entity_task (Option.mem_toList.mp hd)]
      decide

end Batch

end Scaffold
