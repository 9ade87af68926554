import Scaffold.Proofs.Alone
import Scaffold.Proofs.Job

/-!
# Jobs one after another

A job that nobody disturbs does what `Generator.generateFile` does (`Job.reaches_generateFile`), and
jobs that are worked on one after another do what `Generator.generateFiles` does
(`Batch.exists_run_generateFiles`). So working on files in a sequence is one schedule among others.
-/

namespace Scaffold

open FileTree

variable {g : Generator} {t t' : FileTree} {d : Draft} {p : Place}

namespace Job

/-- A job comes from one tree and stage to others by steps of its own. -/
def Reaches (g : Generator) (p : Place) : FileTree × Stage → FileTree × Stage → Prop :=
  Relation.ReflTransGen fun a b => ∃ n, Job.step g a.1 n ⟨p, a.2⟩ = b

/-- A writer that comes to its end brings its job one outcome further. -/
theorem reaches_of_writer {w : Writer} {start : FileTree × Writer.Stage} {error : Option FileError}
    (h : w.Reaches start (t', .ended error))
    (hgoing : Writer.ended? { w with stage := start.2 } = none)
    (before behind : List Writer) (outcomes : List (Nat × Exporter.Outcome)) :
    Reaches g p
      (start.1, .writing d (before ++ { w with stage := start.2 } :: behind) outcomes)
      (t', .writing d (before ++ { w with stage := .ended error } :: behind)
        (outcomes ++ (d.outcome g before.length error).toList)) := by
  induction h using Relation.ReflTransGen.head_induction_on with
  | refl => cases hgoing
  | @head a b hstep hrest ih =>
    have hwrite : write g a.1 before.length d
        (before ++ { w with stage := a.2 } :: behind) outcomes = _ := write_eq hgoing outcomes
    rw [hstep] at hwrite
    refine .head ⟨before.length, hwrite⟩ ?_
    cases hended : Writer.ended? { w with stage := b.2 } with
    | none =>
      rw [Option.bind_none, Option.toList_none, List.append_nil]
      exact ih hended
    | some e =>
      -- the writer has come to its end with this step
      obtain ⟨t₁, stage⟩ := b
      obtain rfl : stage = .ended e := Writer.ended?_eq_some.mp hended
      cases Writer.eq_of_reaches hrest
      exact .refl

/-- What a writer that is left to itself has to tell is what `Exporter.writeOne` tells. -/
theorem outcome_write {n : Nat} {a : Artifact} (h : d.artifacts[n]? = some a) :
    let written := g.exporter.writeOne none d.entity t a
    (t.write none (g.exporter.target d.entity a) a.content.toUTF8).1 = written.1
      ∧ d.outcome g n (t.write none (g.exporter.target d.entity a) a.content.toUTF8).2
        = some (n, written.2) := by
  rw [Draft.outcome, h, Exporter.writeOne]
  rcases t.write none (g.exporter.target d.entity a) a.content.toUTF8 with ⟨t', _ | e⟩ <;>
    exact ⟨rfl, rfl⟩

/-- The artifacts of a document are written one after another. -/
theorem reaches_writeFrom (done rest : List Artifact) (hartifacts : d.artifacts = done ++ rest)
    (before : List Writer) (hbefore : before.length = done.length) (t : FileTree)
    (outcomes : List (Nat × Exporter.Outcome)) :
    let written := g.exporter.writeFrom (fun _ => none) d.entity t done.length rest
    ∃ writers, Reaches g p
      (t, .writing d (before ++ rest.map fun a =>
        .start (g.exporter.target d.entity a) a.content.toUTF8) outcomes)
      (written.1, .writing d writers (outcomes ++ written.2)) := by
  -- the writers come to their ends one after another, in the order of the artifacts
  induction rest generalizing done before t outcomes with
  | nil =>
    refine ⟨before, ?_⟩
    simp only [Exporter.writeFrom, List.map_nil, List.append_nil]
    exact .refl
  | cons a rest ih =>
    have hget : d.artifacts[before.length]? = some a := by simp [hartifacts, hbefore]
    obtain ⟨htree, houtcome⟩ := outcome_write (g := g) (t := t) hget
    set w : Writer := .start (g.exporter.target d.entity a) a.content.toUTF8
    have hfirst := reaches_of_writer (g := g) (d := d) (p := p)
      (Writer.reaches_write t (g.exporter.target d.entity a) a.content.toUTF8) rfl before
      (rest.map fun a => .start (g.exporter.target d.entity a) a.content.toUTF8) outcomes
    rw [htree, houtcome] at hfirst
    obtain ⟨writers, hothers⟩ := ih (done ++ [a]) (by simp [hartifacts]) (before ++ [{ w with
      stage := .ended (t.write none (g.exporter.target d.entity a) a.content.toUTF8).2 }])
      (by simp [hbefore]) (g.exporter.writeOne none d.entity t a).1
      (outcomes ++ [(before.length, (g.exporter.writeOne none d.entity t a).2)])
    refine ⟨writers, Relation.ReflTransGen.trans hfirst ?_⟩
    show Reaches g p _ _
    simpa [Exporter.writeFrom, hbefore, w] using hothers

/-- A job that nobody disturbs does what `Generator.generateFile` does. -/
theorem reaches_generateFile (g : Generator) (t : FileTree) (p : Place) :
    ∃ stage, Reaches g p (t, .waiting) ((g.generateFile t p).tree, stage)
      ∧ result? g ⟨p, stage⟩ = some (g.generateFile t p).returned := by
  cases hdraft : g.draft? t p with
  | none =>
    have htree : (g.generateFile t p).tree = t := by
      rw [Generator.generateFile_of_no_draft hdraft rfl]
    rw [htree]
    refine ⟨.ended (g.generateFile t p).returned, .single ⟨0, ?_⟩, rfl⟩
    simp only [step, begin, hdraft]
  | some d =>
    have hbegin : Reaches g p (t, .waiting) (t, .checking d) :=
      .single ⟨0, by simp only [step, begin, hdraft]⟩
    have hcheck : Reaches g p (t, .checking d) (t, d.check g t) := .single ⟨0, rfl⟩
    -- the check ends the job, or it hands each artifact to a writer
    rcases Generator.generateFile_of_check hdraft with
      ⟨r, hended, htree, hreturned⟩ | ⟨hwriting, htree, hreturned⟩
    · rw [hended] at hcheck
      rw [htree, hreturned]
      exact ⟨.ended r, hbegin.trans hcheck, rfl⟩
    · rw [hwriting] at hcheck
      rw [htree, hreturned]
      obtain ⟨writers, hwrite⟩ :=
        reaches_writeFrom (g := g) (p := p) [] d.artifacts rfl [] rfl t []
      refine ⟨_, hbegin.trans (hcheck.trans hwrite), ?_⟩
      have hpair : g.exporter.writeFrom (fun _ => none) d.entity t 0 d.artifacts
          = (_, (g.exporter.writeFrom (fun _ => none) d.entity t 0 d.artifacts).2) := rfl
      have hlength := congrArg List.length (Exporter.map_fst_writeFrom hpair)
      rw [List.length_map, List.length_range'] at hlength
      simp only [result?, List.nil_append, List.length_nil]
      exact if_pos hlength

end Job

end Scaffold
