import Scaffold.Proofs.Export

/-!
# Outcomes as they come

The artifacts of an export are written at the same time, and any of the writes may be the next to
end. `Gathered` is what has come so far: the records under the numbers of their artifacts, and the
errors one behind another. Taking in an outcome adds it to what was there and loses nothing
(`Gathers.take`), so at the end everything has been gathered, and only the order tells when
(`gathers_foldl`). Putting records and errors in order removes that too (`gathered_in_any_order`).
-/

namespace Scaffold

namespace Exporter

variable {outcomes : List (Nat × Outcome)}

/-- What has come of the writes that have ended. -/
structure Gathered where
  /-- The records, each under the number of its artifact. -/
  records : List (Nat × FileRecord)
  /-- The errors, in the order in which they came. -/
  errors : List String
deriving DecidableEq

namespace Gathered

def empty : Gathered := ⟨[], []⟩

/-- Puts a record under a number. One that is there under it gives way. -/
def put (records : List (Nat × FileRecord)) (n : Nat) (r : FileRecord) : List (Nat × FileRecord) :=
  if n ∈ records.map (·.1) then records.map fun e => if e.1 = n then (n, r) else e
  else records ++ [(n, r)]

/-- Takes in the outcome that comes next. -/
def take (g : Gathered) : Nat × Outcome → Gathered
  | (n, .ok r) => { g with records := put g.records n r }
  | (_, .error e) => { g with errors := g.errors ++ [e] }

/-- The records in the order of their numbers, and the errors in alphabetical order. -/
def result (g : Gathered) : List FileRecord × List String :=
  ((g.records.mergeSort fun a b => a.1 ≤ b.1).map (·.2), sortTexts g.errors)

end Gathered

/-- Gathers outcomes as they come. -/
def gather (outcomes : List (Nat × Outcome)) : List FileRecord × List String :=
  (outcomes.foldl Gathered.take .empty).result

/-- The record of an outcome under its number, if it has one. -/
def numbered? : Nat × Outcome → Option (Nat × FileRecord)
  | (n, .ok r) => some (n, r)
  | (_, .error _) => none

/-- The error of an outcome, if it has one. -/
def error? : Nat × Outcome → Option String
  | (_, .ok _) => none
  | (_, .error e) => some e

theorem recordsOf_eq_numbered (outcomes : List (Nat × Outcome)) : recordsOf outcomes
    = ((outcomes.filterMap numbered?).mergeSort fun a b => a.1 ≤ b.1).map (·.2) := rfl

theorem errorsOf_eq_sortTexts (outcomes : List (Nat × Outcome)) :
    errorsOf outcomes = sortTexts (outcomes.filterMap error?) := rfl

theorem map_fst_numbered (outcomes : List (Nat × Outcome)) :
    (outcomes.filterMap numbered?).map (·.1) ⊆ outcomes.map (·.1) := by
  intro n hn
  obtain ⟨e, he, rfl⟩ := List.mem_map.mp hn
  obtain ⟨⟨m, r | e⟩, ho, heq⟩ := List.mem_filterMap.mp he <;> cases heq
  exact List.mem_map_of_mem ho

/-- What has been gathered is what has come, neither less nor twice. -/
structure Gathers (outcomes : List (Nat × Outcome)) (g : Gathered) : Prop where
  records : g.records = outcomes.filterMap numbered?
  errors : g.errors = outcomes.filterMap error?

/-- An outcome that comes next is gathered behind the others, if none has its number. -/
theorem Gathers.take {g : Gathered} {o : Nat × Outcome} (h : Gathers outcomes g)
    (hnew : o.1 ∉ outcomes.map (·.1)) : Gathers (outcomes ++ [o]) (g.take o) := by
  obtain ⟨n, e | r⟩ := o
  · exact ⟨by simp [Gathered.take, h.records, numbered?], by simp [Gathered.take, h.errors, error?]⟩
  · have hfree : n ∉ g.records.map (·.1) := by
      rw [h.records]
      exact fun hn => hnew (map_fst_numbered outcomes hn)
    refine ⟨?_, by simp [Gathered.take, h.errors, error?]⟩
    show Gathered.put g.records n r = _
    rw [Gathered.put, if_neg hfree, h.records, List.filterMap_append]
    rfl

/-- All outcomes are gathered, in whatever order they come. -/
theorem gathers_foldl {before : List (Nat × Outcome)} {g : Gathered} (h : Gathers before g)
    (hnodup : ((before ++ outcomes).map (·.1)).Nodup) :
    Gathers (before ++ outcomes) (outcomes.foldl Gathered.take g) := by
  induction outcomes generalizing before g with
  | nil => simpa using h
  | cons o rest ih =>
    have hnew : o.1 ∉ before.map (·.1) := by
      rw [List.map_append, List.nodup_append] at hnodup
      intro hmem
      exact hnodup.2.2 _ hmem o.1 (by simp) rfl
    have hrest := ih (h.take hnew) (by simpa using hnodup)
    simpa using hrest

/-- Gathering outcomes one after another gives the records and the errors among them. -/
theorem gather_eq (hnodup : (outcomes.map (·.1)).Nodup) :
    gather outcomes = (recordsOf outcomes, errorsOf outcomes) := by
  have hgathers : Gathers ([] ++ outcomes) (outcomes.foldl Gathered.take .empty) :=
    gathers_foldl ⟨rfl, rfl⟩ hnodup
  obtain ⟨hrecords, herrors⟩ := hgathers
  rw [gather, Gathered.result, hrecords, herrors, recordsOf_eq_numbered, errorsOf_eq_sortTexts,
    List.nil_append]

/-! ### Writes that end -/

/-- How the write of an artifact ends: with its record, or with an error in the words of the
system. -/
abbrev Ending := Except String FileRecord

/-- The outcome of a write that ends so, under the number of its artifact. -/
def outcomeOf (x : Exporter) (entity : String) (w : (Artifact × Ending) × Nat) : Nat × Outcome :=
  (w.2, w.1.2.mapError (x.failure entity w.1.1))

/-- The error for an artifact whose write fails. -/
def failure? (x : Exporter) (entity : String) (w : Artifact × Ending) : Option String :=
  match w.2 with
  | .ok _ => none
  | .error reason => some (x.failure entity w.1 reason)

section

variable (x : Exporter) (entity : String) (writes : List (Artifact × Ending))

/-- The outcomes in the order of the artifacts have the numbers one after another. -/
theorem map_fst_outcomeOf : ((writes.zipIdx).map (x.outcomeOf entity)).map (·.1)
    = List.range' 0 writes.length := by
  rw [List.map_map]
  exact List.zipIdx_map_snd 0 writes

theorem filterMap_outcomeOf {β : Type} (f : Nat × Outcome → Option β)
    (f' : Artifact × Ending → Option β) (h : ∀ w n, f (x.outcomeOf entity (w, n)) = f' w) :
    ((writes.zipIdx).map (x.outcomeOf entity)).filterMap f = writes.filterMap f' := by
  have hfirst : f ∘ x.outcomeOf entity = f' ∘ Prod.fst := funext fun (w, n) => h w n
  rw [List.filterMap_map, hfirst, ← List.filterMap_map, List.zipIdx_map_fst]

theorem recordsOf_zipIdx : recordsOf ((writes.zipIdx).map (x.outcomeOf entity))
    = writes.filterMap (·.2.toOption) := by
  rw [recordsOf_eq]
  · refine filterMap_outcomeOf x entity writes _ _ fun w n => ?_
    rcases w with ⟨a, e | r⟩ <;> rfl
  · rw [map_fst_outcomeOf]
    exact List.pairwise_le_range'

theorem errorsOf_zipIdx : errorsOf ((writes.zipIdx).map (x.outcomeOf entity))
    = sortTexts (writes.filterMap (x.failure? entity)) := by
  rw [errorsOf_eq_sortTexts, filterMap_outcomeOf x entity writes error? (x.failure? entity)]
  rintro ⟨a, e | r⟩ n <;> rfl

/-- The outcomes of writes have different numbers, in whatever order they end. -/
theorem nodup_outcomeOf {order : List ((Artifact × Ending) × Nat)}
    (horder : order.Perm writes.zipIdx) : ((order.map (x.outcomeOf entity)).map (·.1)).Nodup := by
  rw [((horder.map _).map _).nodup_iff, map_fst_outcomeOf]
  exact List.nodup_range'

/-- The order in which writes end makes no difference to what is gathered. -/
theorem gather_outcomeOf {order : List ((Artifact × Ending) × Nat)}
    (horder : order.Perm writes.zipIdx) :
    gather (order.map (x.outcomeOf entity))
      = (recordsOf (writes.zipIdx.map (x.outcomeOf entity)),
        errorsOf (writes.zipIdx.map (x.outcomeOf entity))) := by
  have hcame := horder.map (x.outcomeOf entity)
  have hnumbers := nodup_outcomeOf x entity writes horder
  rw [gather_eq hnumbers, recordsOf_perm hnumbers hcame, errorsOf_perm hcame]

end

/-- However the writes of artifacts end, and in whatever order: what has been gathered at the end,
and what an export makes of the outcomes, are the same records and errors. The records are those of
the writes that have succeeded, in the order of the artifacts; the errors are one for each write
that has failed, in alphabetical order. -/
theorem gathered_in_any_order (x : Exporter) (entity : String)
    (writes : List (Artifact × Ending)) :
    ∃ files errors,
      (∀ order : List ((Artifact × Ending) × Nat), order.Perm writes.zipIdx →
        gather (order.map (x.outcomeOf entity)) = (files, errors)
          ∧ recordsOf (order.map (x.outcomeOf entity)) = files
          ∧ errorsOf (order.map (x.outcomeOf entity)) = errors)
        ∧ files = writes.filterMap (·.2.toOption)
        ∧ errors.Perm (writes.filterMap (x.failure? entity))
        ∧ errors.Pairwise (· ≤ ·)
        ∧ files.length + errors.length = writes.length := by
  refine ⟨_, _, fun order horder => ⟨gather_outcomeOf x entity writes horder, ?_, ?_⟩,
    recordsOf_zipIdx x entity writes, ?_, ?_, ?_⟩
  · exact recordsOf_perm (nodup_outcomeOf x entity writes horder) (horder.map _)
  · exact errorsOf_perm (horder.map _)
  · rw [errorsOf_zipIdx]
    exact sortTexts_perm _
  · exact pairwise_sortTexts _
  · rw [length_recordsOf_add_length_errorsOf, List.length_map, List.length_zipIdx]

/-- Three writes of which the second one fails end in the opposite order. -/
theorem gathered_backwards :
    let described := bookArtifacts.map (bookExporter.describe "book")
    let writes : List (Artifact × Ending) := bookArtifacts.zip
      [.ok described[0]!, .error "PermissionError: denied", .ok described[2]!]
    gather (writes.zipIdx.reverse.map (bookExporter.outcomeOf "book"))
      = ([described[0]!, described[2]!],
        ["Failed to write src/_frontends/dashboard/book/routes.ts: PermissionError: denied"]) := by
  intro described writes
  obtain ⟨files, errors, hgather, hfiles, herrors, -, -⟩ :=
    gathered_in_any_order bookExporter "book" writes
  rw [(hgather _ (List.reverse_perm _)).1, hfiles, List.perm_singleton.mp herrors]
  rfl

/-! ### The writes of an export -/

/-- Writing one artifact ends with a record or an error in words. -/
theorem exists_ending_writeOne (x : Exporter) (fault : Option Fault) (entity : String)
    (t : FileTree) (a : Artifact) (n : Nat) : ∃ ending : Ending,
      (n, (x.writeOne fault entity t a).2) = x.outcomeOf entity ((a, ending), n) := by
  unfold writeOne
  rcases t.write fault (x.target entity a) a.content.toUTF8 with ⟨t', _ | e⟩
  · exact ⟨.ok (x.describe entity a), rfl⟩
  · exact ⟨.error e.word, rfl⟩

/-- So do the writes of artifacts one after another. -/
theorem exists_writes_writeFrom {x : Exporter} {faults : Nat → Option Fault} {entity : String}
    {artifacts : List Artifact} {t t' : FileTree} {n : Nat}
    (h : x.writeFrom faults entity t n artifacts = (t', outcomes)) :
    ∃ writes : List (Artifact × Ending), writes.map (·.1) = artifacts
      ∧ outcomes = (writes.zipIdx n).map (x.outcomeOf entity) := by
  induction artifacts generalizing t n outcomes with
  | nil =>
    cases h
    exact ⟨[], rfl, rfl⟩
  | cons a rest ih =>
    obtain ⟨t₁, outcome, others, hone, hothers, rfl⟩ := writeFrom_cons h
    obtain ⟨ending, hending⟩ := exists_ending_writeOne x (faults n) entity t a n
    obtain ⟨writes, hwrites, rfl⟩ := ih hothers
    refine ⟨(a, ending) :: writes, by rw [List.map_cons, hwrites], ?_⟩
    rw [hone] at hending
    rw [List.zipIdx_cons, List.map_cons, ← hending]

/-- What an export that is not refused reports is gathered from the writes of its artifacts, in
whatever order they end. -/
theorem exportWith_gathers {x : Exporter} {entity : String} {artifacts : List Artifact}
    {t : FileTree} (hwet : x.dryRun = false) (hrefused : x.isRefused t entity artifacts = false)
    (faults : Nat → Option Fault) : ∃ writes : List (Artifact × Ending),
      writes.map (·.1) = artifacts ∧ ∀ order : List ((Artifact × Ending) × Nat),
        order.Perm writes.zipIdx → gather (order.map (x.outcomeOf entity))
          = ((x.exportWith faults entity artifacts t).2.files,
            (x.exportWith faults entity artifacts t).2.errors) := by
  rcases hwrite : x.writeFrom faults entity t 0 artifacts with ⟨t', outcomes⟩
  obtain ⟨writes, hwrites, rfl⟩ := exists_writes_writeFrom hwrite
  refine ⟨writes, hwrites, fun order horder => ?_⟩
  rw [gather_outcomeOf x entity writes horder]
  simp [exportWith, hrefused, hwet, hwrite]

end Exporter

end Scaffold
