import Mathlib.Data.List.Forall2
import Scaffold.Proofs.Presentation
import Scaffold.Proofs.Text.Split

/-!
# Canonical descriptors

A type can be written in several ways: with blanks around its parts, and a relationship with or
without the word for one entity. `FieldType.descriptor` is the canonical way, and reading it gives
the type back (`FieldType.ofDescriptor_descriptor`). Nothing behind that reading looks at the text
of a descriptor, so that a document may be made canonical without a change to what is found in it or
generated from it (`canonical_generates_same`).
-/

namespace Scaffold

/-! ### Stripped texts -/

namespace Text

/-- A text without blanks at its ends stays as it is. -/
theorem strip_eq_self {s : String} (hfirst : ∀ c ∈ s.toList.head?, isBlank c = false)
    (hlast : ∀ c ∈ s.toList.getLast?, isBlank c = false) : strip s = s := by
  have hkeep : ∀ cs : List Char, (∀ c ∈ cs.head?, isBlank c = false) →
      cs.dropWhile isBlank = cs := by
    intro cs h
    cases cs with
    | nil => rfl
    | cons c cs => rw [List.dropWhile_cons_of_neg (by simp [h c rfl])]
  rw [strip, stripWith, stripChars, hkeep _ hfirst, hkeep _ (by simpa using hlast),
    List.reverse_reverse, String.ofList_toList]

/-- No blank stands at the front of a stripped text. -/
theorem head?_strip {s : String} {c : Char} (h : (strip s).toList.head? = some c) :
    isBlank c = false := by
  simp only [strip, stripWith, stripChars, String.toList_ofList, List.head?_reverse] at h
  -- dropping the trailing blanks leaves the first character where it is
  obtain ⟨blanks, hblanks⟩ :=
    List.dropWhile_suffix isBlank (l := (s.toList.dropWhile isBlank).reverse)
  have hfirst : (s.toList.dropWhile isBlank).head? = some c := by
    rw [← List.getLast?_reverse, ← hblanks, List.getLast?_append, h, Option.some_or]
  have hnot := List.head?_dropWhile_not isBlank s.toList
  rw [hfirst] at hnot
  exact hnot

/-- Stripping twice does no more than stripping once. -/
@[simp] theorem strip_strip (s : String) : strip (strip s) = strip s :=
  strip_eq_self (fun _ h => head?_strip h) fun _ h => Identifier.getLast?_strip h

/-- Stripping adds no characters. -/
theorem mem_of_mem_strip {s : String} {c : Char} (h : c ∈ (strip s).toList) : c ∈ s.toList := by
  simp only [strip, stripWith, stripChars, String.toList_ofList, List.mem_reverse] at h
  exact (List.dropWhile_sublist _).mem (List.mem_reverse.mp ((List.dropWhile_sublist _).mem h))

end Text

/-! ### Reading a canonical descriptor -/

/-- A descriptor of an enumeration has been read with good options. -/
theorem optionsOf_of_ofDescriptor {options : List String} {descriptor : String} {o : Options}
    (h : FieldType.ofDescriptor options descriptor = .ok (.enum o)) :
    optionsOf options = .ok o := by
  rcases FieldType.ofDescriptor_cases options descriptor with
    ⟨kind, hraw⟩ | hraw | ⟨parts, hparts⟩ | herror
  · rw [FieldType.ofDescriptor_of_kind hraw] at h
    cases h
  · rw [FieldType.ofDescriptor_of_enum hraw] at h
    obtain ⟨o', hoptions, heq⟩ := map_eq_ok.mp h
    cases heq
    exact hoptions
  · rw [FieldType.ofDescriptor_of_parts hparts] at h
    obtain ⟨r, -, heq⟩ := map_eq_ok.mp h
    cases heq
  · rw [herror] at h
    cases h

namespace Cardinality

/-- The word for a cardinality has no blanks around it, and no colon in it. -/
@[simp] theorem strip_word (c : Cardinality) : Text.strip c.word = c.word := by
  cases c <;> rfl

theorem colon_notMem_word (c : Cardinality) : ':' ∉ c.word.toList := by
  cases c <;> decide

@[simp] theorem wordMeaning?_word (c : Cardinality) : wordMeaning? words c.word = some c := by
  cases c <;> rfl

end Cardinality

namespace FieldType

theorem descriptor_relationship (entity : String) (c : Cardinality) :
    (relationship entity c).descriptor = "relationship:" ++ entity ++ ":" ++ c.word := rfl

/-- A canonical descriptor has no blanks around it. -/
theorem strip_relationship (entity : String) (c : Cardinality) :
    Text.strip (relationship entity c).descriptor = (relationship entity c).descriptor := by
  apply Text.strip_eq_self
  · intro first hfirst
    rw [descriptor_relationship, String.append_assoc, String.append_assoc,
      String.toList_append] at hfirst
    cases hfirst
    rfl
  · intro last hlast
    rw [descriptor_relationship, String.toList_append] at hlast
    cases c
    all_goals
      rw [List.getLast?_append] at hlast
      cases hlast
      rfl

/-- A canonical relationship has two parts. -/
theorem relationshipParts?_descriptor {entity : String} (h : ':' ∉ entity.toList)
    (c : Cardinality) :
    relationshipParts? (relationship entity c).descriptor = some [entity, c.word] := by
  have hsplit : Text.splitOn ':' (relationship entity c).descriptor
      = ["relationship", entity, c.word] := by
    show Text.splitOn ':' ("relationship" ++ String.singleton ':' ++ entity
      ++ String.singleton ':' ++ c.word) = _
    rw [Text.splitOn_append, Text.splitOn_append, Text.splitOn_of_notMem h,
      Text.splitOn_of_notMem c.colon_notMem_word, Text.splitOn_of_notMem (by decide)]
    rfl
  rw [relationshipParts?, hsplit]
  rfl

/-- Reading the canonical descriptor of a type that has been read gives the type back. -/
theorem ofDescriptor_descriptor {options : List String} {descriptor : String} {type : FieldType}
    (h : ofDescriptor options descriptor = .ok type) :
    ofDescriptor options type.descriptor = .ok type := by
  cases type with
  | primitive kind => cases kind <;> rfl
  | enum o =>
    have hstrip : Text.strip (enum o).descriptor = "enum" := by
      show Text.strip "enum" = "enum"
      decide
    rw [ofDescriptor_of_enum hstrip]
    exact map_eq_ok.mpr ⟨o, optionsOf_of_ofDescriptor h, rfl⟩
  | relationship target c =>
    obtain ⟨entity, hcolon, htarget, hne⟩ := exists_strip_of_ofDescriptor h
    have hnot : ':' ∉ target.toList := fun hmem =>
      hcolon (Text.mem_of_mem_strip (htarget ▸ hmem))
    have hstrip : Text.strip target = target := by rw [htarget, Text.strip_strip]
    have hparts : relationshipParts? (Text.strip (relationship target c).descriptor)
        = some [target, c.word] := by
      rw [strip_relationship, relationshipParts?_descriptor hnot]
    rw [ofDescriptor_of_parts hparts]
    refine map_eq_ok.mpr ⟨(target, c), ?_, rfl⟩
    simp [relationshipOfParts, hstrip, hne]

end FieldType

namespace Document

/-- The canonical descriptor of a field; one that cannot be read stays as it is. -/
@[irreducible] def canonicalDescriptor (d : Document) (key descriptor : String) : String :=
  match d.typeOf key descriptor with
  | .ok type => type.descriptor
  | .error _ => descriptor

/-- The document with canonical descriptors. -/
def canonical (d : Document) : Document :=
  { d with schema := d.schema.mapValues d.canonicalDescriptor }

/-- An entry of the schema with its canonical descriptor. -/
def canonicalEntry (d : Document) (entry : String × String) : String × String :=
  (entry.1, d.canonicalDescriptor entry.1 entry.2)

/-- The canonical descriptor of a field is read as its own one is. -/
theorem typeOf_canonicalDescriptor (d : Document) (key descriptor : String) :
    d.typeOf key (d.canonicalDescriptor key descriptor) = d.typeOf key descriptor := by
  unfold canonicalDescriptor
  split
  next type htype =>
    rw [htype]
    exact FieldType.ofDescriptor_descriptor htype
  next => rfl

@[simp] theorem entries_canonical (d : Document) :
    d.canonical.schema.entries = d.schema.entries.map d.canonicalEntry := rfl

theorem forall_entries_canonical {d : Document} {p : String × String → Prop} :
    (∀ entry ∈ d.canonical.schema.entries, p entry)
      ↔ ∀ entry ∈ d.schema.entries, p (d.canonicalEntry entry) := by
  rw [entries_canonical, List.forall_mem_map]

/-- Making a document canonical changes no key. -/
@[simp] theorem keys_canonical (d : Document) : d.canonical.schema.keys = d.schema.keys :=
  Keyed.keys_mapValues d.canonicalDescriptor d.schema

/-- An entry of a canonical document has the type that the document says. -/
theorem typeOf_canonicalEntry (d : Document) (entry : String × String) :
    d.canonical.typeOf (d.canonicalEntry entry).1 (d.canonicalEntry entry).2
      = d.typeOf entry.1 entry.2 :=
  d.typeOf_canonicalDescriptor entry.1 entry.2

@[simp] theorem target?_canonicalEntry (d : Document) (entry : String × String) :
    d.canonical.target? (d.canonicalEntry entry) = d.target? entry := by
  rw [target?, target?, typeOf_canonicalEntry]

/-- A canonical document has the same targets. -/
theorem targets_canonical (d : Document) : d.canonical.targets = d.targets := by
  have hfields : d.canonical.schema.entries.filterMap d.canonical.target?
      = d.schema.entries.filterMap d.target? := by
    rw [entries_canonical, List.filterMap_map]
    apply List.filterMap_congr
    intro entry _
    rw [Function.comp_apply, target?_canonicalEntry]
  rw [targets, targets, hfields]

/-! ### What is found in a canonical document -/

/-- A well-formed document stays well formed when it is made canonical. -/
theorem WellFormed.canonical {d : Document} (h : d.WellFormed) : d.canonical.WellFormed where
  capitalized := h.capitalized
  plural := h.plural
  capitalizedPlural := h.capitalizedPlural
  path := h.path
  nameFree := h.nameFree
  pluralFree := h.pluralFree
  keys := by
    rw [keys_canonical]
    exact h.keys
  presented := by
    rw [keys_canonical]
    exact h.presented
  declared := by
    rw [keys_canonical]
    exact h.declared
  -- a canonical descriptor reads to the type that it was made from
  readable := forall_entries_canonical.mpr fun entry hentry => by
    rw [typeOf_canonicalEntry]
    exact h.readable entry hentry
  timestamps := forall_entries_canonical.mpr fun entry hentry => by
    rw [typeOf_canonicalEntry]
    exact h.timestamps entry hentry
  targets := forall_entries_canonical.mpr fun entry hentry target c htype => by
    rw [typeOf_canonicalEntry] at htype
    refine .of_names_eq ?_ ?_ (h.targets entry hentry target c htype) <;> rfl

/-- A presentation fits the canonical descriptor of its field as it fits the field's own one. -/
theorem hintIssuesOf_canonical {d : Document} {entry : String × UiHint}
    (h : entry ∈ d.ui.entries) : d.canonical.hintIssuesOf entry = d.hintIssuesOf entry := by
  have hhint : d.ui.get? entry.1 = some entry.2 := Keyed.get?_eq_some.mpr h
  have hget : d.canonical.schema.get? entry.1
      = (d.schema.get? entry.1).map (d.canonicalDescriptor entry.1) :=
    Keyed.get?_mapValues _ _ _
  unfold hintIssuesOf
  rw [hget]
  cases hfield : d.schema.get? entry.1 with
  | none => rfl
  | some descriptor =>
    have hread := d.typeOf_canonicalDescriptor entry.1 descriptor
    rw [typeOf, typeOf, hhint] at hread
    simp only [Option.map_some, hread]

/-- The same issues are found in a well-formed document when it is made canonical. -/
theorem issues_canonical {d : Document} (h : d.WellFormed) : d.canonical.issues = d.issues := by
  obtain ⟨hname, hkey, hcoverage, htype, hrelationship⟩ :=
    isAccepted_iff_eq_nil.mp (isAccepted_iff.mpr h)
  obtain ⟨hname', hkey', hcoverage', htype', hrelationship'⟩ :=
    isAccepted_iff_eq_nil.mp (isAccepted_iff.mpr h.canonical)
  have hhints : d.canonical.hintIssues = d.hintIssues := by
    show d.ui.entries.flatMap d.canonical.hintIssuesOf = d.ui.entries.flatMap d.hintIssuesOf
    exact List.flatMap_congr fun entry hentry => hintIssuesOf_canonical hentry
  simp only [issues, hname, hkey, hcoverage, htype, hrelationship, hname', hkey', hcoverage',
    htype', hrelationship', hhints]

/-- The same is found in a well-formed document when it is made canonical. -/
theorem findings_canonical {d : Document} (h : d.WellFormed) :
    d.canonical.findings = d.findings := by
  show d.findingsOf d.canonical.issues = d.findingsOf d.issues
  rw [issues_canonical h]

end Document

/-! ### What is generated from a canonical document -/

namespace Entity

/-- A canonical document has the fields that the document has. -/
theorem reads_canonical {d : Document} {fields : List FieldSpec}
    (h : List.Forall₂ (Reads d) d.schema.entries fields) :
    List.Forall₂ (Reads d.canonical) d.canonical.schema.entries fields := by
  rw [Document.entries_canonical, List.forall₂_map_left_iff]
  refine h.imp fun entry field hreads => ⟨hreads.key, hreads.hint, ?_⟩
  rw [Document.typeOf_canonicalEntry]
  exact hreads.type

/-- With the same fields, a canonical document has the same artifacts. -/
theorem artifacts_canonical (d : Document) (fields : List FieldSpec) (s : Settings) :
    (ofFields d.canonical fields).artifacts s = (ofFields d fields).artifacts s := by
  have hbare : (ofFields d.canonical fields).bare = (ofFields d fields).bare := by
    simp only [bare, ofFields, Document.targets_canonical]
    rfl
  have hspec : View.Spec.ofEntity (ofFields d.canonical fields)
      = View.Spec.ofEntity (ofFields d fields) := by
    simp only [View.Spec.ofEntity, ofFields, Document.targets_canonical]
    rfl
  have hviews : (ofFields d.canonical fields).viewFiles s = (ofFields d fields).viewFiles s := by
    rw [viewFiles, viewFiles, views, views, hspec]
  -- apart from the views, the files are those of the bare entity
  rw [artifacts_eq, artifacts_eq, ← filesBefore_bare, ← filesBehind_bare, hbare, filesBefore_bare,
    filesBehind_bare, hviews]

end Entity

/-- Reading a canonical descriptor gives the type back that it is for. When an accepted document is
made canonical, the descriptor of each field becomes that of its type; the document is still
accepted, the same is found in it, and under all settings the same becomes of it: under those that
can be written, it has the same artifacts. -/
theorem canonical_generates_same :
    (∀ options descriptor type, FieldType.ofDescriptor options descriptor = .ok type →
        FieldType.ofDescriptor options type.descriptor = .ok type)
      ∧ ∀ d : Document, d.findings.isValid = true →
        d.canonical = { d with schema := d.canonical.schema }
          ∧ List.Forall₂ (fun entry entry' : String × String => entry'.1 = entry.1
            ∧ ∃ type, d.typeOf entry.1 entry.2 = .ok type ∧ entry'.2 = type.descriptor)
            d.schema.entries d.canonical.schema.entries
          ∧ d.canonical.findings.isValid = true
          ∧ d.canonical.findings = d.findings
          ∧ (∀ s, d.canonical.assembled s = d.assembled s)
          ∧ ∀ s : Settings, s.IsWritable → ∃ files,
            d.assembled s = .ok files ∧ d.canonical.assembled s = .ok files
            ∧ (∀ v, Document.parse v = .ok d → assemble v s = .ok files)
            ∧ ∀ v, Document.parse v = .ok d.canonical → assemble v s = .ok files := by
  refine ⟨fun options descriptor type => FieldType.ofDescriptor_descriptor, ?_⟩
  intro d hvalid
  rw [Document.isValid_findings] at hvalid
  have hd := Document.isAccepted_iff.mp hvalid
  have hfindings := Document.findings_canonical hd
  obtain ⟨fields, hfields⟩ := Entity.exists_forall₂_reads hd.readable
  -- an entity depends on the types that are read, and both spellings read to the same types
  have hsame : ∀ s, d.canonical.assembled s = d.assembled s := by
    intro s
    rw [Document.assembled, Document.assembled, Entity.ofAccepted_of_reads hd hfields,
      Entity.ofAccepted_of_reads hd.canonical (Entity.reads_canonical hfields), renderAccepted,
      renderAccepted]
    by_cases hs : s.IsWritable
    · rw [Entity.render_builtIn _ hs, Entity.render_builtIn _ hs, Entity.artifacts_canonical]
    · rw [Entity.render_of_not_isWritable _ hs, Entity.render_of_not_isWritable _ hs]
  refine ⟨rfl, ?_, ?_, hfindings, hsame, ?_⟩
  · rw [Document.entries_canonical, List.forall₂_map_right_iff, List.forall₂_same]
    intro entry hentry
    obtain ⟨type, htype⟩ := hd.readable entry hentry
    refine ⟨rfl, type, htype, ?_⟩
    show d.canonicalDescriptor entry.1 entry.2 = type.descriptor
    rw [Document.canonicalDescriptor, htype]
  · rw [hfindings, Document.isValid_findings]
    exact hvalid
  · intro s hs
    have hfiles := Document.assembled_of_reads hd hfields hs
    refine ⟨_, hfiles, (hsame s).trans hfiles, ?_, ?_⟩
    · intro v hparse
      exact (assemble_eq_assembled hparse s).trans hfiles
    · intro v hparse
      exact (assemble_eq_assembled hparse s).trans ((hsame s).trans hfiles)

/-- The value that describes orders by canonical descriptors. -/
def canonicalOrderValue : Value :=
  .map [(.text "name", .text "order"),
    (.text "schema", .map [(.text "buyer", .text "relationship:customer:single"),
      (.text "items", .text "relationship:product:array"),
      (.text "gift", .text "relationship:product:single")]),
    (.text "ui", .map [(.text "buyer", .map []), (.text "items", .map []),
      (.text "gift", .map [])])]

/-- Orders that are described by canonical descriptors have the same artifacts. -/
theorem orders_canonical :
    orderDocument.findings.isValid = true ∧ Document.parse orderValue = .ok orderDocument
      ∧ Document.parse canonicalOrderValue = .ok orderDocument.canonical
      ∧ FieldType.ofDescriptor [] "relationship: product " = .ok (.relationship "product" .single)
      ∧ FieldType.ofDescriptor [] (FieldType.relationship "product" .single).descriptor
        = .ok (.relationship "product" .single)
      ∧ orderDocument.canonical.findings.isValid = true
      ∧ ∃ files, assemble orderValue {} = .ok files
        ∧ assemble canonicalOrderValue {} = .ok files := by
  have hread : FieldType.ofDescriptor [] "relationship: product "
      = .ok (.relationship "product" .single) := by decide +kernel
  have hparse : Document.parse canonicalOrderValue = .ok orderDocument.canonical := by
    decide +kernel
  obtain ⟨hdescriptor, hall⟩ := canonical_generates_same
  obtain ⟨-, -, hvalid, -, -, hfiles⟩ := hall orderDocument isValid_orderDocument
  obtain ⟨files, -, -, hvalue, hvalue'⟩ := hfiles {} Settings.isWritable_default
  exact ⟨isValid_orderDocument, parse_orderValue, hparse, hread,
    hdescriptor [] "relationship: product " _ hread, hvalid, files,
    hvalue orderValue parse_orderValue, hvalue' canonicalOrderValue hparse⟩

end Scaffold
