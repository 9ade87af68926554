import Scaffold.Proofs.Text.Occurrences
import Scaffold.Proofs.Text.Split

/-!
# Tags and their attributes

A reader that goes through a text place by place finds in a joined text what it finds in the parts,
if each part contributes the same whatever follows it (`Contributes`). `tagsAt` finds the tags that
begin in one of some ways, each up to its closing bracket. `attributes` takes a tag apart at the
blanks that stand outside of its quotation marks, so that a value is not taken for anything else,
whatever words are in it (`attributes_openTag`).
-/

namespace Scaffold.Text

/-- A text at the blanks that stand outside of quotation marks. -/
def splitOutside : Bool → List Char → List (List Char)
  | _, [] => [[]]
  | quoted, c :: rest =>
    if quoted = false ∧ c = ' ' then [] :: splitOutside false rest
    else (splitOutside (quoted != (c == '"')) rest).modifyHead (c :: ·)

/-- The parts of a tag: its name, and its attributes with their values. -/
def attributes (tag : List Char) : List String :=
  (splitOutside false tag).map String.ofList

/-- Whether a text ends outside of quotation marks and has no blank there. -/
def isWhole : Bool → List Char → Bool
  | quoted, [] => !quoted
  | quoted, c :: rest => (quoted || c != ' ') && isWhole (quoted != (c == '"')) rest

/-- A text that stands in a tag as one part, without brackets. -/
structure IsPart (s : String) : Prop where
  whole : isWhole false s.toList = true
  opening : '<' ∉ s.toList
  closing : '>' ∉ s.toList

/-- A text that can be the value of an attribute. -/
structure IsAttributeValue (s : String) : Prop where
  quote : '"' ∉ s.toList
  opening : '<' ∉ s.toList
  closing : '>' ∉ s.toList

/-! ### What parts contribute -/

section

variable {α : Type} {read : List Char → List α}

/-- A reader finds these items in a part of a text, whatever follows it. -/
def Contributes (read : List Char → List α) (items : List α) (s : String) : Prop :=
  ∀ rest, read (s.toList ++ rest) = items ++ read rest

theorem Contributes.append {items others : List α} {s t : String} (hs : Contributes read items s)
    (ht : Contributes read others t) : Contributes read (items ++ others) (s ++ t) := by
  intro rest
  rw [String.toList_append, List.append_assoc, hs, ht, List.append_assoc]

theorem contributes_empty : Contributes read [] "" := fun _ => rfl

/-- What the lines contribute is found in the joined text, in their order. -/
theorem Contributes.joined {items : List (List α)} {lines : List String} {sep : String}
    (h : List.Forall₂ (Contributes read) items lines) (hsep : Contributes read [] sep) :
    Contributes read items.flatten (sep.intercalate lines) := by
  induction h with
  | nil => exact contributes_empty
  | @cons first line items lines hfirst hrest ih =>
    cases hrest with
    | nil => simpa using hfirst
    | cons =>
      rw [String.intercalate_cons_cons, List.flatten_cons]
      simpa using (hfirst.append hsep).append ih

/-- A reader finds these items in lines, one line after another. -/
def ContributesAll (read : List Char → List α) (items : List α) (lines : List String) : Prop :=
  ∃ parts, List.Forall₂ (Contributes read) parts lines ∧ parts.flatten = items

theorem contributesAll_nil {lines : List String} (h : ∀ l ∈ lines, Contributes read [] l) :
    ContributesAll read [] lines := by
  refine ⟨lines.map fun _ => [], ?_, by simp⟩
  rw [List.forall₂_map_left_iff, List.forall₂_same]
  exact h

theorem Contributes.all {items : List α} {line : String} (h : Contributes read items line) :
    ContributesAll read items [line] :=
  ⟨[items], .cons h .nil, by simp⟩

theorem ContributesAll.append {items others : List α} {front back : List String}
    (hfront : ContributesAll read items front) (hback : ContributesAll read others back) :
    ContributesAll read (items ++ others) (front ++ back) := by
  obtain ⟨parts, hparts, rfl⟩ := hfront
  obtain ⟨parts', hparts', rfl⟩ := hback
  exact ⟨parts ++ parts', List.rel_append hparts hparts', List.flatten_append⟩

/-- What blocks of lines contribute is found in all their lines, in their order. -/
theorem ContributesAll.intercalate {items : List (List α)} {blocks : List (List String)}
    {sep : List String} (h : List.Forall₂ (ContributesAll read) items blocks)
    (hsep : ContributesAll read [] sep) :
    ContributesAll read items.flatten (sep.intercalate blocks) := by
  induction h with
  | nil => exact contributesAll_nil (List.forall_mem_nil _)
  | @cons first block items blocks hfirst hrest ih =>
    cases hrest with
    | nil => simpa using hfirst
    | cons =>
      rw [List.intercalate_cons_cons, List.flatten_cons]
      simpa using (hfirst.append hsep).append ih

theorem ContributesAll.joined {items : List α} {lines : List String} {sep : String}
    (h : ContributesAll read items lines) (hsep : Contributes read [] sep) :
    Contributes read items (sep.intercalate lines) := by
  obtain ⟨parts, hparts, rfl⟩ := h
  exact Contributes.joined hparts hsep

theorem Contributes.read_eq {items : List α} {s : String} (h : Contributes read items s)
    (hempty : read [] = []) : read s.toList = items := by
  simpa [hempty] using h []

/-! ### Readers that look for beginnings -/

/-- An item for each place of a text that begins in one of some ways. -/
def readAt (starts : List (List Char)) (item : List Char → α) : List Char → List α
  | [] => []
  | c :: rest =>
    if ∃ start ∈ starts, start <+: c :: rest then item (c :: rest) :: readAt starts item rest
    else readAt starts item rest

variable {starts : List (List Char)} {item : List Char → α}

/-- A closed part in which nothing begins contributes nothing. -/
theorem contributes_nil_of_adds {s : String} (h : ∀ start ∈ starts, Adds start 0 s) :
    Contributes (readAt starts item) [] s := by
  have hclosed : ∀ start ∈ starts, IsClosed start s.toList := fun start hstart =>
    (h start hstart).closed
  have hcount : ∀ start ∈ starts, occurrences start s.toList = 0 := fun start hstart =>
    (h start hstart).count
  intro rest
  show readAt starts item _ = readAt starts item rest
  generalize s.toList = cs at hclosed hcount
  induction cs with
  | nil => rfl
  | cons c cs ih =>
    have hnot : ¬ ∃ start ∈ starts, start <+: c :: (cs ++ rest) := by
      rintro ⟨start, hstart, hbegins⟩
      rw [← List.cons_append, (hclosed start hstart).prefix_append_iff (List.cons_ne_nil c cs)]
        at hbegins
      have hzero := hcount start hstart
      simp [occurrences, hbegins] at hzero
    rw [List.cons_append, readAt, if_neg hnot]
    refine ih (fun start hstart => (hclosed start hstart).tail) fun start hstart => ?_
    have hzero := hcount start hstart
    rw [occurrences, Nat.add_eq_zero_iff] at hzero
    exact hzero.2

/-- A part that begins in such a way contributes its item, and nothing else if the remainder of it
contributes nothing. -/
theorem contributes_of_begins {c : Char} {cs start : List Char} {x : α} (hstart : start ∈ starts)
    (hbegins : start <+: c :: cs) (hitem : ∀ rest, item (c :: cs ++ rest) = x)
    (htail : Contributes (readAt starts item) [] (String.ofList cs)) :
    Contributes (readAt starts item) [x] (String.ofList (c :: cs)) := by
  intro rest
  have hrest := htail rest
  rw [String.toList_ofList] at hrest ⊢
  have hplace : ∃ start ∈ starts, start <+: c :: (cs ++ rest) :=
    ⟨start, hstart, hbegins.trans (List.prefix_append (c :: cs) rest)⟩
  rw [List.cons_append, readAt, if_pos hplace, hrest, ← hitem rest]
  rfl

end

/-! ### Parts of tags -/

/-- The tags in a text that begin in one of some ways, without the closing bracket. -/
def tagsAt (starts : List (List Char)) : List Char → List (List Char) :=
  readAt starts fun cs => cs.takeWhile (· != '>')

section

variable {quoted : Bool} {a rest : List Char}

theorem splitOutside_append (h : isWhole quoted a = true) :
    splitOutside quoted (a ++ ' ' :: rest) = a :: splitOutside false rest := by
  induction a generalizing quoted with
  | nil =>
    obtain rfl : quoted = false := by simpa [isWhole] using h
    simp [splitOutside]
  | cons c cs ih =>
    rw [isWhole, Bool.and_eq_true] at h
    have hinside : ¬ (quoted = false ∧ c = ' ') := by
      rintro ⟨rfl, rfl⟩
      exact absurd h.1 (by decide)
    rw [List.cons_append, splitOutside, if_neg hinside, ih h.2, List.modifyHead_cons]

theorem splitOutside_of_isWhole (h : isWhole quoted a = true) : splitOutside quoted a = [a] := by
  induction a generalizing quoted with
  | nil => rfl
  | cons c cs ih =>
    rw [isWhole, Bool.and_eq_true] at h
    have hinside : ¬ (quoted = false ∧ c = ' ') := by
      rintro ⟨rfl, rfl⟩
      exact absurd h.1 (by decide)
    rw [splitOutside, if_neg hinside, ih h.2, List.modifyHead_cons]

end

/-! ### Attributes -/

/-- An attribute with its value. -/
def valued (name value : String) : String := name ++ "=\"" ++ value ++ "\""

/-- The beginning of a tag up to its closing bracket: its first part, and others behind blanks. -/
def openTag (first : String) (others : List String) : String :=
  first ++ String.join (others.map (" " ++ ·))

theorem IsAttributeValue.append {s t : String} (hs : IsAttributeValue s) (ht : IsAttributeValue t) :
    IsAttributeValue (s ++ t) where
  quote := notMem_append hs.quote ht.quote
  opening := notMem_append hs.opening ht.opening
  closing := notMem_append hs.closing ht.closing

theorem isWhole_append_of_notMem {name rest : List Char} (hblank : ' ' ∉ name)
    (hquote : '"' ∉ name) : isWhole false (name ++ rest) = isWhole false rest := by
  induction name with
  | nil => rfl
  | cons c cs ih =>
    rw [List.mem_cons, not_or] at hblank hquote
    have hc : (c != ' ') = true := bne_iff_ne.mpr (Ne.symm hblank.1)
    have hc' : (c == '"') = false := beq_eq_false_iff_ne.mpr (Ne.symm hquote.1)
    rw [List.cons_append, isWhole, hc, hc']
    exact ih hblank.2 hquote.2

theorem isWhole_value {value : List Char} (hquote : '"' ∉ value) :
    isWhole true (value ++ ['"']) = true := by
  induction value with
  | nil => rfl
  | cons c cs ih =>
    rw [List.mem_cons, not_or] at hquote
    have hc : (c == '"') = false := beq_eq_false_iff_ne.mpr (Ne.symm hquote.1)
    rw [List.cons_append, isWhole, hc]
    exact ih hquote.2

/-- Whether no character of a name ends it or sets it apart. -/
def isAttributeName (name : String) : Bool :=
  name.toList.all fun c => !([' ', '"', '<', '>', '='].contains c)

theorem notMem_of_isAttributeName {name : String} (h : isAttributeName name = true) {c : Char}
    (hc : [' ', '"', '<', '>', '='].contains c = true) : c ∉ name.toList := by
  intro hmem
  have hno := List.all_eq_true.mp h c hmem
  rw [hc] at hno
  cases hno

theorem isPart_valued {name value : String} (hname : isAttributeName name = true)
    (hvalue : IsAttributeValue value) : IsPart (valued name value) where
  whole := by
    have hchars : (valued name value).toList
        = name.toList ++ '=' :: '"' :: (value.toList ++ ['"']) := by
      simp [valued]
    rw [hchars, isWhole_append_of_notMem (notMem_of_isAttributeName hname rfl)
      (notMem_of_isAttributeName hname rfl)]
    exact isWhole_value hvalue.quote
  opening := by
    simp [valued, hvalue.opening, notMem_of_isAttributeName hname (c := '<') rfl]
  closing := by
    simp [valued, hvalue.closing, notMem_of_isAttributeName hname (c := '>') rfl]

/-- Attributes are the same when their names are and their values. -/
theorem valued_eq_iff {name other value value' : String} (hname : isAttributeName name = true)
    (hother : isAttributeName other = true) :
    valued name value = valued other value' ↔ name = other ∧ value = value' := by
  constructor
  · intro heq
    have hchars : name.toList ++ '=' :: ('"' :: (value.toList ++ ['"']))
        = other.toList ++ '=' :: ('"' :: (value'.toList ++ ['"'])) := by
      simpa [valued] using congrArg String.toList heq
    obtain ⟨hnames, hvalues⟩ := eq_of_append_cons_eq (notMem_of_isAttributeName hname rfl)
      (notMem_of_isAttributeName hother rfl) hchars
    have hvalues := List.append_cancel_right (List.cons.inj hvalues).2
    exact ⟨String.toList_inj.mp hnames, String.toList_inj.mp hvalues⟩
  · rintro ⟨rfl, rfl⟩
    rfl

/-- An attribute with a value is no word. -/
theorem valued_ne_of_notMem {name value word : String} (h : '"' ∉ word.toList) :
    valued name value ≠ word := by
  rintro rfl
  simp [valued] at h

/-- The parts of a tag are those that it is made of. -/
theorem attributes_openTag {first : String} {others : List String}
    (hfirst : isWhole false first.toList = true) (h : ∀ part ∈ others, IsPart part) :
    attributes (openTag first others).toList = first :: others := by
  have hsplit : splitOutside false (openTag first others).toList
      = (first :: others).map String.toList := by
    induction others generalizing first with
    | nil =>
      have htag : openTag first [] = first := by simp [openTag, String.join]
      rw [htag, splitOutside_of_isWhole hfirst]
      rfl
    | cons second others ih =>
      obtain ⟨hsecond, hothers⟩ := List.forall_mem_cons.mp h
      have htag : (openTag first (second :: others)).toList
          = first.toList ++ ' ' :: (openTag second others).toList := by
        simp [openTag]
      rw [htag, splitOutside_append hfirst, ih hsecond.whole hothers]
      rfl
  rw [attributes, hsplit, List.map_map]
  simp [Function.comp_def]

theorem notMem_openTag {c : Char} {first : String} {others : List String} (hc : c ≠ ' ')
    (hfirst : c ∉ first.toList) (h : ∀ part ∈ others, c ∉ part.toList) :
    c ∉ (openTag first others).toList := by
  have hothers : c ∉ (String.join (others.map (" " ++ ·))).toList := by
    induction others with
    | nil => simp [String.join]
    | cons part others ih =>
      obtain ⟨hpart, hothers⟩ := List.forall_mem_cons.mp h
      rw [List.map_cons, String.join_cons]
      exact notMem_append (notMem_append (by simp [hc]) hpart) (ih hothers)
  exact notMem_append hfirst hothers

/-- A tag is found where it is opened. -/
theorem contributes_openTag {starts : List (List Char)} {name : String} {others : List String}
    (hheads : ∀ start ∈ starts, start.head? = some '<') (hstart : '<' :: name.toList ∈ starts)
    (hname : isAttributeName name = true) (h : ∀ part ∈ others, IsPart part) :
    Contributes (tagsAt starts) [(openTag ("<" ++ name) others).toList]
      (openTag ("<" ++ name) others ++ ">") := by
  -- no part holds an angle bracket: the tag begins once and ends where it is closed
  have hbehind : '<' ∉ (openTag name others).toList :=
    notMem_openTag (by decide) (notMem_of_isAttributeName hname rfl) fun part hpart =>
      (h part hpart).opening
  have hend : '>' ∉ (openTag ("<" ++ name) others).toList :=
    notMem_openTag (by decide)
      (by simp [notMem_of_isAttributeName hname (c := '>') rfl]) fun part hpart =>
      (h part hpart).closing
  have hchars : (openTag ("<" ++ name) others).toList = '<' :: (openTag name others).toList := by
    simp [openTag]
  have htext : openTag ("<" ++ name) others ++ ">"
      = String.ofList ('<' :: ((openTag name others).toList ++ ['>'])) := by
    rw [← String.toList_inj, String.toList_append, hchars, String.toList_ofList, List.cons_append]
    simp
  rw [htext]
  refine contributes_of_begins hstart ?_ ?_ (contributes_nil_of_adds fun start hmem => ?_)
  · rw [openTag, String.toList_append, List.append_assoc]
    exact List.cons_prefix_cons.mpr ⟨rfl, List.prefix_append _ _⟩
  · intro rest
    have hrest : '<' :: ((openTag name others).toList ++ ['>']) ++ rest
        = (openTag ("<" ++ name) others).toList ++ '>' :: rest := by
      rw [hchars]
      simp
    rw [hrest]
    exact takeWhile_ne_append_cons hend
  · have hbare : '<' ∉ (String.ofList ((openTag name others).toList ++ ['>'])).toList := by
      simp [hbehind]
    exact ⟨isClosed_of_notMem (hheads start hmem) hbare,
      occurrences_of_notMem (hheads start hmem) hbare⟩

end Scaffold.Text
