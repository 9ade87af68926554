import Mathlib.Data.List.Infix
import Scaffold.Proofs.Text.Filling
import Scaffold.Script

/-!
# Reading references

What generated code refers to, and what it offers, is read from the tokens of its lines: imports,
exports, calls with a literal, constants that a call without arguments makes, and members that are
taken of an object. `Cites` and `Uses` bound what a line has of these.

Filled tokens are read as the tokens with placeholders are, so that the bounds can be looked up in
the closed text (`citesText_of_holdsOf`, `usesText_of_holdsOf`).
-/

namespace Scaffold.Reading

open Text

/-! ### Tokens of one line -/

/-- The text of a word. -/
def word? : Token → Option String
  | .word s => some s
  | _ => none

/-- The words among tokens. -/
def words (ts : List Token) : List String := ts.filterMap word?

/-- A line that ends with the name of a source, as imports do. -/
structure Clause where
  verb : String
  parts : List Token
  link : String
  source : String
deriving DecidableEq

/-- Reads a line that ends with a word and the name of a source, perhaps with a semicolon. -/
def clause? (line : List Token) : Option Clause :=
  match line.reverse.dropWhile (· == .mark ';') with
  | .literal source :: .word link :: front =>
    match front.reverse with
    | .word verb :: parts => some ⟨verb, parts, link, source⟩
    | _ => none
  | _ => none

/-- What the clause imports. -/
def Clause.toImport (c : Clause) : Import :=
  match c.parts with
  | .word "type" :: parts => ⟨words parts, c.source, true⟩
  | parts => ⟨words parts, c.source, false⟩

/-- The import of a line. -/
def imported? (line : List Token) : Option Import :=
  (clause? line).bind fun c => if c.verb = "import" ∧ c.link = "from" then some c.toImport else none

/-- A call with one literal that the tokens begin with: the function and the literal. -/
def call? : List Token → Option (String × String)
  | .word f :: .mark opening :: .literal s :: .mark closing :: _ =>
    if opening = '(' ∧ closing = ')' then some (f, s) else none
  | _ => none

/-- The calls with one literal. -/
def calls (line : List Token) : List (String × String) := line.tails.filterMap call?

/-- The modules that are imported when they are needed. -/
def lazyImports (line : List Token) : List String :=
  ((calls line).filter (·.1 = "import")).map (·.2)

/-- The name that a line exports. -/
def export? : List Token → Option String
  | .word "export" :: .word kind :: .word name :: _ =>
    if kind ∈ ["const", "interface", "class"] then some name else none
  | _ => none

/-- A name that the tokens begin with, when a call without arguments is assigned to it and nothing
but semicolons stands behind the call: the name and the function. -/
def instance? : List Token → Option (String × String)
  | .word x :: .mark sign :: .word f :: .mark opening :: .mark closing :: rest =>
    if sign = '=' ∧ opening = '(' ∧ closing = ')' ∧ rest.all (· == .mark ';') = true
      then some (x, f)
    else none
  | _ => none

/-- The names that calls without arguments are assigned to. -/
def instances (line : List Token) : List (String × String) := line.tails.filterMap instance?

/-- A name that the tokens begin with, when a member is taken of it, perhaps only if it has a value:
the name and the member. -/
def access? : List Token → Option (String × String)
  | .word x :: .mark dot :: .word m :: _ => if dot = '.' then some (x, m) else none
  | .word x :: .mark question :: .mark dot :: .word m :: _ =>
    if question = '?' ∧ dot = '.' then some (x, m) else none
  | _ => none

/-- The members that are taken. -/
def accesses (line : List Token) : List (String × String) := line.tails.filterMap access?

/-- The name on a line that has nothing else but a comma. -/
def member? : List Token → Option String
  | [.word m] => some m
  | [.word m, .mark ','] => some m
  | _ => none

/-! ### Bounds -/

/-- What a line imports is among some imports, and what it imports when needed among some sources.
-/
structure Cites (imports : List Import) (sources : List String) (line : List Token) : Prop where
  mem_imports : ∀ i, imported? line = some i → i ∈ imports
  mem_sources : ∀ source ∈ lazyImports line, source ∈ sources

/-- What a line makes, and the members that it takes, are among some others. -/
structure Uses (made taken : List (String × String)) (line : List Token) : Prop where
  mem_made : ∀ p ∈ instances line, p ∈ made
  mem_taken : ∀ p ∈ accesses line, p ∈ taken

/-- A text that cites nothing else on any line. -/
def CitesText (imports : List Import) (sources : List String) (s : String) : Prop :=
  ∀ line ∈ splitOn '\n' s, Cites imports sources (tokens line)

/-- A text that uses nothing else on any line. -/
def UsesText (made taken : List (String × String)) (s : String) : Prop :=
  ∀ line ∈ splitOn '\n' s, Uses made taken (tokens line)

/-! ### Tokens that are read -/

/-- The verb and the source of a clause stand on its line. -/
theorem mem_of_clause? {ts : List Token} {c : Clause} (h : clause? ts = some c) :
    .word c.verb ∈ ts ∧ .literal c.source ∈ ts := by
  unfold clause? at h
  split at h
  next source link front heq =>
    have hsub : ∀ t ∈ Token.literal source :: .word link :: front, t ∈ ts := fun t ht =>
      List.mem_reverse.mp ((List.dropWhile_suffix _).subset (heq ▸ ht))
    split at h
    next verb parts hfront =>
      obtain rfl := Option.some.inj h
      have hverb : .word verb ∈ front := by
        rw [← List.mem_reverse, hfront]
        exact List.mem_cons_self
      exact ⟨hsub _ (.tail _ (.tail _ hverb)), hsub _ List.mem_cons_self⟩
    next => cases h
  next => cases h

/-- The function and the literal of a call stand on its line. -/
theorem mem_of_mem_calls {ts : List Token} {p : String × String} (h : p ∈ calls ts) :
    .word p.1 ∈ ts ∧ .literal p.2 ∈ ts := by
  obtain ⟨suffix, hsuffix, hread⟩ := List.mem_filterMap.mp h
  have hsub := ((List.mem_tails _ _).mp hsuffix).subset
  unfold call? at hread
  split at hread
  next =>
    split at hread
    next =>
      obtain rfl := Option.some.inj hread
      exact ⟨hsub List.mem_cons_self, hsub (.tail _ (.tail _ List.mem_cons_self))⟩
    next => cases hread
  next => cases hread

/-- Nothing is made without a sign of equality. -/
theorem equality_mem_of_mem_instances {ts : List Token} {p : String × String}
    (h : p ∈ instances ts) : .mark '=' ∈ ts := by
  obtain ⟨suffix, hsuffix, hread⟩ := List.mem_filterMap.mp h
  have hsub := ((List.mem_tails _ _).mp hsuffix).subset
  unfold instance? at hread
  split at hread
  next =>
    split at hread
    next hsign =>
      obtain ⟨rfl, -⟩ := hsign
      exact hsub (.tail _ List.mem_cons_self)
    next => cases hread
  next => cases hread

/-- No member is taken without a dot. -/
theorem dot_mem_of_mem_accesses {ts : List Token} {p : String × String} (h : p ∈ accesses ts) :
    .mark '.' ∈ ts := by
  obtain ⟨suffix, hsuffix, hread⟩ := List.mem_filterMap.mp h
  have hsub := ((List.mem_tails _ _).mp hsuffix).subset
  unfold access? at hread
  split at hread
  next =>
    split at hread
    next hdot =>
      subst hdot
      exact hsub (.tail _ List.mem_cons_self)
    next => cases hread
  next =>
    split at hread
    next hdot =>
      obtain ⟨-, rfl⟩ := hdot
      exact hsub (.tail _ (.tail _ List.mem_cons_self))
    next => cases hread
  next => cases hread

/-! ### Filled tokens -/

/-- Fills a clause. -/
def Clause.fill (σ : Filling) (c : Clause) : Clause where
  verb := σ.text c.verb
  parts := c.parts.map σ.token
  link := σ.text c.link
  source := σ.text c.source

/-- Fills an import. -/
def fillImport (σ : Filling) (i : Import) : Import where
  names := i.names.map σ.text
  source := σ.text i.source
  typesOnly := i.typesOnly

/-- Fills both parts of a pair. -/
def fillPair (σ : Filling) (p : String × String) : String × String := (σ.text p.1, σ.text p.2)

variable {σ : Filling}

/-- The line of a filled import. -/
@[simp] theorem text_line (i : Import) : σ.text i.line = (fillImport σ i).line := by
  obtain ⟨names, source, typesOnly⟩ := i
  cases typesOnly
  all_goals
    simp (disch := decide) [Import.line, fillImport, Filling.text_ascii, Filling.text_intercalate]

theorem commaSeparated_map (lines : List String) :
    (commaSeparated lines).map σ.text = commaSeparated (lines.map σ.text) := by
  have hcomma : σ.text "," = "," := σ.text_ascii (by decide)
  fun_induction commaSeparated lines with
  | case1 => rfl
  | case2 => rfl
  | case3 first next rest ih =>
    rw [List.map_cons, ih, Filling.text_append, hcomma]
    rfl

@[simp] theorem words_map (ts : List Token) : words (ts.map σ.token) = (words ts).map σ.text := by
  unfold words
  rw [List.filterMap_map, List.map_filterMap]
  congr 1
  funext t
  cases t <;> rfl

@[simp] theorem comp_isSemicolon : (fun t => t == Token.mark ';') ∘ σ.token = (· == .mark ';') := by
  funext t
  cases t <;> rfl

theorem clause?_map (line : List Token) :
    clause? (line.map σ.token) = (clause? line).map (Clause.fill σ) := by
  unfold clause?
  rw [← List.map_reverse, List.dropWhile_map, comp_isSemicolon]
  generalize line.reverse.dropWhile (· == .mark ';') = back
  rcases back with - | ⟨s | s | c, - | ⟨w | w | c', front⟩⟩
  case cons.literal.cons.word =>
    -- a literal and a word: what stands in front of them decides
    simp only [List.map_cons, Filling.token, ← List.map_reverse]
    generalize front.reverse = rest
    rcases rest with - | ⟨v | v | c, parts⟩
    all_goals rfl
  all_goals rfl

/-- Whether the first part is a mark, or a word without placeholders. -/
def Clause.isLed (c : Clause) : Bool :=
  match c.parts with
  | .mark _ :: _ => true
  | .word w :: _ => isAscii w
  | _ => false

theorem Clause.toImport_fill {c : Clause} (h : c.isLed = true) :
    (c.fill σ).toImport = fillImport σ c.toImport := by
  obtain ⟨verb, parts, link, source⟩ := c
  rcases parts with - | ⟨w | w | m, parts⟩
  case cons.word =>
    have hw : σ.text w = w := σ.text_ascii h
    by_cases htype : w = "type"
    · subst htype
      simp [Clause.fill, Clause.toImport, fillImport, Filling.token, hw]
    · have hwords :
          words (.word w :: parts.map σ.token) = (words (.word w :: parts)).map σ.text := by
        rw [← words_map, List.map_cons, Filling.token, hw]
      simp [Clause.fill, Clause.toImport, fillImport, Filling.token, hw, htype, hwords]
  case cons.mark =>
    show Import.mk (words ((Token.mark m :: parts).map σ.token)) _ _ = _
    rw [words_map]
    rfl
  all_goals cases h

@[simp]
theorem call?_map (ts : List Token) : call? (ts.map σ.token) = (call? ts).map (fillPair σ) := by
  rcases ts with - | ⟨f | f | f, - | ⟨o | o | o, - | ⟨s | s | s, - | ⟨c | c | c, rest⟩⟩⟩⟩
  case cons.word.cons.mark.cons.literal.cons.mark =>
    simp only [List.map_cons, Filling.token, call?]
    split_ifs <;> rfl
  all_goals rfl

@[simp]
theorem calls_map (ts : List Token) : calls (ts.map σ.token) = (calls ts).map (fillPair σ) := by
  rw [calls, List.map_tails, List.filterMap_map, calls, List.map_filterMap]
  exact List.filterMap_congr fun ts _ => call?_map ts

@[simp] theorem instance?_map (ts : List Token) :
    instance? (ts.map σ.token) = (instance? ts).map (fillPair σ) := by
  rcases ts with - | ⟨x | x | x, - | ⟨e | e | e, - | ⟨f | f | f, - | ⟨o | o | o, - |
    ⟨c | c | c, rest⟩⟩⟩⟩⟩
  case cons.word.cons.mark.cons.word.cons.mark.cons.mark =>
    simp only [List.map_cons, Filling.token, instance?, List.all_map, comp_isSemicolon]
    split_ifs <;> rfl
  all_goals rfl

@[simp] theorem instances_map (ts : List Token) :
    instances (ts.map σ.token) = (instances ts).map (fillPair σ) := by
  rw [instances, List.map_tails, List.filterMap_map, instances, List.map_filterMap]
  exact List.filterMap_congr fun ts _ => instance?_map ts

@[simp]
theorem access?_map (ts : List Token) :
    access? (ts.map σ.token) = (access? ts).map (fillPair σ) := by
  rcases ts with - | ⟨x | x | x, - | ⟨q | q | q, - | ⟨d | d | d, - | ⟨m | m | m, rest⟩⟩⟩⟩
  all_goals try rfl
  all_goals
    simp only [List.map_cons, Filling.token, access?, List.map_nil]
    split_ifs <;> rfl

@[simp] theorem accesses_map (ts : List Token) :
    accesses (ts.map σ.token) = (accesses ts).map (fillPair σ) := by
  rw [accesses, List.map_tails, List.filterMap_map, accesses, List.map_filterMap]
  exact List.filterMap_congr fun ts _ => access?_map ts

/-! ### Closed lines -/

/-- Whether a line with placeholders cites nothing else. -/
def citesOnly (imports : List Import) (sources : List String) (line : List Token) : Bool :=
  (clause? line).all (fun c => c.isLed && imports.contains c.toImport)
    && (calls line).all fun c => sources.contains c.2 || isAscii c.1 && c.1 != "import"

/-- Whether a line with placeholders uses nothing else. -/
def usesOnly (made taken : List (String × String)) (line : List Token) : Bool :=
  (instances line).all made.contains && (accesses line).all taken.contains

theorem Cites.of_citesOnly {imports : List Import} {sources : List String} {line : List Token}
    (h : citesOnly imports sources line = true) :
    Cites (imports.map (fillImport σ)) (sources.map σ.text) (line.map σ.token) := by
  rw [citesOnly, Bool.and_eq_true] at h
  obtain ⟨hclause, hcalls⟩ := h
  refine ⟨fun i hi => ?_, fun source hsource => ?_⟩
  · obtain ⟨filled, hfilled, hi⟩ := Option.bind_eq_some_iff.mp hi
    rw [clause?_map] at hfilled
    obtain ⟨c, hc, rfl⟩ := Option.map_eq_some_iff.mp hfilled
    rw [hc, Option.all_some, Bool.and_eq_true, List.contains_iff_mem] at hclause
    split at hi
    next =>
      obtain rfl := Option.some.inj hi
      rw [Clause.toImport_fill hclause.1]
      exact List.mem_map_of_mem hclause.2
    next => cases hi
  · -- filling a template makes no other call an import
    obtain ⟨p, hp, rfl⟩ := List.mem_map.mp hsource
    obtain ⟨hp, himport⟩ := List.mem_filter.mp hp
    rw [calls_map] at hp
    obtain ⟨c, hc, rfl⟩ := List.mem_map.mp hp
    have hcase := List.all_eq_true.mp hcalls c hc
    rw [Bool.or_eq_true, Bool.and_eq_true] at hcase
    rcases hcase with hmem | ⟨hascii, hne⟩
    · exact List.mem_map_of_mem (List.contains_iff_mem.mp hmem)
    · have hsame : σ.text c.1 = "import" := of_decide_eq_true himport
      rw [σ.text_ascii hascii] at hsame
      simp [hsame] at hne

theorem Uses.of_usesOnly {made taken : List (String × String)} {line : List Token}
    (h : usesOnly made taken line = true) :
    Uses (made.map (fillPair σ)) (taken.map (fillPair σ)) (line.map σ.token) := by
  rw [usesOnly, Bool.and_eq_true, List.all_eq_true, List.all_eq_true] at h
  constructor
  · intro p hp
    rw [instances_map] at hp
    obtain ⟨p', hp', rfl⟩ := List.mem_map.mp hp
    exact List.mem_map_of_mem (List.contains_iff_mem.mp (h.1 p' hp'))
  · intro p hp
    rw [accesses_map] at hp
    obtain ⟨p', hp', rfl⟩ := List.mem_map.mp hp
    exact List.mem_map_of_mem (List.contains_iff_mem.mp (h.2 p' hp'))

theorem Cites.mono {imports imports' : List Import} {sources sources' : List String}
    {line : List Token} (h : Cites imports sources line) (himports : imports ⊆ imports')
    (hsources : sources ⊆ sources') : Cites imports' sources' line :=
  ⟨fun i hi => himports (h.mem_imports i hi), fun s hs => hsources (h.mem_sources s hs)⟩

theorem Uses.mono {made made' taken taken' : List (String × String)} {line : List Token}
    (h : Uses made taken line) (hmade : made ⊆ made') (htaken : taken ⊆ taken') :
    Uses made' taken' line :=
  ⟨fun p hp => hmade (h.mem_made p hp), fun p hp => htaken (h.mem_taken p hp)⟩

theorem Cites.of_eq_nil {line : List Token} (hclause : clause? line = none)
    (hcalls : calls line = []) :
    Cites [] [] line := by
  constructor
  · intro i hi
    rw [imported?, hclause] at hi
    cases hi
  · intro source hsource
    rw [lazyImports, hcalls] at hsource
    cases hsource

theorem Uses.of_eq_nil {line : List Token} (hmade : instances line = [])
    (htaken : accesses line = []) : Uses [] [] line := by
  constructor
  · intro p hp
    rw [hmade] at hp
    cases hp
  · intro p hp
    rw [htaken] at hp
    cases hp

/-- A line without literals cites nothing. -/
theorem Cites.of_literal_notMem {line : List Token} (h : ∀ s, .literal s ∉ line) :
    Cites [] [] line := by
  refine ⟨fun i hi => ?_, fun source hsource => ?_⟩
  · obtain ⟨c, hc, -⟩ := Option.bind_eq_some_iff.mp hi
    exact absurd (mem_of_clause? hc).2 (h _)
  · obtain ⟨p, hp, rfl⟩ := List.mem_map.mp hsource
    exact absurd (mem_of_mem_calls (List.mem_filter.mp hp).1).2 (h _)

/-- Whether something holds of the tokens of all lines that closed texts break into. -/
def holdsOf (p : List Token → Bool) (texts : List String) : Bool :=
  texts.all fun s => isNarrow s && ((scan s).splitOn '\n').all fun cs => p (lineTokens cs)

/-- The lines that a filled text breaks into have the filled tokens. -/
theorem exists_tokens_of_holdsOf {p : List Token → Bool} {texts : List String}
    (h : holdsOf p texts = true) {s : String} (hs : s ∈ texts.map σ.text) {line : String}
    (hline : line ∈ splitOn '\n' s) : ∃ ts, p ts = true ∧ tokens line = ts.map σ.token := by
  obtain ⟨closed, hclosed, rfl⟩ := List.mem_map.mp hs
  rw [σ.splitOn_text] at hline
  obtain ⟨part, hpart, rfl⟩ := List.mem_map.mp hline
  obtain ⟨hnarrow, hall⟩ := (Bool.and_eq_true _ _).mp (List.all_eq_true.mp h closed hclosed)
  rw [← toList_eq_scan hnarrow] at hall
  obtain ⟨cs, hcs, rfl⟩ := List.mem_map.mp hpart
  refine ⟨lineTokens cs, List.all_eq_true.mp hall cs hcs, ?_⟩
  rw [σ.tokens_text, tokens, String.toList_ofList]

theorem holdsOf_mono {p q : List Token → Bool} (hpq : ∀ ts, p ts = true → q ts = true)
    {texts : List String} (h : holdsOf p texts = true) : holdsOf q texts = true := by
  refine List.all_eq_true.mpr fun s hs => ?_
  obtain ⟨hnarrow, hall⟩ := (Bool.and_eq_true _ _).mp (List.all_eq_true.mp h s hs)
  refine (Bool.and_eq_true _ _).mpr ⟨hnarrow, List.all_eq_true.mpr fun cs hcs => ?_⟩
  exact hpq _ (List.all_eq_true.mp hall cs hcs)

/-- What closed texts cite is what the filled texts cite, filled itself. -/
theorem citesText_of_holdsOf {imports : List Import} {sources : List String} {texts : List String}
    (h : holdsOf (citesOnly imports sources) texts = true) :
    ∀ s ∈ texts.map σ.text, CitesText (imports.map (fillImport σ)) (sources.map σ.text) s := by
  intro s hs line hline
  obtain ⟨ts, hts, heq⟩ := exists_tokens_of_holdsOf h hs hline
  rw [heq]
  exact .of_citesOnly hts

/-- So is what they use. -/
theorem usesText_of_holdsOf {made taken : List (String × String)} {texts : List String}
    (h : holdsOf (usesOnly made taken) texts = true) :
    ∀ s ∈ texts.map σ.text, UsesText (made.map (fillPair σ)) (taken.map (fillPair σ)) s := by
  intro s hs line hline
  obtain ⟨ts, hts, heq⟩ := exists_tokens_of_holdsOf h hs hline
  rw [heq]
  exact .of_usesOnly hts

/-- Whether a line with placeholders cites and uses nothing else. -/
def refersOnly (imports : List Import) (made taken : List (String × String)) (line : List Token) :
    Bool :=
  citesOnly imports [] line && usesOnly made taken line

/-- What closed texts refer to is what the filled texts refer to, filled itself. -/
theorem refersText_of_holdsOf {imports : List Import} {made taken : List (String × String)}
    {texts : List String} (h : holdsOf (refersOnly imports made taken) texts = true) :
    ∀ s ∈ texts.map σ.text, CitesText (imports.map (fillImport σ)) [] s
      ∧ UsesText (made.map (fillPair σ)) (taken.map (fillPair σ)) s := by
  have hcites := holdsOf_mono (fun ts hts => ((Bool.and_eq_true _ _).mp hts).1) h
  have huses := holdsOf_mono (fun ts hts => ((Bool.and_eq_true _ _).mp hts).2) h
  exact fun s hs => ⟨citesText_of_holdsOf hcites s hs, usesText_of_holdsOf huses s hs⟩

/-! ### What lines have -/

/-- Whether a line with placeholders is an import. -/
def importsAs (i : Import) (line : List Token) : Bool :=
  (clause? line).any fun c => c.isLed && c.verb == "import" && c.link == "from" && c.toImport == i

/-- Whether a line with placeholders makes something. -/
def makes (p : String × String) (line : List Token) : Bool := (instances line).contains p

/-- Whether a line with placeholders takes a member. -/
def takes (p : String × String) (line : List Token) : Bool := (accesses line).contains p

theorem imported?_map_of_importsAs {i : Import} {line : List Token} (h : importsAs i line = true) :
    imported? (line.map σ.token) = some (fillImport σ i) := by
  rw [importsAs, Option.any_eq_true] at h
  obtain ⟨c, hc, h⟩ := h
  simp only [Bool.and_eq_true, beq_iff_eq] at h
  obtain ⟨⟨⟨hled, hverb⟩, hlink⟩, rfl⟩ := h
  have himport : σ.text "import" = "import" := σ.text_ascii (by decide)
  have hfrom : σ.text "from" = "from" := σ.text_ascii (by decide)
  rw [imported?, clause?_map, hc, Option.map_some, Option.bind_some, if_pos,
    Clause.toImport_fill hled]
  simp only [Clause.fill, hverb, hlink, himport, hfrom, and_self]

/-- Of a filled text, one line has the filled tokens of a line that something holds of. -/
theorem exists_line_of_holdsOf {p : List Token → Bool} {closed : String}
    (h : holdsOf p [closed] = true) : ∃ line ∈ splitOn '\n' (σ.text closed),
      ∃ ts, p ts = true ∧ tokens line = ts.map σ.token := by
  have hne : splitOn '\n' (σ.text closed) ≠ [] := by simp [splitOn]
  obtain ⟨line, hline⟩ := List.exists_mem_of_ne_nil _ hne
  exact ⟨line, hline, exists_tokens_of_holdsOf h (List.mem_singleton_self _) hline⟩

/-! ### Texts -/

theorem CitesText.mono {imports imports' : List Import} {sources sources' : List String}
    {s : String} (h : CitesText imports sources s) (himports : imports ⊆ imports')
    (hsources : sources ⊆ sources') : CitesText imports' sources' s :=
  fun line hline => (h line hline).mono himports hsources

theorem UsesText.mono {made made' taken taken' : List (String × String)} {s : String}
    (h : UsesText made taken s) (hmade : made ⊆ made') (htaken : taken ⊆ taken') :
    UsesText made' taken' s :=
  fun line hline => (h line hline).mono hmade htaken

/-- A text that is one line cites what its tokens cite. -/
theorem CitesText.of_tokens {imports : List Import} {sources : List String} {s : String}
    (hbreak : '\n' ∉ s.toList) (h : Cites imports sources (tokens s)) :
    CitesText imports sources s := by
  intro line hline
  rw [splitOn_of_notMem hbreak, List.mem_singleton] at hline
  rwa [hline]

theorem UsesText.of_tokens {made taken : List (String × String)} {s : String}
    (hbreak : '\n' ∉ s.toList) (h : Uses made taken (tokens s)) : UsesText made taken s := by
  intro line hline
  rw [splitOn_of_notMem hbreak, List.mem_singleton] at hline
  rwa [hline]

/-- A text without quotation marks cites nothing. -/
theorem CitesText.of_unquoted {s : String} (h : Unquoted s) : CitesText [] [] s :=
  fun _ hline => .of_literal_notMem fun text => h.notMem_tokens hline text

end Scaffold.Reading
