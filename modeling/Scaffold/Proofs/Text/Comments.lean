import Scaffold.Proofs.Text.Decoding
import Scaffold.Proofs.Text.Occurrences
import Scaffold.Proofs.Text.Parts

/-!
# Comments

A documentation comment goes from `/**` to the next `*/`. `aroundComments?` reads what a text has
around its comments. Texts that are quoted in a comment may be any texts: guarding them leaves no
`*/` in them (`not_infix_guardClose`), and puts a quotation mark at their end, so that they close no
comment together with what follows them either (`staysOpen_docText`).
-/

namespace Scaffold.Text

/-- What closes a comment. -/
def commentEnd : List Char := ['*', '/']

/-! ### Reading -/

/-- The parts of a text around its comments. What is read goes on with `part`, or is inside a
comment; a text that ends there has no parts. -/
def partsFrom? : Option (List Char) → List Char → Option (List (List Char))
  | some part, '/' :: '*' :: '*' :: rest => (partsFrom? none rest).map (part :: ·)
  | some part, c :: rest => partsFrom? (some (part ++ [c])) rest
  | some part, [] => some [part]
  | none, '*' :: '/' :: rest => partsFrom? (some []) rest
  | none, _ :: rest => partsFrom? none rest
  | none, [] => none

/-- The parts of a text around its comments, in their order. -/
def aroundComments? (text : String) : Option (List String) :=
  (partsFrom? (some []) text.toList).map (·.map String.ofList)

/-- A text that is as many comments with blank lines around them, in which `*/` stands nowhere but
alone on the lines that close a comment. -/
structure IsComments (n : Nat) (content : String) : Prop where
  count : occurrences commentEnd content.toList = n
  alone : ∀ line ∈ splitOn '\n' content, commentEnd <:+: line.toList → line = " */"
  around : ∃ parts, aroundComments? content = some parts ∧ parts.length = n + 1
    ∧ ∀ line ∈ splitOn '\n' (String.join parts), line = ""

/-- A comment is read up to the first place at which it is closed. -/
theorem partsFrom?_none_append {body : List Char} (h : ¬ commentEnd <:+: body) (rest : List Char) :
    partsFrom? none (body ++ '*' :: '/' :: rest) = partsFrom? (some []) rest := by
  induction body with
  | nil => rfl
  | cons c body ih =>
    rw [List.infix_cons_iff, not_or] at h
    have hopen : ∀ tail, c = '*' → body ++ '*' :: '/' :: rest = '/' :: tail → False := by
      rintro tail rfl htail
      cases body with
      | nil => simp at htail
      | cons d body =>
        obtain ⟨rfl, -⟩ := List.cons.inj htail
        exact h.1 ⟨body, rfl⟩
    rw [List.cons_append, partsFrom?.eq_5 _ _ hopen]
    exact ih h.2

/-- Around comments with empty lines between them there is nothing but line feeds. -/
theorem exists_partsFrom? {bodies : List (List Char)} (hne : bodies ≠ [])
    (h : ∀ body ∈ bodies, ¬ commentEnd <:+: body) (part : List Char) :
    ∃ parts, partsFrom? (some part) (['\n', '\n'].intercalate
        (bodies.map fun body => '/' :: '*' :: '*' :: (body ++ commentEnd)) ++ ['\n'])
          = some (part :: parts)
      ∧ parts.length = bodies.length ∧ ∀ p ∈ parts, ∀ c ∈ p, c = '\n' := by
  induction bodies generalizing part with
  | nil => exact absurd rfl hne
  | cons body rest ih =>
    obtain ⟨hbody, hrest⟩ := List.forall_mem_cons.mp h
    -- no body holds an end, so each comment is closed by its own
    have hread : ∀ behind, partsFrom? (some part)
        ('/' :: '*' :: '*' :: (body ++ commentEnd) ++ behind)
          = (partsFrom? (some []) behind).map (part :: ·) := by
      intro behind
      have hcomment : '/' :: '*' :: '*' :: (body ++ commentEnd) ++ behind
          = '/' :: '*' :: '*' :: (body ++ '*' :: '/' :: behind) := by
        simp [commentEnd]
      rw [hcomment, partsFrom?, partsFrom?_none_append hbody]
    have hempty : ∀ behind, partsFrom? (some []) ('\n' :: '\n' :: behind)
        = partsFrom? (some ['\n', '\n']) behind := fun _ => rfl
    cases rest with
    | nil =>
      refine ⟨[['\n']], ?_, rfl, by simp⟩
      rw [List.map_singleton, List.intercalate_singleton, hread]
      rfl
    | cons second others =>
      obtain ⟨parts, hparts, hlength, hbreaks⟩ := ih (List.cons_ne_nil _ _) hrest ['\n', '\n']
      refine ⟨['\n', '\n'] :: parts, ?_, by simp [hlength], ?_⟩
      · rw [List.map_cons] at hparts
        rw [List.map_cons, List.map_cons, List.intercalate_cons_cons, List.append_assoc,
          List.append_assoc, hread, List.cons_append, List.cons_append, List.nil_append, hempty,
          hparts]
        rfl
      · exact List.forall_mem_cons.mpr ⟨by simp, hbreaks⟩

/-! ### Parts of comments -/

/-- A part of a comment in which it is not closed, nor by what follows. -/
def StaysOpen (s : String) : Prop := Adds commentEnd 0 s

/-- A text without asterisks. -/
def Starless (s : String) : Prop := '*' ∉ s.toList

instance (s : String) : Decidable (Starless s) := inferInstanceAs (Decidable ('*' ∉ s.toList))

theorem isPiecewise_starless : IsPiecewise (fun cs => !cs.contains '*') Starless :=
  isPiecewise_notMem '*'

theorem Starless.staysOpen {s : String} (h : Starless s) : StaysOpen s :=
  ⟨isClosed_of_notMem rfl h, occurrences_of_notMem rfl h⟩

theorem staysOpen_literal {cs : List Char} (h : (!cs.contains '*') = true) :
    StaysOpen (String.ofList cs) :=
  (isPiecewise_starless.literal h).staysOpen

theorem StaysOpen.append {s t : String} (hs : StaysOpen s) (ht : StaysOpen t) :
    StaysOpen (s ++ t) :=
  Adds.append hs ht

theorem StaysOpen.intercalate {sep : String} (hsep : StaysOpen sep) {parts : List String}
    (h : ∀ part ∈ parts, StaysOpen part) : StaysOpen (sep.intercalate parts) :=
  intercalate_of_append (Starless.staysOpen (by decide)) StaysOpen.append hsep h

theorem StaysOpen.not_isInfix {s : String} (h : StaysOpen s) : ¬ commentEnd <:+: s.toList :=
  (occurrences_eq_zero_iff (List.cons_ne_nil _ _)).mp h.count

/-! ### Quoted texts -/

@[simp] theorem head?_guardClose (cs : List Char) : (DocText.guardClose cs).head? = cs.head? := by
  fun_cases DocText.guardClose cs <;> rfl

/-- Guarding leaves no place at which a comment is closed. -/
theorem not_infix_guardClose (cs : List Char) : ¬ commentEnd <:+: DocText.guardClose cs := by
  induction cs using DocText.guardClose.induct with
  | case1 rest ih =>
    rw [DocText.guardClose]
    simp only [List.infix_cons_iff, not_or]
    exact ⟨by simp [commentEnd], by simp [commentEnd], by simp [commentEnd], ih⟩
  | case2 c rest hne ih =>
    rw [DocText.guardClose.eq_2 _ _ hne, List.infix_cons_iff, not_or]
    refine ⟨?_, ih⟩
    -- an asterisk in front of a slash would have been guarded
    rintro ⟨behind, hbehind⟩
    obtain ⟨rfl, hslash⟩ := List.cons.inj hbehind
    have hhead : rest.head? = some '/' := by
      rw [← head?_guardClose, ← hslash]
      rfl
    obtain ⟨tail, rfl⟩ := List.head?_eq_some_iff.mp hhead
    exact hne tail rfl rfl
  | case3 => simp [DocText.guardClose, commentEnd]

@[simp]
theorem getLast?_guardClose (cs : List Char) : (DocText.guardClose cs).getLast? = cs.getLast? := by
  induction cs using DocText.guardClose.induct with
  | case1 rest ih => simp [DocText.guardClose, List.getLast?_cons, ih]
  | case2 c rest hne ih =>
    rw [DocText.guardClose.eq_2 _ _ hne, List.getLast?_cons, ih, List.getLast?_cons]
  | case3 => rfl

/-- A quoted text closes no comment. -/
theorem staysOpen_docText (s : String) : StaysOpen (docText s) := by
  have hquote : (docText s).toList.getLast? = some '"' := by
    rw [docText, String.toList_ofList, getLast?_guardClose, List.getLast?_concat]
  obtain ⟨front, hfront⟩ := List.getLast?_eq_some_iff.mp hquote
  constructor
  · rw [hfront]
    exact isClosed_concat (by decide)
  · rw [occurrences_eq_zero_iff (show commentEnd ≠ [] by decide), docText, String.toList_ofList]
    exact not_infix_guardClose _

end Scaffold.Text
