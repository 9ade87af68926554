import Scaffold.Text.Literal
import Scaffold.Text.Numeral

/-!
# What string literals evaluate to

`evaluated?` reads a piece of a script in strict mode: its code, and the values of its literals
between single quotation marks, as code units. It knows every escape there is, and refuses what is
no literal: one that a line terminator breaks, that has a faulty escape, or that has no end. A text
that is written as a literal evaluates to itself unless it has a carriage return, which is written
as it is and breaks the literal (`reads_literal`).
-/

namespace Scaffold.Text

/-- The code units of a code point. -/
def pointUnits (n : Nat) : List Nat :=
  if n < 0x10000 then [n] else [0xD800 + (n - 0x10000) / 0x400, 0xDC00 + (n - 0x10000) % 0x400]

/-- The code units of characters. -/
def charUnits (cs : List Char) : List Nat := cs.flatMap fun c => pointUnits c.toNat

/-- The code units of a text. -/
def units (s : String) : List Nat := charUnits s.toList

/-! ### Reading -/

/-- Where the reader of a script is. -/
inductive Mode where
  | code
  | inside
  /-- Behind a backslash. -/
  | escape
  /-- Behind a backslash and a zero, which no digit may follow. -/
  | zero
  /-- In an escape of hexadecimal digits, with the number of those that are missing. -/
  | digits (missing value : Nat)
  /-- Behind a backslash and `u`. -/
  | unicode
  /-- In an escape between braces, with the value of its digits as far as there are any. -/
  | braces (value : Option Nat)
  /-- Behind a backslash and a carriage return, which a line feed may belong to. -/
  | carriage
deriving Repr, DecidableEq

/-- What a character adds to what is read. -/
inductive Part where
  | code (c : Char)
  | opened
  | closed
  | units (us : List Nat)

namespace Mode

/-- The character that a letter stands for behind a backslash. -/
def control? : Char → Option Nat
  | 'b' => some 8
  | 't' => some 9
  | 'n' => some 10
  | 'v' => some 11
  | 'f' => some 12
  | 'r' => some 13
  | _ => none

/-- What opens a literal, a template, or a comment or expression. -/
def openers : List Char := ['\'', '"', '\x60', '/']

/-- What a character means in a literal. -/
def nextInside (c : Char) : Option (Part × Mode) :=
  if c = '\'' then some (.closed, code)
  else if c = '\\' then some (.units [], escape)
  else if c = '\n' ∨ c = '\r' then none
  else some (.units (pointUnits c.toNat), inside)

/-- What a character means behind a backslash. A line terminator there belongs to the escape. -/
def nextEscape (c : Char) : Option (Part × Mode) :=
  if c = 'x' then some (.units [], digits 2 0)
  else if c = 'u' then some (.units [], unicode)
  else if c = '0' then some (.units [0], zero)
  else if c.isDigit then none
  else if c = '\r' then some (.units [], carriage)
  else if c = '\n' ∨ c = '\u2028' ∨ c = '\u2029' then some (.units [], inside)
  else match control? c with
    | some n => some (.units [n], inside)
    | none => some (.units (pointUnits c.toNat), inside)

/-- What a character means. Of what is opened, only literals between single quotation marks are
read. -/
def next : Mode → Char → Option (Part × Mode)
  | code, c =>
    if c = '\'' then some (.opened, inside)
    else if c ∈ openers then none
    else some (.code c, code)
  | inside, c => nextInside c
  | escape, c => nextEscape c
  | zero, c => if c.isDigit then none else nextInside c
  | digits 0 _, _ => none
  | digits (missing + 1) value, c =>
    (digitValue? 16 c).map fun n =>
      if missing = 0 then (.units [value * 16 + n], inside)
      else (.units [], digits missing (value * 16 + n))
  | unicode, c =>
    if c = '\x7b' then some (.units [], braces none)
    else (digitValue? 16 c).map fun n => (.units [], digits 3 n)
  | braces value, c =>
    if c = '\x7d' then value.map fun n => (.units (pointUnits n), inside)
    else (digitValue? 16 c).bind fun n =>
      let point := value.getD 0 * 16 + n
      if point ≤ 0x10FFFF then some (.units [], braces (some point)) else none
  | carriage, c => if c = '\n' then some (.units [], inside) else nextInside c

end Mode

/-- What a script is read as: its code, with empty literals, and the values of the literals. Within
a literal, the first value is what is left of it. -/
abbrev Evaluated := List Char × List (List Nat)

/-- Puts code units in front of the first value. -/
def pushUnits (us : List Nat) : List (List Nat) → List (List Nat)
  | [] => [us]
  | first :: others => (us ++ first) :: others

/-- Puts a part in front of what is read behind it. -/
def Part.onto : Part → Evaluated → Evaluated
  | .code c, r => (c :: r.1, r.2)
  | .opened, r => ('\'' :: '\'' :: r.1, r.2)
  | .closed, r => (r.1, [] :: r.2)
  | .units us, r => (r.1, pushUnits us r.2)

/-- Reads a script from a place in it to its end. -/
def evaluate : Mode → List Char → Option Evaluated
  | .code, [] => some ([], [])
  | _, [] => none
  | p, c :: rest => (p.next c).bind fun (part, q) => (evaluate q rest).map part.onto

/-- The code of a script, with empty literals, and the values of its literals. -/
def evaluated? (s : String) : Option (String × List (List Nat)) :=
  (evaluate .code s.toList).map fun r => (String.ofList r.1, r.2)

/-! ### Steps -/

/-- A character that means something adds its part to what is read behind it. -/
theorem evaluate_cons {p q : Mode} {part : Part} {c : Char} (h : p.next c = some (part, q))
    (rest : List Char) : evaluate p (c :: rest) = (evaluate q rest).map part.onto := by
  rw [evaluate, h, Option.bind_some]

/-- A character that means nothing ends the reading. -/
theorem evaluate_eq_none {p : Mode} {c : Char} (h : p.next c = none) (rest : List Char) :
    evaluate p (c :: rest) = none := by
  rw [evaluate, h, Option.bind_none]

@[simp] theorem pushUnits_pushUnits (us vs : List Nat) (values : List (List Nat)) :
    pushUnits us (pushUnits vs values) = pushUnits (us ++ vs) values := by
  cases values with
  | nil => rfl
  | cons first others => simp [pushUnits]

/-- Two parts of a value that follow each other are one. -/
theorem map_onto_units (us vs : List Nat) (r : Option Evaluated) :
    (r.map (Part.units vs).onto).map (Part.units us).onto = r.map (Part.units (us ++ vs)).onto := by
  rw [Option.map_map]
  congr 1
  funext result
  exact congrArg (Prod.mk result.1) (pushUnits_pushUnits us vs result.2)

/-- An escape of two characters gives the value of the second. -/
theorem evaluate_escape {c : Char} {us : List Nat}
    (h : Mode.nextEscape c = some (.units us, .inside)) (rest : List Char) :
    evaluate .inside ('\\' :: c :: rest) = (evaluate .inside rest).map (Part.units us).onto := by
  have hopening : Mode.next .inside '\\' = some (.units [], .escape) := rfl
  have hescape : Mode.next .escape c = some (.units us, .inside) := h
  rw [evaluate_cons hopening, evaluate_cons hescape, map_onto_units, List.nil_append]

/-- In a literal, a character is read as it was before it was written, unless it is a carriage
return. -/
theorem evaluate_encodeChar (c : Char) (rest : List Char) :
    evaluate .inside (Literal.encodeChar c ++ rest)
      = if c = '\r' then none
        else (evaluate .inside rest).map (Part.units (pointUnits c.toNat)).onto := by
  unfold Literal.encodeChar
  by_cases hb : c = '\\'
  · subst hb
    exact evaluate_escape rfl rest
  by_cases hq : c = '\''
  · subst hq
    exact evaluate_escape rfl rest
  by_cases hn : c = '\n'
  · subst hn
    exact evaluate_escape rfl rest
  rw [if_neg hb, if_neg hq, if_neg hn, List.singleton_append]
  by_cases hr : c = '\r'
  · rw [if_pos hr]
    exact evaluate_eq_none (by simp [Mode.next, Mode.nextInside, hr]) rest
  · rw [if_neg hr]
    exact evaluate_cons (by simp [Mode.next, Mode.nextInside, hb, hq, hn, hr]) rest

/-- What stands between two quotation marks is read as the text that it was made of, unless that has
a carriage return. -/
theorem evaluate_encode (cs rest : List Char) :
    evaluate .inside (Literal.encode cs ++ '\'' :: rest)
      = if '\r' ∈ cs then none
        else (evaluate .code rest).map fun r => (r.1, charUnits cs :: r.2) := by
  induction cs with
  | nil =>
    have hclosing : Mode.next .inside '\'' = some (.closed, .code) := rfl
    exact evaluate_cons hclosing rest
  | cons c cs ih =>
    rw [Literal.encode, List.flatMap_cons, List.append_assoc, evaluate_encodeChar,
      ← Literal.encode, ih]
    by_cases hc : c = '\r'
    · rw [if_pos hc, if_pos (by simp [hc])]
    by_cases hcs : '\r' ∈ cs
    · rw [if_neg hc, if_pos hcs, if_pos (List.mem_cons_of_mem c hcs), Option.map_none]
    · have hall : '\r' ∉ c :: cs := by simp [hcs, Ne.symm hc]
      rw [if_neg hc, if_neg hcs, if_neg hall, Option.map_map]
      rfl

/-! ### Parts of a script -/

/-- A part of a script is read as code and as the values of its literals, whatever follows it,
unless one of these has a carriage return: then nothing with this part is a script. -/
def Reads (code : String) (texts : List String) (s : String) : Prop :=
  ∀ rest, evaluate .code (s.toList ++ rest)
    = if ∀ text ∈ texts, '\r' ∉ text.toList then
        (evaluate .code rest).map fun r => (code.toList ++ r.1, texts.map units ++ r.2)
      else none

/-- A line is code with texts in its literals. It is none when a text has a carriage return. -/
def Quotes (code : String) (texts : List String) (line : String) : Prop :=
  evaluated? line
    = if ∀ text ∈ texts, '\r' ∉ text.toList then some (code, texts.map units) else none

theorem Reads.quotes {code s : String} {texts : List String} (h : Reads code texts s) :
    Quotes code texts s := by
  have hread := h []
  rw [List.append_nil] at hread
  rw [Quotes, evaluated?, hread]
  split
  next => simp [evaluate]
  next => rfl

/-- Parts that follow each other are read one after the other. -/
theorem Reads.append {code code' s s' : String} {texts texts' : List String}
    (h : Reads code texts s) (h' : Reads code' texts' s') :
    Reads (code ++ code') (texts ++ texts') (s ++ s') := by
  intro rest
  rw [String.toList_append, List.append_assoc, h, h']
  simp only [List.forall_mem_append]
  by_cases hfront : ∀ text ∈ texts, '\r' ∉ text.toList
  · by_cases hback : ∀ text ∈ texts', '\r' ∉ text.toList
    · rw [if_pos hfront, if_pos hback, if_pos ⟨hfront, hback⟩, Option.map_map]
      simp [Function.comp_def]
    · rw [if_pos hfront, if_neg hback, if_neg fun h => hback h.2, Option.map_none]
  · rw [if_neg hfront, if_neg fun h => hfront h.1]

/-- None of these characters opens anything. -/
def opensNothing (cs : List Char) : Bool := cs.all fun c => !Mode.openers.contains c

/-- Code that opens nothing is read as it is. -/
theorem reads_code {s : String} (h : opensNothing s.toList = true) : Reads s [] s := by
  intro rest
  rw [if_pos (List.forall_mem_nil _), List.map_nil]
  generalize s.toList = cs at h
  induction cs with
  | nil => simp
  | cons c cs ih =>
    rw [opensNothing, List.all_cons, Bool.and_eq_true] at h
    have hc : c ∉ Mode.openers := by simpa using h.1
    have hquote : c ≠ '\'' := fun heq => hc (heq ▸ List.mem_cons_self)
    have hstep : Mode.next .code c = some (.code c, .code) := by
      rw [Mode.next, if_neg hquote, if_neg hc]
    rw [List.cons_append, evaluate_cons hstep, ih h.2, Option.map_map]
    rfl

/-- A text is read out of its literal. -/
theorem reads_literal (s : String) : Reads "''" [s] (literal s) := by
  intro rest
  have hchars : (literal s).toList ++ rest
      = '\'' :: (Literal.encode s.toList ++ '\'' :: rest) := by
    simp [literal]
  have hopening : Mode.next .code '\'' = some (.opened, .inside) := rfl
  rw [hchars, evaluate_cons hopening, evaluate_encode]
  by_cases h : '\r' ∈ s.toList
  · rw [if_pos h, if_neg (by simpa using h), Option.map_none]
  · rw [if_neg h, if_pos (by simpa using h), Option.map_map]
    rfl

theorem reads_intercalate (items : List String) :
    Reads (", ".intercalate (items.map fun _ => "''")) items
      (", ".intercalate (items.map literal)) := by
  induction items with
  | nil => exact reads_code rfl
  | cons first others ih =>
    cases others with
    | nil => simpa using reads_literal first
    | cons second rest =>
      have hsep : Reads ", " [] ", " := reads_code rfl
      simp only [List.map_cons, String.intercalate_cons_cons] at ih ⊢
      exact ((reads_literal first).append hsep).append ih

/-- Texts are read out of an array of their literals. -/
theorem reads_literalList (items : List String) :
    Reads (literalList (items.map fun _ => "")) items (literalList items) := by
  have hempty : (items.map fun _ => "").map literal = items.map fun _ => "''" := by
    rw [List.map_map]
    rfl
  have hopening : Reads "[" [] "[" := reads_code rfl
  have hclosing : Reads "]" [] "]" := reads_code rfl
  have hitems := (hopening.append (reads_intercalate items)).append hclosing
  rw [List.nil_append, List.append_nil] at hitems
  rw [literalList, literalList, hempty]
  exact hitems

end Scaffold.Text
