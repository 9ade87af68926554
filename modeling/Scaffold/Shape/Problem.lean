import Scaffold.Value.Basic

/-!
# Problems of shape

What can be wrong with a value that should have a certain shape, and where. A problem has a place,
the steps from the outermost value to the one at fault, and a cause. `Checked` collects the problems
of independent parts: all of them are reported, in the order of the parts.
-/

namespace Scaffold.Shape

/-- One step towards a part of a value. -/
inductive Step where
  | key (name : String)
  | index (n : Int)
deriving Repr, DecidableEq, Inhabited

/-- What is wrong with a value. -/
inductive Cause where
  /-- A required entry is absent. -/
  | missing
  /-- An entry has a name that the record does not know. -/
  | extra
  /-- An entry of a record has a key that is no text. -/
  | keyNotText
  /-- A record was expected, by the given name. -/
  | notRecord (name : String)
  /-- A record of one of several kinds was expected. -/
  | notTagged
  | notMap
  | notText
  /-- Bytes that should be a text are no UTF-8. -/
  | notUtf8
  | notTuple
  | notInteger
  /-- A text does not spell a whole number. -/
  | integerSpelling
  /-- A text or a number is too large to be read as a whole number. -/
  | integerSize
  /-- A number has a fraction. -/
  | fractional
  | notFinite
  | below (least : Int)
  | above (greatest : Int)
  | notFlag
  /-- A text or a number stands for neither truth value. -/
  | flagSpelling
  /-- A text is none of the given ones. -/
  | notAmong (choices : List String)
  /-- A text does not match the pattern of a name. -/
  | pattern (source : String)
  /-- A record that says by an entry of which kind it is lacks that entry. -/
  | tagMissing (entry : String)
  | tagUnknown (tag entry : String) (choices : List String)
  /-- There is no setting of that name. -/
  | unknownSetting (name : String)
  /-- A rule of the domain refuses the value. -/
  | refused (reason : String)
deriving Repr, DecidableEq, Inhabited

def Cause.code : Cause → String
  | missing => "missing"
  | extra => "extra_forbidden"
  | keyNotText => "invalid_key"
  | notRecord _ => "model_type"
  | notTagged => "model_attributes_type"
  | notMap => "dict_type"
  | notText => "string_type"
  | notUtf8 => "string_unicode"
  | notTuple => "tuple_type"
  | notInteger => "int_type"
  | integerSpelling => "int_parsing"
  | integerSize => "int_parsing_size"
  | fractional => "int_from_float"
  | notFinite => "finite_number"
  | below _ => "greater_than_equal"
  | above _ => "less_than_equal"
  | notFlag => "bool_type"
  | flagSpelling => "bool_parsing"
  | notAmong _ => "enum"
  | pattern _ => "string_pattern_mismatch"
  | tagMissing _ => "union_tag_not_found"
  | tagUnknown .. => "union_tag_invalid"
  | unknownSetting _ => "no_such_attribute"
  | refused _ => "value_error"

/-- Texts between single quotation marks, the last one joined by a word. -/
def alternatives (choices : List String) : String :=
  match (choices.map fun c => "'" ++ c ++ "'").reverse with
  | [] => ""
  | [only] => only
  | last :: others => ", ".intercalate others.reverse ++ " or " ++ last

def Cause.message : Cause → String
  | missing => "Field required"
  | extra => "Extra inputs are not permitted"
  | keyNotText => "Keys should be strings"
  | notRecord name => "Input should be a valid dictionary or instance of " ++ name
  | notTagged => "Input should be a valid dictionary or object to extract fields from"
  | notMap => "Input should be a valid dictionary"
  | notText => "Input should be a valid string"
  | notUtf8 => "Input should be a valid string, unable to parse raw data as a unicode string"
  | notTuple => "Input should be a valid tuple"
  | notInteger => "Input should be a valid integer"
  | integerSpelling => "Input should be a valid integer, unable to parse string as an integer"
  | integerSize => "Unable to parse input string as an integer, exceeded maximum size"
  | fractional => "Input should be a valid integer, got a number with a fractional part"
  | notFinite => "Input should be a finite number"
  | below least => "Input should be greater than or equal to " ++ toString least
  | above greatest => "Input should be less than or equal to " ++ toString greatest
  | notFlag => "Input should be a valid boolean"
  | flagSpelling => "Input should be a valid boolean, unable to interpret input"
  | notAmong choices => "Input should be " ++ alternatives choices
  | pattern source => "String should match pattern '" ++ source ++ "'"
  | tagMissing entry => "Unable to extract tag using discriminator '" ++ entry ++ "'"
  | tagUnknown tag entry choices =>
    "Input tag '" ++ tag ++ "' found using '" ++ entry
      ++ "' does not match any of the expected tags: "
      ++ ", ".intercalate (choices.map fun c => "'" ++ c ++ "'")
  | unknownSetting name => "Object has no attribute '" ++ name ++ "'"
  | refused reason => "Value error, " ++ reason

/-- A cause at a place. -/
structure Problem where
  place : List Step
  cause : Cause
deriving Repr, DecidableEq, Inhabited

/-- The step to the entry under a key: numbers that fit a machine word stay numbers, and any other
key that is no text is shown in its quoted form, if it can be written. -/
def Step.ofKey : Value → Step
  | .text s => .key s
  | .bool b => .index (if b then 1 else 0)
  | .int n =>
    if -0x8000000000000000 ≤ n && n < 0x8000000000000000 then .index n
    else .key ((Text.decimal? n).getD (Value.int n).unprintable)
  | v => .key (v.quoted?.getD v.unprintable)

def Step.text : Step → String
  | key name => name
  | index n => toString n

/-- A part that was checked: its value, or every problem found. -/
inductive Checked (α : Type) where
  | ok (a : α)
  | bad (problems : List Problem)

namespace Checked

variable {α β : Type}

/-- Changes the value. -/
def map (f : α → β) : Checked α → Checked β
  | ok a => ok (f a)
  | bad ps => bad ps

/-- Checks two parts independently of each other; the problems of the first come first. -/
def seq (f : Checked (α → β)) (a : Unit → Checked α) : Checked β :=
  match f, a () with
  | ok g, ok x => ok (g x)
  | ok _, bad ps => bad ps
  | bad ps, ok _ => bad ps
  | bad ps, bad qs => bad (ps ++ qs)

instance : Applicative Checked where
  pure := ok
  map := map
  seq := seq

/-- The problems, none for a good part. -/
def problems : Checked α → List Problem
  | ok _ => []
  | bad ps => ps

/-- Puts a step in front of the place of every problem. -/
def under (step : Step) : Checked α → Checked α
  | ok a => ok a
  | bad ps => bad (ps.map fun p => { p with place := step :: p.place })

/-- One problem, at the value itself. -/
def fault (cause : Cause) : Checked α :=
  bad [⟨[], cause⟩]

/-- A check that finds at most one thing wrong. -/
def ofExcept : Except Cause α → Checked α
  | .ok a => ok a
  | .error cause => fault cause

/-- Checks every item of a list, with its index as the step. -/
def eachFrom (check : α → Checked β) : Nat → List α → Checked (List β)
  | _, [] => ok []
  | i, a :: rest => (· :: ·) <$> (check a).under (.index i) <*> eachFrom check (i + 1) rest

def each (check : α → Checked β) (items : List α) : Checked (List β) :=
  eachFrom check 0 items

end Checked

/-- A record of the given name does not have its shape. -/
structure Mismatch where
  record : String
  problems : List Problem
deriving Repr, DecidableEq

/-- Names the record whose parts were checked. -/
def Checked.named {α : Type} (record : String) : Checked α → Except Mismatch α
  | .ok a => .ok a
  | .bad ps => .error ⟨record, ps⟩

/-- The first line of a report about a mismatch. -/
def Mismatch.headline (m : Mismatch) : String :=
  let n := m.problems.length
  toString n ++ " validation error" ++ (if n = 1 then "" else "s") ++ " for " ++ m.record

end Scaffold.Shape
