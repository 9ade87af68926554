import Scaffold.Decimal.Shortest
import Scaffold.Text.Quoted
import Scaffold.Value.Calendar

/-!
# Values

The data that documents and settings are read from, before their shape is checked. A map keeps its
entries in order, and its keys may be any value; `put` is the one way to add an entry, so that no
two keys of a map are the same.

A collection may contain itself. It is then `cyclic`, with a number of its own, and the places in it
where it stands again hold that number. `opened` puts the whole collection into these places, so
that one can look into it any number of times.

`shown?` is a value as a text by itself, `quoted?` the form it has inside a collection or a message.
There is none for a value with a number in it that has too many digits.
-/

namespace Scaffold

/-- Data of any kind. Tuples, sets, bytes, dates, moments and cycles arise only from YAML. -/
inductive Value where
  | null
  | bool (b : Bool)
  | int (n : Int)
  | float (x : Float)
  | text (s : String)
  | list (items : List Value)
  | map (entries : List (Value × Value))
  | tuple (items : List Value)
  | set (items : List Value)
  | bytes (content : List UInt8)
  | date (d : Value.Date)
  | moment (m : Value.Moment)
  /-- A collection that contains itself, with the number that stands for it inside. -/
  | cyclic (id : Nat) (content : Value)
  /-- Inside a collection that contains itself, that collection. -/
  | again (id : Nat)
deriving Inhabited

namespace Value

def kindName : Value → String
  | null => "NoneType"
  | bool _ => "bool"
  | int _ => "int"
  | float _ => "float"
  | text _ => "str"
  | list _ => "list"
  | map _ => "dict"
  | tuple _ => "tuple"
  | set _ => "set"
  | bytes _ => "bytes"
  | date _ => "date"
  | moment _ => "datetime"
  | cyclic _ content => content.kindName
  | again _ => "object"

/-- How numbers with a fraction are written: positional from `0.0001` up to sixteen digits before
the point, and always with a point or an exponent. -/
def numberLayout : Decimal.Layout where
  pointAbove := -4
  pointUpTo := 16
  wholeEnd := ".0"
  exponentWidth := 2
  nan := "nan"
  infinite := "inf"

/-- What is written for a collection inside itself. -/
def ellipsis : Value → String
  | map _ => "\x7b...\x7d"
  | tuple _ => "(...)"
  | _ => "[...]"

mutual

/-- A value inside a collection or a message, if its numbers can be written. Of collections that
contain themselves, `around` has those in which the value stands, with what is written for them
there. -/
def quotedIn? (around : List (Nat × String)) : Value → Option String
  | null => some "None"
  | bool true => some "True"
  | bool false => some "False"
  | int n => Text.decimal? n
  | float x => some (numberLayout.render x)
  | text s => some (Text.quoted s)
  | list items =>
    (quotedItems? around items).map fun parts => "[" ++ ", ".intercalate parts ++ "]"
  | map entries =>
    (quotedEntries? around entries).map fun parts => "\x7b" ++ ", ".intercalate parts ++ "\x7d"
  | tuple items =>
    (quotedItems? around items).map fun
      -- a tuple of one item keeps its comma
      | [only] => "(" ++ only ++ ",)"
      | parts => "(" ++ ", ".intercalate parts ++ ")"
  | set items =>
    (quotedItems? around items).map fun
      | [] => "set()"
      | parts => "\x7b" ++ ", ".intercalate parts ++ "\x7d"
  | bytes content => some (Text.quotedBytes content)
  | date d => some d.quoted
  | moment m => some m.quoted
  | cyclic id content =>
    match around.find? (·.1 == id) with
    | some (_, written) => some written
    | none => quotedIn? ((id, content.ellipsis) :: around) content
  | again id =>
    match around.find? (·.1 == id) with
    | some (_, written) => some written
    | none => some "..."

def quotedItems? (around : List (Nat × String)) : List Value → Option (List String)
  | [] => some []
  | v :: rest => do return (← quotedIn? around v) :: (← quotedItems? around rest)

def quotedEntries? (around : List (Nat × String)) : List (Value × Value) → Option (List String)
  | [] => some []
  | (k, v) :: rest => do
    let entry := (← quotedIn? around k) ++ ": " ++ (← quotedIn? around v)
    return entry :: (← quotedEntries? around rest)

end

/-- A value inside a collection or a message, if its numbers can be written. -/
def quoted? (v : Value) : Option String := quotedIn? [] v

/-- A value as a text by itself, if its numbers can be written: a text is shown as it is, a day or a
moment in digits. -/
def shown? : Value → Option String
  | text s => some s
  | date d => some d.iso
  | moment m => some (m.iso " ")
  | v => v.quoted?

/-- What stands for a value that cannot be written. -/
def unprintable (v : Value) : String := "<unprintable " ++ v.kindName ++ " object>"

/-! ### Cycles -/

mutual

/-- Puts a value into the places that its number stands for, but not into places that belong to
another collection of the same number. -/
def refill (id : Nat) (whole : Value) : Value → Value
  | again n => if n = id then whole else again n
  | cyclic n content => if n = id then cyclic n content else cyclic n (refill id whole content)
  | list items => list (refillItems id whole items)
  | tuple items => tuple (refillItems id whole items)
  | map entries => map (refillEntries id whole entries)
  | v => v

def refillItems (id : Nat) (whole : Value) : List Value → List Value
  | [] => []
  | v :: rest => refill id whole v :: refillItems id whole rest

def refillEntries (id : Nat) (whole : Value) : List (Value × Value) → List (Value × Value)
  | [] => []
  | (k, v) :: rest => (k, refill id whole v) :: refillEntries id whole rest

end

/-- A value whose own parts can be looked at: a collection that contains itself stands whole in the
places for it. -/
def opened : Value → Value
  | cyclic id content => refill id (cyclic id content) content
  | v => v

mutual

/-- Whether a collection that contains itself is in a value. -/
def hasCycle : Value → Bool
  | cyclic _ _ => true
  | list items => hasCycleItems items
  | tuple items => hasCycleItems items
  | map entries => hasCycleEntries entries
  | _ => false

def hasCycleItems : List Value → Bool
  | [] => false
  | v :: rest => hasCycle v || hasCycleItems rest

def hasCycleEntries : List (Value × Value) → Bool
  | [] => false
  | (_, v) :: rest => hasCycle v || hasCycleEntries rest

end

/-! ### Keys -/

/-- The whole number that a value equals, if it is a number. -/
def whole? : Value → Option Int
  | bool b => some (if b then 1 else 0)
  | int n => some n
  | float x => match Decimal.view x with
    | .finite negative m e =>
      if 0 ≤ e then some (Text.withSign negative (m * Nat.pow 2 e.toNat))
      else
        let unit := Nat.pow 2 (-e).toNat
        if m % unit = 0 then some (Text.withSign negative (m / unit)) else none
    | _ => none
  | _ => none

/-- The microseconds from the start of the calendar to a moment, in universal time. -/
def Moment.instant (m : Moment) : Int :=
  let y := m.date.year - 1
  let days := 365 * y + y / 4 - y / 100 + y / 400
    + ((List.range (m.date.month - 1)).map fun i => daysInMonth m.date.year (i + 1)).foldr (· + ·) 0
    + m.date.day
  let minutes : Int := (days * 24 + m.hour) * 60 + m.minute - m.offset.getD 0
  (minutes * 60 + m.second) * 1000000 + m.microsecond

/-- Whether two values are the same key of a map: numbers are compared by what they amount to, and
moments with a known distance from universal time by the instant. Lists, maps and sets are never
keys. -/
def sameKey : Value → Value → Bool
  | null, null => true
  | text s, text t => s == t
  | bytes a, bytes b => a == b
  | date a, date b => a == b
  | moment a, moment b =>
    if a.offset.isSome && b.offset.isSome then a.instant == b.instant else a == b
  | v, w =>
    match v.whole?, w.whole? with
    | some a, some b => a == b
    -- a number that is not whole equals another one by its value alone
    | none, none =>
      match v, w with
      | float x, float y => x == y
      | _, _ => false
    | _, _ => false

end Value

/-- The entries of a map, in the order in which their keys came. -/
abbrev Entries := List (Value × Value)

namespace Entries

/-- Adds an entry: a key that is there keeps its place and its form, and gets the new value. -/
def put (entries : Entries) (key value : Value) : Entries :=
  match entries with
  | [] => [(key, value)]
  | (k, v) :: rest =>
    if k.sameKey key then (k, value) :: rest else (k, v) :: put rest key value

/-- Adds entries one after another. -/
def putAll (entries more : Entries) : Entries :=
  more.foldl (fun acc e => acc.put e.1 e.2) entries

/-- The entries with repeated keys put together. -/
def ofList (entries : List (Value × Value)) : Entries :=
  putAll [] entries

def get? (entries : Entries) (key : String) : Option Value :=
  match entries with
  | [] => none
  | (.text k, v) :: rest => if k = key then some v else get? rest key
  | _ :: rest => get? rest key

end Entries

end Scaffold
