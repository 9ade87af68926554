import Scaffold.Shape.Coerce
import Scaffold.Shape.Record

/-!
# User interface entries

How a field is presented: the widget, the label, the placeholder, whether it must be filled in, the
options of an enumeration and the reference a relationship is loaded from. Every entry has a
default, and entries that are not known are ignored.
-/

namespace Scaffold

/-- The presentation of one field. -/
structure UiHint where
  type : String := "text"
  label : String := ""
  placeholder : String := ""
  required : Bool := false
  options : Option (List String) := none
  apiRef : Option String := none
deriving Repr, DecidableEq, Inhabited

namespace UiHint

open Shape

/-- Reads options that may be any values, and stand for their texts. -/
def readShown (items : List Value) : Checked (Option (List String)) :=
  match items.mapM Value.shown? with
  | some options => .ok (some options)
  | none => .fault (.refused Text.overlongMessage)

/-- Reads options: only the items of a list or a tuple may be any values. -/
def readOptions (v : Value) : Checked (Option (List String)) :=
  match v.opened with
  | .null => .ok none
  | .list items => readShown items
  | .tuple items => readShown items
  | v => some <$> texts v

/-- The entry with the reference of a relationship. -/
def apiRefSlot : Slot := ⟨"api-ref", "api_ref"⟩

def read (entries : Entries) : Checked UiHint :=
  UiHint.mk
    <$> (Slot.plain "type").optional entries "text" (fun v => .ofExcept (text v))
    <*> (Slot.plain "label").optional entries "" (fun v => .ofExcept (text v))
    <*> (Slot.plain "placeholder").optional entries "" (fun v => .ofExcept (text v))
    <*> (Slot.plain "required").optional entries false (fun v => .ofExcept (flag v))
    <*> (Slot.plain "options").optional entries none readOptions
    <*> apiRefSlot.optional entries none (fun v => .ofExcept (textOrNull v))

def recordName : String := "UIDescriptor"

def check (v : Value) : Checked UiHint :=
  record recordName read v

/-- Reads a value as a presentation by itself. -/
def ofValue (v : Value) : Except Mismatch UiHint :=
  (check v).named recordName

/-- A presentation as a map; what is absent has no entry. -/
def toValue (h : UiHint) : Value :=
  .map ([(.text "type", .text h.type), (.text "label", .text h.label),
      (.text "placeholder", .text h.placeholder), (.text "required", .bool h.required)]
    ++ (h.options.map fun os => (.text "options", .list (os.map .text))).toList
    ++ (h.apiRef.map fun r => (.text apiRefSlot.name, .text r)).toList)

/-- The options, none when there is no list of them. -/
def optionList (hint : Option UiHint) : List String :=
  (hint.bind (·.options)).getD []

end UiHint

end Scaffold
