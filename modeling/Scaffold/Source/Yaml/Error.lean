import Scaffold.Text.Numeral
import Scaffold.Text.Quoted
import Scaffold.Value.Calendar

/-!
# Errors of YAML texts

A text that is not well formed is `invalid`, without more detail. The other errors are about a
scalar whose form or tag promises a number, a day or a truth value that its text does not spell, and
about nodes that nest too deep. Some of these are no mere refusals: they stop whatever the text is
read for (`isFatal`).
-/

namespace Scaffold.Yaml

/-- Why a text is not read. -/
inductive ReadError where
  | invalid
  /-- An escape stands for no character. -/
  | noCharacter
  /-- An escape spells a number beyond all code points that a signed word cannot hold either. -/
  | hugeCode
  | notInteger (base : Nat) (text : String)
  | tooManyDigits (count : Nat)
  | notDecimal (text : String)
  /-- A number with a point has a digit to the base sixty that counts for too much. -/
  | hugeUnit
  | badDate (error : Value.CalendarError)
  /-- A number is expected, but there is no text, or nothing but a sign. -/
  | emptyNumber
  | notFlag (word : String)
  | notTimestamp
  /-- A day is expected, but there is a mapping. -/
  | timestampMapping
  /-- Nodes nest too deep, or for ever. -/
  | tooDeep
deriving Repr, DecidableEq

/-- The most characters of a text that a message about a numeral shows. -/
def shownLength : Nat := 200

namespace ReadError

/-- The message for an error, apart from that of a text that is not well formed. -/
def message : ReadError → String
  | invalid => "Invalid YAML"
  | noCharacter => "chr() arg not in range(0x110000)"
  | hugeCode => "Python int too large to convert to C int"
  | notInteger base text =>
    "invalid literal for int() with base " ++ toString base ++ ": "
      ++ String.ofList ((Text.quoted text).toList.take shownLength)
  | tooManyDigits count => Text.tooManyDigitsMessage count
  | notDecimal text => "could not convert string to float: " ++ Text.quoted text
  | hugeUnit => "int too large to convert to float"
  | badDate error => error.message
  | emptyNumber => "string index out of range"
  | notFlag word => Text.quoted word
  | notTimestamp => "'NoneType' object has no attribute 'groupdict'"
  | timestampMapping => "expected string or bytes-like object, got 'list'"
  | tooDeep => "maximum recursion depth exceeded"

/-- Whether an error stops whatever the text is read for, and is not a refusal of this text only. -/
def isFatal : ReadError → Bool
  | hugeCode => true
  | hugeUnit => true
  | emptyNumber => true
  | notFlag _ => true
  | notTimestamp => true
  | timestampMapping => true
  | tooDeep => true
  | _ => false

end ReadError

end Scaffold.Yaml
