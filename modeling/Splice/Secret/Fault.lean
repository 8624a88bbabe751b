import Splice.Decimal.Shortest
import Splice.Text.Bytes
import Splice.Text.Quoted

/-! # What is wrong with a secret's text

A secret of which a field is asked must be a JSON object of texts. The first fault met in reading
order is reported, with its line and column. Columns count bytes.
-/

namespace Splice.Secret

/-- A JSON value that stands where another was wanted, as far as messages show it. -/
inductive Found
  | null
  | boolean (value : Bool)
  | integer (value : Int)
  | floating (negative : Bool) (magnitude : Decimal.Binary64)
  | text (value : String)
  | sequence
  | object
  deriving DecidableEq, Repr

def Found.label : Found → String
  | null => "null"
  | boolean value => "boolean `" ++ (if value then "true" else "false") ++ "`"
  | integer value => "integer `" ++ toString value ++ "`"
  | floating negative magnitude =>
    "floating point `" ++ Decimal.Layout.plain.text negative magnitude ++ "`"
  | text value => "string " ++ Text.quote value
  | sequence => "sequence"
  | object => "map"

/-- The value wanted at a place of the text: the object itself, or the text of a member. -/
inductive Wanted
  | object
  | text
  deriving DecidableEq, Repr

def Wanted.label : Wanted → String
  | object => "a map"
  | text => "a string"

/-- What can be wrong at a place of the text. -/
inductive Cause
  | endsInValue
  | endsInObject
  | endsInText
  | colonExpected
  | commaOrEndExpected
  | valueExpected
  | wordExpected
  | keyNotText
  | commaTrails
  | charactersTrail
  | badEscape
  | badNumber
  | numberTooLarge
  | rawControl
  | loneSurrogate
  | halfSurrogatePair
  | wrongShape (found : Found) (wanted : Wanted)
  deriving DecidableEq, Repr

def Cause.message : Cause → String
  | endsInValue => "EOF while parsing a value"
  | endsInObject => "EOF while parsing an object"
  | endsInText => "EOF while parsing a string"
  | colonExpected => "expected `:`"
  | commaOrEndExpected => "expected `,` or `\x7d`"
  | valueExpected => "expected value"
  | wordExpected => "expected ident"
  | keyNotText => "key must be a string"
  | commaTrails => "trailing comma"
  | charactersTrail => "trailing characters"
  | badEscape => "invalid escape"
  | badNumber => "invalid number"
  | numberTooLarge => "number out of range"
  | rawControl => "control character (\\u0000-\\u001F) found while parsing a string"
  | loneSurrogate => "lone leading surrogate in hex escape"
  | halfSurrogatePair => "unexpected end of hex escape"
  | wrongShape found wanted => "invalid type: " ++ found.label ++ ", expected " ++ wanted.label

/-- A fault: what is wrong, and how many bytes of the text come after the place. -/
structure Fault where
  cause : Cause
  unread : Nat
  deriving DecidableEq, Repr

/-- The line and the column reached after some bytes of a text, from a line and column on. -/
def placeAfter (line column : Nat) : List Char → Nat → Nat × Nat
  | [], bytes => (line, column + bytes)
  | c :: rest, bytes =>
    if bytes < c.utf8Size then (line, column + bytes)
    else if c = '\n' then placeAfter (line + 1) 0 rest (bytes - c.utf8Size)
    else placeAfter line (column + c.utf8Size) rest (bytes - c.utf8Size)

def Fault.report (fault : Fault) (text : List Char) : String :=
  let place := placeAfter 1 0 text (Text.byteLength text - fault.unread)
  fault.cause.message ++ " at line " ++ toString place.1 ++ " column " ++ toString place.2

end Splice.Secret
