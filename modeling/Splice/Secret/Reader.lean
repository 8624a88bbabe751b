import Splice.Secret.Number

/-! # Reading a flat object of texts

A secret's text is read as JSON of one shape: an object whose members are all texts, or `null`.
Reading stops at the first fault. Members are kept in the order in which they are written, so a
key may occur several times.
-/

namespace Splice.Secret

open Splice.Text

/-- The characters that may surround any part of a JSON text. -/
def isJsonBlank (c : Char) : Bool :=
  c == ' ' || c == '\n' || c == '\t' || c == '\r'

def skipBlanks (text : List Char) : List Char :=
  text.dropWhile isJsonBlank

theorem length_skipBlanks_le (text : List Char) : (skipBlanks text).length ≤ text.length :=
  (List.dropWhile_sublist isJsonBlank).length_le

/-! ## Texts -/

def hexValue? (c : Char) : Option Nat :=
  if '0' ≤ c ∧ c ≤ '9' then some (c.toNat - '0'.toNat)
  else if 'a' ≤ c ∧ c ≤ 'f' then some (c.toNat - 'a'.toNat + 10)
  else if 'A' ≤ c ∧ c ≤ 'F' then some (c.toNat - 'A'.toNat + 10)
  else none

def hexUnit? : List Char → Option Nat
  | a :: b :: c :: d :: _ => do
    let a ← hexValue? a
    let b ← hexValue? b
    let c ← hexValue? c
    let d ← hexValue? d
    return ((a * 16 + b) * 16 + c) * 16 + d
  | _ => none

/-- Reads four hexadecimal digits. A text of fewer than four bytes ends too early, whatever it
holds. -/
def readHexUnit (text : List Char) : Except Fault Nat :=
  match hexUnit? text with
  | some unit => .ok unit
  | none =>
    .error (if byteLength text < 4 then faultAt .endsInText [] else faultPast .badEscape text 4)

def shortEscape? : Char → Option Char
  | '\"' => some '\"'
  | '\\' => some '\\'
  | '/' => some '/'
  | 'b' => some '\x08'
  | 'f' => some '\x0c'
  | 'n' => some '\n'
  | 'r' => some '\r'
  | 't' => some '\t'
  | _ => none

/-- A unit that must be followed by a second one to make a character. -/
def isLeadingSurrogate (unit : Nat) : Bool :=
  0xD800 ≤ unit && unit ≤ 0xDBFF

def isTrailingSurrogate (unit : Nat) : Bool :=
  0xDC00 ≤ unit && unit ≤ 0xDFFF

/-- The second unit of a surrogate pair, written as an escape of its own. -/
def readTrailingUnit (text : List Char) : Except Fault Nat :=
  match text with
  | [] => .error (faultAt .endsInText [])
  | '\\' :: [] => .error (faultAt .endsInText [])
  | '\\' :: 'u' :: rest => do
    let unit ← readHexUnit rest
    if isTrailingSurrogate unit then .ok unit else .error (faultAt .loneSurrogate (rest.drop 4))
  | '\\' :: rest => .error (faultPast .halfSurrogatePair rest 1)
  | rest => .error (faultPast .halfSurrogatePair rest 1)

/-- Reads what follows a backslash: the character meant, and how many characters spell it. -/
def readEscape (text : List Char) : Except Fault (Char × Nat) :=
  match text with
  | [] => .error (faultAt .endsInText [])
  | 'u' :: rest => do
    let unit ← readHexUnit rest
    if isTrailingSurrogate unit then .error (faultAt .loneSurrogate (rest.drop 4))
    else if isLeadingSurrogate unit then do
      let trailing ← readTrailingUnit (rest.drop 4)
      return (Char.ofNat ((unit - 0xD800) * 0x400 + (trailing - 0xDC00) + 0x10000), 11)
    else return (Char.ofNat unit, 5)
  | c :: _ =>
    match shortEscape? c with
    | some meant => .ok (meant, 1)
    | none => .error (faultPast .badEscape text 1)

/-- Reads a text up to its closing quote, after `skip` characters that were read already. What was
read so far is held backwards. The result is the text and what follows the quote. -/
def readText (read : List Char) : Nat → List Char → Except Fault (List Char × List Char)
  | _, [] => .error (faultAt .endsInText [])
  | skip + 1, _ :: rest => readText read skip rest
  | 0, c :: rest =>
    if c = '\"' then .ok (read.reverse, rest)
    else if c = '\\' then
      match readEscape rest with
      | .ok (meant, width) => readText (meant :: read) width rest
      | .error fault => .error fault
    else if c.toNat < 32 then .error (faultAt .rawControl rest)
    else readText (c :: read) 0 rest

private theorem length_lt_of_readText {read : List Char} {skip : Nat} {text result rest : List Char}
    (success : readText read skip text = .ok (result, rest)) : rest.length < text.length := by
  fun_induction readText read skip text with
  | case1 => simp at success
  | case2 read skip c rest ih => exact Nat.lt_succ_of_lt (ih success)
  | case3 => simp_all
  | case4 read rest _ meant width _ ih => exact Nat.lt_succ_of_lt (ih success)
  | case5 => simp at success
  | case6 => simp at success
  | case7 read c rest _ _ _ ih => exact Nat.lt_succ_of_lt (ih success)

/-! ## Values of the wrong shape -/

def readWord : List Char → List Char → Except Fault (List Char)
  | [], text => .ok text
  | _ :: _, [] => .error (faultAt .endsInValue [])
  | letter :: letters, c :: rest =>
    if c = letter then readWord letters rest else .error (faultPast .wordExpected (c :: rest) 1)

/-- The fault of a word that stands where another value was wanted. -/
def wordFault (wanted : Wanted) (found : Found) (letters rest : List Char) : Fault :=
  match readWord letters rest with
  | .ok after => faultAt (.wrongShape found wanted) after
  | .error fault => fault

/-- The fault of a number that stands where another value was wanted. -/
def numberFault (wanted : Wanted) (negative : Bool) (text : List Char) : Fault :=
  match readUnsigned negative text with
  | .ok (found, after) => faultAt (.wrongShape found wanted) after
  | .error fault => fault

def shapeFault (wanted : Wanted) (text : List Char) : Fault :=
  match text with
  | [] => faultAt .endsInValue []
  | 'n' :: rest => wordFault wanted .null ['u', 'l', 'l'] rest
  | 't' :: rest => wordFault wanted (.boolean true) ['r', 'u', 'e'] rest
  | 'f' :: rest => wordFault wanted (.boolean false) ['a', 'l', 's', 'e'] rest
  | '-' :: rest => numberFault wanted true rest
  | '\"' :: rest =>
    match readText [] 0 rest with
    | .ok (value, after) => faultAt (.wrongShape (.text (String.ofList value)) wanted) after
    | .error fault => fault
  | '[' :: _ => faultAt (.wrongShape .sequence wanted) text
  | '{' :: _ => faultAt (.wrongShape .object wanted) text
  | c :: _ => if c.isDigit then numberFault wanted false text else faultPast .valueExpected text 1

/-! ## Members -/

/-- A member of an object. -/
structure Member where
  key : String
  value : String
  deriving DecidableEq, Repr

/-- Reads the value of a member: the blanks before it, and a text. -/
def readValue (text : List Char) : Except Fault (List Char × List Char) :=
  match skipBlanks text with
  | '\"' :: rest => readText [] 0 rest
  | rest => .error (shapeFault .text rest)

def readColon (text : List Char) : Except Fault (List Char) :=
  match skipBlanks text with
  | ':' :: rest => .ok rest
  | [] => .error (faultAt .endsInObject [])
  | rest => .error (faultPast .colonExpected rest 1)

def readMember (text : List Char) : Except Fault (Member × List Char) :=
  match text with
  | '\"' :: rest => do
    let (key, rest) ← readText [] 0 rest
    let rest ← readColon rest
    let (value, rest) ← readValue rest
    return (⟨String.ofList key, String.ofList value⟩, rest)
  | rest => .error (faultPast .keyNotText rest 1)

private theorem length_lt_of_readValue {text value rest : List Char}
    (success : readValue text = .ok (value, rest)) : rest.length < text.length := by
  simp only [readValue] at success
  split at success
  · next blanks =>
    have shorter := length_skipBlanks_le text
    have read := length_lt_of_readText success
    simp only [blanks, List.length_cons] at shorter
    omega
  · simp at success

private theorem length_lt_of_readColon {text rest : List Char}
    (success : readColon text = .ok rest) : rest.length < text.length := by
  simp only [readColon] at success
  split at success
  · next blanks =>
    have shorter := length_skipBlanks_le text
    cases success
    simp only [blanks, List.length_cons] at shorter
    omega
  · simp at success
  · simp at success

private theorem length_lt_of_readMember {text rest : List Char} {member : Member}
    (success : readMember text = .ok (member, rest)) : rest.length < text.length := by
  simp only [readMember] at success
  split at success
  · next tail =>
    cases keyRead : readText [] 0 tail with
    | error => simp [keyRead, bind, Except.bind] at success
    | ok key =>
      cases colonRead : readColon key.2 with
      | error => simp [keyRead, colonRead, bind, Except.bind] at success
      | ok afterColon =>
        cases valueRead : readValue afterColon with
        | error => simp [keyRead, colonRead, valueRead, bind, Except.bind] at success
        | ok value =>
          simp only [keyRead, colonRead, valueRead, bind, Except.bind, pure, Except.pure,
            Except.ok.injEq, Prod.mk.injEq] at success
          have first := length_lt_of_readText keyRead
          have second := length_lt_of_readColon colonRead
          have third := length_lt_of_readValue valueRead
          simp only [List.length_cons, ← success.2]
          omega
  · simp at success

/-- Reads the member after a comma. A comma may not close the members. -/
def readNextMember (text : List Char) : Except Fault (Member × List Char) :=
  match skipBlanks text with
  | [] => .error (faultAt .endsInValue [])
  | '}' :: rest => .error (faultPast .commaTrails ('}' :: rest) 1)
  | start => readMember start

private theorem length_lt_of_readNextMember {text rest : List Char} {member : Member}
    (success : readNextMember text = .ok (member, rest)) : rest.length < text.length := by
  simp only [readNextMember] at success
  split at success
  · simp at success
  · simp at success
  · exact Nat.lt_of_lt_of_le (length_lt_of_readMember success) (length_skipBlanks_le text)

/-- Reads the members that follow a first one, each after a comma, and the closing brace. -/
def readFurther (text : List Char) : Except Fault (List Member × List Char) :=
  match _blanks : skipBlanks text with
  | [] => .error (faultAt .endsInObject [])
  | '}' :: rest => .ok ([], rest)
  | ',' :: rest =>
    match _read : readNextMember rest with
    | .error fault => .error fault
    | .ok (member, after) =>
      match readFurther after with
      | .error fault => .error fault
      | .ok (members, rest) => .ok (member :: members, rest)
  | rest => .error (faultPast .commaOrEndExpected rest 1)
termination_by text.length
decreasing_by
  have whole := length_skipBlanks_le text
  have shorter := length_lt_of_readNextMember _read
  simp only [_blanks, List.length_cons] at whole
  omega

def readMembers (text : List Char) : Except Fault (List Member × List Char) :=
  match skipBlanks text with
  | [] => .error (faultAt .endsInObject [])
  | '}' :: rest => .ok ([], rest)
  | start => do
    let (member, rest) ← readMember start
    let (members, rest) ← readFurther rest
    return (member :: members, rest)

/-- What a secret's text may hold: the members of an object, or nothing. -/
def readContent (text : List Char) : Except Fault (List Member × List Char) :=
  match skipBlanks text with
  | 'n' :: rest => (readWord ['u', 'l', 'l'] rest).map fun after => ([], after)
  | '{' :: rest => readMembers rest
  | rest => .error (shapeFault .object rest)

/-- Reads a whole secret's text: nothing but blanks may follow its content. -/
def readFlatObject (text : List Char) : Except Fault (List Member) := do
  let (members, rest) ← readContent text
  match skipBlanks rest with
  | [] => return members
  | more => .error (faultPast .charactersTrail more 1)

end Splice.Secret
