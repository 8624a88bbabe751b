import Splice.Text.Blank

/-! # Shared profile files

Two files hold properties of named profiles: the config file, whose sections are named
`default` or `profile` and a name, and the credentials file, whose sections are plain names. A
section with another name is ignored, and so is a property with a name that is no identifier. A
line that is no section, property, continuation or comment makes the whole file unreadable.
-/

namespace Splice.Aws

/-- The two files. -/
inductive ProfileFile
  | config
  | credentials
  deriving DecidableEq, Repr

/-- A property of a section. -/
structure Property where
  header : String
  key : String
  value : String
  deriving DecidableEq, Repr

/-- What was read of a file: the headers and the properties met so far, the latest first, and
whether the latest property began without a value, so that its continuations are properties of
their own. -/
structure ProfileText where
  headers : List String := []
  properties : List Property := []
  inProperty : Bool := false
  nested : Bool := false
  deriving DecidableEq, Repr

def isGap (c : Char) : Bool :=
  c == ' ' || c == '\t'

def trimGaps (text : List Char) : List Char :=
  ((text.dropWhile isGap).reverse.dropWhile isGap).reverse

def opensComment (c : Char) : Bool :=
  c == '#' || c == ';'

/-- A line up to its comment. If asked for, a comment opens only after a blank. -/
def beforeComment (afterBlank : Bool) : Bool → List Char → List Char
  | _, [] => []
  | blank, c :: rest =>
    if opensComment c && (blank || !afterBlank) then []
    else c :: beforeComment afterBlank (Text.isBlank c) rest

def bareLine (afterBlank : Bool) (line : List Char) : List Char :=
  trimGaps (beforeComment afterBlank false (trimGaps line))

/-- The lines of a text. A carriage return before a line feed belongs to the line's end. -/
def lines (text : List Char) : List (List Char) :=
  let split := text.splitOn '\n'
  let ended := split.dropLast.map fun line =>
    if line.getLast? = some '\r' then line.dropLast else line
  ended ++ split.getLast?.toList

/-- The name and the value of a property line. Names are compared without regard to case. -/
def readProperty? (line : List Char) : Option (String × String) :=
  let bare := bareLine true line
  let key := trimGaps (bare.takeWhile (· != '='))
  match bare.dropWhile (· != '=') with
  | [] => none
  | _ :: value =>
    if key.isEmpty then none
    else some (String.ofList (key.map Char.toLower), String.ofList (trimGaps value))

def readHeader? (line : List Char) : Option String :=
  match bareLine false line with
  | '[' :: rest =>
    if rest.getLast? = some ']' then some (String.ofList rest.dropLast) else none
  | _ => none

namespace ProfileText

def openSection (read : ProfileText) (header : String) : ProfileText :=
  { read with headers := header :: read.headers, inProperty := false, nested := false }

def addProperty? (read : ProfileText) (key value : String) : Option ProfileText :=
  match read.headers with
  | [] => none
  | header :: _ =>
    some { read with
      properties := ⟨header, key, value⟩ :: read.properties
      inProperty := true
      nested := value.isEmpty }

def continueProperty? (read : ProfileText) (line : List Char) : Option ProfileText :=
  match read.inProperty, read.properties with
  | true, property :: earlier =>
    if read.nested && (readProperty? line).isNone then none
    else
      let value := property.value ++ "\n" ++ String.ofList (trimGaps line)
      some { read with properties := { property with value := value } :: earlier }
  | _, _ => none

def addLine? (read : ProfileText) (line : List Char) : Option ProfileText :=
  match line with
  | [] => some read
  | first :: _ =>
    if (trimGaps line).isEmpty || opensComment first then some read
    else if first = '[' then (readHeader? line).map read.openSection
    else if isGap first then read.continueProperty? line
    else (readProperty? line).bind fun (key, value) => read.addProperty? key value

def read? (text : String) : Option ProfileText :=
  (lines text.toList).foldlM addLine? {}

end ProfileText

def isNameChar (c : Char) : Bool :=
  c.isAlphanum || "_-/.%@:+".toList.contains c

/-- The profile that a section of a file belongs to, and whether it is called a profile there. -/
def sectionProfile? (file : ProfileFile) (header : String) : Option (Bool × String) :=
  let name := trimGaps header.toList
  let first := name.takeWhile fun c => !isGap c
  let rest := trimGaps (name.dropWhile fun c => !isGap c)
  match file with
  | .credentials => if name.all isNameChar then some (false, String.ofList name) else none
  | .config =>
    if rest.isEmpty then
      if String.ofList first = "default" then some (false, "default") else none
    else if String.ofList first = "profile" ∧ rest.all isNameChar then
      some (true, String.ofList rest)
    else none

/-- The properties of every profile, later ones overriding earlier ones. -/
abbrev Profiles := List (String × String × String)

/-- The properties that a file gives to profiles, in order. A section called a profile named
`default` takes the place of the plain one. -/
def ProfileText.profiles (file : ProfileFile) (read : ProfileText) : Profiles :=
  let plainIgnored := read.headers.any fun header =>
    sectionProfile? file header == some (true, "default")
  read.properties.reverse.filterMap fun property =>
    match sectionProfile? file property.header with
    | none => none
    | some (called, name) =>
      if !called && plainIgnored && name == "default" then none
      else if property.key.toList.all isNameChar then some (name, property.key, property.value)
      else none

/-- The profiles of both files, of which the credentials file counts more. If one of them is
unreadable there are none. -/
def readProfiles (config credentials : String) : Profiles :=
  match ProfileText.read? config, ProfileText.read? credentials with
  | some config, some credentials =>
    config.profiles .config ++ credentials.profiles .credentials
  | _, _ => []

def Profiles.property? (profiles : Profiles) (profile key : String) : Option String :=
  (profiles.reverse.find? fun entry => entry.1 == profile && entry.2.1 == key).map (·.2.2)

end Splice.Aws
