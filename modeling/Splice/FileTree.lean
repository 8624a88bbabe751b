import Splice.Text.Bytes

/-! # Files

A tree of directories and files, seen from a working directory at its root. A path is walked from
there, one part after the other, and every part but the last must be a directory.
-/

namespace Splice

/-- What a path can lead to. -/
inductive Entry
  | file (content : ByteArray)
  | directory

/-- Why a file cannot be read or written. -/
inductive FileFault
  | notFound
  | notADirectory
  | isADirectory
  | nameTooLong
  | nulInName
  | notText
  deriving DecidableEq, Repr

/-- The text of a fault, with the number by which the system knows it. -/
def FileFault.message : FileFault → String
  | notFound => "No such file or directory (os error 2)"
  | notADirectory => "Not a directory (os error 20)"
  | isADirectory => "Is a directory (os error 21)"
  | nameTooLong => "File name too long (os error 36)"
  | nulInName => "file name contained an unexpected NUL byte"
  | notText => "stream did not contain valid UTF-8"

/-- The entries below the root, by the names on the way to them. -/
structure FileTree where
  entries : List (List String × Entry) := []

namespace FileTree

/-- The entry at a place. The root is a directory. -/
def at? (tree : FileTree) (place : List String) : Option Entry :=
  if place.isEmpty then some .directory else tree.entries.lookup place

def put (tree : FileTree) (place : List String) (entry : Entry) : FileTree :=
  { tree with entries := (place, entry) :: tree.entries }

@[simp] theorem at?_put_self (tree : FileTree) {place : List String} (entry : Entry)
    (below : place ≠ []) : (tree.put place entry).at? place = some entry := by
  simp [at?, put, below]

theorem at?_put_of_ne (tree : FileTree) {place other : List String} (entry : Entry)
    (apart : other ≠ place) : (tree.put place entry).at? other = tree.at? other := by
  have different : (other == place) = false := by simpa using apart
  simp [at?, put, List.lookup_cons, different]

def greatestName : Nat := 255

def greatestPath : Nat := 4095

/-- Goes from a directory to the place that a name leads to. -/
def enter (place : List String) (name : String) : List String :=
  if name = "." then place
  else if name = ".." then place.dropLast
  else place ++ [name]

/-- Walks along names. Every name but the last must lead to a directory. -/
def walk (tree : FileTree) (place : List String) : List String → Except FileFault (List String)
  | [] => .ok place
  | name :: rest =>
    if greatestName < name.utf8ByteSize then .error .nameTooLong
    else
      let next := enter place name
      if rest.isEmpty then .ok next
      else
        match tree.at? next with
        | none => .error .notFound
        | some (.file _) => .error .notADirectory
        | some .directory => tree.walk next rest

/-- The names of a path, and whether the path insists on a directory by its end. -/
def splitPath (path : String) : List String × Bool :=
  let parts := path.toList.splitOn '/'
  ((parts.filter (!·.isEmpty)).map String.ofList, (parts.getLast?.getD []).isEmpty)

/-- The place that a path leads to, and whether it has to be a directory. -/
def locate (tree : FileTree) (path : String) : Except FileFault (List String × Bool) :=
  if path.isEmpty then .error .notFound
  else if path.toList.contains '\x00' then .error .nulInName
  else if greatestPath < path.utf8ByteSize then .error .nameTooLong
  else
    let (names, directory) := splitPath path
    (tree.walk [] names).map fun place => (place, directory)

def readBytes (tree : FileTree) (path : String) : Except FileFault ByteArray := do
  let (place, directory) ← tree.locate path
  match tree.at? place with
  | none => .error .notFound
  | some .directory => .error .isADirectory
  | some (.file content) => if directory then .error .notADirectory else .ok content

def decode (content : ByteArray) : Except FileFault String :=
  match String.fromUTF8? content with
  | some text => .ok text
  | none => .error .notText

theorem toUTF8_of_decode {content : ByteArray} {text : String}
    (read : decode content = .ok text) : text.toUTF8 = content := by
  simp only [decode, String.fromUTF8?] at read
  split at read
  · next found =>
    split at found
    · cases found
      cases read
      rfl
    · simp at found
  · simp at read

def readText (tree : FileTree) (path : String) : Except FileFault String :=
  tree.readBytes path >>= decode

def writeText (tree : FileTree) (path text : String) : Except FileFault FileTree := do
  let (place, directory) ← tree.locate path
  match tree.at? place with
  | some .directory => .error .isADirectory
  | some (.file _) =>
    if directory then .error .notADirectory else .ok (tree.put place (.file text.toUTF8))
  | none => if directory then .error .isADirectory else .ok (tree.put place (.file text.toUTF8))

/-- Makes the directories that lead to a place, where there are none yet. -/
def makeDirectories (tree : FileTree) (place : List String) : FileTree :=
  (List.range (place.length + 1)).foldl
    (fun tree count =>
      if (tree.at? (place.take count)).isSome then tree
      else tree.put (place.take count) .directory)
    tree

def layDown (tree : FileTree) (path : String) (content : ByteArray) : FileTree :=
  let names := (splitPath path).1
  (tree.makeDirectories names.dropLast).put names (.file content)

def layDownDirectory (tree : FileTree) (path : String) : FileTree :=
  tree.makeDirectories (splitPath path).1

end FileTree

end Splice
