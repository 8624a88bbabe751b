import Splice.Text.Bytes

/-! # Documents

A document is literal text with placeholders in it. A placeholder is two opening braces, a
non-empty inner text without braces, and two closing braces. Splitting a document loses nothing:
the texts of its pieces, one after the other, are the document.
-/

namespace Splice

/-- A stretch of literal text, or the inner text of a placeholder. -/
inductive Piece
  | literal (text : List Char)
  | placeholder (inner : List Char)
  deriving DecidableEq, Repr

namespace Piece

def text : Piece → List Char
  | literal text => text
  | placeholder inner => ['{', '{'] ++ inner ++ ['}', '}']

def isPlaceholder : Piece → Bool
  | literal _ => false
  | placeholder _ => true

end Piece

namespace Document

/-- A character that an inner text cannot hold. -/
def isBrace (c : Char) : Bool :=
  c == '{' || c == '}'

def placeholderAt? : List Char → Option (List Char)
  | '{' :: '{' :: rest =>
    let inner := rest.takeWhile fun c => !isBrace c
    match rest.dropWhile fun c => !isBrace c with
    | '}' :: '}' :: _ => if inner.isEmpty then none else some inner
    | _ => none
  | _ => none

/-- A placeholder found at the head of a text is written there, and its inner text is not empty and
holds no brace. -/
theorem placeholderAt?_eq_some {text inner : List Char} (found : placeholderAt? text = some inner) :
    inner ≠ [] ∧ (∀ c ∈ inner, isBrace c = false) ∧
      ∃ rest, text = ['{', '{'] ++ inner ++ ['}', '}'] ++ rest := by
  unfold placeholderAt? at found
  split at found
  · next rest =>
    dsimp only at found
    split at found
    · next after dropped =>
      split at found
      · simp at found
      · next filled =>
        cases found
        refine ⟨by simpa using filled, ?_, after, ?_⟩
        · intro c member
          simpa using List.all_eq_true.mp List.all_takeWhile c member
        · have split := List.takeWhile_append_dropWhile (p := fun c => !isBrace c) (l := rest)
          rw [dropped] at split
          simpa using split.symm
    · simp at found
  · simp at found

/-- Puts a character in front, into the first literal if there is one. -/
def consLiteral (c : Char) : List Piece → List Piece
  | .literal text :: rest => .literal (c :: text) :: rest
  | pieces => .literal [c] :: pieces

theorem flatMap_text_consLiteral (c : Char) (pieces : List Piece) :
    (consLiteral c pieces).flatMap Piece.text = c :: pieces.flatMap Piece.text := by
  unfold consLiteral
  split <;> simp [Piece.text]

/-- The pieces of a text after `skip` characters that belong to a placeholder found before. -/
def piecesAfter : Nat → List Char → List Piece
  | _, [] => []
  | skip + 1, _ :: rest => piecesAfter skip rest
  | 0, c :: rest =>
    match placeholderAt? (c :: rest) with
    | some inner => .placeholder inner :: piecesAfter (inner.length + 3) rest
    | none => consLiteral c (piecesAfter 0 rest)

private theorem flatMap_text_piecesAfter (skip : Nat) (text : List Char) :
    (piecesAfter skip text).flatMap Piece.text = text.drop skip := by
  fun_induction piecesAfter skip text with
  | case1 => simp
  | case2 skip c rest ih => simpa using ih
  | case3 c rest inner found ih =>
    obtain ⟨_, _, after, same⟩ := placeholderAt?_eq_some found
    rw [List.flatMap_cons, ih]
    cases same
    simp [Piece.text]
  | case4 c rest found ih => simpa [flatMap_text_consLiteral] using ih

def pieces (document : String) : List Piece :=
  piecesAfter 0 document.toList

/-- Nothing of a document is lost in its pieces. -/
theorem flatMap_text_pieces (document : String) :
    (pieces document).flatMap Piece.text = document.toList := by
  simp [pieces, flatMap_text_piecesAfter]

def hasPlaceholders (document : String) : Bool :=
  (pieces document).any Piece.isPlaceholder

/-- A placeholder with its place in the document, in bytes. -/
structure Placeholder where
  text : String
  inner : String
  start : Nat
  stop : Nat
  deriving DecidableEq, Repr

def placeholdersFrom (offset : Nat) : List Piece → List Placeholder
  | [] => []
  | piece :: rest =>
    let stop := offset + Text.byteLength piece.text
    match piece with
    | .literal _ => placeholdersFrom stop rest
    | .placeholder inner =>
      ⟨String.ofList piece.text, String.ofList inner, offset, stop⟩ :: placeholdersFrom stop rest

/-- The placeholders of a document in order. -/
def scan (document : String) : List Placeholder :=
  placeholdersFrom 0 (pieces document)

end Document

end Splice
