import Splice.Proofs.Document.Occurrence

/-! # Replacing the placeholders of a document

`substitute?` copies a document and puts other texts in the place of its placeholders. It takes the
text between two placeholders as a slice by byte offsets, so it has a value only if all these slices
are in range and on character boundaries. The main statement, `substitute?_eq_some`, shows that they
always are, and reads the result off the pieces of the document.
-/

namespace Splice.Document

/-- Copies a document from an offset on, with the placeholders to come replaced. -/
def substituteFrom? (document : String) (replace : Placeholder → String) (offset : Nat) :
    List Placeholder → Option String
  | [] => Text.slice? document offset document.utf8ByteSize
  | placeholder :: rest => do
    let gap ← Text.slice? document offset placeholder.start
    let tail ← substituteFrom? document replace placeholder.stop rest
    return gap ++ replace placeholder ++ tail

/-- A document with every placeholder replaced and every other byte kept. -/
def substitute? (document : String) (replace : Placeholder → String) : Option String :=
  substituteFrom? document replace 0 (scan document)

/-- The text of pieces that start at an offset, with every placeholder replaced. -/
def replacePieces (replace : Placeholder → String) (offset : Nat) : List Piece → String
  | [] => ""
  | .literal text :: rest =>
    String.ofList text ++ replacePieces replace (offset + Text.byteLength text) rest
  | .placeholder inner :: rest =>
    replace (.ofInner offset inner) ++
      replacePieces replace (Placeholder.ofInner offset inner).stop rest

/-- The copy is at `front` and has yet to take over the literal text `gap`, which grows over literal
pieces and is sliced out at the next placeholder. -/
private theorem substituteFrom?_placeholdersFrom {document : String}
    (replace : Placeholder → String)
    {front gap : List Char} {pieces : List Piece}
    (same : document.toList = front ++ gap ++ pieces.flatMap Piece.text) :
    substituteFrom? document replace (Text.byteLength front)
        (placeholdersFrom (Text.byteLength (front ++ gap)) pieces) =
      some (String.ofList gap ++
        replacePieces replace (Text.byteLength (front ++ gap)) pieces) := by
  induction pieces generalizing front gap with
  | nil =>
    have whole : document.toList = front ++ gap ++ [] := same
    have size : document.utf8ByteSize = Text.byteLength front + Text.byteLength gap := by
      rw [← Text.byteLength_toList, whole, List.append_nil, Text.byteLength_append]
    simp only [placeholdersFrom, substituteFrom?, size, replacePieces, String.append_empty]
    exact Text.slice?_of_append whole
  | cons piece rest ih =>
    cases piece with
    | literal text =>
      have grown := @ih front (gap ++ text) (by simpa [Piece.text] using same)
      rw [← List.append_assoc, Text.byteLength_append (front ++ gap)] at grown
      simp only [placeholdersFrom, Piece.text, replacePieces, grown, String.ofList_append,
        String.append_assoc]
    | placeholder inner =>
      have cut : document.toList =
          front ++ gap ++ ((Piece.placeholder inner).text ++ rest.flatMap Piece.text) := same
      have taken := Text.slice?_of_append cut
      have tail := @ih (front ++ gap ++ (Piece.placeholder inner).text) [] (by simpa using same)
      rw [List.append_nil, Text.byteLength_append (front ++ gap)] at tail
      rw [← Text.byteLength_append] at taken
      simp only [placeholdersFrom, substituteFrom?, replacePieces, Placeholder.ofInner, taken, tail]
      simp [String.append_assoc]

/-- Every slice that the copy takes is there. -/
theorem substitute?_eq_some (document : String) (replace : Placeholder → String) :
    substitute? document replace = some (replacePieces replace 0 (pieces document)) := by
  have whole : document.toList = [] ++ [] ++ (pieces document).flatMap Piece.text :=
    (flatMap_text_pieces document).symm
  have copied := substituteFrom?_placeholdersFrom replace whole
  simpa [substitute?, scan] using copied

private theorem replacePieces_text (offset : Nat) (pieces : List Piece) :
    replacePieces Placeholder.text offset pieces = String.ofList (pieces.flatMap Piece.text) := by
  induction pieces generalizing offset with
  | nil => rfl
  | cons piece rest ih =>
    rw [List.flatMap_cons, String.ofList_append]
    cases piece <;> simp only [replacePieces, ih, Placeholder.ofInner, Piece.text]

/-- Placeholders that are replaced by themselves leave the document as it is. -/
theorem substitute?_text (document : String) :
    substitute? document Placeholder.text = some document := by
  rw [substitute?_eq_some, replacePieces_text, flatMap_text_pieces, String.ofList_toList]

end Splice.Document
