import Splice.Dispatch
import Splice.Document
import Splice.Marker

/-! # Rendering a document

Every placeholder of a document is dispatched in order, and what it comes to takes its place: a
value as it is, a failure as a marker. A placeholder without a provider stays as it is, and so does
the literal text. Text that was filled in is not looked at again.
-/

namespace Splice

/-- A piece of the output. -/
inductive Filled
  | literal (text : List Char)
  | placeholder (inner : List Char) (outcome : Outcome)
  deriving DecidableEq, Repr

namespace Filled

def text : Filled → String
  | literal text => String.ofList text
  | placeholder _ (.resolved value) => value
  | placeholder _ (.failed error) => Marker.ofMessage error.message
  | placeholder inner .unsupported => String.ofList (Piece.placeholder inner).text

def isResolved : Filled → Bool
  | placeholder _ (.resolved _) => true
  | _ => false

def isFailed : Filled → Bool
  | placeholder _ (.failed _) => true
  | _ => false

def isSkipped : Filled → Bool
  | placeholder _ .unsupported => true
  | _ => false

def output (filled : List Filled) : String :=
  String.join (filled.map text)

def summary (filled : List Filled) : Event :=
  .rendered (filled.countP isResolved) (filled.countP isFailed) (filled.countP isSkipped)

end Filled

def Outcome.events (offset : Nat) : Outcome → List Event
  | resolved _ => [.resolved offset]
  | failed error => [.failed offset error]
  | unsupported => []

namespace Circumstances

def fill? (circumstances : Circumstances) (context : Context) (offset : Nat) (piece : Piece)
    (t : Timeline) : Option (Step Filled) :=
  match piece with
  | .literal text => some ⟨.literal text, [], [], t⟩
  | .placeholder inner =>
    (circumstances.dispatch? context (String.ofList inner) t).map fun step =>
      { value := .placeholder inner step.value
        calls := step.calls
        events := step.events ++ step.value.events offset
        after := step.after }

/-- Fills in pieces that start at an offset, one after the other. -/
def fillAll? (circumstances : Circumstances) (context : Context) (offset : Nat) :
    List Piece → Timeline → Option (Step (List Filled))
  | [], t => some ⟨[], [], [], t⟩
  | piece :: rest, t => do
    let next := offset + Text.byteLength piece.text
    let head ← circumstances.fill? context offset piece t
    let tail ← circumstances.fillAll? context next rest head.after
    return {
      value := head.value :: tail.value
      calls := head.calls ++ tail.calls
      events := head.events ++ tail.events
      after := tail.after }

/-- Renders a document. The result is nothing if a call never ends. -/
def render? (circumstances : Circumstances) (context : Context) (document : String)
    (t : Timeline) : Option (Step String) :=
  if Document.hasPlaceholders document then
    (circumstances.fillAll? context 0 (Document.pieces document) t).map fun step =>
      { value := Filled.output step.value
        calls := step.calls
        events := step.events ++ [Filled.summary step.value]
        after := step.after }
  else some ⟨document, [], [], t⟩

end Circumstances

end Splice
