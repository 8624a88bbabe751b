import Splice.PathTemplate
import Splice.Text.Blank
import Splice.Text.Identifier
import Splice.Text.Quoted

/-! # Parsing path templates

An action reaches from two opening braces to the next two closing ones. Its stages are separated
by bars, and each stage is a single word: the name of a function, or a period and the name of a
field. The first fault in reading order is reported.
-/

namespace Splice

/-- Why a path expression is malformed. -/
inductive ParseFault
  | unclosedAction
  | emptyAction
  | emptyStage
  | extraWord (extra word : String)
  | badFieldName (word : String)
  | badWord (word : String)
  | unknownFunction (name : String)
  deriving DecidableEq, Repr

def ParseFault.message : ParseFault → String
  | unclosedAction => "unclosed action"
  | emptyAction => "missing value for command"
  | emptyStage => "missing command in pipeline"
  | extraWord extra word => "unexpected " ++ Text.quote extra ++ " after " ++ Text.quote word
  | badFieldName word => "bad field name " ++ Text.quote word
  | badWord word => "unexpected " ++ Text.quote word ++ " in command"
  | unknownFunction name => "function " ++ Text.quote name ++ " not defined"

def Command.ofWord (word : List Char) : Except ParseFault Command :=
  match word with
  | '.' :: name =>
    if Text.isIdentifier name then .ok (.field (String.ofList name))
    else .error (.badFieldName (String.ofList word))
  | _ =>
    if Text.isIdentifier word then
      match Function.named? (String.ofList word) with
      | some function => .ok (.call function)
      | none => .error (.unknownFunction (String.ofList word))
    else .error (.badWord (String.ofList word))

def Command.ofStage (stage : List Char) : Except ParseFault Command :=
  match Text.words stage with
  | [] => .error .emptyStage
  | [word] => ofWord word
  | word :: extra :: _ => .error (.extraWord (String.ofList extra) (String.ofList word))

def Pipeline.ofBody (body : List Char) : Except ParseFault Pipeline :=
  if body.all Text.isBlank then .error .emptyAction
  else
    match body.splitOn '|' with
    | [] => .error .emptyAction
    | stage :: stages => do
      let first ← Command.ofStage stage
      let rest ← stages.mapM Command.ofStage
      return ⟨first, rest⟩

/-- A stretch of a path expression whose actions have not been parsed. -/
inductive Chunk
  | text (text : List Char)
  | action (body : List Char)
  | unclosed
  deriving DecidableEq, Repr

/-- Puts a character in front, into the first stretch of text if there is one. -/
def Chunk.consText (c : Char) : List Chunk → List Chunk
  | .text tail :: rest => .text (c :: tail) :: rest
  | chunks => .text [c] :: chunks

/-- Splits a path expression into text and actions. Inside an action, what was read of it so far is
held backwards. -/
def Chunk.split : Option (List Char) → List Char → List Chunk
  | none, '{' :: '{' :: rest => split (some []) rest
  | none, c :: rest => consText c (split none rest)
  | none, [] => []
  | some body, '}' :: '}' :: rest => .action body.reverse :: split none rest
  | some body, c :: rest => split (some (c :: body)) rest
  | some _, [] => [.unclosed]

def Segment.ofChunk : Chunk → Except ParseFault Segment
  | .text literal => .ok (.text (String.ofList literal))
  | .action body => do
    let pipeline ← Pipeline.ofBody body
    return .action pipeline
  | .unclosed => .error .unclosedAction

namespace PathTemplate

def parseText (source : List Char) : Except ParseFault PathTemplate := do
  let segments ← (Chunk.split none source).mapM Segment.ofChunk
  return ⟨segments⟩

def parse (source : String) : Except ExpressionError PathTemplate :=
  match parseText source.toList with
  | .ok template => .ok template
  | .error fault => .error (.parse fault.message)

def evaluate (source : String) (context : Context) : Except ExpressionError String := do
  let template ← parse source
  template.execute context

end PathTemplate

end Splice
