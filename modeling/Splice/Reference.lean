/-! # References to providers

The inner text of a placeholder belongs to this program when it starts with the tag of a provider.
What follows the tag is a path expression and, for a secret, an optional field after the first
hash sign.
-/

namespace Splice

/-- The stores that hold values. -/
inductive Provider
  | ssm
  | secretsManager
  deriving DecidableEq, Repr

namespace Provider

/-- Every provider, in the order in which tags are tried. -/
def all : List Provider := [ssm, secretsManager]

def tag : Provider → String
  | ssm => "aws:ssm:"
  | secretsManager => "aws:secretsmanager:"

def name : Provider → String
  | ssm => "ssm"
  | secretsManager => "secretsmanager"

/-- The text after the provider's tag, for a text that starts with the tag. -/
def untag? (provider : Provider) (inner : String) : Option String :=
  (provider.tag.toList.isPrefixOf? inner.toList).map String.ofList

/-- The first provider whose tag starts the text, and the text after the tag. -/
def classify? (inner : String) : Option (Provider × String) :=
  all.findSome? fun provider => (provider.untag? inner).map fun rest => (provider, rest)

end Provider

/-- A reference names a value by a path expression that has not been evaluated yet. -/
inductive Reference
  | parameter (path : String)
  | secret (path : String) (field : Option String)
  deriving DecidableEq, Repr

namespace Reference

/-- Splits the text of a secret reference at its first hash sign. An empty field asks for the whole
secret, like no field at all. -/
def splitField (text : List Char) : Reference :=
  let path := String.ofList (text.takeWhile (· != '#'))
  let key := (text.dropWhile (· != '#')).drop 1
  .secret path (if key.isEmpty then none else some (String.ofList key))

/-- Decodes the inner text of a placeholder, if it starts with a provider's tag. -/
def parse? (inner : String) : Option Reference :=
  (Provider.classify? inner).map fun
    | (.ssm, rest) => .parameter rest
    | (.secretsManager, rest) => splitField rest.toList

def provider : Reference → Provider
  | parameter _ => .ssm
  | secret .. => .secretsManager

def path : Reference → String
  | parameter path => path
  | secret path _ => path

def field? : Reference → Option String
  | parameter _ => none
  | secret _ field => field

end Reference

end Splice
