import Splice.Text.Occurrence

/-! # Error markers

A placeholder that failed leaves a marker in the output, from which a reader sees what went wrong.
-/

namespace Splice.Marker

/-- The text that opens a marker. -/
def opening : String := "\x7b\x7bERROR:"

def ofMessage (message : String) : String :=
  opening ++ message ++ "\x7d\x7d"

def occursIn (text : String) : Bool :=
  Text.occursIn opening.toList text.toList

end Splice.Marker
