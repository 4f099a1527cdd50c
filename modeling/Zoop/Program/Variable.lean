/-!
# Variables

A variable is a name behind a sigil.  Behind `@` it is mutable and behind `$` it is not; the two kinds
have separate names.
-/

namespace Zoop

/-- A name and whether its value may change. -/
structure Variable where
  /-- Whether the sigil is `@`. -/
  mutable : Bool
  name : String
deriving DecidableEq, Repr

namespace Variable

/-- The sigil. -/
def sigil (subject : Variable) : Char :=
  if subject.mutable then '@' else '$'

/-- The name behind its sigil. -/
def text (subject : Variable) : String :=
  String.singleton subject.sigil ++ subject.name

/-- The variable with a given text.  The name may be anything, also empty. -/
def ofText? (text : String) : Option Variable :=
  match text.toList with
  | '@' :: name => some ⟨true, String.ofList name⟩
  | '$' :: name => some ⟨false, String.ofList name⟩
  | _ => none

end Variable

end Zoop
