import Brickwork.Text.Quoted

/-!
# Identifiers

The names of bricks, machines and states. A name that comes from a document is checked, so that it
can stand in generated code as it is; a name that a caller builds directly is taken as given.
-/

namespace Brickwork

/-- A name of a brick, a machine or a state. -/
structure Identifier where
  text : String
deriving DecidableEq, Inhabited

/-- A text that is no identifier. -/
structure BadIdentifier where
  text : String
deriving DecidableEq

/-- What is wrong with the text, in words. -/
def BadIdentifier.message (e : BadIdentifier) : String :=
  "Bad identifier " ++ Text.quoted e.text
    ++ ", expected letters, digits or `_`, not starting with a digit"

namespace Identifier

instance : ToString Identifier where
  toString name := name.text

/-- Whether an identifier may start with this character: an ASCII letter or `_`. -/
def isFirst (c : Char) : Bool :=
  c.isAlpha || c = '_'

/-- Whether an identifier may go on with this character: an ASCII letter, a digit or `_`. -/
def isLater (c : Char) : Bool :=
  c.isAlphanum || c = '_'

/-- Whether the characters spell an identifier. -/
def isSpelling : List Char → Bool
  | [] => false
  | c :: cs => isFirst c && cs.all isLater

/-- Whether the name has the form that documents have to keep. -/
def IsValid (name : Identifier) : Prop :=
  isSpelling name.text.toList = true

instance (name : Identifier) : Decidable name.IsValid :=
  inferInstanceAs (Decidable (_ = _))

/-- Checks a text and takes it for a name. -/
def parse (text : String) : Except BadIdentifier Identifier :=
  if isSpelling text.toList then .ok ⟨text⟩ else .error ⟨text⟩

end Identifier

end Brickwork
