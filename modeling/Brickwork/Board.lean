import Brickwork.Pin

/-!
# Boards

The boards that firmware can be made for, the pools their pins belong to, and how a display is wired
to them. A pin may be in more than one pool.
-/

namespace Brickwork

/-- What a pin is able to do. -/
inductive Pool where
  | digital
  | pwm
  | analog
deriving DecidableEq, Inhabited

/-- The name of a pool in messages. -/
def Pool.name : Pool → String
  | .digital => "digital"
  | .pwm => "PWM"
  | .analog => "analog"

/-- All pools. -/
def Pool.all : List Pool :=
  [.digital, .pwm, .analog]

/-- A board. -/
inductive Board where
  | uno
  | nano
  | mega
deriving DecidableEq, Inhabited

/-- A text that names no board. -/
structure BadBoard where
  text : String
deriving DecidableEq

namespace Board

/-- All boards. -/
def all : List Board :=
  [uno, nano, mega]

/-- The name of a board. -/
def name : Board → String
  | uno => "uno"
  | nano => "nano"
  | mega => "mega"

/-- The board of a name; ASCII letters may be in either case. -/
def parse (text : String) : Except BadBoard Board :=
  match all.find? fun board => board.name.toList == text.toList.map Char.toLower with
  | some board => .ok board
  | none => .error ⟨text⟩

/-- The pins numbered `first` to `last`. -/
def span (kind : Nat → Pin) (first last : Nat) : List Pin :=
  (List.range' first (last + 1 - first)).map kind

/-- The pins of a pool, in the order in which they are handed out. -/
def pool : Board → Pool → List Pin
  | uno, .digital | nano, .digital => span .digital 2 13
  | mega, .digital => span .digital 2 53
  | uno, .pwm | nano, .pwm => [3, 5, 6, 9, 10, 11].map .digital
  | mega, .pwm => span .digital 2 13 ++ [44, 45, 46].map .digital
  | uno, .analog => span .analog 0 5
  | nano, .analog => span .analog 0 7
  | mega, .analog => span .analog 0 15

/-- Whether a pin belongs to a pool. -/
def inPool (board : Board) (pool : Pool) (pin : Pin) : Bool :=
  (board.pool pool).contains pin

/-- Whether the board has the pin at all. -/
def hasPin (board : Board) (pin : Pin) : Bool :=
  Pool.all.any fun pool => board.inPool pool pin

/-- The pins that a display is wired to. -/
def lcdWiring (_ : Board) : List Pin :=
  [12, 11, 5, 4, 3, 2].map .digital

/-- The columns and rows of a display. -/
def lcdGeometry (_ : Board) : Nat × Nat :=
  (16, 2)

end Board

/-- What is wrong with the text, in words. -/
def BadBoard.message (e : BadBoard) : String :=
  "Unknown board " ++ Text.quoted e.text ++ ", expected one of: "
    ++ ", ".intercalate (Board.all.map Board.name)

end Brickwork
