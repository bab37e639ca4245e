import Brickwork.Code.Expr

/-!
# Statements of generated code

The statements that sketches are made of, in ranks: single steps, tests around steps, a `switch`
whose cases hold tests, and tests around all of these. Each has its lines, with the depth of each
line.
-/

namespace Brickwork.Code

/-- A line of code and how deep it is indented. -/
structure Line where
  depth : Nat
  text : String
deriving DecidableEq, Inhabited

namespace Line

/-- The line as it is written, one tab for each level. -/
def render (line : Line) : String :=
  String.ofList (List.replicate line.depth '\t') ++ line.text ++ "\n"

/-- An empty line. -/
def blank : Line :=
  ⟨0, ""⟩

end Line

/-- A single step. -/
inductive Step where
  | set (target : String) (value : Expr)
  | run (call : Expr)
  /-- A call with a remark behind it. -/
  | remarked (call : Expr) (remark : String)
  | declare (type target : String) (value : Expr)
  | give (value : Expr)
  | leave
deriving DecidableEq, Inhabited

/-- The text of a step. -/
def Step.render : Step → String
  | set target value => target ++ " = " ++ value.render ++ ";"
  | run call => call.render ++ ";"
  | remarked call remark => call.render ++ "; // " ++ remark
  | declare type target value => type ++ " " ++ target ++ " = " ++ value.render ++ ";"
  | give value => "return " ++ value.render ++ ";"
  | leave => "break;"

/-- The lines of a step. -/
def Step.lines (depth : Nat) (step : Step) : List Line :=
  [⟨depth, step.render⟩]

/-- A statement, or a chain of tests of which the first that holds has its statements run. -/
inductive Nest (α : Type) where
  | one (statement : α)
  | chain (branches : List (Expr × List α))
deriving DecidableEq, Inhabited

namespace Nest

variable {α : Type}

/-- The lines of branches after the first, each behind the brace that closes the one before. -/
def laterLines (inner : Nat → α → List Line) (depth : Nat) : List (Expr × List α) → List Line
  | [] => [⟨depth, "\x7d"⟩]
  | (test, body) :: rest =>
    ⟨depth, "\x7d else if (" ++ test.render ++ ") \x7b"⟩
      :: body.flatMap (inner (depth + 1)) ++ laterLines inner depth rest

/-- The lines of a statement, given those of the inner ones. A chain without branches has none. -/
def lines (inner : Nat → α → List Line) (depth : Nat) : Nest α → List Line
  | one statement => inner depth statement
  | chain [] => []
  | chain ((test, body) :: rest) =>
    ⟨depth, "if (" ++ test.render ++ ") \x7b"⟩
      :: body.flatMap (inner (depth + 1)) ++ laterLines inner depth rest

end Nest

/-- A statement, or a choice between cases by the value of a variable. -/
inductive Dispatch where
  | plain (statement : Nest Step)
  | switch (subject : String) (cases : List (String × List (Nest Step)))
deriving DecidableEq, Inhabited

namespace Dispatch

/-- The lines of one case. -/
def caseLines (depth : Nat) (label : String) (body : List (Nest Step)) : List Line :=
  ⟨depth, "case " ++ label ++ ":"⟩ :: body.flatMap (Nest.lines Step.lines (depth + 1))

/-- The lines of a statement. -/
def lines (depth : Nat) : Dispatch → List Line
  | plain statement => statement.lines Step.lines depth
  | switch subject cases =>
    ⟨depth, "switch (" ++ subject ++ ") \x7b"⟩
      :: cases.flatMap (fun (label, body) => caseLines (depth + 1) label body)
      ++ [⟨depth, "\x7d"⟩]

/-- A single step. -/
def step (step : Step) : Dispatch :=
  plain (.one step)

end Dispatch

/-- The body of a function. -/
abbrev Block := List (Nest Dispatch)

/-- The lines of a body. -/
def Block.lines (depth : Nat) (block : Block) : List Line :=
  block.flatMap (Nest.lines Dispatch.lines depth)

/-- A single step as a statement of a body. -/
def Block.step (step : Step) : Nest Dispatch :=
  .one (.step step)

/-- A part of a sketch outside of functions, or a function. -/
inductive Item where
  | comment (text : String)
  | blank
  | library (header : String)
  | object (type name : String) (arguments : List Pin)
  | constant (type name : String) (value : Expr)
  | enumeration (name : String) (members : List String)
  | global (type name : String) (value : Expr)
  | function (result name parameters : String) (body : Block)
deriving DecidableEq, Inhabited

namespace Item

/-- The lines of an item. -/
def lines : Item → List Line
  | comment text => [⟨0, "// " ++ text⟩]
  | blank => [.blank]
  | library header => [⟨0, "#include <" ++ header ++ ">"⟩]
  | object type name arguments =>
    [⟨0, type ++ " " ++ name ++ "(" ++ ", ".intercalate (arguments.map Pin.code) ++ ");"⟩]
  | constant type name value =>
    [⟨0, "const " ++ type ++ " " ++ name ++ " = " ++ value.render ++ ";"⟩]
  | enumeration name members =>
    [⟨0, "enum " ++ name ++ " \x7b" ++ ", ".intercalate members ++ "\x7d;"⟩]
  | global type name value => [⟨0, type ++ " " ++ name ++ " = " ++ value.render ++ ";"⟩]
  | function result name parameters body =>
    ⟨0, result ++ " " ++ name ++ "(" ++ parameters ++ ") \x7b"⟩ :: body.lines 1 ++ [⟨0, "\x7d"⟩]

end Item

/-- The text of a sketch. -/
def render (items : List Item) : String :=
  String.join ((items.flatMap Item.lines).map Line.render)

end Brickwork.Code
