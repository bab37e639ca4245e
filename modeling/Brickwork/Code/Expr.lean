import Brickwork.Code.Literal
import Brickwork.Model

/-!
# Expressions of generated code

The expressions that sketches are made of, and their text. Grouping is explicit: an expression in
parentheses is an expression of its own, and the text of any other is its parts in order.
-/

namespace Brickwork.Code

/-- An operator between two expressions. -/
inductive Operator where
  | comparison (comparison : Comparison)
  | connective (connective : Connective)
  | minus
  | times
  | divide
deriving DecidableEq, Inhabited

/-- The text of an operator. -/
def Operator.symbol : Operator → String
  | comparison c => c.symbol
  | connective c => c.symbol
  | minus => "-"
  | times => "*"
  | divide => "/"

/-- An expression. The arguments of a call are one expression, or several joined by `both`. -/
inductive Expr where
  | name (spelling : String)
  | number (digits : String)
  | pin (pin : Pin)
  | text (content : String)
  | letter (c : Char)
  | call (function : String)
  | apply (function : String) (argument : Expr)
  | both (first rest : Expr)
  | binary (operator : Operator) (left right : Expr)
  | group (inner : Expr)
  | choice (test yes no : Expr)
deriving DecidableEq, Inhabited

namespace Expr

/-- The text of an expression. -/
def render : Expr → String
  | name spelling => spelling
  | number digits => digits
  | pin p => p.code
  | text content => literal content
  | letter c => "'" ++ String.ofList (literalChar c) ++ "'"
  | call function => function ++ "()"
  | apply function argument => function ++ "(" ++ argument.render ++ ")"
  | both first rest => first.render ++ ", " ++ rest.render
  | binary operator left right =>
    left.render ++ " " ++ operator.symbol ++ " " ++ right.render
  | group inner => "(" ++ inner.render ++ ")"
  | choice test yes no => test.render ++ " ? " ++ yes.render ++ " : " ++ no.render

/-- A whole number. -/
def natural (n : Nat) : Expr :=
  number (Text.decimal n)

/-- A comparison of two expressions. -/
def compare (comparison : Comparison) (left right : Expr) : Expr :=
  binary (.comparison comparison) left right

/-- Two expressions that have to hold together. -/
def conjoin (left right : Expr) : Expr :=
  binary (.connective .and) left right

end Expr

end Brickwork.Code
