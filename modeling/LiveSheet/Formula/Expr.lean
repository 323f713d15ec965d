import LiveSheet.Formula.Literal

namespace LiveSheet.Formula

/-- A formula as a tree.  `invalid` stands where no expression could be read. -/
inductive Expr where
  | literal (literal : Literal)
  | identifier (name : String)
  | unary (op : Operator) (operand : Expr)
  | binary (op : Operator) (left right : Expr)
  | paren (inner : Expr)
  | call (name : String) (arguments : List Expr)
  | invalid

mutual

def Expr.height : Expr → Nat
  | .literal _ | .identifier _ | .invalid => 1
  | .unary _ operand => operand.height + 1
  | .binary _ left right => max left.height right.height + 1
  | .paren inner => inner.height + 1
  | .call _ arguments => Expr.maxHeight arguments + 1

def Expr.maxHeight : List Expr → Nat
  | [] => 0
  | first :: rest => max first.height (Expr.maxHeight rest)

end

end LiveSheet.Formula
