import KeywordLang.Code
import KeywordLang.Expression.Operator

namespace KeywordLang.Expression

inductive Expr where
  | number (value : Nat)
  | symbol (name : String)
  /-- A text constant, given with its quotes. -/
  | text (literal : String)
  | group (inner : Expr)
  | binary (op : Operator) (left right : Expr)
  /-- The choice between `yes` and `no`. -/
  | select (cond yes no : Expr)
deriving DecidableEq, Repr

def Expr.render (d : Dialect) : Expr → String
  | .number value => Text.Decimal.write value
  | .symbol name => Code.symbol d name
  | .text literal => Code.textCall d literal
  | .group inner => "[(" ++ inner.render d ++ ")]"
  | .binary op left right => "[" ++ left.render d ++ op.text ++ right.render d ++ "]"
  | .select cond yes no =>
      Code.selectCall d (cond.render d) (yes.render d) (no.render d)

end KeywordLang.Expression
