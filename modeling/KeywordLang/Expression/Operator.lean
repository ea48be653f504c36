namespace KeywordLang.Expression

/-- The operators of the expression language. The end of the input counts as an
operator, which completes everything before it. -/
inductive Operator where
  | run
  | bind
  | assign
  | closeGroup
  | cond
  | thenBranch
  | elseBranch
  | comma
  | plus
  | minus
  | openGroup
  | endOfInput
deriving DecidableEq, Repr

namespace Operator

def text : Operator → String
  | .run => "RUN"
  | .bind => "LET"
  | .assign => "="
  | .closeGroup => ")"
  | .cond => "IF"
  | .thenBranch => "THEN"
  | .elseBranch => "ELSE"
  | .comma => ","
  | .plus => "+"
  | .minus => "-"
  | .openGroup => "("
  | .endOfInput => ""

/-- The operator that an upper-case word stands for. -/
def ofWord? : String → Option Operator
  | "RUN" => some .run
  | "LET" => some .bind
  | "=" => some .assign
  | ")" => some .closeGroup
  | "IF" => some .cond
  | "THEN" => some .thenBranch
  | "ELSE" => some .elseBranch
  | "," => some .comma
  | "+" => some .plus
  | "-" => some .minus
  | "(" => some .openGroup
  | _ => none

/-- An operator with its operands is complete as soon as an operator follows that
is no heavier. The end of the input is lighter than all others. -/
def weight : Operator → Nat
  | .endOfInput => 0
  | .run | .bind => 10
  | .assign => 20
  | .closeGroup => 30
  | .cond | .thenBranch | .elseBranch => 40
  | .comma => 50
  | .plus | .minus => 60
  | .openGroup => 70

/-- Whether an operator stands between two operands and nothing else. -/
def isBinary : Operator → Bool
  | .run | .bind | .assign | .comma | .plus | .minus => true
  | _ => false

theorem ofWord?_text (o : Operator) :
    ofWord? o.text = if o = .endOfInput then none else some o := by
  cases o <;> rfl

end Operator

end KeywordLang.Expression
