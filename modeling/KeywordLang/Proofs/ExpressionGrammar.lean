import KeywordLang.Expression.Machine

/-!
The grammar of expressions and their trees. A word of the grammar is a list of
operands and operators; it has a tree in which every operator has its operands,
and the levels of the operators say which tree that is.
-/

namespace KeywordLang.Expression

/-- What a lexeme stands for in an expression: a constant, a name in force, or an
operator, which is recognized by its upper-case text. -/
inductive Reads (d : Dialect) (s : Scopes) : Lexeme → Entry → Prop where
  | number {text : String} {value : Nat} (h : Numeral.check d text = .ok value) :
      Reads d s ⟨.number, text⟩ (.operand (.number value))
  | name {text : String} {kind : ScopeKind}
      (h : s.resolve d (Text.upper text) = .ok kind) :
      Reads d s ⟨.name, text⟩ (.operand (.symbol (Text.upper text)))
  | text (literal : String) : Reads d s ⟨.text, literal⟩ (.operand (.text literal))
  | operator {text : String} {op : Operator} (h : Text.upper text = op.text)
      (hend : op ≠ .endOfInput) : Reads d s ⟨.operator, text⟩ (.operator op)

/-- Whether an expression is a constant or a name. -/
def Expr.isOperand : Expr → Bool
  | .number _ | .symbol _ | .text _ => true
  | _ => false

/-- Whether an operator joins the elements of a list of items. -/
def Operator.joinsItems : Operator → Bool
  | .comma | .plus | .minus => true
  | _ => false

/-- Whether an operator joins the assignments of a sentence. -/
def Operator.joinsAssignments : Operator → Bool
  | .run | .bind => true
  | _ => false

inductive Category where
  /-- An element that is no conditional. -/
  | closed
  | items
  | assignment
  | sentence
deriving DecidableEq, Repr

/-- The words of each category. Of the elements of a list of items only the last
may be a conditional. -/
inductive Derives : Category → List Entry → Prop where
  | operand {e : Expr} (h : e.isOperand = true) : Derives .closed [.operand e]
  | group {w : List Entry} (h : Derives .items w) :
      Derives .closed (.operator .openGroup :: (w ++ [.operator .closeGroup]))
  | element {w : List Entry} (h : Derives .closed w) : Derives .items w
  | conditional {c y n : List Entry} (hc : Derives .items c) (hy : Derives .items y)
      (hn : Derives .items n) :
      Derives .items (.operator .cond :: (c ++ .operator .thenBranch ::
        (y ++ .operator .elseBranch :: n)))
  | join {w v : List Entry} {op : Operator} (hw : Derives .closed w)
      (hop : op.joinsItems = true) (hv : Derives .items v) :
      Derives .items (w ++ .operator op :: v)
  | items {w : List Entry} (h : Derives .items w) : Derives .assignment w
  | assign {w v : List Entry} (hw : Derives .assignment w) (hv : Derives .items v) :
      Derives .assignment (w ++ .operator .assign :: v)
  | assignment {w : List Entry} (h : Derives .assignment w) : Derives .sentence w
  | sequence {w v : List Entry} {op : Operator} (hw : Derives .sentence w)
      (hop : op.joinsAssignments = true) (hv : Derives .assignment v) :
      Derives .sentence (w ++ .operator op :: v)

/-- The word of an expression, from left to right. -/
def Expr.yield : Expr → List Entry
  | .number value => [.operand (.number value)]
  | .symbol name => [.operand (.symbol name)]
  | .text literal => [.operand (.text literal)]
  | .group inner =>
      .operator .openGroup :: (inner.yield ++ [.operator .closeGroup])
  | .binary op left right => left.yield ++ .operator op :: right.yield
  | .select cond yes no =>
      .operator .cond :: (cond.yield ++ .operator .thenBranch ::
        (yes.yield ++ .operator .elseBranch :: no.yield))

/-- How tightly an operator binds its operands, the loosest operators first. A
parenthesis and a branch keyword end all that is tighter. -/
def Operator.level : Operator → Nat
  | .endOfInput => 0
  | .run | .bind => 1
  | .assign => 2
  | .closeGroup => 3
  | .cond | .thenBranch | .elseBranch => 4
  | .comma => 5
  | .plus | .minus => 6
  | .openGroup => 7

/-- The level of an expression as the right operand of an operator. Conditionals
begin with a keyword, so they stand there like operands. -/
def Expr.headLevel : Expr → Nat
  | .binary op _ _ => op.level
  | _ => 7

/-- The level of an expression in front of an operator. The last branch of a
conditional takes in every operator that is tighter than the branch keywords. -/
def Expr.tailLevel : Expr → Nat
  | .binary op _ right => min op.level right.tailLevel
  | .select _ _ no => min Operator.elseBranch.level no.tailLevel
  | _ => 7

/-- The operators of an expression have the operands that their levels give them.
Operators of one level take their operands from the left. -/
def Expr.Grouped : Expr → Prop
  | .group inner =>
      inner.Grouped ∧ Operator.closeGroup.level ≤ inner.tailLevel
  | .binary op left right =>
      op.isBinary = true ∧ left.Grouped ∧ right.Grouped ∧
        op.level ≤ left.tailLevel ∧ op.level < right.headLevel
  | .select cond yes no =>
      cond.Grouped ∧ yes.Grouped ∧ no.Grouped ∧
        Operator.thenBranch.level ≤ cond.tailLevel ∧
        Operator.elseBranch.level ≤ yes.tailLevel ∧
        Operator.elseBranch.level < no.headLevel
  | _ => True

def Expr.IsTreeOf (e : Expr) (w : List Entry) : Prop :=
  e.Grouped ∧ e.yield = w

end KeywordLang.Expression
