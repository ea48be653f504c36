import KeywordLang.Expression.Expr
import KeywordLang.Fault

/-!
The stack of an expression that has been read in part. It holds the operands and
operators that wait for what follows them. When an operator comes in, whatever it
completes is settled into larger operands, one pass at a time.
-/

namespace KeywordLang.Expression

inductive Entry where
  | operand (e : Expr)
  | operator (op : Operator)
deriving DecidableEq, Repr

/-- The waiting operands and operators, the last one first. -/
abbrev Stack := List Entry

/-- The end of one pass over the stack. -/
inductive Pass where
  /-- Nothing more is to be settled. -/
  | settled (stack : Stack)
  /-- An operand has been formed, and the incoming operator may complete more. -/
  | formed (stack : Stack)
  /-- The stack is refused, and this is left of it. -/
  | refused (fault : Fault) (rest : Stack)
deriving DecidableEq, Repr

namespace Stack

/-- A finding that no well-formed expression explains. -/
def malformed (found : Finding) : Fault :=
  .unexpected .wellFormedExpression found

/-- Takes an operand off the stack and goes on with the rest. -/
def popOperand (stack : Stack) (go : Expr → Stack → Pass) : Pass :=
  match stack with
  | .operand e :: rest => go e rest
  | .operator op :: rest => .refused (malformed (.operator op)) rest
  | [] => .refused (malformed .emptyStack) []

def popOperator (d : Dialect) (stack : Stack) (go : Operator → Stack → Pass) : Pass :=
  match stack with
  | .operator op :: rest => go op rest
  | .operand e :: rest => .refused (malformed (.operand (e.render d))) rest
  | [] => .refused (malformed .emptyStack) []

/-- Takes a certain operator off the stack and goes on with the rest. -/
def popExpected (d : Dialect) (expected : Operator) (stack : Stack) (go : Stack → Pass) :
    Pass :=
  popOperator d stack fun op rest =>
    if op = expected then go rest
    else .refused (malformed (.misplaced op expected)) rest

/-- Forms a conditional of the two values given and the condition that the stack
holds in front of them. -/
def formSelect (d : Dialect) (yes no : Expr) (stack : Stack) : Pass :=
  popExpected d .thenBranch stack fun rest =>
    popOperand rest fun cond rest =>
      popExpected d .cond rest fun rest =>
        .formed (.operand (.select cond yes no) :: rest)

/-- Settles what `op` and `right`, the uppermost entries above `stack`, mean in
front of the operator `incoming`. -/
def settleOperator (d : Dialect) (incoming op : Operator) (right : Expr) (stack : Stack) :
    Pass :=
  let waiting : Stack := .operator incoming :: .operand right :: .operator op :: stack
  match op, incoming with
  | .openGroup, .closeGroup => .settled (.operand (.group right) :: stack)
  | .openGroup, _ | .cond, _ | .thenBranch, _ => .settled waiting
  | _, _ =>
      popOperand stack fun left rest =>
        if op.weight < incoming.weight then .settled waiting
        else if op = .elseBranch then formSelect d left right rest
        else .formed (.operand (.binary op left right) :: rest)

/-- One pass over the stack, with an operator that comes in on top of it. -/
def pass (d : Dialect) (incoming : Operator) (stack : Stack) : Pass :=
  popOperand stack fun right rest =>
    match rest with
    | [] =>
        if incoming = .endOfInput then .settled [.operand right]
        else .settled [.operator incoming, .operand right]
    | rest => popOperator d rest fun op rest => settleOperator d incoming op right rest

theorem popOperand_eq_formed {stack formed : Stack} {go : Expr → Stack → Pass}
    (h : popOperand stack go = .formed formed) :
    ∃ e rest, stack = .operand e :: rest ∧ go e rest = .formed formed := by
  match stack with
  | .operand e :: rest => exact ⟨e, rest, rfl, h⟩
  | .operator _ :: _ => simp [popOperand] at h
  | [] => simp [popOperand] at h

theorem popOperator_eq_formed {d : Dialect} {stack formed : Stack}
    {go : Operator → Stack → Pass} (h : popOperator d stack go = .formed formed) :
    ∃ op rest, stack = .operator op :: rest ∧ go op rest = .formed formed := by
  match stack with
  | .operator op :: rest => exact ⟨op, rest, rfl, h⟩
  | .operand _ :: _ => simp [popOperator] at h
  | [] => simp [popOperator] at h

theorem popExpected_eq_formed {d : Dialect} {expected : Operator} {stack formed : Stack}
    {go : Stack → Pass} (h : popExpected d expected stack go = .formed formed) :
    ∃ rest, stack = .operator expected :: rest ∧ go rest = .formed formed := by
  obtain ⟨op, rest, rfl, hgo⟩ := popOperator_eq_formed h
  split at hgo
  · next heq => exact ⟨rest, by rw [heq], hgo⟩
  · simp at hgo

theorem formSelect_eq_formed {d : Dialect} {yes no : Expr} {stack formed : Stack}
    (h : formSelect d yes no stack = .formed formed) :
    ∃ cond rest, stack = .operator .thenBranch :: .operand cond :: .operator .cond :: rest ∧
      formed = .operand (.select cond yes no) :: rest := by
  obtain ⟨afterThen, rfl, hthen⟩ := popExpected_eq_formed h
  obtain ⟨cond, afterCond, rfl, hcond⟩ := popOperand_eq_formed hthen
  obtain ⟨rest, rfl, hrest⟩ := popExpected_eq_formed hcond
  exact ⟨cond, rest, rfl, (Pass.formed.inj hrest).symm⟩

theorem length_lt_of_pass_eq_formed {d : Dialect} {incoming : Operator}
    {stack formed : Stack} (h : pass d incoming stack = .formed formed) :
    formed.length < stack.length := by
  obtain ⟨right, rest, rfl, hright⟩ := popOperand_eq_formed h
  split at hright
  · split at hright <;> simp at hright
  · obtain ⟨op, below, rfl, hop⟩ := popOperator_eq_formed hright
    unfold settleOperator at hop
    split at hop
    iterate 4 · simp at hop
    · obtain ⟨left, rest, rfl, hleft⟩ := popOperand_eq_formed hop
      split at hleft
      · simp at hleft
      · split at hleft
        · obtain ⟨cond, rest, rfl, rfl⟩ := formSelect_eq_formed hleft
          simp only [List.length_cons]
          omega
        · obtain rfl := Pass.formed.inj hleft
          simp only [List.length_cons]
          omega

/-- Settles all that the incoming operator completes. The stack stays as the
refused pass left it. -/
def settle (d : Dialect) (incoming : Operator) (stack : Stack) :
    Except Fault Unit × Stack :=
  match _h : pass d incoming stack with
  | .settled settled => (.ok (), settled)
  | .formed formed => settle d incoming formed
  | .refused fault rest => (.error fault, rest)
termination_by stack.length
decreasing_by exact length_lt_of_pass_eq_formed _h

end Stack

end KeywordLang.Expression
