import KeywordLang.Expression.Stack
import KeywordLang.Numeral
import KeywordLang.Scopes
import KeywordLang.Lexeme

/-!
The machine that compiles expressions. It takes one token at a time; operands go
onto the stack, and every operator settles what it completes.
-/

namespace KeywordLang.Expression

/-- What an expression read in part goes on with. -/
inductive Side where
  | operand
  | operator
deriving DecidableEq, Repr

def Side.expectation : Side → Expectation
  | .operand => .operand
  | .operator => .operator

/-- An expression compiled up to some token. -/
structure Machine where
  stack : Stack := []
  side : Side := .operand
  brackets : Brackets := {}
  line : Nat := 1
  /-- The end of the input has been taken. -/
  done : Bool := false
deriving DecidableEq, Repr

/-- The operator that a lexeme stands for, if it stands for one. -/
def operatorOf? (x : Lexeme) : Option Operator :=
  match x.kind with
  | .operator => Operator.ofWord? x.word
  | .endOfInput => some .endOfInput
  | _ => none

/-- The operand that a lexeme stands for: a constant, or a name in force. -/
def operandOf (d : Dialect) (s : Scopes) (x : Lexeme) : Except Fault Expr :=
  match x.kind with
  | .number => (Numeral.check d x.text).map .number
  | .name => (s.resolve d x.word).map fun _ => .symbol x.word
  | .text => .ok (.text x.text)
  | _ => .error (.unexpected .operand x.describe)

namespace Machine

/-- Puts an entry that settles nothing onto the stack. -/
def push (m : Machine) (entry : Entry) (next : Side) : Machine :=
  { m with stack := entry :: m.stack, side := next }

/-- Lets an operator come in and settles what it completes. -/
def settle (d : Dialect) (m : Machine) (op : Operator) (next : Side) :
    Except Fault Unit × Machine :=
  match m.stack.settle d op with
  | (.ok (), stack) => (.ok (), { m with stack, side := next })
  | (.error fault, stack) => (.error fault, { m with stack })

def stepOperand (d : Dialect) (s : Scopes) (m : Machine) (x : Lexeme) :
    Except Fault Unit × Machine :=
  match operatorOf? x with
  | some .openGroup =>
      (.ok (), { m with brackets := m.brackets.push }.push (.operator .openGroup) .operand)
  | some .cond => (.ok (), m.push (.operator .cond) .operand)
  | some _ => (.error (.unexpected .operand x.describe), m)
  | none =>
      match operandOf d s x with
      | .ok e => (.ok (), m.push (.operand e) .operator)
      | .error fault => (.error fault, m)

def stepOperator (d : Dialect) (m : Machine) (x : Lexeme) : Except Fault Unit × Machine :=
  match operatorOf? x with
  | some .closeGroup =>
      match m.brackets.pop with
      | .ok brackets => { m with brackets }.settle d .closeGroup .operator
      | .error fault => (.error fault, m)
  | some .endOfInput =>
      match m.brackets.ensureBalanced with
      | .ok () =>
          match m.settle d .endOfInput .operator with
          | (.ok (), m') => (.ok (), { m' with done := true })
          | (.error fault, m') => (.error fault, m')
      | .error fault => (.error fault, m)
  | some op =>
      if op.isBinary || op = .thenBranch || op = .elseBranch then m.settle d op .operand
      else (.error (.unexpected .operator x.describe), m)
  | none => (.error (.unexpected .operator x.describe), m)

/-- Takes a lexeme that is no trivia. Nothing may follow the end of the input. -/
def step (d : Dialect) (s : Scopes) (m : Machine) (x : Lexeme) :
    Except Fault Unit × Machine :=
  if m.done then (.error (Stack.malformed x.describe), m)
  else
    match m.side with
    | .operand => m.stepOperand d s x
    | .operator => m.stepOperator d x

/-- Takes a token. A refusal reports the line of the token, and the machine can
go on after it with what is left of the stack. -/
def feed (d : Dialect) (s : Scopes) (m : Machine) (t : Token) :
    Except Diagnostic Unit × Machine :=
  let m := { m with line := t.line }
  if t.isTrivia then (.ok (), m)
  else
    match m.step d s t.toLexeme with
    | (.ok (), m') => (.ok (), m')
    | (.error fault, m') => (.error ⟨fault, t.line⟩, m')

/-- Takes tokens up to the first refusal. -/
def run (d : Dialect) (s : Scopes) (m : Machine) : List Token → Except Diagnostic Machine
  | [] => .ok m
  | t :: rest =>
      match m.feed d s t with
      | (.ok (), m') => run d s m' rest
      | (.error e, _) => .error e

/-- The expression, once the end of the input has been taken and a single operand
is left. -/
def result (m : Machine) : Except Diagnostic Expr :=
  if m.done then
    match m.stack with
    | [.operand e] => .ok e
    | _ => .error ⟨Stack.malformed .leftovers, m.line⟩
  else .error ⟨.unexpected .operator .endOfInput, m.line⟩

def finish (d : Dialect) (m : Machine) : Except Diagnostic String :=
  m.result.map (Expr.render d)

end Machine

end KeywordLang.Expression
