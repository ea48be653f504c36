import KeywordLang.Dialect
import KeywordLang.Expression.Operator

/-!
What can be wrong with a source, and how it is reported. A fault is a cause; a
diagnostic adds the line on which it came to light.
-/

namespace KeywordLang

open Expression (Operator)
open Text (Decimal.write)

/-- A text in the quotation marks of the diagnostics. -/
def marked (s : String) : String :=
  "«" ++ s ++ "»"

/-- How the parentheses of a body or an expression fail to match. -/
inductive Imbalance where
  /-- A parenthesis is closed that was not opened. -/
  | strayClose
  /-- The end is reached with parentheses still open. -/
  | leftOpen (count : Nat)
deriving DecidableEq, Repr

def Imbalance.message : Imbalance → String
  | .strayClose => "closing parenthesis without an opening one"
  | .leftOpen count => Decimal.write count ++ " parenthesis left open"

/-- What would have been in order at the place of a fault. -/
inductive Expectation where
  | moduleDeclaration
  | moduleName
  | functionOrModuleEnd
  | functionName
  | parameterList
  | parameterOrClose
  | commaOrClose
  | parameter
  | assignment
  | functionBody
  | exportedName
  | openModule
  | openFunction
  | operand
  | operator
  | wellFormedExpression
deriving DecidableEq, Repr

def Expectation.message : Expectation → String
  | .moduleDeclaration => "a module declaration"
  | .moduleName => "a module name"
  | .functionOrModuleEnd => "a function declaration or the module end"
  | .functionName => "a function name"
  | .parameterList => "a parameter list"
  | .parameterOrClose => "a parameter or «)»"
  | .commaOrClose => "«,» or «)»"
  | .parameter => "a parameter"
  | .assignment => "«=»"
  | .functionBody => "a function body"
  | .exportedName => "the name of the exported function"
  | .openModule => "an open module"
  | .openFunction => "an open function"
  | .operand => "an operand"
  | .operator => "an operator"
  | .wellFormedExpression => "a well-formed expression"

/-- What was there instead. -/
inductive Finding where
  | endOfInput
  | lineBreak
  /-- A piece of the source. -/
  | excerpt (text : String)
  /-- An operand on the stack, given by its code. -/
  | operand (code : String)
  | operator (op : Operator)
  /-- An operator on the stack in the place of another. -/
  | misplaced (op expected : Operator)
  | emptyStack
  | leftovers
deriving DecidableEq, Repr

def Finding.message : Finding → String
  | .endOfInput => "end of input"
  | .lineBreak => "line break"
  | .excerpt text => marked text
  | .operand code => "operand " ++ marked code
  | .operator op => "operator " ++ marked op.text
  | .misplaced op expected =>
      marked op.text ++ " where " ++ marked expected.text ++ " belongs"
  | .emptyStack => "an empty stack"
  | .leftovers => "dangling operators or operands"

/-- The causes for which a source is refused. -/
inductive Fault where
  | nameTooLong (name : String) (limit : Nat)
  | alreadyDefined (name : String)
  | undefinedName (name : String)
  | numberOutOfRange (text : String) (range : NumberRange)
  | unbalanced (cause : Imbalance)
  | moduleAlreadyOpen (name : String)
  | unexpected (expected : Expectation) (found : Finding)
deriving DecidableEq, Repr

def Fault.message : Fault → String
  | .nameTooLong name limit =>
      "Symbol " ++ marked name ++ " is longer than " ++ Decimal.write limit ++
        " characters"
  | .alreadyDefined name => "Symbol " ++ marked name ++ " is already defined"
  | .undefinedName name => "Unknown symbol " ++ marked name
  | .numberOutOfRange text range =>
      "Numeric constant " ++ text ++ " is outside " ++ Decimal.write range.min ++ ".." ++
        Decimal.write range.max
  | .unbalanced cause => "Unbalanced parenthesis: " ++ cause.message
  | .moduleAlreadyOpen name => "Module " ++ marked name ++ " is already open"
  | .unexpected expected found =>
      "Expected " ++ expected.message ++ ", found " ++ found.message

/-- A fault and the line on which it came to light. -/
structure Diagnostic where
  fault : Fault
  line : Nat
deriving DecidableEq, Repr

def Diagnostic.message (e : Diagnostic) : String :=
  e.fault.message ++ " at line " ++ Decimal.write e.line ++ "."

end KeywordLang
