import KeywordLang.Code
import KeywordLang.Lexeme

/-!
The declarations of a program, seen lexeme by lexeme. A program is a sequence of
modules,

    module   ::= MODULE name function* START entry
    function ::= FUNCTION name '(' [parameter (',' parameter)*] ')' '=' body

where a body is any sequence of constants, names and punctuation. A phase says
how far into a declaration the program has come, and an action what a lexeme
asks for.
-/

namespace KeywordLang.Program

/-- How far into a declaration a program has come. -/
inductive Phase where
  | root
  | moduleName
  | inModule
  | functionName
  | parametersOpen
  /-- After the parenthesis that opens a parameter list. -/
  | firstParameter
  | afterParameter
  /-- After the comma between two parameters. -/
  | nextParameter
  | assignment
  | body
  | moduleEnd
deriving DecidableEq, Repr

/-- What may come next. -/
def Phase.expectation : Phase → Expectation
  | .root => .moduleDeclaration
  | .moduleName => .moduleName
  | .inModule => .functionOrModuleEnd
  | .functionName => .functionName
  | .parametersOpen => .parameterList
  | .firstParameter => .parameterOrClose
  | .afterParameter => .commaOrClose
  | .nextParameter => .parameter
  | .assignment => .assignment
  | .body => .functionBody
  | .moduleEnd => .exportedName

/-- What a lexeme asks for at its place in a declaration. -/
inductive Action where
  | openModule (name : String)
  | openFunction (name : String)
  | mark (m : Mark)
  | parameter (name : String)
  | assign
  | closeFunction
  | selfReference
  | number (text : String)
  | text (literal : String)
  | symbol (name : String)
  | closeModule (entry : String)
deriving DecidableEq, Repr

def Phase.refuse (phase : Phase) (x : Lexeme) : Fault :=
  .unexpected phase.expectation x.describe

/-- Where an operator leads within a body. A keyword wins over punctuation of the
same spelling. -/
def Phase.bodyOperator? (k : Keywords) (word : String) : Option (Phase × Action) :=
  if word = k.function then some (.functionName, .closeFunction)
  else if word = k.start then some (.moduleEnd, .closeFunction)
  else if word = k.selfRef then some (.body, .selfReference)
  else (Mark.ofWord? word).map fun m => (.body, .mark m)

/-- Where a lexeme leads, and what it asks for. -/
def Phase.next? (k : Keywords) (phase : Phase) (x : Lexeme) :
    Option (Phase × Option Action) :=
  match phase, x.kind with
  | .root, .endOfInput => some (.root, none)
  | .root, .operator =>
      if x.word = k.module then some (.moduleName, none) else none
  | .moduleName, .name => some (.inModule, some (.openModule x.word))
  | .inModule, .operator =>
      if x.word = k.function then some (.functionName, none)
      else if x.word = k.start then some (.moduleEnd, none)
      else none
  | .functionName, .name => some (.parametersOpen, some (.openFunction x.word))
  | .parametersOpen, .operator =>
      if x.word = "(" then some (.firstParameter, some (.mark .openParen)) else none
  | .firstParameter, .name => some (.afterParameter, some (.parameter x.word))
  | .nextParameter, .name => some (.afterParameter, some (.parameter x.word))
  | .firstParameter, .operator =>
      if x.word = ")" then some (.assignment, some (.mark .closeParen)) else none
  | .afterParameter, .operator =>
      if x.word = ")" then some (.assignment, some (.mark .closeParen))
      else if x.word = "," then some (.nextParameter, some (.mark .comma))
      else none
  | .assignment, .operator =>
      if x.word = "=" then some (.body, some .assign) else none
  | .body, .operator =>
      (bodyOperator? k x.word).map fun (next, action) => (next, some action)
  | .body, .number => some (.body, some (.number x.text))
  | .body, .text => some (.body, some (.text x.text))
  | .body, .name => some (.body, some (.symbol x.word))
  | .moduleEnd, .name => some (.root, some (.closeModule x.word))
  | _, _ => none

/-- Where a lexeme leads, and what it asks for, or its refusal. Trivia are to be
left out beforehand. -/
def Phase.transition (k : Keywords) (phase : Phase) (x : Lexeme) :
    Except Fault (Phase × Option Action) :=
  match phase.next? k x with
  | some step => .ok step
  | none => .error (phase.refuse x)

end KeywordLang.Program
