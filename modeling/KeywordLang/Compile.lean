import KeywordLang.Expression.Machine
import KeywordLang.Scan
import KeywordLang.Program.Machine

namespace KeywordLang

/-- What a source holds. -/
inductive Mode where
  | module
  | expression
deriving DecidableEq, Repr

def Mode.title : Mode → String
  | .module => "Module"
  | .expression => "Expression"

/-- The code of a program, or its first fault. -/
def compileProgram (d : Dialect) (source : String) : Except Diagnostic String := do
  let m ← Program.Machine.run d {} (Scan.tokens d source)
  m.finish d

/-- The code of an expression, which may use the built-ins, or its first fault. -/
def compileExpression (d : Dialect) (source : String) : Except Diagnostic String := do
  let m ← Expression.Machine.run d {} {} (Scan.tokens d source)
  m.finish d

/-- The code of a source, or its first fault. -/
def compile (d : Dialect) (mode : Mode) (source : String) : Except Diagnostic String :=
  match mode with
  | .module => compileProgram d source
  | .expression => compileExpression d source

end KeywordLang
