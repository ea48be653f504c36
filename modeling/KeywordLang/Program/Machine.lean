import KeywordLang.Numeral
import KeywordLang.Program.Phase
import KeywordLang.Scopes

/-!
The machine that compiles programs. It takes one token at a time, checks the
names against the scopes, and appends the generated code.
-/

namespace KeywordLang.Program

/-- A program compiled up to some token. -/
structure Machine where
  phase : Phase := .root
  scopes : Scopes := {}
  code : Array Fragment := #[]
  line : Nat := 1
deriving DecidableEq, Repr

namespace Machine

def emit (m : Machine) (f : Fragment) : Machine :=
  { m with code := m.code.push f }

/-- Appends generated code after a change of the scopes, unless that change is
refused. -/
def emitWith (m : Machine) (f : Fragment) :
    Except Fault Scopes → Except Fault Unit × Machine
  | .ok scopes => (.ok (), { m with scopes }.emit f)
  | .error fault => (.error fault, m)

/-- Carries out an action. What was changed before a refusal stays changed. -/
def act (d : Dialect) (m : Machine) : Action → Except Fault Unit × Machine
  | .openModule name =>
      m.emitWith (.moduleOpen name) (m.scopes.beginModule d name)
  | .openFunction name =>
      m.emitWith (.functionOpen name)
        ((m.scopes.declareFunction d name).map (·.beginFunction name))
  | .mark .openParen =>
      m.emitWith (.mark .openParen) (.ok m.scopes.openBracket)
  | .mark .closeParen =>
      m.emitWith (.mark .closeParen) m.scopes.closeBracket
  | .mark mark => (.ok (), m.emit (.mark mark))
  | .parameter name =>
      m.emitWith (.symbol name) (m.scopes.declareParameter d name)
  | .assign => (.ok (), m.emit .assign)
  | .closeFunction => m.emitWith .functionClose m.scopes.endFunction
  | .selfReference =>
      match m.scopes.openFunction with
      | some name => (.ok (), m.emit (.symbol name))
      | none =>
          (.error (.unexpected .openFunction (.excerpt d.keywords.selfRef)), m)
  | .number text =>
      match Numeral.check d text with
      | .ok value => (.ok (), m.emit (.number value))
      | .error fault => (.error fault, m)
  | .text literal => (.ok (), m.emit (.text literal))
  | .symbol name =>
      m.emitWith (.symbol name) ((m.scopes.resolve d name).map fun _ => m.scopes)
  | .closeModule entry =>
      match m.scopes.endModule d entry with
      | (.ok _, scopes) => (.ok (), { m with scopes }.emit (.moduleClose entry))
      | (.error fault, scopes) => (.error fault, { m with scopes })

def step (d : Dialect) (m : Machine) (x : Lexeme) : Except Fault Unit × Machine :=
  match m.phase.transition d.keywords x with
  | .error fault => (.error fault, m)
  | .ok (next, none) => (.ok (), { m with phase := next })
  | .ok (next, some action) =>
      match m.act d action with
      | (.ok (), m') => (.ok (), { m' with phase := next })
      | (.error fault, m') => (.error fault, m')

/-- Takes a token. A refusal reports the line of the token, and the machine can
go on after it. -/
def feed (d : Dialect) (m : Machine) (t : Token) : Except Diagnostic Unit × Machine :=
  let m := { m with line := t.line }
  if t.isTrivia then (.ok (), m)
  else
    match m.step d t.toLexeme with
    | (.ok (), m') => (.ok (), m')
    | (.error fault, m') => (.error ⟨fault, t.line⟩, m')

/-- Takes tokens up to the first refusal. -/
def run (d : Dialect) (m : Machine) : List Token → Except Diagnostic Machine
  | [] => .ok m
  | t :: rest =>
      match m.feed d t with
      | (.ok (), m') => run d m' rest
      | (.error e, _) => .error e

/-- The generated code, once every module has been closed. -/
def finish (d : Dialect) (m : Machine) : Except Diagnostic String :=
  match m.phase with
  | .root => .ok (Code.render d m.code.toList)
  | phase => .error ⟨.unexpected phase.expectation .endOfInput, m.line⟩

end Machine

end KeywordLang.Program
