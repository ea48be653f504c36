import KeywordLang.Proofs.ScopeChanges
import KeywordLang.Program.Machine
import KeywordLang.Scan

namespace KeywordLang

/-- A letter, followed by letters and digits. -/
def isWord (s : String) : Bool :=
  match s.toList with
  | [] => false
  | c :: rest => Text.isAlphabetic c && rest.all Scan.continuesWord

/-- Keywords that can be told apart from each other and from punctuation. -/
structure Keywords.Distinct (k : Keywords) : Prop where
  nodup : k.toList.Nodup
  words : ∀ word ∈ k.toList, isWord word = true

/-- A dialect with keywords in Latin letters. -/
def Dialect.latin : Dialect :=
  { Dialect.standard with keywords := ⟨"MODULE", "FN", "START", "SELF"⟩, builtins := ["SIN"] }

namespace Program

inductive Terminal where
  | module
  | function
  | start
  | selfReference
  | assign
  | mark (m : Mark)
  | name (word : String)
  | number (value : Nat)
  | text (literal : String)
deriving DecidableEq, Repr

/-- The upper-case text of a terminal that is written with an operator. -/
def Terminal.spelling? (k : Keywords) : Terminal → Option String
  | .module => some k.module
  | .function => some k.function
  | .start => some k.start
  | .selfReference => some k.selfRef
  | .assign => some "="
  | .mark m => some m.text
  | .name _ | .number _ | .text _ => none

/-- What a lexeme stands for in a program. -/
inductive Reads (d : Dialect) : Lexeme → Terminal → Prop where
  | operator {text : String} {a : Terminal}
      (h : a.spelling? d.keywords = some (Text.upper text)) : Reads d ⟨.operator, text⟩ a
  | name (text : String) : Reads d ⟨.name, text⟩ (.name (Text.upper text))
  | number {text : String} {value : Nat} (h : Numeral.check d text = .ok value) :
      Reads d ⟨.number, text⟩ (.number value)
  | text (literal : String) : Reads d ⟨.text, literal⟩ (.text literal)

inductive Item where
  | number (value : Nat)
  | text (literal : String)
  | name (word : String)
  | selfReference
  | mark (m : Mark)
deriving DecidableEq, Repr

/-- The name and the parameters of a function. -/
structure Heading where
  name : String
  parameters : List String
deriving DecidableEq, Repr

structure FunctionDecl extends Heading where
  body : List Item
deriving DecidableEq, Repr

structure ModuleDecl where
  name : String
  functions : List FunctionDecl
  /-- What the module exports. -/
  entry : String
deriving DecidableEq, Repr

/-! The terminals of a program, from left to right. -/

def Item.terminal : Item → Terminal
  | .number value => .number value
  | .text literal => .text literal
  | .name word => .name word
  | .selfReference => .selfReference
  | .mark m => .mark m

def Heading.yield (h : Heading) : List Terminal :=
  [.function, .name h.name, .mark .openParen] ++
    (h.parameters.map .name).intersperse (.mark .comma) ++ [.mark .closeParen]

def FunctionDecl.yield (f : FunctionDecl) : List Terminal :=
  f.toHeading.yield ++ .assign :: f.body.map Item.terminal

def ModuleDecl.yield (m : ModuleDecl) : List Terminal :=
  [.module, .name m.name] ++ m.functions.flatMap FunctionDecl.yield ++
    [.start, .name m.entry]

def yield (program : List ModuleDecl) : List Terminal :=
  program.flatMap ModuleDecl.yield

/-! The code of a program. A function refers to itself by its name. -/

def Item.render (d : Dialect) (self : String) : Item → String
  | .number value => Text.Decimal.write value
  | .text literal => Code.textCall d literal
  | .name word => Code.symbol d word
  | .selfReference => Code.symbol d self
  | .mark m => m.text

def FunctionDecl.render (d : Dialect) (f : FunctionDecl) : String :=
  "  const " ++ Code.symbol d f.name ++ " = (" ++
    String.join ((f.parameters.map (Code.symbol d)).intersperse ",") ++ ") => (" ++
    String.join (f.body.map (Item.render d f.name)) ++ ");\n"

def ModuleDecl.render (d : Dialect) (m : ModuleDecl) : String :=
  "const " ++ Code.symbol d m.name ++ " = function () \x7b\n" ++
    String.join (m.functions.map (FunctionDecl.render d)) ++
    "  return " ++ Code.symbol d m.entry ++ ";\n\x7d();\n"

def render (d : Dialect) (program : List ModuleDecl) : String :=
  String.join (program.map (ModuleDecl.render d))

/-! The names of a program. -/

/-- A name that may be declared after the modules given. -/
def Declarable (d : Dialect) (modules : List String) (name : String) : Prop :=
  Scopes.Permitted d name ∧ name ∉ modules

/-- A name that may be used where the names given are declared. -/
def Usable (d : Dialect) (names : List String) (name : String) : Prop :=
  name.length ≤ d.maxNameLength ∧ (d.isBuiltin name = true ∨ name ∈ names)

/-- Every element of a list stands in a relation to those before it. -/
def Successive {α : Type} (P : List α → α → Prop) (xs : List α) : Prop :=
  ∀ before x after, xs = before ++ x :: after → P before x

/-- No parenthesis is closed before it is opened. -/
def Nested (items : List Item) : Prop :=
  ∀ before, before <+: items →
    before.count (.mark .closeParen) ≤ before.count (.mark .openParen)

/-- Every parenthesis that is opened is closed later. -/
def Balanced (items : List Item) : Prop :=
  Nested items ∧ items.count (.mark .closeParen) = items.count (.mark .openParen)

/-- The heading of a function that follows the functions given in its module. -/
structure Heading.WellScoped (d : Dialect) (modules : List String) (module : String)
    (functions : List String) (h : Heading) : Prop where
  name : Declarable d modules h.name ∧ h.name ≠ module ∧ h.name ∉ functions
  parameters : ∀ p ∈ h.parameters,
    Declarable d modules p ∧ p ≠ module ∧ p ≠ h.name ∧ p ∉ functions
  nodup : h.parameters.Nodup

/-- The names of a body are known, those of its function among them. -/
def FunctionDecl.BodyInScope (d : Dialect) (modules functions : List String)
    (f : FunctionDecl) : Prop :=
  ∀ word, .name word ∈ f.body →
    Usable d (f.parameters ++ f.name :: functions ++ modules) word

/-- A function that follows the functions given in its module. -/
structure FunctionDecl.WellScoped (d : Dialect) (modules : List String) (module : String)
    (functions : List String) (f : FunctionDecl) : Prop where
  heading : f.toHeading.WellScoped d modules module functions
  body : f.BodyInScope d modules functions
  balanced : Balanced f.body

/-- A module that follows the modules given. It exports a function of its own or a
global name. -/
structure ModuleDecl.WellScoped (d : Dialect) (modules : List String) (m : ModuleDecl) :
    Prop where
  name : Declarable d modules m.name
  functions : Successive
    (fun before f => f.WellScoped d modules m.name (before.map (·.name))) m.functions
  entry : Usable d (m.functions.map (·.name) ++ modules) m.entry

/-- Every name of a program is declared once, and before it is used. -/
def WellScoped (d : Dialect) (program : List ModuleDecl) : Prop :=
  Successive (fun before m => m.WellScoped d (before.map (·.name))) program

end Program

end KeywordLang
