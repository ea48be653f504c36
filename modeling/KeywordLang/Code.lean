import KeywordLang.Dialect

namespace KeywordLang

/-- The punctuation of parameter lists and function bodies, which the generated
code takes over unchanged. -/
inductive Mark where
  | openParen
  | closeParen
  | comma
  | plus
  | minus
deriving DecidableEq, Repr

namespace Mark

def text : Mark → String
  | .openParen => "("
  | .closeParen => ")"
  | .comma => ","
  | .plus => "+"
  | .minus => "-"

def ofWord? : String → Option Mark
  | "(" => some .openParen
  | ")" => some .closeParen
  | "," => some .comma
  | "+" => some .plus
  | "-" => some .minus
  | _ => none

theorem ofWord?_text (m : Mark) : ofWord? m.text = some m := by
  cases m <;> rfl

end Mark

namespace Code

/-- A name in the generated code. -/
def symbol (d : Dialect) (name : String) : String :=
  d.namePrefix ++ name

/-- A text constant, given with its quotes. -/
def textCall (d : Dialect) (literal : String) : String :=
  symbol d d.textConstructor ++ "(" ++ literal ++ ")"

/-- The choice between two values. -/
def selectCall (d : Dialect) (cond yes no : String) : String :=
  d.selector ++ "((" ++ cond ++ "),(" ++ yes ++ "),(" ++ no ++ "))"

end Code

/-- A piece of generated code. -/
inductive Fragment where
  | moduleOpen (name : String)
  | moduleClose (entry : String)
  | functionOpen (name : String)
  | assign
  | functionClose
  | mark (m : Mark)
  | symbol (name : String)
  | number (value : Nat)
  | text (literal : String)
  /-- Code that is complete in itself, such as that of an expression. -/
  | verbatim (code : String)
deriving DecidableEq, Repr

namespace Fragment

def render (d : Dialect) : Fragment → String
  | .moduleOpen name => "const " ++ Code.symbol d name ++ " = function () \x7b\n"
  | .moduleClose entry => "  return " ++ Code.symbol d entry ++ ";\n\x7d();\n"
  | .functionOpen name => "  const " ++ Code.symbol d name ++ " = "
  | .assign => " => ("
  | .functionClose => ");\n"
  | .mark m => m.text
  | .symbol name => Code.symbol d name
  | .number value => Text.Decimal.write value
  | .text literal => Code.textCall d literal
  | .verbatim code => code

end Fragment

/-- The code of a sequence of fragments, with nothing between them. -/
def Code.render (d : Dialect) (fragments : List Fragment) : String :=
  String.join (fragments.map (Fragment.render d))

theorem Code.render_append (d : Dialect) (xs ys : List Fragment) :
    Code.render d (xs ++ ys) = Code.render d xs ++ Code.render d ys := by
  apply String.ext
  simp [Code.render]

end KeywordLang
