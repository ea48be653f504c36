import KeywordLang.Text.Decimal
import KeywordLang.Text.Quoted
import KeywordLang.Text.UpperCase
import KeywordLang.Text.WhiteSpace

/-!
A dialect of the language: its declaration keywords, its built-in names, its
limits, and the names that the generated code relies on.

Words of a source are compared in upper case, so a usable dialect spells its
keywords and built-ins in upper case. `Dialect.normalize` brings any dialect into
that form or says why it cannot.
-/

namespace KeywordLang

/-- The keywords that declare modules and functions. -/
structure Keywords where
  /-- Opens a module. -/
  module : String := "МОДУЛЬ"
  /-- Declares a function. -/
  function : String := "ПУСТЬ"
  /-- Closes a module and names its exported function. -/
  start : String := "СТАРТ"
  /-- Refers to the function that is being declared. -/
  selfRef : String := "СЕБЯ"
deriving DecidableEq, Repr

namespace Keywords

def toList (k : Keywords) : List String :=
  [k.module, k.function, k.start, k.selfRef]

def map (f : String → String) (k : Keywords) : Keywords where
  module := f k.module
  function := f k.function
  start := f k.start
  selfRef := f k.selfRef

theorem toList_map (f : String → String) (k : Keywords) :
    (k.map f).toList = k.toList.map f := rfl

end Keywords

/-- Inclusive bounds of numeric constants. -/
structure NumberRange where
  min : Nat := 0
  max : Nat := 1000
deriving DecidableEq, Repr

def NumberRange.contains (r : NumberRange) (value : Nat) : Bool :=
  r.min ≤ value && value ≤ r.max

/-- Everything that a compilation has to know about the language that it reads
and the code that it writes. -/
structure Dialect where
  keywords : Keywords := {}
  /-- Names of the runtime library, which every program may use. -/
  builtins : List String :=
    ["СЛОЖ", "ИНВ", "ОТР", "НЕИ", "СПИСОК", "ГОЛОВА", "ХВОСТ", "ПУСТО", "ВЫБОР",
      "ВЫВОД", "ВЫВОДС"]
  /-- The greatest number of characters in a name. -/
  maxNameLength : Nat := 6
  numberRange : NumberRange := {}
  /-- Stands before every name in the generated code. -/
  namePrefix : String := "m_"
  /-- The runtime function that wraps text constants. -/
  textConstructor : String := "ТЕКСТ"
  /-- The runtime function that conditionals call. -/
  selector : String := "select"
deriving DecidableEq, Repr

/-- Why a dialect is unusable. -/
inductive DialectError where
  | emptyKeyword
  | repeatedKeyword (keywords : Keywords)
  | reservedBuiltin (name : String)
  | invertedRange (range : NumberRange)
  | noNames
deriving DecidableEq, Repr

def DialectError.message : DialectError → String
  | .emptyKeyword => "keywords must not be empty"
  | .repeatedKeyword keywords =>
      "keywords must be distinct: " ++ Text.quotedList keywords.toList
  | .reservedBuiltin name => "builtin `" ++ name ++ "` clashes with a keyword"
  | .invertedRange range =>
      "number range is inverted: " ++ Text.Decimal.write range.min ++ " > " ++
        Text.Decimal.write range.max
  | .noNames => "max_symbol_len must be at least 1"

namespace Dialect

/-- The dialect in force where nothing else is asked for. -/
def standard : Dialect := {}

/-- The words of the expression language, the same in every dialect. -/
def expressionKeywords : List String :=
  ["LET", "RUN", "IF", "THEN", "ELSE"]

/-- Every word that is an operator and not a name. -/
def reservedWords (d : Dialect) : List String :=
  d.keywords.toList ++ expressionKeywords

/-- Whether a word is an operator and not a name. -/
def isReserved (d : Dialect) (word : String) : Bool :=
  d.reservedWords.contains word

/-- Whether a name belongs to the runtime library. -/
def isBuiltin (d : Dialect) (name : String) : Bool :=
  d.builtins.contains name

/-- The spelling under which a word is compared: upper case, and no white space
around it. -/
def canonical (word : String) : String :=
  Text.upper (Text.trim word)

/-- The canonical built-ins: empty names are dropped, and of equal ones the first
stays. -/
def canonicalBuiltins (names : List String) : List String :=
  ((names.map canonical).filter (· ≠ "")).eraseDups

/-- A dialect with all its words in canonical form. -/
def canonicalize (d : Dialect) : Dialect :=
  { d with
    keywords := d.keywords.map canonical
    builtins := canonicalBuiltins d.builtins }

/-- The first thing that makes a dialect with canonical words unusable. -/
def defect? (d : Dialect) : Option DialectError :=
  if d.keywords.toList.contains "" then
    some .emptyKeyword
  else if ¬ d.keywords.toList.Nodup then
    some (.repeatedKeyword d.keywords)
  else match d.builtins.find? d.isReserved with
    | some name => some (.reservedBuiltin name)
    | none =>
        if d.numberRange.max < d.numberRange.min then
          some (.invertedRange d.numberRange)
        else if d.maxNameLength = 0 then
          some .noNames
        else none

/-- The dialect in canonical form, or the first defect of that form. -/
def normalize (d : Dialect) : Except DialectError Dialect :=
  match d.canonicalize.defect? with
  | some defect => .error defect
  | none => .ok d.canonicalize

end Dialect

end KeywordLang
