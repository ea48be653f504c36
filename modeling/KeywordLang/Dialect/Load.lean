import KeywordLang.Dialect
import KeywordLang.Json

/-!
Dialects in JSON. Everything may be left out and then is as in the standard
dialect.
-/

namespace KeywordLang

/-- Why a text gives no dialect. -/
inductive LoadError where
  /-- The text is no JSON, or describes no dialect. -/
  | malformed
  | rejected (cause : DialectError)
deriving DecidableEq, Repr

def LoadError.message : LoadError → String
  | .malformed => "invalid config"
  | .rejected cause => cause.message

open Json (field? toRecord? toText? toTexts? toNatBelow?)

def Keywords.ofJson? (json : Json) : Option Keywords := do
  let fields ← toRecord? ["module", "function", "start", "self_ref"] json
  let default : Keywords := {}
  return {
    module := ← field? fields "module" toText? default.module
    function := ← field? fields "function" toText? default.function
    start := ← field? fields "start" toText? default.start
    selfRef := ← field? fields "self_ref" toText? default.selfRef }

/-- The bounds that a value describes, which are words of 32 bits. -/
def NumberRange.ofJson? (json : Json) : Option NumberRange := do
  let fields ← toRecord? ["min", "max"] json
  let default : NumberRange := {}
  return {
    min := ← field? fields "min" (toNatBelow? 0x100000000) default.min
    max := ← field? fields "max" (toNatBelow? 0x100000000) default.max }

namespace Dialect

/-- The names of the fields, in the order of their array form. -/
def fieldNames : List String :=
  ["keywords", "globals", "max_symbol_len", "number_range", "prefix", "text_ctor",
    "select_fn"]

/-- The dialect that a value describes, with its words as they are. -/
def ofJson? (json : Json) : Option Dialect := do
  let fields ← toRecord? fieldNames json
  return {
    keywords := ← field? fields "keywords" Keywords.ofJson? standard.keywords
    builtins := ← field? fields "globals" toTexts? standard.builtins
    maxNameLength :=
      ← field? fields "max_symbol_len" (toNatBelow? 0x10000000000000000) standard.maxNameLength
    numberRange := ← field? fields "number_range" NumberRange.ofJson? standard.numberRange
    namePrefix := ← field? fields "prefix" toText? standard.namePrefix
    textConstructor := ← field? fields "text_ctor" toText? standard.textConstructor
    selector := ← field? fields "select_fn" toText? standard.selector }

/-- The dialect that a text describes, in canonical form. -/
def load (text : String) : Except LoadError Dialect :=
  match (Json.parse? text).bind ofJson? with
  | none => .error .malformed
  | some d =>
      match d.normalize with
      | .ok d => .ok d
      | .error cause => .error (.rejected cause)

end Dialect

end KeywordLang
