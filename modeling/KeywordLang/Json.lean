/-!
Texts in the JSON format and the values that they hold.

A reader takes what it is for from the beginning of a text and hands on the rest.
Two distinctions matter to those who use the values. A number that is written
with digits alone is a natural number, and every other number is just a number. A
string may escape one half of a surrogate pair without the other half; it is then
well formed, but stands for no text.
-/

namespace KeywordLang

inductive Json where
  | null
  | bool (value : Bool)
  /-- A number written without sign, fraction and exponent. -/
  | natural (value : Nat)
  | otherNumber
  /-- A string, with its text if it stands for one. -/
  | string (text : Option String)
  | array (items : List Json)
  /-- The members of an object in order, repeated ones included. -/
  | object (members : List (Option String × Json))
deriving Repr

namespace Json

/-- Leaves out the blanks of the format. -/
def skipBlanks (cs : List Char) : List Char :=
  cs.dropWhile [' ', '\t', '\n', '\r'].contains

/-- Splits the digits off the beginning of a text. -/
def splitDigits (cs : List Char) : List Char × List Char :=
  (cs.takeWhile Char.isDigit, cs.dropWhile Char.isDigit)

/-- Splits a non-empty run of digits off the beginning of a text. -/
def someDigits? (cs : List Char) : Option (List Char × List Char) :=
  match splitDigits cs with
  | ([], _) => none
  | (digits, rest) => some (digits, rest)

/-- Reads the integer part of a number, which has no superfluous zero. -/
def integerPart? : List Char → Option (Nat × List Char)
  | '0' :: rest => some (0, rest)
  | cs => (someDigits? cs).map fun (digits, rest) => (Nat.ofDigitChars 10 digits 0, rest)

/-- Leaves out the fraction of a number, and tells whether there was one. -/
def skipFraction? : List Char → Option (Bool × List Char)
  | '.' :: rest => (someDigits? rest).map fun (_, rest) => (true, rest)
  | cs => some (false, cs)

def skipSign : List Char → List Char
  | '+' :: rest => rest
  | '-' :: rest => rest
  | cs => cs

/-- Leaves out the exponent of a number, and tells whether there was one. -/
def skipExponent? : List Char → Option (Bool × List Char)
  | c :: rest =>
      if c = 'e' ∨ c = 'E' then
        (someDigits? (skipSign rest)).map fun (_, rest) => (true, rest)
      else some (false, c :: rest)
  | [] => some (false, [])

def unsigned? (cs : List Char) : Option (Json × List Char) := do
  let (value, cs) ← integerPart? cs
  let (fraction, cs) ← skipFraction? cs
  let (exponent, cs) ← skipExponent? cs
  return (if fraction || exponent then .otherNumber else .natural value, cs)

def number? : List Char → Option (Json × List Char)
  | '-' :: rest => (unsigned? rest).map fun (_, rest) => (.otherNumber, rest)
  | cs => unsigned? cs

def hexDigit? (c : Char) : Option Nat :=
  if c.isDigit then some (c.toNat - '0'.toNat)
  else if 'a' ≤ c ∧ c ≤ 'f' then some (c.toNat - 'a'.toNat + 10)
  else if 'A' ≤ c ∧ c ≤ 'F' then some (c.toNat - 'A'.toNat + 10)
  else none

def hexValue? (digits : List Char) : Option Nat :=
  digits.foldlM (fun value c => (hexDigit? c).map (16 * value + ·)) 0

/-- The code point of a short escape. -/
def escape? : Char → Option Nat
  | '"' => some 0x22
  | '\\' => some 0x5C
  | '/' => some 0x2F
  | 'b' => some 0x08
  | 'f' => some 0x0C
  | 'n' => some 0x0A
  | 'r' => some 0x0D
  | 't' => some 0x09
  | _ => none

/-- Puts a code in front of those read. -/
def withCode (code : Nat) : Option (List Nat × List Char) → Option (List Nat × List Char) :=
  Option.map fun (codes, rest) => (code :: codes, rest)

/-- Reads the characters of a string after its opening quote, as code points and
as the halves of escaped surrogate pairs. -/
def codes? : List Char → Option (List Nat × List Char)
  | [] => none
  | '"' :: rest => some ([], rest)
  | '\\' :: 'u' :: a :: b :: c :: d :: rest => do
      let code ← hexValue? [a, b, c, d]
      withCode code (codes? rest)
  | '\\' :: c :: rest => do
      let code ← escape? c
      withCode code (codes? rest)
  | c :: rest =>
      if c = '\\' ∨ c.toNat < 0x20 then none else withCode c.toNat (codes? rest)

/-- Whether a code is the first half of a surrogate pair. -/
def isHighSurrogate (code : Nat) : Bool :=
  0xD800 ≤ code && code < 0xDC00

/-- Whether a code is the second half of a surrogate pair. -/
def isLowSurrogate (code : Nat) : Bool :=
  0xDC00 ≤ code && code < 0xE000

/-- Joins the halves of surrogate pairs. A half without the other has no text. -/
def joinSurrogates? : List Nat → Option (List Char)
  | [] => some []
  | [code] =>
      if isHighSurrogate code || isLowSurrogate code then none
      else some [Char.ofNat code]
  | code :: low :: rest =>
      if isLowSurrogate code then none
      else if isHighSurrogate code then
        if isLowSurrogate low then do
          let chars ← joinSurrogates? rest
          return Char.ofNat (0x10000 + (code - 0xD800) * 0x400 + (low - 0xDC00)) :: chars
        else none
      else do
        let chars ← joinSurrogates? (low :: rest)
        return Char.ofNat code :: chars

/-- Reads a string after its opening quote. -/
def string? (cs : List Char) : Option (Option String × List Char) := do
  let (codes, rest) ← codes? cs
  return ((joinSurrogates? codes).map String.ofList, rest)

/-- Reads a value that is neither a string nor holds other values. -/
def scalar? : List Char → Option (Json × List Char)
  | 'n' :: 'u' :: 'l' :: 'l' :: rest => some (.null, rest)
  | 't' :: 'r' :: 'u' :: 'e' :: rest => some (.bool true, rest)
  | 'f' :: 'a' :: 'l' :: 's' :: 'e' :: rest => some (.bool false, rest)
  | cs => number? cs

mutual

/-- Reads a value. The first argument bounds how deep values may be nested and
how many may follow one another. -/
def value? : Nat → List Char → Option (Json × List Char)
  | 0, _ => none
  | fuel + 1, cs =>
      match skipBlanks cs with
      | '"' :: rest => do
          let (text, rest) ← string? rest
          return (.string text, rest)
      | '[' :: rest =>
          match skipBlanks rest with
          | ']' :: rest => some (.array [], rest)
          | rest => do
              let (items, rest) ← items? fuel rest
              return (.array items, rest)
      | '\x7b' :: rest =>
          match skipBlanks rest with
          | '\x7d' :: rest => some (.object [], rest)
          | rest => do
              let (members, rest) ← members? fuel rest
              return (.object members, rest)
      | rest => scalar? rest

/-- Reads the items of an array that has some, and its closing bracket. -/
def items? : Nat → List Char → Option (List Json × List Char)
  | 0, _ => none
  | fuel + 1, cs => do
      let (item, rest) ← value? fuel cs
      match skipBlanks rest with
      | ']' :: rest => some ([item], rest)
      | ',' :: rest =>
          let (items, rest) ← items? fuel rest
          return (item :: items, rest)
      | _ => none

/-- Reads the members of an object that has some, and its closing brace. -/
def members? : Nat → List Char → Option (List (Option String × Json) × List Char)
  | 0, _ => none
  | fuel + 1, cs =>
      match skipBlanks cs with
      | '"' :: rest => do
          let (name, rest) ← string? rest
          match skipBlanks rest with
          | ':' :: rest =>
              let (value, rest) ← value? fuel rest
              match skipBlanks rest with
              | '\x7d' :: rest => some ([(name, value)], rest)
              | ',' :: rest =>
                  let (members, rest) ← members? fuel rest
                  return ((name, value) :: members, rest)
              | _ => none
          | _ => none
      | _ => none

end

/-- The value that a text holds. At least every second call of the readers within
one another takes a character, so twice the length bounds the depth of the
calls. -/
def parse? (text : String) : Option Json := do
  let cs := text.toList
  let (value, rest) ← value? (2 * cs.length + 2) cs
  if (skipBlanks rest).isEmpty then some value else none

def toText? : Json → Option String
  | .string text => text
  | _ => none

/-- The value of a natural number below a bound. -/
def toNatBelow? (bound : Nat) : Json → Option Nat
  | .natural value => if value < bound then some value else none
  | _ => none

def toTexts? : Json → Option (List String)
  | .array items => items.mapM toText?
  | _ => none

/-- The fields of a record with the names given. A record is written as an object,
whose other members do not count, or as the array of its first fields. -/
def toRecord? (names : List String) : Json → Option (List (String × Json))
  | .array items =>
      if items.length ≤ names.length then some (names.zip items) else none
  | .object members => do
      let members ← members.mapM fun (name, value) => name.map (·, value)
      let fields := members.filter fun (name, _) => names.contains name
      if (fields.map Prod.fst).Nodup then some fields else none
  | _ => none

/-- A field of a record, or its default where it is left out. -/
def field? {α : Type} (fields : List (String × Json)) (name : String)
    (read? : Json → Option α) (default : α) : Option α :=
  match fields.lookup name with
  | some value => read? value
  | none => some default

end Json

end KeywordLang
