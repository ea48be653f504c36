import KeywordLang.Fault

namespace KeywordLang

inductive LexemeKind where
  | number
  | text
  /-- Punctuation and reserved words. -/
  | operator
  | name
  | lineBreak
  | space
  | comment
  | unknown
  | endOfInput
deriving DecidableEq, Repr

structure Lexeme where
  kind : LexemeKind
  text : String
deriving DecidableEq, Repr

namespace Lexeme

/-- Whether a lexeme only lays the source out. -/
def isTrivia (x : Lexeme) : Bool :=
  match x.kind with
  | .space | .lineBreak | .comment => true
  | _ => false

/-- The upper-case text, under which words are looked up. -/
def word (x : Lexeme) : String :=
  Text.upper x.text

/-- How a diagnostic refers to a lexeme. -/
def describe (x : Lexeme) : Finding :=
  match x.kind with
  | .endOfInput => .endOfInput
  | .lineBreak => .lineBreak
  | _ => .excerpt x.text

end Lexeme

/-- A lexeme with its place in the source: the number of bytes before it in
UTF-8, and the line on which it begins, counted from one. -/
structure Token extends Lexeme where
  offset : Nat := 0
  line : Nat := 1
deriving DecidableEq, Repr

end KeywordLang
