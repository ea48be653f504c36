import KeywordLang.Lexeme
import KeywordLang.Text.Alphabetic

/-!
Scanning: a source is cut into lexemes from left to right, and the lexemes are
then placed. Nothing is lost and nothing is refused; a character that begins no
other lexeme is one of unknown kind.
-/

namespace KeywordLang.Scan

open Text (isAlphabetic isWhiteSpace)

/-- The characters that are operators by themselves. -/
def isPunctuation (c : Char) : Bool :=
  ['=', '(', ')', ',', '+', '-'].contains c

/-- The characters that may follow the first one of a word. -/
def continuesWord (c : Char) : Bool :=
  isAlphabetic c || c.isDigit

/-- Whether a line break begins here: a line feed, which a carriage return may
precede. -/
def startsLineBreak : List Char → Bool
  | '\n' :: _ => true
  | '\r' :: '\n' :: _ => true
  | _ => false

/-- The length of the white space at the beginning, up to a line break. -/
def blankLength : List Char → Nat
  | [] => 0
  | c :: rest =>
      if isWhiteSpace c && !startsLineBreak (c :: rest) then blankLength rest + 1
      else 0

/-- The length of the beginning of a text whose characters all satisfy `p`. -/
def spanLength (p : Char → Bool) (cs : List Char) : Nat :=
  (cs.takeWhile p).length

/-- The kind of a word. It is an operator if it is reserved as a whole. -/
def wordKind (d : Dialect) (word : List Char) : LexemeKind :=
  if d.isReserved (Text.upper (String.ofList word)) then .operator else .name

/-- The first lexeme of the text that consists of `c` and `rest`: its kind, and
how many characters of `rest` belong to it. -/
def first (d : Dialect) (c : Char) (rest : List Char) : LexemeKind × Nat :=
  if c.isDigit then
    (.number, spanLength Char.isDigit rest)
  else if c = '"' ∧ '"' ∈ rest then
    (.text, spanLength (· ≠ '"') rest + 1)
  else if isPunctuation c then
    (.operator, 0)
  else if isAlphabetic c then
    let length := spanLength continuesWord rest
    (wordKind d (c :: rest.take length), length)
  else if c = '\n' then
    (.lineBreak, 0)
  else if startsLineBreak (c :: rest) then
    (.lineBreak, 1)
  else if isWhiteSpace c then
    (.space, blankLength rest)
  else if c = '/' ∧ rest.head? = some '/' then
    (.comment, min rest.length (spanLength (· ≠ '\n') rest + 1))
  else
    (.unknown, 0)

/-- The lexemes of a text in order. -/
def lexemes (d : Dialect) : List Char → List Lexeme
  | [] => []
  | c :: rest =>
      let (kind, length) := first d c rest
      ⟨kind, String.ofList (c :: rest.take length)⟩ :: lexemes d (rest.drop length)
termination_by cs => cs.length
decreasing_by simp only [List.length_drop, List.length_cons]; omega

/-- Gives each lexeme its place, the first one the place given, and marks the end
of the input. -/
def place (offset line : Nat) : List Lexeme → List Token
  | [] => [⟨⟨.endOfInput, ""⟩, offset, line⟩]
  | x :: rest =>
      ⟨x, offset, line⟩ ::
        place (offset + x.text.utf8ByteSize) (line + x.text.toList.count '\n') rest

/-- The tokens of a source. The last one, and no other, marks the end of the
input. -/
def tokens (d : Dialect) (source : String) : List Token :=
  place 0 1 (lexemes d source.toList)

end KeywordLang.Scan
