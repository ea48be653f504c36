import KeywordLang.Proofs.LexemeCuts
import Mathlib.Computability.Language

/-!
The lexical grammar of sources, stated apart from the scanner:

    number    ::= [0-9]+
    text      ::= '"' [^"]* '"'
    operator  ::= '=' | '(' | ')' | ',' | '+' | '-' | <reserved word>
    name      ::= letter (letter | [0-9])*
    lineBreak ::= '\r'? '\n'
    space     ::= white space that starts no line break, repeated
    comment   ::= '//' [^\n]* '\n'?
    unknown   ::= any character

At each place the first alternative that matches there is taken, with its longest match. The
scanner tests characters in another order and never compares matches; what it cuts off is
nevertheless the match that the grammar asks for.
-/

namespace KeywordLang.Scan

open Computability
open Text (isAlphabetic isWhiteSpace)

section Languages

/-- The texts that consist of one character of a class. -/
def one (p : Char → Bool) : Language Char :=
  {w | ∃ c, p c = true ∧ w = [c]}

def numberTexts : Language Char :=
  one Char.isDigit * (one Char.isDigit)∗

def quotedTexts : Language Char :=
  one (· = '"') * ((one (· ≠ '"'))∗ * one (· = '"'))

def words : Language Char :=
  one isAlphabetic * (one isAlphabetic + one Char.isDigit)∗

def marks : Language Char :=
  one (· = '=') + one (· = '(') + one (· = ')') + one (· = ',') + one (· = '+') + one (· = '-')

def lineBreaks : Language Char :=
  (1 + one (· = '\r')) * one (· = '\n')

def comments : Language Char :=
  one (· = '/') * (one (· = '/') * ((one (· ≠ '\n'))∗ * (1 + one (· = '\n'))))

variable {p q : Char → Bool} {l : Language Char} {w : List Char}

theorem mem_one : w ∈ one p ↔ ∃ c, p c = true ∧ w = [c] :=
  Iff.rfl

theorem mem_one_eq {c : Char} : w ∈ one (· = c) ↔ w = [c] := by
  simp only [mem_one, decide_eq_true_eq, exists_eq_left]

theorem mem_one_mul : w ∈ one p * l ↔ ∃ c body, p c = true ∧ body ∈ l ∧ w = c :: body := by
  rw [Language.mem_mul]
  constructor
  · rintro ⟨_, ⟨c, hc, rfl⟩, body, hbody, rfl⟩
    exact ⟨c, body, hc, hbody, rfl⟩
  · rintro ⟨c, body, hc, hbody, rfl⟩
    exact ⟨[c], ⟨c, hc, rfl⟩, body, hbody, rfl⟩

theorem mem_star_one : w ∈ (one p)∗ ↔ ∀ c ∈ w, p c = true := by
  rw [Language.mem_kstar]
  constructor
  · rintro ⟨pieces, rfl, hpieces⟩ c hc
    obtain ⟨piece, hpiece, hmem⟩ := List.mem_flatten.mp hc
    obtain ⟨c', hc', rfl⟩ := hpieces piece hpiece
    rwa [List.mem_singleton.mp hmem]
  · intro h
    refine ⟨w.map fun c => [c], ?_, ?_⟩
    · exact (List.flatMap_singleton' w).symm
    · intro piece hpiece
      obtain ⟨c, hc, rfl⟩ := List.mem_map.mp hpiece
      exact ⟨c, h c hc, rfl⟩

theorem one_add_one : one p + one q = one fun c => p c || q c := by
  ext w
  simp only [Language.mem_add, mem_one, Bool.or_eq_true]
  constructor
  · rintro (⟨c, hc, hw⟩ | ⟨c, hc, hw⟩)
    · exact ⟨c, .inl hc, hw⟩
    · exact ⟨c, .inr hc, hw⟩
  · rintro ⟨c, hc | hc, hw⟩
    · exact .inl ⟨c, hc, hw⟩
    · exact .inr ⟨c, hc, hw⟩

theorem mem_numberTexts :
    w ∈ numberTexts ↔ ∃ c body, c.isDigit = true ∧ (∀ x ∈ body, x.isDigit = true) ∧
      w = c :: body := by
  simp only [numberTexts, mem_one_mul, mem_star_one]

theorem mem_star_one_ne {c : Char} : w ∈ (one (· ≠ c))∗ ↔ c ∉ w := by
  simp only [mem_star_one, decide_eq_true_eq]
  exact ⟨fun h hmem => h c hmem rfl, fun h x hx heq => h (heq ▸ hx)⟩

theorem mem_quotedTexts : w ∈ quotedTexts ↔ ∃ inner, '"' ∉ inner ∧ w = '"' :: (inner ++ ['"']) := by
  simp only [quotedTexts, Language.mem_mul, mem_star_one_ne, mem_one_eq]
  constructor
  · rintro ⟨_, rfl, _, ⟨inner, hinner, _, rfl, rfl⟩, rfl⟩
    exact ⟨inner, hinner, rfl⟩
  · rintro ⟨inner, hinner, rfl⟩
    exact ⟨['"'], rfl, _, ⟨inner, hinner, ['"'], rfl, rfl⟩, rfl⟩

theorem mem_words :
    w ∈ words ↔ ∃ c body, isAlphabetic c = true ∧ (∀ x ∈ body, continuesWord x = true) ∧
      w = c :: body := by
  simp only [words, one_add_one, mem_one_mul, mem_star_one, continuesWord]

theorem mem_marks : w ∈ marks ↔ ∃ c, isPunctuation c = true ∧ w = [c] := by
  simp only [marks, Language.mem_add, mem_one_eq, isPunctuation, List.contains_eq_mem,
    decide_eq_true_eq, List.mem_cons, List.not_mem_nil, or_false, or_and_right, exists_or,
    exists_eq_left, or_assoc]

theorem mem_lineBreaks : w ∈ lineBreaks ↔ w = ['\n'] ∨ w = ['\r', '\n'] := by
  simp only [lineBreaks, Language.mem_mul, Language.mem_add, Language.mem_one, mem_one_eq]
  constructor
  · rintro ⟨_, rfl | rfl, _, rfl, rfl⟩
    · exact .inl rfl
    · exact .inr rfl
  · rintro (rfl | rfl)
    · exact ⟨[], .inl rfl, ['\n'], rfl, rfl⟩
    · exact ⟨['\r'], .inr rfl, ['\n'], rfl, rfl⟩

theorem mem_comments :
    w ∈ comments ↔ ∃ inner ending, '\n' ∉ inner ∧ (ending = [] ∨ ending = ['\n']) ∧
      w = '/' :: '/' :: (inner ++ ending) := by
  simp only [comments, Language.mem_mul, mem_star_one_ne, Language.mem_add, Language.mem_one,
    mem_one_eq]
  constructor
  · rintro ⟨_, rfl, _, ⟨_, rfl, _, ⟨inner, hinner, ending, hending, rfl⟩, rfl⟩, rfl⟩
    exact ⟨inner, ending, hinner, hending, rfl⟩
  · rintro ⟨inner, ending, hinner, hending, rfl⟩
    exact ⟨['/'], rfl, _, ⟨['/'], rfl, _, ⟨inner, hinner, ending, hending, rfl⟩, rfl⟩, rfl⟩

end Languages

section Alternatives

/-- A word that goes on as far as it can. -/
def WholeWord (own tail : List Char) : Prop :=
  own ∈ words ∧ ∀ more rest, tail = more ++ rest → own ++ more ∈ words → more = []

/-- White space of which no character starts a line break. -/
def Blank (own tail : List Char) : Prop :=
  own ≠ [] ∧ ∀ before c after, own = before ++ c :: after →
    isWhiteSpace c = true ∧ ∀ w ∈ lineBreaks, ¬ w <+: c :: (after ++ tail)

/-- Whether an alternative of the grammar matches the characters `own` in front of `tail`. -/
def Matches (d : Dialect) : LexemeKind → List Char → List Char → Prop
  | .number, own, _ => own ∈ numberTexts
  | .text, own, _ => own ∈ quotedTexts
  | .operator, own, tail =>
      own ∈ marks ∨ WholeWord own tail ∧ Text.upper (String.ofList own) ∈ d.reservedWords
  | .name, own, _ => own ∈ words
  | .lineBreak, own, _ => own ∈ lineBreaks
  | .space, own, tail => Blank own tail
  | .comment, own, _ => own ∈ comments
  | .unknown, own, _ => ∃ c, own = [c]
  | .endOfInput, _, _ => False

/-- The alternatives in the order in which they are tried. -/
def alternatives : List LexemeKind :=
  [.number, .text, .operator, .name, .lineBreak, .space, .comment, .unknown]

/-- The alternatives that are tried before one. -/
def earlier (kind : LexemeKind) : List LexemeKind :=
  alternatives.takeWhile (· ≠ kind)

/-- An alternative matches nowhere at the beginning of `cs`. -/
def Unmatched (d : Dialect) (kind : LexemeKind) (cs : List Char) : Prop :=
  ∀ own tail, own ++ tail = cs → ¬ Matches d kind own tail

/-- What the grammar takes in front of `tail`: the longest match of the first alternative that
matches. -/
structure Chosen (d : Dialect) (kind : LexemeKind) (own tail : List Char) : Prop where
  here : Matches d kind own tail
  longest : ∀ own' tail', own' ++ tail' = own ++ tail → Matches d kind own' tail' →
    own'.length ≤ own.length
  first : ∀ other ∈ earlier kind, Unmatched d other (own ++ tail)

/-- How the grammar reads a text from left to right. -/
inductive Reading (d : Dialect) : List Char → List Lexeme → Prop where
  | nil : Reading d [] []
  | cons {kind : LexemeKind} {own tail : List Char} {xs : List Lexeme}
      (h : Chosen d kind own tail) (htail : Reading d tail xs) :
      Reading d (own ++ tail) (⟨kind, String.ofList own⟩ :: xs)

theorem mem_alternatives {d : Dialect} {kind : LexemeKind} {own tail : List Char}
    (h : Matches d kind own tail) : kind ∈ alternatives := by
  cases kind with
  | endOfInput => exact h.elim
  | _ => decide

theorem eq_or_mem_earlier : ∀ kind ∈ alternatives, ∀ other ∈ alternatives,
    kind = other ∨ kind ∈ earlier other ∨ other ∈ earlier kind := by
  decide

theorem Chosen.unique {d : Dialect} {kind kind' : LexemeKind} {own own' tail tail' : List Char}
    (h : Chosen d kind own tail) (h' : Chosen d kind' own' tail')
    (heq : own ++ tail = own' ++ tail') : kind = kind' ∧ own = own' ∧ tail = tail' := by
  obtain rfl | hearlier | hearlier :=
    eq_or_mem_earlier kind (mem_alternatives h.here) kind' (mem_alternatives h'.here)
  · have hlength : own.length = own'.length :=
      Nat.le_antisymm (h'.longest own tail heq h.here) (h.longest own' tail' heq.symm h'.here)
    exact ⟨rfl, List.append_inj heq hlength⟩
  · exact absurd h.here (h'.first kind hearlier own tail heq)
  · exact absurd h'.here (h.first kind' hearlier own' tail' heq.symm)

end Alternatives

section Beginnings

variable {d : Dialect} {kind : LexemeKind} {c : Char} {rest own tail : List Char}

/-- Whether a match of an alternative can begin with a character. -/
def begins (c : Char) : LexemeKind → Bool
  | .number => c.isDigit
  | .text => c = '"'
  | .operator => isPunctuation c || isAlphabetic c
  | .name => isAlphabetic c
  | .lineBreak => c = '\n' || c = '\r'
  | .space => isWhiteSpace c
  | .comment => c = '/'
  | .unknown => true
  | .endOfInput => false

theorem Matches.exists_cons (h : Matches d kind own tail) :
    ∃ c body, own = c :: body ∧ begins c kind = true := by
  cases kind with
  | number =>
      obtain ⟨c, body, hc, -, rfl⟩ := mem_numberTexts.mp h
      exact ⟨c, body, rfl, hc⟩
  | text =>
      obtain ⟨inner, -, rfl⟩ := mem_quotedTexts.mp h
      exact ⟨'"', _, rfl, rfl⟩
  | operator =>
      rcases h with h | ⟨⟨h, -⟩, -⟩
      · obtain ⟨c, hc, rfl⟩ := mem_marks.mp h
        exact ⟨c, [], rfl, Bool.or_eq_true_iff.mpr (.inl hc)⟩
      · obtain ⟨c, body, hc, -, rfl⟩ := mem_words.mp h
        exact ⟨c, body, rfl, Bool.or_eq_true_iff.mpr (.inr hc)⟩
  | name =>
      obtain ⟨c, body, hc, -, rfl⟩ := mem_words.mp h
      exact ⟨c, body, rfl, hc⟩
  | lineBreak =>
      rcases mem_lineBreaks.mp h with rfl | rfl
      · exact ⟨'\n', [], rfl, rfl⟩
      · exact ⟨'\r', ['\n'], rfl, rfl⟩
  | space =>
      obtain ⟨hne, hblank⟩ := h
      obtain ⟨c, body, rfl⟩ := List.exists_cons_of_ne_nil hne
      exact ⟨c, body, rfl, (hblank [] c body rfl).1⟩
  | comment =>
      obtain ⟨inner, ending, -, -, rfl⟩ := mem_comments.mp h
      exact ⟨'/', _, rfl, rfl⟩
  | unknown =>
      obtain ⟨c, rfl⟩ := h
      exact ⟨c, [], rfl, rfl⟩
  | endOfInput => exact h.elim

theorem unmatched_of_begins (h : begins c kind = false) : Unmatched d kind (c :: rest) := by
  intro own tail heq hmatch
  obtain ⟨c', body, rfl, hbegins⟩ := hmatch.exists_cons
  rw [List.cons_append, List.cons_eq_cons] at heq
  rw [heq.1, h] at hbegins
  cases hbegins

end Beginnings

end KeywordLang.Scan
