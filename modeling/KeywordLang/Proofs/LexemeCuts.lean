import KeywordLang.Proofs.Characters
import Mathlib.Data.List.TakeWhile

/-!
What a lexeme consists of, and what it needs to know about the characters behind it.

Scanning cuts off one lexeme after the other. `Cut` tells in which ways that can be done,
and it describes scanning completely: a lexeme is cut off in front of the rest exactly if
it stands in that relation to the rest. How far a lexeme looks ahead can then be read off
the cases.
-/

namespace KeywordLang.Scan

open Text (isAlphabetic isWhiteSpace)

/-- All the ways in which characters `own` are cut off in front of `tail`. -/
inductive Cut (d : Dialect) : LexemeKind → List Char → List Char → Prop where
  | number {c : Char} {body tail : List Char} (hc : c.isDigit = true)
      (hbody : ∀ x ∈ body, x.isDigit = true) (htail : ∀ x ∈ tail.head?, x.isDigit = false) :
      Cut d .number (c :: body) tail
  | text {inner tail : List Char} (hinner : '"' ∉ inner) :
      Cut d .text ('"' :: (inner ++ ['"'])) tail
  | punctuation {c : Char} {tail : List Char} (hc : isPunctuation c = true) :
      Cut d .operator [c] tail
  | word {kind : LexemeKind} {c : Char} {body tail : List Char} (hc : isAlphabetic c = true)
      (hbody : ∀ x ∈ body, continuesWord x = true) (hkind : kind = wordKind d (c :: body))
      (htail : ∀ x ∈ tail.head?, continuesWord x = false) : Cut d kind (c :: body) tail
  | lineFeed {tail : List Char} : Cut d .lineBreak ['\n'] tail
  | returnFeed {tail : List Char} : Cut d .lineBreak ['\r', '\n'] tail
  | space {c : Char} {body tail : List Char}
      (h : blankLength (c :: (body ++ tail)) = body.length + 1) :
      Cut d .space (c :: body) tail
  | comment {inner tail : List Char} (hinner : '\n' ∉ inner) :
      Cut d .comment ('/' :: '/' :: (inner ++ ['\n'])) tail
  | lastComment {inner : List Char} (hinner : '\n' ∉ inner) :
      Cut d .comment ('/' :: '/' :: inner) []
  | unknown {c : Char} {tail : List Char} (hdigit : c.isDigit = false)
      (hpunctuation : isPunctuation c = false) (halphabetic : isAlphabetic c = false)
      (hblank : isWhiteSpace c = false) (hquote : c = '"' → '"' ∉ tail)
      (hslash : c = '/' → tail.head? ≠ some '/') : Cut d .unknown [c] tail

theorem wordKind_cases (d : Dialect) (word : List Char) :
    wordKind d word = .operator ∨ wordKind d word = .name := by
  unfold wordKind
  split
  · exact .inl rfl
  · exact .inr rfl

theorem Cut.exists_word {d : Dialect} {own tail : List Char} (h : Cut d .name own tail) :
    ∃ c body, own = c :: body ∧ isAlphabetic c = true ∧
      ∀ x ∈ body, continuesWord x = true := by
  cases h with
  | word hc hbody => exact ⟨_, _, rfl, hc, hbody⟩

theorem Cut.exists_number {d : Dialect} {own tail : List Char} (h : Cut d .number own tail) :
    ∃ c body, own = c :: body ∧ c.isDigit = true ∧ ∀ x ∈ body, x.isDigit = true := by
  cases h with
  | number hc hbody => exact ⟨_, _, rfl, hc, hbody⟩
  | @word _ c body _ _ _ hkind _ =>
      rcases wordKind_cases d (c :: body) with hword | hword
      · rw [hword] at hkind
        cases hkind
      · rw [hword] at hkind
        cases hkind

theorem Cut.exists_text {d : Dialect} {own tail : List Char} (h : Cut d .text own tail) :
    ∃ inner, own = '"' :: (inner ++ ['"']) ∧ '"' ∉ inner := by
  cases h with
  | text hinner => exact ⟨_, rfl, hinner⟩
  | @word _ c body _ _ _ hkind _ =>
      rcases wordKind_cases d (c :: body) with hword | hword
      · rw [hword] at hkind
        cases hkind
      · rw [hword] at hkind
        cases hkind

section Spans

variable {p : Char → Bool}

theorem spanLength_append {body tail : List Char} (hbody : ∀ x ∈ body, p x = true)
    (htail : ∀ x ∈ tail.head?, p x = false) : spanLength p (body ++ tail) = body.length := by
  rw [spanLength, List.takeWhile_append_of_pos hbody]
  cases tail with
  | nil => simp
  | cons x tail =>
      have hx : p x = false := htail x rfl
      simp [hx]

theorem spanLength_ne {x : Char} {inner tail : List Char} (h : x ∉ inner) :
    spanLength (· ≠ x) (inner ++ x :: tail) = inner.length := by
  apply spanLength_append
  · intro y hy
    rw [decide_eq_true_eq]
    rintro rfl
    exact h hy
  · simp

theorem exists_eq_append_of_span (p : Char → Bool) (cs : List Char) :
    ∃ body tail, cs = body ++ tail ∧ (∀ x ∈ body, p x = true) ∧
      ∀ x ∈ tail.head?, p x = false := by
  refine ⟨cs.takeWhile p, cs.dropWhile p, List.takeWhile_append_dropWhile.symm, ?_, ?_⟩
  · intro x hx
    exact List.mem_takeWhile_imp hx
  · intro x hx
    have := List.head?_dropWhile_not p cs
    rw [Option.mem_def.mp hx] at this
    simpa using this

end Spans

section First

variable {d : Dialect} {c : Char} {rest : List Char}

theorem isPunctuation_eq_false {p : Char → Bool}
    (hp : ['=', '(', ')', ',', '+', '-'].any p = false) (hc : p c = true) :
    isPunctuation c = false := by
  rw [isPunctuation, List.contains_eq_mem, decide_eq_false_iff_not]
  intro hmem
  exact List.any_eq_false.mp hp c hmem hc

theorem of_isPunctuation {p : Char → Bool}
    (hp : ['=', '(', ')', ',', '+', '-'].all p = true) (hc : isPunctuation c = true) :
    p c = true :=
  List.all_eq_true.mp hp c (List.contains_iff_mem.mp hc)

theorem first_of_isAlphabetic (hc : isAlphabetic c = true) :
    first d c rest = (wordKind d (c :: rest.take (spanLength continuesWord rest)),
      spanLength continuesWord rest) := by
  have hdigit : c.isDigit = false := Text.isDigit_of_isAlphabetic hc
  have hquote : c ≠ '"' := by
    rintro rfl
    cases hc
  have hpunctuation : isPunctuation c = false := isPunctuation_eq_false rfl hc
  simp [first, hdigit, hquote, hpunctuation, hc]

theorem first_of_other (hdigit : c.isDigit = false) (hpunctuation : isPunctuation c = false)
    (halphabetic : isAlphabetic c = false) (hquote : c = '"' → '"' ∉ rest) :
    first d c rest =
      if c = '\n' then (.lineBreak, 0)
      else if startsLineBreak (c :: rest) then (.lineBreak, 1)
      else if isWhiteSpace c then (.space, blankLength rest)
      else if c = '/' ∧ rest.head? = some '/' then
        (.comment, min rest.length (spanLength (· ≠ '\n') rest + 1))
      else (.unknown, 0) := by
  rw [first, if_neg (by simp [hdigit]), if_neg (fun h => hquote h.1 h.2),
    if_neg (by simp [hpunctuation]), if_neg (by simp [halphabetic])]

theorem startsLineBreak_eq_false (hc : isWhiteSpace c = false) :
    startsLineBreak (c :: rest) = false := by
  unfold startsLineBreak
  split
  · next h =>
      cases h
      cases hc
  · next h =>
      cases h
      cases hc
  · rfl

theorem first_of_isWhiteSpace (hc : isWhiteSpace c = true)
    (hbreak : startsLineBreak (c :: rest) = false) :
    first d c rest = (.space, blankLength rest) := by
  have hdigit : c.isDigit = false := Text.isDigit_of_isWhiteSpace hc
  have hquote : c ≠ '"' := by
    rintro rfl
    cases hc
  have hfeed : c ≠ '\n' := by
    rintro rfl
    cases hbreak
  rw [first_of_other hdigit (isPunctuation_eq_false rfl hc)
    (Text.isAlphabetic_of_isWhiteSpace hc) (fun h => absurd h hquote), if_neg hfeed,
    if_neg (by simp [hbreak]), if_pos hc]

theorem first_slash (hhead : rest.head? = some '/') :
    first d '/' rest = (.comment, min rest.length (spanLength (· ≠ '\n') rest + 1)) := by
  rw [first_of_other (c := '/') (by decide) (by decide) (by decide) nofun,
    if_neg (by decide), if_neg (by simp [startsLineBreak]), if_neg (by decide),
    if_pos ⟨rfl, hhead⟩]

theorem blankLength_cons_of_pos {n : Nat} (h : blankLength (c :: rest) = n + 1) :
    isWhiteSpace c = true ∧ startsLineBreak (c :: rest) = false ∧ blankLength rest = n := by
  rw [blankLength] at h
  split at h
  · next hc =>
      rw [Bool.and_eq_true, Bool.not_eq_true'] at hc
      exact ⟨hc.1, hc.2, Nat.succ.inj h⟩
  · cases h

/-- What is cut off in a known way is what scanning cuts off. -/
theorem Cut.first {kind : LexemeKind} {own tail : List Char} (h : Cut d kind own tail) :
    ∃ c body, own = c :: body ∧ first d c (body ++ tail) = (kind, body.length) := by
  cases h with
  | @number c body tail hc hbody htail =>
      refine ⟨c, body, rfl, ?_⟩
      rw [Scan.first, if_pos hc, spanLength_append hbody htail]
  | @text inner tail hinner =>
      refine ⟨'"', inner ++ ['"'], rfl, ?_⟩
      rw [List.append_assoc, List.singleton_append, Scan.first, if_neg (by decide),
        if_pos ⟨rfl, by simp⟩, spanLength_ne hinner, List.length_append]
      rfl
  | @punctuation c tail hc =>
      refine ⟨c, [], rfl, ?_⟩
      have hdigit : c.isDigit = false := by
        rw [Bool.eq_false_iff]
        intro h
        rw [isPunctuation_eq_false rfl h] at hc
        cases hc
      have hquote : c ≠ '"' := by
        rintro rfl
        cases hc
      simp [Scan.first, hdigit, hquote, hc]
  | @word kind c body tail hc hbody hkind htail =>
      refine ⟨c, body, rfl, ?_⟩
      rw [first_of_isAlphabetic hc, spanLength_append hbody htail, List.take_left, hkind]
  | lineFeed =>
      refine ⟨'\n', [], rfl, ?_⟩
      rw [first_of_other (c := '\n') (by decide) (by decide) (by decide) nofun, if_pos rfl]
      rfl
  | @returnFeed tail =>
      refine ⟨'\r', ['\n'], rfl, ?_⟩
      have hbreak : startsLineBreak ('\r' :: '\n' :: tail) = true := rfl
      rw [List.singleton_append, first_of_other (c := '\r') (by decide) (by decide)
        (by decide) nofun, if_neg (by decide), if_pos hbreak]
      rfl
  | @space c body tail h =>
      obtain ⟨hc, hbreak, hbody⟩ := blankLength_cons_of_pos h
      refine ⟨c, body, rfl, ?_⟩
      rw [first_of_isWhiteSpace hc hbreak, hbody]
  | @comment inner tail hinner =>
      refine ⟨'/', '/' :: (inner ++ ['\n']), rfl, ?_⟩
      have hspan : spanLength (· ≠ '\n') ('/' :: (inner ++ '\n' :: tail)) =
          inner.length + 1 := by
        have hslash : '\n' ∉ '/' :: inner := by simp [hinner]
        exact spanLength_ne hslash
      rw [List.cons_append, List.append_assoc, List.singleton_append, first_slash rfl, hspan]
      simp
  | @lastComment inner hinner =>
      refine ⟨'/', '/' :: inner, rfl, ?_⟩
      have hspan : spanLength (· ≠ '\n') ('/' :: inner) = inner.length + 1 := by
        rw [spanLength, List.takeWhile_eq_self_iff.mpr]
        · rfl
        · intro x hx
          rw [decide_eq_true_eq]
          rintro rfl
          simp [hinner] at hx
      rw [List.append_nil, first_slash rfl, hspan]
      simp
  | @unknown c tail hdigit hpunctuation halphabetic hblank hquote hslash =>
      refine ⟨c, [], rfl, ?_⟩
      have hfeed : c ≠ '\n' := by
        rintro rfl
        cases hblank
      have hbreak : startsLineBreak (c :: tail) = false := startsLineBreak_eq_false hblank
      rw [List.nil_append, first_of_other hdigit hpunctuation halphabetic hquote, if_neg hfeed,
        if_neg (by simp [hbreak]), if_neg (by simp [hblank]), if_neg (fun h => hslash h.1 h.2)]
      rfl

theorem blankLength_le_length (cs : List Char) : blankLength cs ≤ cs.length := by
  induction cs with
  | nil => exact Nat.le_refl _
  | cons c cs ih =>
      rw [blankLength, List.length_cons]
      split
      · exact Nat.succ_le_succ ih
      · exact Nat.zero_le _

theorem exists_cut_of_isWhiteSpace (d : Dialect) (rest : List Char)
    (hc : isWhiteSpace c = true) :
    ∃ kind body tail, rest = body ++ tail ∧ Cut d kind (c :: body) tail := by
  cases hbreak : startsLineBreak (c :: rest) with
  | true =>
      unfold startsLineBreak at hbreak
      split at hbreak
      · next h =>
          cases h
          exact ⟨_, [], rest, rfl, .lineFeed⟩
      · next tail h =>
          cases h
          exact ⟨_, ['\n'], tail, rfl, .returnFeed⟩
      · cases hbreak
  | false =>
      refine ⟨_, rest.take (blankLength rest), rest.drop (blankLength rest),
        (List.take_append_drop _ _).symm, .space ?_⟩
      rw [List.take_append_drop, List.length_take,
        Nat.min_eq_left (blankLength_le_length rest), blankLength, hc, hbreak]
      rfl

theorem exists_cut (d : Dialect) (c : Char) (rest : List Char) :
    ∃ kind body tail, rest = body ++ tail ∧ Cut d kind (c :: body) tail := by
  by_cases hdigit : c.isDigit = true
  · obtain ⟨body, tail, rfl, hbody, htail⟩ := exists_eq_append_of_span Char.isDigit rest
    exact ⟨_, body, tail, rfl, .number hdigit hbody htail⟩
  by_cases hpunctuation : isPunctuation c = true
  · exact ⟨_, [], rest, rfl, .punctuation hpunctuation⟩
  by_cases halphabetic : isAlphabetic c = true
  · obtain ⟨body, tail, rfl, hbody, htail⟩ := exists_eq_append_of_span continuesWord rest
    exact ⟨_, body, tail, rfl, .word halphabetic hbody rfl htail⟩
  by_cases hblank : isWhiteSpace c = true
  · exact exists_cut_of_isWhiteSpace d rest hblank
  by_cases hquote : c = '"' ∧ '"' ∈ rest
  · obtain ⟨rfl, hmem⟩ := hquote
    obtain ⟨inner, tail, rfl, hinner⟩ := List.eq_append_cons_of_mem hmem
    exact ⟨_, inner ++ ['"'], tail, by simp, .text hinner⟩
  by_cases hslash : c = '/' ∧ rest.head? = some '/'
  · obtain ⟨rfl, hhead⟩ := hslash
    obtain ⟨rest, rfl⟩ := List.head?_eq_some_iff.mp hhead
    by_cases hmem : '\n' ∈ rest
    · obtain ⟨inner, tail, rfl, hinner⟩ := List.eq_append_cons_of_mem hmem
      exact ⟨_, '/' :: (inner ++ ['\n']), tail, by simp, .comment hinner⟩
    · exact ⟨_, '/' :: rest, [], by simp, .lastComment hmem⟩
  · rw [Bool.not_eq_true] at hdigit hpunctuation halphabetic hblank
    exact ⟨_, [], rest, rfl, .unknown hdigit hpunctuation halphabetic hblank
      (fun h hmem => hquote ⟨h, hmem⟩) (fun h hhead => hslash ⟨h, hhead⟩)⟩

end First

section Lexemes

variable {d : Dialect} {kind : LexemeKind} {x : Lexeme} {own tail cs : List Char}
  {xs : List Lexeme}

theorem Cut.lexemes (h : Cut d kind own tail) :
    lexemes d (own ++ tail) = ⟨kind, String.ofList own⟩ :: lexemes d tail := by
  obtain ⟨c, body, rfl, hfirst⟩ := h.first
  rw [List.cons_append, Scan.lexemes, hfirst]
  simp only [List.take_left, List.drop_left]

theorem exists_cut_of_lexemes (h : lexemes d cs = x :: xs) :
    ∃ tail, cs = x.text.toList ++ tail ∧ Cut d x.kind x.text.toList tail ∧
      lexemes d tail = xs := by
  cases cs with
  | nil =>
      rw [Scan.lexemes] at h
      cases h
  | cons c rest =>
      obtain ⟨kind, body, tail, rfl, hcut⟩ := exists_cut d c rest
      have hlexemes := hcut.lexemes
      rw [List.cons_append, h] at hlexemes
      cases hlexemes
      rw [String.toList_ofList]
      exact ⟨tail, rfl, hcut, rfl⟩

theorem eq_nil_of_lexemes (h : lexemes d cs = []) : cs = [] := by
  cases cs with
  | nil => rfl
  | cons c rest =>
      rw [Scan.lexemes] at h
      cases h

def characters (xs : List Lexeme) : List Char :=
  xs.flatMap fun x => x.text.toList

theorem characters_cons (x : Lexeme) (xs : List Lexeme) :
    characters (x :: xs) = x.text.toList ++ characters xs := rfl

theorem characters_append (xs ys : List Lexeme) :
    characters (xs ++ ys) = characters xs ++ characters ys :=
  List.flatMap_append

theorem characters_lexemes (d : Dialect) (cs : List Char) :
    characters (lexemes d cs) = cs := by
  generalize hxs : lexemes d cs = xs
  induction xs generalizing cs with
  | nil => rw [eq_nil_of_lexemes hxs]; rfl
  | cons x xs ih =>
      obtain ⟨tail, rfl, -, htail⟩ := exists_cut_of_lexemes hxs
      rw [characters_cons, ih tail htail]

theorem exists_cut_of_mem_lexemes (hx : x ∈ lexemes d cs) :
    ∃ tail, Cut d x.kind x.text.toList tail := by
  generalize hxs : lexemes d cs = xs at hx
  induction xs generalizing cs with
  | nil => cases hx
  | cons y xs ih =>
      obtain ⟨tail, -, hcut, htail⟩ := exists_cut_of_lexemes hxs
      rcases List.mem_cons.mp hx with rfl | hx
      · exact ⟨tail, hcut⟩
      · exact ih htail hx

end Lexemes

section Lookahead

variable {d : Dialect} {kind : LexemeKind} {own tail tail' : List Char}

theorem startsLineBreak_cons_congr {c : Char} {rest rest' : List Char}
    (h : rest'.head? = rest.head?) :
    startsLineBreak (c :: rest') = startsLineBreak (c :: rest) := by
  cases rest with
  | nil => rw [List.head?_eq_none_iff.mp h]
  | cons x rest =>
      obtain ⟨rest', rfl⟩ := List.head?_eq_some_iff.mp h
      unfold startsLineBreak
      split <;> simp_all

theorem blankLength_append_congr (hhead : tail'.head? = tail.head?)
    (hbreak : startsLineBreak tail' = startsLineBreak tail)
    (h : blankLength (own ++ tail) = own.length) :
    blankLength (own ++ tail') = own.length := by
  induction own with
  | nil =>
      cases tail with
      | nil => rw [List.head?_eq_none_iff.mp hhead]; rfl
      | cons x tail =>
          obtain ⟨tail', rfl⟩ := List.head?_eq_some_iff.mp hhead
          rw [List.nil_append, blankLength] at h ⊢
          rw [hbreak]
          split at h
          · cases h
          · next hx => rw [if_neg hx]; rfl
  | cons c own ih =>
      rw [List.cons_append] at h
      obtain ⟨hc, hstart, hrest⟩ := blankLength_cons_of_pos h
      have hhead' : (own ++ tail').head? = (own ++ tail).head? := by
        rw [List.head?_append, List.head?_append, hhead]
      rw [List.cons_append, blankLength, hc, startsLineBreak_cons_congr hhead', hstart, ih hrest]
      rfl

/-- Most lexemes look at the next character only. Blanks look for a line break, and a
quote that stands alone looks at everything. -/
theorem Cut.congr_tail (h : Cut d kind own tail) (hhead : tail'.head? = tail.head?)
    (hbreak : kind = .space → startsLineBreak tail' = startsLineBreak tail)
    (hquote : own = ['"'] → '"' ∉ tail') : Cut d kind own tail' := by
  cases h with
  | number hc hbody htail => exact .number hc hbody (by rwa [hhead])
  | text hinner => exact .text hinner
  | punctuation hc => exact .punctuation hc
  | word hc hbody hkind htail => exact .word hc hbody hkind (by rwa [hhead])
  | lineFeed => exact .lineFeed
  | returnFeed => exact .returnFeed
  | @space c body tail h =>
      have hlength : blankLength ((c :: body) ++ tail) = (c :: body).length := h
      exact .space (blankLength_append_congr hhead (hbreak rfl) hlength)
  | comment hinner => exact .comment hinner
  | lastComment hinner =>
      rw [List.head?_eq_none_iff.mp hhead]
      exact .lastComment hinner
  | unknown hdigit hpunctuation halphabetic hblank _ hslash =>
      refine .unknown hdigit hpunctuation halphabetic hblank ?_ (by rwa [hhead])
      rintro rfl
      exact hquote rfl

theorem continuesWord_of_isWhiteSpace {c : Char} (hc : isWhiteSpace c = true) :
    continuesWord c = false := by
  rw [continuesWord, Text.isAlphabetic_of_isWhiteSpace hc, Text.isDigit_of_isWhiteSpace hc]
  rfl

theorem Cut.before_blank {x : Lexeme} (h : Cut d x.kind own tail) (hx : x.isTrivia = false)
    (hhead : ∀ c ∈ tail'.head?, c ∈ tail.head? ∨ isWhiteSpace c = true)
    (hquote : own = ['"'] → '"' ∉ tail') : Cut d x.kind own tail' := by
  obtain ⟨kind, text⟩ := x
  cases h with
  | number hc hbody htail =>
      refine .number hc hbody fun c hmem => ?_
      rcases hhead c hmem with hc | hc
      · exact htail c hc
      · exact Text.isDigit_of_isWhiteSpace hc
  | text hinner => exact .text hinner
  | punctuation hc => exact .punctuation hc
  | word hc hbody hkind htail =>
      refine .word hc hbody hkind fun c hmem => ?_
      rcases hhead c hmem with hc | hc
      · exact htail c hc
      · exact continuesWord_of_isWhiteSpace hc
  | unknown hdigit hpunctuation halphabetic hblank _ hslash =>
      refine .unknown hdigit hpunctuation halphabetic hblank ?_ ?_
      · rintro rfl
        exact hquote rfl
      · intro hc hmem
        rcases hhead '/' hmem with hmem | hmem
        · exact hslash hc hmem
        · cases hmem
  | _ => cases hx

theorem Cut.exists_cons_of_not_isTrivia {x : Lexeme} (h : Cut d x.kind own tail)
    (hx : x.isTrivia = false) : ∃ c body, own = c :: body ∧ isWhiteSpace c = false := by
  obtain ⟨kind, text⟩ := x
  have hother {p : Char → Bool} {c : Char} (hp : isWhiteSpace c = true → p c = false)
      (hc : p c = true) : isWhiteSpace c = false := by
    rw [← Bool.not_eq_true]
    intro hblank
    rw [hp hblank] at hc
    cases hc
  cases h with
  | number hc => exact ⟨_, _, rfl, hother Text.isDigit_of_isWhiteSpace hc⟩
  | text => exact ⟨_, _, rfl, rfl⟩
  | punctuation hc => exact ⟨_, _, rfl, hother (isPunctuation_eq_false rfl) hc⟩
  | word hc => exact ⟨_, _, rfl, hother Text.isAlphabetic_of_isWhiteSpace hc⟩
  | unknown _ _ _ hblank => exact ⟨_, _, rfl, hblank⟩
  | _ => cases hx

theorem startsLineBreak_append_congr {own : List Char} (tail tail' : List Char)
    (h : ∃ c ∈ own, isWhiteSpace c = false) :
    startsLineBreak (own ++ tail') = startsLineBreak (own ++ tail) := by
  match own with
  | [] =>
      obtain ⟨c, hc, -⟩ := h
      cases hc
  | [a] =>
      obtain ⟨c, hc, hblank⟩ := h
      rw [List.mem_singleton] at hc
      subst hc
      exact (startsLineBreak_eq_false hblank).trans (startsLineBreak_eq_false hblank).symm
  | a :: b :: own => exact startsLineBreak_cons_congr rfl

end Lookahead

end KeywordLang.Scan
