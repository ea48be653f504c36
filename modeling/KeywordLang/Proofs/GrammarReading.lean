import KeywordLang.Proofs.LetterCase
import KeywordLang.Proofs.LexicalGrammar
import KeywordLang.Proofs.ScanLayout
import KeywordLang.Proofs.TokenPlaces

/-!
The scanner reads sources as the lexical grammar does: what it cuts off at a place is the
longest match of the first alternative that matches there. So the lexemes of a source are its
only reading, no word is cut out of a longer one, and a quote is unknown only if no other
quote follows it.
-/

namespace KeywordLang.Scan

open Text (isAlphabetic isWhiteSpace)

section Spans

variable {p : Char → Bool} {own own' tail tail' : List Char}

theorem length_le_of_span (h : own' ++ tail' = own ++ tail) (hown' : ∀ x ∈ own', p x = true)
    (htail : ∀ x ∈ tail.head?, p x = false) : own'.length ≤ own.length := by
  rcases List.append_eq_append_iff.mp h with ⟨more, rfl, -⟩ | ⟨more, rfl, rfl⟩
  · rw [List.length_append]
    exact Nat.le_add_right _ _
  · cases more with
    | nil => simp
    | cons x more =>
        have hx : p x = true := hown' x (by simp)
        rw [htail x rfl] at hx
        cases hx

theorem length_le_of_not_mem {x : Char} (h : own' ++ tail' = own ++ x :: tail)
    (hown' : x ∉ own') : own'.length ≤ own.length := by
  apply length_le_of_span (p := (· ≠ x)) h
  · intro y hy
    rw [decide_eq_true_eq]
    rintro rfl
    exact hown' hy
  · simp

end Spans

section Blanks

variable {own tail cs : List Char}

theorem startsLineBreak_iff : startsLineBreak cs = true ↔ ∃ w ∈ lineBreaks, w <+: cs := by
  constructor
  · intro h
    unfold startsLineBreak at h
    split at h
    · exact ⟨['\n'], mem_lineBreaks.mpr (.inl rfl), by simp⟩
    · exact ⟨['\r', '\n'], mem_lineBreaks.mpr (.inr rfl), by simp⟩
    · cases h
  · rintro ⟨w, hw, rest, rfl⟩
    rcases mem_lineBreaks.mp hw with rfl | rfl
    · rfl
    · rfl

theorem startsLineBreak_eq_false_iff :
    startsLineBreak cs = false ↔ ∀ w ∈ lineBreaks, ¬ w <+: cs := by
  rw [← Bool.not_eq_true, startsLineBreak_iff]
  simp only [not_exists, not_and]

theorem le_blankLength_iff :
    own.length ≤ blankLength (own ++ tail) ↔ ∀ before c after, own = before ++ c :: after →
      isWhiteSpace c = true ∧ ∀ w ∈ lineBreaks, ¬ w <+: c :: (after ++ tail) := by
  induction own with
  | nil => simp
  | cons c own ih =>
      have hblank : (c :: own).length ≤ blankLength ((c :: own) ++ tail) ↔
          (isWhiteSpace c = true ∧ startsLineBreak (c :: (own ++ tail)) = false) ∧
            own.length ≤ blankLength (own ++ tail) := by
        rw [List.cons_append, blankLength, List.length_cons]
        split
        · next hc =>
            rw [Bool.and_eq_true, Bool.not_eq_true'] at hc
            rw [Nat.succ_le_succ_iff]
            exact (and_iff_right hc).symm
        · next hc =>
            rw [Bool.and_eq_true, Bool.not_eq_true'] at hc
            exact iff_of_false (by omega) fun h => hc h.1
      rw [hblank, ih, startsLineBreak_eq_false_iff]
      constructor
      · rintro ⟨hc, hown⟩ before x after heq
        rcases List.cons_eq_append_iff.mp heq with ⟨rfl, hcons⟩ | ⟨before, rfl, hrest⟩
        · obtain ⟨rfl, rfl⟩ := List.cons_eq_cons.mp hcons
          exact hc
        · exact hown before x after hrest
      · intro h
        refine ⟨h [] c own rfl, fun before x after heq => h (c :: before) x after ?_⟩
        rw [heq]
        rfl

theorem blank_iff : Blank own tail ↔ own ≠ [] ∧ own.length ≤ blankLength (own ++ tail) := by
  rw [Blank, le_blankLength_iff]

end Blanks

section Words

variable {own tail : List Char}

theorem continuesWord_of_mem_words (h : own ∈ words) : ∀ x ∈ own, continuesWord x = true := by
  obtain ⟨c, body, hc, hbody, rfl⟩ := mem_words.mp h
  refine List.forall_mem_cons.mpr ⟨?_, hbody⟩
  rw [continuesWord, hc]
  rfl

theorem wholeWord_iff :
    WholeWord own tail ↔ own ∈ words ∧ ∀ x ∈ tail.head?, continuesWord x = false := by
  constructor
  · rintro ⟨hown, hwhole⟩
    refine ⟨hown, fun x hx => ?_⟩
    obtain ⟨rest, rfl⟩ := List.head?_eq_some_iff.mp hx
    rw [← Bool.not_eq_true]
    intro hcontinues
    obtain ⟨c, body, hc, hbody, rfl⟩ := mem_words.mp hown
    have hlonger : c :: body ++ [x] ∈ words := by
      refine mem_words.mpr ⟨c, body ++ [x], hc, ?_, rfl⟩
      exact List.forall_mem_append.mpr ⟨hbody, List.forall_mem_singleton.mpr hcontinues⟩
    cases hwhole [x] rest rfl hlonger
  · rintro ⟨hown, htail⟩
    refine ⟨hown, fun more rest heq hlonger => ?_⟩
    cases more with
    | nil => rfl
    | cons x more =>
        have hx : continuesWord x = true :=
          continuesWord_of_mem_words hlonger x (by simp)
        rw [htail x (by rw [heq]; rfl)] at hx
        cases hx

theorem wordKind_of_mem {d : Dialect} (h : Text.upper (String.ofList own) ∈ d.reservedWords) :
    wordKind d own = .operator := by
  rw [wordKind, Dialect.isReserved, List.contains_iff_mem.mpr h, if_pos rfl]

theorem wordKind_of_not_mem {d : Dialect}
    (h : Text.upper (String.ofList own) ∉ d.reservedWords) : wordKind d own = .name := by
  rw [wordKind, Dialect.isReserved, if_neg (fun hmem => h (List.contains_iff_mem.mp hmem))]

end Words

section Cuts

variable {d : Dialect} {kind : LexemeKind} {own own' tail tail' : List Char}

theorem Cut.matches (h : Cut d kind own tail) : Matches d kind own tail := by
  cases h with
  | @number c body tail hc hbody _ => exact mem_numberTexts.mpr ⟨c, body, hc, hbody, rfl⟩
  | @text inner tail hinner => exact mem_quotedTexts.mpr ⟨inner, hinner, rfl⟩
  | @punctuation c tail hc => exact .inl (mem_marks.mpr ⟨c, hc, rfl⟩)
  | @word kind c body tail hc hbody hkind htail =>
      have hword : c :: body ∈ words := mem_words.mpr ⟨c, body, hc, hbody, rfl⟩
      by_cases hmem : Text.upper (String.ofList (c :: body)) ∈ d.reservedWords
      · rw [hkind, wordKind_of_mem hmem]
        exact .inr ⟨wholeWord_iff.mpr ⟨hword, htail⟩, hmem⟩
      · rw [hkind, wordKind_of_not_mem hmem]
        exact hword
  | lineFeed => exact mem_lineBreaks.mpr (.inl rfl)
  | returnFeed => exact mem_lineBreaks.mpr (.inr rfl)
  | @space c body tail hblank => exact blank_iff.mpr ⟨nofun, Nat.le_of_eq hblank.symm⟩
  | @comment inner tail hinner => exact mem_comments.mpr ⟨inner, ['\n'], hinner, .inr rfl, rfl⟩
  | @lastComment inner hinner =>
      exact mem_comments.mpr ⟨inner, [], hinner, .inl rfl, by simp⟩
  | unknown => exact ⟨_, rfl⟩

theorem Matches.length_le_of_comment (h : Matches d .comment own' tail') {inner : List Char}
    (heq : own' ++ tail' = '/' :: '/' :: (inner ++ '\n' :: tail)) :
    own'.length ≤ inner.length + 3 := by
  obtain ⟨inner', ending, hinner', hending, rfl⟩ := mem_comments.mp h
  have heq' : inner' ++ (ending ++ tail') = inner ++ '\n' :: tail := by
    simpa using heq
  have hle := length_le_of_not_mem heq' hinner'
  have hending : ending.length ≤ 1 := by
    rcases hending with rfl | rfl
    · exact Nat.zero_le 1
    · exact Nat.le_refl 1
  simp only [List.length_cons, List.length_append]
  omega

theorem Cut.longest (h : Cut d kind own tail) (heq : own' ++ tail' = own ++ tail)
    (hmatch : Matches d kind own' tail') : own'.length ≤ own.length := by
  cases h with
  | @number c body tail hc hbody htail =>
      obtain ⟨c', body', hc', hbody', rfl⟩ := mem_numberTexts.mp hmatch
      exact length_le_of_span heq (List.forall_mem_cons.mpr ⟨hc', hbody'⟩) htail
  | @text inner tail hinner =>
      obtain ⟨inner', hinner', rfl⟩ := mem_quotedTexts.mp hmatch
      have heq' : inner' ++ '"' :: tail' = inner ++ '"' :: tail := by simpa using heq
      have hle := length_le_of_not_mem heq' hinner'
      simpa using hle
  | @punctuation c tail hc =>
      rcases hmatch with hmark | ⟨⟨hword, -⟩, -⟩
      · obtain ⟨c', -, rfl⟩ := mem_marks.mp hmark
        exact Nat.le_refl 1
      · obtain ⟨c', body', hc', -, rfl⟩ := mem_words.mp hword
        obtain ⟨rfl, -⟩ := List.cons_eq_cons.mp heq
        rw [isPunctuation_eq_false rfl hc'] at hc
        cases hc
  | @word kind c body tail hc hbody hkind htail =>
      have hspan (hword : own' ∈ words) : own'.length ≤ (c :: body).length :=
        length_le_of_span heq (continuesWord_of_mem_words hword) htail
      by_cases hmem : Text.upper (String.ofList (c :: body)) ∈ d.reservedWords
      · rw [hkind, wordKind_of_mem hmem] at hmatch
        rcases hmatch with hmark | ⟨⟨hword, -⟩, -⟩
        · obtain ⟨c', -, rfl⟩ := mem_marks.mp hmark
          simp
        · exact hspan hword
      · rw [hkind, wordKind_of_not_mem hmem] at hmatch
        exact hspan hmatch
  | lineFeed =>
      rcases mem_lineBreaks.mp hmatch with rfl | rfl
      · exact Nat.le_refl 1
      · cases heq
  | returnFeed =>
      rcases mem_lineBreaks.mp hmatch with rfl | rfl
      · cases heq
      · exact Nat.le_refl 2
  | @space c body tail hblank =>
      have hle := (blank_iff.mp hmatch).2
      rw [heq] at hle
      exact hle.trans (Nat.le_of_eq hblank)
  | @comment inner tail hinner =>
      have heq' : own' ++ tail' = '/' :: '/' :: (inner ++ '\n' :: tail) := by simpa using heq
      simpa using Matches.length_le_of_comment hmatch heq'
  | @lastComment inner hinner =>
      have hlength := congrArg List.length heq
      rw [List.length_append, List.append_nil] at hlength
      omega
  | unknown =>
      obtain ⟨c', rfl⟩ := hmatch
      exact Nat.le_refl 1

/-- No alternative that the grammar tries before matches in the place of what scanning cuts
off. Nearly always the first character tells. -/
theorem Cut.unmatched (h : Cut d kind own tail) :
    ∀ other ∈ earlier kind, Unmatched d other (own ++ tail) := by
  have hopening {c : Char} {rest : List Char} (kind : LexemeKind)
      (hbegins : ((earlier kind).all fun other => !begins c other) = true) :
      ∀ other ∈ earlier kind, Unmatched d other (c :: rest) := by
    intro other hother
    have hall := List.all_eq_true.mp hbegins other hother
    exact unmatched_of_begins ((Bool.not_eq_true' _).mp hall)
  cases h with
  | number => exact hopening .number rfl
  | text => exact hopening .text (by decide +kernel)
  | @punctuation c tail hc =>
      apply hopening .operator
      exact of_isPunctuation (p := fun c => (earlier .operator).all fun other => !begins c other)
        (by decide +kernel) hc
  | @word kind c body tail hc hbody hkind htail =>
      have hdigit : c.isDigit = false := Text.isDigit_of_isAlphabetic hc
      have hquote : c ≠ '"' := by
        rintro rfl
        cases hc
      have hoperator : ∀ other ∈ earlier .operator, Unmatched d other (c :: (body ++ tail)) := by
        apply hopening .operator
        simp [earlier, alternatives, begins, hdigit, hquote]
      by_cases hmem : Text.upper (String.ofList (c :: body)) ∈ d.reservedWords
      · rw [hkind, wordKind_of_mem hmem]
        exact hoperator
      · rw [hkind, wordKind_of_not_mem hmem]
        have hearlier : earlier .name = earlier .operator ++ [.operator] := rfl
        rw [hearlier, List.forall_mem_append, List.forall_mem_singleton]
        refine ⟨hoperator, fun own' tail' heq hmatch => ?_⟩
        rcases hmatch with hmark | ⟨hwhole, hreserved⟩
        · obtain ⟨c', hc', rfl⟩ := mem_marks.mp hmark
          obtain ⟨rfl, -⟩ := List.cons_eq_cons.mp heq
          rw [isPunctuation_eq_false rfl hc] at hc'
          cases hc'
        · -- Both words go as far as they can, so they are the same.
          obtain ⟨hword, htail'⟩ := wholeWord_iff.mp hwhole
          have hown : c :: body ∈ words := mem_words.mpr ⟨c, body, hc, hbody, rfl⟩
          have hle := length_le_of_span heq (continuesWord_of_mem_words hword) htail
          have hge := length_le_of_span heq.symm (continuesWord_of_mem_words hown) htail'
          rw [(List.append_inj heq (Nat.le_antisymm hle hge)).1] at hreserved
          exact hmem hreserved
  | lineFeed => exact hopening .lineBreak (by decide +kernel)
  | returnFeed => exact hopening .lineBreak (by decide +kernel)
  | @space c body tail hblank =>
      obtain ⟨hc, hbreak, -⟩ := blankLength_cons_of_pos hblank
      have hquote : c ≠ '"' := by
        rintro rfl
        cases hc
      have hearlier : earlier .space = earlier .lineBreak ++ [.lineBreak] := rfl
      rw [hearlier, List.forall_mem_append, List.forall_mem_singleton]
      constructor
      · apply hopening .lineBreak
        simp [earlier, alternatives, begins, Text.isDigit_of_isWhiteSpace hc, hquote,
          isPunctuation_eq_false rfl hc, Text.isAlphabetic_of_isWhiteSpace hc]
      · intro own' tail' heq hmatch
        exact startsLineBreak_eq_false_iff.mp hbreak own' hmatch ⟨tail', heq⟩
  | comment => exact hopening .comment (by decide +kernel)
  | lastComment => exact hopening .comment (by decide +kernel)
  | @unknown c tail hdigit hpunctuation halphabetic hblank hquote hslash =>
      have hother {other : LexemeKind} (h : begins c other = false) :
          Unmatched d other ([c] ++ tail) := unmatched_of_begins h
      have hfeed : c ≠ '\n' ∧ c ≠ '\r' := by
        constructor
        all_goals
          rintro rfl
          cases hblank
      have htext : Unmatched d .text ([c] ++ tail) := by
        intro own' tail' heq hmatch
        obtain ⟨inner, -, rfl⟩ := mem_quotedTexts.mp hmatch
        obtain ⟨rfl, rfl⟩ := List.cons_eq_cons.mp heq
        exact hquote rfl (by simp)
      have hcomment : Unmatched d .comment ([c] ++ tail) := by
        intro own' tail' heq hmatch
        obtain ⟨inner, ending, -, -, rfl⟩ := mem_comments.mp hmatch
        obtain ⟨rfl, rfl⟩ := List.cons_eq_cons.mp heq
        exact hslash rfl rfl
      have hearlier : earlier .unknown =
          [.number, .text, .operator, .name, .lineBreak, .space, .comment] := rfl
      simp only [hearlier, List.forall_mem_cons, List.not_mem_nil, false_implies, implies_true,
        and_true]
      exact ⟨hother hdigit, htext, hother (by simp [begins, hpunctuation, halphabetic]),
        hother halphabetic, hother (by simp [begins, hfeed]), hother hblank, hcomment⟩

theorem Cut.chosen (h : Cut d kind own tail) : Chosen d kind own tail :=
  ⟨h.matches, fun _ _ heq hmatch => h.longest heq hmatch, h.unmatched⟩

/-- Scanning cuts off what the grammar chooses. -/
theorem cut_iff_chosen : Cut d kind own tail ↔ Chosen d kind own tail := by
  refine ⟨Cut.chosen, fun h => ?_⟩
  obtain ⟨c, body, rfl, -⟩ := h.here.exists_cons
  obtain ⟨kind', body', tail', heq, hcut⟩ := exists_cut d c (body ++ tail)
  have hwhole : c :: body ++ tail = c :: body' ++ tail' := congrArg (c :: ·) heq
  obtain ⟨rfl, hown, rfl⟩ := h.unique hcut.chosen hwhole
  rwa [hown]

end Cuts

section Readings

variable {d : Dialect} {cs : List Char} {xs before after : List Lexeme} {x : Lexeme}

theorem reading_lexemes (d : Dialect) (cs : List Char) : Reading d cs (lexemes d cs) := by
  generalize hxs : lexemes d cs = xs
  induction xs generalizing cs with
  | nil =>
      rw [eq_nil_of_lexemes hxs]
      exact .nil
  | cons x xs ih =>
      obtain ⟨tail, rfl, hcut, htail⟩ := exists_cut_of_lexemes hxs
      have hreading := Reading.cons hcut.chosen (ih tail htail)
      rwa [String.ofList_toList] at hreading

/-- A text has one reading, which consists of its lexemes. -/
theorem reading_iff : Reading d cs xs ↔ xs = lexemes d cs := by
  constructor
  · intro h
    induction h with
    | nil => rw [lexemes]
    | cons hchosen _ ih => rw [(cut_iff_chosen.mpr hchosen).lexemes, ih]
  · rintro rfl
    exact reading_lexemes d cs

theorem cut_of_lexemes (h : lexemes d cs = before ++ x :: after) :
    Cut d x.kind x.text.toList (characters after) := by
  induction before generalizing cs with
  | nil =>
      obtain ⟨tail, -, hcut, rfl⟩ := exists_cut_of_lexemes h
      rwa [characters_lexemes]
  | cons y before ih =>
      obtain ⟨tail, -, -, htail⟩ := exists_cut_of_lexemes h
      exact ih htail

theorem kind_of_quote {rest : List Char} (h : lexemes d cs = before ++ x :: after)
    (hquote : characters (x :: after) = '"' :: rest) : x.kind = .unknown ↔ '"' ∉ rest := by
  obtain ⟨c, body, hown, hfirst⟩ := (cut_of_lexemes h).first
  rw [characters_cons, hown] at hquote
  obtain ⟨rfl, rfl⟩ := List.cons_eq_cons.mp hquote
  by_cases hmem : '"' ∈ body ++ characters after
  · rw [first, if_neg (by decide), if_pos ⟨rfl, hmem⟩] at hfirst
    rw [← (Prod.mk.inj hfirst).1]
    simp [hmem]
  · rw [first_of_other (by decide) (by decide) (by decide) (fun _ => hmem), if_neg (by decide),
      if_neg (by simp [startsLineBreak]), if_neg (by decide), if_neg (by simp)] at hfirst
    rw [← (Prod.mk.inj hfirst).1]
    simp [hmem]

/-- A word at some place is part of a longer one. -/
def InLongerWord (front own rest : List Char) : Prop :=
  ∃ start a b stop, front = start ++ a ∧ rest = b ++ stop ∧ a ++ own ++ b ∈ words ∧
    (a ≠ [] ∨ b ≠ [])

theorem mem_words_of_append {a b : List Char} (h : a ++ b ∈ words) (ha : a ≠ []) : a ∈ words := by
  obtain ⟨c, a, rfl⟩ := List.exists_cons_of_ne_nil ha
  obtain ⟨c', body, hc, hbody, heq⟩ := mem_words.mp h
  obtain ⟨rfl, rfl⟩ := List.cons_eq_cons.mp heq
  exact mem_words.mpr ⟨c, a, hc, fun x hx => hbody x (List.mem_append_left b hx), rfl⟩

/-- Of all lexemes only numbers can end with a character of words in front of another one. -/
theorem Cut.isDigit_of_continuesWord {kind : LexemeKind} {own tail : List Char} {c : Char}
    (h : Cut d kind own tail) (hlast : ∀ x ∈ own.getLast?, continuesWord x = true)
    (hhead : tail.head? = some c) (hc : continuesWord c = true) :
    ∀ x ∈ own, x.isDigit = true := by
  have hends (front : List Char) {x : Char} (hown : own = front ++ [x])
      (hx : continuesWord x = false) : ∀ x ∈ own, x.isDigit = true := by
    rw [hlast x (by rw [hown]; simp)] at hx
    cases hx
  cases h with
  | number hc hbody => exact List.forall_mem_cons.mpr ⟨hc, hbody⟩
  | @text inner => exact hends ('"' :: inner) rfl (by decide +kernel)
  | punctuation hmark =>
      refine hends [] rfl ((Bool.not_eq_true' _).mp ?_)
      exact of_isPunctuation (p := fun c => !continuesWord c) (by decide +kernel) hmark
  | word _ _ _ htail =>
      rw [htail c hhead] at hc
      cases hc
  | lineFeed => exact hends [] rfl (by decide +kernel)
  | returnFeed => exact hends ['\r'] rfl (by decide +kernel)
  | @space c body tail hblank =>
      obtain ⟨front, x, hown⟩ := List.eq_nil_or_concat' (c :: body) |>.resolve_left nofun
      have hlength : blankLength ((c :: body) ++ tail) = (c :: body).length := hblank
      have hblanks := isWhiteSpace_of_blankLength hlength
      refine hends front hown (continuesWord_of_isWhiteSpace (hblanks x ?_))
      rw [hown]
      simp
  | @comment inner => exact hends ('/' :: '/' :: inner) rfl (by decide +kernel)
  | lastComment => cases hhead
  | unknown hdigit _ halphabetic _ _ _ =>
      refine hends [] rfl ?_
      rw [continuesWord, hdigit, halphabetic]
      rfl

theorem not_mem_words_of_lexemes {start a : List Char} {c : Char}
    (h : lexemes d cs = before ++ x :: after) (hc : continuesWord c = true)
    (hhead : x.text.toList.head? = some c) (hfront : characters before = start ++ a) :
    a ∉ words := by
  intro ha
  obtain ⟨letter, body, hletter, hbody, rfl⟩ := mem_words.mp ha
  have hdigit : letter.isDigit = false := Text.isDigit_of_isAlphabetic hletter
  -- Going back from lexeme to lexeme, only digits are met, and the letter is never reached.
  induction before using List.reverseRecOn generalizing x after body c with
  | nil => simp [characters] at hfront
  | append_singleton before y ih =>
      rw [List.append_assoc, List.singleton_append] at h
      have hcut := cut_of_lexemes h
      have hfront' : characters before ++ y.text.toList = start ++ letter :: body := by
        rw [← hfront, characters_append, characters_cons]
        simp [characters]
      have hlast : ∀ z ∈ y.text.toList.getLast?, continuesWord z = true := by
        intro z hz
        have hend : z ∈ (start ++ letter :: body).getLast? := by
          rw [← hfront', List.getLast?_append, Option.mem_def.mp hz]
          rfl
        rw [List.getLast?_append_of_ne_nil _ (List.cons_ne_nil _ _)] at hend
        exact continuesWord_of_mem_words ha z (List.mem_of_getLast? hend)
      have hnext : (characters (x :: after)).head? = some c := by
        rw [characters_cons, List.head?_append, hhead]
        rfl
      have hdigits := hcut.isDigit_of_continuesWord hlast hnext hc
      rcases List.append_eq_append_iff.mp hfront' with ⟨more, -, hy⟩ | ⟨more, hbefore, hy⟩
      · rw [hdigits letter (by simp [hy])] at hdigit
        cases hdigit
      · cases more with
        | nil =>
            rw [hdigits letter (by rw [← List.nil_append y.text.toList, ← hy]; simp)] at hdigit
            cases hdigit
        | cons letter' more =>
            obtain ⟨rfl, rfl⟩ := List.cons_eq_cons.mp hy
            obtain ⟨c', own, hown, -⟩ := hcut.first
            have hc' : continuesWord c' = true := by
              rw [continuesWord, hdigits c' (by simp [hown]), Bool.or_true]
            refine ih h hc' (by rw [hown]; rfl) more ?_ hbefore ?_
            · exact fun z hz => hbody z (List.mem_append_left _ hz)
            · exact mem_words_of_append (a := letter :: more) ha (List.cons_ne_nil _ _)

theorem not_inLongerWord (h : lexemes d cs = before ++ x :: after)
    (hword : x.text.toList ∈ words) :
    ¬ InLongerWord (characters before) x.text.toList (characters after) := by
  rintro ⟨start, a, b, stop, hfront, hrest, hlonger, hmore⟩
  obtain ⟨c, body, hc, hbody, hown⟩ := mem_words.mp hword
  rcases hmore with ha | hb
  · have hcontinues : continuesWord c = true := by rw [continuesWord, hc, Bool.true_or]
    rw [List.append_assoc] at hlonger
    exact not_mem_words_of_lexemes h hcontinues (by rw [hown]; rfl) hfront
      (mem_words_of_append hlonger ha)
  · obtain ⟨z, b, rfl⟩ := List.exists_cons_of_ne_nil hb
    have hz : continuesWord z = true := continuesWord_of_mem_words hlonger z (by simp)
    have hcut := cut_of_lexemes h
    rw [hown] at hcut
    rw [(hcut.word_inv hc hbody).2 z (by rw [hrest]; rfl)] at hz
    cases hz

end Readings

/-- The tokens of a source are its lexemes in the only way in which the lexical grammar reads it,
and the end of the input. In particular no word of them is cut out of a longer one, and a quote
is unknown exactly if no other quote follows it. -/
theorem tokens_follow_grammar (d : Dialect) (source : String) :
    ∃ xs, (tokens d source).map Token.toLexeme = xs ++ [⟨.endOfInput, ""⟩] ∧
      (∀ ys, Reading d source.toList ys ↔ ys = xs) ∧
      ∀ before x after, xs = before ++ x :: after →
        (x.text.toList ∈ words →
          ¬ InLongerWord (characters before) x.text.toList (characters after)) ∧
        ∀ rest, characters (x :: after) = '"' :: rest → (x.kind = .unknown ↔ '"' ∉ rest) := by
  obtain ⟨ts, htokens, hlexemes⟩ := exists_tokens_eq d source
  refine ⟨lexemes d source.toList, ?_, fun ys => reading_iff, ?_⟩
  · rw [htokens, List.map_append, hlexemes]
    rfl
  · intro before x after h
    exact ⟨not_inLongerWord h, fun rest => kind_of_quote h⟩

end KeywordLang.Scan
