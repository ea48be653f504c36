import KeywordLang.Proofs.LexemeCuts

/-!
The layout of a text does not change what scanning finds in it. White space in front of a
text carries no meaning, the lexemes that do carry meaning may be laid out anew, and two
texts may be joined at a line break.
-/

namespace KeywordLang.Scan

open Text (isAlphabetic isWhiteSpace)

/-- The lexemes of a text that carry meaning. -/
def content (d : Dialect) (cs : List Char) : List Lexeme :=
  (lexemes d cs).filter fun x => !x.isTrivia

section Content

variable {d : Dialect} {own tail cs : List Char} {c : Char}

theorem content_nil (d : Dialect) : content d [] = [] := by
  rw [content, lexemes]
  rfl

theorem Cut.content {x : Lexeme} (h : Cut d x.kind x.text.toList tail)
    (hx : x.isTrivia = false) :
    content d (x.text.toList ++ tail) = x :: content d tail := by
  rw [Scan.content, h.lexemes, String.ofList_toList, List.filter_cons_of_pos (by simpa using hx)]
  rfl

theorem Cut.content_of_isTrivia {x : Lexeme} (h : Cut d x.kind x.text.toList tail)
    (hx : x.isTrivia = true) : Scan.content d (x.text.toList ++ tail) = Scan.content d tail := by
  rw [Scan.content, h.lexemes, String.ofList_toList, List.filter_cons_of_neg (by simp [hx])]
  rfl

theorem Cut.content_of_trivia {kind : LexemeKind} (h : Cut d kind own tail)
    (hkind : Lexeme.isTrivia ⟨kind, String.ofList own⟩ = true) :
    Scan.content d (own ++ tail) = Scan.content d tail := by
  rw [Scan.content, h.lexemes, List.filter_cons_of_neg (by simp [hkind])]
  rfl

theorem content_drop_blankLength (d : Dialect) (cs : List Char) :
    content d (cs.drop (blankLength cs)) = content d cs := by
  cases cs with
  | nil => rfl
  | cons c rest =>
      cases hlength : blankLength (c :: rest) with
      | zero => rfl
      | succ n =>
          obtain ⟨-, -, hrest⟩ := blankLength_cons_of_pos hlength
          have hcut : Cut d .space (c :: rest.take n) (rest.drop n) := by
            apply Cut.space
            rw [List.take_append_drop, hlength, List.length_take, ← hrest,
              Nat.min_eq_left (blankLength_le_length rest)]
          have hcontent := hcut.content_of_trivia rfl
          rw [List.cons_append, List.take_append_drop] at hcontent
          exact hcontent.symm

theorem content_cons_of_isWhiteSpace (d : Dialect) (cs : List Char)
    (hc : isWhiteSpace c = true) : content d (c :: cs) = content d cs := by
  have hfeed (rest : List Char) : content d ('\n' :: rest) = content d rest :=
    Cut.lineFeed.content_of_trivia rfl
  cases hbreak : startsLineBreak (c :: cs) with
  | true =>
      unfold startsLineBreak at hbreak
      split at hbreak
      · next h =>
          cases h
          exact hfeed cs
      · next rest h =>
          cases h
          have hreturn : content d ('\r' :: '\n' :: rest) = content d rest :=
            Cut.returnFeed.content_of_trivia rfl
          rw [hreturn, hfeed]
      · cases hbreak
  | false =>
      have hlength : blankLength (c :: cs) = blankLength cs + 1 := by
        rw [blankLength, hc, hbreak]
        rfl
      rw [← content_drop_blankLength d (c :: cs), hlength, List.drop_succ_cons,
        content_drop_blankLength]

theorem content_append_of_isWhiteSpace (d : Dialect) {blank : List Char} (cs : List Char)
    (hblank : ∀ c ∈ blank, isWhiteSpace c = true) :
    content d (blank ++ cs) = content d cs := by
  induction blank with
  | nil => rfl
  | cons c blank ih =>
      obtain ⟨hc, hblank⟩ := List.forall_mem_cons.mp hblank
      rw [List.cons_append, content_cons_of_isWhiteSpace d _ hc, ih hblank]

end Content

section Quotes

variable {d : Dialect} {kind : LexemeKind} {tail cs : List Char}

theorem Cut.quote (h : Cut d kind ['"'] tail) : kind = .unknown ∧ '"' ∉ tail := by
  generalize hown : ['"'] = own at h
  cases h with
  | unknown _ _ _ _ hquote _ =>
      cases hown
      exact ⟨rfl, hquote rfl⟩
  | @text inner =>
      have hlength := congrArg List.length hown
      simp at hlength
  | number hc =>
      cases hown
      cases hc
  | punctuation hc =>
      cases hown
      cases hc
  | word hc =>
      cases hown
      cases hc
  | space h =>
      cases hown
      obtain ⟨hc, -, -⟩ := blankLength_cons_of_pos h
      cases hc
  | _ => cases hown

theorem mem_of_mem_content {x : Lexeme} {c : Char} (hx : x ∈ content d cs)
    (hc : c ∈ x.text.toList) : c ∈ cs := by
  rw [← characters_lexemes d cs]
  exact List.mem_flatMap.mpr ⟨x, List.mem_of_mem_filter hx, hc⟩

end Quotes

section Seams

variable {d : Dialect} {tail cs : List Char}

theorem isWhiteSpace_of_blankLength {own : List Char}
    (h : blankLength (own ++ tail) = own.length) : ∀ c ∈ own, isWhiteSpace c = true := by
  induction own with
  | nil => exact nofun
  | cons c own ih =>
      rw [List.cons_append] at h
      obtain ⟨hc, -, hown⟩ := blankLength_cons_of_pos h
      exact List.forall_mem_cons.mpr ⟨hc, ih hown⟩

theorem isTrivia_wordKind (d : Dialect) (word : List Char) (text : String) :
    Lexeme.isTrivia ⟨wordKind d word, text⟩ = false := by
  rcases wordKind_cases d word with h | h
  · rw [h]
    rfl
  · rw [h]
    rfl

theorem Cut.content_append_lineBreak {x : Lexeme} {blank : List Char} (cs' : List Char)
    (h : Cut d x.kind x.text.toList tail) (hx : x.isTrivia = true)
    (hblank : ∀ c ∈ blank, isWhiteSpace c = true) (hline : '\n' ∉ blank) :
    Scan.content d (x.text.toList ++ (tail ++ (blank ++ '\n' :: cs'))) =
      Scan.content d (tail ++ (blank ++ '\n' :: cs')) := by
  obtain ⟨kind, text⟩ := x
  generalize text.toList = own at h ⊢
  cases h with
  | lineFeed => exact Cut.lineFeed.content_of_trivia rfl
  | returnFeed => exact Cut.returnFeed.content_of_trivia rfl
  | @space c body tail h =>
      have hlength : blankLength ((c :: body) ++ tail) = (c :: body).length := h
      exact content_append_of_isWhiteSpace d _ (isWhiteSpace_of_blankLength hlength)
  | comment hinner => exact (Cut.comment hinner).content_of_trivia rfl
  | @lastComment inner hinner =>
      -- The line break goes to the comment, which had none.
      have hinner' : '\n' ∉ inner ++ blank := by
        rw [List.mem_append, not_or]
        exact ⟨hinner, hline⟩
      have hcut : Cut d .comment ('/' :: '/' :: ((inner ++ blank) ++ ['\n'])) cs' :=
        .comment hinner'
      have hcontent := hcut.content_of_trivia rfl
      rw [List.nil_append, content_append_of_isWhiteSpace d _ hblank,
        content_cons_of_isWhiteSpace d cs' rfl, ← hcontent]
      simp
  | @word _ c body _ _ _ hkind _ =>
      have hword : kind = wordKind d (c :: body) := hkind
      rw [hword, isTrivia_wordKind] at hx
      cases hx
  | _ => cases hx

/-- Where nothing is unknown, a line break can be put behind a text, and another text
behind it. -/
theorem content_append_lineBreak (d : Dialect) {cs blank : List Char} (cs' : List Char)
    (h : ∀ x ∈ content d cs, x.kind ≠ .unknown)
    (hblank : ∀ c ∈ blank, isWhiteSpace c = true) (hline : '\n' ∉ blank) :
    content d (cs ++ (blank ++ '\n' :: cs')) = content d cs ++ content d cs' := by
  generalize hxs : lexemes d cs = xs
  induction xs generalizing cs with
  | nil =>
      rw [eq_nil_of_lexemes hxs, content_nil, List.nil_append, List.nil_append,
        content_append_of_isWhiteSpace d _ hblank]
      exact content_cons_of_isWhiteSpace d cs' rfl
  | cons x xs ih =>
      obtain ⟨tail, rfl, hcut, htail⟩ := exists_cut_of_lexemes hxs
      rw [List.append_assoc]
      cases hx : x.isTrivia with
      | false =>
          rw [hcut.content hx] at h ⊢
          obtain ⟨hknown, h⟩ := List.forall_mem_cons.mp h
          have hcut' : Cut d x.kind x.text.toList (tail ++ (blank ++ '\n' :: cs')) := by
            apply hcut.before_blank hx
            · intro c hc
              cases tail with
              | cons y tail => exact .inl hc
              | nil =>
                  right
                  cases blank with
                  | nil =>
                      cases hc
                      rfl
                  | cons b blank =>
                      cases hc
                      exact hblank c List.mem_cons_self
            · intro hquote
              rw [hquote] at hcut
              exact absurd hcut.quote.1 hknown
          rw [hcut'.content hx, ih h htail, List.cons_append]
      | true =>
          rw [hcut.content_of_isTrivia hx] at h ⊢
          rw [hcut.content_append_lineBreak cs' hx hblank hline, ih h htail]

end Seams

/-- Lexemes with white space around them. Any two of them are set apart. -/
structure Layout where
  /-- The white space in front of the first lexeme. -/
  lead : List Char
  /-- Each lexeme and the white space behind it. -/
  pieces : List (Lexeme × List Char)
  lead_blank : ∀ c ∈ lead, isWhiteSpace c = true
  gaps_blank : ∀ p ∈ pieces, ∀ c ∈ p.2, isWhiteSpace c = true
  apart : ∀ p ∈ pieces.dropLast, p.2 ≠ []

def Layout.lexemes (l : Layout) : List Lexeme :=
  l.pieces.map Prod.fst

def Layout.text (l : Layout) : String :=
  String.ofList (l.lead ++ l.pieces.flatMap fun p => p.1.text.toList ++ p.2)

section Layouts

variable {d : Dialect} {cs : List Char} {pieces : List (Lexeme × List Char)}

theorem not_mem_pieces {c : Char} (hc : c ∉ cs) (hblank : isWhiteSpace c = false)
    (hpieces : pieces.map Prod.fst = content d cs)
    (hgaps : ∀ p ∈ pieces, ∀ c ∈ p.2, isWhiteSpace c = true) :
    c ∉ pieces.flatMap fun p => p.1.text.toList ++ p.2 := by
  intro hmem
  obtain ⟨p, hp, hmem⟩ := List.mem_flatMap.mp hmem
  rcases List.mem_append.mp hmem with hmem | hmem
  · apply hc
    apply mem_of_mem_content (d := d) (x := p.1) _ hmem
    rw [← hpieces]
    exact List.mem_map_of_mem hp
  · rw [hgaps p hp c hmem] at hblank
    cases hblank

theorem mem_dropLast_cons {α : Type} {x y : α} {xs : List α} (h : x ∈ xs.dropLast) :
    x ∈ (y :: xs).dropLast := by
  cases xs with
  | nil => cases h
  | cons z zs => exact List.mem_cons_of_mem y h

theorem content_pieces (hpieces : pieces.map Prod.fst = content d cs)
    (hgaps : ∀ p ∈ pieces, ∀ c ∈ p.2, isWhiteSpace c = true)
    (hapart : ∀ p ∈ pieces.dropLast, p.2 ≠ []) :
    content d (pieces.flatMap fun p => p.1.text.toList ++ p.2) = content d cs := by
  generalize hxs : lexemes d cs = xs
  induction xs generalizing cs pieces with
  | nil =>
      rw [eq_nil_of_lexemes hxs, content_nil] at hpieces ⊢
      rw [List.map_eq_nil_iff.mp hpieces]
      exact content_nil d
  | cons x xs ih =>
      obtain ⟨tail, rfl, hcut, htail⟩ := exists_cut_of_lexemes hxs
      cases hx : x.isTrivia with
      | true =>
          rw [hcut.content_of_isTrivia hx] at hpieces ⊢
          exact ih hpieces hgaps hapart htail
      | false =>
          rw [hcut.content hx] at hpieces ⊢
          obtain ⟨⟨y, gap⟩, pieces, rfl, rfl, hrest⟩ := List.map_eq_cons_iff.mp hpieces
          obtain ⟨hgap, hgaps⟩ := List.forall_mem_cons.mp hgaps
          let rest := pieces.flatMap fun p => p.1.text.toList ++ p.2
          have hapart' : ∀ p ∈ pieces.dropLast, p.2 ≠ [] := by
            intro p hp
            exact hapart p (mem_dropLast_cons hp)
          have hcut' : Cut d y.kind y.text.toList (gap ++ rest) := by
            apply hcut.before_blank hx
            · intro c hc
              right
              cases gap with
              | cons b gap =>
                  cases hc
                  exact hgap c List.mem_cons_self
              | nil =>
                  have hlast : pieces = [] := by
                    by_contra hne
                    exact hapart (y, []) (by simp [List.dropLast_cons_of_ne_nil hne]) rfl
                  subst hlast
                  cases hc
            · intro hquote
              rw [hquote] at hcut
              rw [List.mem_append, not_or]
              refine ⟨fun hmem => ?_, not_mem_pieces hcut.quote.2 rfl hrest hgaps⟩
              cases hgap '"' hmem
          calc content d (y.text.toList ++ gap ++ rest)
              = content d (y.text.toList ++ (gap ++ rest)) := by rw [List.append_assoc]
            _ = y :: content d (gap ++ rest) := hcut'.content hx
            _ = y :: content d rest := by rw [content_append_of_isWhiteSpace d rest hgap]
            _ = y :: content d tail := by rw [ih hrest hgaps hapart' htail]

/-- The lexemes of a text that carry meaning may be laid out anew. -/
theorem content_layout (l : Layout) (h : l.lexemes = content d cs) :
    content d l.text.toList = content d cs := by
  rw [Layout.text, String.toList_ofList, content_append_of_isWhiteSpace d _ l.lead_blank]
  exact content_pieces h l.gaps_blank l.apart

end Layouts

end KeywordLang.Scan
