import KeywordLang.Proofs.Reader
import KeywordLang.Proofs.TokenPlaces

/-!
Two changes of a source that leave what becomes of it. The tokens that carry meaning may be
laid out anew, and once a token has been refused, the text behind it may be replaced.
-/

namespace KeywordLang

open Text (isWhiteSpace)

section Layout

theorem mapError_compile_congr {d : Dialect} {s s' : String} (mode : Mode)
    (h : Scan.content d s'.toList = Scan.content d s.toList) :
    (compile d mode s').mapError Diagnostic.fault =
      (compile d mode s).mapError Diagnostic.fault := by
  cases mode with
  | module =>
      change (compileProgram d s').mapError _ = (compileProgram d s).mapError _
      rw [mapError_compileProgram, mapError_compileProgram, h]
  | expression =>
      change (compileExpression d s').mapError _ = (compileExpression d s).mapError _
      rw [mapError_compileExpression, mapError_compileExpression, h]

/-- Layout does not matter. White space of any kind and length, set between the tokens that
carry meaning, at the ends or nowhere but between, gives a text with the same tokens, and
it compiles to the same code or fails for the same cause. -/
theorem compile_layout (d : Dialect) (mode : Mode) (s : String) (l : Scan.Layout)
    (h : l.lexemes = Scan.content d s.toList) :
    significant (Scan.tokens d l.text) = significant (Scan.tokens d s) ∧
      (compile d mode l.text).mapError Diagnostic.fault =
        (compile d mode s).mapError Diagnostic.fault := by
  have hcontent := Scan.content_layout l h
  refine ⟨?_, mapError_compile_congr mode hcontent⟩
  rw [significant_tokens, significant_tokens, hcontent]

/-- Lexemes that depend on what follows them: a lone slash and a quote that is never
closed. -/
def lonelyMarks : Scan.Layout where
  lead := ['\t']
  pieces := [(⟨.number, "1"⟩, [' ']), (⟨.operator, "+"⟩, ['\r', '\u2028']),
    (⟨.unknown, "/"⟩, ['\n']), (⟨.unknown, "\""⟩, [' ']), (⟨.name, "a2"⟩, [])]
  lead_blank := List.forall_mem_singleton.mpr rfl
  gaps_blank := by
    simp only [← List.all_eq_true]
    decide
  apart := by decide

theorem compile_layout_lonelyMarks :
    lonelyMarks.lexemes = Scan.content .standard "1+/ // \" \n\"a2".toList ∧
      significant (Scan.tokens .standard lonelyMarks.text) =
        significant (Scan.tokens .standard "1+/ // \" \n\"a2") ∧
      (compile .standard .expression lonelyMarks.text).mapError Diagnostic.fault =
        (compile .standard .expression "1+/ // \" \n\"a2").mapError Diagnostic.fault := by
  have hlexemes :
      lonelyMarks.lexemes = Scan.content .standard "1+/ // \" \n\"a2".toList := by
    decide +kernel
  exact ⟨hlexemes, compile_layout .standard .expression _ lonelyMarks hlexemes⟩

end Layout

namespace Scan

variable {d : Dialect} {cs w : List Char} {xs ys : List Lexeme} {x : Lexeme}

/-- The lexemes up to one that carries meaning do not depend on the text behind it. -/
theorem lexemes_replace_tail (h : lexemes d cs = xs ++ x :: ys) (hx : x.isTrivia = false)
    (hknown : ∀ y ∈ xs, y.kind ≠ .unknown) (hblank : ∀ c ∈ w.head?, isWhiteSpace c = true)
    (hquote : x.text.toList = ['"'] → '"' ∉ w) :
    lexemes d (characters xs ++ (x.text.toList ++ w)) = xs ++ x :: lexemes d w := by
  induction xs generalizing cs with
  | nil =>
      obtain ⟨tail, rfl, hcut, -⟩ := exists_cut_of_lexemes h
      have hcut' := hcut.before_blank hx (fun c hc => .inr (hblank c hc)) hquote
      change lexemes d (x.text.toList ++ w) = _
      rw [hcut'.lexemes, String.ofList_toList]
      rfl
  | cons y xs ih =>
      obtain ⟨hy, hknown⟩ := List.forall_mem_cons.mp hknown
      rw [List.cons_append] at h
      obtain ⟨tail, rfl, hcut, htail⟩ := exists_cut_of_lexemes h
      have hlater : x ∈ lexemes d tail := by simp [htail]
      obtain ⟨_, hx'⟩ := exists_cut_of_mem_lexemes hlater
      obtain ⟨c, body, hc, hvisible⟩ := hx'.exists_cons_of_not_isTrivia hx
      -- Up to the replaced text there is a character that `y` does not look beyond.
      have htail' : tail = (characters xs ++ x.text.toList) ++ characters ys := by
        rw [← characters_lexemes d tail, htail, characters_append, characters_cons,
          List.append_assoc]
      have hmem : c ∈ characters xs ++ x.text.toList := by simp [hc]
      have hcut' : Cut d y.kind y.text.toList (characters xs ++ x.text.toList ++ w) := by
        apply hcut.congr_tail
        · have hne := List.ne_nil_of_mem hmem
          rw [htail', List.head?_append_of_ne_nil _ hne, List.head?_append_of_ne_nil _ hne]
        · intro _
          rw [htail']
          exact startsLineBreak_append_congr _ w ⟨c, hmem, hvisible⟩
        · intro hown
          rw [hown] at hcut
          exact absurd hcut.quote.1 hy
      rw [characters_cons, List.append_assoc, ← List.append_assoc (characters xs), hcut'.lexemes,
        String.ofList_toList, List.append_assoc, ih htail hknown]
      rfl

theorem exists_of_place {offset line : Nat} {before after : List Token} {t : Token}
    (h : place offset line xs = before ++ t :: after) (ht : t.kind ≠ .endOfInput) :
    ∃ ys, xs = before.map Token.toLexeme ++ t.toLexeme :: ys ∧
      ∀ zs, ∃ after', place offset line (before.map Token.toLexeme ++ t.toLexeme :: zs) =
        before ++ t :: after' := by
  induction before generalizing offset line xs with
  | nil =>
      cases xs with
      | nil =>
          cases h
          exact absurd rfl ht
      | cons x xs =>
          cases h
          exact ⟨xs, rfl, fun zs => ⟨_, rfl⟩⟩
  | cons b before ih =>
      cases xs with
      | nil =>
          have hlength := congrArg List.length h
          simp [place] at hlength
      | cons x xs =>
          obtain ⟨hb, hrest⟩ := List.cons_eq_cons.mp h
          subst hb
          obtain ⟨ys, rfl, hplace⟩ := ih hrest
          refine ⟨ys, rfl, ?_⟩
          intro zs
          obtain ⟨after', hafter⟩ := hplace zs
          refine ⟨after', ?_⟩
          rw [List.map_cons, List.cons_append, place, hafter]
          rfl

theorem tokens_replace_tail {source : String} {before after : List Token} {t : Token}
    (h : tokens d source = before ++ t :: after) (ht : t.kind ≠ .endOfInput)
    (htrivia : t.isTrivia = false) (hknown : ∀ u ∈ before, u.kind ≠ .unknown) :
    ∃ front back : String, source = front ++ t.text ++ back ∧
      t.offset = front.utf8ByteSize ∧ t.line = 1 + front.toList.count '\n' ∧
      ∀ w : String, (∀ c ∈ w.toList.head?, isWhiteSpace c = true) →
        (t.text = "\"" → '"' ∉ w.toList) →
        ∃ after', tokens d (front ++ t.text ++ w) = before ++ t :: after' := by
  obtain ⟨ys, hlexemes, hplace⟩ := exists_of_place h ht
  obtain ⟨⟨rest, hsource⟩, hoffset, -, hline⟩ := standsIn_of_tokens h
  let xs := before.map Token.toLexeme
  refine ⟨textOf before, rest, hsource, ?_, hline, ?_⟩
  · rw [hoffset, utf8ByteSize_textOf]
  · intro w hblank hquote
    obtain ⟨after', hafter⟩ := hplace (lexemes d w.toList)
    refine ⟨after', ?_⟩
    have hreplaced : lexemes d (characters xs ++ (t.text.toList ++ w.toList)) =
        xs ++ t.toLexeme :: lexemes d w.toList := by
      apply lexemes_replace_tail hlexemes htrivia _ hblank
      · intro hown
        apply hquote
        exact String.toList_inj.mp hown
      · intro y hy
        obtain ⟨u, hu, rfl⟩ := List.mem_map.mp hy
        exact hknown u hu
    rw [tokens, String.toList_append, String.toList_append, toList_textOf,
      List.append_assoc, hreplaced, hafter]

end Scan

section Refusals

/-- The token `t` is the first one that is refused, with the diagnostic `e`. -/
def RefusedAt (d : Dialect) (mode : Mode) (source : String) (t : Token) (e : Diagnostic) :
    Prop :=
  ∃ before after, Scan.tokens d source = before ++ t :: after ∧
    match mode with
    | .module =>
        ∃ m, Program.Machine.run d {} before = .ok m ∧ (m.feed d t).1 = .error e
    | .expression =>
        ∃ m, Expression.Machine.run d {} {} before = .ok m ∧ (m.feed d {} t).1 = .error e

/-- What a refusal needs is that some reader takes the tokens before and refuses this one. -/
theorem RefusedAt.exists_reader {d : Dialect} {mode : Mode} {source : String} {t : Token}
    {e : Diagnostic} (h : RefusedAt d mode source t e) :
    ∃ (M : Type) (R : Reader M) (m₀ m : M) (before after : List Token),
      Scan.tokens d source = before ++ t :: after ∧ R.run m₀ before = .ok m ∧
        (R.feed m t).1 = .error e ∧
        ∀ s, compile d mode s = R.compile m₀ (Scan.tokens d s) := by
  obtain ⟨before, after, htokens, h⟩ := h
  cases mode with
  | module =>
      obtain ⟨m, hrun, hfeed⟩ := h
      rw [Program.Machine.run_eq] at hrun
      rw [Program.Machine.feed_eq] at hfeed
      refine ⟨Program.Machine, _, {}, m, before, after, htokens, hrun, hfeed, ?_⟩
      intro s
      exact compileProgram_eq d s
  | expression =>
      obtain ⟨m, hrun, hfeed⟩ := h
      rw [Expression.Machine.run_eq] at hrun
      rw [Expression.Machine.feed_eq] at hfeed
      refine ⟨Expression.Machine, _, {}, m, before, after, htokens, hrun, hfeed, ?_⟩
      intro s
      exact compileExpression_eq d s

/-- A diagnostic depends on the source up to the refused token only, and it names the line
on which that token begins. -/
theorem diagnostic_of_refusedAt (d : Dialect) (mode : Mode) (source : String) (t : Token)
    (e : Diagnostic) (h : RefusedAt d mode source t e) (ht : t.kind ≠ .endOfInput) :
    compile d mode source = .error e ∧
      ∃ front back : String, source = front ++ t.text ++ back ∧
        front.utf8ByteSize = t.offset ∧ e.line = 1 + front.toList.count '\n' ∧
        ∀ w : String, (∃ c ∈ w.toList.head?, isWhiteSpace c = true) →
          (t.text = "\"" → '"' ∉ w.toList) →
          compile d mode (front ++ t.text ++ w) = .error e := by
  obtain ⟨M, R, m₀, m, before, after, htokens, hrun, hfeed, hcompile⟩ := h.exists_reader
  obtain ⟨front, back, hsource, hoffset, hline, hreplace⟩ :=
    Scan.tokens_replace_tail htokens ht (Reader.isTrivia_of_refused hfeed)
      (Reader.kind_ne_unknown_of_run hrun)
  refine ⟨?_, front, back, hsource, hoffset.symm, ?_, ?_⟩
  · rw [hcompile, htokens]
    exact Reader.compile_of_refused hrun hfeed after
  · rw [Reader.line_of_refused hfeed, hline]
  · intro w hblank hquote
    obtain ⟨c, hc, hblank⟩ := hblank
    have hhead : ∀ x ∈ w.toList.head?, isWhiteSpace x = true := by
      intro x hx
      obtain rfl := Option.mem_unique hx hc
      exact hblank
    obtain ⟨after', hafter⟩ := hreplace w hhead hquote
    rw [hcompile, hafter]
    exact Reader.compile_of_refused hrun hfeed after'

/-- A text over two lines and a comment with a quote stand in front of the refused token. -/
theorem diagnostic_of_refusedAt_multiline :
    RefusedAt .standard .expression "\"a\nb\" // \"\n+ ) \"" ⟨⟨.operator, ")"⟩, 13, 3⟩
      ⟨.unexpected .operand (.excerpt ")"), 3⟩ ∧
    compile .standard .expression "\"a\nb\" // \"\n+ ) \"" =
      .error ⟨.unexpected .operand (.excerpt ")"), 3⟩ ∧
    ∃ front back : String, "\"a\nb\" // \"\n+ ) \"" = front ++ ")" ++ back ∧
      front.utf8ByteSize = 13 ∧ 3 = 1 + front.toList.count '\n' ∧
      ∀ w : String, (∃ c ∈ w.toList.head?, isWhiteSpace c = true) →
        (")" = "\"" → '"' ∉ w.toList) →
        compile .standard .expression (front ++ ")" ++ w) =
          .error ⟨.unexpected .operand (.excerpt ")"), 3⟩ := by
  let ts := Scan.tokens .standard "\"a\nb\" // \"\n+ ) \""
  have hrefused : RefusedAt .standard .expression "\"a\nb\" // \"\n+ ) \""
      ⟨⟨.operator, ")"⟩, 13, 3⟩ ⟨.unexpected .operand (.excerpt ")"), 3⟩ := by
    refine ⟨ts.take 5, ts.drop 6, by decide +kernel,
      { stack := [.operator .plus, .operand (.text "\"a\nb\"")], line := 3 }, ?_, rfl⟩
    decide +kernel
  exact ⟨hrefused, diagnostic_of_refusedAt _ _ _ _ _ hrefused (by decide)⟩

end Refusals

end KeywordLang
