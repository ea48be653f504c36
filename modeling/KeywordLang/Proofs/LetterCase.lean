import KeywordLang.Proofs.ProgramSteps
import KeywordLang.Proofs.Reader
import Mathlib.Data.List.Forall2

/-!
Words are compared in upper case, so they may be spelled in any other way with the same
upper-case form. The scanner cuts such a source at the same places, and the machines go
through the same steps. Only a text that a diagnostic cites can differ.
-/

namespace KeywordLang

open Text (isAlphabetic isWhiteSpace)

/-- A text that may stand in the place of a lexeme. A word may be replaced by another word
with the same upper-case form, all else by itself only. -/
def Lexeme.Respells (x : Lexeme) (text : String) : Prop :=
  text = x.text ∨ (x.kind = .name ∨ x.kind = .operator) ∧ isWord x.text = true ∧
    isWord text = true ∧ Text.upper text = x.word

instance (x : Lexeme) (text : String) : Decidable (x.Respells text) :=
  inferInstanceAs (Decidable (_ ∨ _))

/-- The same lexeme in another spelling. -/
structure Lexeme.SpelledAs (x y : Lexeme) : Prop where
  kind : y.kind = x.kind
  text : x.Respells y.text

theorem Lexeme.SpelledAs.word {x y : Lexeme} (h : x.SpelledAs y) : y.word = x.word := by
  rcases h.text with htext | ⟨-, -, -, hupper⟩
  · rw [Lexeme.word, htext, Lexeme.word]
  · exact hupper

theorem Lexeme.SpelledAs.isTrivia {x y : Lexeme} (h : x.SpelledAs y) :
    y.isTrivia = x.isTrivia := by
  unfold Lexeme.isTrivia
  rw [h.kind]

theorem Lexeme.SpelledAs.eq {x y : Lexeme} (h : x.SpelledAs y) (hname : x.kind ≠ .name)
    (hoperator : x.kind ≠ .operator) : y = x := by
  obtain ⟨kind, text⟩ := x
  obtain ⟨kind', text'⟩ := y
  obtain ⟨rfl, htext | ⟨hkind, -⟩⟩ := h
  · rw [Lexeme.mk.injEq]
    exact ⟨rfl, htext⟩
  · rcases hkind with hkind | hkind
    · exact absurd hkind hname
    · exact absurd hkind hoperator

theorem exists_cons_of_isWord {text : String} (h : isWord text = true) :
    ∃ c body, text.toList = c :: body ∧ isAlphabetic c = true ∧
      ∀ x ∈ body, Scan.continuesWord x = true := by
  unfold isWord at h
  split at h
  · cases h
  · next c body htext =>
      rw [Bool.and_eq_true, List.all_eq_true] at h
      exact ⟨c, body, htext, h.1, h.2⟩

theorem continuesWord_of_isWord {text : String} (h : isWord text = true) :
    ∀ c ∈ text.toList, Scan.continuesWord c = true := by
  obtain ⟨c, body, htext, hc, hbody⟩ := exists_cons_of_isWord h
  rw [htext]
  refine List.forall_mem_cons.mpr ⟨?_, hbody⟩
  rw [Scan.continuesWord, hc]
  rfl

theorem not_mem_of_isWord {text : String} {c : Char} (h : isWord text = true)
    (hc : Scan.continuesWord c = false) : c ∉ text.toList := by
  intro hmem
  rw [continuesWord_of_isWord h c hmem] at hc
  cases hc

namespace Scan

variable {d : Dialect} {kind : LexemeKind} {tail tail' cs : List Char} {x : Lexeme}
  {text : String}

theorem Cut.word_inv {c : Char} {body : List Char} (h : Cut d kind (c :: body) tail)
    (hc : isAlphabetic c = true) (hbody : ∀ x ∈ body, continuesWord x = true) :
    kind = wordKind d (c :: body) ∧ ∀ x ∈ tail.head?, continuesWord x = false := by
  obtain ⟨c', body', hown, hfirst⟩ := h.first
  obtain ⟨rfl, rfl⟩ := List.cons_eq_cons.mp hown
  rw [first_of_isAlphabetic hc, Prod.mk.injEq] at hfirst
  obtain ⟨hkind, hlength⟩ := hfirst
  constructor
  · rw [← hkind, hlength, List.take_left]
  · intro x hx
    obtain ⟨rest, rfl⟩ := List.head?_eq_some_iff.mp hx
    rw [← Bool.not_eq_true]
    intro hcontinues
    rw [spanLength, List.takeWhile_append_of_pos hbody, List.takeWhile_cons_of_pos hcontinues,
      List.length_append, List.length_cons] at hlength
    omega

theorem Cut.isWord_of_name (h : Cut d .name text.toList tail) : isWord text = true := by
  obtain ⟨c, body, htext, hc, hbody⟩ := h.exists_word
  rw [isWord, htext, Bool.and_eq_true, List.all_eq_true]
  exact ⟨hc, hbody⟩

theorem Cut.operator_cases (h : Cut d .operator text.toList tail) :
    (∃ c, isPunctuation c = true ∧ text = String.ofList [c]) ∨ isWord text = true := by
  generalize hown : text.toList = own at h
  cases h with
  | @punctuation c tail hc =>
      refine .inl ⟨c, hc, ?_⟩
      rw [← hown, String.ofList_toList]
  | word hc hbody =>
      right
      rw [isWord, hown, Bool.and_eq_true, List.all_eq_true]
      exact ⟨hc, hbody⟩

theorem upper_punctuation {c : Char} (hc : isPunctuation c = true) :
    Text.upper (String.ofList [c]) = String.ofList [c] := by
  have hall : ['=', '(', ')', ',', '+', '-'].all
      (fun c => Text.upper (String.ofList [c]) == String.ofList [c]) = true := by
    decide +kernel
  exact eq_of_beq (of_isPunctuation hall hc)

theorem startsLineBreak_of_visible {c a : Char} (rest : List Char)
    (ha : isWhiteSpace a = false) : startsLineBreak (c :: a :: rest) = (c == '\n') := by
  unfold startsLineBreak
  split
  · next h =>
      cases h
      rfl
  · next h =>
      cases h
      cases ha
  · next hfeed _ =>
      symm
      rw [beq_eq_false_iff_ne]
      rintro rfl
      exact hfeed _ rfl

theorem blankLength_append_of_visible (own : List Char) {a b : Char} (rest rest' : List Char)
    (ha : isWhiteSpace a = false) (hb : isWhiteSpace b = false) :
    blankLength (own ++ a :: rest) = blankLength (own ++ b :: rest') := by
  induction own with
  | nil => simp [blankLength, ha, hb]
  | cons c own ih =>
      have hbreak : startsLineBreak (c :: (own ++ a :: rest)) =
          startsLineBreak (c :: (own ++ b :: rest')) := by
        cases own with
        | nil =>
            rw [List.nil_append, List.nil_append, startsLineBreak_of_visible rest ha,
              startsLineBreak_of_visible rest' hb]
        | cons y own => exact startsLineBreak_cons_congr rfl
      rw [List.cons_append, List.cons_append, blankLength, blankLength, hbreak, ih]

theorem isWhiteSpace_of_isAlphabetic {c : Char} (hc : isAlphabetic c = true) :
    isWhiteSpace c = false := by
  rw [← Bool.not_eq_true]
  intro hblank
  rw [Text.isAlphabetic_of_isWhiteSpace hblank] at hc
  cases hc

/-- Two texts that no lexeme in front of them can tell apart: they begin with the same
character or each with a word. -/
structure Alike (cs cs' : List Char) : Prop where
  head : cs'.head? = cs.head? ∧ startsLineBreak cs' = startsLineBreak cs ∨
    (∃ c ∈ cs.head?, isAlphabetic c = true) ∧ ∃ c ∈ cs'.head?, isAlphabetic c = true
  quote : '"' ∈ cs' → '"' ∈ cs

theorem Alike.startsLineBreak_cons (h : Alike tail tail') (c : Char) :
    startsLineBreak (c :: tail') = startsLineBreak (c :: tail) := by
  rcases h.head with ⟨hhead, -⟩ | ⟨⟨a, ha, halpha⟩, b, hb, hbeta⟩
  · exact startsLineBreak_cons_congr hhead
  · obtain ⟨rest, rfl⟩ := List.head?_eq_some_iff.mp ha
    obtain ⟨rest', rfl⟩ := List.head?_eq_some_iff.mp hb
    rw [startsLineBreak_of_visible rest (isWhiteSpace_of_isAlphabetic halpha),
      startsLineBreak_of_visible rest' (isWhiteSpace_of_isAlphabetic hbeta)]

theorem Alike.append_left (h : Alike tail tail') {own : List Char} (hne : own ≠ []) :
    Alike (own ++ tail) (own ++ tail') := by
  cases own with
  | nil => exact absurd rfl hne
  | cons c body =>
      refine ⟨.inl ⟨rfl, ?_⟩, ?_⟩
      · cases body with
        | nil => exact h.startsLineBreak_cons c
        | cons y body => exact startsLineBreak_cons_congr rfl
      · rw [List.mem_append, List.mem_append]
        exact Or.imp_right h.quote

theorem Alike.append_words (h : Alike tail tail') {word word' : String}
    (hword : isWord word = true) (hword' : isWord word' = true) :
    Alike (word.toList ++ tail) (word'.toList ++ tail') := by
  obtain ⟨c, body, hown, hc, -⟩ := exists_cons_of_isWord hword
  obtain ⟨c', body', hown', hc', -⟩ := exists_cons_of_isWord hword'
  refine ⟨.inr ⟨⟨c, by simp [hown], hc⟩, c', by simp [hown'], hc'⟩, ?_⟩
  intro hmem
  rcases List.mem_append.mp hmem with hmem | hmem
  · exact absurd hmem (not_mem_of_isWord hword' (by decide))
  · exact List.mem_append_right _ (h.quote hmem)

theorem Alike.append (h : Alike tail tail') (hx : x.Respells text) (hne : x.text ≠ "") :
    Alike (x.text.toList ++ tail) (text.toList ++ tail') := by
  rcases hx with rfl | ⟨-, hword, hword', -⟩
  · exact h.append_left fun hown => hne (String.toList_inj.mp hown)
  · exact h.append_words hword hword'

theorem Cut.of_alike {own : List Char} (h : Cut d kind own tail) (htail : Alike tail tail') :
    Cut d kind own tail' := by
  have hhead : ∀ c ∈ tail'.head?, c ∈ tail.head? ∨
      isAlphabetic c = true ∧ ∃ a ∈ tail.head?, isAlphabetic a = true := by
    intro c hc
    rcases htail.head with ⟨hhead, -⟩ | ⟨ha, b, hb, hbeta⟩
    · exact .inl (hhead ▸ hc)
    · obtain rfl := Option.mem_unique hc hb
      exact .inr ⟨hbeta, ha⟩
  cases h with
  | number hc hbody hend =>
      refine .number hc hbody fun c hmem => ?_
      rcases hhead c hmem with hmem | ⟨hc, -⟩
      · exact hend c hmem
      · exact Text.isDigit_of_isAlphabetic hc
  | text hinner => exact .text hinner
  | punctuation hc => exact .punctuation hc
  | word hc hbody hkind hend =>
      refine .word hc hbody hkind fun c hmem => ?_
      rcases hhead c hmem with hmem | ⟨-, a, ha, halpha⟩
      · exact hend c hmem
      · have hcontinues := hend a ha
        rw [continuesWord, halpha] at hcontinues
        cases hcontinues
  | lineFeed => exact .lineFeed
  | returnFeed => exact .returnFeed
  | @space c body tail h =>
      apply Cut.space
      rcases htail.head with ⟨hhead, hbreak⟩ | ⟨⟨a, ha, halpha⟩, b, hb, hbeta⟩
      · have hblank : blankLength ((c :: body) ++ tail) = (c :: body).length := h
        exact blankLength_append_congr hhead hbreak hblank
      · obtain ⟨rest, rfl⟩ := List.head?_eq_some_iff.mp ha
        obtain ⟨rest', rfl⟩ := List.head?_eq_some_iff.mp hb
        rw [← h]
        exact blankLength_append_of_visible (c :: body) rest' rest
          (isWhiteSpace_of_isAlphabetic hbeta) (isWhiteSpace_of_isAlphabetic halpha)
  | comment hinner => exact .comment hinner
  | lastComment hinner =>
      rcases htail.head with ⟨hhead, -⟩ | ⟨⟨a, ha, -⟩, -⟩
      · rw [List.head?_eq_none_iff.mp hhead]
        exact .lastComment hinner
      · cases ha
  | unknown hdigit hpunctuation halphabetic hblank hquote hslash =>
      refine .unknown hdigit hpunctuation halphabetic hblank ?_ ?_
      · intro hc hmem
        exact hquote hc (htail.quote hmem)
      · intro hc hmem
        rcases hhead '/' hmem with hmem | ⟨hslash', -⟩
        · exact hslash hc hmem
        · cases hslash'

theorem Cut.respelled (h : Cut d x.kind x.text.toList tail) (hx : x.Respells text)
    (htail : Alike tail tail') : Cut d x.kind text.toList tail' := by
  rcases hx with rfl | ⟨-, hword, hword', hupper⟩
  · exact h.of_alike htail
  · obtain ⟨c, body, hown, hc, hbody⟩ := exists_cons_of_isWord hword
    obtain ⟨c', body', hown', hc', hbody'⟩ := exists_cons_of_isWord hword'
    have hcut : Cut d x.kind (c :: body) tail' := by
      rw [← hown]
      exact h.of_alike htail
    obtain ⟨hkind, hend⟩ := hcut.word_inv hc hbody
    have hkind' : wordKind d (c :: body) = wordKind d (c' :: body') := by
      rw [wordKind, wordKind, ← hown, ← hown', String.ofList_toList, String.ofList_toList,
        hupper]
      rfl
    rw [hown']
    exact .word hc' hbody' (hkind.trans hkind') hend

theorem lexemes_respelled {texts : List String}
    (h : List.Forall₂ Lexeme.Respells (lexemes d cs) texts) :
    Alike cs (texts.flatMap String.toList) ∧
      List.Forall₂ Lexeme.SpelledAs (lexemes d cs) (lexemes d (texts.flatMap String.toList)) := by
  generalize hxs : lexemes d cs = xs at h ⊢
  induction xs generalizing cs texts with
  | nil =>
      obtain rfl := List.forall₂_nil_left_iff.mp h
      obtain rfl := eq_nil_of_lexemes hxs
      rw [List.flatMap_nil, hxs]
      exact ⟨⟨.inl ⟨rfl, rfl⟩, id⟩, .nil⟩
  | cons x xs ih =>
      obtain ⟨text, texts, hx, hrest, rfl⟩ := List.forall₂_cons_left_iff.mp h
      obtain ⟨tail, rfl, hcut, htail⟩ := exists_cut_of_lexemes hxs
      obtain ⟨halike, hlexemes⟩ := ih htail hrest
      have hne : x.text ≠ "" := by
        intro hempty
        obtain ⟨c, body, hown, -⟩ := hcut.first
        rw [hempty] at hown
        cases hown
      rw [List.flatMap_cons]
      refine ⟨halike.append hx hne, ?_⟩
      rw [(hcut.respelled hx halike).lexemes, String.ofList_toList]
      exact .cons ⟨rfl, hx⟩ hlexemes

end Scan

/-- The same token in another spelling. It may have another offset. -/
structure Token.SpelledAs (t u : Token) : Prop where
  lexeme : t.toLexeme.SpelledAs u.toLexeme
  line : u.line = t.line

theorem Scan.place_respelled {xs ys : List Lexeme} (h : List.Forall₂ Lexeme.SpelledAs xs ys)
    (offset offset' line : Nat) :
    List.Forall₂ Token.SpelledAs (place offset line xs) (place offset' line ys) := by
  induction h generalizing offset offset' line with
  | nil => exact .cons ⟨⟨rfl, .inl rfl⟩, rfl⟩ .nil
  | @cons x y xs ys hxy _ ih =>
      have hcount : y.text.toList.count '\n' = x.text.toList.count '\n' := by
        rcases hxy.text with htext | ⟨-, hword, hword', -⟩
        · rw [htext]
        · rw [List.count_eq_zero.mpr (not_mem_of_isWord hword (by decide)),
            List.count_eq_zero.mpr (not_mem_of_isWord hword' (by decide))]
      rw [place, place, hcount]
      exact .cons ⟨hxy, rfl⟩ (ih _ _ _)

/-- The causes of faults, apart from what they cite. -/
inductive FaultKind where
  | nameTooLong
  | alreadyDefined
  | undefinedName
  | numberOutOfRange
  | unbalanced
  | moduleAlreadyOpen
  | unexpected
deriving DecidableEq, Repr

def Fault.kind : Fault → FaultKind
  | .nameTooLong _ _ => .nameTooLong
  | .alreadyDefined _ => .alreadyDefined
  | .undefinedName _ => .undefinedName
  | .numberOutOfRange _ _ => .numberOutOfRange
  | .unbalanced _ => .unbalanced
  | .moduleAlreadyOpen _ => .moduleAlreadyOpen
  | .unexpected _ _ => .unexpected

/-- The same code, or faults of one kind on the same line. -/
inductive SameOutcome : Except Diagnostic String → Except Diagnostic String → Prop where
  | code (output : String) : SameOutcome (.ok output) (.ok output)
  | fault {e e' : Diagnostic} (hkind : e'.fault.kind = e.fault.kind) (hline : e'.line = e.line) :
      SameOutcome (.error e) (.error e')

theorem SameOutcome.refl (outcome : Except Diagnostic String) : SameOutcome outcome outcome := by
  cases outcome with
  | error e => exact .fault rfl rfl
  | ok output => exact .code output

/-- Two steps that are one and the same, or are refused for a cause of one kind. -/
def SameStep {M : Type} (r r' : Except Fault Unit × M) : Prop :=
  r' = r ∨ ∃ fault fault', r.1 = .error fault ∧ r'.1 = .error fault' ∧
    fault'.kind = fault.kind

namespace Reader

variable {M : Type} {R : Reader M}

theorem feed_of_step {m m' : M} {t : Token} {r : Except Fault Unit} (ht : t.isTrivia = false)
    (h : R.step (R.atLine m t.line) t.toLexeme = (r, m')) :
    R.feed m t = (r.mapError (⟨·, t.line⟩), m') := by
  rw [feed, if_neg (by simp [ht]), h]
  cases r with
  | error fault => rfl
  | ok _ => rfl

/-- Readers whose steps do not depend on the spelling come to the same end. -/
theorem sameOutcome_of_spelledAs {ts us : List Token}
    (hstep : ∀ m x y, Lexeme.SpelledAs x y → SameStep (R.step m x) (R.step m y))
    (h : List.Forall₂ Token.SpelledAs ts us) (m : M) :
    SameOutcome (R.compile m ts) (R.compile m us) := by
  induction h generalizing m with
  | nil => exact .refl _
  | @cons t u ts us htu _ ih =>
      obtain ⟨y, offset, line⟩ := u
      obtain ⟨hlexeme, rfl⟩ := htu
      cases ht : t.isTrivia with
      | true =>
          have hy : y.isTrivia = true := hlexeme.isTrivia.trans ht
          have hfeed : R.feed m t = (.ok (), R.atLine m t.line) := if_pos ht
          have hfeed' : R.feed m ⟨y, offset, t.line⟩ = (.ok (), R.atLine m t.line) := if_pos hy
          rw [compile_cons_of_ok hfeed, compile_cons_of_ok hfeed']
          exact ih _
      | false =>
          have hy : y.isTrivia = false := hlexeme.isTrivia.trans ht
          rcases hr : R.step (R.atLine m t.line) t.toLexeme with ⟨r, m₁⟩
          rcases hr' : R.step (R.atLine m t.line) y with ⟨r', m₂⟩
          have hsame := hstep (R.atLine m t.line) _ _ hlexeme
          rw [hr, hr'] at hsame
          have hfeed := feed_of_step ht hr
          have hfeed' : R.feed m ⟨y, offset, t.line⟩ = _ := feed_of_step hy hr'
          rcases hsame with hsame | ⟨fault, fault', rfl, rfl, hkind⟩
          · obtain ⟨rfl, rfl⟩ := Prod.mk.inj hsame
            rcases r' with fault | ⟨⟩
            · rw [compile_cons_of_error hfeed, compile_cons_of_error hfeed']
              exact .fault rfl rfl
            · rw [compile_cons_of_ok hfeed, compile_cons_of_ok hfeed']
              exact ih _
          · rw [compile_cons_of_error hfeed, compile_cons_of_error hfeed']
            exact .fault hkind rfl

end Reader

theorem Program.Phase.next?_respelled (k : Keywords) (phase : Phase) {x y : Lexeme}
    (h : x.SpelledAs y) : phase.next? k y = phase.next? k x := by
  by_cases hkind : x.kind = .name ∨ x.kind = .operator
  · unfold Phase.next?
    rw [h.kind, h.word]
    rcases hkind with hkind | hkind <;> rw [hkind] <;> cases phase <;> rfl
  · rw [not_or] at hkind
    rw [h.eq hkind.1 hkind.2]

theorem Program.Machine.step_respelled (d : Dialect) (m : Machine) {x y : Lexeme}
    (h : x.SpelledAs y) : SameStep (m.step d x) (m.step d y) := by
  have hnext := m.phase.next?_respelled d.keywords h
  cases hx : m.phase.next? d.keywords x with
  | none =>
      rw [hx] at hnext
      rw [step_of_next?_none hx, step_of_next?_none hnext]
      exact .inr ⟨_, _, rfl, rfl, rfl⟩
  | some move =>
      left
      rw [step, step, Phase.transition, Phase.transition, hnext, hx]

namespace Expression

variable {x y : Lexeme}

theorem operatorOf?_respelled (h : x.SpelledAs y) : operatorOf? y = operatorOf? x := by
  unfold operatorOf?
  rw [h.kind, h.word]

theorem operandOf_respelled (d : Dialect) (s : Scopes) (h : x.SpelledAs y) :
    operandOf d s y = operandOf d s x ∨
      ∃ found found', operandOf d s x = .error (.unexpected .operand found) ∧
        operandOf d s y = .error (.unexpected .operand found') := by
  by_cases hname : x.kind = .name
  · left
    unfold operandOf
    rw [h.kind, hname, h.word]
  · by_cases hoperator : x.kind = .operator
    · right
      refine ⟨x.describe, y.describe, ?_, ?_⟩
      · rw [operandOf, hoperator]
      · rw [operandOf, h.kind, hoperator]
    · left
      rw [h.eq hname hoperator]

namespace Machine

theorem stepOperand_respelled (d : Dialect) (s : Scopes) (m : Machine) (h : x.SpelledAs y) :
    SameStep (m.stepOperand d s x) (m.stepOperand d s y) := by
  unfold stepOperand
  rw [operatorOf?_respelled h]
  cases operatorOf? x with
  | some op =>
      cases op with
      | openGroup => exact .inl rfl
      | cond => exact .inl rfl
      | _ => exact .inr ⟨_, _, rfl, rfl, rfl⟩
  | none =>
      rcases operandOf_respelled d s h with hoperand | ⟨found, found', hx, hy⟩
      · rw [hoperand]
        exact .inl rfl
      · rw [hx, hy]
        exact .inr ⟨_, _, rfl, rfl, rfl⟩

theorem stepOperator_respelled (d : Dialect) (m : Machine) (h : x.SpelledAs y) :
    SameStep (m.stepOperator d x) (m.stepOperator d y) := by
  unfold stepOperator
  rw [operatorOf?_respelled h]
  cases operatorOf? x with
  | some op =>
      cases op with
      | openGroup => exact .inr ⟨_, _, rfl, rfl, rfl⟩
      | cond => exact .inr ⟨_, _, rfl, rfl, rfl⟩
      | _ => exact .inl rfl
  | none => exact .inr ⟨_, _, rfl, rfl, rfl⟩

theorem step_respelled (d : Dialect) (s : Scopes) (m : Machine) (h : x.SpelledAs y) :
    SameStep (m.step d s x) (m.step d s y) := by
  unfold step
  split
  · exact .inr ⟨_, _, rfl, rfl, rfl⟩
  · split
    · exact stepOperand_respelled d s m h
    · exact stepOperator_respelled d m h

end Machine

end Expression

/-- Words may be written in any case. Replacing words of a source by words with the same
upper-case form keeps the kind, the line and the upper-case form of every token, and the
source compiles to the same code or fails for a cause of the same kind on the same line. -/
theorem compile_respelled (d : Dialect) (mode : Mode) (s : String) (texts : List String)
    (h : List.Forall₂ Lexeme.Respells (Scan.lexemes d s.toList) texts) :
    List.Forall₂ (fun t t' => t'.kind = t.kind ∧ t'.line = t.line ∧ t'.word = t.word)
        (Scan.tokens d s) (Scan.tokens d (String.join texts)) ∧
      SameOutcome (compile d mode s) (compile d mode (String.join texts)) := by
  have htokens : List.Forall₂ Token.SpelledAs (Scan.tokens d s)
      (Scan.tokens d (String.join texts)) := by
    rw [Scan.tokens, Scan.tokens, String.toList_join]
    exact Scan.place_respelled (Scan.lexemes_respelled h).2 0 0 1
  constructor
  · exact htokens.imp fun t t' htt' => ⟨htt'.lexeme.kind, htt'.line, htt'.lexeme.word⟩
  · cases mode with
    | module =>
        change SameOutcome (compileProgram d s) (compileProgram d (String.join texts))
        rw [compileProgram_eq, compileProgram_eq]
        apply Reader.sameOutcome_of_spelledAs _ htokens
        intro m x y hxy
        exact Program.Machine.step_respelled d m hxy
    | expression =>
        change SameOutcome (compileExpression d s) (compileExpression d (String.join texts))
        rw [compileExpression_eq, compileExpression_eq]
        apply Reader.sameOutcome_of_spelledAs _ htokens
        intro m x y hxy
        exact Expression.Machine.step_respelled d {} m hxy

/-- The name of the function has two letters in upper case, however many it is written with.
The text and the comment keep theirs. -/
theorem compile_respelled_sharp :
    let s := "модуль м пусть ß(н) = ss(Н, \"Aa\") старт ß // ß"
    let texts := ["МОДУЛЬ", " ", "М", " ", "Пусть", " ", "sS", "(", "н", ")", " ", "=", " ",
      "ſs", "(", "н", ",", " ", "\"Aa\"", ")", " ", "СТАРТ", " ", "Ss", " ", "// ß"]
    let output := "const m_М = function () \x7b\n" ++
      "  const m_SS = (m_Н) => (m_SS(m_Н,m_ТЕКСТ(\"Aa\")));\n  return m_SS;\n\x7d();\n"
    List.Forall₂ Lexeme.Respells (Scan.lexemes .standard s.toList) texts ∧
      List.Forall₂ (fun t t' => t'.kind = t.kind ∧ t'.line = t.line ∧ t'.word = t.word)
        (Scan.tokens .standard s) (Scan.tokens .standard (String.join texts)) ∧
      compile .standard .module s = .ok output ∧
      SameOutcome (.ok output) (compile .standard .module (String.join texts)) := by
  intro s texts output
  have htexts : List.Forall₂ Lexeme.Respells (Scan.lexemes .standard s.toList) texts := by
    decide +kernel
  have houtput : compile .standard .module s = .ok output := by decide +kernel
  obtain ⟨htokens, hsame⟩ := compile_respelled .standard .module s texts htexts
  rw [houtput] at hsame
  exact ⟨htexts, htokens, houtput, hsame⟩

/-- Texts are not words: their case is kept. -/
example : compile .standard .expression "\"a\"" ≠ compile .standard .expression "\"A\"" := by
  decide +kernel

end KeywordLang
