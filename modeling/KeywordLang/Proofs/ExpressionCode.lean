import KeywordLang.Proofs.FragmentReading
import KeywordLang.Proofs.FrontEndAgreement
import KeywordLang.Proofs.LetterCase

/-!
The code of an expression can be read back. Brackets show where operators and groups begin and
end; only a name that is a left operand may run into the word of its operator and into a number
behind that. It is told apart by the character at which this run ends.
-/

namespace KeywordLang

section LeadingZeros

/-- Digits without the zeros in front of them. -/
def withoutZeros (digits : List Char) : List Char :=
  digits.dropWhile (· = '0')

theorem ofDigitChars_concat (digits : List Char) (c : Char) :
    Nat.ofDigitChars 10 (digits ++ [c]) 0 =
      10 * Nat.ofDigitChars 10 digits 0 + Code.digitValue c := by
  rw [Nat.ofDigitChars_append, Nat.ofDigitChars_cons]
  rfl

theorem digitValue_inj {c c' : Char} (hc : c.isDigit = true) (hc' : c'.isDigit = true)
    (h : Code.digitValue c = Code.digitValue c') : c = c' := by
  have hwritten := (Code.digitValue_of_isDigit hc).2
  rw [h, (Code.digitValue_of_isDigit hc').2] at hwritten
  exact (List.singleton_inj.mp hwritten).symm

theorem withoutZeros_eq_nil_of_value {digits : List Char} (h : ∀ c ∈ digits, c.isDigit = true)
    (hzero : Nat.ofDigitChars 10 digits 0 = 0) : withoutZeros digits = [] := by
  induction digits using List.reverseRecOn with
  | nil => rfl
  | append_singleton digits c ih =>
      rw [List.forall_mem_append, List.forall_mem_singleton] at h
      rw [ofDigitChars_concat] at hzero
      have hc : c = '0' := digitValue_inj h.2 rfl (by change _ = 0; omega)
      have hdigits := ih h.1 (by omega)
      rw [withoutZeros] at hdigits ⊢
      rw [List.dropWhile_append, hdigits, hc]
      rfl

theorem value_eq_iff_withoutZeros_eq {digits digits' : List Char}
    (h : ∀ c ∈ digits, c.isDigit = true) (h' : ∀ c ∈ digits', c.isDigit = true) :
    Nat.ofDigitChars 10 digits 0 = Nat.ofDigitChars 10 digits' 0 ↔
      withoutZeros digits = withoutZeros digits' := by
  constructor
  · intro hvalue
    induction digits using List.reverseRecOn generalizing digits' with
    | nil => exact (withoutZeros_eq_nil_of_value h' hvalue.symm).symm
    | append_singleton digits c ih =>
        rcases List.eq_nil_or_concat digits' with rfl | ⟨digits', c', rfl⟩
        · exact withoutZeros_eq_nil_of_value h hvalue
        · rw [List.concat_eq_append] at h' hvalue ⊢
          rw [List.forall_mem_append, List.forall_mem_singleton] at h h'
          rw [ofDigitChars_concat, ofDigitChars_concat] at hvalue
          have hc := (Code.digitValue_of_isDigit h.2).1
          have hc' := (Code.digitValue_of_isDigit h'.2).1
          have hlast : c = c' := digitValue_inj h.2 h'.2 (by omega)
          have hdigits := ih h.1 h'.1 (by omega)
          rw [withoutZeros, withoutZeros] at hdigits ⊢
          rw [List.dropWhile_append, List.dropWhile_append, hdigits, hlast]
  · intro hzeros
    have hvalue (digits : List Char) :
        Nat.ofDigitChars 10 (withoutZeros digits) 0 = Nat.ofDigitChars 10 digits 0 := by
      induction digits with
      | nil => rfl
      | cons c digits ih =>
          rw [withoutZeros, List.dropWhile_cons]
          split
          · next hc =>
              rw [decide_eq_true_eq] at hc
              rw [hc, Nat.ofDigitChars_cons]
              exact ih
          · rfl
    rw [← hvalue digits, hzeros, hvalue]

end LeadingZeros

/-- Lexemes that are equal up to the case of words and the leading zeros of numbers. -/
inductive Lexeme.Matches : Lexeme → Lexeme → Prop where
  | spelled {x y : Lexeme} (h : x.SpelledAs y) : Matches x y
  | number {text text' : String} (h : withoutZeros text.toList = withoutZeros text'.toList) :
      Matches ⟨.number, text⟩ ⟨.number, text'⟩

namespace Expression

section Reading

variable {d : Dialect} {s : Scopes} {x y : Lexeme} {a b : Entry} {tail tail' : List Char}
  {text text' : String} {xs ys : List Lexeme} {w : List Entry}

theorem value_of_check {value : Nat} (hcut : Scan.Cut d .number text.toList tail)
    (h : Numeral.check d text = .ok value) :
    (∀ c ∈ text.toList, c.isDigit = true) ∧ Nat.ofDigitChars 10 text.toList 0 = value := by
  obtain ⟨c, body, hown, hc, hbody⟩ := hcut.exists_number
  have hdigits : ∀ c ∈ text.toList, c.isDigit = true := by
    rw [hown]
    exact List.forall_mem_cons.mpr ⟨hc, hbody⟩
  have hplus : c ≠ '+' := by
    rintro rfl
    cases hc
  have hread : Text.Decimal.read? text = Text.Decimal.readDigits? text.toList := by
    unfold Text.Decimal.read?
    split
    · next digits hplus' =>
        rw [hown] at hplus'
        exact absurd (List.cons_eq_cons.mp hplus').1 hplus
    · rfl
  unfold Numeral.check at h
  split at h
  · next value' hvalue =>
      rw [hread, Text.Decimal.readDigits?_eq_some_iff] at hvalue
      split at h
      · cases h
        exact ⟨hdigits, hvalue.2.2⟩
      · cases h
  · cases h

theorem respells_operator (hx : Scan.Cut d .operator text.toList tail)
    (hy : Scan.Cut d .operator text'.toList tail') (h : Text.upper text' = Text.upper text) :
    Lexeme.Respells ⟨.operator, text⟩ text' := by
  -- The upper-case form of a word has characters of names only.
  have hapart {word : String} {c : Char} (hword : isWord word = true)
      (hc : Scan.isPunctuation c = true) : Text.upper word ≠ Text.upper (String.ofList [c]) := by
    intro heq
    rw [Scan.upper_punctuation hc] at heq
    have hmem : c ∈ (Text.upper word).toList := by simp [heq]
    have hname := Scan.of_isPunctuation (p := fun c => !Code.isNameChar c) (by decide) hc
    rw [Code.isNameChar_of_mem_upper (continuesWord_of_isWord hword) hmem] at hname
    cases hname
  rcases hx.operator_cases with ⟨c, hc, rfl⟩ | hword
  · rcases hy.operator_cases with ⟨c', hc', rfl⟩ | hword'
    · left
      rwa [Scan.upper_punctuation hc, Scan.upper_punctuation hc'] at h
    · exact absurd h (hapart hword' hc)
  · rcases hy.operator_cases with ⟨c', hc', rfl⟩ | hword'
    · exact absurd h.symm (hapart hword hc')
    · exact .inr ⟨.inr rfl, hword, hword', h⟩

theorem Reads.matches (hx : Scan.Cut d x.kind x.text.toList tail)
    (hy : Scan.Cut d y.kind y.text.toList tail') (h : Reads d s x a) (h' : Reads d s y a) :
    x.Matches y := by
  cases h with
  | number hcheck =>
      cases h' with
      | number hcheck' =>
          obtain ⟨hdigits, hvalue⟩ := value_of_check hx hcheck
          obtain ⟨hdigits', hvalue'⟩ := value_of_check hy hcheck'
          refine .number ((value_eq_iff_withoutZeros_eq hdigits hdigits').mp ?_)
          rw [hvalue, hvalue']
  | @name text _ hresolve =>
      generalize ha : Entry.operand (.symbol (Text.upper text)) = a at h'
      cases h' with
      | @name text' _ hresolve' =>
          simp only [Entry.operand.injEq, Expr.symbol.injEq] at ha
          exact .spelled ⟨rfl, .inr ⟨.inl rfl, hx.isWord_of_name, hy.isWord_of_name, ha.symm⟩⟩
      | _ => cases ha
  | text literal =>
      cases h' with
      | text literal => exact .spelled ⟨rfl, .inl rfl⟩
  | operator htext hend =>
      cases h' with
      | operator htext' hend' =>
          exact .spelled ⟨rfl, respells_operator hx hy (htext'.trans htext.symm)⟩

theorem Reads.eq_of_matches (hx : Scan.Cut d x.kind x.text.toList tail)
    (hy : Scan.Cut d y.kind y.text.toList tail') (h : Reads d s x a) (h' : Reads d s y b)
    (hmatches : x.Matches y) : a = b := by
  cases hmatches with
  | number hzeros =>
      cases h with
      | number hcheck =>
          cases h' with
          | number hcheck' =>
              obtain ⟨hdigits, rfl⟩ := value_of_check hx hcheck
              obtain ⟨hdigits', rfl⟩ := value_of_check hy hcheck'
              rw [(value_eq_iff_withoutZeros_eq hdigits hdigits').mpr hzeros]
  | spelled hspelled =>
      have hkind := hspelled.kind
      have hword := hspelled.word
      cases h with
      | number hcheck =>
          obtain rfl := hspelled.eq (by simp) (by simp)
          cases h' with
          | number hcheck' =>
              rw [hcheck, Except.ok.injEq] at hcheck'
              rw [hcheck']
      | name hresolve =>
          cases h' with
          | name hresolve' =>
              simp only [Lexeme.word] at hword
              rw [hword]
          | _ => cases hkind
      | text literal =>
          obtain rfl := hspelled.eq (by simp) (by simp)
          cases h' with
          | text literal => rfl
      | @operator text op htext hend =>
          cases h' with
          | @operator text' op' htext' hend' =>
              simp only [Lexeme.word] at hword
              have hop := Operator.ofWord?_eq_some_iff.mpr ⟨htext, hend⟩
              have hop' := Operator.ofWord?_eq_some_iff.mpr ⟨htext', hend'⟩
              rw [hword, hop, Option.some.injEq] at hop'
              rw [hop']
          | _ => cases hkind

end Reading

end Expression

namespace Code

/-- The name at the beginning of code that goes on with an operator and its right operand. The
name is followed by punctuation, or by the word of the operator, which other characters of names
follow only if the right operand is a number. -/
def leftName (cs : List Char) : List Char :=
  let run := cs.takeWhile isNameChar
  match (cs.dropWhile isNameChar).head? with
  | some ']' => (stem run).rdrop 3
  | some 'm' | some '[' | some 's' => run.rdrop 3
  | _ => run

theorem takeWhile_isNameChar {run : List Char} {c : Char} (rest : List Char)
    (hrun : ∀ x ∈ run, isNameChar x = true) (hc : isNameChar c = false) :
    (run ++ c :: rest).takeWhile isNameChar = run ∧
      (run ++ c :: rest).dropWhile isNameChar = c :: rest := by
  rw [List.takeWhile_append_of_pos hrun, List.dropWhile_append_of_pos hrun]
  simp [hc]

/-- The character that tells what an expression begins with, digits being all alike. -/
def openingOf (c : Char) : Option Char :=
  if c.isDigit then none else some c

end Code

namespace Expression

/-- An expression whose names and texts are as scanning finds them. -/
def Expr.Legible : Expr → Prop
  | .number _ => True
  | .symbol name => Code.IsName name
  | .text literal => ∃ inner, literal = String.ofList ('"' :: (inner ++ ['"'])) ∧ '"' ∉ inner
  | .group inner => inner.Legible
  | .binary op left right => op.isBinary = true ∧ left.Legible ∧ right.Legible
  | .select cond yes no => cond.Legible ∧ yes.Legible ∧ no.Legible

def Expr.chars (e : Expr) : List Char :=
  (e.render .standard).toList

section Chars

variable (op : Operator) (left right inner cond yes no : Expr)

theorem Expr.chars_number (value : Nat) : (number value).chars = Nat.toDigits 10 value :=
  String.toList_ofList

theorem Expr.chars_symbol (name : String) : (symbol name).chars = "m_".toList ++ name.toList :=
  Fragment.chars_symbol name

theorem Expr.chars_text (literal : String) : (text literal).chars =
    "m_".toList ++ ("ТЕКСТ".toList ++ '(' :: (literal.toList ++ [')'])) := by
  simp [chars, render, Code.textCall, Code.symbol, Dialect.standard]

theorem Expr.chars_group : (group inner).chars = '[' :: '(' :: (inner.chars ++ [')', ']']) := by
  simp [chars, render]

theorem Expr.chars_binary : (binary op left right).chars =
    '[' :: (left.chars ++ (op.text.toList ++ (right.chars ++ [']']))) := by
  simp [chars, render]

theorem Expr.chars_select : (select cond yes no).chars =
    "select((".toList ++ (cond.chars ++ ')' :: ',' :: '(' ::
      (yes.chars ++ ')' :: ',' :: '(' :: (no.chars ++ [')', ')']))) := by
  simp [chars, render, Code.selectCall, Dialect.standard]

end Chars

/-- What the code of an expression begins with, if not with a digit. -/
def Expr.opening : Expr → Option Char
  | .number _ => none
  | .symbol _ | .text _ => some 'm'
  | .group _ | .binary _ _ _ => some '['
  | .select _ _ _ => some 's'

theorem Expr.exists_chars (e : Expr) :
    ∃ c body, e.chars = c :: body ∧ Code.openingOf c = e.opening := by
  cases e with
  | number value =>
      obtain ⟨c, body, hdigits⟩ :=
        List.exists_cons_of_ne_nil (Nat.toDigits_ne_nil (n := value) (b := 10))
      have hc : c ∈ Nat.toDigits 10 value := by
        rw [hdigits]
        exact List.mem_cons_self
      exact ⟨c, body, (chars_number value).trans hdigits,
        if_pos (Code.isDigit_of_mem_toDigits hc)⟩
  | symbol name => exact ⟨'m', _, chars_symbol name, rfl⟩
  | text literal => exact ⟨'m', _, chars_text literal, rfl⟩
  | group inner => exact ⟨'[', _, chars_group inner, rfl⟩
  | binary op left right => exact ⟨'[', _, chars_binary op left right, rfl⟩
  | select cond yes no => exact ⟨'s', _, chars_select cond yes no, rfl⟩

theorem Expr.opening_eq {e e' : Expr} {rest rest' : List Char}
    (h : e.chars ++ rest = e'.chars ++ rest') : e.opening = e'.opening := by
  obtain ⟨c, body, hchars, hc⟩ := e.exists_chars
  obtain ⟨c', body', hchars', hc'⟩ := e'.exists_chars
  rw [hchars, hchars', List.cons_append, List.cons_append] at h
  rw [← hc, ← hc', (List.cons_eq_cons.mp h).1]

/-- Code that cannot be taken for a part of an expression in front of it. -/
def Expr.EndsBefore : Expr → List Char → Prop
  | .number _, rest => ∀ c ∈ rest.head?, c.isDigit = false
  | .symbol _, rest => ∀ c ∈ rest.head?, Code.isNameChar c = false ∧ c ≠ '('
  | _, _ => True

theorem Expr.endsBefore_closing (e : Expr) {c : Char} (rest : List Char)
    (hc : c = ']' ∨ c = ')') : e.EndsBefore (c :: rest) := by
  cases e with
  | number value =>
      rintro x ⟨⟩
      rcases hc with rfl | rfl <;> rfl
  | symbol name =>
      rintro x ⟨⟩
      rcases hc with rfl | rfl <;> decide
  | _ => trivial

/-- The binary operator whose text begins with a character. -/
def Operator.ofFirst? : Char → Option Operator
  | 'R' => some .run
  | 'L' => some .bind
  | '=' => some .assign
  | ',' => some .comma
  | '+' => some .plus
  | '-' => some .minus
  | _ => none

theorem Operator.exists_text {op : Operator} (h : op.isBinary = true) :
    ∃ c body, op.text.toList = c :: body ∧ ofFirst? c = some op ∧ c.isDigit = false := by
  cases op with
  | run => exact ⟨'R', _, rfl, rfl, rfl⟩
  | bind => exact ⟨'L', _, rfl, rfl, rfl⟩
  | assign => exact ⟨'=', _, rfl, rfl, rfl⟩
  | comma => exact ⟨',', _, rfl, rfl, rfl⟩
  | plus => exact ⟨'+', _, rfl, rfl, rfl⟩
  | minus => exact ⟨'-', _, rfl, rfl, rfl⟩
  | _ => cases h

theorem Operator.text_append_inj {op op' : Operator} {rest rest' : List Char}
    (hop : op.isBinary = true) (hop' : op'.isBinary = true)
    (h : op.text.toList ++ rest = op'.text.toList ++ rest') : op = op' ∧ rest = rest' := by
  obtain ⟨c, body, htext, hc, -⟩ := exists_text hop
  obtain ⟨c', body', htext', hc', -⟩ := exists_text hop'
  have heq : op = op' := by
    rw [htext, htext', List.cons_append, List.cons_append] at h
    rw [(List.cons_eq_cons.mp h).1, hc', Option.some.injEq] at hc
    exact hc.symm
  subst heq
  exact ⟨rfl, List.append_cancel_left h⟩

theorem Expr.endsBefore_operator {e : Expr} {op : Operator} (hop : op.isBinary = true)
    (he : ∀ name, e ≠ .symbol name) (rest : List Char) :
    e.EndsBefore (op.text.toList ++ rest) := by
  cases e with
  | number value =>
      obtain ⟨c, body, htext, -, hdigit⟩ := Operator.exists_text hop
      rw [htext]
      rintro x ⟨⟩
      exact hdigit
  | symbol name => exact absurd rfl (he name)
  | _ => trivial

theorem Operator.text_cases {op : Operator} (h : op.isBinary = true) :
    (∃ c ∈ ['=', ',', '+', '-'], op.text.toList = [c]) ∨
      op.text.toList ∈ [['R', 'U', 'N'], ['L', 'E', 'T']] := by
  cases op with
  | run => exact .inr (by decide)
  | bind => exact .inr (by decide)
  | assign => exact .inl ⟨'=', by decide, rfl⟩
  | comma => exact .inl ⟨',', by decide, rfl⟩
  | plus => exact .inl ⟨'+', by decide, rfl⟩
  | minus => exact .inl ⟨'-', by decide, rfl⟩
  | _ => cases h

theorem stem_append_word {cs word : List Char} (h : word ∈ [['R', 'U', 'N'], ['L', 'E', 'T']]) :
    Code.stem (cs ++ word) = cs ++ word := by
  simp only [List.mem_cons, List.not_mem_nil, or_false] at h
  rcases h with rfl | rfl <;> simp [Code.stem, List.rdropWhile]

/-- The name in front of an operator and its right operand can be read off the whole. -/
theorem leftName_append {name : String} {op : Operator} (right : Expr) (rest : List Char)
    (hname : Code.IsName name) (hop : op.isBinary = true) :
    Code.leftName (name.toList ++ (op.text.toList ++ (right.chars ++ ']' :: rest))) =
        name.toList ∧
      ((name.toList ++ (op.text.toList ++ (right.chars ++ ']' :: rest))).dropWhile
        Code.isNameChar).head? ≠ some '(' := by
  rcases Operator.text_cases hop with ⟨c, hc, htext⟩ | hword
  · have hmark : ['=', ',', '+', '-'].all (fun c => !Code.isNameChar c) = true := by decide
    have hend : Code.isNameChar c = false := by simpa using List.all_eq_true.mp hmark c hc
    obtain ⟨htake, hdrop⟩ :=
      Code.takeWhile_isNameChar (right.chars ++ ']' :: rest) hname hend
    rw [htext, List.singleton_append, Code.leftName, htake, hdrop]
    simp only [List.mem_cons, List.not_mem_nil, or_false] at hc
    rcases hc with rfl | rfl | rfl | rfl <;> exact ⟨rfl, by simp⟩
  · have hwords : [['R', 'U', 'N'], ['L', 'E', 'T']].all
        (fun word => word.length == 3 && word.all Code.isNameChar) = true := by decide
    have hletters := List.all_eq_true.mp hwords _ hword
    rw [Bool.and_eq_true, beq_iff_eq, List.all_eq_true] at hletters
    obtain ⟨hlength, hletters⟩ := hletters
    have hrun : ∀ c ∈ name.toList ++ op.text.toList, Code.isNameChar c = true :=
      List.forall_mem_append.mpr ⟨hname, hletters⟩
    have hrdrop : (name.toList ++ op.text.toList).rdrop 3 = name.toList := by
      rw [← hlength, List.rdrop_append_length]
    by_cases hnumber : ∃ value, right = .number value
    · obtain ⟨value, rfl⟩ := hnumber
      have hdigits : ∀ c ∈ (Expr.number value).chars, c.isDigit = true := by
        rw [Expr.chars_number]
        exact fun c => Code.isDigit_of_mem_toDigits
      have hall := List.forall_mem_append.mpr
        ⟨hrun, fun c hc => Code.isNameChar_of_isDigit (hdigits c hc)⟩
      obtain ⟨htake, hdrop⟩ :=
        Code.takeWhile_isNameChar (c := ']') rest hall (by decide)
      rw [← List.append_assoc, ← List.append_assoc, Code.leftName, htake, hdrop]
      refine ⟨?_, by simp⟩
      change (Code.stem _).rdrop 3 = _
      rw [Code.stem_append hdigits, stem_append_word hword, hrdrop]
    · obtain ⟨c, body, hchars, hc⟩ := right.exists_chars
      have hopening : c = 'm' ∨ c = '[' ∨ c = 's' := by
        unfold Code.openingOf at hc
        cases right with
        | number value => exact absurd ⟨value, rfl⟩ hnumber
        | symbol name => exact .inl (Option.some.inj (Option.ite_none_left_eq_some.mp hc).2)
        | text literal => exact .inl (Option.some.inj (Option.ite_none_left_eq_some.mp hc).2)
        | group inner =>
            exact .inr (.inl (Option.some.inj (Option.ite_none_left_eq_some.mp hc).2))
        | binary op left right =>
            exact .inr (.inl (Option.some.inj (Option.ite_none_left_eq_some.mp hc).2))
        | select cond yes no =>
            exact .inr (.inr (Option.some.inj (Option.ite_none_left_eq_some.mp hc).2))
      have hend : Code.isNameChar c = false := by
        rcases hopening with rfl | rfl | rfl <;> decide
      obtain ⟨htake, hdrop⟩ :=
        Code.takeWhile_isNameChar (body ++ ']' :: rest) hrun hend
      rw [← List.append_assoc, hchars, List.cons_append, Code.leftName, htake, hdrop]
      rcases hopening with rfl | rfl | rfl <;> exact ⟨hrdrop, by simp⟩

section Injectivity

variable {rest rest' : List Char}

theorem number_append_inj {value value' : Nat} (hrest : (Expr.number value).EndsBefore rest)
    (hrest' : (Expr.number value').EndsBefore rest')
    (h : (Expr.number value).chars ++ rest = (Expr.number value').chars ++ rest') :
    value = value' ∧ rest = rest' := by
  rw [Expr.chars_number, Expr.chars_number] at h
  obtain ⟨hdigits, hrest⟩ := append_inj_of_span (fun c => Code.isDigit_of_mem_toDigits)
    (fun c => Code.isDigit_of_mem_toDigits) hrest hrest' h
  refine ⟨?_, hrest⟩
  rw [← Nat.ofDigitChars_toDigits (b := 10) (n := value) (by omega) (by omega), hdigits,
    Nat.ofDigitChars_toDigits (by omega) (by omega)]

theorem symbol_append_inj {name name' : String} (hname : Code.IsName name)
    (hname' : Code.IsName name') (hrest : (Expr.symbol name).EndsBefore rest)
    (hrest' : (Expr.symbol name').EndsBefore rest')
    (h : (Expr.symbol name).chars ++ rest = (Expr.symbol name').chars ++ rest') :
    name = name' ∧ rest = rest' := by
  rw [Expr.chars_symbol, Expr.chars_symbol, List.append_assoc, List.append_assoc] at h
  obtain ⟨hchars, hrest⟩ := append_inj_of_span hname hname' (fun c hc => (hrest c hc).1)
    (fun c hc => (hrest' c hc).1) (List.append_cancel_left h)
  exact ⟨String.toList_inj.mp hchars, hrest⟩

theorem text_append_inj {literal literal' : String} (hliteral : (Expr.text literal).Legible)
    (hliteral' : (Expr.text literal').Legible)
    (h : (Expr.text literal).chars ++ rest = (Expr.text literal').chars ++ rest') :
    literal = literal' ∧ rest = rest' := by
  obtain ⟨inner, rfl, hinner⟩ := hliteral
  obtain ⟨inner', rfl, hinner'⟩ := hliteral'
  rw [Expr.chars_text, Expr.chars_text] at h
  simp only [String.toList_ofList, List.append_assoc, List.cons_append, List.nil_append] at h
  have hafter := List.append_cancel_left (List.append_cancel_left h)
  simp only [List.cons.injEq, true_and] at hafter
  have hplain {cs : List Char} (hcs : '"' ∉ cs) : ∀ c ∈ cs, decide (c ≠ '"') = true := by
    intro c hc
    rw [decide_eq_true_eq]
    rintro rfl
    exact hcs hc
  obtain ⟨rfl, hend⟩ := append_inj_of_span (hplain hinner) (hplain hinner') (by simp) (by simp)
    hafter
  simp only [List.cons.injEq, true_and] at hend
  exact ⟨rfl, hend⟩

/-- Only a name that is followed by a parenthesis could be taken for a text. -/
theorem head?_of_symbol_eq_text {name literal : String}
    (h : (Expr.symbol name).chars ++ rest = (Expr.text literal).chars ++ rest') :
    ((name.toList ++ rest).dropWhile Code.isNameChar).head? = some '(' := by
  rw [Expr.chars_symbol, Expr.chars_text, List.append_assoc, List.append_assoc] at h
  rw [List.append_cancel_left h, List.append_assoc, List.cons_append]
  have hconstructor : "ТЕКСТ".toList.all Code.isNameChar = true := by decide
  rw [(Code.takeWhile_isNameChar _ (List.all_eq_true.mp hconstructor) (by decide)).2]
  rfl

theorem symbol_append_ne_text {name literal : String} (hname : Code.IsName name)
    (hrest : (Expr.symbol name).EndsBefore rest) :
    (Expr.symbol name).chars ++ rest ≠ (Expr.text literal).chars ++ rest' := by
  intro h
  have hhead := head?_of_symbol_eq_text h
  rw [List.dropWhile_append_of_pos hname] at hhead
  cases rest with
  | nil => cases hhead
  | cons c rest =>
      obtain ⟨hend, hparen⟩ := hrest c rfl
      rw [List.dropWhile_cons_of_neg (by simp [hend])] at hhead
      exact hparen (Option.some.inj hhead)

/-- The operands of a binary expression and its operator can be told apart. For a left operand
that is no name this is what is known of it already. -/
theorem operands_append_inj {op op' : Operator} {left left' right right' : Expr}
    (hop : op.isBinary = true) (hop' : op'.isBinary = true) (hleft : left.Legible)
    (hleft' : left'.Legible)
    (ih : ∀ {rest rest'}, left.EndsBefore rest → left'.EndsBefore rest' →
      left.chars ++ rest = left'.chars ++ rest' → left = left' ∧ rest = rest')
    (h : left.chars ++ (op.text.toList ++ (right.chars ++ ']' :: rest)) =
      left'.chars ++ (op'.text.toList ++ (right'.chars ++ ']' :: rest'))) :
    left = left' ∧ op = op' ∧ right.chars ++ ']' :: rest = right'.chars ++ ']' :: rest' := by
  have hopening := Expr.opening_eq h
  have hsplit : left = left' ∧ op.text.toList ++ (right.chars ++ ']' :: rest) =
      op'.text.toList ++ (right'.chars ++ ']' :: rest') := by
    by_cases hsymbol : ∃ name, left = .symbol name
    · obtain ⟨name, rfl⟩ := hsymbol
      obtain ⟨hname, hparen⟩ := leftName_append right rest hleft hop
      cases left' with
      | symbol name' =>
          obtain ⟨hname', -⟩ := leftName_append right' rest' hleft' hop'
          rw [Expr.chars_symbol, Expr.chars_symbol, List.append_assoc, List.append_assoc] at h
          have hnames := List.append_cancel_left h
          rw [hnames, hname'] at hname
          rw [hname] at hnames
          exact ⟨congrArg _ (String.toList_inj.mp hname.symm), List.append_cancel_left hnames⟩
      | text literal => exact absurd (head?_of_symbol_eq_text h) hparen
      | _ => exact absurd hopening (by simp [Expr.opening])
    · by_cases hsymbol' : ∃ name, left' = .symbol name
      · obtain ⟨name', rfl⟩ := hsymbol'
        obtain ⟨-, hparen⟩ := leftName_append right' rest' hleft' hop'
        cases left with
        | symbol name => exact absurd ⟨name, rfl⟩ hsymbol
        | text literal => exact absurd (head?_of_symbol_eq_text h.symm) hparen
        | _ => exact absurd hopening (by simp [Expr.opening])
      · exact ih (Expr.endsBefore_operator hop (not_exists.mp hsymbol) _)
          (Expr.endsBefore_operator hop' (not_exists.mp hsymbol') _) h
  exact ⟨hsplit.1, Operator.text_append_inj hop hop' hsplit.2⟩

theorem group_append_ne_binary {inner left right : Expr} {op : Operator} :
    (Expr.group inner).chars ++ rest ≠ (Expr.binary op left right).chars ++ rest' := by
  intro h
  rw [Expr.chars_group, Expr.chars_binary] at h
  obtain ⟨c, body, hchars, hc⟩ := left.exists_chars
  rw [hchars] at h
  simp only [List.cons_append, List.cons.injEq, true_and] at h
  rw [← h.1] at hc
  cases left <;> cases hc

/-- Expressions that are followed by something else can be told apart. -/
theorem Expr.chars_append_inj {e e' : Expr} (he : e.Legible) (he' : e'.Legible)
    (hrest : e.EndsBefore rest) (hrest' : e'.EndsBefore rest')
    (h : e.chars ++ rest = e'.chars ++ rest') : e = e' ∧ rest = rest' := by
  induction e generalizing e' rest rest' with
  | number value =>
      have hopening := opening_eq h
      cases e' with
      | number value' =>
          obtain ⟨rfl, hrest⟩ := number_append_inj hrest hrest' h
          exact ⟨rfl, hrest⟩
      | _ => exact absurd hopening (by simp [opening])
  | symbol name =>
      have hopening := opening_eq h
      cases e' with
      | symbol name' =>
          obtain ⟨rfl, hrest⟩ := symbol_append_inj he he' hrest hrest' h
          exact ⟨rfl, hrest⟩
      | text literal => exact absurd h (symbol_append_ne_text he hrest)
      | _ => exact absurd hopening (by simp [opening])
  | text literal =>
      have hopening := opening_eq h
      cases e' with
      | symbol name' => exact absurd h.symm (symbol_append_ne_text he' hrest')
      | text literal' =>
          obtain ⟨rfl, hrest⟩ := text_append_inj he he' h
          exact ⟨rfl, hrest⟩
      | _ => exact absurd hopening (by simp [opening])
  | group inner ih =>
      have hopening := opening_eq h
      cases e' with
      | group inner' =>
          rw [chars_group, chars_group] at h
          simp only [List.cons_append, List.append_assoc, List.cons.injEq, true_and,
            List.nil_append] at h
          have hinner' : inner'.Legible := he'
          obtain ⟨rfl, hend⟩ := ih he hinner' (inner.endsBefore_closing _ (.inr rfl))
            (inner'.endsBefore_closing _ (.inr rfl)) h
          simp only [List.cons.injEq, true_and] at hend
          exact ⟨rfl, hend⟩
      | binary op left right => exact absurd h group_append_ne_binary
      | _ => exact absurd hopening (by simp [opening])
  | binary op left right ihLeft ihRight =>
      have hopening := opening_eq h
      cases e' with
      | group inner' => exact absurd h.symm group_append_ne_binary
      | binary op' left' right' =>
          obtain ⟨hop, hleft, hright⟩ := he
          obtain ⟨hop', hleft', hright'⟩ := he'
          rw [chars_binary, chars_binary] at h
          simp only [List.cons_append, List.append_assoc, List.cons.injEq, true_and,
            List.nil_append] at h
          obtain ⟨rfl, rfl, hoperand⟩ := operands_append_inj hop hop' hleft hleft'
            (ihLeft hleft hleft') h
          obtain ⟨rfl, hend⟩ := ihRight hright hright' (right.endsBefore_closing _ (.inl rfl))
            (right'.endsBefore_closing _ (.inl rfl)) hoperand
          exact ⟨rfl, (List.cons_eq_cons.mp hend).2⟩
      | _ => exact absurd hopening (by simp [opening])
  | select cond yes no ihCond ihYes ihNo =>
      have hopening := opening_eq h
      cases e' with
      | select cond' yes' no' =>
          obtain ⟨hcond, hyes, hno⟩ := he
          obtain ⟨hcond', hyes', hno'⟩ := he'
          rw [chars_select, chars_select] at h
          simp only [List.append_assoc, List.cons_append, List.nil_append] at h
          have hfirst := List.append_cancel_left h
          obtain ⟨rfl, hsecond⟩ := ihCond hcond hcond' (cond.endsBefore_closing _ (.inr rfl))
            (cond'.endsBefore_closing _ (.inr rfl)) hfirst
          simp only [List.cons.injEq, true_and] at hsecond
          obtain ⟨rfl, hthird⟩ := ihYes hyes hyes' (yes.endsBefore_closing _ (.inr rfl))
            (yes'.endsBefore_closing _ (.inr rfl)) hsecond
          simp only [List.cons.injEq, true_and] at hthird
          obtain ⟨rfl, hend⟩ := ihNo hno hno' (no.endsBefore_closing _ (.inr rfl))
            (no'.endsBefore_closing _ (.inr rfl)) hthird
          simp only [List.cons.injEq, true_and] at hend
          exact ⟨rfl, hend⟩
      | _ => exact absurd hopening (by simp [opening])

end Injectivity

theorem Expr.render_inj {e e' : Expr} (he : e.Legible) (he' : e'.Legible)
    (h : e.render .standard = e'.render .standard) : e = e' := by
  have hends (e : Expr) : e.EndsBefore [] := by
    cases e with
    | number value => exact nofun
    | symbol name => exact nofun
    | _ => trivial
  have hchars : e.chars ++ [] = e'.chars ++ [] := by rw [chars, h, chars]
  exact (chars_append_inj he he' (hends e) (hends e') hchars).1

theorem Expr.render_congr {d d' : Dialect} (hsymbols : d.namePrefix = d'.namePrefix)
    (htext : d.textConstructor = d'.textConstructor) (hselector : d.selector = d'.selector)
    (e : Expr) : e.render d = e.render d' := by
  have hsymbol (name : String) : Code.symbol d name = Code.symbol d' name := by
    rw [Code.symbol, hsymbols, Code.symbol]
  induction e with
  | number value => rfl
  | symbol name => exact hsymbol name
  | text literal => simp only [render, Code.textCall, htext, hsymbol]
  | group inner ih => rw [render, ih, render]
  | binary op left right ihLeft ihRight => rw [render, ihLeft, ihRight, render]
  | select cond yes no ihCond ihYes ihNo =>
      rw [render, ihCond, ihYes, ihNo, render, Code.selectCall, hselector, Code.selectCall]

section Sources

variable {d : Dialect} {s : Scopes} {x : Lexeme} {e : Expr} {tail : List Char}
  {xs ys : List Lexeme} {w v : List Entry}

theorem Reads.legible (hx : Scan.Cut d x.kind x.text.toList tail)
    (h : Reads d s x (.operand e)) : e.Legible := by
  cases h with
  | number hcheck => trivial
  | name hresolve =>
      intro c hc
      exact Code.isNameChar_of_mem_upper (continuesWord_of_isWord hx.isWord_of_name) hc
  | text literal =>
      obtain ⟨inner, hliteral, hinner⟩ := hx.exists_text
      refine ⟨inner, ?_, hinner⟩
      rw [← hliteral, String.ofList_toList]

theorem Expr.Grouped.legible (he : e.Grouped) (h : ∀ x, .operand x ∈ e.yield → x.Legible) :
    e.Legible := by
  induction e with
  | number value => exact h _ List.mem_cons_self
  | symbol name => exact h _ List.mem_cons_self
  | text literal => exact h _ List.mem_cons_self
  | group inner ih =>
      refine ih he.1 fun x hx => h x ?_
      simp [yield, hx]
  | binary op left right ihLeft ihRight =>
      obtain ⟨hop, hleft, hright, -⟩ := he
      refine ⟨hop, ihLeft hleft fun x hx => h x ?_, ihRight hright fun x hx => h x ?_⟩
      · simp [yield, hx]
      · simp [yield, hx]
  | select cond yes no ihCond ihYes ihNo =>
      obtain ⟨hcond, hyes, hno, -⟩ := he
      refine ⟨ihCond hcond fun x hx => h x ?_, ihYes hyes fun x hx => h x ?_,
        ihNo hno fun x hx => h x ?_⟩
      · simp [yield, hx]
      · simp [yield, hx]
      · simp [yield, hx]

/-- Of scanned lexemes, two lists stand for the same word exactly if they match. -/
theorem eq_iff_matches (hxs : ∀ x ∈ xs, ∃ tail, Scan.Cut d x.kind x.text.toList tail)
    (hys : ∀ y ∈ ys, ∃ tail, Scan.Cut d y.kind y.text.toList tail)
    (h : List.Forall₂ (Reads d s) xs w) (h' : List.Forall₂ (Reads d s) ys v) :
    w = v ↔ List.Forall₂ Lexeme.Matches xs ys := by
  induction h generalizing ys v with
  | nil =>
      cases h' with
      | nil => exact iff_of_true rfl .nil
      | cons _ _ => exact iff_of_false nofun nofun
  | cons hread _ ih =>
      cases h' with
      | nil => exact iff_of_false nofun nofun
      | cons hread' hrest' =>
          obtain ⟨⟨tail, hx⟩, hxs⟩ := List.forall_mem_cons.mp hxs
          obtain ⟨⟨tail', hy⟩, hys⟩ := List.forall_mem_cons.mp hys
          rw [List.forall₂_cons, List.cons.injEq, ih hxs hys hrest']
          refine and_congr_left' ⟨?_, hread.eq_of_matches hx hy hread'⟩
          rintro rfl
          exact hread.matches hx hy hread'

end Sources

end Expression

/-- Expressions have the same code exactly if they have the same lexemes up to the case of
words and the leading zeros of numbers, layout apart. -/
theorem compileExpression_eq_iff_matches {d : Dialect} {source source' output output' : String}
    (hsymbols : d.namePrefix = Dialect.standard.namePrefix)
    (htext : d.textConstructor = Dialect.standard.textConstructor)
    (hselector : d.selector = Dialect.standard.selector)
    (h : compileExpression d source = .ok output)
    (h' : compileExpression d source' = .ok output') :
    output = output' ↔
      List.Forall₂ Lexeme.Matches (Scan.content d source.toList)
        (Scan.content d source'.toList) := by
  have hcut (cs : List Char) :
      ∀ x ∈ Scan.content d cs, ∃ tail, Scan.Cut d x.kind x.text.toList tail :=
    fun x hx => Scan.exists_cut_of_mem_lexemes (List.mem_of_mem_filter hx)
  have hlegible {cs : List Char} {e : Expression.Expr} (hgrouped : e.Grouped)
      (hreads : List.Forall₂ (Expression.Reads d {}) (Scan.content d cs) e.yield) :
      e.Legible := by
    refine hgrouped.legible fun x hx => ?_
    obtain ⟨y, hy, hread⟩ := Expression.exists_reads_of_mem hreads hx
    obtain ⟨tail, hcut⟩ := hcut cs y hy
    exact hread.legible hcut
  obtain ⟨e, hgrouped, hreads, rfl⟩ := Expression.exists_tree_of_compileExpression h
  obtain ⟨e', hgrouped', hreads', rfl⟩ := Expression.exists_tree_of_compileExpression h'
  rw [← Expression.eq_iff_matches (hcut _) (hcut _) hreads hreads',
    e.render_congr hsymbols htext hselector, e'.render_congr hsymbols htext hselector]
  constructor
  · intro hcode
    rw [Expression.Expr.render_inj (hlegible hgrouped hreads) (hlegible hgrouped' hreads') hcode]
  · intro hyield
    rw [Expression.Expr.IsTreeOf.unique ⟨hgrouped', hyield.symm⟩ ⟨hgrouped, rfl⟩]

/-- The digit behind the operator does not become a part of the name in front of it. -/
theorem compileExpression_eq_iff_matches_zeros :
    let d := { Dialect.standard with builtins := ["A", "ALET", "B"] }
    let code := "[[m_ALET1]RUNm_B]"
    compileExpression d "a let 01 run b" = .ok code ∧
      compileExpression d "A LET 1\nRun B" = .ok code ∧
      List.Forall₂ Lexeme.Matches (Scan.content d "a let 01 run b".toList)
        (Scan.content d "A LET 1\nRun B".toList) := by
  intro d code
  have hcompiled : compileExpression d "a let 01 run b" = .ok code := by decide +kernel
  have hcompiled' : compileExpression d "A LET 1\nRun B" = .ok code := by decide +kernel
  refine ⟨hcompiled, hcompiled', ?_⟩
  exact (compileExpression_eq_iff_matches (d := d) rfl rfl rfl hcompiled hcompiled').mp rfl

end KeywordLang
