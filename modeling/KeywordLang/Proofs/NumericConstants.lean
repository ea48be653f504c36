import KeywordLang.Proofs.ExpressionCode
import KeywordLang.Proofs.ProgramAcceptance
import KeywordLang.Proofs.ProgramAtomicity
import KeywordLang.Proofs.ProgramDeclarations
import KeywordLang.Proofs.TokenPlaces
import Mathlib.Data.Nat.Digits.Defs

/-!
Numeric constants count by their exact value, however many digits they have. Programs and
expressions write an accepted constant in the same way, as the digits of its value with no zeros
in front, and these are scanned and accepted as the same constant again.
-/

namespace KeywordLang

namespace Numeral

/-- The value of a string of digits, without a bound. -/
def decimalValue (digits : List Char) : Nat :=
  Nat.ofDigits 10 (digits.reverse.map Code.digitValue)

/-- Whether a text is a number: any number of digits, behind at most one plus sign. -/
def Denotes (text : String) (value : Nat) : Prop :=
  ∃ sign digits, text.toList = sign ++ digits ∧ (sign = [] ∨ sign = ['+']) ∧ digits ≠ [] ∧
    (∀ c ∈ digits, c.isDigit = true) ∧ decimalValue digits = value

/-- Whether a value fits into a word of 32 bits and into the range of the dialect, which holds
nothing if it is inverted. -/
def Admits (d : Dialect) (value : Nat) : Prop :=
  value ≤ 2 ^ 32 - 1 ∧ d.numberRange.min ≤ value ∧ value ≤ d.numberRange.max

theorem decimalValue_eq (digits : List Char) :
    decimalValue digits = Nat.ofDigitChars 10 digits 0 := by
  induction digits using List.reverseRecOn with
  | nil => rfl
  | append_singleton digits c ih =>
      rw [ofDigitChars_concat, ← ih, decimalValue, decimalValue, List.reverse_append,
        List.reverse_singleton, List.singleton_append, List.map_cons, Nat.ofDigits_cons,
        Nat.add_comm]

theorem readDigits?_eq_some_iff {digits : List Char} {value : Nat} :
    Text.Decimal.readDigits? digits = some value ↔
      digits ≠ [] ∧ (∀ c ∈ digits, c.isDigit = true) ∧ decimalValue digits = value := by
  rw [Text.Decimal.readDigits?_eq_some_iff, decimalValue_eq]

theorem read?_eq_some_iff {text : String} {value : Nat} :
    Text.Decimal.read? text = some value ↔ Denotes text value := by
  unfold Text.Decimal.read?
  split
  · next digits htext =>
      rw [readDigits?_eq_some_iff]
      constructor
      · rintro ⟨hne, hdigits, hvalue⟩
        exact ⟨['+'], digits, htext, .inr rfl, hne, hdigits, hvalue⟩
      · rintro ⟨sign, digits', hsplit, rfl | rfl, hne, hdigits, hvalue⟩
        · rw [htext] at hsplit
          have hplus := hdigits '+' (by rw [← List.nil_append digits', ← hsplit]; simp)
          cases hplus
        · rw [htext] at hsplit
          obtain rfl : digits = digits' := (List.cons_eq_cons.mp hsplit).2
          exact ⟨hne, hdigits, hvalue⟩
  · next hplus =>
      rw [readDigits?_eq_some_iff]
      constructor
      · rintro ⟨hne, hdigits, hvalue⟩
        exact ⟨[], text.toList, rfl, .inl rfl, hne, hdigits, hvalue⟩
      · rintro ⟨sign, digits, hsplit, rfl | rfl, hne, hdigits, hvalue⟩
        · rw [hsplit]
          exact ⟨hne, hdigits, hvalue⟩
        · exact absurd hsplit (hplus digits)

theorem admits_iff {d : Dialect} {value : Nat} :
    Admits d value ↔ value < wordCount && d.numberRange.contains value := by
  have hword : value ≤ 2 ^ 32 - 1 ↔ value < wordCount := by
    rw [wordCount]
    omega
  rw [Admits, hword, NumberRange.contains]
  simp only [Bool.and_eq_true, decide_eq_true_eq]

theorem check_eq_ok_iff {d : Dialect} {text : String} {value : Nat} :
    check d text = .ok value ↔ Denotes text value ∧ Admits d value := by
  rw [← read?_eq_some_iff, admits_iff]
  unfold check
  cases Text.Decimal.read? text with
  | none => simp
  | some v =>
      rw [Option.some.injEq]
      change (if (v < wordCount && d.numberRange.contains v) = true then _ else _) = _ ↔ _
      split
      · next hadmits =>
          rw [Except.ok.injEq]
          constructor
          · rintro rfl
            exact ⟨rfl, hadmits⟩
          · exact fun h => h.1
      · next hadmits =>
          refine iff_of_false nofun ?_
          rintro ⟨rfl, h⟩
          exact hadmits h

theorem check_of_not_exists {d : Dialect} {text : String}
    (h : ¬ ∃ value, Denotes text value ∧ Admits d value) :
    check d text = .error (.numberOutOfRange text d.numberRange) := by
  cases hcheck : check d text with
  | ok value => exact absurd ⟨value, check_eq_ok_iff.mp hcheck⟩ h
  | error fault => rw [check_eq_error hcheck]

end Numeral

section Canonical

/-- The digits of a value with no zero in front of them. -/
structure Canonical (code : String) (value : Nat) : Prop where
  digits : code ≠ "" ∧ ∀ c ∈ code.toList, c.isDigit = true
  value : Numeral.decimalValue code.toList = value
  leading : code.toList.head? = some '0' → code = "0"

theorem toList_write (value : Nat) :
    (Text.Decimal.write value).toList = Nat.toDigits 10 value :=
  String.toList_ofList

theorem eq_zero_of_head?_toDigits (value : Nat)
    (h : (Nat.toDigits 10 value).head? = some '0') : value = 0 := by
  induction value using Nat.strongRecOn with
  | ind value ih =>
      by_cases hvalue : value < 10
      · rw [Nat.toDigits_of_lt_base hvalue] at h
        interval_cases value
        · rfl
        all_goals cases h
      · rw [Nat.toDigits_of_base_le (by omega) (by omega),
          List.head?_append_of_ne_nil _ Nat.toDigits_ne_nil] at h
        have hdiv := ih (value / 10) (by omega) h
        omega

theorem canonical_write (value : Nat) : Canonical (Text.Decimal.write value) value where
  digits := by
    constructor
    · intro hempty
      have htoList := congrArg String.toList hempty
      rw [toList_write] at htoList
      exact Nat.toDigits_ne_nil htoList
    · intro c hc
      rw [toList_write] at hc
      exact Code.isDigit_of_mem_toDigits hc
  value := by
    rw [toList_write, Numeral.decimalValue_eq, Nat.ofDigitChars_ten_toDigits]
  leading := by
    intro hhead
    rw [toList_write] at hhead
    rw [eq_zero_of_head?_toDigits value hhead]
    rfl

theorem Canonical.denotes {code : String} {value : Nat} (h : Canonical code value) :
    Numeral.Denotes code value := by
  refine ⟨[], code.toList, rfl, .inl rfl, ?_, h.digits.2, h.value⟩
  rw [ne_eq, String.toList_eq_nil_iff]
  exact h.digits.1

theorem Canonical.cut {code : String} {value : Nat} (h : Canonical code value) (d : Dialect) :
    Scan.Cut d .number code.toList [] := by
  cases hcode : code.toList with
  | nil => exact absurd (String.toList_eq_nil_iff.mp hcode) h.digits.1
  | cons c body =>
      have hdigits := h.digits.2
      rw [hcode, List.forall_mem_cons] at hdigits
      exact .number hdigits.1 hdigits.2 nofun

end Canonical

section Machines

variable {d : Dialect} {t : Token}

theorem isTrivia_of_number (ht : t.kind = .number) : t.isTrivia = false := by
  rw [Lexeme.isTrivia, ht]

theorem Program.Phase.next?_number {k : Keywords} {phase : Phase} {x : Lexeme}
    (hx : x.kind = .number) :
    phase.next? k x = if phase = .body then some (.body, some (.number x.text)) else none := by
  obtain ⟨kind, text⟩ := x
  obtain rfl : kind = .number := hx
  cases phase with
  | body => rfl
  | _ => rfl

theorem Program.Machine.feed_number (ht : t.kind = .number) {m m' : Machine} :
    m.feed d t = (.ok (), m') ↔ m.phase = .body ∧ ∃ value, Numeral.check d t.text = .ok value ∧
      m' = { m with line := t.line, code := m.code.push (.number value) } := by
  rw [feed_eq_ok_iff (isTrivia_of_number ht)]
  have hnext : m.phase.next? d.keywords t.toLexeme = _ := Phase.next?_number ht
  by_cases hphase : m.phase = .body
  · rw [if_pos hphase] at hnext
    rw [step_eq_ok_iff_act (m := { m with line := t.line }) hnext, and_iff_right hphase]
    simp only [act_number_eq_ok_iff]
    constructor
    · rintro ⟨_, ⟨value, hcheck, rfl⟩, rfl⟩
      exact ⟨value, hcheck, by rw [emit, hphase]⟩
    · rintro ⟨value, hcheck, rfl⟩
      exact ⟨_, ⟨value, hcheck, rfl⟩, by rw [emit, hphase]⟩
  · rw [if_neg hphase] at hnext
    rw [step_of_next?_none (m := { m with line := t.line }) hnext]
    simp [hphase]

theorem Expression.Machine.feed_number (ht : t.kind = .number) {s : Scopes} {m m' : Machine} :
    m.feed d s t = (.ok (), m') ↔ (m.done = false ∧ m.side = .operand) ∧
      ∃ value, Numeral.check d t.text = .ok value ∧
        m' = { m with line := t.line, stack := .operand (.number value) :: m.stack,
                      side := .operator } := by
  obtain ⟨⟨kind, text⟩, offset, line⟩ := t
  obtain rfl : kind = .number := ht
  obtain ⟨stack, side, brackets, line', done⟩ := m
  cases done with
  | true =>
      constructor
      · intro h
        cases h
      · rintro ⟨⟨hdone, -⟩, -⟩
        cases hdone
  | false =>
      cases side with
      | operand =>
          rw [and_iff_right ⟨rfl, rfl⟩]
          cases hcheck : Numeral.check d text with
          | error fault =>
              simp [feed, Lexeme.isTrivia, step, stepOperand, operatorOf?, operandOf, hcheck,
                Except.map]
          | ok value =>
              simp [feed, Lexeme.isTrivia, step, stepOperand, operatorOf?, operandOf, hcheck,
                Except.map, push, eq_comm]
      | operator =>
          constructor
          · intro h
            cases h
          · rintro ⟨⟨-, hside⟩, -⟩
            cases hside

end Machines

section Output

variable {d : Dialect} {t : Token} {value : Nat}

theorem Program.Machine.exists_code_of_step {m m' : Machine} {x : Lexeme}
    (h : m.step d x = (.ok (), m')) :
    ∃ fragments, m'.code.toList = m.code.toList ++ fragments := by
  rcases step_cases h with ⟨next, -, rfl⟩ | ⟨next, action, s, f, -, -, rfl⟩
  · exact ⟨[], (List.append_nil _).symm⟩
  · exact ⟨[f], by rw [moved, Array.toList_push]⟩

theorem Program.Machine.exists_code_of_feed {m m' : Machine}
    (h : m.feed d t = (.ok (), m')) :
    ∃ fragments, m'.code.toList = m.code.toList ++ fragments := by
  cases ht : t.isTrivia with
  | true =>
      rw [feed_of_isTrivia ht] at h
      cases h
      exact ⟨[], (List.append_nil _).symm⟩
  | false => exact exists_code_of_step (m := { m with line := t.line }) ((feed_eq_ok_iff ht).mp h)

theorem Program.Machine.exists_code_of_run {ts : List Token} {m m' : Machine}
    (h : m.run d ts = .ok m') : ∃ fragments, m'.code.toList = m.code.toList ++ fragments := by
  induction ts using List.reverseRecOn generalizing m' with
  | nil =>
      cases h
      exact ⟨[], (List.append_nil _).symm⟩
  | append_singleton ts t ih =>
      obtain ⟨m₁, hrun, hfeed⟩ := run_concat_eq_ok_iff.mp h
      obtain ⟨before, hbefore⟩ := ih hrun
      obtain ⟨behind, hbehind⟩ := exists_code_of_feed hfeed
      exact ⟨before ++ behind, by rw [hbehind, hbefore, List.append_assoc]⟩

theorem Program.Machine.exists_output {ts : List Token} {m : Machine} {output : String}
    (h : (m.run d ts >>= finish d) = .ok output) :
    ∃ behind, output = Code.render d m.code.toList ++ behind := by
  obtain ⟨m', hrun, hfinish⟩ := bind_eq_ok_iff.mp h
  obtain ⟨fragments, hcode⟩ := exists_code_of_run hrun
  rw [finish] at hfinish
  split at hfinish
  · cases hfinish
    exact ⟨Code.render d fragments, by rw [hcode, Code.render_append]⟩
  · cases hfinish

/-- A code that is a part of another. -/
def Code.Contains (whole part : String) : Prop :=
  ∃ before behind, whole = before ++ part ++ behind

theorem Code.Contains.around {whole part : String} (before behind : String)
    (h : Contains whole part) : Contains (before ++ whole ++ behind) part := by
  obtain ⟨left, right, rfl⟩ := h
  refine ⟨before ++ left, right ++ behind, ?_⟩
  simp only [String.append_assoc]

theorem Expression.Expr.contains_of_mem_yield {e operand : Expr}
    (h : .operand operand ∈ e.yield) : Code.Contains (e.render d) (operand.render d) := by
  induction e with
  | group inner ih =>
      have hinner : .operand operand ∈ inner.yield := by simpa [yield] using h
      exact (ih hinner).around "[(" ")]"
  | binary op left right ihLeft ihRight =>
      have hside : .operand operand ∈ left.yield ∨ .operand operand ∈ right.yield := by
        simpa [yield] using h
      rcases hside with hleft | hright
      · have hcode := (ihLeft hleft).around "[" (op.text ++ right.render d ++ "]")
        simpa only [render, String.append_assoc] using hcode
      · exact (ihRight hright).around ("[" ++ left.render d ++ op.text) "]"
  | select cond yes no ihCond ihYes ihNo =>
      have hpart : .operand operand ∈ cond.yield ∨ .operand operand ∈ yes.yield ∨
          .operand operand ∈ no.yield := by
        simpa [yield] using h
      rcases hpart with hcond | hyes | hno
      · have hcode := (ihCond hcond).around (d.selector ++ "((")
          ("),(" ++ yes.render d ++ "),(" ++ no.render d ++ "))")
        simpa only [render, Code.selectCall, String.append_assoc] using hcode
      · have hcode := (ihYes hyes).around (d.selector ++ "((" ++ cond.render d ++ "),(")
          ("),(" ++ no.render d ++ "))")
        simpa only [render, Code.selectCall, String.append_assoc] using hcode
      · exact (ihNo hno).around
          (d.selector ++ "((" ++ cond.render d ++ "),(" ++ yes.render d ++ "),(") "))"
  | _ =>
      cases List.mem_singleton.mp h
      exact ⟨"", "", by simp⟩

/-- The code for a token, wherever it is taken. A body gains just this code, and the code of
the program has it in that place. In an expression it is the operand, the code of the
expression contains it, and it is all of that code if there is nothing else. -/
structure WrittenAsNumber (d : Dialect) (t : Token) (code : String) : Prop where
  body : ∀ m m' : Program.Machine, m.feed d t = (.ok (), m') →
    Code.render d m'.code.toList = Code.render d m.code.toList ++ code
  program : ∀ (m m' : Program.Machine) ts output, m.feed d t = (.ok (), m') →
    (m'.run d ts >>= Program.Machine.finish d) = .ok output →
    ∃ behind, output = Code.render d m.code.toList ++ code ++ behind
  operand : ∀ s (m m' : Expression.Machine), m.feed d s t = (.ok (), m') →
    ∃ e, m'.stack = .operand e :: m.stack ∧ e.render d = code
  expression : ∀ s before behind (last : Token) output,
    (∀ u ∈ before ++ t :: behind, u.kind ≠ .endOfInput) → last.kind = .endOfInput →
    (Expression.Machine.run d s {} (before ++ t :: behind ++ [last]) >>=
      Expression.Machine.finish d) = .ok output → Code.Contains output code
  alone : ∀ s (last : Token), last.kind = .endOfInput →
    (Expression.Machine.run d s {} [t, last] >>= Expression.Machine.finish d) = .ok code

theorem render_of_feed_number (ht : t.kind = .number) (hcheck : Numeral.check d t.text = .ok value)
    {m m' : Program.Machine} (h : m.feed d t = (.ok (), m')) :
    Code.render d m'.code.toList = Code.render d m.code.toList ++ Text.Decimal.write value := by
  obtain ⟨-, value', hcheck', rfl⟩ := (Program.Machine.feed_number ht).mp h
  obtain rfl : value = value' := Except.ok.inj (hcheck.symm.trans hcheck')
  rw [Array.toList_push, Code.render_append]
  apply String.ext
  simp [Code.render, Fragment.render]

theorem Expression.reads_number_iff {s : Scopes} {x : Lexeme} {a : Entry}
    (hx : x.kind = .number) :
    Reads d s x a ↔ ∃ value, Numeral.check d x.text = .ok value ∧ a = .operand (.number value) := by
  obtain ⟨kind, text⟩ := x
  obtain rfl : kind = .number := hx
  constructor
  · rintro ⟨hcheck⟩
    exact ⟨_, hcheck, rfl⟩
  · rintro ⟨value, hcheck, rfl⟩
    exact .number hcheck

theorem writtenAsNumber (ht : t.kind = .number) (hcheck : Numeral.check d t.text = .ok value) :
    WrittenAsNumber d t (Text.Decimal.write value) where
  body m m' h := render_of_feed_number ht hcheck h
  program m m' ts output h houtput := by
    obtain ⟨behind, rfl⟩ := Program.Machine.exists_output houtput
    exact ⟨behind, by rw [render_of_feed_number ht hcheck h]⟩
  operand s m m' h := by
    obtain ⟨-, value', hcheck', rfl⟩ := (Expression.Machine.feed_number ht).mp h
    obtain rfl : value = value' := Except.ok.inj (hcheck.symm.trans hcheck')
    exact ⟨.number value, rfl, rfl⟩
  expression s before behind last output hts hlast houtput := by
    obtain ⟨w, hreads, e, htree⟩ := Expression.exists_isTreeOf_of_compiled hts hlast houtput
    have hcode := htree.compiled hlast hreads
    rw [houtput, Except.ok.injEq] at hcode
    have hmem : t.toLexeme ∈ significant (before ++ t :: behind) := by
      simp [significant, isTrivia_of_number ht]
    obtain ⟨a, ha, hread⟩ := Expression.exists_of_mem_of_forall₂ hreads hmem
    obtain ⟨value', hcheck', rfl⟩ := (Expression.reads_number_iff ht).mp hread
    obtain rfl : value = value' := Except.ok.inj (hcheck.symm.trans hcheck')
    rw [← htree.2] at ha
    rw [hcode]
    exact Expression.Expr.contains_of_mem_yield ha
  alone s last hlast := by
    have hreads : List.Forall₂ (Expression.Reads d s) (significant [t])
        (Expression.Expr.number value).yield := by
      rw [significant_cons_of_not_isTrivia _ (isTrivia_of_number ht)]
      exact .cons ((Expression.reads_number_iff ht).mpr ⟨value, hcheck, rfl⟩) .nil
    have htree : (Expression.Expr.number value).IsTreeOf _ := ⟨trivial, rfl⟩
    exact htree.compiled hlast hreads

end Output

/-- A text is accepted as a numeric constant exactly if it is digits whose value is admitted, and
else refused with the text and the range. A number token is taken in bodies and as an operand,
exactly if its text is accepted. What is written for it in the code of programs and of
expressions is then the same: the digits of the value with no zeros in front, which are scanned
and accepted as the same constant. -/
theorem numbers_count_by_value (d : Dialect) :
    (∀ text value, Numeral.check d text = .ok value ↔
      Numeral.Denotes text value ∧ Numeral.Admits d value) ∧
    (∀ text, (¬ ∃ value, Numeral.Denotes text value ∧ Numeral.Admits d value) →
      Numeral.check d text = .error (.numberOutOfRange text d.numberRange)) ∧
    ∀ t : Token, t.kind = .number →
      (∀ m m' : Program.Machine, m.feed d t = (.ok (), m') ↔
        m.phase = .body ∧ ∃ value, Numeral.check d t.text = .ok value ∧
          m' = { m with line := t.line, code := m.code.push (.number value) }) ∧
      (∀ (s : Scopes) (m m' : Expression.Machine), m.feed d s t = (.ok (), m') ↔
        (m.done = false ∧ m.side = .operand) ∧ ∃ value, Numeral.check d t.text = .ok value ∧
          m' = { m with line := t.line, stack := .operand (.number value) :: m.stack,
                        side := .operator }) ∧
      ∀ value, Numeral.check d t.text = .ok value → ∃ code,
        (Fragment.number value).render d = code ∧
        (Expression.Expr.number value).render d = code ∧
        WrittenAsNumber d t code ∧ Canonical code value ∧
        (Scan.tokens d code).map Token.toLexeme = [⟨.number, code⟩, ⟨.endOfInput, ""⟩] ∧
        Numeral.check d code = .ok value := by
  refine ⟨fun text value => Numeral.check_eq_ok_iff, fun text => Numeral.check_of_not_exists,
    fun t ht => ⟨fun m m' => Program.Machine.feed_number ht,
      fun s m m' => Expression.Machine.feed_number ht, fun value hcheck => ?_⟩⟩
  have hcanonical := canonical_write value
  obtain ⟨-, hadmits⟩ := Numeral.check_eq_ok_iff.mp hcheck
  exact ⟨Text.Decimal.write value, rfl, rfl, writtenAsNumber ht hcheck, hcanonical,
    Scan.tokens_eq_single_iff.mpr (hcanonical.cut d),
    Numeral.check_eq_ok_iff.mpr ⟨hcanonical.denotes, hadmits⟩⟩

/-- The bounds of words, zeros in front and a plus sign. -/
example :
    let d : Dialect := { Dialect.standard with numberRange := ⟨0, 4294967295⟩ }
    Numeral.check d "+0000000000004294967295" = .ok 4294967295 ∧
    Numeral.check d "4294967296" = .error (.numberOutOfRange "4294967296" d.numberRange) := by
  decide +kernel

end KeywordLang
