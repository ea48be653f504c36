import KeywordLang.Compile
import KeywordLang.Proofs.ExpressionReading
import KeywordLang.Proofs.Refusal
import KeywordLang.Proofs.ScanLayout
import KeywordLang.Proofs.TokenStream

/-!
The two machines read tokens in the same way: they pass over trivia, note the line of each
token and stop at the first one that they refuse. The line goes into the diagnostics and
nowhere else, so what becomes of a source is decided by the lexemes that carry meaning.
-/

namespace KeywordLang

/-- A machine that takes lexemes, with a place for the line of the last token. -/
structure Reader (M : Type) where
  step : M → Lexeme → Except Fault Unit × M
  finish : M → Except Diagnostic String
  atLine : M → Nat → M
  step_atLine : ∀ m line x, step (atLine m line) x = ((step m x).1, atLine (step m x).2 line)
  finish_atLine : ∀ m line,
    (finish (atLine m line)).mapError Diagnostic.fault = (finish m).mapError Diagnostic.fault
  step_unknown : ∀ m x, x.kind = .unknown → ∃ fault, (step m x).1 = .error fault

namespace Reader

variable {M : Type} (R : Reader M)

def feed (m : M) (t : Token) : Except Diagnostic Unit × M :=
  if t.isTrivia then (.ok (), R.atLine m t.line)
  else
    match R.step (R.atLine m t.line) t.toLexeme with
    | (.ok (), m') => (.ok (), m')
    | (.error fault, m') => (.error ⟨fault, t.line⟩, m')

/-- Takes tokens up to the first refusal. -/
def run (m : M) : List Token → Except Diagnostic M
  | [] => .ok m
  | t :: rest =>
      match R.feed m t with
      | (.ok (), m') => run m' rest
      | (.error e, _) => .error e

/-- The code of a list of tokens, or the first fault. -/
def compile (m : M) (ts : List Token) : Except Diagnostic String :=
  R.run m ts >>= R.finish

/-- Takes lexemes up to the first refusal. -/
def steps (m : M) : List Lexeme → Except Fault M
  | [] => .ok m
  | x :: rest =>
      match R.step m x with
      | (.ok (), m') => steps m' rest
      | (.error fault, _) => .error fault

/-- The code of a list of lexemes, or the cause of the first fault. -/
def outcome (m : M) (xs : List Lexeme) : Except Fault String :=
  R.steps m xs >>= fun m' => (R.finish m').mapError Diagnostic.fault

variable {R} {m m' : M} {t : Token} {ts us : List Token} {e : Diagnostic}

theorem steps_cons_of_ok {x : Lexeme} (xs : List Lexeme) (h : R.step m x = (.ok (), m')) :
    R.steps m (x :: xs) = R.steps m' xs := by
  rw [steps, h]

theorem steps_cons_of_error {x : Lexeme} {fault : Fault} (xs : List Lexeme)
    (h : R.step m x = (.error fault, m')) : R.steps m (x :: xs) = .error fault := by
  rw [steps, h]

theorem steps_append (m : M) (xs ys : List Lexeme) :
    R.steps m (xs ++ ys) = R.steps m xs >>= fun m' => R.steps m' ys := by
  induction xs generalizing m with
  | nil => rfl
  | cons x xs ih =>
      rw [List.cons_append]
      rcases hstep : R.step m x with ⟨fault | ⟨⟩, m'⟩
      · rw [steps_cons_of_error _ hstep, steps_cons_of_error _ hstep]
        rfl
      · rw [steps_cons_of_ok _ hstep, steps_cons_of_ok _ hstep, ih]

theorem steps_keep {P : M → Prop} {xs : List Lexeme}
    (hstep : ∀ m x m', P m → R.step m x = (.ok (), m') → P m') (hm : P m)
    (h : R.steps m xs = .ok m') : P m' := by
  induction xs generalizing m with
  | nil =>
      cases h
      exact hm
  | cons x xs ih =>
      rcases hx : R.step m x with ⟨fault | ⟨⟩, m₁⟩
      · rw [steps_cons_of_error xs hx] at h
        cases h
      · rw [steps_cons_of_ok xs hx] at h
        exact ih (hstep m x m₁ hm hx) h

theorem outcome_append (m : M) (xs ys : List Lexeme) :
    R.outcome m (xs ++ ys) = R.steps m xs >>= fun m' => R.outcome m' ys := by
  rw [outcome, steps_append, bind_assoc]
  rfl

theorem outcome_cons_of_ok {x : Lexeme} (xs : List Lexeme) (h : R.step m x = (.ok (), m')) :
    R.outcome m (x :: xs) = R.outcome m' xs := by
  rw [outcome, steps_cons_of_ok xs h, outcome]

theorem outcome_cons_of_error {x : Lexeme} {fault : Fault} (xs : List Lexeme)
    (h : R.step m x = (.error fault, m')) : R.outcome m (x :: xs) = .error fault := by
  rw [outcome, steps_cons_of_error xs h]
  rfl

theorem outcome_atLine (m : M) (line : Nat) (xs : List Lexeme) :
    R.outcome (R.atLine m line) xs = R.outcome m xs := by
  induction xs generalizing m with
  | nil => exact R.finish_atLine m line
  | cons x xs ih =>
      have hline := R.step_atLine m line x
      rcases hstep : R.step m x with ⟨fault | ⟨⟩, m'⟩
      · rw [hstep] at hline
        rw [outcome_cons_of_error xs hline, outcome_cons_of_error xs hstep]
      · rw [hstep] at hline
        rw [outcome_cons_of_ok xs hline, outcome_cons_of_ok xs hstep, ih]

theorem compile_cons_of_ok (h : R.feed m t = (.ok (), m')) :
    R.compile m (t :: ts) = R.compile m' ts := by
  rw [compile, run, h]
  rfl

theorem compile_cons_of_error (h : R.feed m t = (.error e, m')) :
    R.compile m (t :: ts) = .error e := by
  rw [compile, run, h]
  rfl

/-- What becomes of tokens is decided by their lexemes, up to the line of a fault. -/
theorem mapError_compile (m : M) (ts : List Token) :
    (R.compile m ts).mapError Diagnostic.fault = R.outcome m (significant ts) := by
  induction ts generalizing m with
  | nil => rfl
  | cons t ts ih =>
      cases ht : t.isTrivia with
      | true =>
          have hfeed : R.feed m t = (.ok (), R.atLine m t.line) := if_pos ht
          rw [compile_cons_of_ok hfeed, ih, outcome_atLine, significant_cons_of_isTrivia ts ht]
      | false =>
          rw [significant_cons_of_not_isTrivia ts ht]
          have hline := R.step_atLine m t.line t.toLexeme
          rcases hstep : R.step m t.toLexeme with ⟨fault | ⟨⟩, m'⟩
          · rw [hstep] at hline
            have hfeed : R.feed m t = (.error ⟨fault, t.line⟩, R.atLine m' t.line) := by
              simp [feed, ht, hline]
            rw [compile_cons_of_error hfeed, outcome_cons_of_error _ hstep]
            rfl
          · rw [hstep] at hline
            have hfeed : R.feed m t = (.ok (), R.atLine m' t.line) := by
              simp [feed, ht, hline]
            rw [compile_cons_of_ok hfeed, ih, outcome_atLine, outcome_cons_of_ok _ hstep]

theorem run_append (m : M) (ts us : List Token) :
    R.run m (ts ++ us) = R.run m ts >>= fun m' => R.run m' us := by
  induction ts generalizing m with
  | nil => rfl
  | cons t ts ih =>
      simp only [List.cons_append, run]
      split
      · exact ih _
      · rfl

theorem compile_of_refused (hrun : R.run m ts = .ok m') (hfeed : (R.feed m' t).1 = .error e)
    (us : List Token) : R.compile m (ts ++ t :: us) = .error e := by
  rcases h : R.feed m' t with ⟨e' | ⟨⟩, m''⟩
  · rw [h] at hfeed
    cases hfeed
    rw [compile, run_append, hrun]
    exact compile_cons_of_error h
  · rw [h] at hfeed
    cases hfeed

theorem isTrivia_of_refused (h : (R.feed m t).1 = .error e) : t.isTrivia = false := by
  cases ht : t.isTrivia with
  | false => rfl
  | true =>
      rw [feed, if_pos ht] at h
      cases h

theorem line_of_refused (h : (R.feed m t).1 = .error e) : e.line = t.line := by
  have ht := isTrivia_of_refused h
  rcases hstep : R.step (R.atLine m t.line) t.toLexeme with ⟨fault | ⟨⟩, m'⟩
  · simp only [feed, ht, hstep] at h
    cases h
    rfl
  · simp [feed, ht, hstep] at h

theorem kind_ne_unknown_of_run (h : R.run m ts = .ok m') : ∀ t ∈ ts, t.kind ≠ .unknown := by
  induction ts generalizing m with
  | nil => exact nofun
  | cons t ts ih =>
      rcases hfeed : R.feed m t with ⟨e | ⟨⟩, m₁⟩
      · simp [run, hfeed] at h
      · simp only [run, hfeed] at h
        refine List.forall_mem_cons.mpr ⟨?_, ih h⟩
        intro hkind
        have ht : t.isTrivia = false := by simp [Lexeme.isTrivia, hkind]
        obtain ⟨fault, hfault⟩ := R.step_unknown (R.atLine m t.line) t.toLexeme hkind
        rcases hstep : R.step (R.atLine m t.line) t.toLexeme with ⟨fault' | ⟨⟩, m'⟩
        · simp [feed, ht, hstep] at hfeed
        · rw [hstep] at hfault
          cases hfault

end Reader

namespace Program.Machine

def atLine (m : Machine) (line : Nat) : Machine :=
  { m with line }

theorem emitWith_atLine (m : Machine) (line : Nat) (f : Fragment) (r : Except Fault Scopes) :
    (m.atLine line).emitWith f r = ((m.emitWith f r).1, (m.emitWith f r).2.atLine line) := by
  cases r with
  | error fault => rfl
  | ok scopes => rfl

theorem act_atLine (d : Dialect) (m : Machine) (line : Nat) (action : Action) :
    (m.atLine line).act d action = ((m.act d action).1, (m.act d action).2.atLine line) := by
  cases action with
  | mark mark => cases mark <;> first | rfl | exact emitWith_atLine m line _ _
  | selfReference =>
      cases hopen : m.scopes.openFunction with
      | none => simp [act, atLine, hopen]
      | some name => simp [act, atLine, hopen, emit]
  | number text =>
      cases hcheck : Numeral.check d text with
      | error fault => simp [act, hcheck]
      | ok value => simp [act, hcheck, atLine, emit]
  | closeModule entry =>
      rcases hend : m.scopes.endModule d entry with ⟨fault | name, scopes⟩
      · simp [act, atLine, hend]
      · simp [act, atLine, hend, emit]
  | assign => rfl
  | text literal => rfl
  | _ => exact emitWith_atLine m line _ _

theorem step_atLine (d : Dialect) (m : Machine) (line : Nat) (x : Lexeme) :
    (m.atLine line).step d x = ((m.step d x).1, (m.step d x).2.atLine line) := by
  have hphase : (m.atLine line).phase = m.phase := rfl
  rcases htransition : m.phase.transition d.keywords x with fault | ⟨next, _ | action⟩
  · simp only [step, hphase, htransition]
  · simp only [step, hphase, htransition]
    rfl
  · have hact := act_atLine d m line action
    rcases h : m.act d action with ⟨fault | ⟨⟩, m'⟩
    · rw [h] at hact
      simp only [step, hphase, htransition, hact, h]
    · rw [h] at hact
      simp only [step, hphase, htransition, hact, h]
      rfl

theorem step_unknown (d : Dialect) (m : Machine) (x : Lexeme) (hx : x.kind = .unknown) :
    ∃ fault, (m.step d x).1 = .error fault := by
  have hnext : m.phase.next? d.keywords x = none := by
    unfold Phase.next?
    rw [hx]
    cases m.phase <;> rfl
  refine ⟨m.phase.refuse x, ?_⟩
  simp only [step, Phase.transition, hnext]

def reader (d : Dialect) : Reader Machine where
  step := step d
  finish := finish d
  atLine := atLine
  step_atLine := step_atLine d
  finish_atLine m line := by
    unfold finish
    simp only [atLine]
    cases m.phase <;> rfl
  step_unknown := step_unknown d

theorem feed_eq (d : Dialect) (m : Machine) (t : Token) :
    m.feed d t = (reader d).feed m t := by
  have hstep : (reader d).step ((reader d).atLine m t.line) t.toLexeme =
      (m.atLine t.line).step d t.toLexeme := rfl
  rw [feed, Reader.feed, hstep, atLine]
  rcases ({ m with line := t.line } : Machine).step d t.toLexeme with ⟨_ | ⟨⟩, m'⟩
  · rfl
  · rfl

theorem run_eq (d : Dialect) (m : Machine) (ts : List Token) :
    run d m ts = (reader d).run m ts := by
  induction ts generalizing m with
  | nil => rfl
  | cons t ts ih =>
      rw [run, Reader.run, ← feed_eq]
      rcases feed d m t with ⟨_ | ⟨⟩, m'⟩
      · rfl
      · exact ih m'

end Program.Machine

namespace Expression.Machine

theorem settle_atLine (d : Dialect) (m : Machine) (line : Nat) (op : Operator) (next : Side) :
    (m.atLine line).settle d op next =
      ((m.settle d op next).1, (m.settle d op next).2.atLine line) := by
  have hstack : (m.atLine line).stack = m.stack := rfl
  rcases h : m.stack.settle d op with ⟨fault | ⟨⟩, stack⟩
  · simp only [settle, hstack, h]
    rfl
  · simp only [settle, hstack, h]
    rfl

theorem stepOperand_atLine (d : Dialect) (s : Scopes) (m : Machine) (line : Nat)
    (x : Lexeme) :
    (m.atLine line).stepOperand d s x =
      ((m.stepOperand d s x).1, (m.stepOperand d s x).2.atLine line) := by
  unfold stepOperand
  split
  · rfl
  · rfl
  · rfl
  · split
    · rfl
    · rfl

theorem stepOperator_atLine (d : Dialect) (m : Machine) (line : Nat) (x : Lexeme) :
    (m.atLine line).stepOperator d x =
      ((m.stepOperator d x).1, (m.stepOperator d x).2.atLine line) := by
  have hbrackets : (m.atLine line).brackets = m.brackets := rfl
  unfold stepOperator
  rw [hbrackets]
  split
  · split
    · next brackets _ =>
        exact settle_atLine d { m with brackets } line .closeGroup .operator
    · rfl
  · split
    · rw [settle_atLine]
      rcases m.settle d .endOfInput .operator with ⟨fault | ⟨⟩, m'⟩
      · rfl
      · rfl
    · rfl
  · split
    · exact settle_atLine d m line _ .operand
    · rfl
  · rfl

theorem step_atLine (d : Dialect) (s : Scopes) (m : Machine) (line : Nat) (x : Lexeme) :
    (m.atLine line).step d s x = ((m.step d s x).1, (m.step d s x).2.atLine line) := by
  have hdone : (m.atLine line).done = m.done := rfl
  have hside : (m.atLine line).side = m.side := rfl
  unfold step
  rw [hdone, hside]
  split
  · rfl
  · split
    · exact stepOperand_atLine d s m line x
    · exact stepOperator_atLine d m line x

theorem step_unknown (d : Dialect) (s : Scopes) (m : Machine) (x : Lexeme)
    (hx : x.kind = .unknown) : ∃ fault, (m.step d s x).1 = .error fault := by
  have hoperator : operatorOf? x = none := by
    unfold operatorOf?
    rw [hx]
  have hoperand : operandOf d s x = .error (.unexpected .operand x.describe) := by
    unfold operandOf
    rw [hx]
  unfold step
  split
  · exact ⟨_, rfl⟩
  · split
    · simp [stepOperand, hoperator, hoperand]
    · simp [stepOperator, hoperator]

def reader (d : Dialect) (s : Scopes) : Reader Machine where
  step := step d s
  finish := finish d
  atLine := atLine
  step_atLine := step_atLine d s
  finish_atLine m line := by
    have hdone : (m.atLine line).done = m.done := rfl
    have hstack : (m.atLine line).stack = m.stack := rfl
    unfold finish result
    rw [hdone, hstack]
    split
    · split
      · rfl
      · rfl
    · rfl
  step_unknown := step_unknown d s

theorem feed_eq (d : Dialect) (s : Scopes) (m : Machine) (t : Token) :
    m.feed d s t = (reader d s).feed m t := by
  have hstep : (reader d s).step ((reader d s).atLine m t.line) t.toLexeme =
      (m.atLine t.line).step d s t.toLexeme := rfl
  rw [feed, Reader.feed, hstep, atLine]
  rcases ({ m with line := t.line } : Machine).step d s t.toLexeme with ⟨_ | ⟨⟩, m'⟩
  · rfl
  · rfl

theorem run_eq (d : Dialect) (s : Scopes) (m : Machine) (ts : List Token) :
    run d s m ts = (reader d s).run m ts := by
  induction ts generalizing m with
  | nil => rfl
  | cons t ts ih =>
      rw [run, Reader.run, ← feed_eq]
      rcases feed d s m t with ⟨_ | ⟨⟩, m'⟩
      · rfl
      · exact ih m'

end Expression.Machine

section Compilation

variable (d : Dialect) (source : String)

theorem compileProgram_eq :
    compileProgram d source = (Program.Machine.reader d).compile {} (Scan.tokens d source) := by
  rw [compileProgram, Program.Machine.run_eq]
  rfl

theorem compileExpression_eq :
    compileExpression d source =
      (Expression.Machine.reader d {}).compile {} (Scan.tokens d source) := by
  rw [compileExpression, Expression.Machine.run_eq]
  rfl

/-- The lexeme at the end of every input. -/
def Lexeme.last : Lexeme :=
  ⟨.endOfInput, ""⟩

theorem significant_place (offset line : Nat) (xs : List Lexeme) :
    significant (Scan.place offset line xs) =
      (xs.filter fun x => !x.isTrivia) ++ [Lexeme.last] := by
  induction xs generalizing offset line with
  | nil => rfl
  | cons x xs ih =>
      rw [Scan.place]
      cases hx : x.isTrivia with
      | true =>
          rw [significant_cons_of_isTrivia _ hx, ih, List.filter_cons_of_neg (by simp [hx])]
      | false =>
          rw [significant_cons_of_not_isTrivia _ hx, ih, List.filter_cons_of_pos (by simp [hx])]
          rfl

theorem significant_tokens :
    significant (Scan.tokens d source) = Scan.content d source.toList ++ [Lexeme.last] :=
  significant_place 0 1 (Scan.lexemes d source.toList)

theorem exists_tokens :
    ∃ ts last, Scan.tokens d source = ts ++ [last] ∧
      significant ts = Scan.content d source.toList ∧
      (∀ t ∈ ts, t.kind ≠ .endOfInput) ∧ last.kind = .endOfInput := by
  obtain ⟨ts, last, htokens, hlexemes, hlast⟩ :=
    Scan.exists_place 0 1 (Scan.lexemes d source.toList)
  refine ⟨ts, last, htokens, ?_, ?_, hlast⟩
  · rw [significant, hlexemes]
    rfl
  · intro t ht
    have hmem : t.toLexeme ∈ Scan.lexemes d source.toList := by
      rw [← hlexemes]
      exact List.mem_map_of_mem ht
    exact Scan.kind_ne_endOfInput_of_mem_lexemes hmem

theorem mapError_compileProgram :
    (compileProgram d source).mapError Diagnostic.fault =
      (Program.Machine.reader d).outcome {} (Scan.content d source.toList ++ [Lexeme.last]) := by
  rw [compileProgram_eq, Reader.mapError_compile, significant_tokens]

theorem mapError_compileExpression :
    (compileExpression d source).mapError Diagnostic.fault =
      (Expression.Machine.reader d {}).outcome {}
        (Scan.content d source.toList ++ [Lexeme.last]) := by
  rw [compileExpression_eq, Reader.mapError_compile, significant_tokens]

end Compilation

end KeywordLang
