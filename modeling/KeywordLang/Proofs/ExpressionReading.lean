import KeywordLang.Proofs.ExpressionStack
import KeywordLang.Proofs.TokenStream
import Mathlib.Data.List.Forall2

/-!
The machine that compiles expressions, seen as a reader of words. A lexeme counts
only for what it stands for, and a run over tokens is a run over a word.
-/

namespace KeywordLang.Expression

theorem Operator.ofWord?_eq_some_iff {word : String} {op : Operator} :
    Operator.ofWord? word = some op ↔ word = op.text ∧ op ≠ .endOfInput := by
  constructor
  · intro h
    unfold Operator.ofWord? at h
    split at h <;> cases h
    all_goals exact ⟨rfl, by decide⟩
  · rintro ⟨rfl, hop⟩
    rw [Operator.ofWord?_text, if_neg hop]

theorem operatorOf?_eq_some_iff {d : Dialect} {s : Scopes} {x : Lexeme} {op : Operator}
    (hx : x.kind ≠ .endOfInput) :
    operatorOf? x = some op ↔ Reads d s x (.operator op) := by
  obtain ⟨kind, text⟩ := x
  constructor
  · intro h
    cases kind <;> simp_all [operatorOf?]
    obtain ⟨htext, hop⟩ := Operator.ofWord?_eq_some_iff.mp h
    exact .operator htext hop
  · intro h
    cases h with
    | operator htext hop => exact Operator.ofWord?_eq_some_iff.mpr ⟨htext, hop⟩

theorem operandOf_eq_ok_iff {d : Dialect} {s : Scopes} {x : Lexeme} {e : Expr} :
    operandOf d s x = .ok e ↔ Reads d s x (.operand e) := by
  obtain ⟨kind, text⟩ := x
  constructor
  · intro h
    cases kind <;> simp only [operandOf, Lexeme.word] at h
    case number =>
      cases hcheck : Numeral.check d text with
      | ok value =>
          rw [hcheck] at h
          obtain rfl := Except.ok.inj h
          exact .number hcheck
      | error fault =>
          rw [hcheck] at h
          cases h
    case name =>
      cases hresolve : s.resolve d (Text.upper text) with
      | ok kind =>
          rw [hresolve] at h
          obtain rfl := Except.ok.inj h
          exact .name hresolve
      | error fault =>
          rw [hresolve] at h
          cases h
    case text =>
      obtain rfl := Except.ok.inj h
      exact .text text
    all_goals cases h
  · intro h
    cases h with
    | number hcheck => simp [operandOf, hcheck, Except.map]
    | name hresolve => simp [operandOf, hresolve, Lexeme.word, Except.map]
    | text => rfl

theorem Reads.isOperand {d : Dialect} {s : Scopes} {x : Lexeme} {e : Expr}
    (h : Reads d s x (.operand e)) : e.isOperand = true := by
  cases h <;> rfl

theorem Reads.operatorOf?_eq_none {d : Dialect} {s : Scopes} {x : Lexeme} {e : Expr}
    (h : Reads d s x (.operand e)) : operatorOf? x = none := by
  cases h <;> rfl

theorem Reads.kind_ne {d : Dialect} {s : Scopes} {x : Lexeme} {a : Entry}
    (h : Reads d s x a) : x.kind ≠ .endOfInput := by
  cases h <;> simp

namespace Machine

/-- What a machine takes, and the machine after it. -/
inductive Takes (d : Dialect) (m : Machine) : Entry → Machine → Prop where
  | operand {e : Expr} (hside : m.side = .operand) (he : e.isOperand = true) :
      Takes d m (.operand e) (m.push (.operand e) .operator)
  | openGroup (hside : m.side = .operand) :
      Takes d m (.operator .openGroup)
        ({ m with brackets := m.brackets.push }.push (.operator .openGroup) .operand)
  | cond (hside : m.side = .operand) :
      Takes d m (.operator .cond) (m.push (.operator .cond) .operand)
  | closeGroup {brackets : Brackets} {stack : Stack} (hside : m.side = .operator)
      (hpop : m.brackets.pop = .ok brackets)
      (hsettle : m.stack.settle d .closeGroup = (.ok (), stack)) :
      Takes d m (.operator .closeGroup) { m with stack, brackets, side := .operator }
  | between {op : Operator} {stack : Stack} (hside : m.side = .operator)
      (hop : op.followsOperand = true)
      (hsettle : m.stack.settle d op = (.ok (), stack)) :
      Takes d m (.operator op) { m with stack, side := .operand }

theorem settle_eq_ok_iff {d : Dialect} {m m' : Machine} {op : Operator} {next : Side} :
    m.settle d op next = (.ok (), m') ↔
      ∃ stack, m.stack.settle d op = (.ok (), stack) ∧ m' = { m with stack, side := next } := by
  unfold Machine.settle
  constructor
  · intro h
    split at h
    · next stack hsettle => exact ⟨stack, hsettle, (Prod.mk.inj h).2.symm⟩
    · cases (Prod.mk.inj h).1
  · rintro ⟨stack, hsettle, rfl⟩
    rw [hsettle]

theorem stepOperand_eq_ok_iff {d : Dialect} {s : Scopes} {m m' : Machine} {x : Lexeme}
    (hside : m.side = .operand) (hx : x.kind ≠ .endOfInput) :
    m.stepOperand d s x = (.ok (), m') ↔ ∃ a, Reads d s x a ∧ m.Takes d a m' := by
  constructor
  · intro h
    unfold stepOperand at h
    split at h
    · next hop =>
        obtain rfl := (Prod.mk.inj h).2
        exact ⟨_, (operatorOf?_eq_some_iff hx).mp hop, .openGroup hside⟩
    · next hop =>
        obtain rfl := (Prod.mk.inj h).2
        exact ⟨_, (operatorOf?_eq_some_iff hx).mp hop, .cond hside⟩
    · cases (Prod.mk.inj h).1
    · split at h
      · next e he =>
          obtain rfl := (Prod.mk.inj h).2
          have hreads := operandOf_eq_ok_iff.mp he
          exact ⟨_, hreads, .operand hside hreads.isOperand⟩
      · cases (Prod.mk.inj h).1
  · rintro ⟨a, hreads, htakes⟩
    cases htakes with
    | operand _ he =>
        simp only [stepOperand, hreads.operatorOf?_eq_none, operandOf_eq_ok_iff.mpr hreads]
    | openGroup => simp only [stepOperand, (operatorOf?_eq_some_iff hx).mpr hreads]
    | cond => simp only [stepOperand, (operatorOf?_eq_some_iff hx).mpr hreads]
    | closeGroup hside' => rw [hside] at hside'; cases hside'
    | between hside' => rw [hside] at hside'; cases hside'

theorem stepOperator_eq_ok_iff {d : Dialect} {s : Scopes} {m m' : Machine} {x : Lexeme}
    (hside : m.side = .operator) (hx : x.kind ≠ .endOfInput) :
    m.stepOperator d x = (.ok (), m') ↔ ∃ a, Reads d s x a ∧ m.Takes d a m' := by
  constructor
  · intro h
    unfold stepOperator at h
    split at h
    · next hop =>
        split at h
        · next brackets hpop =>
            obtain ⟨stack, hsettle, rfl⟩ := settle_eq_ok_iff.mp h
            exact ⟨_, (operatorOf?_eq_some_iff hx).mp hop, .closeGroup hside hpop hsettle⟩
        · cases (Prod.mk.inj h).1
    · next hop =>
        cases (operatorOf?_eq_some_iff (d := d) (s := s) hx).mp hop with
        | operator _ hend => exact absurd rfl hend
    · next op _ _ hop =>
        split at h
        · next hfollows =>
            obtain ⟨stack, hsettle, rfl⟩ := settle_eq_ok_iff.mp h
            exact ⟨_, (operatorOf?_eq_some_iff hx).mp hop, .between hside hfollows hsettle⟩
        · cases (Prod.mk.inj h).1
    · cases (Prod.mk.inj h).1
  · rintro ⟨a, hreads, htakes⟩
    cases htakes with
    | operand hside' => rw [hside] at hside'; cases hside'
    | openGroup hside' => rw [hside] at hside'; cases hside'
    | cond hside' => rw [hside] at hside'; cases hside'
    | closeGroup _ hpop hsettle =>
        simp only [stepOperator, (operatorOf?_eq_some_iff hx).mpr hreads, hpop]
        exact settle_eq_ok_iff.mpr ⟨_, hsettle, rfl⟩
    | @between op stack _ hop hsettle =>
        have hsettle' : m.settle d op .operand = (.ok (), { m with stack, side := .operand }) :=
          settle_eq_ok_iff.mpr ⟨stack, hsettle, rfl⟩
        simp only [stepOperator, (operatorOf?_eq_some_iff hx).mpr hreads]
        split
        · next heq => cases heq; cases hop
        · next heq => cases heq; cases hop
        · next heq => cases heq; exact (if_pos hop).trans hsettle'
        · next heq => cases heq

/-- A machine takes a lexeme exactly for what it stands for. -/
theorem step_eq_ok_iff {d : Dialect} {s : Scopes} {m m' : Machine} {x : Lexeme}
    (hdone : m.done = false) (hx : x.kind ≠ .endOfInput) :
    m.step d s x = (.ok (), m') ↔ ∃ a, Reads d s x a ∧ m.Takes d a m' := by
  rw [step, hdone, if_neg Bool.false_ne_true]
  cases hside : m.side with
  | operand => exact stepOperand_eq_ok_iff hside hx
  | operator => exact stepOperator_eq_ok_iff hside hx

/-- A machine that reads a word, and the machine after it. -/
inductive Follows (d : Dialect) : Machine → List Entry → Machine → Prop where
  | nil (m : Machine) : Follows d m [] m
  | cons {m m' m'' : Machine} {a : Entry} {w : List Entry} (htakes : m.Takes d a m')
      (hrest : Follows d m' w m'') : Follows d m (a :: w) m''

theorem Follows.append {d : Dialect} {m m' m'' : Machine} {w v : List Entry}
    (hw : Follows d m w m') (hv : Follows d m' v m'') : Follows d m (w ++ v) m'' := by
  induction hw with
  | nil => exact hv
  | cons htakes _ ih => exact .cons htakes (ih hv)

theorem Follows.single {d : Dialect} {m m' : Machine} {a : Entry} (h : m.Takes d a m') :
    Follows d m [a] m' :=
  .cons h (.nil m')

theorem Takes.unique {d : Dialect} {m m₁ m₂ : Machine} {a : Entry}
    (h₁ : m.Takes d a m₁) (h₂ : m.Takes d a m₂) : m₁ = m₂ := by
  cases h₁ with
  | operand => cases h₂; rfl
  | openGroup =>
      cases h₂ with
      | openGroup => rfl
      | between _ hop => cases hop
  | cond =>
      cases h₂ with
      | cond => rfl
      | between _ hop => cases hop
  | closeGroup _ hpop hsettle =>
      cases h₂ with
      | closeGroup _ hpop' hsettle' =>
          rw [hpop] at hpop'
          rw [hsettle] at hsettle'
          rw [Except.ok.inj hpop', (Prod.mk.inj hsettle').2]
      | between _ hop => cases hop
  | between _ hop hsettle =>
      cases h₂ with
      | between _ _ hsettle' =>
          rw [hsettle] at hsettle'
          rw [(Prod.mk.inj hsettle').2]
      | openGroup => cases hop
      | cond => cases hop
      | closeGroup => cases hop

theorem Follows.unique {d : Dialect} {m m₁ m₂ : Machine} {w : List Entry}
    (h₁ : Follows d m w m₁) (h₂ : Follows d m w m₂) : m₁ = m₂ := by
  induction h₁ with
  | nil => cases h₂; rfl
  | cons htakes _ ih =>
      cases h₂ with
      | cons htakes' hrest' =>
          obtain rfl := htakes.unique htakes'
          exact ih hrest'

def atLine (m : Machine) (line : Nat) : Machine :=
  { m with line }

theorem Takes.atLine {d : Dialect} {m m' : Machine} {a : Entry} (h : m.Takes d a m')
    (line : Nat) : (m.atLine line).Takes d a (m'.atLine line) := by
  cases h with
  | operand hside he => exact .operand hside he
  | openGroup hside => exact .openGroup hside
  | cond hside => exact .cond hside
  | closeGroup hside hpop hsettle => exact .closeGroup hside hpop hsettle
  | between hside hop hsettle => exact .between hside hop hsettle

theorem Follows.atLine {d : Dialect} {m m' : Machine} {w : List Entry}
    (h : Follows d m w m') (line : Nat) : Follows d (m.atLine line) w (m'.atLine line) := by
  induction h with
  | nil m => exact .nil _
  | cons htakes _ ih => exact .cons (htakes.atLine line) ih

theorem Takes.done_eq {d : Dialect} {m m' : Machine} {a : Entry} (h : m.Takes d a m') :
    m'.done = m.done := by
  cases h <;> rfl

theorem feed_of_isTrivia {t : Token} (d : Dialect) (s : Scopes) (m : Machine)
    (h : t.isTrivia = true) : m.feed d s t = (.ok (), m.atLine t.line) :=
  if_pos h

theorem feed_of_not_isTrivia {t : Token} (d : Dialect) (s : Scopes) (m : Machine)
    (h : t.isTrivia = false) :
    m.feed d s t =
      match (m.atLine t.line).step d s t.toLexeme with
      | (.ok (), m') => (.ok (), m')
      | (.error fault, m') => (.error ⟨fault, t.line⟩, m') := by
  rw [feed, h, if_neg Bool.false_ne_true]
  rfl

theorem feed_eq_ok_iff_step {d : Dialect} {s : Scopes} {m m' : Machine} {t : Token}
    (h : t.isTrivia = false) :
    m.feed d s t = (.ok (), m') ↔
      (m.atLine t.line).step d s t.toLexeme = (.ok (), m') := by
  rw [feed_of_not_isTrivia d s m h]
  constructor
  · intro hfeed
    split at hfeed
    · next hstep => rw [← (Prod.mk.inj hfeed).2]; exact hstep
    · cases (Prod.mk.inj hfeed).1
  · intro hstep
    rw [hstep]

theorem feed_eq_ok_iff {d : Dialect} {s : Scopes} {m m' : Machine} {t : Token}
    (h : t.isTrivia = false) (hdone : m.done = false) (ht : t.kind ≠ .endOfInput) :
    m.feed d s t = (.ok (), m') ↔
      ∃ a, Reads d s t.toLexeme a ∧ (m.atLine t.line).Takes d a m' := by
  rw [feed_eq_ok_iff_step h]
  exact step_eq_ok_iff hdone ht

theorem exists_follows_of_run {d : Dialect} {s : Scopes} {m m' : Machine}
    {ts : List Token} (hdone : m.done = false) (hts : ∀ t ∈ ts, t.kind ≠ .endOfInput)
    (h : run d s m ts = .ok m') :
    ∃ w, List.Forall₂ (Reads d s) (significant ts) w ∧
      Follows d m w (m'.atLine m.line) ∧ m'.done = false := by
  induction ts generalizing m with
  | nil =>
      obtain rfl := Except.ok.inj h
      exact ⟨[], .nil, .nil _, hdone⟩
  | cons t ts ih =>
      have ht := hts t List.mem_cons_self
      have hts' : ∀ t ∈ ts, t.kind ≠ .endOfInput :=
        fun t' ht' => hts t' (List.mem_cons_of_mem _ ht')
      unfold run at h
      split at h
      · next m₁ hfeed =>
          cases htrivia : t.isTrivia with
          | true =>
              rw [feed_of_isTrivia d s m htrivia] at hfeed
              obtain rfl := (Prod.mk.inj hfeed).2
              obtain ⟨w, hreads, hfollows, hdone'⟩ := ih (m := m.atLine t.line) hdone hts' h
              rw [significant_cons_of_isTrivia ts htrivia]
              exact ⟨w, hreads, hfollows.atLine m.line, hdone'⟩
          | false =>
              obtain ⟨a, hread, htakes⟩ := (feed_eq_ok_iff htrivia hdone ht).mp hfeed
              obtain ⟨w, hreads, hfollows, hdone'⟩ :=
                ih (htakes.done_eq.trans hdone) hts' h
              rw [significant_cons_of_not_isTrivia ts htrivia]
              refine ⟨a :: w, .cons hread hreads, .cons ?_ (hfollows.atLine m.line), hdone'⟩
              exact htakes.atLine m.line
      · cases h

theorem exists_run_of_follows {d : Dialect} {s : Scopes} {m m' : Machine}
    {ts : List Token} {w : List Entry} (hdone : m.done = false)
    (hreads : List.Forall₂ (Reads d s) (significant ts) w) (h : Follows d m w m') :
    ∃ line, run d s m ts = .ok (m'.atLine line) := by
  induction ts generalizing m m' w with
  | nil =>
      cases hreads
      cases h
      exact ⟨_, rfl⟩
  | cons t ts ih =>
      unfold run
      cases htrivia : t.isTrivia with
      | true =>
          rw [significant_cons_of_isTrivia ts htrivia] at hreads
          rw [feed_of_isTrivia d s m htrivia]
          obtain ⟨line, hrun⟩ :=
            ih (m := m.atLine t.line) hdone hreads (h.atLine t.line)
          exact ⟨line, hrun⟩
      | false =>
          rw [significant_cons_of_not_isTrivia ts htrivia] at hreads
          cases hreads with
          | cons hread hreads =>
              cases h with
              | @cons _ m₁ _ _ _ htakes hrest =>
                  have hfeed := (feed_eq_ok_iff htrivia hdone hread.kind_ne).mpr
                    ⟨_, hread, htakes.atLine t.line⟩
                  rw [hfeed]
                  obtain ⟨line, hrun⟩ :=
                    ih (m := m₁.atLine t.line) (htakes.done_eq.trans hdone) hreads
                      (hrest.atLine t.line)
                  exact ⟨line, hrun⟩

end Machine

end KeywordLang.Expression
