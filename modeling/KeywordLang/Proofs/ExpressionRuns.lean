import KeywordLang.Proofs.ExpressionLayers
import KeywordLang.Proofs.ScopeFaults

/-!
The stack along a run of the machine that compiles expressions. As long as nothing has
been refused, its entries stand above one another as in an expression, it counts the
open parentheses, and it is short where little has been opened. So does every stack that
settling goes through, and none of them has an operand in the place of an operator.
-/

namespace KeywordLang.Expression

/-- What an operator adds to the number of open parentheses. -/
def Operator.surplus : Operator → Int
  | .openGroup => 1
  | .closeGroup => -1
  | _ => 0

theorem Operator.surplus_of_followsOperand {op : Operator} (h : op.followsOperand = true) :
    op.surplus = 0 := by
  cases op with
  | openGroup => cases h
  | closeGroup => cases h
  | _ => rfl

namespace Stack

section Balance

variable {stack rest : Stack} {e : Expr}

/-- The number of parentheses that are opened in a list of entries and not closed. -/
def surplus (w : List Entry) : Int :=
  w.count (.operator .openGroup) - w.count (.operator .closeGroup)

theorem surplus_append (w v : List Entry) : surplus (w ++ v) = surplus w + surplus v := by
  simp only [surplus, List.count_append]
  omega

theorem surplus_operand (e : Expr) (w : List Entry) :
    surplus (.operand e :: w) = surplus w := by
  simp [surplus]

theorem surplus_operator (op : Operator) (w : List Entry) :
    surplus (.operator op :: w) = op.surplus + surplus w := by
  cases op with
  | openGroup =>
      rw [surplus, List.count_cons_self, List.count_cons_of_ne (by decide), Operator.surplus,
        surplus]
      omega
  | closeGroup =>
      rw [surplus, List.count_cons_self, List.count_cons_of_ne (by decide), Operator.surplus,
        surplus]
      omega
  | _ => simp [surplus, Operator.surplus]

theorem surplus_yield (h : e.Grouped) : surplus e.yield = 0 := by
  induction e with
  | number | symbol | text => exact surplus_operand _ []
  | group inner ih =>
      rw [Expr.yield, surplus_operator, surplus_append, ih h.1]
      rfl
  | binary op left right ihLeft ihRight =>
      obtain ⟨hop, hleft, hright, -, -⟩ := h
      have hfollows : op.followsOperand = true := by simp [Operator.followsOperand, hop]
      rw [Expr.yield, surplus_append, surplus_operator, ihLeft hleft, ihRight hright,
        Operator.surplus_of_followsOperand hfollows]
      rfl
  | select cond yes no ihCond ihYes ihNo =>
      obtain ⟨hcond, hyes, hno, -, -, -⟩ := h
      rw [Expr.yield, surplus_operator, surplus_append, surplus_operator, surplus_append,
        surplus_operator, ihCond hcond, ihYes hyes, ihNo hno]
      rfl

theorem surplus_word_operator (op : Operator) (rest : Stack) :
    surplus (word (.operator op :: rest)) = op.surplus + surplus (word rest) := by
  have hop : surplus [.operator op] = op.surplus :=
    (surplus_operator op []).trans (Int.add_zero _)
  rw [word, Entry.yield, surplus_append, hop, Int.add_comm]

theorem surplus_word_operand (h : e.Grouped) (rest : Stack) :
    surplus (word (.operand e :: rest)) = surplus (word rest) := by
  rw [word, Entry.yield, surplus_append, surplus_yield h, Int.add_zero]

theorem Waiting.surplus_word (h : Waiting stack) : surplus (word stack) = surplus stack := by
  induction h with
  | empty => rfl
  | opened _ _ ih => rw [surplus_word_operator, ih, surplus_operator]
  | between _ _ hleft _ _ _ ih =>
      rw [surplus_word_operator, surplus_word_operand hleft, ih, surplus_operator,
        surplus_operand]

theorem Holding.surplus_word (h : Holding stack) : surplus (word stack) = surplus stack := by
  cases h with
  | complete hrest he => rw [surplus_word_operand he, hrest.surplus_word, surplus_operand]
  | unmatched hfacing =>
      rw [surplus_word_operator, surplus_word_operand hfacing.grouped,
        hfacing.waiting.surplus_word, surplus_operator, surplus_operand]

end Balance

/-- The stacks that settling goes through in front of an incoming operator. -/
inductive Reaches (d : Dialect) (incoming : Operator) : Stack → Stack → Prop where
  | refl (stack : Stack) : Reaches d incoming stack stack
  | pass {stack formed last : Stack} (hpass : Stack.pass d incoming stack = .formed formed)
      (hrest : Reaches d incoming formed last) : Reaches d incoming stack last

section Refusals

variable {d : Dialect} {incoming op expected : Operator} {e : Expr}
  {stack rest left last : Stack} {fault : Fault} {code : String}

theorem exists_reaches_of_settle_error (h : settle d incoming stack = (.error fault, left)) :
    ∃ last, Reaches d incoming stack last ∧ pass d incoming last = .refused fault left := by
  fun_induction settle d incoming stack with
  | case1 stack settled hpass => cases (Prod.mk.inj h).1
  | case2 stack formed hpass ih =>
      obtain ⟨last, hreaches, hrefused⟩ := ih h
      exact ⟨last, .pass hpass hreaches, hrefused⟩
  | case3 stack fault' rest hpass =>
      obtain ⟨hfault, rfl⟩ := Prod.mk.inj h
      obtain rfl := Except.error.inj hfault
      exact ⟨stack, .refl stack, hpass⟩

theorem exists_operand_of_popOperand {go : Expr → Stack → Pass}
    (h : popOperand stack go = .refused (malformed (.operand code)) left) :
    ∃ e rest, stack = .operand e :: rest ∧
      go e rest = .refused (malformed (.operand code)) left := by
  match stack with
  | .operand e :: rest => exact ⟨e, rest, rfl, h⟩
  | .operator _ :: _ => simp [popOperand, malformed] at h
  | [] => simp [popOperand, malformed] at h

theorem Waiting.exists_operator_of_popOperator {go : Operator → Stack → Pass}
    (hstack : Waiting stack)
    (h : popOperator d stack go = .refused (malformed (.operand code)) left) :
    ∃ op rest, stack = .operator op :: rest ∧
      go op rest = .refused (malformed (.operand code)) left := by
  match stack with
  | .operator op :: rest => exact ⟨op, rest, rfl, h⟩
  | .operand e :: _ => exact absurd rfl (hstack.head?_ne_operand e)
  | [] => simp [popOperator, malformed] at h

theorem Waiting.exists_rest_of_popExpected {go : Stack → Pass} (hstack : Waiting stack)
    (h : popExpected d expected stack go = .refused (malformed (.operand code)) left) :
    ∃ rest, stack = .operator expected :: rest ∧
      go rest = .refused (malformed (.operand code)) left := by
  obtain ⟨op, rest, rfl, hgo⟩ := hstack.exists_operator_of_popOperator h
  split at hgo
  · next heq => exact ⟨rest, by rw [heq], hgo⟩
  · simp [malformed] at hgo

theorem Waiting.formSelect_ne_operand {yes no : Expr} (h : Waiting stack) :
    formSelect d yes no stack ≠ .refused (malformed (.operand code)) left := by
  intro hform
  obtain ⟨afterThen, rfl, hthen⟩ := h.exists_rest_of_popExpected hform
  obtain ⟨cond, afterCond, rfl, hcond⟩ := exists_operand_of_popOperand hthen
  obtain ⟨-, hwaiting, -⟩ := h.of_operand
  obtain ⟨rest, rfl, hrest⟩ := hwaiting.exists_rest_of_popExpected hcond
  cases hrest

theorem Waiting.settleOperator_ne_operand (h : Waiting (.operator op :: rest)) :
    settleOperator d incoming op e rest ≠ .refused (malformed (.operand code)) left := by
  intro hsettle
  unfold settleOperator at hsettle
  split at hsettle
  iterate 4 · cases hsettle
  · obtain ⟨yes, below, rfl, hbelow⟩ := exists_operand_of_popOperand hsettle
    obtain ⟨-, hwaiting, -⟩ := h.of_operand
    split at hbelow
    · cases hbelow
    · split at hbelow
      · exact hwaiting.formSelect_ne_operand hbelow
      · cases hbelow

/-- No pass over the stack finds an operand in the place of an operator. -/
theorem Intact.pass_ne_operand (h : Intact stack) :
    pass d incoming stack ≠ .refused (malformed (.operand code)) left := by
  intro hpass
  obtain ⟨e, rest, rfl, hrest⟩ := exists_operand_of_popOperand hpass
  have hwaiting := h.of_operand
  split at hrest
  · split at hrest <;> cases hrest
  · obtain ⟨op, below, rfl, hop⟩ := hwaiting.exists_operator_of_popOperator hrest
    exact hwaiting.settleOperator_ne_operand hop

theorem Facing.intact_of_reaches (h : Facing incoming e rest)
    (hreaches : Reaches d incoming (.operand e :: rest) last) : Intact last := by
  generalize hstack : Entry.operand e :: rest = stack at hreaches
  induction hreaches generalizing e rest with
  | refl =>
      rw [← hstack]
      exact .operand h.waiting
  | pass hpass hrest ih =>
      subst hstack
      -- A pass that forms an operand puts it in front of the incoming operator again.
      rcases h.pass_cases d with ⟨_, heq, -⟩ | ⟨e', rest', heq, h', -⟩ | ⟨_, _, heq⟩
      · rw [heq] at hpass
        cases hpass
      · rw [heq] at hpass
        exact ih h' (Pass.formed.inj hpass)
      · rw [heq] at hpass
        cases hpass

theorem eq_of_reaches (hstack : ∀ e, stack.head? ≠ some (.operand e))
    (h : Reaches d incoming stack last) : last = stack := by
  cases h with
  | refl => rfl
  | pass hpass =>
      obtain ⟨e, rest, rfl, -⟩ := popOperand_eq_formed hpass
      exact absurd rfl (hstack e)

theorem Holding.intact_of_reaches (h : Holding stack)
    (hreaches : Reaches d incoming stack last) : Intact last := by
  cases h with
  | complete hrest he hhead htail =>
      exact (Facing.of_complete incoming hrest he hhead htail).intact_of_reaches hreaches
  | unmatched hfacing hfloor =>
      rw [eq_of_reaches (by simp) hreaches]
      exact .unmatched hfacing.waiting hfloor

end Refusals

end Stack

theorem describe_ne_operand (x : Lexeme) {code : String} : x.describe ≠ .operand code := by
  unfold Lexeme.describe
  split <;> exact nofun

namespace Machine

open Stack (Intact Reaches malformed surplus surplus_append surplus_operator)

section Steps

variable {d : Dialect} {s : Scopes} {m m' : Machine} {t : Token} {x : Lexeme}
  {op : Operator} {last : Stack} {fault : Fault} {code : String}

theorem Shaped.intact_of_reaches (h : m.Shaped) (hreaches : Reaches d op m.stack last) :
    Intact last := by
  cases hside : m.side with
  | operand =>
      have hwaiting := h.waiting hside
      rw [Stack.eq_of_reaches hwaiting.head?_ne_operand hreaches]
      exact .waiting hwaiting
  | operator => exact (h.holding hside).intact_of_reaches hreaches

theorem Shaped.settle_ne_operand {next : Side} (h : m.Shaped) :
    (m.settle d op next).1 ≠ .error (malformed (.operand code)) := by
  intro hsettle
  rcases hstack : m.stack.settle d op with ⟨fault | ⟨⟩, left⟩
  · simp only [Machine.settle, hstack] at hsettle
    obtain rfl := Except.error.inj hsettle
    obtain ⟨last, hreaches, hpass⟩ := Stack.exists_reaches_of_settle_error hstack
    exact (h.intact_of_reaches hreaches).pass_ne_operand hpass
  · simp only [Machine.settle, hstack] at hsettle
    cases hsettle

theorem operandOf_ne_operand : operandOf d s x ≠ .error (malformed (.operand code)) := by
  intro h
  unfold operandOf at h
  split at h
  · cases Numeral.check_eq_error (map_eq_error_iff.mp h)
  · rcases Scopes.resolve_eq_error (map_eq_error_iff.mp h) with h | h <;> cases h
  · cases h
  · cases h

theorem stepOperand_ne_operand :
    (m.stepOperand d s x).1 ≠ .error (malformed (.operand code)) := by
  intro h
  unfold stepOperand at h
  split at h
  · cases h
  · cases h
  · cases h
  · split at h
    · cases h
    · next hoperand =>
        obtain rfl := Except.error.inj h
        exact operandOf_ne_operand hoperand

theorem Shaped.stepOperator_ne_operand (hm : m.Shaped) :
    (m.stepOperator d x).1 ≠ .error (malformed (.operand code)) := by
  intro h
  unfold stepOperator at h
  split at h
  · split at h
    · next brackets _ => exact Shaped.settle_ne_operand (m := { m with brackets }) hm h
    · next hpop =>
        obtain rfl := Except.error.inj h
        cases Brackets.pop_eq_error hpop
  · split at h
    · split at h
      · cases h
      · next hsettle =>
          obtain rfl := Except.error.inj h
          exact hm.settle_ne_operand (congrArg Prod.fst hsettle)
    · next hbalanced =>
        obtain rfl := Except.error.inj h
        cases Brackets.ensureBalanced_eq_error hbalanced
  · split at h
    · exact hm.settle_ne_operand h
    · cases h
  · cases h

theorem step_ne_operand (hm : m.done = true ∨ m.Shaped) :
    (m.step d s x).1 ≠ .error (malformed (.operand code)) := by
  intro h
  unfold step at h
  split at h
  · exact describe_ne_operand x (Fault.unexpected.inj (Except.error.inj h)).2
  · next hdone =>
      split at h
      · exact stepOperand_ne_operand h
      · exact (hm.resolve_left hdone).stepOperator_ne_operand h

theorem feed_ne_operand (hm : m.done = true ∨ m.Shaped) (line : Nat) :
    (m.feed d s t).1 ≠ .error ⟨malformed (.operand code), line⟩ := by
  intro h
  cases htrivia : t.isTrivia with
  | true =>
      rw [feed_of_isTrivia d s m htrivia] at h
      cases h
  | false =>
      rw [feed_of_not_isTrivia d s m htrivia] at h
      split at h
      · cases h
      · next hstep =>
          obtain rfl := (Diagnostic.mk.inj (Except.error.inj h)).1
          exact step_ne_operand (m := m.atLine t.line) hm (congrArg Prod.fst hstep)

theorem step_of_done (hdone : m.done = true) :
    m.step d s x = (.error (malformed x.describe), m) :=
  if_pos hdone

theorem done_of_step_endOfInput (hx : x.kind = .endOfInput)
    (h : m.step d s x = (.ok (), m')) : m'.done = true := by
  have hop : operatorOf? x = some .endOfInput := by simp [operatorOf?, hx]
  unfold step at h
  split at h
  · cases h
  · split at h
    · simp [stepOperand, hop] at h
    · simp only [stepOperator, hop] at h
      split at h
      · split at h
        · rw [← (Prod.mk.inj h).2]
        · cases h
      · cases h

/-- As long as the end of the input has not been taken, the stack is in shape. It can
leave a stack of another shape, but no operator comes in after it. -/
theorem done_or_shaped_of_feed (hm : m.done = true ∨ m.Shaped)
    (h : m.feed d s t = (.ok (), m')) : m'.done = true ∨ m'.Shaped := by
  cases htrivia : t.isTrivia with
  | true =>
      rw [feed_of_isTrivia d s m htrivia] at h
      rw [← (Prod.mk.inj h).2]
      exact hm
  | false =>
      have hstep := (feed_eq_ok_iff_step htrivia).mp h
      cases hdone : m.done with
      | true =>
          rw [step_of_done (m := m.atLine t.line) hdone] at hstep
          cases hstep
      | false =>
          by_cases ht : t.kind = .endOfInput
          · exact .inl (done_of_step_endOfInput ht hstep)
          · obtain ⟨a, -, htakes⟩ := (step_eq_ok_iff (m := m.atLine t.line) hdone ht).mp hstep
            have hshaped : m.Shaped := hm.resolve_left (by simp [hdone])
            exact .inr (htakes.shaped (m := m.atLine t.line) hshaped).1

theorem done_or_shaped_of_run {ts : List Token} (hm : m.done = true ∨ m.Shaped)
    (h : run d s m ts = .ok m') : m'.done = true ∨ m'.Shaped := by
  induction ts generalizing m with
  | nil =>
      obtain rfl := Except.ok.inj h
      exact hm
  | cons t ts ih =>
      unfold run at h
      split at h
      · next hfeed => exact ih (done_or_shaped_of_feed hm hfeed) h
      · cases h

end Steps

section Depth

variable {d : Dialect} {m m' : Machine} {a : Entry} {w : List Entry}

theorem Takes.depth (h : m.Takes d a m') :
    (m'.brackets.depth : Int) = m.brackets.depth + surplus [a] := by
  cases h with
  | operand => exact (Int.add_zero _).symm
  | openGroup => rfl
  | cond => exact (Int.add_zero _).symm
  | @closeGroup brackets stack _ hpop =>
      have hdepth : m.brackets.depth = brackets.depth + 1 := Brackets.pop_eq_ok_iff.mp hpop
      have hclose : surplus [.operator .closeGroup] = -1 := rfl
      rw [hdepth, hclose]
      change (brackets.depth : Int) = _
      omega
  | between _ hop =>
      rw [surplus_operator, Operator.surplus_of_followsOperand hop]
      exact (Int.add_zero _).symm

theorem Follows.depth (h : Follows d m w m') :
    (m'.brackets.depth : Int) = m.brackets.depth + surplus w := by
  induction h with
  | nil m => exact (Int.add_zero _).symm
  | @cons m m' m'' a w htakes _ ih =>
      rw [ih, htakes.depth, Int.add_assoc, ← surplus_append]
      rfl

theorem Shaped.surplus_word (h : m.Shaped) :
    surplus (Stack.word m.stack) = surplus m.stack := by
  cases hside : m.side with
  | operand => exact (h.waiting hside).surplus_word
  | operator => exact (h.holding hside).surplus_word

theorem Follows.surplus_stack (h : Follows d {} w m) :
    surplus m.stack = m.brackets.depth := by
  obtain ⟨hshaped, hword⟩ := h.shaped Stack.Waiting.empty
  calc surplus m.stack = surplus (Stack.word m.stack) := hshaped.surplus_word.symm
    _ = surplus w := congrArg surplus hword
    _ = m.brackets.depth := by rw [h.depth]; exact (Int.zero_add _).symm

end Depth

end Machine

open Machine (run)

/-- As long as nothing has been refused and the end of the input has not been taken,
the entries of the stack stand above one another as in an expression, and the stack
counts the open parentheses. It has at most twelve entries for each opening on it and
twelve more, and so has every stack that settling goes through with the incoming operator
on top. And whatever comes in next, no operand is found in the place of an operator. -/
theorem stack_stays_layered (d : Dialect) (s : Scopes) (ts : List Token) (m : Machine)
    (hrun : run d s {} ts = .ok m) :
    ((∀ t ∈ ts, t.kind ≠ .endOfInput) →
      m.stack.Layered ∧
      (m.stack.count (.operator .openGroup) : Int) - m.stack.count (.operator .closeGroup) =
        m.brackets.depth ∧
      m.stack.length ≤ 12 * (m.stack.openings + 1) ∧
      ∀ op stack, Stack.Reaches d op m.stack stack →
        (Entry.operator op :: stack).length ≤
          12 * (Stack.openings (.operator op :: stack) + 1)) ∧
    ∀ t code line,
      (m.feed d s t).1 ≠ .error ⟨Stack.malformed (.operand code), line⟩ := by
  have hinitial : ({} : Machine).Shaped := Stack.Waiting.empty
  refine ⟨fun hts => ?_, fun t code line => ?_⟩
  · obtain ⟨w, -, hfollows, -⟩ := Machine.exists_follows_of_run rfl hts hrun
    have hshaped : m.Shaped := (hfollows.shaped hinitial).1
    have hreaches : Stack.Reaches d .endOfInput m.stack m.stack := .refl m.stack
    have hstack := hshaped.intact_of_reaches hreaches
    exact ⟨hstack.layered, hfollows.surplus_stack, Nat.le_of_lt hstack.length_lt,
      fun op stack hreaches => (hshaped.intact_of_reaches hreaches).length_incoming_le op⟩
  · exact Machine.feed_ne_operand (Machine.done_or_shaped_of_run (.inr hinitial) hrun) line

/-- A parenthesis that is closed before its contents are complete stays on the stack. -/
theorem stack_stays_layered_unmatched :
    let ts := (Scan.tokens .standard "(1 run 2 = 3)").dropLast
    let m : Machine :=
      { stack := [.operator .closeGroup, .operand (.number 3), .operator .assign,
          .operand (.number 2), .operator .run, .operand (.number 1), .operator .openGroup]
        side := .operator }
    run .standard {} {} ts = .ok m ∧ (∀ t ∈ ts, t.kind ≠ .endOfInput) ∧
      (m.stack.Layered ∧
        (m.stack.count (.operator .openGroup) : Int) -
          m.stack.count (.operator .closeGroup) = m.brackets.depth ∧
        m.stack.length ≤ 12 * (m.stack.openings + 1) ∧
        ∀ op stack, Stack.Reaches .standard op m.stack stack →
          (Entry.operator op :: stack).length ≤
            12 * (Stack.openings (.operator op :: stack) + 1)) ∧
      ∀ t code line,
        (m.feed .standard {} t).1 ≠ .error ⟨Stack.malformed (.operand code), line⟩ := by
  intro ts m
  have hrun : run .standard {} {} ts = .ok m := by decide +kernel
  have hts : ∀ t ∈ ts, t.kind ≠ .endOfInput := by decide +kernel
  obtain ⟨hstack, hfeed⟩ := stack_stays_layered .standard {} ts m hrun
  exact ⟨hrun, hts, hstack hts, hfeed⟩

/-- Five operators with their operands, each tighter than the one beneath it: with the
next operator the stack has twelve entries and no opening. -/
example :
    (run .standard {} {} (Scan.tokens .standard "1 run 2 = 3 else 4, 5 + 6").dropLast).map
      (fun m => (m.stack.length, m.stack.openings)) = .ok (11, 0) := by
  decide +kernel

end KeywordLang.Expression
