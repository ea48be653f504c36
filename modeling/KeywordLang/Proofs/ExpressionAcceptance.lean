import KeywordLang.Proofs.ExpressionReading
import KeywordLang.Proofs.Refusal

/-!
The machine that compiles expressions accepts the sentences of the grammar and
nothing else, and what it compiles is the tree of the sentence.
-/

namespace KeywordLang.Expression

/-- A stack on which an operator comes next. A parenthesis that is closed before
its contents are complete stays on top, and no operator can follow it. -/
inductive Stack.Holding : Stack → Prop where
  | complete {e : Expr} {rest : Stack} (hrest : Waiting rest) (he : e.Grouped)
      (hhead : 7 ≤ e.headLevel) (htail : 7 ≤ e.tailLevel) : Holding (.operand e :: rest)
  | unmatched {e : Expr} {rest : Stack} (h : Facing .closeGroup e rest)
      (hfloor : floor rest < Operator.closeGroup.level) :
      Holding (.operator .closeGroup :: .operand e :: rest)

theorem Stack.Facing.of_complete {e : Expr} {rest : Stack} (incoming : Operator)
    (hrest : Waiting rest) (he : e.Grouped) (hhead : 7 ≤ e.headLevel)
    (htail : 7 ≤ e.tailLevel) : Facing incoming e rest := by
  refine ⟨hrest, he, Nat.lt_of_lt_of_le (floor_lt_seven rest) hhead, ?_⟩
  have hlevel : incoming.level ≤ 7 := by
    cases incoming <;> decide
  exact Nat.le_trans hlevel htail

theorem Stack.Holding.settle_ok {d : Dialect} {incoming : Operator}
    {stack settled : Stack} (h : Holding stack)
    (hsettle : settle d incoming stack = (.ok (), settled)) :
    ∃ e rest, Facing incoming e rest ∧ word (.operand e :: rest) = word stack ∧
      Settled incoming e rest settled := by
  cases h with
  | complete hrest he hhead htail =>
      exact (Facing.of_complete incoming hrest he hhead htail).settle_ok hsettle
  | unmatched =>
      rw [settle_operator] at hsettle
      cases (Prod.mk.inj hsettle).1

namespace Machine

/-- The shape of the stack on each side. -/
def Shaped (m : Machine) : Prop :=
  match m.side with
  | .operand => Stack.Waiting m.stack
  | .operator => Stack.Holding m.stack

theorem Shaped.waiting {m : Machine} (h : m.Shaped) (hside : m.side = .operand) :
    Stack.Waiting m.stack := by
  unfold Shaped at h
  rw [hside] at h
  exact h

theorem Shaped.holding {m : Machine} (h : m.Shaped) (hside : m.side = .operator) :
    Stack.Holding m.stack := by
  unfold Shaped at h
  rw [hside] at h
  exact h

/-- What a machine takes keeps the shape of the stack and goes to the end of the
word on it. -/
theorem Takes.shaped {d : Dialect} {m m' : Machine} {a : Entry} (h : m.Takes d a m')
    (hm : m.Shaped) :
    m'.Shaped ∧ Stack.word m'.stack = Stack.word m.stack ++ [a] := by
  cases h with
  | operand hside he =>
      obtain ⟨hgrouped, hhead, htail⟩ := Expr.grouped_of_isOperand he
      refine ⟨Stack.Holding.complete (hm.waiting hside) hgrouped hhead htail, ?_⟩
      simp [push, Stack.word, Entry.yield, Expr.yield_of_isOperand he]
  | openGroup hside =>
      exact ⟨Stack.Waiting.opened (.inl rfl) (hm.waiting hside), rfl⟩
  | cond hside =>
      exact ⟨Stack.Waiting.opened (.inr rfl) (hm.waiting hside), rfl⟩
  | closeGroup hside _ hsettle =>
      obtain ⟨e, rest, hfacing, hword, hsettled⟩ := (hm.holding hside).settle_ok hsettle
      rw [← hword]
      cases hsettled with
      | waits hfloor =>
          rcases hfloor with hend | hfloor
          · cases hend
          · exact ⟨Stack.Holding.unmatched hfacing hfloor, rfl⟩
      | closes _ hrest =>
          subst hrest
          obtain ⟨hwaiting, hgrouped, -, htail⟩ := hfacing
          cases hwaiting with
          | opened _ hbelow =>
              refine ⟨Stack.Holding.complete hbelow ⟨hgrouped, htail⟩ (Nat.le_refl _)
                (Nat.le_refl _), ?_⟩
              simp [Stack.word, Entry.yield, Expr.yield]
          | between hop => cases hop
      | ends hend => cases hend
  | @between op stack hside hop hsettle =>
      obtain ⟨e, rest, hfacing, hword, hsettled⟩ := (hm.holding hside).settle_ok hsettle
      rw [← hword]
      cases hsettled with
      | waits hfloor =>
          obtain ⟨hwaiting, hgrouped, hhead, htail⟩ := hfacing
          rcases hfloor with rfl | hfloor
          · cases hop
          · exact ⟨Stack.Waiting.between hop hwaiting hgrouped hhead htail hfloor, rfl⟩
      | closes hclose => subst hclose; cases hop
      | ends hend => subst hend; cases hop

theorem Follows.shaped {d : Dialect} {m m' : Machine} {w : List Entry}
    (h : Follows d m w m') (hm : m.Shaped) :
    m'.Shaped ∧ Stack.word m'.stack = Stack.word m.stack ++ w := by
  induction h with
  | nil m => exact ⟨hm, by simp⟩
  | cons htakes _ ih =>
      obtain ⟨hshaped, hword⟩ := htakes.shaped hm
      obtain ⟨hshaped', hword'⟩ := ih hshaped
      refine ⟨hshaped', ?_⟩
      rw [hword', hword, List.append_assoc]
      rfl

/-- A machine reads the word of a tree above any stack that the tree fits on. In
front of an operator that leaves the tree whole, what it has put onto the stack
then settles to the tree. -/
theorem exists_follows_yield (d : Dialect) {e : Expr} (he : e.Grouped) {m : Machine}
    (hside : m.side = .operand) (hwaiting : Stack.Waiting m.stack)
    (hhead : Stack.floor m.stack < e.headLevel) :
    ∃ stack, Follows d m e.yield { m with stack, side := .operator } ∧
      ∀ op : Operator, op.level ≤ e.tailLevel →
        Stack.settle d op stack = Stack.settle d op (.operand e :: m.stack) := by
  induction e generalizing m with
  | number value => exact ⟨_, .single (.operand hside rfl), fun _ _ => rfl⟩
  | symbol name => exact ⟨_, .single (.operand hside rfl), fun _ _ => rfl⟩
  | text literal => exact ⟨_, .single (.operand hside rfl), fun _ _ => rfl⟩
  | group inner ih =>
      obtain ⟨hinner, hclose⟩ := he
      have hinnerHead : 0 < inner.headLevel := by
        have hle := Nat.le_trans hclose inner.tailLevel_le_headLevel
        exact Nat.lt_of_lt_of_le (by decide) hle
      obtain ⟨stack, hfollows, hsettle⟩ :=
        ih (m := push { m with brackets := m.brackets.push } (.operator .openGroup) .operand)
          hinner rfl (.opened (.inl rfl) hwaiting) hinnerHead
      have hgroup : Stack.settle d .closeGroup stack =
          (.ok (), .operand (.group inner) :: m.stack) :=
        (hsettle .closeGroup hclose).trans (Stack.settle_group d inner m.stack)
      refine ⟨.operand (.group inner) :: m.stack, ?_, fun _ _ => rfl⟩
      exact .cons (.openGroup hside)
        (hfollows.append (.single (.closeGroup rfl (Brackets.pop_push _) hgroup)))
  | binary op left right ihLeft ihRight =>
      obtain ⟨hbinary, hleft, hright, hleftTail, hrightHead⟩ := he
      have hop : op.followsOperand = true := by simp [Operator.followsOperand, hbinary]
      have hclose : op ≠ .closeGroup := by
        rintro rfl
        cases hbinary
      have hfloor : Stack.floor m.stack < op.level := hhead
      have hleftHead : Stack.floor m.stack < left.headLevel :=
        Nat.lt_of_lt_of_le hfloor (Nat.le_trans hleftTail left.tailLevel_le_headLevel)
      obtain ⟨stack, hfollows, hsettle⟩ := ihLeft hleft hside hwaiting hleftHead
      have hshift : Stack.settle d op stack =
          (.ok (), .operator op :: .operand left :: m.stack) :=
        (hsettle op hleftTail).trans
          (Stack.settle_of_floor_lt d left hwaiting hclose hfloor)
      rw [← Stack.floor_between (.operand left :: m.stack) (.inl hbinary)] at hrightHead
      obtain ⟨stack', hfollows', hsettle'⟩ :=
        ihRight (m := { m with
            stack := .operator op :: .operand left :: m.stack, side := .operand })
          hright rfl (.between hop hwaiting hleft hleftHead hleftTail hfloor) hrightHead
      refine ⟨stack', hfollows.append (.cons (.between rfl hop hshift) hfollows'), ?_⟩
      intro o ho
      obtain ⟨hle, htail⟩ := Nat.le_min.mp ho
      exact (hsettle' o htail).trans (Stack.settle_binary d left right m.stack hbinary hle)
  | select cond yes no ihCond ihYes ihNo =>
      obtain ⟨hcond, hyes, hno, hcondTail, hyesTail, hnoHead⟩ := he
      have hcondHead : 0 < cond.headLevel := by
        have hle := Nat.le_trans hcondTail cond.tailLevel_le_headLevel
        exact Nat.lt_of_lt_of_le (by decide) hle
      have hyesHead : 0 < yes.headLevel := by
        have hle := Nat.le_trans hyesTail yes.tailLevel_le_headLevel
        exact Nat.lt_of_lt_of_le (by decide) hle
      have hthenLevel : 0 < Operator.thenBranch.level := by decide
      have helseLevel : 0 < Operator.elseBranch.level := by decide
      have hopened : Stack.Waiting (.operator .cond :: m.stack) := .opened (.inr rfl) hwaiting
      obtain ⟨stack, hfollows, hsettle⟩ :=
        ihCond (m := m.push (.operator .cond) .operand) hcond rfl hopened hcondHead
      have hthen : Stack.settle d .thenBranch stack =
          (.ok (), .operator .thenBranch :: .operand cond :: .operator .cond :: m.stack) :=
        (hsettle .thenBranch hcondTail).trans
          (Stack.settle_of_floor_lt d cond hopened (by decide) hthenLevel)
      have hwaiting' : Stack.Waiting
          (.operator .thenBranch :: .operand cond :: .operator .cond :: m.stack) :=
        .between rfl hopened hcond hcondHead hcondTail hthenLevel
      obtain ⟨stack', hfollows', hsettle'⟩ :=
        ihYes (m := { m with
            stack := .operator .thenBranch :: .operand cond :: .operator .cond :: m.stack
            side := .operand })
          hyes rfl hwaiting' hyesHead
      have helse : Stack.settle d .elseBranch stack' =
          (.ok (), .operator .elseBranch :: .operand yes :: .operator .thenBranch ::
            .operand cond :: .operator .cond :: m.stack) :=
        (hsettle' .elseBranch hyesTail).trans
          (Stack.settle_of_floor_lt d yes hwaiting' (by decide) helseLevel)
      obtain ⟨stack'', hfollows'', hsettle''⟩ :=
        ihNo (m := { m with
            stack := .operator .elseBranch :: .operand yes :: .operator .thenBranch ::
              .operand cond :: .operator .cond :: m.stack
            side := .operand })
          hno rfl (.between rfl hwaiting' hyes hyesHead hyesTail helseLevel) hnoHead
      refine ⟨stack'', .cons (.cond hside) (hfollows.append (.cons (.between rfl rfl hthen)
        (hfollows'.append (.cons (.between rfl rfl helse) hfollows'')))), ?_⟩
      intro o ho
      obtain ⟨hle, htail⟩ := Nat.le_min.mp ho
      exact (hsettle'' o htail).trans (Stack.settle_select d cond yes no m.stack hle)

theorem run_append (d : Dialect) (s : Scopes) (m : Machine) (ts us : List Token) :
    run d s m (ts ++ us) = run d s m ts >>= fun m' => run d s m' us := by
  induction ts generalizing m with
  | nil => rfl
  | cons t ts ih =>
      simp only [List.cons_append, run]
      split
      · exact ih _
      · rfl

theorem result_eq_ok_iff {m : Machine} {e : Expr} (hdone : m.done = true) :
    m.result = .ok e ↔ m.stack = [.operand e] := by
  rw [result, hdone, if_pos rfl]
  constructor
  · intro h
    split at h
    · next e' hstack => rw [hstack, Except.ok.inj h]
    · cases h
  · intro h
    rw [h]

theorem run_end_finish_eq_ok_iff {d : Dialect} {s : Scopes} {m : Machine} {t : Token}
    {code : String} (hdone : m.done = false) (ht : t.kind = .endOfInput) :
    (run d s m [t] >>= finish d) = .ok code ↔
      m.side = .operator ∧ m.brackets.isBalanced = true ∧
        ∃ e, Stack.settle d .endOfInput m.stack = (.ok (), [.operand e]) ∧
          e.render d = code := by
  have htrivia : t.isTrivia = false := by simp [Lexeme.isTrivia, ht]
  have hop : operatorOf? t.toLexeme = some .endOfInput := by simp [operatorOf?, ht]
  rw [bind_eq_ok_iff]
  simp only [run, feed, htrivia, step, hdone, Bool.false_eq_true, if_false]
  cases hside : m.side with
  | operand => simp [stepOperand, hop]
  | operator =>
      simp only [stepOperator, hop, Brackets.ensureBalanced]
      cases hbalanced : m.brackets.isBalanced with
      | false => simp
      | true =>
          simp only [if_true, Machine.settle]
          rcases hsettle : Stack.settle d .endOfInput m.stack with ⟨_ | _, stack⟩
          · simp
          · simp [finish, map_eq_ok_iff, result_eq_ok_iff]

end Machine

open Machine (Follows run finish)

theorem Expr.IsTreeOf.exists_follows (d : Dialect) {e : Expr} {w : List Entry}
    (h : e.IsTreeOf w) :
    ∃ stack, Follows d {} w { stack, side := .operator } ∧
      Stack.settle d .endOfInput stack = (.ok (), [.operand e]) := by
  obtain ⟨hgrouped, rfl⟩ := h
  obtain ⟨stack, hfollows, hsettle⟩ :=
    Machine.exists_follows_yield d (m := {}) hgrouped rfl .empty hgrouped.headLevel_pos
  refine ⟨stack, hfollows, ?_⟩
  rw [hsettle .endOfInput (Nat.zero_le _)]
  exact Stack.settle_end d e

theorem Expr.IsTreeOf.unique {e e' : Expr} {w : List Entry} (h : e.IsTreeOf w)
    (h' : e'.IsTreeOf w) : e' = e := by
  obtain ⟨stack, hfollows, hsettle⟩ := h.exists_follows .standard
  obtain ⟨stack', hfollows', hsettle'⟩ := h'.exists_follows .standard
  have hmachine := hfollows.unique hfollows'
  have hstack : stack = stack' := congrArg Machine.stack hmachine
  subst hstack
  rw [hsettle] at hsettle'
  simpa using hsettle'.symm

variable {d : Dialect} {s : Scopes} {ts : List Token} {last : Token}

theorem exists_isTreeOf_of_compiled {code : String}
    (hts : ∀ t ∈ ts, t.kind ≠ .endOfInput) (hlast : last.kind = .endOfInput)
    (h : (run d s {} (ts ++ [last]) >>= finish d) = .ok code) :
    ∃ w, List.Forall₂ (Reads d s) (significant ts) w ∧ ∃ e : Expr, e.IsTreeOf w := by
  rw [Machine.run_append, bind_assoc] at h
  obtain ⟨m, hrun, hend⟩ := bind_eq_ok_iff.mp h
  obtain ⟨w, hreads, hfollows, hdone⟩ := Machine.exists_follows_of_run rfl hts hrun
  obtain ⟨hside, -, e, hsettle, -⟩ :=
    (Machine.run_end_finish_eq_ok_iff hdone hlast).mp hend
  obtain ⟨hshaped, hword⟩ := hfollows.shaped Stack.Waiting.empty
  obtain ⟨e', rest, hfacing, hword', hsettled⟩ := (hshaped.holding hside).settle_ok hsettle
  refine ⟨w, hreads, e', hfacing.grouped, ?_⟩
  have hrest : rest = [] := by
    cases hsettled with
    | closes hclose => cases hclose
    | ends _ hrest => exact hrest
  subst hrest
  exact hword'.trans hword

theorem Expr.IsTreeOf.compiled {e : Expr} {w : List Entry}
    (hlast : last.kind = .endOfInput)
    (hreads : List.Forall₂ (Reads d s) (significant ts) w) (h : e.IsTreeOf w) :
    (run d s {} (ts ++ [last]) >>= finish d) = .ok (e.render d) := by
  obtain ⟨stack, hfollows, hsettle⟩ := h.exists_follows d
  obtain ⟨line, hrun⟩ := Machine.exists_run_of_follows rfl hreads hfollows
  rw [Machine.run_append, bind_assoc, hrun]
  exact (Machine.run_end_finish_eq_ok_iff rfl hlast).mpr ⟨rfl, rfl, e, hsettle, rfl⟩

end KeywordLang.Expression
