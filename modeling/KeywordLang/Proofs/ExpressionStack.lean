import KeywordLang.Proofs.ExpressionTrees

/-!
The stack of an expression read in part. It keeps the word that has been read, and
each of its operators waits for a right operand: the operators beneath it are looser
or have been opened before it. What an incoming operator completes keeps both.
-/

namespace KeywordLang.Expression

theorem Operator.weight_lt_weight_iff (o op : Operator) :
    o.weight < op.weight ↔ o.level < op.level := by
  cases o <;> cases op <;> decide

/-- Whether an operator stands after an operand and before another one. -/
def Operator.followsOperand (op : Operator) : Bool :=
  op.isBinary || op = .thenBranch || op = .elseBranch

theorem Operator.isBinary_or_of_followsOperand {op : Operator}
    (h : op.followsOperand = true) :
    op = .thenBranch ∨ op.isBinary = true ∨ op = .elseBranch := by
  cases op <;> simp_all [Operator.followsOperand, Operator.isBinary]

/-- The level that the operators above an operator exceed. A parenthesis, a
condition and a first branch may hold operators of every level. -/
def Operator.floor : Operator → Nat
  | .openGroup | .cond | .thenBranch => 0
  | op => op.level

/-- The word of an entry of the stack. -/
def Entry.yield : Entry → List Entry
  | .operand e => e.yield
  | .operator op => [.operator op]

namespace Stack

/-- The word that has been read when a stack is left. -/
def word : Stack → List Entry
  | [] => []
  | entry :: rest => word rest ++ entry.yield

/-- The level that the operators above a stack exceed. -/
def floor : Stack → Nat
  | .operator op :: _ => op.floor
  | _ => 0

/-- A stack on which an operand comes next. -/
inductive Waiting : Stack → Prop where
  | empty : Waiting []
  | opened {op : Operator} {rest : Stack} (hop : op = .openGroup ∨ op = .cond)
      (hrest : Waiting rest) : Waiting (.operator op :: rest)
  | between {op : Operator} {left : Expr} {rest : Stack}
      (hop : op.followsOperand = true) (hrest : Waiting rest) (hleft : left.Grouped)
      (hhead : floor rest < left.headLevel) (htail : op.level ≤ left.tailLevel)
      (hfloor : floor rest < op.level) :
      Waiting (.operator op :: .operand left :: rest)

/-- An operand on top of a stack, in front of an incoming operator. -/
structure Facing (incoming : Operator) (e : Expr) (rest : Stack) : Prop where
  waiting : Waiting rest
  grouped : e.Grouped
  head : floor rest < e.headLevel
  tail : incoming.level ≤ e.tailLevel

theorem settle_of_settled {d : Dialect} {incoming : Operator} {stack settled : Stack}
    (h : pass d incoming stack = .settled settled) :
    settle d incoming stack = (.ok (), settled) := by
  rw [settle]
  split <;> simp_all

theorem settle_of_formed {d : Dialect} {incoming : Operator} {stack formed : Stack}
    (h : pass d incoming stack = .formed formed) :
    settle d incoming stack = settle d incoming formed := by
  rw [settle]
  split <;> simp_all

theorem settle_of_refused {d : Dialect} {incoming : Operator} {stack rest : Stack}
    {fault : Fault} (h : pass d incoming stack = .refused fault rest) :
    settle d incoming stack = (.error fault, rest) := by
  rw [settle]
  split <;> simp_all

theorem settleOperator_group (d : Dialect) (right : Expr) (rest : Stack) :
    settleOperator d .closeGroup .openGroup right rest =
      .settled (.operand (.group right) :: rest) := rfl

theorem settleOperator_opened {op incoming : Operator} (d : Dialect) (right : Expr)
    (rest : Stack) (hop : op = .openGroup ∨ op = .cond ∨ op = .thenBranch)
    (hclose : op = .openGroup → incoming ≠ .closeGroup) :
    settleOperator d incoming op right rest =
      .settled (.operator incoming :: .operand right :: .operator op :: rest) := by
  rcases hop with rfl | rfl | rfl
  · unfold settleOperator
    split <;> simp_all
  · rfl
  · rfl

theorem settleOperator_between {op : Operator} (d : Dialect) (incoming : Operator)
    (left right : Expr) (rest : Stack) (hop : op.isBinary = true ∨ op = .elseBranch) :
    settleOperator d incoming op right (.operand left :: rest) =
      if op.level < incoming.level then
        .settled (.operator incoming :: .operand right :: .operator op ::
          .operand left :: rest)
      else if op = .elseBranch then formSelect d left right rest
      else .formed (.operand (.binary op left right) :: rest) := by
  have hop' : op ≠ .openGroup ∧ op ≠ .cond ∧ op ≠ .thenBranch := by
    refine ⟨?_, ?_, ?_⟩ <;> rintro rfl <;> simp [Operator.isBinary] at hop
  simp only [← Operator.weight_lt_weight_iff]
  unfold settleOperator
  split
  iterate 4 · simp at hop'
  · rfl

theorem pass_operator (d : Dialect) (incoming op : Operator) (right : Expr)
    (rest : Stack) :
    pass d incoming (.operand right :: .operator op :: rest) =
      settleOperator d incoming op right rest := rfl

/-- The ends of the passes: the incoming operator stays above its operand, or it
closes a parenthesis, or it is the end of a complete expression. -/
inductive Settled (incoming : Operator) (e : Expr) (rest : Stack) : Stack → Prop where
  | waits (h : incoming = .endOfInput ∨ floor rest < incoming.level) :
      Settled incoming e rest (.operator incoming :: .operand e :: rest)
  | closes {below : Stack} (h : incoming = .closeGroup)
      (hrest : rest = .operator .openGroup :: below) :
      Settled incoming e rest (.operand (.group e) :: below)
  | ends (h : incoming = .endOfInput) (hrest : rest = []) :
      Settled incoming e rest [.operand e]

theorem Settled.waits_of_floor_eq_zero {incoming : Operator} {e : Expr} {rest : Stack}
    (h : floor rest = 0) :
    Settled incoming e rest (.operator incoming :: .operand e :: rest) := by
  apply Settled.waits
  rw [h]
  cases incoming <;> simp [Operator.level]

theorem floor_between {op : Operator} (rest : Stack)
    (hop : op.isBinary = true ∨ op = .elseBranch) :
    floor (.operator op :: rest) = op.level := by
  cases op <;> simp_all [floor, Operator.floor, Operator.isBinary]

theorem Waiting.of_operand {op : Operator} {left : Expr} {rest : Stack}
    (h : Waiting (.operator op :: .operand left :: rest)) :
    op.followsOperand = true ∧ Waiting rest ∧ left.Grouped ∧
      floor rest < left.headLevel ∧ op.level ≤ left.tailLevel ∧ floor rest < op.level := by
  cases h with
  | opened hop hrest => cases hrest
  | between hop hrest hleft hhead htail hfloor =>
      exact ⟨hop, hrest, hleft, hhead, htail, hfloor⟩

theorem Waiting.of_cond {rest : Stack} (h : Waiting (.operator .cond :: rest)) :
    Waiting rest := by
  cases h with
  | opened hop hrest => exact hrest
  | between hop => simp [Operator.followsOperand, Operator.isBinary] at hop

theorem floor_lt_seven (rest : Stack) : floor rest < 7 := by
  rcases rest with _ | ⟨entry, rest⟩
  · decide
  · rcases entry with e | op
    · exact (by decide : 0 < 7)
    · change op.floor < 7
      cases op <;> decide

theorem Facing.binary {incoming op : Operator} {left right : Expr} {rest : Stack}
    (h : Facing incoming right (.operator op :: .operand left :: rest))
    (hop : op.isBinary = true) (hle : incoming.level ≤ op.level) :
    Facing incoming (.binary op left right) rest := by
  obtain ⟨hwaiting, hright, hhead, htail⟩ := h
  obtain ⟨-, hrest, hleft, hleftHead, hleftTail, hfloor⟩ := hwaiting.of_operand
  rw [floor_between _ (.inl hop)] at hhead
  refine ⟨hrest, ⟨hop, hleft, hright, hleftTail, hhead⟩, hfloor, ?_⟩
  exact Nat.le_min.mpr ⟨hle, htail⟩

theorem Facing.select {incoming : Operator} {cond yes no : Expr} {rest : Stack}
    (h : Facing incoming no (.operator .elseBranch :: .operand yes ::
      .operator .thenBranch :: .operand cond :: .operator .cond :: rest))
    (hle : incoming.level ≤ Operator.elseBranch.level) :
    Facing incoming (.select cond yes no) rest := by
  obtain ⟨hwaiting, hno, hhead, htail⟩ := h
  obtain ⟨-, hthen, hyes, -, hyesTail, -⟩ := hwaiting.of_operand
  obtain ⟨-, hcond, hcond', -, hcondTail, -⟩ := hthen.of_operand
  refine ⟨hcond.of_cond, ⟨hcond', hyes, hno, hcondTail, hyesTail, hhead⟩,
    floor_lt_seven rest, ?_⟩
  exact Nat.le_min.mpr ⟨hle, htail⟩

theorem formSelect_cases (d : Dialect) (yes no : Expr) (stack : Stack) :
    (∃ cond rest,
      stack = .operator .thenBranch :: .operand cond :: .operator .cond :: rest ∧
      formSelect d yes no stack = .formed (.operand (.select cond yes no) :: rest)) ∨
    ∃ fault left, formSelect d yes no stack = .refused fault left := by
  simp only [formSelect, popExpected, popOperator, popOperand]
  split
  · split
    · split
      · split
        · split
          · next hthen _ _ _ _ _ _ hcond =>
              subst hthen hcond
              exact .inl ⟨_, _, rfl, rfl⟩
          · exact .inr ⟨_, _, rfl⟩
        · exact .inr ⟨_, _, rfl⟩
        · exact .inr ⟨_, _, rfl⟩
      · exact .inr ⟨_, _, rfl⟩
      · exact .inr ⟨_, _, rfl⟩
    · exact .inr ⟨_, _, rfl⟩
  · exact .inr ⟨_, _, rfl⟩
  · exact .inr ⟨_, _, rfl⟩

theorem Facing.pass_cases {incoming : Operator} {e : Expr} {rest : Stack} (d : Dialect)
    (h : Facing incoming e rest) :
    (∃ settled, pass d incoming (.operand e :: rest) = .settled settled ∧
      Settled incoming e rest settled) ∨
    (∃ e' rest', pass d incoming (.operand e :: rest) = .formed (.operand e' :: rest') ∧
      Facing incoming e' rest' ∧ word (.operand e' :: rest') = word (.operand e :: rest)) ∨
    (∃ fault left, pass d incoming (.operand e :: rest) = .refused fault left) := by
  have hwaiting := h.waiting
  cases hwaiting with
  | empty =>
      left
      by_cases hend : incoming = .endOfInput
      · exact ⟨_, if_pos hend, .ends hend rfl⟩
      · exact ⟨_, if_neg hend, .waits_of_floor_eq_zero rfl⟩
  | @opened op below hop hrest =>
      left
      rw [pass_operator]
      by_cases hgroup : op = .openGroup ∧ incoming = .closeGroup
      · obtain ⟨rfl, rfl⟩ := hgroup
        exact ⟨_, settleOperator_group d e below, .closes rfl rfl⟩
      · have hfloor : floor (.operator op :: below) = 0 := by
          rcases hop with rfl | rfl <;> rfl
        exact ⟨_, settleOperator_opened d e below (hop.imp id .inl)
          (fun hopen hclose => hgroup ⟨hopen, hclose⟩), .waits_of_floor_eq_zero hfloor⟩
  | @between op left below hop hrest hleft hhead htail hfloor =>
      rw [pass_operator]
      rcases Operator.isBinary_or_of_followsOperand hop with rfl | hop'
      · exact .inl ⟨_, settleOperator_opened d e _ (.inr (.inr rfl)) nofun,
          .waits_of_floor_eq_zero rfl⟩
      · rw [settleOperator_between d incoming left e below hop']
        by_cases hlt : op.level < incoming.level
        · rw [if_pos hlt]
          refine .inl ⟨_, rfl, .waits (.inr ?_)⟩
          rw [floor_between _ hop']
          exact hlt
        · rw [if_neg hlt]
          right
          rcases hop' with hbinary | rfl
          · have helse : op ≠ .elseBranch := by
              rintro rfl
              simp [Operator.isBinary] at hbinary
            rw [if_neg helse]
            refine .inl ⟨_, _, rfl, h.binary hbinary (Nat.le_of_not_lt hlt), ?_⟩
            simp [word, Entry.yield, Expr.yield]
          · rw [if_pos rfl]
            rcases formSelect_cases d left e below with
              ⟨cond, rest', rfl, hform⟩ | ⟨fault, left', hform⟩
            · refine .inl ⟨_, _, hform, h.select (Nat.le_of_not_lt hlt), ?_⟩
              simp [word, Entry.yield, Expr.yield]
            · exact .inr ⟨fault, left', hform⟩

/-- What settling can do to an operand in front of the incoming operator. The word
on the stack stays the same up to the incoming operator. -/
theorem Facing.settle_ok {d : Dialect} {incoming : Operator} {e : Expr}
    {rest settled : Stack} (h : Facing incoming e rest)
    (hsettle : settle d incoming (.operand e :: rest) = (.ok (), settled)) :
    ∃ e' rest', Facing incoming e' rest' ∧
      word (.operand e' :: rest') = word (.operand e :: rest) ∧
      Settled incoming e' rest' settled := by
  rcases h.pass_cases d with ⟨stack, hpass, hsettled⟩ | ⟨e', rest', hpass, h', hword⟩ |
    ⟨fault, left, hpass⟩
  · rw [settle_of_settled hpass] at hsettle
    obtain rfl := (Prod.mk.inj hsettle).2
    exact ⟨e, rest, h, rfl, hsettled⟩
  · have hlt := length_lt_of_pass_eq_formed hpass
    rw [settle_of_formed hpass] at hsettle
    obtain ⟨e'', rest'', h'', hword', hsettled⟩ := h'.settle_ok hsettle
    exact ⟨e'', rest'', h'', hword'.trans hword, hsettled⟩
  · rw [settle_of_refused hpass] at hsettle
    simp at hsettle
termination_by rest.length
decreasing_by simpa using hlt

theorem settle_of_floor_lt {incoming : Operator} {rest : Stack} (d : Dialect) (e : Expr)
    (hrest : Waiting rest) (hincoming : incoming ≠ .closeGroup)
    (hlt : floor rest < incoming.level) :
    settle d incoming (.operand e :: rest) =
      (.ok (), .operator incoming :: .operand e :: rest) := by
  apply settle_of_settled
  cases hrest with
  | empty =>
      apply if_neg
      rintro rfl
      exact Nat.not_lt_zero _ hlt
  | opened hop =>
      exact settleOperator_opened d e _ (hop.imp id .inl) (fun _ => hincoming)
  | between hop =>
      rcases Operator.isBinary_or_of_followsOperand hop with rfl | hop'
      · exact settleOperator_opened d e _ (.inr (.inr rfl)) (fun _ => hincoming)
      · rw [pass_operator, settleOperator_between d incoming _ e _ hop']
        rw [floor_between _ hop'] at hlt
        exact if_pos hlt

theorem settle_binary {incoming op : Operator} (d : Dialect) (left right : Expr)
    (rest : Stack) (hop : op.isBinary = true) (hle : incoming.level ≤ op.level) :
    settle d incoming (.operand right :: .operator op :: .operand left :: rest) =
      settle d incoming (.operand (.binary op left right) :: rest) := by
  have helse : op ≠ .elseBranch := by
    rintro rfl
    simp [Operator.isBinary] at hop
  apply settle_of_formed
  rw [pass_operator, settleOperator_between d incoming left right rest (.inl hop),
    if_neg (Nat.not_lt_of_le hle), if_neg helse]

theorem settle_select {incoming : Operator} (d : Dialect) (cond yes no : Expr)
    (rest : Stack) (hle : incoming.level ≤ Operator.elseBranch.level) :
    settle d incoming (.operand no :: .operator .elseBranch :: .operand yes ::
        .operator .thenBranch :: .operand cond :: .operator .cond :: rest) =
      settle d incoming (.operand (.select cond yes no) :: rest) := by
  apply settle_of_formed
  rw [pass_operator, settleOperator_between d incoming yes no _ (.inr rfl),
    if_neg (Nat.not_lt_of_le hle)]
  rfl

theorem settle_group (d : Dialect) (e : Expr) (rest : Stack) :
    settle d .closeGroup (.operand e :: .operator .openGroup :: rest) =
      (.ok (), .operand (.group e) :: rest) :=
  settle_of_settled (settleOperator_group d e rest)

theorem settle_end (d : Dialect) (e : Expr) :
    settle d .endOfInput [.operand e] = (.ok (), [.operand e]) :=
  settle_of_settled rfl

theorem settle_operator (d : Dialect) (incoming op : Operator) (rest : Stack) :
    settle d incoming (.operator op :: rest) =
      (.error (malformed (.operator op)), rest) :=
  settle_of_refused rfl

end Stack

end KeywordLang.Expression
