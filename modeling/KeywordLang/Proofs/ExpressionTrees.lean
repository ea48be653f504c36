import KeywordLang.Proofs.ExpressionGrammar

/-!
The words of the grammar are the words of the trees. Each category has two levels,
which the trees of its words reach as a right operand and in front of an operator.
-/

namespace KeywordLang.Expression

/-- The least level of the trees of a category as a right operand. -/
def Category.headLevel : Category → Nat
  | .closed => 7
  | .items => 5
  | .assignment => 2
  | .sentence => 1

/-- The least level of the trees of a category in front of an operator. -/
def Category.tailLevel : Category → Nat
  | .closed => 7
  | .items => 4
  | .assignment => 2
  | .sentence => 1

theorem Operator.level_of_joinsItems {op : Operator} (h : op.joinsItems = true) :
    op.isBinary = true ∧ 5 ≤ op.level ∧ op.level ≤ 6 := by
  cases op <;> simp_all [Operator.joinsItems, Operator.isBinary, Operator.level]

theorem Operator.level_of_joinsAssignments {op : Operator}
    (h : op.joinsAssignments = true) : op.isBinary = true ∧ op.level = 1 := by
  cases op <;> simp_all [Operator.joinsAssignments, Operator.isBinary, Operator.level]

theorem Operator.joins_of_isBinary {op : Operator} (h : op.isBinary = true) :
    op.joinsAssignments = true ∨ op = .assign ∨ op.joinsItems = true := by
  cases op <;>
    simp_all [Operator.joinsItems, Operator.joinsAssignments, Operator.isBinary]

theorem Expr.yield_of_isOperand {e : Expr} (h : e.isOperand = true) :
    e.yield = [.operand e] := by
  cases e <;> simp_all [Expr.isOperand, Expr.yield]

theorem Expr.grouped_of_isOperand {e : Expr} (h : e.isOperand = true) :
    e.Grouped ∧ 7 ≤ e.headLevel ∧ 7 ≤ e.tailLevel := by
  cases e <;> simp_all [Expr.isOperand, Expr.Grouped, Expr.headLevel, Expr.tailLevel]

theorem Expr.tailLevel_le_headLevel (e : Expr) : e.tailLevel ≤ e.headLevel := by
  cases e with
  | binary op left right => exact Nat.min_le_left _ _
  | select cond yes no =>
      exact Nat.le_trans (Nat.min_le_left _ _) (by decide : Operator.elseBranch.level ≤ 7)
  | _ => exact Nat.le_refl _

/-- Only a conditional is looser in front of an operator than as a right operand,
and it is as tight as its branches there. -/
theorem Expr.headLevel_le_tailLevel {e : Expr} (h : e.Grouped) :
    min Operator.elseBranch.level e.headLevel ≤ e.tailLevel := by
  induction e with
  | binary op left right ihLeft ihRight =>
      obtain ⟨-, -, hright, -, hhead⟩ := h
      have htail := ihRight hright
      simp only [Expr.headLevel, Expr.tailLevel]
      omega
  | select cond yes no ihCond ihYes ihNo =>
      obtain ⟨-, -, hno, -, -, hhead⟩ := h
      have htail := ihNo hno
      simp only [Expr.tailLevel]
      omega
  | _ => exact Nat.le_trans (Nat.min_le_right _ _) (Nat.le_refl _)

theorem Expr.Grouped.headLevel_pos {e : Expr} (h : e.Grouped) : 0 < e.headLevel := by
  cases e with
  | binary op left right =>
      obtain ⟨hbinary, -⟩ := h
      cases op <;> simp_all [Operator.isBinary, Expr.headLevel, Operator.level]
  | _ => exact (by decide : 0 < 7)

/-- The grammar derives the word of a tree in all categories that its levels admit.
Items that do not end with a conditional can be followed by further items. -/
structure Expr.Derivable (e : Expr) : Prop where
  word : ∀ {c : Category}, c.headLevel ≤ e.headLevel → c.tailLevel ≤ e.tailLevel →
    Derives c e.yield
  joined : 5 ≤ e.tailLevel → ∀ {op : Operator} {v : List Entry}, op.joinsItems = true →
    Derives .items v → Derives .items (e.yield ++ .operator op :: v)

theorem Expr.Grouped.admits_items {e : Expr} (h : e.Grouped) (hhead : 2 < e.headLevel) :
    Category.items.headLevel ≤ e.headLevel ∧ Category.items.tailLevel ≤ e.tailLevel := by
  have htail := Expr.headLevel_le_tailLevel h
  have hfive : 5 ≤ e.headLevel := by
    cases e with
    | binary op left right =>
        rcases Operator.joins_of_isBinary h.1 with hop | rfl | hop
        · have hlevel := (Operator.level_of_joinsAssignments hop).2
          simp only [Expr.headLevel] at hhead
          omega
        · simp [Expr.headLevel, Operator.level] at hhead
        · exact (Operator.level_of_joinsItems hop).2.1
    | _ => exact (by decide : 5 ≤ 7)
  simp only [Operator.level] at htail
  simp only [Category.headLevel, Category.tailLevel]
  omega

theorem Expr.Derivable.items {e : Expr} (h : e.Derivable) (hgrouped : e.Grouped)
    (hhead : 2 < e.headLevel) : Derives .items e.yield :=
  h.word (hgrouped.admits_items hhead).1 (hgrouped.admits_items hhead).2

end KeywordLang.Expression
