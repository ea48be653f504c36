import KeywordLang.Proofs.ExpressionAcceptance
import Mathlib.Data.List.Infix

/-!
How entries stand above one another on the stack of an expression read in part.
Operands and operators take turns, and above each opening the operators get tighter
from one to the next. There are few levels of operators, so a stack is long only where
much has been opened.
-/

namespace KeywordLang.Expression

/-- Whether an operator opens a part of an expression that may hold operators of every
level. -/
def Operator.opens : Operator → Bool
  | .openGroup | .cond | .thenBranch => true
  | _ => false

theorem Operator.floor_of_opens_eq_false {op : Operator} (h : op.opens = false) :
    op.floor = op.level := by
  cases op <;> first | rfl | cases h

/-- Whether an entry is an operator that opens a part. -/
def Entry.opens : Entry → Bool
  | .operator op => op.opens
  | .operand _ => false

namespace Stack

def openings (stack : Stack) : Nat :=
  stack.countP Entry.opens

/-- How the entries of a stack stand above one another. The last entry comes first, so
an entry with all that is beneath it is a suffix of the stack. -/
structure Layered (stack : Stack) : Prop where
  /-- No operand stands on an operand. -/
  operand {e : Expr} {below : Stack} (h : .operand e :: below <:+ stack) :
    ∀ e', below.head? ≠ some (.operand e')
  /-- A parenthesis or a condition begins the expression or follows an operator. -/
  opening {op : Operator} {below : Stack} (h : .operator op :: below <:+ stack)
    (hop : op = .openGroup ∨ op = .cond) :
    below = [] ∨ ∃ op', below.head? = some (.operator op')
  /-- An operator between two operands and a closing parenthesis follow an operand. -/
  following {op : Operator} {below : Stack} (h : .operator op :: below <:+ stack)
    (hop : op.followsOperand = true ∨ op = .closeGroup) :
    ∃ e, below.head? = some (.operand e)
  /-- Nothing stands on a closing parenthesis. -/
  closing {below : Stack} (h : .operator .closeGroup :: below <:+ stack) :
    .operator .closeGroup :: below = stack
  /-- An operator is heavier than the one beneath its left operand, unless that one
  opens a part. -/
  tighter {op lower : Operator} {left : Expr} {below : Stack}
    (h : .operator op :: .operand left :: .operator lower :: below <:+ stack)
    (hlower : lower.opens = false) : lower.weight < op.weight

/-- The stacks that occur before anything is refused: an operand comes next, or an
operator does, or a closing parenthesis has found no partner. -/
inductive Intact : Stack → Prop where
  | waiting {stack : Stack} (h : Waiting stack) : Intact stack
  | operand {e : Expr} {rest : Stack} (h : Waiting rest) : Intact (.operand e :: rest)
  | unmatched {e : Expr} {rest : Stack} (h : Waiting rest)
      (hfloor : floor rest < Operator.closeGroup.level) :
      Intact (.operator .closeGroup :: .operand e :: rest)

section Layers

variable {stack sub rest below : Stack} {e : Expr} {op : Operator}

theorem Waiting.head?_ne_operand (h : Waiting stack) (e : Expr) :
    stack.head? ≠ some (.operand e) := by
  cases h <;> exact nofun

theorem Waiting.head?_ne_closeGroup (h : Waiting stack) :
    stack.head? ≠ some (.operator .closeGroup) := by
  cases h with
  | empty => exact nofun
  | opened hop => rcases hop with rfl | rfl <;> exact nofun
  | between hop =>
      rintro ⟨⟩
      cases hop

theorem Waiting.eq_nil_or_head?_eq (h : Waiting stack) :
    stack = [] ∨ ∃ op, stack.head? = some (.operator op) := by
  cases h with
  | empty => exact .inl rfl
  | opened => exact .inr ⟨_, rfl⟩
  | between => exact .inr ⟨_, rfl⟩

theorem Waiting.of_suffix (h : Waiting stack) (hsub : sub <:+ stack) :
    Intact sub ∧ sub.head? ≠ some (.operator .closeGroup) := by
  induction h with
  | empty =>
      rw [List.suffix_nil.mp hsub]
      exact ⟨.waiting .empty, nofun⟩
  | opened hop hrest ih =>
      rcases List.suffix_cons_iff.mp hsub with rfl | hsub
      · have hstack := Waiting.opened hop hrest
        exact ⟨.waiting hstack, hstack.head?_ne_closeGroup⟩
      · exact ih hsub
  | between hop hrest hleft hhead htail hfloor ih =>
      rcases List.suffix_cons_iff.mp hsub with rfl | hsub
      · have hstack := Waiting.between hop hrest hleft hhead htail hfloor
        exact ⟨.waiting hstack, hstack.head?_ne_closeGroup⟩
      · rcases List.suffix_cons_iff.mp hsub with rfl | hsub
        · exact ⟨.operand hrest, nofun⟩
        · exact ih hsub

theorem Intact.of_suffix (h : Intact stack) (hsub : sub <:+ stack) :
    Intact sub ∧ (sub.head? = some (.operator .closeGroup) → sub = stack) := by
  cases h with
  | waiting h =>
      obtain ⟨hintact, hhead⟩ := h.of_suffix hsub
      exact ⟨hintact, fun heq => absurd heq hhead⟩
  | operand h =>
      rcases List.suffix_cons_iff.mp hsub with rfl | hsub
      · exact ⟨.operand h, nofun⟩
      · obtain ⟨hintact, hhead⟩ := h.of_suffix hsub
        exact ⟨hintact, fun heq => absurd heq hhead⟩
  | unmatched h hfloor =>
      rcases List.suffix_cons_iff.mp hsub with rfl | hsub
      · exact ⟨.unmatched h hfloor, fun _ => rfl⟩
      · rcases List.suffix_cons_iff.mp hsub with rfl | hsub
        · exact ⟨.operand h, nofun⟩
        · obtain ⟨hintact, hhead⟩ := h.of_suffix hsub
          exact ⟨hintact, fun heq => absurd heq hhead⟩

theorem Intact.of_operand (h : Intact (.operand e :: rest)) : Waiting rest := by
  cases h with
  | waiting h => cases h
  | operand h => exact h

theorem Intact.of_opening (h : Intact (.operator op :: rest))
    (hop : op = .openGroup ∨ op = .cond) : Waiting rest := by
  cases h with
  | waiting h =>
      cases h with
      | opened _ hrest => exact hrest
      | between hop' => rcases hop with rfl | rfl <;> cases hop'
  | unmatched => rcases hop with hop | hop <;> cases hop

theorem Intact.of_following (h : Intact (.operator op :: rest))
    (hop : op.followsOperand = true ∨ op = .closeGroup) :
    ∃ e, rest.head? = some (.operand e) := by
  cases h with
  | waiting h =>
      cases h with
      | opened hop' =>
          rcases hop' with rfl | rfl <;>
            simp [Operator.followsOperand, Operator.isBinary] at hop
      | between => exact ⟨_, rfl⟩
  | unmatched => exact ⟨_, rfl⟩

theorem Intact.floor_lt (h : Intact (.operator op :: .operand e :: rest)) :
    floor rest < op.level := by
  cases h with
  | waiting h =>
      obtain ⟨-, -, -, -, -, hfloor⟩ := h.of_operand
      exact hfloor
  | unmatched _ hfloor => exact hfloor

theorem Intact.layered (h : Intact stack) : Layered stack where
  operand hsub := (h.of_suffix hsub).1.of_operand.head?_ne_operand
  opening hsub hop := ((h.of_suffix hsub).1.of_opening hop).eq_nil_or_head?_eq
  following hsub hop := (h.of_suffix hsub).1.of_following hop
  closing hsub := (h.of_suffix hsub).2 rfl
  tighter hsub hlower := by
    have hfloor := (h.of_suffix hsub).1.floor_lt
    rw [floor, Operator.floor_of_opens_eq_false hlower] at hfloor
    exact (Operator.weight_lt_weight_iff _ _).mpr hfloor

end Layers

section Length

variable {stack rest : Stack} {e : Expr} {op : Operator} {level : Nat}

theorem openings_operand (e : Expr) (rest : Stack) :
    openings (.operand e :: rest) = openings rest := rfl

theorem openings_operator (op : Operator) (rest : Stack) :
    openings (.operator op :: rest) = openings rest + if op.opens then 1 else 0 :=
  List.countP_cons

/-- The number of operators that can stand above one another up to a level, each tighter
than the one beneath it. The level of a closing parenthesis does not count, since nothing
stands on it. -/
def tiers (level : Nat) : Nat :=
  if level < Operator.closeGroup.level then level else level - 1

theorem tiers_le_five (h : level < 7) : tiers level ≤ 5 := by
  have hclose : Operator.closeGroup.level = 3 := rfl
  unfold tiers
  split <;> omega

theorem tiers_lt_tiers (hop : op.followsOperand = true) (h : level < op.level) :
    tiers level < tiers op.level := by
  have hlevel : op.level ≠ Operator.closeGroup.level := by
    cases op with
    | closeGroup => cases hop
    | _ => exact nofun
  have hclose : Operator.closeGroup.level = 3 := rfl
  unfold tiers
  split <;> split <;> omega

/-- Above an opening there are at most five operators with their left operands. -/
theorem Waiting.length_le (h : Waiting stack) :
    stack.length ≤ 11 * openings stack + 2 * tiers (floor stack) := by
  induction h with
  | empty => exact Nat.le_refl 0
  | @opened op rest hop hrest ih =>
      have hopens : op.opens = true := by
        rcases hop with rfl | rfl <;> rfl
      have hfive := tiers_le_five (floor_lt_seven rest)
      rw [openings_operator, hopens, if_pos rfl, List.length_cons]
      omega
  | @between op left rest hop hrest hleft hhead htail hfloor ih =>
      have hlt := tiers_lt_tiers hop hfloor
      rw [openings_operator, openings_operand, List.length_cons, List.length_cons]
      -- The first keyword after a condition opens a part, but it lies lower than operators
      -- of items, so little is beneath it.
      rcases Operator.isBinary_or_of_followsOperand hop with rfl | hop'
      · have hthree : tiers Operator.thenBranch.level = 3 := rfl
        have hopens : Operator.thenBranch.opens = true := rfl
        rw [if_pos hopens]
        omega
      · rw [floor_between _ hop']
        omega

theorem Intact.length_lt (h : Intact stack) : stack.length < 12 * (openings stack + 1) := by
  cases h with
  | waiting h =>
      have hlength := h.length_le
      have hfive := tiers_le_five (floor_lt_seven stack)
      omega
  | @operand e rest h =>
      have hlength := h.length_le
      have hfive := tiers_le_five (floor_lt_seven rest)
      rw [openings_operand, List.length_cons]
      omega
  | @unmatched e rest h hfloor =>
      have hlength := h.length_le
      have htiers : tiers (floor rest) = floor rest := if_pos hfloor
      have hclose : Operator.closeGroup.level = 3 := rfl
      rw [openings_operator, openings_operand, List.length_cons, List.length_cons]
      omega

theorem Intact.length_incoming_le (h : Intact stack) (op : Operator) :
    (Entry.operator op :: stack).length ≤ 12 * (openings (.operator op :: stack) + 1) := by
  have hlength := h.length_lt
  rw [openings_operator, List.length_cons]
  omega

end Length

end Stack

end KeywordLang.Expression
