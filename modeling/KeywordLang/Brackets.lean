import KeywordLang.Fault

namespace KeywordLang

/-- The number of open parentheses. There is no bound on it; a signed counter of 32 bits agrees
with it as long as fewer than `2 ^ 31` parentheses are open. -/
structure Brackets where
  depth : Nat := 0
deriving DecidableEq, Repr

namespace Brackets

def push (b : Brackets) : Brackets :=
  ⟨b.depth + 1⟩

def pop (b : Brackets) : Except Fault Brackets :=
  match b.depth with
  | 0 => .error (.unbalanced .strayClose)
  | depth + 1 => .ok ⟨depth⟩

def isBalanced (b : Brackets) : Bool :=
  b.depth == 0

def ensureBalanced (b : Brackets) : Except Fault Unit :=
  if b.isBalanced then .ok () else .error (.unbalanced (.leftOpen b.depth))

@[simp] theorem pop_push (b : Brackets) : b.push.pop = .ok b := rfl

theorem pop_eq_ok_iff {b b' : Brackets} : b.pop = .ok b' ↔ b.depth = b'.depth + 1 := by
  obtain ⟨depth⟩ := b
  obtain ⟨depth'⟩ := b'
  cases depth with
  | zero => simp [pop]
  | succ depth => simp [pop]

theorem pop_eq_error {b : Brackets} {fault : Fault} (h : b.pop = .error fault) :
    fault = .unbalanced .strayClose := by
  unfold pop at h
  split at h
  · cases h
    rfl
  · cases h

theorem isBalanced_iff {b : Brackets} : b.isBalanced = true ↔ b.depth = 0 :=
  beq_iff_eq

theorem ensureBalanced_eq_error {b : Brackets} {fault : Fault}
    (h : b.ensureBalanced = .error fault) : fault = .unbalanced (.leftOpen b.depth) := by
  unfold ensureBalanced at h
  split at h
  · cases h
  · cases h
    rfl

end Brackets

end KeywordLang
