/-!
Sets of code points, written as the sorted list of the inclusive ranges that
make them up.
-/

namespace KeywordLang.Text

/-- A set of code points: inclusive ranges in increasing order, no two of which
meet. -/
abbrev RangeTable := List (Nat × Nat)

namespace RangeTable

/-- Membership of a code point. The search stops at the first range that begins
beyond it. -/
def contains : RangeTable → Nat → Bool
  | [], _ => false
  | (first, last) :: rest, n => first ≤ n && (n ≤ last || contains rest n)

@[simp] theorem contains_nil (n : Nat) : contains [] n = false := rfl

theorem exists_mem_of_contains {table : RangeTable} {n : Nat}
    (h : table.contains n = true) : ∃ r ∈ table, r.1 ≤ n ∧ n ≤ r.2 := by
  induction table with
  | nil => simp at h
  | cons r rest ih =>
      simp only [contains, Bool.and_eq_true, Bool.or_eq_true, decide_eq_true_eq] at h
      obtain ⟨hfirst, hlast | hrest⟩ := h
      · exact ⟨r, List.mem_cons_self, hfirst, hlast⟩
      · obtain ⟨r', hmem, hbounds⟩ := ih hrest
        exact ⟨r', List.mem_cons_of_mem _ hmem, hbounds⟩

end RangeTable

end KeywordLang.Text
