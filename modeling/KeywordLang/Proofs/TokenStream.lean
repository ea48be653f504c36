import KeywordLang.Scan

namespace KeywordLang

/-- The lexemes of a list of tokens that are no trivia. -/
def significant (ts : List Token) : List Lexeme :=
  (ts.map Token.toLexeme).filter fun x => !x.isTrivia

@[simp] theorem significant_nil : significant [] = [] := rfl

theorem significant_cons_of_isTrivia {t : Token} (ts : List Token)
    (h : t.isTrivia = true) : significant (t :: ts) = significant ts := by
  simp [significant, h]

theorem significant_cons_of_not_isTrivia {t : Token} (ts : List Token)
    (h : t.isTrivia = false) :
    significant (t :: ts) = t.toLexeme :: significant ts := by
  simp [significant, h]

theorem significant_concat_of_isTrivia {t : Token} (ts : List Token)
    (h : t.isTrivia = true) : significant (ts ++ [t]) = significant ts := by
  simp [significant, h]

theorem significant_concat_of_not_isTrivia {t : Token} (ts : List Token)
    (h : t.isTrivia = false) :
    significant (ts ++ [t]) = significant ts ++ [t.toLexeme] := by
  simp [significant, h]

namespace Scan

theorem wordKind_ne_endOfInput (d : Dialect) (word : List Char) :
    wordKind d word ≠ .endOfInput := by
  unfold wordKind
  split
  · exact nofun
  · exact nofun

theorem first_ne_endOfInput (d : Dialect) (c : Char) (rest : List Char) :
    (first d c rest).1 ≠ .endOfInput := by
  unfold first
  repeat' split
  case isFalse.isFalse.isFalse.isTrue =>
    dsimp only
    exact wordKind_ne_endOfInput d _
  all_goals exact nofun

theorem kind_ne_endOfInput_of_mem_lexemes {d : Dialect} {cs : List Char} {x : Lexeme}
    (hx : x ∈ lexemes d cs) : x.kind ≠ .endOfInput := by
  induction cs using lexemes.induct d with
  | case1 =>
      rw [lexemes] at hx
      cases hx
  | case2 c rest kind length hfirst ih =>
      rw [lexemes, hfirst] at hx
      rcases List.mem_cons.mp hx with rfl | hx
      · have hkind := first_ne_endOfInput d c rest
        rw [hfirst] at hkind
        exact hkind
      · exact ih hx

theorem exists_place (offset line : Nat) (xs : List Lexeme) :
    ∃ ts last, place offset line xs = ts ++ [last] ∧ ts.map Token.toLexeme = xs ∧
      last.kind = .endOfInput := by
  induction xs generalizing offset line with
  | nil => exact ⟨[], _, rfl, rfl, rfl⟩
  | cons x xs ih =>
      obtain ⟨ts, last, hplace, hts, hlast⟩ :=
        ih (offset + x.text.utf8ByteSize) (line + x.text.toList.count '\n')
      refine ⟨⟨x, offset, line⟩ :: ts, last, ?_, ?_, hlast⟩
      · rw [place, hplace, List.cons_append]
      · rw [List.map_cons, hts]

end Scan

end KeywordLang
