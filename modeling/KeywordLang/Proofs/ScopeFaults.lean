import KeywordLang.Proofs.ScopeChanges

namespace KeywordLang.Scopes

variable {d : Dialect} {s s' : Scopes} {name entry : String} {fault : Fault}

theorem checkLength_eq_error (h : checkLength d name = .error fault) :
    fault = .nameTooLong name d.maxNameLength := by
  unfold checkLength at h
  split at h
  · cases h
  · cases h
    rfl

theorem checkNew_eq_error (h : s.checkNew d name = .error fault) :
    fault = .nameTooLong name d.maxNameLength ∨ fault = .alreadyDefined name := by
  rcases check_bind_eq_error_iff.mp h with h | ⟨-, h⟩
  · exact .inl (checkLength_eq_error h)
  · right
    split at h
    · cases h
      rfl
    · cases h

theorem declareFunction_eq_error (h : s.declareFunction d name = .error fault) :
    fault = .nameTooLong name d.maxNameLength ∨ fault = .alreadyDefined name :=
  checkNew_eq_error (check_return_eq_error_iff.mp h)

theorem declareParameter_eq_error (h : s.declareParameter d name = .error fault) :
    fault = .nameTooLong name d.maxNameLength ∨ fault = .alreadyDefined name :=
  checkNew_eq_error (check_return_eq_error_iff.mp h)

theorem beginModule_eq_error (hopen : s.openModule = none)
    (h : s.beginModule d name = .error fault) :
    fault = .nameTooLong name d.maxNameLength ∨ fault = .alreadyDefined name := by
  simp only [beginModule, hopen] at h
  exact checkNew_eq_error (check_return_eq_error_iff.mp h)

theorem resolve_eq_error (h : s.resolve d name = .error fault) :
    fault = .nameTooLong name d.maxNameLength ∨ fault = .undefinedName name := by
  rcases check_bind_eq_error_iff.mp h with h | ⟨-, h⟩
  · exact .inl (checkLength_eq_error h)
  · right
    repeat' split at h
    all_goals cases h
    rfl

theorem checkExport_eq_error (h : s.checkExport d entry = .error fault) :
    fault = .nameTooLong entry d.maxNameLength ∨ fault = .undefinedName entry := by
  rcases check_bind_eq_error_iff.mp h with h | ⟨-, h⟩
  · exact .inl (checkLength_eq_error h)
  · right
    split at h
    · cases h
    · cases h
      rfl

/-- A module whose name can be made global is refused only for its export, and then
it stays open. -/
theorem endModule_eq_error (hopen : s.openModule = some name) (hname : s.left.Fresh d name)
    (h : s.endModule d entry = (.error fault, s')) :
    s.checkExport d entry = .error fault ∧ s' = s := by
  cases hexport : s.checkExport d entry with
  | error fault' =>
      simp only [endModule, hexport] at h
      cases h
      exact ⟨rfl, rfl⟩
  | ok =>
      rw [endModule_eq_ok_iff.mpr ⟨hexport, hopen, hname, rfl⟩] at h
      cases h

theorem closeBracket_eq_error (h : s.closeBracket = .error fault) :
    fault = .unbalanced .strayClose := by
  rw [closeBracket] at h
  cases hpop : s.brackets.pop with
  | error fault' =>
      rw [hpop] at h
      rw [← Except.error.inj h]
      exact Brackets.pop_eq_error hpop
  | ok b =>
      rw [hpop] at h
      cases h

theorem endFunction_eq_error (h : s.endFunction = .error fault) :
    fault = .unbalanced (.leftOpen s.brackets.depth) :=
  Brackets.ensureBalanced_eq_error (check_return_eq_error_iff.mp h)

end KeywordLang.Scopes
