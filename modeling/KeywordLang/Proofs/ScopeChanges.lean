import KeywordLang.Scopes
import KeywordLang.Proofs.Refusal

namespace KeywordLang.Scopes

/-- A name that a program may define somewhere. -/
structure Permitted (d : Dialect) (name : String) : Prop where
  length : name.length ≤ d.maxNameLength
  reserved : d.isReserved name = false
  builtin : d.isBuiltin name = false

/-- A permitted name that the program has not used up. -/
structure Fresh (d : Dialect) (s : Scopes) (name : String) : Prop
    extends Permitted d name where
  modules : name ∉ s.modules
  functions : name ∉ s.functions
  parameters : name ∉ s.parameters
  openModule : s.openModule ≠ some name
  openFunction : s.openFunction ≠ some name

variable {d : Dialect} {s s' : Scopes} {name : String}

theorem checkLength_eq_ok_iff :
    checkLength d name = .ok () ↔ name.length ≤ d.maxNameLength := by
  unfold checkLength
  split <;> simp_all

theorem isTaken_eq_false_iff (hlength : name.length ≤ d.maxNameLength) :
    s.isTaken d name = false ↔ s.Fresh d name := by
  simp only [isTaken, isGlobal, Bool.or_eq_false_iff, List.contains_eq_mem,
    decide_eq_false_iff_not, beq_eq_false_iff_ne]
  constructor
  · rintro ⟨⟨⟨⟨⟨hreserved, hbuiltin, hmodules⟩, hfunctions⟩, hparameters⟩, hmodule⟩,
      hfunction⟩
    exact ⟨⟨hlength, hreserved, hbuiltin⟩, hmodules, hfunctions, hparameters, hmodule,
      hfunction⟩
  · intro h
    exact ⟨⟨⟨⟨⟨h.reserved, h.builtin, h.modules⟩, h.functions⟩, h.parameters⟩,
      h.openModule⟩, h.openFunction⟩

theorem checkNew_eq_ok_iff : s.checkNew d name = .ok () ↔ s.Fresh d name := by
  simp only [checkNew, check_bind_eq_ok_iff, checkLength_eq_ok_iff]
  constructor
  · rintro ⟨hlength, h⟩
    rw [← isTaken_eq_false_iff hlength]
    split at h
    · cases h
    · next htaken => exact Bool.eq_false_iff.mpr htaken
  · intro h
    refine ⟨h.length, if_neg ?_⟩
    rw [(isTaken_eq_false_iff h.length).mpr h]
    exact Bool.false_ne_true

theorem checkNew_of_not_fresh (hlength : name.length ≤ d.maxNameLength)
    (h : ¬ s.Fresh d name) : s.checkNew d name = .error (.alreadyDefined name) := by
  have htaken : s.isTaken d name = true := by
    rw [← isTaken_eq_false_iff hlength] at h
    exact Bool.not_eq_false _ ▸ h
  simp only [checkNew, checkLength_eq_ok_iff.mpr hlength, htaken]
  rfl

theorem declareGlobal_eq_ok_iff :
    s.declareGlobal d name = .ok s' ↔
      s.Fresh d name ∧ s' = { s with modules := name :: s.modules } := by
  rw [declareGlobal, check_return_eq_ok_iff, checkNew_eq_ok_iff]

theorem declareFunction_eq_ok_iff :
    s.declareFunction d name = .ok s' ↔
      s.Fresh d name ∧ s' = { s with functions := name :: s.functions } := by
  rw [declareFunction, check_return_eq_ok_iff, checkNew_eq_ok_iff]

theorem declareParameter_eq_ok_iff :
    s.declareParameter d name = .ok s' ↔
      s.Fresh d name ∧ s' = { s with parameters := name :: s.parameters } := by
  rw [declareParameter, check_return_eq_ok_iff, checkNew_eq_ok_iff]

theorem beginModule_eq_ok_iff :
    s.beginModule d name = .ok s' ↔
      s.openModule = none ∧ s.Fresh d name ∧ s' = { s with openModule := some name } := by
  unfold beginModule
  split
  · next current hopen => simp [hopen]
  · next hopen =>
      rw [check_return_eq_ok_iff, checkNew_eq_ok_iff]
      simp only [hopen, true_and]

theorem endFunction_eq_ok_iff :
    s.endFunction = .ok s' ↔
      s.brackets.isBalanced = true ∧
        s' = { s with parameters := [], openFunction := none } := by
  rw [endFunction, check_return_eq_ok_iff, Brackets.ensureBalanced]
  split <;> simp_all

/-- The scopes of a module that is being left. -/
def left (s : Scopes) : Scopes :=
  { s with functions := [], openModule := none }

theorem checkExport_eq_ok_iff {entry : String} :
    s.checkExport d entry = .ok () ↔
      entry.length ≤ d.maxNameLength ∧ (entry ∈ s.functions ∨ s.isGlobal d entry = true) := by
  rw [checkExport, check_bind_eq_ok_iff, checkLength_eq_ok_iff]
  split <;> simp_all

theorem endModule_of_openModule {entry : String} (hexport : s.checkExport d entry = .ok ())
    (hopen : s.openModule = some name) :
    s.endModule d entry =
      match s.left.declareGlobal d name with
      | .error fault => (.error fault, s.left)
      | .ok closed => (.ok name, closed) := by
  simp only [endModule, hexport, hopen]
  rfl

/-- What the end of a module can do. It is granted in the last case only, and in
the middle one the module is left all the same. -/
theorem endModule_cases (d : Dialect) (s : Scopes) (entry : String) :
    (∃ fault, s.endModule d entry = (.error fault, s)) ∨
    (∃ name fault, s.openModule = some name ∧ ¬ s.left.Fresh d name ∧
      s.endModule d entry = (.error fault, s.left)) ∨
    (∃ name, s.checkExport d entry = .ok () ∧ s.openModule = some name ∧
      s.left.Fresh d name ∧ s.endModule d entry =
        (.ok name, { s.left with modules := name :: s.modules })) := by
  cases hexport : s.checkExport d entry with
  | error fault =>
      refine .inl ⟨fault, ?_⟩
      simp only [endModule, hexport]
  | ok =>
      cases hopen : s.openModule with
      | none =>
          refine .inl ⟨.unexpected .openModule (.excerpt entry), ?_⟩
          simp only [endModule, hexport, hopen]
      | some name =>
          right
          rw [endModule_of_openModule hexport hopen]
          cases hdeclare : s.left.declareGlobal d name with
          | error fault =>
              refine .inl ⟨name, fault, rfl, ?_, rfl⟩
              intro hfresh
              have hok := declareGlobal_eq_ok_iff.mpr ⟨hfresh, rfl⟩
              rw [hdeclare] at hok
              cases hok
          | ok closed =>
              obtain ⟨hfresh, rfl⟩ := declareGlobal_eq_ok_iff.mp hdeclare
              exact .inr ⟨name, rfl, rfl, hfresh, rfl⟩

theorem endModule_eq_ok_iff {entry : String} :
    s.endModule d entry = (.ok name, s') ↔
      s.checkExport d entry = .ok () ∧ s.openModule = some name ∧ s.left.Fresh d name ∧
        s' = { s.left with modules := name :: s.modules } := by
  constructor
  · intro h
    rcases endModule_cases d s entry with ⟨fault, h'⟩ | ⟨name', fault, -, -, h'⟩ |
      ⟨name', hexport, hopen, hfresh, h'⟩
    · rw [h'] at h
      cases h
    · rw [h'] at h
      cases h
    · rw [h'] at h
      cases h
      exact ⟨hexport, hopen, hfresh, rfl⟩
  · rintro ⟨hexport, hopen, hfresh, rfl⟩
    have hdeclare := declareGlobal_eq_ok_iff.mpr ⟨hfresh, rfl⟩
    rw [endModule_of_openModule hexport hopen, hdeclare]
    rfl

theorem closeBracket_eq_ok_iff :
    s.closeBracket = .ok s' ↔
      ∃ b, s.brackets.pop = .ok b ∧ s' = { s with brackets := b } := by
  rw [closeBracket, bind_eq_ok_iff]
  simp only [pure, Except.pure, Except.ok.injEq, eq_comm]

/-- All that a request can do to the scopes, whether it is granted or not. -/
inductive Change (d : Dialect) (s : Scopes) : Scopes → Prop where
  | unchanged : Change d s s
  | global {name : String} (h : s.Fresh d name) :
      Change d s { s with modules := name :: s.modules }
  | function {name : String} (h : s.Fresh d name) :
      Change d s { s with functions := name :: s.functions }
  | parameter {name : String} (h : s.Fresh d name) :
      Change d s { s with parameters := name :: s.parameters }
  | moduleOpened {name : String} (hopen : s.openModule = none) (h : s.Fresh d name) :
      Change d s { s with openModule := some name }
  | moduleLeft : Change d s s.left
  | moduleClosed {name : String} (hopen : s.openModule = some name)
      (h : s.left.Fresh d name) :
      Change d s { s.left with modules := name :: s.modules }
  | functionOpened (name : String) : Change d s (s.beginFunction name)
  | functionClosed : Change d s { s with parameters := [], openFunction := none }
  | brackets (b : Brackets) : Change d s { s with brackets := b }

theorem allOrNothing_change {x : Except Fault Scopes}
    (h : ∀ s', x = .ok s' → Change d s s') : Change d s (s.allOrNothing x).2 := by
  cases x with
  | error fault => exact .unchanged
  | ok s' => exact h s' rfl

theorem serve_change (d : Dialect) (s : Scopes) (r : ScopeRequest) :
    Change d s (s.serve d r).2 := by
  cases r with
  | declareGlobal name =>
      apply allOrNothing_change
      intro s' h
      obtain ⟨hfresh, rfl⟩ := declareGlobal_eq_ok_iff.mp h
      exact .global hfresh
  | declareFunction name =>
      apply allOrNothing_change
      intro s' h
      obtain ⟨hfresh, rfl⟩ := declareFunction_eq_ok_iff.mp h
      exact .function hfresh
  | declareParameter name =>
      apply allOrNothing_change
      intro s' h
      obtain ⟨hfresh, rfl⟩ := declareParameter_eq_ok_iff.mp h
      exact .parameter hfresh
  | resolve name => exact .unchanged
  | beginModule name =>
      apply allOrNothing_change
      intro s' h
      obtain ⟨hopen, hfresh, rfl⟩ := beginModule_eq_ok_iff.mp h
      exact .moduleOpened hopen hfresh
  | endModule entry =>
      have hserve : (s.serve d (.endModule entry)).2 = (s.endModule d entry).2 := rfl
      rw [hserve]
      rcases endModule_cases d s entry with ⟨fault, h⟩ | ⟨name, fault, -, -, h⟩ |
        ⟨name, -, hopen, hfresh, h⟩
      · rw [h]; exact .unchanged
      · rw [h]; exact .moduleLeft
      · rw [h]; exact .moduleClosed hopen hfresh
  | beginFunction name => exact .functionOpened name
  | endFunction =>
      apply allOrNothing_change
      intro s' h
      obtain ⟨-, rfl⟩ := endFunction_eq_ok_iff.mp h
      exact .functionClosed
  | openBracket => exact .brackets s.brackets.push
  | closeBracket =>
      apply allOrNothing_change
      intro s' h
      obtain ⟨b, -, rfl⟩ := closeBracket_eq_ok_iff.mp h
      exact .brackets b

end KeywordLang.Scopes
