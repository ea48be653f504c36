import KeywordLang.Proofs.ProgramDeclarations

/-!
Programs compile one by one. What one program leaves behind for the next is the names of its
modules. They take nothing away from the names that may be used, and the only names that may
no longer be declared are their own.
-/

namespace KeywordLang

namespace Scopes

/-- The scopes with further modules that have been closed before. -/
def behind (s : Scopes) (modules : List String) : Scopes :=
  { s with modules := s.modules ++ modules }

variable {d : Dialect} {s : Scopes} {name : String} {modules : List String}

theorem Fresh.behind (h : s.Fresh d name) (hname : name ∉ modules) :
    (s.behind modules).Fresh d name := by
  refine ⟨h.toPermitted, ?_, h.functions, h.parameters, h.openModule, h.openFunction⟩
  rw [Scopes.behind, List.mem_append, not_or]
  exact ⟨h.modules, hname⟩

theorem not_fresh_behind (hname : name ∈ modules) : ¬ (s.behind modules).Fresh d name := by
  intro h
  exact h.modules (List.mem_append_right s.modules hname)

theorem isGlobal_behind (h : s.isGlobal d name = true) :
    (s.behind modules).isGlobal d name = true := by
  rcases isGlobal_eq_true_iff.mp h with hbuiltin | hmem
  · exact isGlobal_eq_true_iff.mpr (.inl hbuiltin)
  · exact isGlobal_eq_true_iff.mpr (.inr (List.mem_append_left modules hmem))

theorem exists_resolve_behind {kind : ScopeKind} (h : s.resolve d name = .ok kind) :
    ∃ kind', (s.behind modules).resolve d name = .ok kind' := by
  obtain ⟨hlength, hname⟩ := exists_resolve_iff.mp ⟨kind, h⟩
  refine exists_resolve_iff.mpr ⟨hlength, ?_⟩
  rcases hname with hname | hname | hname
  · exact .inl hname
  · exact .inr (.inl hname)
  · exact .inr (.inr (isGlobal_behind hname))

theorem checkExport_behind {entry : String} (h : s.checkExport d entry = .ok ()) :
    (s.behind modules).checkExport d entry = .ok () := by
  obtain ⟨hlength, hentry⟩ := checkExport_eq_ok_iff.mp h
  refine checkExport_eq_ok_iff.mpr ⟨hlength, ?_⟩
  rcases hentry with hentry | hentry
  · exact .inl hentry
  · exact .inr (isGlobal_behind hentry)

end Scopes

namespace Program

section Actions

variable {d : Dialect} {s s' : Scopes} {action : Action} {f : Fragment} {modules : List String}

theorem Grants.behind (h : Grants d s action s' f)
    (hs : ∀ name ∈ moduleNames s, name ∉ modules)
    (hname : ∀ x ∈ action.declaration?, x.name ∉ modules) :
    Grants d (s.behind modules) action (s'.behind modules) f := by
  cases h with
  | openModule hopen hfresh => exact .openModule hopen (hfresh.behind (hname _ rfl))
  | openFunction hfresh => exact .openFunction (hfresh.behind (hname _ rfl))
  | openParen => exact .openParen
  | closeParen hb => exact .closeParen hb
  | mark hopen hclose => exact .mark hopen hclose
  | parameter hfresh => exact .parameter (hfresh.behind (hname _ rfl))
  | assign => exact .assign
  | closeFunction hb => exact .closeFunction hb
  | selfReference hopen => exact .selfReference hopen
  | number hcheck => exact .number hcheck
  | text literal => exact .text literal
  | symbol hresolve =>
      obtain ⟨kind, hkind⟩ := Scopes.exists_resolve_behind hresolve
      exact .symbol hkind
  | @closeModule entry name hentry hopen hfresh =>
      have hmem : name ∈ moduleNames s := by simp [moduleNames, hopen]
      exact .closeModule (Scopes.checkExport_behind hentry) hopen (hfresh.behind (hs name hmem))

theorem Grants.outside (h : Grants d s action s' f)
    (hs : ∀ name ∈ moduleNames s, name ∉ modules)
    (hname : ∀ x ∈ action.declaration?, x.name ∉ modules) :
    ∀ name ∈ moduleNames s', name ∉ modules := by
  intro name hmem
  rw [h.moduleNames_eq, List.mem_append, List.mem_reverse] at hmem
  rcases hmem with hmem | hmem
  · obtain ⟨x, hx, rfl⟩ := List.mem_map.mp hmem
    exact hname x (Option.mem_toList.mp (List.mem_of_mem_filter hx))
  · exact hs name hmem

end Actions

namespace Machine

/-- The machine as it is when other modules, and their code, have gone before. -/
def behind (m : Machine) (modules : List String) (code : Array Fragment) : Machine :=
  { m with scopes := m.scopes.behind modules, code := code ++ m.code }

variable {d : Dialect} {m m' : Machine} {x : Lexeme} {xs : List Lexeme} {action : Action}
  {modules : List String} {code : Array Fragment}

theorem behind_moved (m : Machine) (next : Phase) (s : Scopes) (f : Fragment) :
    (m.behind modules code).moved next (s.behind modules) f =
      (m.moved next s f).behind modules code := by
  simp [behind, moved]

theorem act_declaration {s : Scopes} {f : Fragment} {declared : Declaration}
    (code : Array Fragment) (h : Grants d m.scopes action s f)
    (hdeclared : action.declaration? = some declared)
    (hname : declared.name ∈ modules) :
    (m.behind modules code).act d action =
      (.error (.alreadyDefined declared.name), m.behind modules code) := by
  have hcheck (hfresh : m.scopes.Fresh d declared.name) :
      (m.scopes.behind modules).checkNew d declared.name =
        .error (.alreadyDefined declared.name) :=
    Scopes.checkNew_of_not_fresh hfresh.length (Scopes.not_fresh_behind hname)
  cases h with
  | openModule hopen hfresh =>
      cases hdeclared
      have hbegin : (m.behind modules code).scopes.openModule = none := hopen
      rw [act, Scopes.beginModule, hbegin]
      change emitWith _ _ ((m.scopes.behind modules).checkNew d _ >>= _) = _
      rw [hcheck hfresh]
      rfl
  | openFunction hfresh =>
      cases hdeclared
      change emitWith _ _ (((m.scopes.behind modules).checkNew d _ >>= _).map _) = _
      rw [hcheck hfresh]
      rfl
  | parameter hfresh =>
      cases hdeclared
      change emitWith _ _ ((m.scopes.behind modules).checkNew d _ >>= _) = _
      rw [hcheck hfresh]
      rfl
  | _ => cases hdeclared

/-- Behind other modules, the machine goes on as before up to the first declaration of the
name of one of them. -/
theorem steps_behind (hm : ∀ name ∈ moduleNames m.scopes, name ∉ modules)
    (h : (reader d).steps m xs = .ok m') :
    (reader d).steps (m.behind modules code) xs =
      match (m.phase.declarations d.keywords xs).find? fun x => x.name ∈ modules with
      | none => .ok (m'.behind modules code)
      | some declared => .error (.alreadyDefined declared.name) := by
  -- `hm` is carried along because the name of an open module is checked once more when the
  -- module is closed.
  induction xs generalizing m with
  | nil =>
      cases h
      rfl
  | cons x xs ih =>
      rcases hstep : m.step d x with ⟨fault | ⟨⟩, m₁⟩
      · rw [Reader.steps_cons_of_error xs hstep] at h
        cases h
      · rw [Reader.steps_cons_of_ok xs hstep] at h
        rcases step_cases hstep with ⟨next, hnext, rfl⟩ |
          ⟨next, action, s, f, hnext, hgrants, rfl⟩
        · have hstep' : (m.behind modules code).step d x =
              (.ok (), behind { m with phase := next } modules code) :=
            step_of_next? hnext
          rw [Reader.steps_cons_of_ok xs hstep', Phase.declarations_cons xs hnext]
          exact ih hm h
        · have hnext' : (m.behind modules code).phase.next? d.keywords x =
              some (next, some action) := hnext
          rw [Phase.declarations_cons xs hnext, Option.bind_some, List.find?_append]
          by_cases hname : ∀ x ∈ action.declaration?, x.name ∉ modules
          · have hstep' := step_of_grants hnext' (hgrants.behind hm hname)
            rw [behind_moved] at hstep'
            have hpass : (action.declaration?.toList.find? fun x => x.name ∈ modules) = none := by
              rw [List.find?_eq_none]
              simpa using hname
            rw [Reader.steps_cons_of_ok xs hstep', hpass, Option.none_or]
            exact ih (hgrants.outside hm hname) h
          · obtain ⟨declared, hdeclared, hmem⟩ : ∃ x ∈ action.declaration?, x.name ∈ modules := by
              simpa using hname
            have hact := act_declaration code hgrants hdeclared hmem
            rw [Reader.steps_cons_of_error xs (step_of_act_error hnext' hact), hdeclared]
            simp [hmem]

end Machine

section Seam

variable {d : Dialect} {m m' : Machine} {source : String} {xs : List Lexeme}

theorem Machine.line_of_steps (h : (reader d).steps m xs = .ok m') : m'.line = m.line := by
  refine Reader.steps_keep (P := fun n => n.line = m.line) ?_ rfl h
  intro n x n' hn hstep
  rcases step_cases hstep with ⟨next, -, rfl⟩ | ⟨next, action, s, f, -, -, rfl⟩
  · exact hn
  · exact hn

/-- After a whole program, the machine is a new one behind the modules of that program. -/
theorem Machine.eq_behind_of_root (h : (reader d).steps {} xs = .ok m)
    (hphase : m.phase = .root) :
    m = behind {} m.scopes.modules m.code := by
  calc
    m = ⟨m.phase, m.scopes, m.code, m.line⟩ := rfl
    _ = ⟨.root, { modules := m.scopes.modules }, m.code, 1⟩ := by
      rw [hphase, ← scopes_of_root h hphase, line_of_steps h]
    _ = behind {} m.scopes.modules m.code := by
      simp [behind, Scopes.behind]

theorem Machine.mem_modules_of_root {name : String}
    (h : (reader d).steps {} (Scan.content d source.toList) = .ok m) (hphase : m.phase = .root) :
    name ∈ m.scopes.modules ↔ name ∈ modulesOf (declarations d source) := by
  have hopen : m.scopes.openModule = none := by
    rw [scopes_of_root h hphase]
  have hnames := moduleNames_of_steps h
  rw [moduleNames, hopen] at hnames
  have hmodules : m.scopes.modules = (modulesOf (declarations d source)).reverse ++ [] := hnames
  rw [hmodules, List.append_nil, List.mem_reverse]

end Seam

/-- Programs compile one by one. A program behind another one and a line break gives its own
code behind that of the other. Only where it declares the name of a module of the other is it
refused, and the first such declaration is the one reported. -/
theorem compileProgram_append (d : Dialect) (s₁ s₂ o₁ o₂ : String)
    (h₁ : compileProgram d s₁ = .ok o₁) (h₂ : compileProgram d s₂ = .ok o₂) :
    match (declarations d s₂).find? fun x => x.name ∈ modulesOf (declarations d s₁) with
    | none => compileProgram d (s₁ ++ "\n" ++ s₂) = .ok (o₁ ++ o₂)
    | some declared => ∃ line,
        compileProgram d (s₁ ++ "\n" ++ s₂) = .error ⟨.alreadyDefined declared.name, line⟩ := by
  have hknown := kind_ne_unknown_of_compileProgram h₁
  obtain ⟨m₁, hsteps₁, hphase₁, rfl⟩ := compileProgram_eq_ok_iff_steps.mp h₁
  obtain ⟨m₂, hsteps₂, hphase₂, rfl⟩ := compileProgram_eq_ok_iff_steps.mp h₂
  have hcontent : Scan.content d (s₁ ++ "\n" ++ s₂).toList =
      Scan.content d s₁.toList ++ Scan.content d s₂.toList := by
    have hseam := Scan.content_append_lineBreak d s₂.toList hknown (List.forall_mem_nil _)
      List.not_mem_nil
    rw [← hseam]
    simp
  have hmodules : (fun x : Declaration => decide (x.name ∈ m₁.scopes.modules)) =
      fun x => decide (x.name ∈ modulesOf (declarations d s₁)) := by
    funext x
    rw [decide_eq_decide]
    exact Machine.mem_modules_of_root hsteps₁ hphase₁
  have hinitial : ∀ name ∈ moduleNames {}, name ∉ m₁.scopes.modules := by
    intro name hname
    cases hname
  have hsteps : (Machine.reader d).steps {} (Scan.content d (s₁ ++ "\n" ++ s₂).toList) =
      match (declarations d s₂).find? fun x => x.name ∈ modulesOf (declarations d s₁) with
      | none => .ok (m₂.behind m₁.scopes.modules m₁.code)
      | some declared => .error (.alreadyDefined declared.name) := by
    calc
      _ = (Machine.reader d).steps m₁ (Scan.content d s₂.toList) := by
        rw [hcontent, Reader.steps_append, hsteps₁]
        rfl
      _ = (Machine.reader d).steps (Machine.behind {} m₁.scopes.modules m₁.code)
          (Scan.content d s₂.toList) := by
        rw [← Machine.eq_behind_of_root hsteps₁ hphase₁]
      _ = _ := by
        rw [Machine.steps_behind hinitial hsteps₂, hmodules]
        rfl
  split
  · next hnone =>
      rw [hnone] at hsteps
      refine compileProgram_eq_ok_iff_steps.mpr ⟨_, hsteps, hphase₂, ?_⟩
      rw [Machine.behind, Array.toList_append, Code.render_append]
  · next declared hsome =>
      rw [hsome] at hsteps
      exact exists_compileProgram_eq_error hsteps

/-- The first source ends in a comment that no line break closes. Of two sources behind it,
one has a parameter of the name of its module. -/
theorem compileProgram_append_comment :
    let first := "module a start sin // \""
    let second := "module b fn f(x) = x start f"
    let third := "module b fn f(a) = a start f"
    let o₁ := "const m_A = function () \x7b\n  return m_SIN;\n\x7d();\n"
    let o₂ := "const m_B = function () \x7b\n  const m_F = (m_X) => (m_X);\n" ++
      "  return m_F;\n\x7d();\n"
    let o₃ := "const m_B = function () \x7b\n  const m_F = (m_A) => (m_A);\n" ++
      "  return m_F;\n\x7d();\n"
    compileProgram .latin first = .ok o₁ ∧ compileProgram .latin second = .ok o₂ ∧
      compileProgram .latin third = .ok o₃ ∧
      compileProgram .latin (first ++ "\n" ++ second) = .ok (o₁ ++ o₂) ∧
      ∃ line, compileProgram .latin (first ++ "\n" ++ third) =
        .error ⟨.alreadyDefined "A", line⟩ := by
  intro first second third o₁ o₂ o₃
  have h₁ : compileProgram .latin first = .ok o₁ := by decide +kernel
  have h₂ : compileProgram .latin second = .ok o₂ := by decide +kernel
  have h₃ : compileProgram .latin third = .ok o₃ := by decide +kernel
  have hfree : ((declarations .latin second).find? fun x =>
      x.name ∈ modulesOf (declarations .latin first)) = none := by decide +kernel
  have htaken : ((declarations .latin third).find? fun x =>
      x.name ∈ modulesOf (declarations .latin first)) = some ⟨.parameter, "A"⟩ := by
    decide +kernel
  have hsecond := compileProgram_append .latin first second o₁ o₂ h₁ h₂
  have hthird := compileProgram_append .latin first third o₁ o₃ h₁ h₃
  rw [hfree] at hsecond
  rw [htaken] at hthird
  exact ⟨h₁, h₂, h₃, hsecond, hthird⟩

end Program

end KeywordLang
