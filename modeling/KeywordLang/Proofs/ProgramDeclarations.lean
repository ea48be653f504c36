import KeywordLang.Proofs.ProgramAtomicity
import KeywordLang.Proofs.Reader

/-!
What the actions of a program do to the scopes, the declarations of a program, read off its
lexemes, and what is left of a program once its last module has been closed: the names of
its modules.
-/

namespace KeywordLang.Program

/-- What an action makes of the scopes if it is granted, and the fragment that it adds. -/
inductive Grants (d : Dialect) (s : Scopes) : Action → Scopes → Fragment → Prop where
  | openModule {name : String} (hopen : s.openModule = none) (hname : s.Fresh d name) :
      Grants d s (.openModule name) { s with openModule := some name } (.moduleOpen name)
  | openFunction {name : String} (hname : s.Fresh d name) :
      Grants d s (.openFunction name)
        (Scopes.beginFunction { s with functions := name :: s.functions } name)
        (.functionOpen name)
  | openParen : Grants d s (.mark .openParen) s.openBracket (.mark .openParen)
  | closeParen {b : Brackets} (hb : s.brackets.pop = .ok b) :
      Grants d s (.mark .closeParen) { s with brackets := b } (.mark .closeParen)
  | mark {mark : Mark} (hopen : mark ≠ .openParen) (hclose : mark ≠ .closeParen) :
      Grants d s (.mark mark) s (.mark mark)
  | parameter {name : String} (hname : s.Fresh d name) :
      Grants d s (.parameter name) { s with parameters := name :: s.parameters } (.symbol name)
  | assign : Grants d s .assign s .assign
  | closeFunction (hb : s.brackets.isBalanced = true) :
      Grants d s .closeFunction { s with parameters := [], openFunction := none } .functionClose
  | selfReference {name : String} (hopen : s.openFunction = some name) :
      Grants d s .selfReference s (.symbol name)
  | number {text : String} {value : Nat} (hcheck : Numeral.check d text = .ok value) :
      Grants d s (.number text) s (.number value)
  | text (literal : String) : Grants d s (.text literal) s (.text literal)
  | symbol {name : String} {kind : ScopeKind} (hname : s.resolve d name = .ok kind) :
      Grants d s (.symbol name) s (.symbol name)
  | closeModule {entry name : String} (hentry : s.checkExport d entry = .ok ())
      (hopen : s.openModule = some name) (hname : s.left.Fresh d name) :
      Grants d s (.closeModule entry) { s.left with modules := name :: s.modules }
        (.moduleClose entry)

namespace Machine

variable {d : Dialect} {m m' : Machine} {x : Lexeme} {action : Action}

theorem exists_grants_of_act (h : m.act d action = (.ok (), m')) :
    ∃ s f, Grants d m.scopes action s f ∧
      m' = { m with scopes := s, code := m.code.push f } := by
  cases action with
  | openModule name =>
      obtain ⟨s, hs, rfl⟩ := emitWith_eq_ok_iff.mp h
      obtain ⟨hopen, hname, rfl⟩ := Scopes.beginModule_eq_ok_iff.mp hs
      exact ⟨_, _, .openModule hopen hname, rfl⟩
  | openFunction name =>
      obtain ⟨s, hs, rfl⟩ := emitWith_eq_ok_iff.mp h
      obtain ⟨s', hs', rfl⟩ := map_eq_ok_iff.mp hs
      obtain ⟨hname, rfl⟩ := Scopes.declareFunction_eq_ok_iff.mp hs'
      exact ⟨_, _, .openFunction hname, rfl⟩
  | mark mark =>
      by_cases hopen : mark = .openParen
      · subst hopen
        rw [act_openParen] at h
        obtain ⟨s, hs, rfl⟩ := emitWith_eq_ok_iff.mp h
        cases hs
        exact ⟨_, _, .openParen, rfl⟩
      · by_cases hclose : mark = .closeParen
        · subst hclose
          rw [act_closeParen] at h
          obtain ⟨s, hs, rfl⟩ := emitWith_eq_ok_iff.mp h
          obtain ⟨b, hb, rfl⟩ := Scopes.closeBracket_eq_ok_iff.mp hs
          exact ⟨_, _, .closeParen hb, rfl⟩
        · rw [act_mark hopen hclose] at h
          cases h
          exact ⟨_, _, .mark hopen hclose, rfl⟩
  | parameter name =>
      obtain ⟨s, hs, rfl⟩ := emitWith_eq_ok_iff.mp h
      obtain ⟨hname, rfl⟩ := Scopes.declareParameter_eq_ok_iff.mp hs
      exact ⟨_, _, .parameter hname, rfl⟩
  | assign =>
      cases h
      exact ⟨_, _, .assign, rfl⟩
  | closeFunction =>
      obtain ⟨s, hs, rfl⟩ := emitWith_eq_ok_iff.mp h
      obtain ⟨hb, rfl⟩ := Scopes.endFunction_eq_ok_iff.mp hs
      exact ⟨_, _, .closeFunction hb, rfl⟩
  | selfReference =>
      obtain ⟨name, hopen, rfl⟩ := act_selfReference_eq_ok_iff.mp h
      exact ⟨_, _, .selfReference hopen, rfl⟩
  | number text =>
      obtain ⟨value, hcheck, rfl⟩ := act_number_eq_ok_iff.mp h
      exact ⟨_, _, .number hcheck, rfl⟩
  | text literal =>
      cases h
      exact ⟨_, _, .text literal, rfl⟩
  | symbol name =>
      obtain ⟨s, hs, rfl⟩ := emitWith_eq_ok_iff.mp h
      obtain ⟨kind, hname, rfl⟩ := map_eq_ok_iff.mp hs
      exact ⟨_, _, .symbol hname, rfl⟩
  | closeModule entry =>
      obtain ⟨name, s, hend, rfl⟩ := act_closeModule_eq_ok_iff.mp h
      obtain ⟨hentry, hopen, hname, rfl⟩ := Scopes.endModule_eq_ok_iff.mp hend
      exact ⟨_, _, .closeModule hentry hopen hname, rfl⟩

theorem act_of_grants {s : Scopes} {f : Fragment} (h : Grants d m.scopes action s f) :
    m.act d action = (.ok (), { m with scopes := s, code := m.code.push f }) := by
  cases h with
  | openModule hopen hname =>
      rw [act, Scopes.beginModule_eq_ok_iff.mpr ⟨hopen, hname, rfl⟩]
      rfl
  | openFunction hname =>
      rw [act, Scopes.declareFunction_eq_ok_iff.mpr ⟨hname, rfl⟩]
      rfl
  | openParen => rfl
  | closeParen hb =>
      rw [act_closeParen, Scopes.closeBracket_eq_ok_iff.mpr ⟨_, hb, rfl⟩]
      rfl
  | mark hopen hclose =>
      rw [act_mark hopen hclose]
      rfl
  | parameter hname =>
      rw [act, Scopes.declareParameter_eq_ok_iff.mpr ⟨hname, rfl⟩]
      rfl
  | assign => rfl
  | closeFunction hb =>
      rw [act, Scopes.endFunction_eq_ok_iff.mpr ⟨hb, rfl⟩]
      rfl
  | selfReference hopen => exact act_selfReference_eq_ok_iff.mpr ⟨_, hopen, rfl⟩
  | number hcheck => exact act_number_eq_ok_iff.mpr ⟨_, hcheck, rfl⟩
  | text literal => rfl
  | symbol hname =>
      rw [act, hname]
      rfl
  | closeModule hentry hopen hname =>
      have hend := Scopes.endModule_eq_ok_iff.mpr ⟨hentry, hopen, hname, rfl⟩
      exact act_closeModule_eq_ok_iff.mpr ⟨_, _, hend, rfl⟩

theorem step_cases (h : m.step d x = (.ok (), m')) :
    (∃ next, m.phase.next? d.keywords x = some (next, none) ∧
      m' = { m with phase := next }) ∨
    ∃ next action s f, m.phase.next? d.keywords x = some (next, some action) ∧
      Grants d m.scopes action s f ∧ m' = m.moved next s f := by
  cases hnext : m.phase.next? d.keywords x with
  | none =>
      rw [step_of_next?_none hnext] at h
      cases h
  | some move =>
      obtain ⟨next, _ | action⟩ := move
      · rw [step_of_next? hnext] at h
        cases h
        exact .inl ⟨next, rfl, rfl⟩
      · obtain ⟨m'', hact, rfl⟩ := (step_eq_ok_iff_act hnext).mp h
        obtain ⟨s, f, hgrants, rfl⟩ := exists_grants_of_act hact
        exact .inr ⟨next, action, s, f, rfl, hgrants, rfl⟩

theorem step_of_grants {next : Phase} {s : Scopes} {f : Fragment}
    (hnext : m.phase.next? d.keywords x = some (next, some action))
    (h : Grants d m.scopes action s f) : m.step d x = (.ok (), m.moved next s f) :=
  step_of_act_ok hnext (act_of_grants h)

end Machine

/-- A name that is declared, and the scope that it goes into. A module becomes global. -/
structure Declaration where
  kind : ScopeKind
  name : String
deriving DecidableEq, Repr

def Action.declaration? : Action → Option Declaration
  | .openModule name => some ⟨.global, name⟩
  | .openFunction name => some ⟨.function, name⟩
  | .parameter name => some ⟨.parameter, name⟩
  | _ => none

/-- The declarations of lexemes from a phase on. -/
def Phase.declarations (k : Keywords) (phase : Phase) : List Lexeme → List Declaration
  | [] => []
  | x :: xs =>
      match phase.next? k x with
      | some (next, action) =>
          (action.bind Action.declaration?).toList ++ next.declarations k xs
      | none => []

def declarations (d : Dialect) (source : String) : List Declaration :=
  Phase.root.declarations d.keywords (Scan.content d source.toList)

def modulesOf (declarations : List Declaration) : List String :=
  (declarations.filter fun x => x.kind = .global).map Declaration.name

theorem modulesOf_append (xs ys : List Declaration) :
    modulesOf (xs ++ ys) = modulesOf xs ++ modulesOf ys := by
  rw [modulesOf, List.filter_append, List.map_append]
  rfl

theorem Phase.declarations_cons {k : Keywords} {phase next : Phase} {x : Lexeme}
    {action : Option Action} (xs : List Lexeme) (h : phase.next? k x = some (next, action)) :
    phase.declarations k (x :: xs) =
      (action.bind Action.declaration?).toList ++ next.declarations k xs := by
  rw [declarations, h]

/-- The names of all modules, the open one first. -/
def moduleNames (s : Scopes) : List String :=
  s.openModule.toList ++ s.modules

theorem Grants.moduleNames_eq {d : Dialect} {s s' : Scopes} {action : Action} {f : Fragment}
    (h : Grants d s action s' f) :
    moduleNames s' = (modulesOf action.declaration?.toList).reverse ++ moduleNames s := by
  cases h with
  | openModule hopen _ =>
      rw [moduleNames, moduleNames, hopen]
      rfl
  | closeModule _ hopen _ =>
      rw [moduleNames, moduleNames, hopen]
      rfl
  | _ => rfl

namespace Machine

variable {d : Dialect} {m m' : Machine} {x : Lexeme} {xs : List Lexeme}

theorem moduleNames_of_steps (h : (reader d).steps m xs = .ok m') :
    moduleNames m'.scopes =
      (modulesOf (m.phase.declarations d.keywords xs)).reverse ++ moduleNames m.scopes := by
  induction xs generalizing m with
  | nil =>
      cases h
      rfl
  | cons x xs ih =>
      rcases hstep : m.step d x with ⟨fault | ⟨⟩, m₁⟩
      · rw [Reader.steps_cons_of_error xs hstep] at h
        cases h
      · rw [Reader.steps_cons_of_ok xs hstep] at h
        rcases step_cases hstep with ⟨next, hnext, rfl⟩ |
          ⟨next, action, s, f, hnext, hgrants, rfl⟩
        · rw [ih h, Phase.declarations_cons xs hnext]
          rfl
        · have hnames : moduleNames (m.moved next s f).scopes = moduleNames s := rfl
          rw [ih h, Phase.declarations_cons xs hnext, modulesOf_append, hnames,
            hgrants.moduleNames_eq, List.reverse_append, List.append_assoc]
          rfl

/-- What is open tells which parts of the scopes are empty. -/
structure Tidy (m : Machine) : Prop where
  functions : m.phase.hasModule = false → m.scopes.functions = []
  parameters : m.phase.hasFunction = false → m.scopes.parameters = []
  brackets : m.phase.hasFunction = false → m.scopes.brackets = {}

theorem Takes.tidy {a : Terminal} (h : m.Takes d a m') (hm : m.Tidy) : m'.Tidy := by
  obtain ⟨hfunctions, hparameters, hbrackets⟩ := hm
  have hbalanced (hb : m.scopes.brackets.isBalanced = true) : m.scopes.brackets = {} :=
    congrArg Brackets.mk (beq_iff_eq.mp hb)
  cases h with
  | beginModule hphase =>
      rw [hphase] at hfunctions hparameters hbrackets
      exact ⟨hfunctions, hparameters, hbrackets⟩
  | nameModule hphase _ _ =>
      rw [hphase] at hparameters hbrackets
      exact ⟨nofun, hparameters, hbrackets⟩
  | firstFunction hphase =>
      rw [hphase] at hparameters hbrackets
      exact ⟨nofun, hparameters, hbrackets⟩
  | noFunction hphase =>
      rw [hphase] at hparameters hbrackets
      exact ⟨nofun, hparameters, hbrackets⟩
  | nextFunction _ hb => exact ⟨nofun, fun _ => rfl, fun _ => hbalanced hb⟩
  | lastFunction _ hb => exact ⟨nofun, fun _ => rfl, fun _ => hbalanced hb⟩
  | endModule hphase _ _ _ =>
      rw [hphase] at hparameters hbrackets
      exact ⟨fun _ => rfl, hparameters, hbrackets⟩
  | _ => exact ⟨nofun, nofun, nofun⟩

theorem Tidy.step (hm : m.Tidy) (h : m.step d x = (.ok (), m')) : m'.Tidy := by
  by_cases hx : x.kind = .endOfInput
  · obtain ⟨-, rfl⟩ := (step_endOfInput_eq_ok_iff hx).mp h
    exact hm
  · obtain ⟨a, -, htakes⟩ := exists_takes_of_step hx h
    exact htakes.tidy hm

/-- Between two modules, a machine has nothing but the modules closed so far and the code. -/
theorem scopes_of_root (h : (reader d).steps {} xs = .ok m) (hphase : m.phase = .root) :
    m.scopes = { modules := m.scopes.modules } := by
  have hsteady : m.Steady d :=
    Reader.steps_keep (fun _ _ _ hm hstep => Steady.step_eq_ok hm hstep) (Steady.initial d) h
  have hinitial : Tidy {} := ⟨fun _ => rfl, fun _ => rfl, fun _ => rfl⟩
  have htidy : m.Tidy :=
    Reader.steps_keep (fun _ _ _ hm hstep => Tidy.step hm hstep) hinitial h
  have hmodule : m.phase.hasModule = false := by
    rw [hphase]
    rfl
  have hfunction : m.phase.hasFunction = false := by
    rw [hphase]
    rfl
  calc
    m.scopes = ⟨m.scopes.modules, m.scopes.functions, m.scopes.parameters,
      m.scopes.openModule, m.scopes.openFunction, m.scopes.brackets⟩ := rfl
    _ = { modules := m.scopes.modules } := by
      rw [htidy.functions hmodule, htidy.parameters hfunction, htidy.brackets hfunction,
        hsteady.openModule_eq_none hmodule, hsteady.openFunction_eq_none hfunction]

end Machine

theorem Machine.outcome_last_eq_ok_iff {d : Dialect} {m : Machine} {output : String} :
    (reader d).outcome m [Lexeme.last] = .ok output ↔
      m.phase = .root ∧ Code.render d m.code.toList = output := by
  have hfinish (hphase : m.phase = .root) :
      (reader d).outcome m [] = .ok (Code.render d m.code.toList) := by
    change (m.finish d).mapError Diagnostic.fault = _
    rw [finish, hphase]
    rfl
  constructor
  · intro h
    rcases hstep : m.step d Lexeme.last with ⟨fault | ⟨⟩, m'⟩
    · rw [Reader.outcome_cons_of_error [] hstep] at h
      cases h
    · obtain ⟨hphase, rfl⟩ := (step_endOfInput_eq_ok_iff rfl).mp hstep
      rw [Reader.outcome_cons_of_ok [] hstep, hfinish hphase] at h
      exact ⟨hphase, Except.ok.inj h⟩
  · rintro ⟨hphase, rfl⟩
    have hstep : m.step d Lexeme.last = (.ok (), m) :=
      (step_endOfInput_eq_ok_iff rfl).mpr ⟨hphase, rfl⟩
    rw [Reader.outcome_cons_of_ok [] hstep, hfinish hphase]

theorem compileProgram_eq_ok_iff_steps {d : Dialect} {source output : String} :
    compileProgram d source = .ok output ↔
      ∃ m, (Machine.reader d).steps {} (Scan.content d source.toList) = .ok m ∧
        m.phase = .root ∧ Code.render d m.code.toList = output := by
  rw [← mapError_eq_ok_iff (f := Diagnostic.fault), mapError_compileProgram,
    Reader.outcome_append, bind_eq_ok_iff]
  simp only [Machine.outcome_last_eq_ok_iff]

theorem exists_compileProgram_eq_error {d : Dialect} {source : String} {fault : Fault}
    (h : (Machine.reader d).steps {} (Scan.content d source.toList) = .error fault) :
    ∃ line, compileProgram d source = .error ⟨fault, line⟩ := by
  have herror : (compileProgram d source).mapError Diagnostic.fault = .error fault := by
    rw [mapError_compileProgram, Reader.outcome_append, h]
    rfl
  obtain ⟨e, he, rfl⟩ := mapError_eq_error_iff.mp herror
  exact ⟨e.line, he⟩

theorem kind_ne_unknown_of_compileProgram {d : Dialect} {source output : String}
    (h : compileProgram d source = .ok output) :
    ∀ x ∈ Scan.content d source.toList, x.kind ≠ .unknown := by
  intro x hx
  rw [compileProgram_eq, Reader.compile, bind_eq_ok_iff] at h
  obtain ⟨m, hrun, -⟩ := h
  obtain ⟨ts, last, htokens, hts, -⟩ := Scan.exists_place 0 1 (Scan.lexemes d source.toList)
  have hmem : x ∈ ts.map Token.toLexeme := by
    rw [hts]
    exact List.mem_of_mem_filter hx
  obtain ⟨t, ht, rfl⟩ := List.mem_map.mp hmem
  apply Reader.kind_ne_unknown_of_run hrun t
  rw [Scan.tokens, htokens]
  exact List.mem_append_left [last] ht

end KeywordLang.Program
