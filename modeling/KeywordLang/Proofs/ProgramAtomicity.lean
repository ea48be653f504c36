import KeywordLang.Proofs.ProgramSteps
import KeywordLang.Proofs.ScopeFaults
import KeywordLang.Proofs.ScopeSeparation

/-!
A token that is refused changes nothing but the line. The end of a module could leave
the scopes half changed, but not in a phase that a run comes to: the phase tells
whether a module and a function are open, and a module that is open has a name that
can be made global.
-/

namespace KeywordLang

/-- Whether a fault is about a module or a function being open. -/
def Fault.isAboutOpenness : Fault → Bool
  | .moduleAlreadyOpen _ | .unexpected .openModule _ | .unexpected .openFunction _ => true
  | _ => false

namespace Program

def Phase.hasModule : Phase → Bool
  | .root | .moduleName => false
  | _ => true

def Phase.hasFunction : Phase → Bool
  | .root | .moduleName | .inModule | .functionName | .moduleEnd => false
  | _ => true

theorem Phase.hasModule_of_hasFunction {phase : Phase} (h : phase.hasFunction = true) :
    phase.hasModule = true := by
  cases phase with
  | root => cases h
  | moduleName => cases h
  | _ => rfl

theorem Phase.Leads.eq_moduleEnd {k : Keywords} {phase next : Phase} {x : Lexeme}
    {entry : String} (h : phase.Leads k x next (some (.closeModule entry))) :
    phase = .moduleEnd := by
  cases h
  rfl

namespace Machine

/-- The machine after some tokens. It goes on after those that it refuses. -/
def after (d : Dialect) (m : Machine) (ts : List Token) : Machine :=
  ts.foldl (fun m t => (m.feed d t).2) m

/-- The scopes of a machine are those of its phase. -/
structure Steady (d : Dialect) (m : Machine) : Prop where
  separate : m.scopes.Separate d
  openModule : m.scopes.openModule.isSome = m.phase.hasModule
  openFunction : m.scopes.openFunction.isSome = m.phase.hasFunction

variable {d : Dialect} {m m' : Machine} {x : Lexeme}

theorem Steady.initial (d : Dialect) : Steady d {} :=
  ⟨.empty d, rfl, rfl⟩

theorem Steady.moved {next : Phase} {s : Scopes} {f : Fragment} (hm : m.Steady d)
    (hphase : m.phase.hasFunction = true) (hnext : next.hasFunction = true)
    (hs : s.Separate d) (hmodule : s.openModule = m.scopes.openModule)
    (hfunction : s.openFunction = m.scopes.openFunction) : (m.moved next s f).Steady d where
  separate := hs
  openModule := calc
    s.openModule.isSome = m.scopes.openModule.isSome := by rw [hmodule]
    _ = m.phase.hasModule := hm.openModule
    _ = next.hasModule := by
      rw [Phase.hasModule_of_hasFunction hphase, Phase.hasModule_of_hasFunction hnext]
  openFunction := calc
    s.openFunction.isSome = m.scopes.openFunction.isSome := by rw [hfunction]
    _ = m.phase.hasFunction := hm.openFunction
    _ = next.hasFunction := hphase.trans hnext.symm

theorem Takes.steady {a : Terminal} (h : m.Takes d a m') (hm : m.Steady d) :
    m'.Steady d := by
  obtain ⟨hseparate, hmodule, hfunction⟩ := id hm
  cases h with
  | beginModule hphase =>
      rw [hphase] at hmodule hfunction
      exact ⟨hseparate, hmodule, hfunction⟩
  | nameModule hphase hopen hname =>
      rw [hphase] at hfunction
      exact ⟨(Scopes.Change.moduleOpened hopen hname).separate hseparate, rfl, hfunction⟩
  | firstFunction hphase =>
      rw [hphase] at hmodule hfunction
      exact ⟨hseparate, hmodule, hfunction⟩
  | noFunction hphase =>
      rw [hphase] at hmodule hfunction
      exact ⟨hseparate, hmodule, hfunction⟩
  | @nameFunction name hphase hname =>
      rw [hphase] at hmodule
      have hdeclared := (Scopes.Change.function hname).separate hseparate
      exact ⟨(Scopes.Change.functionOpened name).separate hdeclared, hmodule, rfl⟩
  | openParameters hphase =>
      have hs := (Scopes.Change.brackets m.scopes.brackets.push).separate hseparate
      exact hm.moved (by rw [hphase]; rfl) rfl hs rfl rfl
  | parameter hphase hname =>
      have hs := (Scopes.Change.parameter hname).separate hseparate
      rcases hphase with hphase | hphase
      · exact hm.moved (by rw [hphase]; rfl) rfl hs rfl rfl
      · exact hm.moved (by rw [hphase]; rfl) rfl hs rfl rfl
  | separator hphase => exact hm.moved (by rw [hphase]; rfl) rfl hseparate rfl rfl
  | @closeParameters b hphase hb =>
      have hs := (Scopes.Change.brackets b).separate hseparate
      rcases hphase with hphase | hphase
      · exact hm.moved (by rw [hphase]; rfl) rfl hs rfl rfl
      · exact hm.moved (by rw [hphase]; rfl) rfl hs rfl rfl
  | openParen hphase =>
      have hs := (Scopes.Change.brackets m.scopes.brackets.push).separate hseparate
      exact hm.moved (by rw [hphase]; rfl) rfl hs rfl rfl
  | @closeParen b hphase hb =>
      have hs := (Scopes.Change.brackets b).separate hseparate
      exact hm.moved (by rw [hphase]; rfl) rfl hs rfl rfl
  | nextFunction hphase hb =>
      rw [hphase] at hmodule
      exact ⟨Scopes.Change.functionClosed.separate hseparate, hmodule, rfl⟩
  | lastFunction hphase hb =>
      rw [hphase] at hmodule
      exact ⟨Scopes.Change.functionClosed.separate hseparate, hmodule, rfl⟩
  | endModule hphase hentry hopen hname =>
      rw [hphase] at hfunction
      exact ⟨(Scopes.Change.moduleClosed hopen hname).separate hseparate, rfl, hfunction⟩
  | assign hphase => exact hm.moved (by rw [hphase]; rfl) rfl hseparate rfl rfl
  | number hphase => exact hm.moved (by rw [hphase]; rfl) rfl hseparate rfl rfl
  | text hphase => exact hm.moved (by rw [hphase]; rfl) rfl hseparate rfl rfl
  | name hphase _ => exact hm.moved (by rw [hphase]; rfl) rfl hseparate rfl rfl
  | selfReference hphase _ => exact hm.moved (by rw [hphase]; rfl) rfl hseparate rfl rfl
  | mark hphase _ _ => exact hm.moved (by rw [hphase]; rfl) rfl hseparate rfl rfl

theorem Steady.openModule_eq_none (hm : m.Steady d) (hphase : m.phase.hasModule = false) :
    m.scopes.openModule = none := by
  rw [← Option.isNone_iff_eq_none, ← Option.isSome_eq_false_iff, hm.openModule, hphase]

theorem Steady.openFunction_eq_none (hm : m.Steady d) (hphase : m.phase.hasFunction = false) :
    m.scopes.openFunction = none := by
  rw [← Option.isNone_iff_eq_none, ← Option.isSome_eq_false_iff, hm.openFunction, hphase]

theorem Steady.fresh_of_moduleEnd (hm : m.Steady d) (hphase : m.phase = .moduleEnd) :
    ∃ name, m.scopes.openModule = some name ∧ m.scopes.left.Fresh d name := by
  have hmodule := hm.openModule
  rw [hphase] at hmodule
  obtain ⟨name, hopen⟩ := Option.isSome_iff_exists.mp hmodule
  obtain ⟨hmodules, -, hparameters, hname⟩ := hm.separate.openModule name hopen
  refine ⟨name, hopen, hname, hmodules, List.not_mem_nil, hparameters, nofun, ?_⟩
  rw [Scopes.left, hm.openFunction_eq_none (by rw [hphase]; rfl)]
  exact nofun

theorem act_openParen_ne_error {fault : Fault} :
    m.act d (.mark .openParen) ≠ (.error fault, m') := by
  rw [act_openParen]
  exact nofun

theorem act_closeParen_eq_error {fault : Fault}
    (h : m.act d (.mark .closeParen) = (.error fault, m')) :
    m' = m ∧ fault.isAboutOpenness = false := by
  rw [act_closeParen] at h
  obtain ⟨hrefused, rfl⟩ := emitWith_eq_error_iff.mp h
  rw [Scopes.closeBracket_eq_error hrefused]
  exact ⟨rfl, rfl⟩

theorem Steady.act_eq_error (hm : m.Steady d) {phase next : Phase} {action : Action}
    {fault : Fault} (hphase : m.phase = phase)
    (hleads : phase.Leads d.keywords x next (some action))
    (h : m.act d action = (.error fault, m')) :
    m' = m ∧ fault.isAboutOpenness = false := by
  cases hleads with
  | nameModule text =>
      rw [act] at h
      obtain ⟨hrefused, rfl⟩ := emitWith_eq_error_iff.mp h
      have hopen := hm.openModule_eq_none (by rw [hphase]; rfl)
      rcases Scopes.beginModule_eq_error hopen hrefused with rfl | rfl <;> exact ⟨rfl, rfl⟩
  | nameFunction text =>
      rw [act] at h
      obtain ⟨hrefused, rfl⟩ := emitWith_eq_error_iff.mp h
      have hrefused := map_eq_error_iff.mp hrefused
      rcases Scopes.declareFunction_eq_error hrefused with rfl | rfl <;> exact ⟨rfl, rfl⟩
  | openParameters hword => exact absurd h act_openParen_ne_error
  | firstParameter text =>
      rw [act] at h
      obtain ⟨hrefused, rfl⟩ := emitWith_eq_error_iff.mp h
      rcases Scopes.declareParameter_eq_error hrefused with rfl | rfl <;> exact ⟨rfl, rfl⟩
  | nextParameter text =>
      rw [act] at h
      obtain ⟨hrefused, rfl⟩ := emitWith_eq_error_iff.mp h
      rcases Scopes.declareParameter_eq_error hrefused with rfl | rfl <;> exact ⟨rfl, rfl⟩
  | separator hword => cases h
  | noParameters hword => exact act_closeParen_eq_error h
  | closeParameters hword => exact act_closeParen_eq_error h
  | assign hword => cases h
  | number text =>
      cases hcheck : Numeral.check d text with
      | ok value => simp [act, hcheck] at h
      | error fault' =>
          simp only [act, hcheck] at h
          cases h
          rw [Numeral.check_eq_error hcheck]
          exact ⟨rfl, rfl⟩
  | text literal => cases h
  | name text =>
      rw [act] at h
      obtain ⟨hrefused, rfl⟩ := emitWith_eq_error_iff.mp h
      have hrefused := map_eq_error_iff.mp hrefused
      rcases Scopes.resolve_eq_error hrefused with rfl | rfl <;> exact ⟨rfl, rfl⟩
  | selfReference hword =>
      have hopen := hm.openFunction
      rw [hphase] at hopen
      obtain ⟨name, hname⟩ := Option.isSome_iff_exists.mp hopen
      simp [act, hname] at h
  | @mark text mark hword =>
      cases mark with
      | openParen => exact absurd h act_openParen_ne_error
      | closeParen => exact act_closeParen_eq_error h
      | _ => cases h
  | nextFunction hword =>
      rw [act] at h
      obtain ⟨hrefused, rfl⟩ := emitWith_eq_error_iff.mp h
      rw [Scopes.endFunction_eq_error hrefused]
      exact ⟨rfl, rfl⟩
  | lastFunction hword =>
      rw [act] at h
      obtain ⟨hrefused, rfl⟩ := emitWith_eq_error_iff.mp h
      rw [Scopes.endFunction_eq_error hrefused]
      exact ⟨rfl, rfl⟩
  | endModule text =>
      obtain ⟨name, hopen, hname⟩ := hm.fresh_of_moduleEnd hphase
      rcases hend : m.scopes.endModule d (Text.upper text) with ⟨fault' | closed, s⟩
      · simp only [act, hend] at h
        cases h
        obtain ⟨hexport, rfl⟩ := Scopes.endModule_eq_error hopen hname hend
        rcases Scopes.checkExport_eq_error hexport with rfl | rfl <;> exact ⟨rfl, rfl⟩
      · simp [act, hend] at h

theorem Steady.step_eq_error (hm : m.Steady d) {fault : Fault}
    (h : m.step d x = (.error fault, m')) : m' = m ∧ fault.isAboutOpenness = false := by
  cases hnext : m.phase.next? d.keywords x with
  | none =>
      rw [step_of_next?_none hnext] at h
      cases h
      refine ⟨rfl, ?_⟩
      cases m.phase <;> rfl
  | some move =>
      obtain ⟨next, _ | action⟩ := move
      · rw [step_of_next? hnext] at h
        cases h
      · rcases hact : m.act d action with ⟨fault' | ⟨⟩, m''⟩
        · rw [step_of_act_error hnext hact] at h
          cases h
          exact hm.act_eq_error rfl (Phase.leads_of_next? hnext) hact
        · rw [step_of_act_ok hnext hact] at h
          cases h

theorem Steady.step_eq_ok (hm : m.Steady d) (h : m.step d x = (.ok (), m')) :
    m'.Steady d := by
  by_cases hx : x.kind = .endOfInput
  · obtain ⟨-, rfl⟩ := (step_endOfInput_eq_ok_iff hx).mp h
    exact hm
  · obtain ⟨a, -, htakes⟩ := exists_takes_of_step hx h
    exact htakes.steady hm

theorem Steady.atLine (hm : m.Steady d) (line : Nat) : Steady d { m with line } :=
  ⟨hm.separate, hm.openModule, hm.openFunction⟩

/-- A token is taken, or it is refused and changes the line only. -/
theorem Steady.feed_cases (hm : m.Steady d) (t : Token) :
    (∃ m', m.feed d t = (.ok (), m') ∧ m'.Steady d) ∨
    ∃ fault, m.feed d t = (.error ⟨fault, t.line⟩, { m with line := t.line }) ∧
      fault.isAboutOpenness = false := by
  cases ht : t.isTrivia with
  | true => exact .inl ⟨_, feed_of_isTrivia ht, hm.atLine t.line⟩
  | false =>
      rcases hstep : step d { m with line := t.line } t.toLexeme with ⟨fault | ⟨⟩, m'⟩
      · obtain ⟨rfl, hfault⟩ := (hm.atLine t.line).step_eq_error hstep
        exact .inr ⟨fault, feed_of_step_error ht hstep, hfault⟩
      · exact .inl ⟨m', feed_of_step_ok ht hstep, (hm.atLine t.line).step_eq_ok hstep⟩

theorem Steady.feed (hm : m.Steady d) (t : Token) : (m.feed d t).2.Steady d := by
  rcases hm.feed_cases t with ⟨m', h, hm'⟩ | ⟨fault, h, -⟩
  · rw [h]
    exact hm'
  · rw [h]
    exact hm.atLine t.line

theorem Steady.after (hm : m.Steady d) (ts : List Token) : (m.after d ts).Steady d := by
  induction ts generalizing m with
  | nil => exact hm
  | cons t ts ih => exact ih (hm.feed t)

/-- After any tokens, accepted or refused, a token that is refused changes nothing but
the line. It is never refused because of a module or a function that is open, or that
is not, and a module that ends always gets its name made global. -/
theorem refused_token_changes_line_only (d : Dialect) (ts : List Token) (t : Token) :
    let m := Machine.after d {} ts
    (∀ e, (m.feed d t).1 = .error e →
      (m.feed d t).2 = { m with line := t.line } ∧ e.fault.isAboutOpenness = false) ∧
    ∀ next entry,
      m.phase.next? d.keywords t.toLexeme = some (next, some (.closeModule entry)) →
        ∃ name closed, m.scopes.openModule = some name ∧
          m.scopes.left.declareGlobal d name = .ok closed := by
  intro m
  have hm : m.Steady d := (Steady.initial d).after ts
  constructor
  · intro e h
    rcases hm.feed_cases t with ⟨m', hfeed, -⟩ | ⟨fault, hfeed, hfault⟩
    · rw [hfeed] at h
      cases h
    · rw [hfeed] at h ⊢
      cases h
      exact ⟨rfl, hfault⟩
  · intro next entry h
    have hphase := (Phase.leads_of_next? h).eq_moduleEnd
    obtain ⟨name, hopen, hname⟩ := hm.fresh_of_moduleEnd hphase
    exact ⟨name, _, hopen, Scopes.declareGlobal_eq_ok_iff.mpr ⟨hname, rfl⟩⟩

end Machine

end Program

end KeywordLang
