import KeywordLang.Proofs.ProgramPhases

namespace KeywordLang.Program

theorem Reads.exists_operator {d : Dialect} {x : Lexeme} {a : Terminal} {word : String}
    (h : Reads d x a)
    (ha : a.spelling? d.keywords = some word) :
    ∃ text, x = ⟨.operator, text⟩ ∧ Text.upper text = word := by
  cases h with
  | operator hword => exact ⟨_, rfl, Option.some.inj (hword.symm.trans ha)⟩
  | _ => cases ha

theorem Reads.exists_name {d : Dialect} {x : Lexeme} {word : String}
    (h : Reads d x (.name word)) :
    ∃ text, x = ⟨.name, text⟩ ∧ Text.upper text = word := by
  cases h with
  | operator hword => cases hword
  | name text => exact ⟨text, rfl, rfl⟩

namespace Machine

/-- The machine in another phase, with other scopes and one more fragment. -/
def moved (m : Machine) (phase : Phase) (scopes : Scopes) (f : Fragment) : Machine :=
  { m with phase, scopes, code := m.code.push f }

/-- What the machine becomes by a terminal that it takes. -/
inductive Takes (d : Dialect) (m : Machine) : Terminal → Machine → Prop where
  | beginModule (hphase : m.phase = .root) :
      Takes d m .module { m with phase := .moduleName }
  | nameModule {name : String} (hphase : m.phase = .moduleName)
      (hopen : m.scopes.openModule = none) (hname : m.scopes.Fresh d name) :
      Takes d m (.name name)
        (m.moved .inModule { m.scopes with openModule := some name } (.moduleOpen name))
  | firstFunction (hphase : m.phase = .inModule) :
      Takes d m .function { m with phase := .functionName }
  | noFunction (hphase : m.phase = .inModule) :
      Takes d m .start { m with phase := .moduleEnd }
  | nameFunction {name : String} (hphase : m.phase = .functionName)
      (hname : m.scopes.Fresh d name) :
      Takes d m (.name name)
        (m.moved .parametersOpen
          (Scopes.beginFunction { m.scopes with functions := name :: m.scopes.functions } name)
          (.functionOpen name))
  | openParameters (hphase : m.phase = .parametersOpen) :
      Takes d m (.mark .openParen)
        (m.moved .firstParameter m.scopes.openBracket (.mark .openParen))
  | parameter {name : String} (hphase : m.phase = .firstParameter ∨ m.phase = .nextParameter)
      (hname : m.scopes.Fresh d name) :
      Takes d m (.name name)
        (m.moved .afterParameter { m.scopes with parameters := name :: m.scopes.parameters }
          (.symbol name))
  | separator (hphase : m.phase = .afterParameter) :
      Takes d m (.mark .comma) (m.moved .nextParameter m.scopes (.mark .comma))
  | closeParameters {b : Brackets}
      (hphase : m.phase = .firstParameter ∨ m.phase = .afterParameter)
      (hb : m.scopes.brackets.pop = .ok b) :
      Takes d m (.mark .closeParen)
        (m.moved .assignment { m.scopes with brackets := b } (.mark .closeParen))
  | assign (hphase : m.phase = .assignment) :
      Takes d m .assign (m.moved .body m.scopes .assign)
  | number {value : Nat} (hphase : m.phase = .body) :
      Takes d m (.number value) (m.moved .body m.scopes (.number value))
  | text {literal : String} (hphase : m.phase = .body) :
      Takes d m (.text literal) (m.moved .body m.scopes (.text literal))
  | name {name : String} {kind : ScopeKind} (hphase : m.phase = .body)
      (hname : m.scopes.resolve d name = .ok kind) :
      Takes d m (.name name) (m.moved .body m.scopes (.symbol name))
  | selfReference {name : String} (hphase : m.phase = .body)
      (hopen : m.scopes.openFunction = some name) :
      Takes d m .selfReference (m.moved .body m.scopes (.symbol name))
  | openParen (hphase : m.phase = .body) :
      Takes d m (.mark .openParen)
        (m.moved .body m.scopes.openBracket (.mark .openParen))
  | closeParen {b : Brackets} (hphase : m.phase = .body)
      (hb : m.scopes.brackets.pop = .ok b) :
      Takes d m (.mark .closeParen)
        (m.moved .body { m.scopes with brackets := b } (.mark .closeParen))
  | mark {mark : Mark} (hphase : m.phase = .body) (hopen : mark ≠ .openParen)
      (hclose : mark ≠ .closeParen) :
      Takes d m (.mark mark) (m.moved .body m.scopes (.mark mark))
  | nextFunction (hphase : m.phase = .body) (hb : m.scopes.brackets.isBalanced = true) :
      Takes d m .function
        (m.moved .functionName { m.scopes with parameters := [], openFunction := none }
          .functionClose)
  | lastFunction (hphase : m.phase = .body) (hb : m.scopes.brackets.isBalanced = true) :
      Takes d m .start
        (m.moved .moduleEnd { m.scopes with parameters := [], openFunction := none }
          .functionClose)
  | endModule {entry name : String} (hphase : m.phase = .moduleEnd)
      (hentry : m.scopes.checkExport d entry = .ok ())
      (hopen : m.scopes.openModule = some name) (hname : m.scopes.left.Fresh d name) :
      Takes d m (.name entry)
        (m.moved .root { m.scopes.left with modules := name :: m.scopes.modules }
          (.moduleClose entry))

variable {d : Dialect} {m m' : Machine} {x : Lexeme}

theorem emitWith_eq_ok_iff {f : Fragment} {r : Except Fault Scopes} :
    m.emitWith f r = (.ok (), m') ↔
      ∃ s, r = .ok s ∧ m' = { m with scopes := s, code := m.code.push f } := by
  cases r with
  | error fault => simp [emitWith]
  | ok s => simp [emitWith, emit, eq_comm]

theorem emitWith_eq_error_iff {f : Fragment} {r : Except Fault Scopes} {fault : Fault} :
    m.emitWith f r = (.error fault, m') ↔ r = .error fault ∧ m' = m := by
  cases r with
  | error fault' => simp [emitWith, eq_comm]
  | ok s => simp [emitWith]

theorem step_of_next?_none (h : m.phase.next? d.keywords x = none) :
    m.step d x = (.error (m.phase.refuse x), m) := by
  simp only [step, Phase.transition, h]

theorem step_of_next? {next : Phase} (h : m.phase.next? d.keywords x = some (next, none)) :
    m.step d x = (.ok (), { m with phase := next }) := by
  simp only [step, Phase.transition, h]

theorem step_of_act_ok {next : Phase} {action : Action}
    (h : m.phase.next? d.keywords x = some (next, some action))
    (hact : m.act d action = (.ok (), m')) :
    m.step d x = (.ok (), { m' with phase := next }) := by
  simp only [step, Phase.transition, h, hact]

theorem step_of_act_error {next : Phase} {action : Action} {fault : Fault}
    (h : m.phase.next? d.keywords x = some (next, some action))
    (hact : m.act d action = (.error fault, m')) : m.step d x = (.error fault, m') := by
  simp only [step, Phase.transition, h, hact]

theorem step_eq_ok_iff_act {next : Phase} {action : Action}
    (h : m.phase.next? d.keywords x = some (next, some action)) :
    m.step d x = (.ok (), m') ↔
      ∃ m'', m.act d action = (.ok (), m'') ∧ m' = { m'' with phase := next } := by
  rcases hact : m.act d action with ⟨fault | ⟨⟩, m''⟩
  · simp [step_of_act_error h hact]
  · simp [step_of_act_ok h hact, eq_comm]

theorem eq_moved_of_emitWith {next : Phase} {action : Action} {f : Fragment}
    {r : Except Fault Scopes} (hnext : m.phase.next? d.keywords x = some (next, some action))
    (h : m.step d x = (.ok (), m')) (hact : m.act d action = m.emitWith f r) :
    ∃ s, r = .ok s ∧ m' = m.moved next s f := by
  rw [step_eq_ok_iff_act hnext, hact] at h
  obtain ⟨m'', hm'', rfl⟩ := h
  obtain ⟨s, hs, rfl⟩ := emitWith_eq_ok_iff.mp hm''
  exact ⟨s, hs, rfl⟩

theorem eq_moved_of_emit {next : Phase} {action : Action} {f : Fragment}
    (hnext : m.phase.next? d.keywords x = some (next, some action))
    (h : m.step d x = (.ok (), m')) (hact : m.act d action = (.ok (), m.emit f)) :
    m' = m.moved next m.scopes f := by
  rw [step_of_act_ok hnext hact] at h
  cases h
  rfl

theorem act_openParen :
    m.act d (.mark .openParen) =
      m.emitWith (.mark .openParen) (.ok m.scopes.openBracket) := rfl

theorem act_closeParen :
    m.act d (.mark .closeParen) =
      m.emitWith (.mark .closeParen) m.scopes.closeBracket := rfl

theorem act_mark {mark : Mark} (hopen : mark ≠ .openParen) (hclose : mark ≠ .closeParen) :
    m.act d (.mark mark) = (.ok (), m.emit (.mark mark)) := by
  cases mark with
  | openParen => exact absurd rfl hopen
  | closeParen => exact absurd rfl hclose
  | _ => rfl

theorem act_number_eq_ok_iff {text : String} :
    m.act d (.number text) = (.ok (), m') ↔
      ∃ value, Numeral.check d text = .ok value ∧ m' = m.emit (.number value) := by
  cases hcheck : Numeral.check d text with
  | error fault => simp [act, hcheck]
  | ok value => simp [act, hcheck, eq_comm]

theorem act_selfReference_eq_ok_iff :
    m.act d .selfReference = (.ok (), m') ↔
      ∃ name, m.scopes.openFunction = some name ∧ m' = m.emit (.symbol name) := by
  cases hopen : m.scopes.openFunction with
  | none => simp [act, hopen]
  | some name => simp [act, hopen, eq_comm]

theorem act_closeModule_eq_ok_iff {entry : String} :
    m.act d (.closeModule entry) = (.ok (), m') ↔
      ∃ name s, m.scopes.endModule d entry = (.ok name, s) ∧
        m' = { m with scopes := s }.emit (.moduleClose entry) := by
  rcases hend : m.scopes.endModule d entry with ⟨fault | name, s⟩
  · simp [act, hend]
  · simp only [act, hend]
    constructor
    · rintro ⟨⟩
      exact ⟨name, s, rfl, rfl⟩
    · rintro ⟨name', s', ⟨⟩, rfl⟩
      rfl

theorem step_endOfInput_eq_ok_iff (hx : x.kind = .endOfInput) :
    m.step d x = (.ok (), m') ↔ m.phase = .root ∧ m' = m := by
  obtain ⟨kind, text⟩ := x
  obtain rfl : kind = .endOfInput := hx
  constructor
  · intro h
    cases hnext : m.phase.next? d.keywords ⟨.endOfInput, text⟩ with
    | none =>
        rw [step_of_next?_none hnext] at h
        cases h
    | some move =>
        obtain ⟨next, action⟩ := move
        generalize hphase : m.phase = phase at hnext
        cases Phase.leads_of_next? hnext
        rw [← hphase] at hnext
        rw [step_of_next? hnext] at h
        cases h
        exact ⟨rfl, rfl⟩
  · rintro ⟨hphase, rfl⟩
    rw [step_of_next? (by rw [hphase]; rfl), ← hphase]

theorem exists_takes_of_step (hx : x.kind ≠ .endOfInput) (h : m.step d x = (.ok (), m')) :
    ∃ a, Reads d x a ∧ m.Takes d a m' := by
  cases hnext : m.phase.next? d.keywords x with
  | none =>
      rw [step_of_next?_none hnext] at h
      cases h
  | some move =>
      obtain ⟨next, action⟩ := move
      generalize hphase : m.phase = phase at hnext
      have hleads := Phase.leads_of_next? hnext
      rw [← hphase] at hnext
      cases hleads with
      | endOfInput text => exact absurd rfl hx
      | beginModule hword =>
          rw [step_of_next? hnext] at h
          cases h
          exact ⟨.module, .operator (congrArg some hword.symm), .beginModule hphase⟩
      | nameModule text =>
          obtain ⟨s, hs, rfl⟩ := eq_moved_of_emitWith hnext h (by rw [act])
          obtain ⟨hopen, hname, rfl⟩ := Scopes.beginModule_eq_ok_iff.mp hs
          exact ⟨_, .name text, .nameModule hphase hopen hname⟩
      | firstFunction hword =>
          rw [step_of_next? hnext] at h
          cases h
          exact ⟨.function, .operator (congrArg some hword.symm), .firstFunction hphase⟩
      | noFunction hword =>
          rw [step_of_next? hnext] at h
          cases h
          exact ⟨.start, .operator (congrArg some hword.symm), .noFunction hphase⟩
      | nameFunction text =>
          obtain ⟨s, hs, rfl⟩ := eq_moved_of_emitWith hnext h (by rw [act])
          obtain ⟨s', hs', rfl⟩ := map_eq_ok_iff.mp hs
          obtain ⟨hname, rfl⟩ := Scopes.declareFunction_eq_ok_iff.mp hs'
          exact ⟨_, .name text, .nameFunction hphase hname⟩
      | openParameters hword =>
          obtain ⟨s, hs, rfl⟩ := eq_moved_of_emitWith hnext h act_openParen
          cases hs
          exact ⟨.mark .openParen, .operator (congrArg some hword.symm),
            .openParameters hphase⟩
      | firstParameter text =>
          obtain ⟨s, hs, rfl⟩ := eq_moved_of_emitWith hnext h (by rw [act])
          obtain ⟨hname, rfl⟩ := Scopes.declareParameter_eq_ok_iff.mp hs
          exact ⟨_, .name text, .parameter (.inl hphase) hname⟩
      | nextParameter text =>
          obtain ⟨s, hs, rfl⟩ := eq_moved_of_emitWith hnext h (by rw [act])
          obtain ⟨hname, rfl⟩ := Scopes.declareParameter_eq_ok_iff.mp hs
          exact ⟨_, .name text, .parameter (.inr hphase) hname⟩
      | separator hword =>
          obtain rfl := eq_moved_of_emit hnext h (act_mark (by decide) (by decide))
          exact ⟨.mark .comma, .operator (congrArg some hword.symm), .separator hphase⟩
      | noParameters hword =>
          obtain ⟨s, hs, rfl⟩ := eq_moved_of_emitWith hnext h act_closeParen
          obtain ⟨b, hb, rfl⟩ := Scopes.closeBracket_eq_ok_iff.mp hs
          exact ⟨.mark .closeParen, .operator (congrArg some hword.symm),
            .closeParameters (.inl hphase) hb⟩
      | closeParameters hword =>
          obtain ⟨s, hs, rfl⟩ := eq_moved_of_emitWith hnext h act_closeParen
          obtain ⟨b, hb, rfl⟩ := Scopes.closeBracket_eq_ok_iff.mp hs
          exact ⟨.mark .closeParen, .operator (congrArg some hword.symm),
            .closeParameters (.inr hphase) hb⟩
      | assign hword =>
          obtain rfl := eq_moved_of_emit hnext h rfl
          exact ⟨.assign, .operator (congrArg some hword.symm), .assign hphase⟩
      | number text =>
          obtain ⟨m'', hact, rfl⟩ := (step_eq_ok_iff_act hnext).mp h
          obtain ⟨value, hcheck, rfl⟩ := act_number_eq_ok_iff.mp hact
          exact ⟨_, .number hcheck, .number hphase⟩
      | text literal =>
          obtain rfl := eq_moved_of_emit hnext h rfl
          exact ⟨_, .text literal, .text hphase⟩
      | name text =>
          obtain ⟨s, hs, rfl⟩ := eq_moved_of_emitWith hnext h (by rw [act])
          obtain ⟨kind, hkind, rfl⟩ := map_eq_ok_iff.mp hs
          exact ⟨_, .name text, .name hphase hkind⟩
      | selfReference hword =>
          obtain ⟨m'', hact, rfl⟩ := (step_eq_ok_iff_act hnext).mp h
          obtain ⟨name, hopen, rfl⟩ := act_selfReference_eq_ok_iff.mp hact
          exact ⟨.selfReference, .operator (congrArg some hword.symm),
            .selfReference hphase hopen⟩
      | @mark text mark hword =>
          refine ⟨.mark mark, .operator (congrArg some hword.symm), ?_⟩
          by_cases hopen : mark = .openParen
          · subst hopen
            obtain ⟨s, hs, rfl⟩ := eq_moved_of_emitWith hnext h act_openParen
            cases hs
            exact .openParen hphase
          · by_cases hclose : mark = .closeParen
            · subst hclose
              obtain ⟨s, hs, rfl⟩ := eq_moved_of_emitWith hnext h act_closeParen
              obtain ⟨b, hb, rfl⟩ := Scopes.closeBracket_eq_ok_iff.mp hs
              exact .closeParen hphase hb
            · obtain rfl := eq_moved_of_emit hnext h (act_mark hopen hclose)
              exact .mark hphase hopen hclose
      | nextFunction hword =>
          obtain ⟨s, hs, rfl⟩ := eq_moved_of_emitWith hnext h (by rw [act])
          obtain ⟨hb, rfl⟩ := Scopes.endFunction_eq_ok_iff.mp hs
          exact ⟨.function, .operator (congrArg some hword.symm), .nextFunction hphase hb⟩
      | lastFunction hword =>
          obtain ⟨s, hs, rfl⟩ := eq_moved_of_emitWith hnext h (by rw [act])
          obtain ⟨hb, rfl⟩ := Scopes.endFunction_eq_ok_iff.mp hs
          exact ⟨.start, .operator (congrArg some hword.symm), .lastFunction hphase hb⟩
      | endModule text =>
          obtain ⟨m'', hact, rfl⟩ := (step_eq_ok_iff_act hnext).mp h
          obtain ⟨name, s, hend, rfl⟩ := act_closeModule_eq_ok_iff.mp hact
          obtain ⟨hentry, hopen, hname, rfl⟩ := Scopes.endModule_eq_ok_iff.mp hend
          exact ⟨_, .name text, .endModule hphase hentry hopen hname⟩

section Granted

variable {phase next : Phase} {action : Action} {f : Fragment} {s : Scopes}

theorem step_of_leads (hk : d.keywords.Distinct) (hphase : m.phase = phase)
    (hleads : phase.Leads d.keywords x next none) :
    m.step d x = (.ok (), { m with phase := next }) := by
  apply step_of_next?
  rw [hphase, hleads.next? hk]

theorem step_of_emitWith (hk : d.keywords.Distinct) (hphase : m.phase = phase)
    (hleads : phase.Leads d.keywords x next (some action))
    (hact : m.act d action = m.emitWith f (.ok s)) :
    m.step d x = (.ok (), m.moved next s f) := by
  refine step_of_act_ok ?_ hact
  rw [hphase, hleads.next? hk]

end Granted

theorem Takes.step {a : Terminal} (hk : d.keywords.Distinct) (hx : Reads d x a)
    (h : m.Takes d a m') : m.step d x = (.ok (), m') := by
  cases h with
  | beginModule hphase =>
      obtain ⟨text, rfl, hword⟩ := hx.exists_operator rfl
      exact step_of_leads hk hphase (.beginModule hword)
  | nameModule hphase hopen hname =>
      obtain ⟨text, rfl, rfl⟩ := hx.exists_name
      refine step_of_emitWith hk hphase (.nameModule text) ?_
      rw [act, Scopes.beginModule_eq_ok_iff.mpr ⟨hopen, hname, rfl⟩]
  | firstFunction hphase =>
      obtain ⟨text, rfl, hword⟩ := hx.exists_operator rfl
      exact step_of_leads hk hphase (.firstFunction hword)
  | noFunction hphase =>
      obtain ⟨text, rfl, hword⟩ := hx.exists_operator rfl
      exact step_of_leads hk hphase (.noFunction hword)
  | nameFunction hphase hname =>
      obtain ⟨text, rfl, rfl⟩ := hx.exists_name
      refine step_of_emitWith hk hphase (.nameFunction text) ?_
      rw [act, Scopes.declareFunction_eq_ok_iff.mpr ⟨hname, rfl⟩]
      rfl
  | openParameters hphase =>
      obtain ⟨text, rfl, hword⟩ := hx.exists_operator rfl
      exact step_of_emitWith hk hphase (.openParameters hword) act_openParen
  | parameter hphase hname =>
      obtain ⟨text, rfl, rfl⟩ := hx.exists_name
      have hact := Scopes.declareParameter_eq_ok_iff.mpr ⟨hname, rfl⟩
      rcases hphase with hphase | hphase
      · refine step_of_emitWith hk hphase (.firstParameter text) ?_
        rw [act, hact]
      · refine step_of_emitWith hk hphase (.nextParameter text) ?_
        rw [act, hact]
  | separator hphase =>
      obtain ⟨text, rfl, hword⟩ := hx.exists_operator rfl
      exact step_of_emitWith hk hphase (.separator hword) rfl
  | closeParameters hphase hb =>
      obtain ⟨text, rfl, hword⟩ := hx.exists_operator rfl
      have hact := Scopes.closeBracket_eq_ok_iff.mpr ⟨_, hb, rfl⟩
      rcases hphase with hphase | hphase
      · refine step_of_emitWith hk hphase (.noParameters hword) ?_
        rw [act_closeParen, hact]
      · refine step_of_emitWith hk hphase (.closeParameters hword) ?_
        rw [act_closeParen, hact]
  | assign hphase =>
      obtain ⟨text, rfl, hword⟩ := hx.exists_operator rfl
      exact step_of_emitWith hk hphase (.assign hword) rfl
  | number hphase =>
      cases hx with
      | operator hword => cases hword
      | number hcheck =>
          refine step_of_emitWith hk hphase (.number _) ?_
          exact act_number_eq_ok_iff.mpr ⟨_, hcheck, rfl⟩
  | text hphase =>
      cases hx with
      | operator hword => cases hword
      | text => exact step_of_emitWith hk hphase (.text _) rfl
  | name hphase hname =>
      obtain ⟨text, rfl, rfl⟩ := hx.exists_name
      refine step_of_emitWith hk hphase (.name text) ?_
      rw [act, hname]
      rfl
  | selfReference hphase hopen =>
      obtain ⟨text, rfl, hword⟩ := hx.exists_operator rfl
      refine step_of_emitWith hk hphase (.selfReference hword) ?_
      exact act_selfReference_eq_ok_iff.mpr ⟨_, hopen, rfl⟩
  | openParen hphase =>
      obtain ⟨text, rfl, hword⟩ := hx.exists_operator rfl
      exact step_of_emitWith hk hphase (.mark hword) act_openParen
  | closeParen hphase hb =>
      obtain ⟨text, rfl, hword⟩ := hx.exists_operator rfl
      refine step_of_emitWith hk hphase (.mark hword) ?_
      rw [act_closeParen, Scopes.closeBracket_eq_ok_iff.mpr ⟨_, hb, rfl⟩]
  | mark hphase hopen hclose =>
      obtain ⟨text, rfl, hword⟩ := hx.exists_operator rfl
      exact step_of_emitWith hk hphase (.mark hword) (act_mark hopen hclose)
  | nextFunction hphase hb =>
      obtain ⟨text, rfl, hword⟩ := hx.exists_operator rfl
      refine step_of_emitWith hk hphase (.nextFunction hword) ?_
      rw [act, Scopes.endFunction_eq_ok_iff.mpr ⟨hb, rfl⟩]
  | lastFunction hphase hb =>
      obtain ⟨text, rfl, hword⟩ := hx.exists_operator rfl
      refine step_of_emitWith hk hphase (.lastFunction hword) ?_
      rw [act, Scopes.endFunction_eq_ok_iff.mpr ⟨hb, rfl⟩]
  | endModule hphase hentry hopen hname =>
      obtain ⟨text, rfl, rfl⟩ := hx.exists_name
      refine step_of_emitWith hk hphase (.endModule text) ?_
      exact act_closeModule_eq_ok_iff.mpr
        ⟨_, _, Scopes.endModule_eq_ok_iff.mpr ⟨hentry, hopen, hname, rfl⟩, rfl⟩

theorem feed_of_isTrivia {t : Token} (ht : t.isTrivia = true) :
    m.feed d t = (.ok (), { m with line := t.line }) := by
  simp only [feed, ht, if_true]

theorem feed_of_step_ok {t : Token} (ht : t.isTrivia = false)
    (h : Machine.step d { m with line := t.line } t.toLexeme = (.ok (), m')) :
    m.feed d t = (.ok (), m') := by
  simp [feed, ht, h]

theorem feed_of_step_error {t : Token} {fault : Fault} (ht : t.isTrivia = false)
    (h : Machine.step d { m with line := t.line } t.toLexeme = (.error fault, m')) :
    m.feed d t = (.error ⟨fault, t.line⟩, m') := by
  simp [feed, ht, h]

end Machine

end KeywordLang.Program
