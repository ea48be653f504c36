import KeywordLang.Proofs.ProgramDraft
import KeywordLang.Proofs.ProgramSteps

/-!
The machine reads programs: each terminal that it takes makes its draft longer by this
terminal, and each draft that is well scoped is read.
-/

namespace KeywordLang

namespace Program

theorem intersperse_concat {α : Type} {sep x : α} {xs : List α} (h : xs ≠ []) :
    (xs ++ [x]).intersperse sep = xs.intersperse sep ++ [sep, x] := by
  induction xs with
  | nil => exact absurd rfl h
  | cons y ys ih =>
      cases ys with
      | nil => rfl
      | cons z zs => exact congrArg (y :: sep :: ·) (ih (List.cons_ne_nil z zs))

namespace Draft

variable {d : Dialect} {phase phase' : Phase} {line : Nat} {a : Terminal} {m : Machine}
  {o : OpenModule} {h : Heading}

/-- A draft is another one with one more terminal and its fragment. -/
structure Extends (D : Draft phase) (a : Terminal) (f : Fragment) (D' : Draft phase') :
    Prop where
  yield : D'.yield = D.yield ++ [a]
  fragments : D'.fragments = D.fragments ++ [f]

theorem Extends.moved_machine {D : Draft phase} {D' : Draft phase'} {s : Scopes} {f : Fragment}
    (h : D.Extends a f D') (hs : s = D'.scopes) :
    (D.machine line).moved phase' s f = D'.machine line := by
  simp [Machine.moved, machine, hs, h.fragments]

/-- A machine has come from a draft to a longer one by a terminal. -/
def ComesTo (d : Dialect) (D : Draft phase) (a : Terminal) (m : Machine) : Prop :=
  ∃ (phase' : Phase) (D' : Draft phase'), D'.WellScoped d ∧ D'.yield = D.yield ++ [a] ∧
    m = D'.machine m.line

theorem Extends.comesTo {D : Draft phase} {D' : Draft phase'} {s : Scopes} {f : Fragment}
    (h : D.Extends a f D') (hD' : D'.WellScoped d) (hs : s = D'.scopes) :
    D.ComesTo d a ((D.machine line).moved phase' s f) :=
  ⟨phase', D', hD', h.yield, h.moved_machine hs⟩

theorem Extends.nameModule (done : List ModuleDecl) (name : String) :
    Extends (.moduleName done) (.name name) (.moduleOpen name) (.inModule done name) := by
  constructor
  · simp [Draft.yield, OpenModule.yield]
  · rfl

theorem Extends.nameFunction (o : OpenModule) (name : String) :
    Extends (.functionName o) (.name name) (.functionOpen name) (.parametersOpen o name) := by
  constructor
  · simp [Draft.yield]
  · rfl

theorem Extends.openParameters (o : OpenModule) (name : String) :
    Extends (.parametersOpen o name) (.mark .openParen) (.mark .openParen)
      (.firstParameter o name) := by
  constructor
  · simp [Draft.yield, Heading.opening]
  · simp [Draft.fragments, Heading.openingFragments]

theorem Extends.firstParameter (o : OpenModule) (name p : String) :
    Extends (.firstParameter o name) (.name p) (.symbol p) (.afterParameter o ⟨name, [p]⟩) := by
  constructor
  · simp [Draft.yield, Heading.opening]
  · simp [Draft.fragments, Heading.openingFragments]

theorem Extends.nextParameter (o : OpenModule) (p : String) (hne : h.parameters ≠ []) :
    Extends (.nextParameter o h) (.name p) (.symbol p)
      (.afterParameter o { h with parameters := h.parameters ++ [p] }) := by
  constructor
  · have hmap : h.parameters.map Terminal.name ≠ [] := by simpa using hne
    simp [Draft.yield, Heading.opening, intersperse_concat hmap]
  · have hmap : h.parameters.map Fragment.symbol ≠ [] := by simpa using hne
    simp [Draft.fragments, Heading.openingFragments, intersperse_concat hmap]

theorem Extends.separator (o : OpenModule) (h : Heading) :
    Extends (.afterParameter o h) (.mark .comma) (.mark .comma) (.nextParameter o h) :=
  ⟨rfl, rfl⟩

theorem Extends.noParameters (o : OpenModule) (name : String) :
    Extends (.firstParameter o name) (.mark .closeParen) (.mark .closeParen)
      (.assignment o ⟨name, []⟩) := by
  constructor
  · simp [Draft.yield, Heading.opening, Heading.yield]
  · simp [Draft.fragments, Heading.openingFragments, Heading.fragments]

theorem Extends.closeParameters (o : OpenModule) (h : Heading) :
    Extends (.afterParameter o h) (.mark .closeParen) (.mark .closeParen)
      (.assignment o h) := by
  constructor
  · simp [Draft.yield, Heading.opening, Heading.yield]
  · simp [Draft.fragments, Heading.openingFragments, Heading.fragments]

theorem Extends.assign (o : OpenModule) (h : Heading) :
    Extends (.assignment o h) .assign .assign (.body o ⟨h, []⟩) := by
  constructor
  · simp [Draft.yield, FunctionDecl.yield]
  · simp [Draft.fragments]

theorem Extends.item (o : OpenModule) (f : FunctionDecl) (item : Item) :
    Extends (.body o f) item.terminal (item.fragment f.name)
      (.body o { f with body := f.body ++ [item] }) := by
  constructor
  · simp [Draft.yield, FunctionDecl.yield]
  · simp [Draft.fragments]

theorem Extends.nextFunction (o : OpenModule) (f : FunctionDecl) :
    Extends (.body o f) .function .functionClose
      (.functionName { o with functions := o.functions ++ [f] }) := by
  constructor
  · simp [Draft.yield, OpenModule.yield]
  · simp [Draft.fragments, OpenModule.fragments, FunctionDecl.fragments]

theorem Extends.lastFunction (o : OpenModule) (f : FunctionDecl) :
    Extends (.body o f) .start .functionClose
      (.moduleEnd { o with functions := o.functions ++ [f] }) := by
  constructor
  · simp [Draft.yield, OpenModule.yield]
  · simp [Draft.fragments, OpenModule.fragments, FunctionDecl.fragments]

theorem Extends.endModule (o : OpenModule) (entry : String) :
    Extends (.moduleEnd o) (.name entry) (.moduleClose entry)
      (.root (o.earlier ++ [⟨o.name, o.functions, entry⟩])) := by
  constructor
  · simp [Draft.yield, OpenModule.yield, Program.yield, ModuleDecl.yield]
  · simp [Draft.fragments, OpenModule.fragments, Program.fragments, ModuleDecl.fragments]

theorem scopes_endModule (o : OpenModule) (entry : String) :
    { o.scopes.left with modules := o.name :: o.scopes.modules } =
      (Draft.root (o.earlier ++ [⟨o.name, o.functions, entry⟩])).scopes := by
  simp [Draft.scopes, OpenModule.scopes, OpenModule.modules, Scopes.left]

theorem scopes_parameter (o : OpenModule) (h : Heading) (p : String) :
    { (o.scopesIn h 1) with parameters := p :: (o.scopesIn h 1).parameters } =
      (Draft.afterParameter o { h with parameters := h.parameters ++ [p] }).scopes := by
  simp [Draft.scopes, OpenModule.scopesIn]

theorem comesTo_of_item {f : FunctionDecl} (item : Item) {s : Scopes}
    (hD : (body o f).WellScoped d)
    (hscope : ∀ word, item = .name word →
      Usable d (f.parameters ++ f.name :: o.functionNames ++ o.modules) word)
    (hnested : Nested (f.body ++ [item]))
    (hs : s = o.scopesIn f.toHeading (openDepth (f.body ++ [item]))) :
    (body o f).ComesTo d item.terminal
      (((body o f).machine line).moved .body s (item.fragment f.name)) := by
  obtain ⟨ho, hh, hbody, -⟩ := hD
  refine (Extends.item o f item).comesTo ?_ hs
  exact ⟨ho, hh, FunctionDecl.bodyInScope_concat.mpr ⟨hbody, hscope⟩, hnested⟩

theorem comesTo_of_other_item {f : FunctionDecl} (item : Item) (hD : (body o f).WellScoped d)
    (hopen : item ≠ .mark .openParen) (hclose : item ≠ .mark .closeParen)
    (hscope : ∀ word, item = .name word →
      Usable d (f.parameters ++ f.name :: o.functionNames ++ o.modules) word) :
    (body o f).ComesTo d item.terminal
      (((body o f).machine line).moved .body (body o f).scopes (item.fragment f.name)) := by
  refine comesTo_of_item item hD hscope ((nested_concat_other hopen hclose).mpr hD.2.2.2) ?_
  rw [openDepth_concat_other hopen hclose]
  rfl

/-- What the machine takes after a draft belongs to a longer draft. -/
theorem comesTo_of_takes {D : Draft phase} (hD : D.WellScoped d)
    (h : (D.machine line).Takes d a m) : D.ComesTo d a m := by
  cases h with
  | beginModule hphase =>
      obtain rfl : phase = .root := hphase
      cases D with
      | root done => exact ⟨_, .moduleName done, hD, rfl, rfl⟩
  | @nameModule name hphase hopen hname =>
      obtain rfl : phase = .moduleName := hphase
      cases D with
      | moduleName done =>
          refine (Extends.nameModule done name).comesTo ?_ rfl
          exact OpenModule.wellScoped_nil.mpr ⟨hD, fresh_iff_declarable.mp hname⟩
  | firstFunction hphase =>
      obtain rfl : phase = .inModule := hphase
      cases D with
      | inModule earlier name => exact ⟨_, .functionName ⟨earlier, name, []⟩, hD, rfl, rfl⟩
  | noFunction hphase =>
      obtain rfl : phase = .inModule := hphase
      cases D with
      | inModule earlier name => exact ⟨_, .moduleEnd ⟨earlier, name, []⟩, hD, rfl, rfl⟩
  | @nameFunction name hphase hname =>
      obtain rfl : phase = .functionName := hphase
      cases D with
      | functionName o =>
          refine (Extends.nameFunction o name).comesTo ?_ rfl
          exact ⟨hD, Heading.wellScoped_nil.mpr (OpenModule.fresh_iff.mp hname)⟩
  | openParameters hphase =>
      obtain rfl : phase = .parametersOpen := hphase
      cases D with
      | parametersOpen o name =>
          exact (Extends.openParameters o name).comesTo hD rfl
  | @parameter p hphase hname =>
      rcases hphase with hphase | hphase
      · obtain rfl : phase = .firstParameter := hphase
        cases D with
        | firstParameter o name =>
            have hp := OpenModule.fresh_scopesIn_iff.mp hname
            refine (Extends.firstParameter o name p).comesTo ?_ rfl
            exact ⟨hD.1, Heading.wellScoped_concat.mpr ⟨hD.2, hp⟩, List.cons_ne_nil p []⟩
      · obtain rfl : phase = .nextParameter := hphase
        cases D with
        | nextParameter o h =>
            obtain ⟨ho, hh, hne⟩ := hD
            have hp := OpenModule.fresh_scopesIn_iff.mp hname
            refine (Extends.nextParameter o p hne).comesTo ?_ (scopes_parameter o h p)
            exact ⟨ho, Heading.wellScoped_concat.mpr ⟨hh, hp⟩, List.concat_ne_nil p _⟩
  | separator hphase =>
      obtain rfl : phase = .afterParameter := hphase
      cases D with
      | afterParameter o h =>
          exact (Extends.separator o h).comesTo hD rfl
  | closeParameters hphase hb =>
      rcases hphase with hphase | hphase
      · obtain rfl : phase = .firstParameter := hphase
        cases D with
        | firstParameter o name =>
            cases hb
            exact (Extends.noParameters o name).comesTo hD rfl
      · obtain rfl : phase = .afterParameter := hphase
        cases D with
        | afterParameter o h =>
            cases hb
            exact (Extends.closeParameters o h).comesTo ⟨hD.1, hD.2.1⟩ rfl
  | assign hphase =>
      obtain rfl : phase = .assignment := hphase
      cases D with
      | assignment o h =>
          exact (Extends.assign o h).comesTo ⟨hD.1, hD.2, nofun, nested_nil⟩ rfl
  | @number value hphase =>
      obtain rfl : phase = .body := hphase
      cases D with
      | body o f => exact comesTo_of_other_item (.number value) hD nofun nofun nofun
  | @text literal hphase =>
      obtain rfl : phase = .body := hphase
      cases D with
      | body o f => exact comesTo_of_other_item (.text literal) hD nofun nofun nofun
  | @name word kind hphase hword =>
      obtain rfl : phase = .body := hphase
      cases D with
      | body o f =>
          have husable := OpenModule.resolve_scopesIn_iff.mp ⟨kind, hword⟩
          refine comesTo_of_other_item (.name word) hD nofun nofun ?_
          rintro _ ⟨⟩
          exact husable
  | @selfReference name hphase hopen =>
      obtain rfl : phase = .body := hphase
      cases D with
      | body o f =>
          obtain rfl : f.name = name := Option.some.inj hopen
          exact comesTo_of_other_item .selfReference hD nofun nofun nofun
  | openParen hphase =>
      obtain rfl : phase = .body := hphase
      cases D with
      | body o f =>
          have hnested := hD.2.2.2
          refine comesTo_of_item (.mark .openParen) hD nofun (nested_concat_open.mpr hnested) ?_
          rw [openDepth_concat_open hnested]
          rfl
  | @closeParen b hphase hb =>
      obtain rfl : phase = .body := hphase
      cases D with
      | body o f =>
          have hdepth : openDepth f.body = b.depth + 1 := Brackets.pop_eq_ok_iff.mp hb
          have hpos : 0 < openDepth f.body := by omega
          refine comesTo_of_item (.mark .closeParen) hD nofun
            (nested_concat_close.mpr ⟨hD.2.2.2, hpos⟩) ?_
          rw [openDepth_concat_close, hdepth]
          rfl
  | @mark mark hphase hopen hclose =>
      obtain rfl : phase = .body := hphase
      cases D with
      | body o f =>
          exact comesTo_of_other_item (.mark mark) hD (fun h => hopen (Item.mark.inj h))
            (fun h => hclose (Item.mark.inj h)) nofun
  | nextFunction hphase hb =>
      obtain rfl : phase = .body := hphase
      cases D with
      | body o f =>
          have hdepth : openDepth f.body = 0 := Brackets.isBalanced_iff.mp hb
          exact (Extends.nextFunction o f).comesTo
            (body_wellScoped_iff.mpr ⟨hD, hdepth⟩) (OpenModule.scopes_concat hdepth).symm
  | lastFunction hphase hb =>
      obtain rfl : phase = .body := hphase
      cases D with
      | body o f =>
          have hdepth : openDepth f.body = 0 := Brackets.isBalanced_iff.mp hb
          exact (Extends.lastFunction o f).comesTo
            (body_wellScoped_iff.mpr ⟨hD, hdepth⟩) (OpenModule.scopes_concat hdepth).symm
  | @endModule entry name hphase hentry hopen hname =>
      obtain rfl : phase = .moduleEnd := hphase
      cases D with
      | moduleEnd o =>
          obtain rfl : o.name = name := Option.some.inj hopen
          refine (Extends.endModule o entry).comesTo ?_ (scopes_endModule o entry)
          exact wellScoped_concat.mpr ⟨hD, OpenModule.checkExport_iff.mp hentry⟩

/-- The machine has come to a draft by a terminal. -/
def Reached (d : Dialect) (D' : Draft phase') : Prop :=
  ∃ (phase : Phase) (D : Draft phase) (a : Terminal), D.WellScoped d ∧
    D'.yield = D.yield ++ [a] ∧ ∀ line, (D.machine line).Takes d a (D'.machine line)

theorem Extends.reached {D : Draft phase} {D' : Draft phase'} {s : Scopes} {f : Fragment}
    (h : D.Extends a f D') (hD : D.WellScoped d) (hs : s = D'.scopes)
    (htakes : ∀ line, (D.machine line).Takes d a ((D.machine line).moved phase' s f)) :
    D'.Reached d := by
  refine ⟨phase, D, a, hD, h.yield, ?_⟩
  intro line
  rw [← h.moved_machine hs]
  exact htakes line

theorem reached_item {f : FunctionDecl} {item : Item}
    (hD : (body o { f with body := f.body ++ [item] }).WellScoped d) :
    (body o { f with body := f.body ++ [item] }).Reached d := by
  obtain ⟨ho, hh, hbody, hnested⟩ := hD
  obtain ⟨hbody, hscope⟩ := FunctionDecl.bodyInScope_concat.mp hbody
  have hinit : Nested f.body := (nested_concat.mp hnested).1
  have hwell : (body o f).WellScoped d := ⟨ho, hh, hbody, hinit⟩
  have hother (hopen : item ≠ .mark .openParen) (hclose : item ≠ .mark .closeParen) :
      (body o f).scopes = (body o { f with body := f.body ++ [item] }).scopes := by
    rw [scopes, scopes, openDepth_concat_other hopen hclose]
  have hext := Extends.item o f item
  cases item with
  | number value =>
      have hs := hother (by simp) (by simp)
      exact hext.reached hwell hs fun line => .number rfl
  | text literal =>
      have hs := hother (by simp) (by simp)
      exact hext.reached hwell hs fun line => .text rfl
  | name word =>
      have husable := hscope word rfl
      obtain ⟨kind, hkind⟩ := OpenModule.resolve_scopesIn_iff.mpr husable
      have hs := hother (by simp) (by simp)
      exact hext.reached hwell hs fun line => .name rfl hkind
  | selfReference =>
      have hs := hother (by simp) (by simp)
      exact hext.reached hwell hs fun line => .selfReference rfl rfl
  | mark m =>
      by_cases hopen : m = .openParen
      · subst hopen
        have hs : (body o f).scopes.openBracket =
            (body o { f with body := f.body ++ [.mark .openParen] }).scopes := by
          rw [scopes, scopes, openDepth_concat_open hinit]
          rfl
        exact hext.reached hwell hs fun line => .openParen rfl
      · by_cases hclose : m = .closeParen
        · subst hclose
          obtain ⟨-, hpos⟩ := nested_concat_close.mp hnested
          have hpop : Brackets.pop ⟨openDepth f.body⟩ = .ok ⟨openDepth f.body - 1⟩ :=
            Brackets.pop_eq_ok_iff.mpr (Nat.sub_add_cancel hpos).symm
          have hs : { (body o f).scopes with brackets := ⟨openDepth f.body - 1⟩ } =
              (body o { f with body := f.body ++ [.mark .closeParen] }).scopes := by
            rw [scopes, scopes, openDepth_concat_close]
            rfl
          exact hext.reached hwell hs fun line => .closeParen rfl hpop
        · have hs := hother (by simpa using hopen) (by simpa using hclose)
          exact hext.reached hwell hs fun line => .mark rfl hopen hclose

/-- A draft that is well scoped and has begun is reached. -/
theorem WellScoped.reached {D' : Draft phase'} (hD' : D'.WellScoped d) (hne : D'.yield ≠ []) :
    D'.Reached d := by
  -- Each case names the terminal that the draft ends with. What that terminal had to be
  -- granted is part of the scoping of the draft.
  cases D' with
  | root done =>
      rcases List.eq_nil_or_concat' done with rfl | ⟨earlier, ⟨name, functions, entry⟩, rfl⟩
      · exact absurd rfl hne
      · let o : OpenModule := ⟨earlier, name, functions⟩
        obtain ⟨ho, hentry⟩ := wellScoped_concat (o := o).mp hD'
        exact (Extends.endModule o entry).reached ho (scopes_endModule o entry) fun line =>
          .endModule rfl (OpenModule.checkExport_iff.mpr hentry) rfl
            (OpenModule.fresh_left ho.name)
  | moduleName done =>
      exact ⟨_, .root done, .module, hD', rfl, fun line => .beginModule rfl⟩
  | inModule earlier name =>
      obtain ⟨hearlier, hname⟩ := OpenModule.wellScoped_nil.mp hD'
      exact (Extends.nameModule earlier name).reached hearlier rfl fun line =>
        .nameModule rfl rfl (fresh_iff_declarable.mpr hname)
  | functionName o =>
      obtain ⟨earlier, name, functions⟩ := o
      rcases List.eq_nil_or_concat' functions with rfl | ⟨functions, f, rfl⟩
      · exact ⟨_, .inModule earlier name, .function, hD', rfl, fun line => .firstFunction rfl⟩
      · let o : OpenModule := ⟨earlier, name, functions⟩
        obtain ⟨hbody, hdepth⟩ := body_wellScoped_iff (o := o).mp hD'
        exact (Extends.nextFunction o f).reached hbody (OpenModule.scopes_concat hdepth).symm
          fun line => .nextFunction rfl (Brackets.isBalanced_iff.mpr hdepth)
  | parametersOpen o name =>
      obtain ⟨ho, hname⟩ := hD'
      exact (Extends.nameFunction o name).reached ho rfl fun line =>
        .nameFunction rfl (OpenModule.fresh_iff.mpr (Heading.wellScoped_nil.mp hname))
  | firstParameter o name =>
      exact (Extends.openParameters o name).reached hD' rfl fun line => .openParameters rfl
  | afterParameter o h =>
      obtain ⟨name, parameters⟩ := h
      obtain ⟨ho, hh, hne⟩ := hD'
      rcases List.eq_nil_or_concat' parameters with rfl | ⟨parameters, p, rfl⟩
      · exact absurd rfl hne
      · let h : Heading := ⟨name, parameters⟩
        obtain ⟨hh, hp⟩ := Heading.wellScoped_concat (h := h).mp hh
        have hfresh : (o.scopesIn h 1).Fresh d p := OpenModule.fresh_scopesIn_iff.mpr hp
        cases parameters with
        | nil =>
            exact (Extends.firstParameter o name p).reached ⟨ho, hh⟩ rfl fun line =>
              .parameter (.inl rfl) hfresh
        | cons q parameters =>
            have hne : h.parameters ≠ [] := List.cons_ne_nil q parameters
            exact (Extends.nextParameter o p hne).reached ⟨ho, hh, hne⟩ (scopes_parameter o h p)
              fun line => .parameter (.inr rfl) hfresh
  | nextParameter o h =>
      exact (Extends.separator o h).reached hD' rfl fun line => .separator rfl
  | assignment o h =>
      obtain ⟨name, parameters⟩ := h
      obtain ⟨ho, hh⟩ := hD'
      cases parameters with
      | nil =>
          exact (Extends.noParameters o name).reached ⟨ho, hh⟩ rfl fun line =>
            .closeParameters (.inl rfl) rfl
      | cons p parameters =>
          have hne : p :: parameters ≠ [] := List.cons_ne_nil p parameters
          exact (Extends.closeParameters o _).reached ⟨ho, hh, hne⟩ rfl fun line =>
            .closeParameters (.inr rfl) rfl
  | body o f =>
      obtain ⟨h, items⟩ := f
      rcases List.eq_nil_or_concat' items with rfl | ⟨items, item, rfl⟩
      · exact (Extends.assign o h).reached ⟨hD'.1, hD'.2.1⟩ rfl fun line => .assign rfl
      · exact reached_item (f := ⟨h, items⟩) hD'
  | moduleEnd o =>
      obtain ⟨earlier, name, functions⟩ := o
      rcases List.eq_nil_or_concat' functions with rfl | ⟨functions, f, rfl⟩
      · exact ⟨_, .inModule earlier name, .start, hD', rfl, fun line => .noFunction rfl⟩
      · let o : OpenModule := ⟨earlier, name, functions⟩
        obtain ⟨hbody, hdepth⟩ := body_wellScoped_iff (o := o).mp hD'
        exact (Extends.lastFunction o f).reached hbody (OpenModule.scopes_concat hdepth).symm
          fun line => .lastFunction rfl (Brackets.isBalanced_iff.mpr hdepth)

end Draft

end Program

end KeywordLang
