import KeywordLang.Proofs.ProgramCode
import KeywordLang.Proofs.ScopeSeparation
import Mathlib.Data.List.Infix
import Mathlib.Data.List.Nodup

/-!
Programs of which only the beginning is there. A draft is well scoped if its parts
are, and it tells what the scopes are at its end.
-/

namespace KeywordLang.Program

/-- A module that has begun, and the modules before it. -/
structure OpenModule where
  earlier : List ModuleDecl
  name : String
  functions : List FunctionDecl

/-- The beginning of a program that ends in a phase. -/
inductive Draft : Phase → Type where
  | root (done : List ModuleDecl) : Draft .root
  | moduleName (done : List ModuleDecl) : Draft .moduleName
  | inModule (earlier : List ModuleDecl) (name : String) : Draft .inModule
  | functionName (o : OpenModule) : Draft .functionName
  | parametersOpen (o : OpenModule) (name : String) : Draft .parametersOpen
  | firstParameter (o : OpenModule) (name : String) : Draft .firstParameter
  | afterParameter (o : OpenModule) (h : Heading) : Draft .afterParameter
  | nextParameter (o : OpenModule) (h : Heading) : Draft .nextParameter
  | assignment (o : OpenModule) (h : Heading) : Draft .assignment
  | body (o : OpenModule) (f : FunctionDecl) : Draft .body
  | moduleEnd (o : OpenModule) : Draft .moduleEnd

namespace Heading

/-- The terminals of a heading up to its last parameter. -/
def opening (h : Heading) : List Terminal :=
  [.function, .name h.name, .mark .openParen] ++
    (h.parameters.map .name).intersperse (.mark .comma)

def openingFragments (h : Heading) : List Fragment :=
  [.functionOpen h.name, .mark .openParen] ++
    (h.parameters.map .symbol).intersperse (.mark .comma)

end Heading

namespace OpenModule

def modules (o : OpenModule) : List String :=
  o.earlier.map (·.name)

def functionNames (o : OpenModule) : List String :=
  o.functions.map (·.name)

def yield (o : OpenModule) : List Terminal :=
  Program.yield o.earlier ++ [.module, .name o.name] ++
    o.functions.flatMap FunctionDecl.yield

def fragments (o : OpenModule) : List Fragment :=
  Program.fragments o.earlier ++ .moduleOpen o.name ::
    o.functions.flatMap FunctionDecl.fragments

/-- The scopes between two functions of a module. -/
def scopes (o : OpenModule) : Scopes where
  modules := o.modules.reverse
  functions := o.functionNames.reverse
  openModule := some o.name

/-- The scopes within a function of a module, where some parentheses are open. -/
def scopesIn (o : OpenModule) (h : Heading) (depth : Nat) : Scopes where
  modules := o.modules.reverse
  functions := h.name :: o.functionNames.reverse
  parameters := h.parameters.reverse
  openModule := some o.name
  openFunction := some h.name
  brackets := ⟨depth⟩

structure WellScoped (d : Dialect) (o : OpenModule) : Prop where
  earlier : Program.WellScoped d o.earlier
  name : Declarable d o.modules o.name
  functions : Successive
    (fun before f => f.WellScoped d o.modules o.name (before.map (·.name))) o.functions

end OpenModule

/-- The parentheses that a part of a body leaves open. -/
def openDepth (items : List Item) : Nat :=
  items.count (.mark .openParen) - items.count (.mark .closeParen)

namespace Draft

variable {phase : Phase}

def yield : Draft phase → List Terminal
  | .root done => Program.yield done
  | .moduleName done => Program.yield done ++ [.module]
  | .inModule earlier name => OpenModule.yield ⟨earlier, name, []⟩
  | .functionName o => o.yield ++ [.function]
  | .parametersOpen o name => o.yield ++ [.function, .name name]
  | .firstParameter o name => o.yield ++ Heading.opening ⟨name, []⟩
  | .afterParameter o h => o.yield ++ h.opening
  | .nextParameter o h => o.yield ++ h.opening ++ [.mark .comma]
  | .assignment o h => o.yield ++ h.yield
  | .body o f => o.yield ++ f.yield
  | .moduleEnd o => o.yield ++ [.start]

def fragments : Draft phase → List Fragment
  | .root done => Program.fragments done
  | .moduleName done => Program.fragments done
  | .inModule earlier name => OpenModule.fragments ⟨earlier, name, []⟩
  | .functionName o => o.fragments
  | .parametersOpen o name => o.fragments ++ [.functionOpen name]
  | .firstParameter o name => o.fragments ++ Heading.openingFragments ⟨name, []⟩
  | .afterParameter o h => o.fragments ++ h.openingFragments
  | .nextParameter o h => o.fragments ++ h.openingFragments ++ [.mark .comma]
  | .assignment o h => o.fragments ++ h.fragments
  | .body o f =>
      o.fragments ++ (f.toHeading.fragments ++ .assign :: f.body.map (Item.fragment f.name))
  | .moduleEnd o => o.fragments

def scopes : Draft phase → Scopes
  | .root done => { modules := (done.map (·.name)).reverse }
  | .moduleName done => { modules := (done.map (·.name)).reverse }
  | .inModule earlier name => OpenModule.scopes ⟨earlier, name, []⟩
  | .functionName o => o.scopes
  | .parametersOpen o name => o.scopesIn ⟨name, []⟩ 0
  | .firstParameter o name => o.scopesIn ⟨name, []⟩ 1
  | .afterParameter o h => o.scopesIn h 1
  | .nextParameter o h => o.scopesIn h 1
  | .assignment o h => o.scopesIn h 0
  | .body o f => o.scopesIn f.toHeading (openDepth f.body)
  | .moduleEnd o => o.scopes

def WellScoped (d : Dialect) : Draft phase → Prop
  | .root done => Program.WellScoped d done
  | .moduleName done => Program.WellScoped d done
  | .inModule earlier name => OpenModule.WellScoped d ⟨earlier, name, []⟩
  | .functionName o => o.WellScoped d
  | .parametersOpen o name =>
      o.WellScoped d ∧ Heading.WellScoped d o.modules o.name o.functionNames ⟨name, []⟩
  | .firstParameter o name =>
      o.WellScoped d ∧ Heading.WellScoped d o.modules o.name o.functionNames ⟨name, []⟩
  | .afterParameter o h =>
      o.WellScoped d ∧ h.WellScoped d o.modules o.name o.functionNames ∧ h.parameters ≠ []
  | .nextParameter o h =>
      o.WellScoped d ∧ h.WellScoped d o.modules o.name o.functionNames ∧ h.parameters ≠ []
  | .assignment o h => o.WellScoped d ∧ h.WellScoped d o.modules o.name o.functionNames
  | .body o f =>
      o.WellScoped d ∧ f.toHeading.WellScoped d o.modules o.name o.functionNames ∧
        f.BodyInScope d o.modules o.functionNames ∧ Nested f.body
  | .moduleEnd o => o.WellScoped d

/-- The machine at the end of a draft. -/
def machine (D : Draft phase) (line : Nat) : Machine where
  phase := phase
  scopes := D.scopes
  code := D.fragments.toArray
  line := line

end Draft

section Extension

variable {d : Dialect}

theorem successive_nil {α : Type} {P : List α → α → Prop} : Successive P [] := by
  intro before x after h
  exact absurd h.symm (List.append_ne_nil_of_right_ne_nil _ (List.cons_ne_nil x after))

theorem successive_concat {α : Type} {P : List α → α → Prop} {xs : List α} {x : α} :
    Successive P (xs ++ [x]) ↔ Successive P xs ∧ P xs x := by
  constructor
  · intro h
    refine ⟨?_, h xs x [] rfl⟩
    rintro before y after rfl
    exact h before y (after ++ [x]) (by simp)
  · rintro ⟨hxs, hx⟩ before y after heq
    rcases List.eq_nil_or_concat after with rfl | ⟨after, z, rfl⟩
    · obtain ⟨rfl, hy⟩ := List.append_inj' heq rfl
      cases hy
      exact hx
    · rw [List.concat_eq_append, ← List.cons_append, ← List.append_assoc] at heq
      obtain ⟨rfl, -⟩ := List.append_inj' heq rfl
      exact hxs before y after rfl

theorem OpenModule.wellScoped_nil {earlier : List ModuleDecl} {name : String} :
    OpenModule.WellScoped d ⟨earlier, name, []⟩ ↔
      Program.WellScoped d earlier ∧ Declarable d (earlier.map (·.name)) name := by
  constructor
  · intro h
    exact ⟨h.earlier, h.name⟩
  · rintro ⟨hearlier, hname⟩
    exact ⟨hearlier, hname, successive_nil⟩

theorem OpenModule.wellScoped_concat {o : OpenModule} {f : FunctionDecl} :
    OpenModule.WellScoped d { o with functions := o.functions ++ [f] } ↔
      o.WellScoped d ∧ f.WellScoped d o.modules o.name o.functionNames := by
  constructor
  · rintro ⟨hearlier, hname, hfunctions⟩
    obtain ⟨hfunctions, hf⟩ := successive_concat.mp hfunctions
    exact ⟨⟨hearlier, hname, hfunctions⟩, hf⟩
  · rintro ⟨⟨hearlier, hname, hfunctions⟩, hf⟩
    exact ⟨hearlier, hname, successive_concat.mpr ⟨hfunctions, hf⟩⟩

theorem wellScoped_concat {o : OpenModule} {entry : String} :
    WellScoped d (o.earlier ++ [⟨o.name, o.functions, entry⟩]) ↔
      o.WellScoped d ∧ Usable d (o.functionNames ++ o.modules) entry := by
  rw [WellScoped, successive_concat]
  constructor
  · rintro ⟨hearlier, hname, hfunctions, hentry⟩
    exact ⟨⟨hearlier, hname, hfunctions⟩, hentry⟩
  · rintro ⟨⟨hearlier, hname, hfunctions⟩, hentry⟩
    exact ⟨hearlier, hname, hfunctions, hentry⟩

theorem Heading.wellScoped_nil {modules functions : List String} {module name : String} :
    Heading.WellScoped d modules module functions ⟨name, []⟩ ↔
      Declarable d modules name ∧ name ≠ module ∧ name ∉ functions := by
  constructor
  · intro h
    exact h.name
  · intro h
    exact ⟨h, nofun, .nil⟩

theorem Heading.wellScoped_concat {modules functions : List String} {module p : String}
    {h : Heading} :
    Heading.WellScoped d modules module functions { h with parameters := h.parameters ++ [p] } ↔
      h.WellScoped d modules module functions ∧
        (Declarable d modules p ∧ p ≠ module ∧ p ≠ h.name ∧ p ∉ functions) ∧
        p ∉ h.parameters := by
  constructor
  · rintro ⟨hname, hparameters, hnodup⟩
    obtain ⟨hinit, hlast⟩ := List.forall_mem_append.mp hparameters
    rw [← List.concat_eq_append, List.nodup_concat] at hnodup
    obtain ⟨hmem, hnodup⟩ := hnodup
    exact ⟨⟨hname, hinit, hnodup⟩, hlast p List.mem_cons_self, hmem⟩
  · rintro ⟨⟨hname, hparameters, hnodup⟩, hp, hmem⟩
    refine ⟨hname, List.forall_mem_append.mpr ⟨hparameters, ?_⟩, ?_⟩
    · intro q hq
      rw [List.mem_singleton.mp hq]
      exact hp
    · rw [← List.concat_eq_append, List.nodup_concat]
      exact ⟨hmem, hnodup⟩

theorem FunctionDecl.bodyInScope_concat {modules functions : List String} {f : FunctionDecl}
    {item : Item} :
    FunctionDecl.BodyInScope d modules functions { f with body := f.body ++ [item] } ↔
      f.BodyInScope d modules functions ∧ ∀ word, item = .name word →
        Usable d (f.parameters ++ f.name :: functions ++ modules) word := by
  constructor
  · intro h
    refine ⟨fun word hword => h word (List.mem_append_left _ hword), ?_⟩
    rintro word rfl
    exact h word (List.mem_append_right _ List.mem_cons_self)
  · rintro ⟨hbody, hitem⟩ word hword
    rcases List.mem_append.mp hword with hword | hword
    · exact hbody word hword
    · exact hitem word (List.mem_singleton.mp hword).symm

theorem nested_concat {items : List Item} {item : Item} :
    Nested (items ++ [item]) ↔ Nested items ∧
      (items ++ [item]).count (.mark .closeParen) ≤
        (items ++ [item]).count (.mark .openParen) := by
  constructor
  · intro h
    exact ⟨fun before hb => h before (hb.trans (List.prefix_append _ _)), h _ List.prefix_rfl⟩
  · rintro ⟨hitems, hlast⟩ before hbefore
    rcases List.prefix_concat_iff.mp hbefore with rfl | hbefore
    · exact hlast
    · exact hitems before hbefore

theorem nested_nil : Nested [] := by
  intro before hbefore
  rw [List.prefix_nil.mp hbefore]
  exact Nat.le_refl _

variable {items : List Item} {item : Item}

theorem nested_concat_open : Nested (items ++ [.mark .openParen]) ↔ Nested items := by
  rw [nested_concat]
  refine and_iff_left_of_imp fun h => ?_
  have hall := h items List.prefix_rfl
  rw [List.count_append, List.count_append]
  exact Nat.add_le_add hall (Nat.zero_le 1)

theorem openDepth_concat_open (h : Nested items) :
    openDepth (items ++ [.mark .openParen]) = openDepth items + 1 := by
  have hall := h items List.prefix_rfl
  rw [openDepth, List.count_append, List.count_append]
  exact Nat.sub_add_comm hall

theorem nested_concat_close :
    Nested (items ++ [.mark .closeParen]) ↔ Nested items ∧ 0 < openDepth items := by
  rw [nested_concat, List.count_append, List.count_append, openDepth, Nat.sub_pos_iff_lt]
  exact Iff.rfl

theorem openDepth_concat_close (items : List Item) :
    openDepth (items ++ [.mark .closeParen]) = openDepth items - 1 := by
  rw [openDepth, List.count_append, List.count_append]
  exact Nat.sub_add_eq _ _ _

theorem balanced_iff : Balanced items ↔ Nested items ∧ openDepth items = 0 := by
  refine and_congr_right fun h => ?_
  have hall := h items List.prefix_rfl
  rw [openDepth, Nat.sub_eq_zero_iff_le]
  exact ⟨fun heq => heq.ge, fun hle => Nat.le_antisymm hall hle⟩

theorem nested_concat_other (hopen : item ≠ .mark .openParen)
    (hclose : item ≠ .mark .closeParen) : Nested (items ++ [item]) ↔ Nested items := by
  rw [nested_concat, List.count_append, List.count_append]
  simp only [List.count_singleton, beq_iff_eq, hopen, hclose, if_false, Nat.add_zero]
  exact and_iff_left_of_imp fun h => h items List.prefix_rfl

theorem openDepth_concat_other (hopen : item ≠ .mark .openParen)
    (hclose : item ≠ .mark .closeParen) : openDepth (items ++ [item]) = openDepth items := by
  simp [openDepth, hopen, hclose]

end Extension

section Scopes

variable {d : Dialect} {o : OpenModule} {h : Heading} {depth : Nat} {name : String}

theorem fresh_iff_declarable {names : List String} :
    Scopes.Fresh d { modules := names.reverse } name ↔ Declarable d names name := by
  constructor
  · intro hname
    exact ⟨hname.toPermitted, fun hmem => hname.modules (List.mem_reverse.mpr hmem)⟩
  · rintro ⟨hname, hmodules⟩
    exact ⟨hname, fun hmem => hmodules (List.mem_reverse.mp hmem), List.not_mem_nil,
      List.not_mem_nil, nofun, nofun⟩

theorem OpenModule.fresh_iff :
    o.scopes.Fresh d name ↔
      Declarable d o.modules name ∧ name ≠ o.name ∧ name ∉ o.functionNames := by
  constructor
  · intro hname
    refine ⟨⟨hname.toPermitted, fun hmem => hname.modules (List.mem_reverse.mpr hmem)⟩, ?_,
      fun hmem => hname.functions (List.mem_reverse.mpr hmem)⟩
    rintro rfl
    exact hname.openModule rfl
  · rintro ⟨⟨hname, hmodules⟩, hne, hfunctions⟩
    exact ⟨hname, fun hmem => hmodules (List.mem_reverse.mp hmem),
      fun hmem => hfunctions (List.mem_reverse.mp hmem), List.not_mem_nil,
      fun heq => hne (Option.some.inj heq).symm, nofun⟩

theorem OpenModule.fresh_left (hname : Declarable d o.modules o.name) :
    o.scopes.left.Fresh d o.name :=
  fresh_iff_declarable.mpr hname

theorem OpenModule.fresh_scopesIn_iff :
    (o.scopesIn h depth).Fresh d name ↔
      (Declarable d o.modules name ∧ name ≠ o.name ∧ name ≠ h.name ∧ name ∉ o.functionNames) ∧
        name ∉ h.parameters := by
  constructor
  · intro hname
    have hfunctions : name ∉ h.name :: o.functionNames.reverse := hname.functions
    rw [List.mem_cons, not_or, List.mem_reverse] at hfunctions
    refine ⟨⟨⟨hname.toPermitted, fun hmem => hname.modules (List.mem_reverse.mpr hmem)⟩, ?_,
      hfunctions⟩, fun hmem => hname.parameters (List.mem_reverse.mpr hmem)⟩
    rintro rfl
    exact hname.openModule rfl
  · rintro ⟨⟨⟨hname, hmodules⟩, hne, hfunction, hfunctions⟩, hparameters⟩
    refine ⟨hname, fun hmem => hmodules (List.mem_reverse.mp hmem), ?_,
      fun hmem => hparameters (List.mem_reverse.mp hmem),
      fun heq => hne (Option.some.inj heq).symm,
      fun heq => hfunction (Option.some.inj heq).symm⟩
    rintro (_ | ⟨_, hmem⟩)
    · exact hfunction rfl
    · exact hfunctions (List.mem_reverse.mp hmem)

theorem OpenModule.resolve_scopesIn_iff :
    (∃ kind, (o.scopesIn h depth).resolve d name = .ok kind) ↔
      Usable d (h.parameters ++ h.name :: o.functionNames ++ o.modules) name := by
  rw [Scopes.exists_resolve_iff, Scopes.isGlobal_eq_true_iff, Usable]
  simp only [OpenModule.scopesIn, List.mem_cons, List.mem_reverse, List.mem_append]
  tauto

theorem OpenModule.checkExport_iff :
    o.scopes.checkExport d name = .ok () ↔ Usable d (o.functionNames ++ o.modules) name := by
  rw [Scopes.checkExport_eq_ok_iff, Scopes.isGlobal_eq_true_iff, Usable]
  simp only [OpenModule.scopes, List.mem_reverse, List.mem_append]
  tauto

end Scopes

theorem Draft.body_wellScoped_iff {d : Dialect} {o : OpenModule} {f : FunctionDecl} :
    OpenModule.WellScoped d { o with functions := o.functions ++ [f] } ↔
      (Draft.body o f).WellScoped d ∧ openDepth f.body = 0 := by
  rw [OpenModule.wellScoped_concat]
  constructor
  · rintro ⟨ho, hheading, hbody, hbalanced⟩
    obtain ⟨hnested, hdepth⟩ := balanced_iff.mp hbalanced
    exact ⟨⟨ho, hheading, hbody, hnested⟩, hdepth⟩
  · rintro ⟨⟨ho, hheading, hbody, hnested⟩, hdepth⟩
    exact ⟨ho, hheading, hbody, balanced_iff.mpr ⟨hnested, hdepth⟩⟩

theorem OpenModule.scopes_concat {o : OpenModule} {f : FunctionDecl}
    (h : openDepth f.body = 0) :
    OpenModule.scopes { o with functions := o.functions ++ [f] } =
      { (Draft.body o f).scopes with parameters := [], openFunction := none } := by
  simp [OpenModule.scopes, Draft.scopes, OpenModule.scopesIn, OpenModule.modules,
    OpenModule.functionNames, h]

end KeywordLang.Program
