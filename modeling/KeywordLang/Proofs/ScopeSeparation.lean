import KeywordLang.Proofs.ScopeChanges
import Mathlib.Data.List.Lattice

/-!
No name is in two scopes at once, whatever is requested of them and in which order.
So a name resolves to the one scope that contains it, a name that resolves cannot be
defined again, and a global name stays global.
-/

namespace KeywordLang

/-- The request to define a name in the scope of a kind. -/
def ScopeRequest.declare : ScopeKind → String → ScopeRequest
  | .parameter, name => .declareParameter name
  | .function, name => .declareFunction name
  | .global, name => .declareGlobal name

namespace Scopes

/-- The scopes after a sequence of requests, granted or not. -/
def after (d : Dialect) (s : Scopes) (requests : List ScopeRequest) : Scopes :=
  requests.foldl (fun s r => (s.serve d r).2) s

/-- The scope of a kind contains a name. -/
def Holds (d : Dialect) (s : Scopes) : ScopeKind → String → Prop
  | .parameter, name => name ∈ s.parameters
  | .function, name => name ∈ s.functions
  | .global, name => s.isGlobal d name = true

/-- The scopes have no name in common, with each other or with the dialect, and the
open module has a name of its own. -/
structure Separate (d : Dialect) (s : Scopes) : Prop where
  modules_functions : s.modules.Disjoint s.functions
  modules_parameters : s.modules.Disjoint s.parameters
  functions_parameters : s.functions.Disjoint s.parameters
  modules : ∀ name ∈ s.modules, Permitted d name
  functions : ∀ name ∈ s.functions, Permitted d name
  parameters : ∀ name ∈ s.parameters, Permitted d name
  openModule : ∀ name, s.openModule = some name →
    name ∉ s.modules ∧ name ∉ s.functions ∧ name ∉ s.parameters ∧ Permitted d name

variable {d : Dialect} {s s' : Scopes} {name : String}

theorem Fresh.ne_of_openModule {current : String} (h : s.Fresh d name)
    (hopen : s.openModule = some current) : current ≠ name := by
  rintro rfl
  exact h.openModule hopen

theorem Separate.empty (d : Dialect) : Separate d {} := by
  refine ⟨?_, ?_, ?_, ?_, ?_, ?_, ?_⟩ <;> simp

theorem Change.separate (h : Change d s s') (hs : s.Separate d) : s'.Separate d := by
  obtain ⟨hmf, hmp, hfp, hm, hf, hp, hopen⟩ := hs
  cases h with
  | unchanged => exact ⟨hmf, hmp, hfp, hm, hf, hp, hopen⟩
  | @global n hn =>
      refine ⟨List.disjoint_cons_left.mpr ⟨hn.functions, hmf⟩,
        List.disjoint_cons_left.mpr ⟨hn.parameters, hmp⟩, hfp,
        List.forall_mem_cons.mpr ⟨hn.toPermitted, hm⟩, hf, hp, ?_⟩
      intro current hcurrent
      obtain ⟨hmodules, hrest⟩ := hopen current hcurrent
      exact ⟨List.not_mem_cons_of_ne_of_not_mem (hn.ne_of_openModule hcurrent) hmodules,
        hrest⟩
  | @function n hn =>
      refine ⟨List.disjoint_cons_right.mpr ⟨hn.modules, hmf⟩, hmp,
        List.disjoint_cons_left.mpr ⟨hn.parameters, hfp⟩,
        hm, List.forall_mem_cons.mpr ⟨hn.toPermitted, hf⟩, hp, ?_⟩
      intro current hcurrent
      obtain ⟨hmodules, hfunctions, hrest⟩ := hopen current hcurrent
      exact ⟨hmodules,
        List.not_mem_cons_of_ne_of_not_mem (hn.ne_of_openModule hcurrent) hfunctions, hrest⟩
  | @parameter n hn =>
      refine ⟨hmf, List.disjoint_cons_right.mpr ⟨hn.modules, hmp⟩,
        List.disjoint_cons_right.mpr ⟨hn.functions, hfp⟩,
        hm, hf, List.forall_mem_cons.mpr ⟨hn.toPermitted, hp⟩, ?_⟩
      intro current hcurrent
      obtain ⟨hmodules, hfunctions, hparameters, hrest⟩ := hopen current hcurrent
      exact ⟨hmodules, hfunctions,
        List.not_mem_cons_of_ne_of_not_mem (hn.ne_of_openModule hcurrent) hparameters, hrest⟩
  | @moduleOpened n _ hn =>
      refine ⟨hmf, hmp, hfp, hm, hf, hp, ?_⟩
      intro current hcurrent
      obtain rfl := Option.some.inj hcurrent
      exact ⟨hn.modules, hn.functions, hn.parameters, hn.toPermitted⟩
  | moduleLeft =>
      exact ⟨List.disjoint_nil_right _, hmp, List.disjoint_nil_left _, hm, nofun, hp, nofun⟩
  | @moduleClosed n _ hn =>
      exact ⟨List.disjoint_nil_right _, List.disjoint_cons_left.mpr ⟨hn.parameters, hmp⟩,
        List.disjoint_nil_left _, List.forall_mem_cons.mpr ⟨hn.toPermitted, hm⟩, nofun, hp,
        nofun⟩
  | functionOpened n =>
      refine ⟨hmf, List.disjoint_nil_right _, List.disjoint_nil_right _, hm, hf, nofun, ?_⟩
      intro current hcurrent
      obtain ⟨hmodules, hfunctions, -, hrest⟩ := hopen current hcurrent
      exact ⟨hmodules, hfunctions, List.not_mem_nil, hrest⟩
  | functionClosed =>
      refine ⟨hmf, List.disjoint_nil_right _, List.disjoint_nil_right _, hm, hf, nofun, ?_⟩
      intro current hcurrent
      obtain ⟨hmodules, hfunctions, -, hrest⟩ := hopen current hcurrent
      exact ⟨hmodules, hfunctions, List.not_mem_nil, hrest⟩
  | brackets b => exact ⟨hmf, hmp, hfp, hm, hf, hp, hopen⟩

theorem Separate.after (hs : s.Separate d) (requests : List ScopeRequest) :
    (s.after d requests).Separate d := by
  induction requests generalizing s with
  | nil => exact hs
  | cons r requests ih => exact ih ((serve_change d s r).separate hs)

theorem isGlobal_eq_true_iff :
    s.isGlobal d name = true ↔ d.isBuiltin name = true ∨ name ∈ s.modules := by
  simp [isGlobal]

theorem Separate.holds_unique (hs : s.Separate d) {kind kind' : ScopeKind}
    (h : s.Holds d kind name) (h' : s.Holds d kind' name) : kind = kind' := by
  have hpf : name ∈ s.parameters → name ∉ s.functions :=
    fun hp hf => hs.functions_parameters hf hp
  have hpg : name ∈ s.parameters → s.isGlobal d name ≠ true := by
    intro hp hg
    rcases isGlobal_eq_true_iff.mp hg with hbuiltin | hm
    · exact Bool.false_ne_true ((hs.parameters name hp).builtin.symm.trans hbuiltin)
    · exact hs.modules_parameters hm hp
  have hfg : name ∈ s.functions → s.isGlobal d name ≠ true := by
    intro hf hg
    rcases isGlobal_eq_true_iff.mp hg with hbuiltin | hm
    · exact Bool.false_ne_true ((hs.functions name hf).builtin.symm.trans hbuiltin)
    · exact hs.modules_functions hm hf
  cases kind with
  | parameter =>
      cases kind' with
      | parameter => rfl
      | function => exact absurd h' (hpf h)
      | global => exact absurd h' (hpg h)
  | function =>
      cases kind' with
      | parameter => exact absurd h (hpf h')
      | function => rfl
      | global => exact absurd h' (hfg h)
  | global =>
      cases kind' with
      | parameter => exact absurd h (hpg h')
      | function => exact absurd h (hfg h')
      | global => rfl

theorem holds_of_resolve {kind : ScopeKind} (h : s.resolve d name = .ok kind) :
    name.length ≤ d.maxNameLength ∧ s.Holds d kind name := by
  rw [resolve, check_bind_eq_ok_iff, checkLength_eq_ok_iff] at h
  obtain ⟨hlength, h⟩ := h
  refine ⟨hlength, ?_⟩
  split at h
  · next hmem =>
      obtain rfl := Except.ok.inj h
      exact List.contains_iff_mem.mp hmem
  · split at h
    · next hmem =>
        obtain rfl := Except.ok.inj h
        exact List.contains_iff_mem.mp hmem
    · split at h
      · next hglobal =>
          obtain rfl := Except.ok.inj h
          exact hglobal
      · cases h

theorem exists_resolve_of_holds (kind : ScopeKind) (hlength : name.length ≤ d.maxNameLength)
    (h : s.Holds d kind name) : ∃ found, s.resolve d name = .ok found := by
  simp only [resolve, check_bind_eq_ok_iff, checkLength_eq_ok_iff, hlength, true_and]
  split
  · exact ⟨_, rfl⟩
  · next hp =>
      split
      · exact ⟨_, rfl⟩
      · next hf =>
          split
          · exact ⟨_, rfl⟩
          · next hg =>
              cases kind with
              | parameter => exact absurd (List.contains_iff_mem.mpr h) hp
              | function => exact absurd (List.contains_iff_mem.mpr h) hf
              | global => exact absurd h hg

theorem exists_resolve_iff :
    (∃ kind, s.resolve d name = .ok kind) ↔ name.length ≤ d.maxNameLength ∧
      (name ∈ s.parameters ∨ name ∈ s.functions ∨ s.isGlobal d name = true) := by
  constructor
  · rintro ⟨kind, h⟩
    obtain ⟨hlength, hholds⟩ := holds_of_resolve h
    refine ⟨hlength, ?_⟩
    cases kind with
    | parameter => exact .inl hholds
    | function => exact .inr (.inl hholds)
    | global => exact .inr (.inr hholds)
  · rintro ⟨hlength, h | h | h⟩
    · exact exists_resolve_of_holds .parameter hlength h
    · exact exists_resolve_of_holds .function hlength h
    · exact exists_resolve_of_holds .global hlength h

/-- The order in which the scopes are searched does not matter. -/
theorem Separate.resolve_eq_ok_iff (hs : s.Separate d) {kind : ScopeKind} :
    s.resolve d name = .ok kind ↔
      name.length ≤ d.maxNameLength ∧ s.Holds d kind name := by
  constructor
  · exact holds_of_resolve
  · rintro ⟨hlength, h⟩
    obtain ⟨found, hfound⟩ := exists_resolve_of_holds kind hlength h
    obtain ⟨-, hholds⟩ := holds_of_resolve hfound
    rw [hfound, hs.holds_unique hholds h]

theorem not_fresh_of_holds {kind : ScopeKind} (h : s.Holds d kind name) :
    ¬ s.Fresh d name := by
  intro hfresh
  cases kind with
  | parameter => exact hfresh.parameters h
  | function => exact hfresh.functions h
  | global =>
      rcases isGlobal_eq_true_iff.mp h with hbuiltin | hmem
      · exact Bool.false_ne_true (hfresh.builtin.symm.trans hbuiltin)
      · exact hfresh.modules hmem

theorem eq_of_allOrNothing_ok {x : Except Fault Scopes} {answer : ScopeAnswer}
    (h : (s.allOrNothing x).1 = .ok answer) : x = .ok (s.allOrNothing x).2 := by
  cases x with
  | error fault => cases h
  | ok s' => rfl

theorem holds_of_declare {kind : ScopeKind} {answer : ScopeAnswer}
    (h : (s.serve d (.declare kind name)).1 = .ok answer) :
    name.length ≤ d.maxNameLength ∧
      (s.serve d (.declare kind name)).2.Holds d kind name := by
  cases kind with
  | parameter =>
      obtain ⟨hfresh, hs'⟩ := declareParameter_eq_ok_iff.mp (eq_of_allOrNothing_ok h)
      refine ⟨hfresh.length, ?_⟩
      simp only [ScopeRequest.declare, serve, Holds, hs', List.mem_cons, true_or]
  | function =>
      obtain ⟨hfresh, hs'⟩ := declareFunction_eq_ok_iff.mp (eq_of_allOrNothing_ok h)
      refine ⟨hfresh.length, ?_⟩
      simp only [ScopeRequest.declare, serve, Holds, hs', List.mem_cons, true_or]
  | global =>
      obtain ⟨hfresh, hs'⟩ := declareGlobal_eq_ok_iff.mp (eq_of_allOrNothing_ok h)
      refine ⟨hfresh.length, isGlobal_eq_true_iff.mpr (.inr ?_)⟩
      simp only [ScopeRequest.declare, serve, hs', List.mem_cons, true_or]

theorem declare_of_holds {kind : ScopeKind} (hlength : name.length ≤ d.maxNameLength)
    (h : s.Holds d kind name) (kind' : ScopeKind) :
    s.serve d (.declare kind' name) = (.error (.alreadyDefined name), s) := by
  have hcheck := checkNew_of_not_fresh hlength (not_fresh_of_holds h)
  cases kind' with
  | parameter => simp only [ScopeRequest.declare, serve, declareParameter, hcheck]; rfl
  | function => simp only [ScopeRequest.declare, serve, declareFunction, hcheck]; rfl
  | global => simp only [ScopeRequest.declare, serve, declareGlobal, hcheck]; rfl

theorem Change.modules_subset (h : Change d s s') : s.modules ⊆ s'.modules := by
  cases h with
  | global _ => exact List.subset_cons_self _ _
  | moduleClosed _ _ => exact List.subset_cons_self _ _
  | _ => exact List.Subset.refl _

theorem holds_global_after (h : s.Holds d .global name) (requests : List ScopeRequest) :
    (s.after d requests).Holds d .global name := by
  induction requests generalizing s with
  | nil => exact h
  | cons r requests ih =>
      apply ih
      rcases isGlobal_eq_true_iff.mp h with hbuiltin | hmem
      · exact isGlobal_eq_true_iff.mpr (.inl hbuiltin)
      · exact isGlobal_eq_true_iff.mpr (.inr ((serve_change d s r).modules_subset hmem))

/-- After any requests, granted or refused, the scopes are apart: a name resolves to
the only scope that contains it, the definition of a name decides what it resolves to,
a name that resolves cannot be defined, and a global name remains one. -/
theorem scopes_stay_separate (d : Dialect) (requests : List ScopeRequest) :
    let s := Scopes.after d {} requests
    s.Separate d ∧
    (∀ name kind kind', s.Holds d kind name → s.Holds d kind' name → kind = kind') ∧
    (∀ name kind, s.resolve d name = .ok kind ↔
      name.length ≤ d.maxNameLength ∧ s.Holds d kind name) ∧
    (∀ name kind answer, (s.serve d (.declare kind name)).1 = .ok answer →
      (s.serve d (.declare kind name)).2.resolve d name = .ok kind) ∧
    (∀ name kind, s.resolve d name = .ok kind → ∀ kind',
      s.serve d (.declare kind' name) = (.error (.alreadyDefined name), s)) ∧
    (∀ name, s.resolve d name = .ok .global → ∀ further,
      (s.after d further).resolve d name = .ok .global) := by
  intro s
  have hs : s.Separate d := (Separate.empty d).after requests
  refine ⟨hs, ?_, ?_, ?_, ?_, ?_⟩
  · intro name kind kind' h h'
    exact hs.holds_unique h h'
  · intro name kind
    exact hs.resolve_eq_ok_iff
  · intro name kind answer h
    have hserved := (serve_change d s (.declare kind name)).separate hs
    exact hserved.resolve_eq_ok_iff.mpr (holds_of_declare h)
  · intro name kind h kind'
    obtain ⟨hlength, hholds⟩ := holds_of_resolve h
    exact declare_of_holds hlength hholds kind'
  · intro name h further
    obtain ⟨hlength, hholds⟩ := holds_of_resolve h
    exact (hs.after further).resolve_eq_ok_iff.mpr
      ⟨hlength, holds_global_after hholds further⟩

end Scopes

end KeywordLang
