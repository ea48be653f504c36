import KeywordLang.Compile
import KeywordLang.Proofs.ProgramReading
import KeywordLang.Proofs.TokenStream
import Mathlib.Data.List.Forall2

/-!
A source is compiled as a program if and only if it is the text of a program that is
well scoped, and the code is that of the program.
-/

namespace KeywordLang

namespace Program

variable {d : Dialect} {ts : List Token} {t : Token} {m m' : Machine}

namespace Machine

theorem feed_eq_ok_iff (ht : t.isTrivia = false) :
    m.feed d t = (.ok (), m') ↔
      Machine.step d { m with line := t.line } t.toLexeme = (.ok (), m') := by
  rcases hstep : Machine.step d { m with line := t.line } t.toLexeme with ⟨fault | ⟨⟩, m''⟩
  · simp [feed_of_step_error ht hstep]
  · simp [feed_of_step_ok ht hstep]

theorem run_concat_eq_ok_iff :
    m.run d (ts ++ [t]) = .ok m' ↔
      ∃ m₁, m.run d ts = .ok m₁ ∧ m₁.feed d t = (.ok (), m') := by
  induction ts generalizing m with
  | nil =>
      rcases hfeed : m.feed d t with ⟨fault | ⟨⟩, m₁⟩
      · simp [run, hfeed]
      · simp [run, hfeed]
  | cons t' ts ih =>
      rcases hfeed : m.feed d t' with ⟨fault | ⟨⟩, m₁⟩
      · simp [run, hfeed]
      · simp only [List.cons_append, run, hfeed]
        exact ih

end Machine

theorem forall₂_concat_iff {α β : Type} {R : α → β → Prop} {xs : List α} {x : α}
    {ys : List β} {y : β} :
    List.Forall₂ R (xs ++ [x]) (ys ++ [y]) ↔ List.Forall₂ R xs ys ∧ R x y := by
  rw [← List.forall₂_reverse_iff, List.reverse_append, List.reverse_append,
    List.reverse_singleton, List.reverse_singleton, List.singleton_append,
    List.singleton_append, List.forall₂_cons, List.forall₂_reverse_iff, and_comm]

theorem Draft.machine_of_yield_eq_nil {phase : Phase} {D : Draft phase} (h : D.yield = []) :
    D.machine 1 = {} := by
  cases D with
  | root done =>
      cases done with
      | nil => rfl
      | cons m done => simp [Draft.yield, Program.yield, ModuleDecl.yield] at h
  | inModule earlier name => simp [Draft.yield, OpenModule.yield] at h
  | body o f => simp [Draft.yield, FunctionDecl.yield] at h
  | _ => simp [Draft.yield, Heading.opening, Heading.yield] at h

theorem Draft.finish_root (d : Dialect) (program : List ModuleDecl) (line : Nat) :
    ((Draft.root program).machine line).finish d = .ok (render d program) :=
  congrArg Except.ok (render_fragments program)

theorem exists_draft_of_run (hts : ∀ t ∈ ts, t.kind ≠ .endOfInput)
    (h : Machine.run d {} ts = .ok m) :
    ∃ (phase : Phase) (D : Draft phase), D.WellScoped d ∧
      List.Forall₂ (Reads d) (significant ts) D.yield ∧ m = D.machine m.line := by
  induction ts using List.reverseRecOn generalizing m with
  | nil =>
      obtain rfl := Except.ok.inj h
      exact ⟨_, .root [], successive_nil, .nil, rfl⟩
  | append_singleton ts t ih =>
      obtain ⟨m₁, hrun, hfeed⟩ := Machine.run_concat_eq_ok_iff.mp h
      obtain ⟨phase, D, hD, hreads, hm₁⟩ :=
        ih (fun t' ht' => hts t' (List.mem_append_left _ ht')) hrun
      rw [hm₁] at hfeed
      cases ht : t.isTrivia with
      | true =>
          rw [Machine.feed_of_isTrivia ht] at hfeed
          cases hfeed
          rw [significant_concat_of_isTrivia ts ht]
          exact ⟨phase, D, hD, hreads, rfl⟩
      | false =>
          have hkind : t.kind ≠ .endOfInput :=
            hts t (List.mem_append_right _ List.mem_cons_self)
          have hstep := (Machine.feed_eq_ok_iff ht).mp hfeed
          obtain ⟨a, hread, htakes⟩ := Machine.exists_takes_of_step hkind hstep
          have htakes : (D.machine t.line).Takes d a m := htakes
          obtain ⟨phase', D', hD', hyield, hm⟩ := Draft.comesTo_of_takes hD htakes
          refine ⟨phase', D', hD', ?_, hm⟩
          rw [significant_concat_of_not_isTrivia ts ht, hyield]
          exact forall₂_concat_iff.mpr ⟨hreads, hread⟩

theorem exists_run_of_draft (hk : d.keywords.Distinct) {phase : Phase} {D : Draft phase}
    (hD : D.WellScoped d) (hreads : List.Forall₂ (Reads d) (significant ts) D.yield) :
    ∃ line, Machine.run d {} ts = .ok (D.machine line) := by
  -- The draft is known as a whole, so the run is taken apart from its end: the last
  -- terminal of the draft is the one that the machine has taken last.
  induction ts using List.reverseRecOn generalizing phase D with
  | nil =>
      have hyield : D.yield = [] := List.forall₂_nil_left_iff.mp hreads
      exact ⟨1, congrArg Except.ok (Draft.machine_of_yield_eq_nil hyield).symm⟩
  | append_singleton ts t ih =>
      cases ht : t.isTrivia with
      | true =>
          rw [significant_concat_of_isTrivia ts ht] at hreads
          obtain ⟨line, hrun⟩ := ih hD hreads
          exact ⟨t.line, Machine.run_concat_eq_ok_iff.mpr
            ⟨_, hrun, Machine.feed_of_isTrivia ht⟩⟩
      | false =>
          rw [significant_concat_of_not_isTrivia ts ht] at hreads
          have hne : D.yield ≠ [] := by
            intro hnil
            rw [hnil, List.forall₂_nil_right_iff] at hreads
            exact List.concat_ne_nil _ _ hreads
          obtain ⟨phase₁, D₁, a, hD₁, hyield, htakes⟩ := hD.reached hne
          rw [hyield] at hreads
          obtain ⟨hreads, hread⟩ := forall₂_concat_iff.mp hreads
          obtain ⟨line, hrun⟩ := ih hD₁ hreads
          have hstep := (htakes t.line).step hk hread
          exact ⟨t.line, Machine.run_concat_eq_ok_iff.mpr
            ⟨_, hrun, (Machine.feed_eq_ok_iff ht).mpr hstep⟩⟩

theorem run_finish_eq_ok_iff {last : Token} {out : String} (hk : d.keywords.Distinct)
    (hts : ∀ t ∈ ts, t.kind ≠ .endOfInput) (hlast : last.kind = .endOfInput) :
    (Machine.run d {} (ts ++ [last]) >>= Machine.finish d) = .ok out ↔
      ∃ program, List.Forall₂ (Reads d) (significant ts) (yield program) ∧
        WellScoped d program ∧ render d program = out := by
  have htrivia : last.isTrivia = false := by simp [Lexeme.isTrivia, hlast]
  rw [bind_eq_ok_iff]
  constructor
  · rintro ⟨m', hrun, hfinish⟩
    obtain ⟨m, hrun, hfeed⟩ := Machine.run_concat_eq_ok_iff.mp hrun
    obtain ⟨phase, D, hD, hreads, hm⟩ := exists_draft_of_run hts hrun
    have hstep := (Machine.feed_eq_ok_iff htrivia).mp hfeed
    obtain ⟨hphase, rfl⟩ := (Machine.step_endOfInput_eq_ok_iff hlast).mp hstep
    rw [hm] at hphase hfinish
    obtain rfl : phase = .root := hphase
    cases D with
    | root program =>
        have hout := (Draft.finish_root d program last.line).symm.trans hfinish
        exact ⟨program, hreads, hD, Except.ok.inj hout⟩
  · rintro ⟨program, hreads, hprogram, rfl⟩
    have hD : (Draft.root program).WellScoped d := hprogram
    obtain ⟨line, hrun⟩ := exists_run_of_draft hk hD hreads
    refine ⟨(Draft.root program).machine last.line, Machine.run_concat_eq_ok_iff.mpr
      ⟨_, hrun, (Machine.feed_eq_ok_iff htrivia).mpr ?_⟩, ?_⟩
    · exact (Machine.step_endOfInput_eq_ok_iff hlast).mpr ⟨rfl, rfl⟩
    · exact Draft.finish_root d program last.line

end Program

end KeywordLang
