import KeywordLang.Proofs.ProgramAcceptance
import KeywordLang.Proofs.ProgramSpelling
import KeywordLang.Proofs.Reader

/-!
What the code of a program tells about the program. Fragments are written one after the
other with nothing between them, so two numbers side by side, or a name and a number, look
like one. Nothing else gets lost: two sources have the same code if and only if their
programs have the same finest form.
-/

namespace KeywordLang.Program

/-! The names and texts of a program that is read from a source. -/

/-- A terminal that holds a name or a text as the scanner finds them. -/
def Terminal.Readable : Terminal → Prop
  | .name word => Code.IsName word
  | .text literal => ∃ inner, literal = String.ofList ('"' :: (inner ++ ['"'])) ∧ '"' ∉ inner
  | _ => True

theorem Reads.readable {d : Dialect} {x : Lexeme} {a : Terminal} {tail : List Char}
    (h : Reads d x a) (hcut : Scan.Cut d x.kind x.text.toList tail) : a.Readable := by
  cases h with
  | operator h =>
      cases a with
      | name word => cases h
      | text literal => cases h
      | _ => trivial
  | name text =>
      obtain ⟨c, body, htext, hc, hbody⟩ := hcut.exists_word
      have hword : ∀ x ∈ text.toList, Scan.continuesWord x = true := by
        rw [htext]
        refine List.forall_mem_cons.mpr ⟨?_, hbody⟩
        rw [Scan.continuesWord, hc]
        rfl
      exact fun x hx => Code.isNameChar_of_mem_upper hword hx
  | number h => trivial
  | text literal =>
      obtain ⟨inner, htext, hinner⟩ := hcut.exists_text
      refine ⟨inner, ?_, hinner⟩
      rw [← htext, String.ofList_toList]

theorem readable_of_reads {d : Dialect} {xs : List Lexeme} {w : List Terminal}
    (h : List.Forall₂ (Reads d) xs w)
    (hxs : ∀ x ∈ xs, ∃ tail, Scan.Cut d x.kind x.text.toList tail) :
    ∀ a ∈ w, a.Readable := by
  induction h with
  | nil => exact nofun
  | cons hread _ ih =>
      obtain ⟨⟨tail, hcut⟩, hxs⟩ := List.forall_mem_cons.mp hxs
      exact List.forall_mem_cons.mpr ⟨hread.readable hcut, ih hxs⟩

theorem FunctionDecl.readable_fragments {f : FunctionDecl} (h : ∀ a ∈ f.yield, a.Readable) :
    ∀ x ∈ f.fragments, x.Readable := by
  have hname : Code.IsName f.name :=
    h (.name f.name) (by simp [FunctionDecl.yield, Heading.yield])
  have hparameter {p : String} (hp : p ∈ f.parameters) : Code.IsName p := by
    have hmem := mem_intersperse_of_mem (.mark .comma) (List.mem_map_of_mem (f := Terminal.name) hp)
    exact h (.name p) (by simp [FunctionDecl.yield, Heading.yield, hmem])
  have hitem {item : Item} (hmem : item ∈ f.body) : (item.fragment f.name).Readable := by
    have hread : item.terminal.Readable :=
      h _ (List.mem_append_right _ (List.mem_cons_of_mem _ (List.mem_map_of_mem hmem)))
    cases item with
    | selfReference => exact hname
    | _ => exact hread
  intro x hx
  simp only [FunctionDecl.fragments, Heading.fragments, List.mem_append, List.mem_cons,
    List.not_mem_nil, or_false] at hx
  rcases hx with ((((rfl | rfl) | hx) | rfl) | rfl | hx) | rfl
  · exact hname
  · trivial
  · rcases mem_of_mem_intersperse hx with hx | rfl
    · obtain ⟨p, hp, rfl⟩ := List.mem_map.mp hx
      exact hparameter hp
    · trivial
  · trivial
  · trivial
  · obtain ⟨item, hmem, rfl⟩ := List.mem_map.mp hx
    exact hitem hmem
  · trivial

theorem ModuleDecl.readable_fragments {m : ModuleDecl} (h : ∀ a ∈ m.yield, a.Readable) :
    ∀ x ∈ m.fragments, x.Readable := by
  intro x hx
  simp only [ModuleDecl.fragments, List.cons_append, List.mem_append, List.mem_cons,
    List.mem_flatMap, List.not_mem_nil, or_false] at hx
  rcases hx with rfl | ⟨f, hf, hx⟩ | rfl
  · exact h (.name m.name) (by simp [ModuleDecl.yield])
  · refine FunctionDecl.readable_fragments (fun a ha => h a ?_) x hx
    have hmem : a ∈ m.functions.flatMap FunctionDecl.yield := List.mem_flatMap.mpr ⟨f, hf, ha⟩
    simp [ModuleDecl.yield, hmem]
  · exact h (.name m.entry) (by simp [ModuleDecl.yield])

theorem readable_fragments {program : List ModuleDecl} (h : ∀ a ∈ yield program, a.Readable) :
    ∀ x ∈ fragments program, x.Readable := by
  intro x hx
  obtain ⟨m, hm, hx⟩ := List.mem_flatMap.mp hx
  exact ModuleDecl.readable_fragments
    (fun a ha => h a (List.mem_flatMap.mpr ⟨m, hm, ha⟩)) x hx

/-- A source is the text of a program. -/
def IsTextOf (d : Dialect) (source : String) (program : List ModuleDecl) : Prop :=
  List.Forall₂ (Reads d) (Scan.content d source.toList) (yield program)

theorem IsTextOf.render_eq_iff {source source' : String} {program program' : List ModuleDecl}
    (h : IsTextOf .standard source program) (h' : IsTextOf .standard source' program') :
    render .standard program = render .standard program' ↔
      program.map ModuleDecl.spelledOut = program'.map ModuleDecl.spelledOut := by
  have hreadable {source : String} {program : List ModuleDecl}
      (h : IsTextOf .standard source program) : ∀ x ∈ fragments program, x.Readable := by
    apply readable_fragments
    apply readable_of_reads h
    intro x hx
    exact Scan.exists_cut_of_mem_lexemes (List.mem_of_mem_filter hx)
  constructor
  · intro heq
    rw [← render_fragments, ← render_fragments,
      Code.render_eq_iff (hreadable h) (hreadable h')] at heq
    exact spelledOut_eq_of_fragments heq
  · intro heq
    rw [← render_spelledOut, heq, render_spelledOut]

theorem exists_isTextOf {d : Dialect} (hk : d.keywords.Distinct) {source output : String}
    (h : compileProgram d source = .ok output) :
    ∃ program, IsTextOf d source program ∧ render d program = output := by
  obtain ⟨ts, last, htokens, hsignificant, hts, hlast⟩ := exists_tokens d source
  have hcompile : compileProgram d source =
      (Machine.run d {} (ts ++ [last]) >>= Machine.finish d) := by
    rw [← htokens]
    rfl
  rw [hcompile, run_finish_eq_ok_iff hk hts hlast, hsignificant] at h
  obtain ⟨program, hreads, -, hrender⟩ := h
  exact ⟨program, hreads, hrender⟩

/-- The code of a program tells everything about the program except for the grouping of
digits. Sources have the same code exactly if their programs have the same finest form. If in
both no number directly follows a number or a name, these are the programs themselves, up to
the way in which functions refer to themselves. -/
theorem code_eq_iff_spelledOut_eq {source source' output output' : String}
    (h : compileProgram .standard source = .ok output)
    (h' : compileProgram .standard source' = .ok output') :
    ∃ program program', IsTextOf .standard source program ∧
      IsTextOf .standard source' program' ∧
      (output = output' ↔
        program.map ModuleDecl.spelledOut = program'.map ModuleDecl.spelledOut) ∧
      (NumbersStandApart program → NumbersStandApart program' →
        (output = output' ↔
          program.map ModuleDecl.named = program'.map ModuleDecl.named)) := by
  have hk : Dialect.standard.keywords.Distinct := ⟨by decide, by decide +kernel⟩
  obtain ⟨program, htext, rfl⟩ := exists_isTextOf hk h
  obtain ⟨program', htext', rfl⟩ := exists_isTextOf hk h'
  have hcode := htext.render_eq_iff htext'
  refine ⟨program, program', htext, htext', hcode, fun hapart hapart' => ?_⟩
  rw [hcode, spelledOut_eq_iff_named_eq hapart hapart']

/-- A name takes the number after it, a number the next one, and a function its own name. -/
theorem code_eq_of_regrouped_digits :
    let source := "МОДУЛЬ М ПУСТЬ Ф(Н,Н1) = СЕБЯ(Н1 02) СТАРТ Ф"
    let source' := "МОДУЛЬ М ПУСТЬ Ф(Н,Н1) = ф(н 12) СТАРТ Ф"
    let output := "const m_М = function () \x7b\n" ++
      "  const m_Ф = (m_Н,m_Н1) => (m_Ф(m_Н12));\n  return m_Ф;\n\x7d();\n"
    compileProgram .standard source = .ok output ∧
      compileProgram .standard source' = .ok output ∧
      ∃ program program', IsTextOf .standard source program ∧
        IsTextOf .standard source' program' ∧
        program.map ModuleDecl.spelledOut = program'.map ModuleDecl.spelledOut := by
  intro source source' output
  have h : compileProgram .standard source = .ok output := by decide +kernel
  have h' : compileProgram .standard source' = .ok output := by decide +kernel
  obtain ⟨program, program', htext, htext', hcode, -⟩ := code_eq_iff_spelledOut_eq h h'
  exact ⟨h, h', program, program', htext, htext', hcode.mp rfl⟩

theorem length_yield_named (program : List ModuleDecl) :
    (yield (program.map ModuleDecl.named)).length = (yield program).length := by
  have hfunction (f : FunctionDecl) : f.named.yield.length = f.yield.length := by
    simp [FunctionDecl.yield, FunctionDecl.named]
  have hmodule (m : ModuleDecl) : m.named.yield.length = m.yield.length := by
    simp [ModuleDecl.yield, ModuleDecl.named, List.flatMap_map, List.length_flatMap, hfunction]
  simp only [yield, List.flatMap_map, List.length_flatMap, hmodule]

/-- Two numbers side by side have the code of one, so different programs can have the same
code. -/
theorem numbers_run_together :
    let source := "МОДУЛЬ М ПУСТЬ Ф() = 1 2 СТАРТ Ф"
    let source' := "МОДУЛЬ М ПУСТЬ Ф() = 12 СТАРТ Ф"
    (∃ output, compileProgram .standard source = .ok output ∧
      compileProgram .standard source' = .ok output) ∧
      ¬ ∃ program program', IsTextOf .standard source program ∧
        IsTextOf .standard source' program' ∧
        program.map ModuleDecl.named = program'.map ModuleDecl.named := by
  intro source source'
  have hsource : (Scan.content .standard source.toList).length = 11 := by decide +kernel
  have hsource' : (Scan.content .standard source'.toList).length = 10 := by decide +kernel
  refine ⟨⟨"const m_М = function () \x7b\n  const m_Ф = () => (12);\n  return m_Ф;\n\x7d();\n",
    by decide +kernel, by decide +kernel⟩, ?_⟩
  rintro ⟨program, program', htext, htext', hnamed⟩
  have hlength := htext.length_eq
  have hlength' := htext'.length_eq
  rw [← length_yield_named, hnamed, length_yield_named, ← hlength', hsource, hsource'] at hlength
  cases hlength

end KeywordLang.Program
