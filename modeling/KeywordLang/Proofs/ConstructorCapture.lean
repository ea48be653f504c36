import KeywordLang.Proofs.FrontEndAgreement
import KeywordLang.Proofs.LetterCase
import KeywordLang.Proofs.ProgramDeclarations

/-!
The generated code wraps texts in a call of the text constructor, which is a name of the
runtime library like the built-ins. Unlike them it is not kept from programs: a program
can declare a name that is written in the same way, and then its texts go to that name.
This happens in exactly those dialects in which the constructor is a name that a program may
declare.
-/

namespace KeywordLang

/-- A program declares a name that its code writes like the text constructor. -/
def Captures (d : Dialect) (source : String) : Prop :=
  ∃ x ∈ Program.declarations d source, Code.symbol d x.name = Code.symbol d d.textConstructor

instance (d : Dialect) (source : String) : Decidable (Captures d source) :=
  inferInstanceAs (Decidable (∃ x ∈ Program.declarations d source, _))

theorem Code.symbol_inj {d : Dialect} {name name' : String} :
    Code.symbol d name = Code.symbol d name' ↔ name = name' :=
  String.append_right_inj d.namePrefix

theorem Scan.isWord_of_mem_content {d : Dialect} {cs : List Char} {x : Lexeme}
    (hx : x ∈ content d cs) (hname : x.kind = .name) : isWord x.text = true := by
  obtain ⟨tail, hcut⟩ := exists_cut_of_mem_lexemes (List.mem_of_mem_filter hx)
  rw [hname] at hcut
  exact hcut.isWord_of_name

namespace Program

variable {d : Dialect} {x : Lexeme} {xs : List Lexeme} {y : Declaration}

theorem Phase.name_of_declaration {k : Keywords} {phase next : Phase} {action : Action}
    (h : phase.next? k x = some (next, some action)) (hy : action.declaration? = some y) :
    x.kind = .name ∧ y.name = x.word := by
  cases Phase.leads_of_next? h with
  | nameModule text => cases hy; exact ⟨rfl, rfl⟩
  | nameFunction text => cases hy; exact ⟨rfl, rfl⟩
  | firstParameter text => cases hy; exact ⟨rfl, rfl⟩
  | nextParameter text => cases hy; exact ⟨rfl, rfl⟩
  | _ => cases hy

theorem Grants.permitted {s s' : Scopes} {action : Action} {f : Fragment}
    (h : Grants d s action s' f) (hy : action.declaration? = some y) :
    Scopes.Permitted d y.name := by
  cases h with
  | openModule _ hname => cases hy; exact hname.toPermitted
  | openFunction hname => cases hy; exact hname.toPermitted
  | parameter hname => cases hy; exact hname.toPermitted
  | _ => cases hy

theorem Machine.permitted_of_steps {m m' : Machine} (h : (reader d).steps m xs = .ok m')
    (hy : y ∈ m.phase.declarations d.keywords xs) :
    Scopes.Permitted d y.name ∧ ∃ x ∈ xs, x.kind = .name ∧ y.name = x.word := by
  induction xs generalizing m with
  | nil => cases hy
  | cons x xs ih =>
      rcases hstep : m.step d x with ⟨fault | ⟨⟩, m₁⟩
      · rw [Reader.steps_cons_of_error xs hstep] at h
        cases h
      · rw [Reader.steps_cons_of_ok xs hstep] at h
        have hlater (hy : y ∈ m₁.phase.declarations d.keywords xs) :
            Scopes.Permitted d y.name ∧ ∃ x' ∈ x :: xs, x'.kind = .name ∧ y.name = x'.word := by
          obtain ⟨hpermitted, x', hx', hname⟩ := ih h hy
          exact ⟨hpermitted, x', List.mem_cons_of_mem x hx', hname⟩
        rcases step_cases hstep with ⟨next, hnext, rfl⟩ |
          ⟨next, action, s, f, hnext, hgrants, rfl⟩
        · rw [Phase.declarations_cons xs hnext] at hy
          exact hlater hy
        · rw [Phase.declarations_cons xs hnext, List.mem_append, Option.mem_toList] at hy
          rcases hy with hy | hy
          · exact ⟨hgrants.permitted hy, x, List.mem_cons_self, Phase.name_of_declaration hnext hy⟩
          · exact hlater hy

end Program

theorem identifier_of_captures {d : Dialect} {source output : String}
    (h : compileProgram d source = .ok output) (hcaptures : Captures d source) :
    ∃ word, Identifier d word ∧ Text.upper word = d.textConstructor := by
  obtain ⟨y, hy, hsymbol⟩ := hcaptures
  obtain ⟨m, hsteps, -⟩ := Program.compileProgram_eq_ok_iff_steps.mp h
  obtain ⟨hpermitted, x, hx, hkind, hname⟩ := Program.Machine.permitted_of_steps hsteps hy
  rw [Code.symbol_inj.mp hsymbol] at hpermitted hname
  refine ⟨x.text, ⟨Scan.isWord_of_mem_content hx hkind, ?_⟩, hname.symm⟩
  rw [← Lexeme.word, ← hname]
  exact hpermitted

section Capture

variable {d : Dialect} {module word : String}

/-- The empty text, which a body wraps in a call of the constructor. -/
def emptyText : String :=
  "\"\""

theorem content_emptyText (d : Dialect) :
    Scan.content d emptyText.toList = [⟨.text, emptyText⟩] := by
  have hcut : Scan.Cut d .text emptyText.toList [] := .text List.not_mem_nil
  have hcontent : Scan.content d (emptyText.toList ++ []) = _ :=
    Scan.Cut.content (x := ⟨.text, emptyText⟩) hcut rfl
  rwa [List.append_nil, Scan.content_nil] at hcontent

theorem content_textFunction (hk : d.keywords.Distinct)
    (hupper : ∀ word ∈ d.keywords.toList, Text.upper word = word)
    (hmodule : Identifier d module) (hword : Identifier d word) :
    Scan.content d (functionSource d.keywords module word emptyText "\n").toList =
      [⟨.operator, d.keywords.module⟩, ⟨.name, module⟩, ⟨.operator, d.keywords.function⟩,
        ⟨.name, word⟩, ⟨.operator, "("⟩, ⟨.operator, ")"⟩, ⟨.operator, "="⟩] ++
      [⟨.text, emptyText⟩] ++ [⟨.operator, d.keywords.start⟩, ⟨.name, word⟩] := by
  have hknown : ∀ x ∈ Scan.content d emptyText.toList, x.kind ≠ .unknown := by
    rw [content_emptyText]
    exact List.forall_mem_singleton.mpr nofun
  rw [content_functionSource hk.words hupper hmodule hword hknown (.inl rfl), content_emptyText]

theorem declares_textFunction (hk : d.keywords.Distinct)
    (hupper : ∀ word ∈ d.keywords.toList, Text.upper word = word)
    (hmodule : Identifier d module) (hword : Identifier d word) :
    ⟨.function, Text.upper word⟩ ∈
      Program.declarations d (functionSource d.keywords module word emptyText "\n") := by
  have hbegin :=
    Program.Phase.Leads.beginModule (hupper d.keywords.module (by simp [Keywords.toList]))
  have hfirst :=
    Program.Phase.Leads.firstFunction (hupper d.keywords.function (by simp [Keywords.toList]))
  rw [Program.declarations, content_textFunction hk hupper hmodule hword]
  simp only [List.cons_append]
  rw [Program.Phase.declarations_cons _ (hbegin.next? hk),
    Program.Phase.declarations_cons _ ((Program.Phase.Leads.nameModule module).next? hk),
    Program.Phase.declarations_cons _ (hfirst.next? hk),
    Program.Phase.declarations_cons _ ((Program.Phase.Leads.nameFunction word).next? hk)]
  simp [Program.Action.declaration?]

theorem compileProgram_textFunction (hk : d.keywords.Distinct)
    (hupper : ∀ word ∈ d.keywords.toList, Text.upper word = word)
    (hmodule : Identifier d module) (hword : Identifier d word)
    (hne : Text.upper module ≠ Text.upper word) :
    compileProgram d (functionSource d.keywords module word emptyText "\n") =
      .ok (functionCode d (Text.upper module) (Text.upper word) (Code.textCall d emptyText)) := by
  have hbody : List.Forall₂ (Program.Reads d) [⟨.text, emptyText⟩]
      ([Program.Item.text emptyText].map Program.Item.terminal) :=
    .cons (.text emptyText) .nil
  have hreads := Program.forall₂_reads_singleFunction module word hupper hbody
  rw [← content_textFunction hk hupper hmodule hword] at hreads
  have hnames : ∀ name, Program.Item.name name ∈ [Program.Item.text emptyText] →
      name.length ≤ d.maxNameLength ∧ d.isBuiltin name = true := by simp
  have hscoped := Program.wellScoped_singleFunction hmodule.permitted hword.permitted hne hnames
    (Program.balanced_singleton nofun nofun)
  have hcode : String.join ([Program.Item.text emptyText].map
      (Program.Item.render d (Text.upper word))) = Code.textCall d emptyText := by
    simp [Program.Item.render]
  rw [Program.compileProgram_of_yield hk hreads hscoped, Program.render_singleFunction, hcode]

end Capture

/-- A program can capture the text constructor in exactly those dialects in which it is a name
that a program may declare: no built-in, no reserved word, not too long, and the upper-case
form of a word. There a function of that name takes its own texts. -/
theorem captured_constructor_is_identifier {given d : Dialect} (hd : given.normalize = .ok d) :
    (∀ source output, compileProgram d source = .ok output → Captures d source →
      ∃ word, Identifier d word ∧ Text.upper word = d.textConstructor) ∧
    ∀ module word, (∀ keyword ∈ d.keywords.toList, isWord keyword = true) →
      Identifier d module → Identifier d word → Text.upper word = d.textConstructor →
      Text.upper module ≠ d.textConstructor →
        Captures d (functionSource d.keywords module word emptyText "\n") ∧
        compileProgram d (functionSource d.keywords module word emptyText "\n") =
          .ok (functionCode d (Text.upper module) d.textConstructor
            (Code.textCall d emptyText)) := by
  constructor
  · intro source output h hcaptures
    exact identifier_of_captures h hcaptures
  · intro module word hwords hmodule hword hconstructor hne
    obtain ⟨hnodup, hupper⟩ := Dialect.keywords_of_normalize hd
    have hk : d.keywords.Distinct := ⟨hnodup, hwords⟩
    rw [← hconstructor] at hne ⊢
    constructor
    · refine ⟨_, declares_textFunction hk hupper hmodule hword, ?_⟩
      rw [hconstructor]
    · exact compileProgram_textFunction hk hupper hmodule hword hne

/-- Once the constructor is a built-in, texts are safe. -/
theorem captured_constructor_is_identifier_builtin :
    let given : Dialect := { Dialect.standard with builtins := ["вывод", " текст "] }
    let d : Dialect := { Dialect.standard with builtins := ["ВЫВОД", "ТЕКСТ"] }
    given.normalize = .ok d ∧
      compileProgram d "модуль м пусть ф() = вывод(\"привет\") старт ф" =
        .ok (functionCode d "М" "Ф" "m_ВЫВОД(m_ТЕКСТ(\"привет\"))") ∧
      ∀ source output, compileProgram d source = .ok output → ¬ Captures d source := by
  intro given d
  have hnormalize : given.normalize = .ok d := by decide +kernel
  refine ⟨hnormalize, by decide +kernel, ?_⟩
  intro source output h hcaptures
  obtain ⟨word, hword, hupper⟩ :=
    (captured_constructor_is_identifier hnormalize).1 source output h hcaptures
  have hbuiltin := hword.permitted.builtin
  rw [hupper] at hbuiltin
  revert hbuiltin
  decide

/-- In the standard dialect the constructor is a name like any other. The text of the second
function goes to the first one. -/
theorem standard_constructor_captured :
    let source := "МОДУЛЬ М ПУСТЬ ТЕКСТ(А) = 1 ПУСТЬ Ф() = \"привет\" СТАРТ Ф"
    Dialect.standard.normalize = .ok .standard ∧ Captures .standard source ∧
      compileProgram .standard source =
        .ok ("const m_М = function () \x7b\n  const m_ТЕКСТ = (m_А) => (1);\n" ++
          "  const m_Ф = () => (m_ТЕКСТ(\"привет\"));\n  return m_Ф;\n\x7d();\n") := by
  decide +kernel

end KeywordLang
