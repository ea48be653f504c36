import KeywordLang.Proofs.ConstructorCapture
import KeywordLang.Proofs.LetterCase

/-!
Keywords have no meaning beyond their roles. A program in which they are exchanged for those of
another vocabulary is cut at the same places and takes the machine through the same states, as
long as none of its names is a keyword there.
-/

namespace KeywordLang

/-- The keyword with the role that a word has. -/
def Keywords.counterpart? (k k' : Keywords) (word : String) : Option String :=
  (k.toList.zip k'.toList).lookup word

/-- A lexeme in another vocabulary. Nothing but keywords changes. -/
def Lexeme.inVocabulary (k k' : Keywords) (x : Lexeme) : Lexeme :=
  match x.kind, k.counterpart? k' x.word with
  | .operator, some word => ⟨.operator, word⟩
  | _, _ => x

def Dialect.withKeywords (d : Dialect) (k : Keywords) : Dialect :=
  { d with keywords := k }

/-- A source with each keyword exchanged for the one with the same role. -/
def Dialect.translate (d : Dialect) (k : Keywords) (source : String) : String :=
  String.join ((Scan.lexemes d source.toList).map fun x =>
    (x.inVocabulary d.keywords k).text)

section Keywords

variable {k k' : Keywords} {x : Lexeme}

theorem Keywords.counterpart?_roles (k' : Keywords) (hk : k.toList.Nodup) :
    k.counterpart? k' k.module = some k'.module ∧
      k.counterpart? k' k.function = some k'.function ∧
      k.counterpart? k' k.start = some k'.start ∧
      k.counterpart? k' k.selfRef = some k'.selfRef := by
  simp only [toList, List.nodup_cons, List.mem_cons, not_or] at hk
  obtain ⟨⟨hmf, hms, hmr, -⟩, ⟨hfs, hfr, -⟩, ⟨hsr, -⟩, -⟩ := hk
  simp [counterpart?, toList, List.lookup_cons, beq_eq_false_iff_ne.mpr (Ne.symm hmf),
    beq_eq_false_iff_ne.mpr (Ne.symm hms), beq_eq_false_iff_ne.mpr (Ne.symm hmr),
    beq_eq_false_iff_ne.mpr (Ne.symm hfs), beq_eq_false_iff_ne.mpr (Ne.symm hfr),
    beq_eq_false_iff_ne.mpr (Ne.symm hsr)]

theorem Keywords.counterpart?_eq_none_iff {word : String} :
    k.counterpart? k' word = none ↔ word ∉ k.toList := by
  rw [counterpart?, List.lookup_eq_none_iff]
  simp [toList]

theorem Keywords.mem_of_counterpart? {word word' : String}
    (h : k.counterpart? k' word = some word') : word' ∈ k'.toList := by
  obtain ⟨before, after, hsplit, -⟩ := List.lookup_eq_some_iff.mp h
  have hmem : (word, word') ∈ k.toList.zip k'.toList := by simp [hsplit]
  exact (List.of_mem_zip hmem).2

theorem Lexeme.inVocabulary_of_counterpart? {text word : String}
    (h : k.counterpart? k' (Text.upper text) = some word) :
    inVocabulary k k' ⟨.operator, text⟩ = ⟨.operator, word⟩ := by
  simp only [inVocabulary, Lexeme.word, h]

theorem Lexeme.inVocabulary_of_not_mem (h : x.kind = .operator → x.word ∉ k.toList) :
    x.inVocabulary k k' = x := by
  unfold inVocabulary
  split
  · next hkind hword =>
      rw [Keywords.counterpart?_eq_none_iff.mpr (h hkind)] at hword
      cases hword
  · rfl

theorem Lexeme.inVocabulary_cases (k k' : Keywords) (x : Lexeme) :
    (x.inVocabulary k k' = x ∧ (x.kind = .operator → x.word ∉ k.toList)) ∨
      x.kind = .operator ∧ x.word ∈ k.toList ∧
        ∃ word ∈ k'.toList, x.inVocabulary k k' = ⟨.operator, word⟩ := by
  obtain ⟨kind, text⟩ := x
  by_cases hword : kind = .operator → Text.upper text ∉ k.toList
  · exact .inl ⟨inVocabulary_of_not_mem hword, hword⟩
  · obtain ⟨rfl, hmem⟩ := Classical.not_imp.mp hword
    cases hcounterpart : k.counterpart? k' (Text.upper text) with
    | none => exact absurd (Keywords.counterpart?_eq_none_iff.mp hcounterpart) hmem
    | some word =>
        exact .inr ⟨rfl, not_not.mp hmem, word, Keywords.mem_of_counterpart? hcounterpart,
          inVocabulary_of_counterpart? hcounterpart⟩

theorem Lexeme.kind_inVocabulary (k k' : Keywords) (x : Lexeme) :
    (x.inVocabulary k k').kind = x.kind := by
  rcases inVocabulary_cases k k' x with ⟨hx, -⟩ | ⟨hkind, -, word, -, hx⟩
  · rw [hx]
  · rw [hx, hkind]

end Keywords

theorem Dialect.isReserved_withKeywords (d : Dialect) (k : Keywords) (word : String) :
    (d.withKeywords k).isReserved word = true ↔
      word ∈ k.toList ∨ word ∈ expressionKeywords := by
  rw [isReserved, reservedWords, List.contains_iff_mem, List.mem_append]
  rfl

theorem Dialect.isReserved_eq_true_iff {d : Dialect} {word : String} :
    d.isReserved word = true ↔ word ∈ d.keywords.toList ∨ word ∈ expressionKeywords :=
  d.isReserved_withKeywords d.keywords word

namespace Scan

variable {d d' : Dialect} {kind : LexemeKind} {own tail tail' cs : List Char} {x : Lexeme}
  {k : Keywords}

theorem Cut.congr_dialect (h : Cut d kind own tail)
    (hword : wordKind d own = kind → wordKind d' own = kind) : Cut d' kind own tail := by
  cases h with
  | number hc hbody htail => exact .number hc hbody htail
  | text hinner => exact .text hinner
  | punctuation hc => exact .punctuation hc
  | word hc hbody hkind htail => exact .word hc hbody (hword hkind.symm).symm htail
  | lineFeed => exact .lineFeed
  | returnFeed => exact .returnFeed
  | space h => exact .space h
  | comment hinner => exact .comment hinner
  | lastComment hinner => exact .lastComment hinner
  | unknown hdigit hpunctuation halphabetic hblank hquote hslash =>
      exact .unknown hdigit hpunctuation halphabetic hblank hquote hslash

theorem wordKind_toList (d : Dialect) (text : String) :
    wordKind d text.toList = if d.isReserved (Text.upper text) then .operator else .name := by
  rw [wordKind, String.ofList_toList]

theorem wordKind_keyword (d : Dialect) {word : String} (hword : word ∈ k.toList)
    (hupper : Text.upper word = word) : wordKind (d.withKeywords k) word.toList = .operator := by
  rw [wordKind_toList, if_pos]
  rw [Dialect.isReserved_withKeywords, hupper]
  exact .inl hword

theorem wordKind_withKeywords (hother : x.kind = .operator → x.word ∉ d.keywords.toList)
    (hname : x.kind = .name → x.word ∉ k.toList) (h : wordKind d x.text.toList = x.kind) :
    wordKind (d.withKeywords k) x.text.toList = x.kind := by
  rw [wordKind_toList] at h ⊢
  split at h
  · next hreserved =>
      have hexpression :=
        (Dialect.isReserved_eq_true_iff.mp hreserved).resolve_left (hother h.symm)
      rw [if_pos ((d.isReserved_withKeywords k _).mpr (.inr hexpression)), h]
  · next hreserved =>
      rw [Dialect.isReserved_eq_true_iff, not_or] at hreserved
      rw [if_neg, h]
      rw [Dialect.isReserved_withKeywords, not_or]
      exact ⟨hname h.symm, hreserved.2⟩

theorem isWord_punctuation {c : Char} (hc : isPunctuation c = true) :
    isWord (String.ofList [c]) = false := by
  have hall : ['=', '(', ')', ',', '+', '-'].all (fun c => !isWord (String.ofList [c])) = true := by
    decide +kernel
  simpa using of_isPunctuation hall hc

theorem Cut.isWord_of_upper (h : Cut d .operator x.text.toList tail)
    (hupper : isWord x.word = true) : isWord x.text = true := by
  rcases h.operator_cases with ⟨c, hc, htext⟩ | hword
  · rw [Lexeme.word, htext, upper_punctuation hc, isWord_punctuation hc] at hupper
    cases hupper
  · exact hword

theorem Cut.inVocabulary (hk : d.keywords.Distinct) (hk' : k.Distinct)
    (hupper : ∀ word ∈ k.toList, Text.upper word = word)
    (h : Cut d x.kind x.text.toList tail) (hname : x.kind = .name → x.word ∉ k.toList)
    (htail : Alike tail tail') :
    Cut (d.withKeywords k) x.kind (x.inVocabulary d.keywords k).text.toList tail' ∧
      Alike (x.text.toList ++ tail)
        ((x.inVocabulary d.keywords k).text.toList ++ tail') := by
  have hcut := h.of_alike htail
  rcases Lexeme.inVocabulary_cases d.keywords k x with
    ⟨hx, hother⟩ | ⟨hkind, hmem, word, hword, hx⟩
  · rw [hx]
    refine ⟨hcut.congr_dialect (wordKind_withKeywords hother hname), ?_⟩
    apply htail.append_left
    obtain ⟨c, body, hown, -⟩ := h.first
    rw [hown]
    exact List.cons_ne_nil c body
  · rw [hkind] at h hcut ⊢
    rw [hx]
    have hisWord : isWord x.text = true := h.isWord_of_upper (hk.words _ hmem)
    have hisWord' : isWord word = true := hk'.words word hword
    refine ⟨?_, htail.append_words hisWord hisWord'⟩
    obtain ⟨c, body, hown, hc, hbody⟩ := exists_cons_of_isWord hisWord
    obtain ⟨c', body', hown', hc', hbody'⟩ := exists_cons_of_isWord hisWord'
    have hoperator := wordKind_keyword d hword (hupper word hword)
    rw [hown] at hcut
    change Cut (d.withKeywords k) .operator word.toList tail'
    rw [hown'] at hoperator ⊢
    exact .word hc' hbody' hoperator.symm (hcut.word_inv hc hbody).2

theorem lexemes_inVocabulary (hk : d.keywords.Distinct) (hk' : k.Distinct)
    (hupper : ∀ word ∈ k.toList, Text.upper word = word)
    (hnames : ∀ x ∈ lexemes d cs, x.kind = .name → x.word ∉ k.toList) :
    lexemes (d.withKeywords k)
        (characters ((lexemes d cs).map (Lexeme.inVocabulary d.keywords k))) =
      (lexemes d cs).map (Lexeme.inVocabulary d.keywords k) ∧
    Alike cs (characters ((lexemes d cs).map (Lexeme.inVocabulary d.keywords k))) := by
  generalize hxs : lexemes d cs = xs at hnames
  induction xs generalizing cs with
  | nil =>
      obtain rfl := eq_nil_of_lexemes hxs
      refine ⟨?_, ⟨.inl ⟨rfl, rfl⟩, id⟩⟩
      change lexemes (d.withKeywords k) [] = []
      rw [lexemes]
  | cons x xs ih =>
      obtain ⟨hx, hnames⟩ := List.forall_mem_cons.mp hnames
      obtain ⟨tail, rfl, hcut, htail⟩ := exists_cut_of_lexemes hxs
      obtain ⟨hlexemes, halike⟩ := ih htail hnames
      obtain ⟨hcut', halike'⟩ := hcut.inVocabulary hk hk' hupper hx halike
      rw [List.map_cons, characters_cons]
      refine ⟨?_, halike'⟩
      rw [hcut'.lexemes, hlexemes, String.ofList_toList,
        ← Lexeme.kind_inVocabulary d.keywords k x]

theorem content_translate (hk : d.keywords.Distinct) (hk' : k.Distinct)
    (hupper : ∀ word ∈ k.toList, Text.upper word = word) {source : String}
    (hnames : ∀ x ∈ lexemes d source.toList, x.kind = .name → x.word ∉ k.toList) :
    content (d.withKeywords k) (d.translate k source).toList =
      (content d source.toList).map (Lexeme.inVocabulary d.keywords k) := by
  have htext : (d.translate k source).toList =
      characters ((lexemes d source.toList).map (Lexeme.inVocabulary d.keywords k)) := by
    rw [Dialect.translate, String.toList_join, List.flatMap_map, characters, List.flatMap_map]
  have htrivia : (fun x : Lexeme => !(x.inVocabulary d.keywords k).isTrivia) =
      fun x => !x.isTrivia := by
    funext x
    rw [Lexeme.isTrivia, Lexeme.kind_inVocabulary, ← Lexeme.isTrivia]
  rw [content, htext, (lexemes_inVocabulary hk hk' hupper hnames).1, List.filter_map, content]
  exact congrArg (fun p => (List.filter p _).map _) htrivia

end Scan

theorem Scopes.Fresh.withKeywords {d : Dialect} {k : Keywords} {s : Scopes} {name : String}
    (h : s.Fresh d name) (hname : name ∉ k.toList) : s.Fresh (d.withKeywords k) name := by
  have hreserved : (d.withKeywords k).isReserved name = false := by
    have hold := h.reserved
    rw [← Bool.not_eq_true, Dialect.isReserved_eq_true_iff, not_or] at hold
    rw [← Bool.not_eq_true, Dialect.isReserved_withKeywords, not_or]
    exact ⟨hname, hold.2⟩
  exact ⟨⟨h.length, hreserved, h.builtin⟩, h.modules, h.functions, h.parameters, h.openModule,
    h.openFunction⟩

namespace Program

variable {d : Dialect} {k k' : Keywords} {x : Lexeme} {xs : List Lexeme}

theorem Phase.Leads.inVocabulary {phase next : Phase} {action : Option Action}
    (h : Phase.Leads k phase x next action) (hk : k.Distinct)
    (hupper : ∀ word ∈ k'.toList, Text.upper word = word) :
    Phase.Leads k' phase (x.inVocabulary k k') next action := by
  obtain ⟨hmodule, hfunction, hstart, hself⟩ := Keywords.counterpart?_roles k' hk.nodup
  have hmem : k'.module ∈ k'.toList ∧ k'.function ∈ k'.toList ∧ k'.start ∈ k'.toList ∧
      k'.selfRef ∈ k'.toList := by simp [Keywords.toList]
  have hstays {text word : String} (hword : Text.upper text = word)
      (hnot : isWord word = false) :
      Lexeme.inVocabulary k k' ⟨.operator, text⟩ = ⟨.operator, text⟩ := by
    apply Lexeme.inVocabulary_of_not_mem
    intro _ hmem
    rw [Lexeme.word, hword] at hmem
    rw [hk.words word hmem] at hnot
    cases hnot
  cases h with
  | endOfInput text => exact .endOfInput text
  | beginModule hword =>
      rw [Lexeme.inVocabulary_of_counterpart? (hword ▸ hmodule)]
      exact .beginModule (hupper _ hmem.1)
  | nameModule text => exact .nameModule text
  | firstFunction hword =>
      rw [Lexeme.inVocabulary_of_counterpart? (hword ▸ hfunction)]
      exact .firstFunction (hupper _ hmem.2.1)
  | noFunction hword =>
      rw [Lexeme.inVocabulary_of_counterpart? (hword ▸ hstart)]
      exact .noFunction (hupper _ hmem.2.2.1)
  | nameFunction text => exact .nameFunction text
  | openParameters hword =>
      rw [hstays hword (Mark.isWord_text _)]
      exact .openParameters hword
  | firstParameter text => exact .firstParameter text
  | nextParameter text => exact .nextParameter text
  | separator hword =>
      rw [hstays hword (Mark.isWord_text _)]
      exact .separator hword
  | noParameters hword =>
      rw [hstays hword (Mark.isWord_text _)]
      exact .noParameters hword
  | closeParameters hword =>
      rw [hstays hword (Mark.isWord_text _)]
      exact .closeParameters hword
  | assign hword =>
      rw [hstays hword (by decide +kernel)]
      exact .assign hword
  | number text => exact .number text
  | text literal => exact .text literal
  | name text => exact .name text
  | selfReference hword =>
      rw [Lexeme.inVocabulary_of_counterpart? (hword ▸ hself)]
      exact .selfReference (hupper _ hmem.2.2.2)
  | mark hword =>
      rw [hstays hword (Mark.isWord_text _)]
      exact .mark hword
  | nextFunction hword =>
      rw [Lexeme.inVocabulary_of_counterpart? (hword ▸ hfunction)]
      exact .nextFunction (hupper _ hmem.2.1)
  | lastFunction hword =>
      rw [Lexeme.inVocabulary_of_counterpart? (hword ▸ hstart)]
      exact .lastFunction (hupper _ hmem.2.2.1)
  | endModule text => exact .endModule text

/-- Of the keywords an action needs to know only that they are no names. -/
theorem Grants.withKeywords {s s' : Scopes} {action : Action} {f : Fragment}
    (h : Grants d s action s' f) (hs : ∀ name ∈ moduleNames s, name ∉ k.toList)
    (hname : ∀ y ∈ action.declaration?, y.name ∉ k.toList) :
    Grants (d.withKeywords k) s action s' f := by
  cases h with
  | openModule hopen hfresh => exact .openModule hopen (hfresh.withKeywords (hname _ rfl))
  | openFunction hfresh => exact .openFunction (hfresh.withKeywords (hname _ rfl))
  | openParen => exact .openParen
  | closeParen hb => exact .closeParen hb
  | mark hopen hclose => exact .mark hopen hclose
  | parameter hfresh => exact .parameter (hfresh.withKeywords (hname _ rfl))
  | assign => exact .assign
  | closeFunction hb => exact .closeFunction hb
  | selfReference hopen => exact .selfReference hopen
  | number hcheck => exact .number hcheck
  | text literal => exact .text literal
  | symbol hresolve => exact .symbol hresolve
  | closeModule hentry hopen hfresh =>
      have hmodule := hs _ (by rw [moduleNames, hopen]; exact List.mem_cons_self)
      exact .closeModule hentry hopen (hfresh.withKeywords hmodule)

namespace Machine

variable {m m' : Machine}

/-- A step in one vocabulary is a step in the other, and no name becomes a keyword. -/
theorem step_inVocabulary (hk : d.keywords.Distinct) (hk' : k.Distinct)
    (hupper : ∀ word ∈ k.toList, Text.upper word = word)
    (hm : ∀ name ∈ moduleNames m.scopes, name ∉ k.toList)
    (hx : x.kind = .name → x.word ∉ k.toList) (h : m.step d x = (.ok (), m')) :
    m.step (d.withKeywords k) (x.inVocabulary d.keywords k) = (.ok (), m') ∧
      ∀ name ∈ moduleNames m'.scopes, name ∉ k.toList := by
  have hleads {next : Phase} {action : Option Action}
      (hnext : m.phase.next? d.keywords x = some (next, action)) :
      m.phase.next? k (x.inVocabulary d.keywords k) = some (next, action) :=
    ((Phase.leads_of_next? hnext).inVocabulary hk hupper).next? hk'
  rcases step_cases h with ⟨next, hnext, rfl⟩ | ⟨next, action, s, f, hnext, hgrants, rfl⟩
  · exact ⟨step_of_next? (hleads hnext), hm⟩
  · have hdeclared : ∀ y ∈ action.declaration?, y.name ∉ k.toList := by
      intro y hy
      obtain ⟨hkind, hname⟩ := Phase.name_of_declaration hnext hy
      rw [hname]
      exact hx hkind
    refine ⟨step_of_grants (hleads hnext) (hgrants.withKeywords hm hdeclared), ?_⟩
    intro name hmem
    change name ∈ moduleNames s at hmem
    rw [hgrants.moduleNames_eq, List.mem_append, List.mem_reverse, modulesOf] at hmem
    rcases hmem with hmem | hmem
    · obtain ⟨y, hy, rfl⟩ := List.mem_map.mp hmem
      exact hdeclared y (Option.mem_toList.mp (List.mem_of_mem_filter hy))
    · exact hm name hmem

theorem steps_inVocabulary (hk : d.keywords.Distinct) (hk' : k.Distinct)
    (hupper : ∀ word ∈ k.toList, Text.upper word = word)
    (hm : ∀ name ∈ moduleNames m.scopes, name ∉ k.toList)
    (hxs : ∀ x ∈ xs, x.kind = .name → x.word ∉ k.toList) (h : (reader d).steps m xs = .ok m') :
    (reader (d.withKeywords k)).steps m (xs.map (Lexeme.inVocabulary d.keywords k)) = .ok m' := by
  induction xs generalizing m with
  | nil => exact h
  | cons x xs ih =>
      obtain ⟨hx, hxs⟩ := List.forall_mem_cons.mp hxs
      rcases hstep : m.step d x with ⟨fault | ⟨⟩, m₁⟩
      · rw [Reader.steps_cons_of_error xs hstep] at h
        cases h
      · rw [Reader.steps_cons_of_ok xs hstep] at h
        obtain ⟨hstep', hm₁⟩ := step_inVocabulary hk hk' hupper hm hx hstep
        rw [List.map_cons, Reader.steps_cons_of_ok _ hstep']
        exact ih hm₁ hxs h

end Machine

end Program

theorem Code.render_withKeywords (d : Dialect) (k : Keywords) (fragments : List Fragment) :
    Code.render (d.withKeywords k) fragments = Code.render d fragments := by
  have hrender : Fragment.render (d.withKeywords k) = Fragment.render d := by
    funext f
    cases f <;> rfl
  rw [Code.render, hrender, Code.render]

/-- The vocabulary of the declarations carries no meaning beyond the roles of its words. A
program that is compiled in one dialect is compiled to the same code in one with other keywords,
once each of its keywords is exchanged for the one with the same role there, unless one of its
names is a keyword there. -/
theorem compileProgram_translate {given given' d : Dialect} {k : Keywords}
    (hd : given.normalize = .ok d) (hd' : given'.normalize = .ok (d.withKeywords k))
    (hwords : ∀ word ∈ d.keywords.toList, isWord word = true)
    (hwords' : ∀ word ∈ k.toList, isWord word = true) (source output : String)
    (h : compileProgram d source = .ok output)
    (hnames : ∀ x ∈ Scan.lexemes d source.toList, x.kind = .name → x.word ∉ k.toList) :
    compileProgram (d.withKeywords k) (d.translate k source) = .ok output := by
  obtain ⟨hnodup, -⟩ := Dialect.keywords_of_normalize hd
  obtain ⟨hnodup', hupper⟩ := Dialect.keywords_of_normalize hd'
  obtain ⟨m, hsteps, hphase, hcode⟩ := Program.compileProgram_eq_ok_iff_steps.mp h
  have hk : d.keywords.Distinct := ⟨hnodup, hwords⟩
  have hk' : k.Distinct := ⟨hnodup', hwords'⟩
  refine Program.compileProgram_eq_ok_iff_steps.mpr ⟨m, ?_, hphase, ?_⟩
  · rw [Scan.content_translate hk hk' hupper hnames]
    have hcontent : ∀ x ∈ Scan.content d source.toList, x.kind = .name → x.word ∉ k.toList :=
      fun x hx => hnames x (List.mem_of_mem_filter hx)
    exact Program.Machine.steps_inVocabulary hk hk' hupper nofun hcontent hsteps
  · rw [Code.render_withKeywords, hcode]

/-- Two keywords are words of the expression language, one follows a number directly, and the
text and the comment keep the old ones. -/
theorem compileProgram_translate_expressionKeywords :
    let k : Keywords := ⟨"IF", "LET", "START", "SELF"⟩
    let source := "модуль м пусть ф(н) = (себя(\"модуль\")+н,1)Пусть г() = 2старт ф // себя"
    let output := "const m_М = function () \x7b\n" ++
      "  const m_Ф = (m_Н) => ((m_Ф(m_ТЕКСТ(\"модуль\"))+m_Н,1));\n" ++
      "  const m_Г = () => (2);\n  return m_Ф;\n\x7d();\n"
    Dialect.standard.normalize = .ok .standard ∧
      (Dialect.standard.withKeywords k).normalize = .ok (Dialect.standard.withKeywords k) ∧
      compileProgram .standard source = .ok output ∧
      Dialect.standard.translate k source =
        "IF м LET ф(н) = (SELF(\"модуль\")+н,1)LET г() = 2START ф // себя" ∧
      compileProgram (Dialect.standard.withKeywords k)
        (Dialect.standard.translate k source) = .ok output := by
  intro k source output
  have hstandard : Dialect.standard.normalize = .ok .standard := by decide +kernel
  have hother : (Dialect.standard.withKeywords k).normalize =
      .ok (Dialect.standard.withKeywords k) := by decide +kernel
  have houtput : compileProgram .standard source = .ok output := by decide +kernel
  refine ⟨hstandard, hother, houtput, by decide +kernel, ?_⟩
  exact compileProgram_translate hstandard hother (by decide +kernel) (by decide +kernel) source
    output houtput (by decide +kernel)

end KeywordLang
