import KeywordLang.Proofs.ExpressionAcceptance
import KeywordLang.Proofs.ExpressionBodies
import KeywordLang.Proofs.ProgramAcceptance
import KeywordLang.Proofs.Reader

/-!
Expressions and programs agree. An expression of operands, sums, lists and groups that is
compiled on its own is compiled as the body of a function too, and the code of the body is
that of the expression without the brackets that show its structure.
-/

namespace KeywordLang

section Words

variable {d : Dialect} {given : Dialect} {word : String}

theorem Dialect.keywords_of_normalize (h : given.normalize = .ok d) :
    d.keywords.toList.Nodup ∧ ∀ word ∈ d.keywords.toList, Text.upper word = word := by
  unfold normalize at h
  split at h
  · cases h
  · next hdefect =>
      obtain rfl := Except.ok.inj h
      constructor
      · by_contra hnodup
        unfold defect? at hdefect
        split at hdefect
        · cases hdefect
        · cases hdefect
      · intro word hword
        have hword' : word ∈ given.keywords.toList.map canonical := hword
        obtain ⟨raw, -, rfl⟩ := List.mem_map.mp hword'
        exact Text.upper_upper _

/-- A word that can be the name of a module or a function. -/
structure Identifier (d : Dialect) (word : String) : Prop where
  isWord : isWord word = true
  permitted : Scopes.Permitted d (Text.upper word)

theorem Scan.content_word (d : Dialect) {tail : List Char} (hword : isWord word = true)
    (htail : ∀ c ∈ tail.head?, continuesWord c = false) :
    content d (word.toList ++ tail) = ⟨wordKind d word.toList, word⟩ :: content d tail := by
  unfold isWord at hword
  split at hword
  · cases hword
  · next c body heq =>
      rw [Bool.and_eq_true, List.all_eq_true] at hword
      have hcut : Cut d (wordKind d word.toList) (c :: body) tail :=
        .word hword.1 hword.2 (congrArg (wordKind d) heq) htail
      rw [← heq] at hcut
      have htrivia := isTrivia_wordKind d word.toList word
      rw [content, content, hcut.lexemes, String.ofList_toList,
        List.filter_cons_of_pos (by simp [htrivia])]

theorem Scan.content_identifier {tail : List Char} (hword : Identifier d word)
    (htail : ∀ c ∈ tail.head?, continuesWord c = false) :
    content d (word.toList ++ tail) = ⟨.name, word⟩ :: content d tail := by
  rw [content_word d hword.isWord htail, wordKind, String.ofList_toList,
    hword.permitted.reserved]
  rfl

theorem Scan.content_keyword {tail : List Char} (hword : word ∈ d.keywords.toList)
    (hupper : Text.upper word = word) (hisWord : isWord word = true)
    (htail : ∀ c ∈ tail.head?, continuesWord c = false) :
    content d (word.toList ++ tail) = ⟨.operator, word⟩ :: content d tail := by
  have hreserved : d.isReserved word = true := by
    rw [Dialect.isReserved, Dialect.reservedWords, List.contains_iff_mem]
    exact List.mem_append_left _ hword
  rw [content_word d hisWord htail, wordKind, String.ofList_toList, hupper, hreserved]
  rfl

theorem Scan.content_punctuation (d : Dialect) {c : Char} (tail : List Char)
    (hc : isPunctuation c = true) :
    content d (c :: tail) = ⟨.operator, String.ofList [c]⟩ :: content d tail := by
  have hcut : Cut d .operator [c] tail := .punctuation hc
  have hlexemes := hcut.lexemes
  rw [List.singleton_append] at hlexemes
  rw [content, hlexemes, List.filter_cons_of_pos rfl]
  rfl

end Words

/-- A module with one function, which it exports. -/
def functionSource (k : Keywords) (module function body lineBreak : String) : String :=
  k.module ++ " " ++ module ++ " " ++ k.function ++ " " ++ function ++ "() = " ++ body ++
    lineBreak ++ k.start ++ " " ++ function

/-- The code of a module with one function, which it exports. -/
def functionCode (d : Dialect) (module function body : String) : String :=
  "const " ++ Code.symbol d module ++ " = function () \x7b\n" ++
    ("  const " ++ Code.symbol d function ++ " = () => (" ++ body ++ ");\n") ++
    ("  return " ++ Code.symbol d function ++ ";\n\x7d();\n")

section Source

variable {d : Dialect} {module function body lineBreak : String}

theorem content_functionSource
    (hwords : ∀ word ∈ d.keywords.toList, isWord word = true)
    (hupper : ∀ word ∈ d.keywords.toList, Text.upper word = word)
    (hmodule : Identifier d module) (hfunction : Identifier d function)
    (hbody : ∀ x ∈ Scan.content d body.toList, x.kind ≠ .unknown)
    (hbreak : lineBreak = "\n" ∨ lineBreak = "\r\n") :
    Scan.content d (functionSource d.keywords module function body lineBreak).toList =
      [⟨.operator, d.keywords.module⟩, ⟨.name, module⟩, ⟨.operator, d.keywords.function⟩,
        ⟨.name, function⟩, ⟨.operator, "("⟩, ⟨.operator, ")"⟩, ⟨.operator, "="⟩] ++
      Scan.content d body.toList ++
      [⟨.operator, d.keywords.start⟩, ⟨.name, function⟩] := by
  have hmem : d.keywords.module ∈ d.keywords.toList ∧ d.keywords.function ∈ d.keywords.toList ∧
      d.keywords.start ∈ d.keywords.toList := by simp [Keywords.toList]
  have hblank (tail : List Char) : Scan.content d (' ' :: tail) = Scan.content d tail :=
    Scan.content_cons_of_isWhiteSpace d tail rfl
  have hends {c : Char} (tail : List Char) (hc : Scan.continuesWord c = false) :
      ∀ x ∈ (c :: tail).head?, Scan.continuesWord x = false := by
    rintro x ⟨⟩
    exact hc
  have hkeyword {word : String} (tail : List Char) (hword : word ∈ d.keywords.toList) :
      Scan.content d (word.toList ++ ' ' :: tail) = ⟨.operator, word⟩ :: Scan.content d tail := by
    rw [Scan.content_keyword hword (hupper word hword) (hwords word hword) (hends tail rfl),
      hblank]
  have hseam (tail : List Char) : Scan.content d (body.toList ++ (lineBreak.toList ++ tail)) =
      Scan.content d body.toList ++ Scan.content d tail := by
    rcases hbreak with rfl | rfl
    · exact Scan.content_append_lineBreak d tail hbody (List.forall_mem_nil _) List.not_mem_nil
    · have hreturn : ∀ c ∈ ['\r'], Text.isWhiteSpace c = true :=
        List.forall_mem_singleton.mpr rfl
      exact Scan.content_append_lineBreak d tail hbody hreturn (by decide)
  have hlast : Scan.content d function.toList = [⟨.name, function⟩] := by
    have hcontent : Scan.content d (function.toList ++ []) = _ :=
      Scan.content_identifier hfunction (by simp)
    rwa [List.append_nil, Scan.content_nil] at hcontent
  simp only [functionSource, String.toList_append, List.append_assoc]
  -- Opened into characters, the literals show each word the character that ends it.
  change Scan.content d (d.keywords.module.toList ++ ' ' :: (module.toList ++ ' ' ::
    (d.keywords.function.toList ++ ' ' :: (function.toList ++ '(' :: ')' :: ' ' :: '=' :: ' ' ::
      (body.toList ++ (lineBreak.toList ++
        (d.keywords.start.toList ++ ' ' :: function.toList))))))) = _
  rw [hkeyword _ hmem.1, Scan.content_identifier hmodule (hends _ rfl), hblank,
    hkeyword _ hmem.2.1, Scan.content_identifier hfunction (hends _ rfl),
    Scan.content_punctuation d _ rfl, Scan.content_punctuation d _ rfl, hblank,
    Scan.content_punctuation d _ rfl, hblank, hseam, hkeyword _ hmem.2.2, hlast]
  rfl

end Source

namespace Expression

open Program (Item)

/-- The operators of an expression that no body has, or that mean something else there. -/
def structuralWords : List String :=
  ["IF", "THEN", "ELSE", "RUN", "LET", "="]

variable {d : Dialect} {s : Scopes} {x : Lexeme} {a : Entry} {xs : List Lexeme} {w : List Entry}

theorem Operator.exists_mark {op : Operator} (h : op.text ∉ structuralWords)
    (hend : op ≠ .endOfInput) : ∃ m, op.mark? = some m := by
  cases op with
  | openGroup => exact ⟨.openParen, rfl⟩
  | closeGroup => exact ⟨.closeParen, rfl⟩
  | comma => exact ⟨.comma, rfl⟩
  | plus => exact ⟨.plus, rfl⟩
  | minus => exact ⟨.minus, rfl⟩
  | endOfInput => exact absurd rfl hend
  | _ => exact absurd (by decide) h

theorem Reads.whole {tail : List Char} (h : Reads d s x a)
    (hcut : Scan.Cut d x.kind x.text.toList tail)
    (hword : x.kind = .operator → x.word ∉ structuralWords) : a.Whole := by
  cases h with
  | number hcheck => exact .number _
  | name hresolve =>
      obtain ⟨c, body, htext, hc, hbody⟩ := hcut.exists_word
      exact .symbol (Code.plain_upper htext hc hbody)
  | text literal =>
      obtain ⟨inner, htext, hinner⟩ := hcut.exists_text
      rw [← String.ofList_toList (s := literal), htext]
      exact .text hinner
  | @operator text op htext hend =>
      have hop : op.text ∉ structuralWords := by
        rw [← htext]
        exact hword rfl
      obtain ⟨m, hmark⟩ := Operator.exists_mark hop hend
      exact .operator hmark

theorem Reads.exists_item (h : Reads d s x a) (ha : a.Whole) :
    ∃ item, a.item? = some item ∧ Program.Reads d x item.terminal := by
  cases h with
  | number hcheck => exact ⟨_, rfl, .number hcheck⟩
  | name hresolve => exact ⟨_, rfl, .name _⟩
  | text literal => exact ⟨_, rfl, .text literal⟩
  | @operator text op htext hend =>
      cases ha with
      | @operator op m hmark =>
          refine ⟨.mark m, by simp [Entry.item?, hmark], .operator ?_⟩
          rw [htext, ← Operator.text_of_mark? hmark]
          rfl

theorem forall₂_reads_items (h : List.Forall₂ (Reads d s) xs w) (hw : ∀ a ∈ w, a.Whole) :
    List.Forall₂ (Program.Reads d) xs ((w.filterMap Entry.item?).map Item.terminal) := by
  induction h with
  | nil => exact .nil
  | cons hread _ ih =>
      obtain ⟨ha, hw⟩ := List.forall_mem_cons.mp hw
      obtain ⟨item, hitem, hread⟩ := hread.exists_item ha
      rw [List.filterMap_cons_some hitem]
      exact .cons hread (ih hw)

theorem exists_of_mem_of_forall₂ {α β : Type} {R : α → β → Prop} {xs : List α} {ys : List β}
    {x : α} (h : List.Forall₂ R xs ys) (hx : x ∈ xs) : ∃ y ∈ ys, R x y := by
  induction h with
  | nil => cases hx
  | cons hread _ ih =>
      rcases List.mem_cons.mp hx with rfl | hx
      · exact ⟨_, List.mem_cons_self, hread⟩
      · obtain ⟨y, hy, hread⟩ := ih hx
        exact ⟨y, List.mem_cons_of_mem _ hy, hread⟩

theorem exists_reads_of_mem (h : List.Forall₂ (Reads d s) xs w) (ha : a ∈ w) :
    ∃ x ∈ xs, Reads d s x a := by
  have hflipped : List.Forall₂ (flip (Reads d s)) w xs := h.flip
  exact exists_of_mem_of_forall₂ hflipped ha

theorem exists_tree_of_compileExpression {source output : String}
    (h : compileExpression d source = .ok output) :
    ∃ e : Expr, e.Grouped ∧
      List.Forall₂ (Reads d {}) (Scan.content d source.toList) e.yield ∧
      e.render d = output := by
  obtain ⟨ts, last, htokens, hsignificant, hts, hlast⟩ := exists_tokens d source
  have hcompile : (Machine.run d {} {} (ts ++ [last]) >>= Machine.finish d) = .ok output := by
    rw [← htokens]
    exact h
  obtain ⟨w, hreads, e, htree⟩ := exists_isTreeOf_of_compiled hts hlast hcompile
  have hcode := htree.compiled hlast hreads
  rw [hcompile] at hcode
  refine ⟨e, htree.1, ?_, (Except.ok.inj hcode).symm⟩
  rw [← hsignificant, htree.2]
  exact hreads

theorem kind_ne_unknown_of_reads (h : List.Forall₂ (Reads d s) xs w) :
    ∀ x ∈ xs, x.kind ≠ .unknown := by
  induction h with
  | nil => exact nofun
  | cons hread _ ih =>
      refine List.forall_mem_cons.mpr ⟨?_, ih⟩
      cases hread <;> exact nofun

end Expression

namespace Program

open Expression (Expr Entry)

variable {d : Dialect} {source module function : String} {program : List ModuleDecl}

theorem compileProgram_of_yield (hk : d.keywords.Distinct)
    (hreads : List.Forall₂ (Reads d) (Scan.content d source.toList) (yield program))
    (hscoped : WellScoped d program) : compileProgram d source = .ok (render d program) := by
  obtain ⟨ts, last, htokens, hsignificant, hts, hlast⟩ := exists_tokens d source
  have hcompile : compileProgram d source =
      (Machine.run d {} (ts ++ [last]) >>= Machine.finish d) := by
    rw [← htokens]
    rfl
  rw [hcompile, run_finish_eq_ok_iff hk hts hlast, hsignificant]
  exact ⟨program, hreads, hscoped, rfl⟩

/-- A module with one function, which has no parameters and is exported. -/
def singleFunction (module function : String) (body : List Item) : ModuleDecl where
  name := module
  functions := [{ name := function, parameters := [], body }]
  entry := function

theorem yield_singleFunction (module function : String) (body : List Item) :
    yield [singleFunction module function body] =
      [.module, .name module, .function, .name function, .mark .openParen,
        .mark .closeParen, .assign] ++ body.map Item.terminal ++ [.start, .name function] := by
  simp [yield, singleFunction, ModuleDecl.yield, FunctionDecl.yield, Heading.yield]

theorem render_singleFunction (d : Dialect) (module function : String) (body : List Item) :
    render d [singleFunction module function body] =
      functionCode d module function (String.join (body.map (Item.render d function))) := by
  have hparameters : " = () => (" = " = (" ++ ") => (" := by decide
  simp only [render, singleFunction, ModuleDecl.render, FunctionDecl.render, functionCode,
    hparameters, List.map_cons, List.map_nil, List.intersperse_nil, String.join_cons,
    String.join_nil, String.append_empty, String.append_assoc]

theorem wellScoped_singleFunction {body : List Item} (hmodule : Scopes.Permitted d module)
    (hfunction : Scopes.Permitted d function) (hne : module ≠ function)
    (hbody : ∀ word, .name word ∈ body →
      word.length ≤ d.maxNameLength ∧ d.isBuiltin word = true)
    (hbalanced : Balanced body) : WellScoped d [singleFunction module function body] := by
  have hnone : ∀ name : String, name ∉ ([] : List String) := fun _ => List.not_mem_nil
  have hheading : Heading.WellScoped d [] module [] ⟨function, []⟩ :=
    ⟨⟨⟨hfunction, hnone _⟩, hne.symm, hnone _⟩, nofun, List.nodup_nil⟩
  have hscope : FunctionDecl.BodyInScope d [] [] ⟨⟨function, []⟩, body⟩ := by
    intro word hword
    obtain ⟨hlength, hbuiltin⟩ := hbody word hword
    exact ⟨hlength, .inl hbuiltin⟩
  have hentry : Usable d [function] function :=
    ⟨hfunction.length, .inr List.mem_cons_self⟩
  have hfunctions : Successive
      (fun before f => f.WellScoped d [] module (before.map (·.name)))
      ([] ++ [(⟨⟨function, []⟩, body⟩ : FunctionDecl)]) :=
    successive_concat.mpr ⟨successive_nil, hheading, hscope, hbalanced⟩
  have hdeclared : ModuleDecl.WellScoped d [] (singleFunction module function body) :=
    ⟨⟨hmodule, hnone _⟩, hfunctions, hentry⟩
  have hprogram : WellScoped d ([] ++ [singleFunction module function body]) :=
    successive_concat.mpr ⟨successive_nil, hdeclared⟩
  exact hprogram

theorem isBuiltin_of_mem_items {xs : List Lexeme} {e : Expr} {word : String}
    (hreads : List.Forall₂ (Expression.Reads d {}) xs e.yield) (hword : .name word ∈ e.items) :
    word.length ≤ d.maxNameLength ∧ d.isBuiltin word = true := by
  obtain ⟨a, ha, hitem⟩ := List.mem_filterMap.mp hword
  obtain ⟨x, -, hread⟩ := Expression.exists_reads_of_mem hreads ha
  cases hread with
  | name hresolve =>
      cases hitem
      obtain ⟨hlength, hname | hname | hname⟩ := Scopes.exists_resolve_iff.mp ⟨_, hresolve⟩
      · cases hname
      · cases hname
      · rcases Scopes.isGlobal_eq_true_iff.mp hname with hbuiltin | hname
        · exact ⟨hlength, hbuiltin⟩
        · cases hname
  | number _ => cases hitem
  | text _ => cases hitem
  | operator _ _ =>
      obtain ⟨m, -, hmark⟩ := Option.map_eq_some_iff.mp hitem
      cases hmark

theorem forall₂_reads_singleFunction (module function : String) {lexemes : List Lexeme}
    {body : List Item}
    (hupper : ∀ word ∈ d.keywords.toList, Text.upper word = word)
    (hreads : List.Forall₂ (Reads d) lexemes (body.map Item.terminal)) :
    List.Forall₂ (Reads d)
      ([⟨.operator, d.keywords.module⟩, ⟨.name, module⟩, ⟨.operator, d.keywords.function⟩,
        ⟨.name, function⟩, ⟨.operator, "("⟩, ⟨.operator, ")"⟩, ⟨.operator, "="⟩] ++
        lexemes ++ [⟨.operator, d.keywords.start⟩, ⟨.name, function⟩])
      (yield [singleFunction (Text.upper module) (Text.upper function) body]) := by
  have hkeyword {a : Terminal} {word : String} (hword : word ∈ d.keywords.toList)
      (ha : a.spelling? d.keywords = some word) : Reads d ⟨.operator, word⟩ a :=
    .operator (by rw [ha, hupper word hword])
  have hmark (a : Terminal) (text : String) (ha : a.spelling? d.keywords = some text)
      (htext : Text.upper text = text) : Reads d ⟨.operator, text⟩ a :=
    .operator (by rw [ha, htext])
  rw [yield_singleFunction]
  apply List.rel_append
  · apply List.rel_append
    · refine .cons (hkeyword (by simp [Keywords.toList]) rfl) (.cons (.name module) ?_)
      refine .cons (hkeyword (by simp [Keywords.toList]) rfl) (.cons (.name function) ?_)
      refine .cons (hmark _ _ rfl (by decide +kernel)) ?_
      refine .cons (hmark _ _ rfl (by decide +kernel)) ?_
      exact .cons (hmark _ _ rfl (by decide +kernel)) .nil
    · exact hreads
  · exact .cons (hkeyword (by simp [Keywords.toList]) rfl) (.cons (.name function) .nil)

end Program

/-- Expressions and programs agree. An expression that is compiled on its own, without
conditionals, sequences and assignments, is compiled as the body of a function too. The code
of the body is that of the expression without the brackets outside of its texts. As all words
are, those of the module and the function are told apart in upper case. -/
theorem compileProgram_functionSource (given d : Dialect) (hd : given.normalize = .ok d)
    (hwords : ∀ word ∈ d.keywords.toList, isWord word = true)
    (hnames : Code.Plain d.namePrefix) (hconstructor : Code.Plain d.textConstructor)
    (module function : String) (hmodule : Identifier d module)
    (hfunction : Identifier d function) (hne : Text.upper module ≠ Text.upper function)
    (source output : String)
    (hoperators : ∀ x ∈ Scan.content d source.toList, x.kind = .operator →
      x.word ∉ Expression.structuralWords)
    (h : compileExpression d source = .ok output) (lineBreak : String)
    (hbreak : lineBreak = "\n" ∨ lineBreak = "\r\n") :
    compileProgram d (functionSource d.keywords module function source lineBreak) =
      .ok (functionCode d (Text.upper module) (Text.upper function)
        (Code.eraseBrackets output)) := by
  obtain ⟨hnodup, hupper⟩ := Dialect.keywords_of_normalize hd
  obtain ⟨e, hgrouped, hreads, rfl⟩ := Expression.exists_tree_of_compileExpression h
  have hwhole : ∀ a ∈ e.yield, a.Whole := by
    intro a ha
    obtain ⟨x, hx, hread⟩ := Expression.exists_reads_of_mem hreads ha
    obtain ⟨tail, hcut⟩ := Scan.exists_cut_of_mem_lexemes (List.mem_of_mem_filter hx)
    exact hread.whole hcut (hoperators x hx)
  have hknown := Expression.kind_ne_unknown_of_reads hreads
  have hcontent := content_functionSource hwords hupper hmodule hfunction hknown hbreak
  have hbody := Expression.forall₂_reads_items hreads hwhole
  have hprogram := Program.forall₂_reads_singleFunction module function hupper hbody
  rw [← hcontent] at hprogram
  have hscoped := Program.wellScoped_singleFunction hmodule.permitted hfunction.permitted hne
    (fun word hword => Program.isBuiltin_of_mem_items hreads hword) hgrouped.balanced_items
  have herased := e.erases_render hnames hconstructor (Text.upper function) hwhole
  rw [herased.eraseBrackets, Expression.Expr.bodyCode, ← Program.render_singleFunction]
  exact Program.compileProgram_of_yield ⟨hnodup, hwords⟩ hprogram hscoped

/-- A text with a bracket, a group within a sum within a list, and a comment at the end. -/
theorem compileProgram_functionSource_group :
    let given : Dialect := { Dialect.standard with
      keywords := ⟨" module", "fn", "Start", "self"⟩, builtins := ["sin", "Sin"] }
    let source := "sin, (\"a]b\" + 1) - 2 // \"["
    given.normalize = .ok .latin ∧ Identifier .latin "a" ∧ Identifier .latin "f" ∧
      compileExpression .latin source = .ok "[m_SIN,[[([m_ТЕКСТ(\"a]b\")+1])]-2]]" ∧
      compileProgram .latin
        (functionSource Dialect.latin.keywords "a" "f" source "\r\n") =
          .ok (functionCode .latin "A" "F" "m_SIN,(m_ТЕКСТ(\"a]b\")+1)-2") := by
  intro given source
  have hnormalize : given.normalize = .ok .latin := by decide +kernel
  have ha : Identifier .latin "a" :=
    ⟨by decide +kernel, by decide +kernel, by decide +kernel, by decide +kernel⟩
  have hf : Identifier .latin "f" :=
    ⟨by decide +kernel, by decide +kernel, by decide +kernel, by decide +kernel⟩
  have hsource : compileExpression .latin source =
      .ok "[m_SIN,[[([m_ТЕКСТ(\"a]b\")+1])]-2]]" := by decide +kernel
  have hprogram := compileProgram_functionSource given .latin hnormalize (by decide +kernel)
    (by decide) (by decide) "a" "f" ha hf (by decide +kernel) source _ (by decide +kernel)
    hsource "\r\n" (.inr rfl)
  have herased : Code.eraseBrackets "[m_SIN,[[([m_ТЕКСТ(\"a]b\")+1])]-2]]" =
      "m_SIN,(m_ТЕКСТ(\"a]b\")+1)-2" := by decide
  have hA : Text.upper "a" = "A" := by decide +kernel
  have hF : Text.upper "f" = "F" := by decide +kernel
  rw [herased, hA, hF] at hprogram
  exact ⟨hnormalize, ha, hf, hsource, hprogram⟩

end KeywordLang
