import KeywordLang.Proofs.CanonicalDialect
import KeywordLang.Proofs.FrontEndAgreement
import KeywordLang.Proofs.GrammarReading

/-!
The words of a normalized dialect and what sources can do with them. Normalizing compares words
and looks at nothing else in them, so a dialect is also accepted if some of its keywords or
built-ins are no words, or if some built-ins are longer than names may be. Exactly those cannot
be scanned as one lexeme, or cannot be resolved.
-/

namespace KeywordLang

/-- A source that consists of a word has one token of a kind in front of the end of the input,
and that token stands for the word. -/
def ScansAs (d : Dialect) (kind : LexemeKind) (word : String) : Prop :=
  ∃ t e, Scan.tokens d word = [t, e] ∧ t.kind = kind ∧ t.word = word ∧ e.kind = .endOfInput

section Scanning

variable {d : Dialect} {kind : LexemeKind} {word : String}

theorem scansAs_iff (hupper : Text.upper word = word) :
    ScansAs d kind word ↔ Scan.Cut d kind word.toList [] := by
  constructor
  · rintro ⟨t, e, htokens, rfl, -, -⟩
    obtain ⟨ts, hall, hlexemes⟩ := Scan.exists_tokens_eq d word
    rw [htokens, ← List.singleton_append] at hall
    obtain ⟨rfl, -⟩ := List.append_inj' hall rfl
    obtain ⟨tail, htext, hcut, htail⟩ := Scan.exists_cut_of_lexemes hlexemes.symm
    rw [Scan.eq_nil_of_lexemes htail, List.append_nil] at htext
    rwa [Scan.eq_nil_of_lexemes htail, ← htext] at hcut
  · intro h
    have hmap := Scan.tokens_eq_single_iff.mpr h
    obtain ⟨t, rest, hts, ht, hrest⟩ := List.map_eq_cons_iff.mp hmap
    obtain ⟨e, last, hlast, he, hnil⟩ := List.map_eq_cons_iff.mp hrest
    obtain rfl := List.map_eq_nil_iff.mp hnil
    refine ⟨t, e, by rw [hts, hlast], ?_, ?_, ?_⟩
    · rw [ht]
    · rw [ht]
      exact hupper
    · rw [he]

theorem Scan.cut_word (d : Dialect) (h : isWord word = true) :
    Cut d (wordKind d word.toList) word.toList [] := by
  obtain ⟨c, body, htext, hc, hbody⟩ := exists_cons_of_isWord h
  rw [htext]
  exact .word hc hbody rfl nofun

theorem scansAs_operator_iff (hupper : Text.upper word = word) (hword : word ∈ d.reservedWords) :
    ScansAs d .operator word ↔
      isWord word = true ∨ ∃ c, Scan.isPunctuation c = true ∧ word = String.ofList [c] := by
  rw [scansAs_iff hupper]
  constructor
  · intro h
    exact h.operator_cases.symm
  · rintro (hisWord | ⟨c, hc, rfl⟩)
    · have hcut := Scan.cut_word d hisWord
      rwa [Scan.wordKind_of_mem (by rwa [String.ofList_toList, hupper])] at hcut
    · rw [String.toList_ofList]
      exact .punctuation hc

theorem scansAs_name_iff (hupper : Text.upper word = word) (hword : word ∉ d.reservedWords) :
    ScansAs d .name word ↔ isWord word = true := by
  rw [scansAs_iff hupper]
  constructor
  · intro h
    exact h.isWord_of_name
  · intro hisWord
    have hcut := Scan.cut_word d hisWord
    rwa [Scan.wordKind_of_not_mem (by rwa [String.ofList_toList, hupper])] at hcut

theorem resolve_builtin_iff (hword : word ∈ d.builtins) :
    ({} : Scopes).resolve d word = .ok .global ↔ word.length ≤ d.maxNameLength := by
  have hglobal : ({} : Scopes).isGlobal d word = true := by
    rw [Scopes.isGlobal, Dialect.isBuiltin, List.contains_iff_mem.mpr hword, Bool.true_or]
  rw [Scopes.resolve, check_bind_eq_ok_iff, Scopes.checkLength_eq_ok_iff, hglobal]
  simp

end Scanning

/-- Which words of a normalized dialect a source can use: a keyword is scanned as one operator
exactly if it is a word or a mark, a built-in is scanned as one name exactly if it is a word, and
it is in force from the beginning exactly if it is no longer than names may be. -/
theorem vocabulary_usable_iff {given d : Dialect} (h : given.normalize = .ok d) :
    (∀ keyword ∈ d.keywords.toList, ScansAs d .operator keyword ↔
      isWord keyword = true ∨ ∃ c, Scan.isPunctuation c = true ∧ keyword = String.ofList [c]) ∧
    ∀ name ∈ d.builtins, (ScansAs d .name name ↔ isWord name = true) ∧
      (({} : Scopes).resolve d name = .ok .global ↔ name.length ≤ d.maxNameLength) := by
  constructor
  · intro keyword hkeyword
    exact scansAs_operator_iff ((Dialect.keywords_of_normalize h).2 keyword hkeyword)
      (List.mem_append_left _ hkeyword)
  · intro name hname
    obtain ⟨hupper, hreserved⟩ := Dialect.builtins_of_normalize h name hname
    exact ⟨scansAs_name_iff hupper hreserved, resolve_builtin_iff hname⟩

/-- A dialect with a keyword and a built-in that are no words and a built-in that is too long. -/
def Dialect.unwieldy : Dialect :=
  { Dialect.latin with
    keywords := ⟨"MY MODULE", "FN", "=", "J\u030C"⟩
    builtins := ["SIN", "ADD-ON", "ARCSINE"] }

/-- In one dialect some words can be used and others cannot. The upper-case form of `ǰ` ends in
an accent, which is no letter. -/
theorem vocabulary_usable_in_part :
    Dialect.unwieldy.normalize = .ok .unwieldy ∧
    ScansAs .unwieldy .operator "FN" ∧ ScansAs .unwieldy .operator "=" ∧
    ¬ ScansAs .unwieldy .operator "J\u030C" ∧
    ScansAs .unwieldy .name "ARCSINE" ∧ ({} : Scopes).resolve .unwieldy "SIN" = .ok .global := by
  have h : Dialect.unwieldy.normalize = .ok .unwieldy := by decide +kernel
  obtain ⟨hkeywords, hbuiltins⟩ := vocabulary_usable_iff h
  refine ⟨h, ?_, ?_, ?_, ?_, ?_⟩
  · exact (hkeywords "FN" (by decide)).mpr (.inl (by decide +kernel))
  · exact (hkeywords "=" (by decide)).mpr (.inr ⟨'=', by decide, rfl⟩)
  · intro hscan
    rcases (hkeywords "J\u030C" (by decide)).mp hscan with hword | ⟨c, -, hmark⟩
    · exact absurd hword (by decide +kernel)
    · have hlength : 2 = (String.ofList [c]).length := congrArg String.length hmark
      simp at hlength
  · exact (hbuiltins "ARCSINE" (by decide)).1.mpr (by decide +kernel)
  · exact (hbuiltins "SIN" (by decide)).2.mpr (by decide)

/-- A normalized dialect with a keyword that is not one operator, a built-in that is not one name
and a built-in that cannot be resolved. -/
theorem vocabulary_unusable :
    Dialect.unwieldy.normalize = .ok .unwieldy ∧
    ("MY MODULE" ∈ Dialect.unwieldy.keywords.toList ∧ ¬ ScansAs .unwieldy .operator "MY MODULE") ∧
    ("ADD-ON" ∈ Dialect.unwieldy.builtins ∧ ¬ ScansAs .unwieldy .name "ADD-ON") ∧
    "ARCSINE" ∈ Dialect.unwieldy.builtins ∧
      ({} : Scopes).resolve .unwieldy "ARCSINE" = .error (.nameTooLong "ARCSINE" 6) := by
  have hlength {word : String} {kind : LexemeKind}
      (h : (Scan.tokens .unwieldy word).length ≠ 2) : ¬ ScansAs .unwieldy kind word := by
    rintro ⟨t, e, htokens, -⟩
    exact h (by rw [htokens]; rfl)
  refine ⟨by decide +kernel, ⟨by decide, hlength ?_⟩, ⟨by decide, hlength ?_⟩, by decide, ?_⟩
  all_goals decide +kernel

end KeywordLang
