import KeywordLang.Proofs.Characters
import Mathlib.Data.List.DropRight
import Mathlib.Data.List.Nodup

/-!
Normalizing a dialect accepts it exactly if its canonical words can be told apart and its limits
leave something over; otherwise the first requirement in the order below that is not met is
reported. What is accepted is in canonical form and is not changed any more.
-/

namespace KeywordLang

namespace Text

theorem upperForms_visible : ∀ m ∈ upperForms, whiteSpaceRanges.contains m = false := by
  decide +kernel

theorem isWhiteSpace_of_mem_upperChar {c x : Char} (hx : x ∈ upperChar c)
    (hc : isWhiteSpace c = false) : isWhiteSpace x = false := by
  obtain ⟨m, hm, rfl⟩ := List.mem_map.mp hx
  rw [isWhiteSpace, toNat_ofNat_of_mem_upperCode hm]
  rcases upperCode_cases c.toNat with hcode | hcode
  · rw [hcode, List.mem_singleton] at hm
    rw [hm]
    exact hc
  · exact upperForms_visible m (hcode m hm)

theorem caseExpansions_ne_nil : ∀ entry ∈ caseExpansions, entry.2 ≠ [] := by
  decide +kernel

theorem upperChar_ne_nil (c : Char) : upperChar c ≠ [] := by
  rw [upperChar, ne_eq, List.map_eq_nil_iff, upperCode]
  split
  · exact List.cons_ne_nil _ _
  · split
    · next codes hlookup =>
        obtain ⟨before, after, hsplit, -⟩ := List.lookup_eq_some_iff.mp hlookup
        exact caseExpansions_ne_nil (c.toNat, codes) (by simp [hsplit])
    · exact List.cons_ne_nil _ _

/-- A text with no white space at its ends. -/
structure Trimmed (s : String) : Prop where
  head : ∀ c ∈ s.toList.head?, isWhiteSpace c = false
  last : ∀ c ∈ s.toList.getLast?, isWhiteSpace c = false

theorem toList_trim (s : String) :
    (trim s).toList = (s.toList.dropWhile isWhiteSpace).rdropWhile isWhiteSpace :=
  String.toList_ofList

theorem isWhiteSpace_of_head?_dropWhile {cs : List Char} {c : Char}
    (hc : c ∈ (cs.dropWhile isWhiteSpace).head?) : isWhiteSpace c = false := by
  have hnot := List.head?_dropWhile_not isWhiteSpace cs
  rw [Option.mem_def.mp hc] at hnot
  simpa using hnot

theorem trimmed_trim (s : String) : Trimmed (trim s) := by
  constructor
  · intro c hc
    obtain ⟨rest, hrest⟩ := List.head?_eq_some_iff.mp hc
    obtain ⟨dropped, hdropped⟩ :=
      List.rdropWhile_prefix isWhiteSpace (s.toList.dropWhile isWhiteSpace)
    rw [← toList_trim, hrest] at hdropped
    have hhead : c ∈ (s.toList.dropWhile isWhiteSpace).head? := by
      rw [← hdropped]
      rfl
    exact isWhiteSpace_of_head?_dropWhile hhead
  · intro c hc
    rw [toList_trim, List.rdropWhile, List.getLast?_reverse] at hc
    exact isWhiteSpace_of_head?_dropWhile hc

theorem Trimmed.trim_eq {s : String} (h : Trimmed s) : trim s = s := by
  apply String.ext
  have hhead : s.toList.dropWhile isWhiteSpace = s.toList := by
    cases hs : s.toList with
    | nil => rfl
    | cons c rest =>
        have hc := h.head c (by rw [hs]; rfl)
        rw [List.dropWhile_cons_of_neg (by simp [hc])]
  rw [toList_trim, hhead, List.rdropWhile_eq_self_iff]
  intro hne
  simp [h.last _ (List.getLast?_eq_getLast_of_ne_nil hne)]

theorem Trimmed.upper {s : String} (h : Trimmed s) : Trimmed (upper s) := by
  constructor
  · intro x hx
    rw [toList_upper] at hx
    cases hs : s.toList with
    | nil => simp [hs] at hx
    | cons c rest =>
        rw [hs, List.flatMap_cons, List.head?_append_of_ne_nil _ (upperChar_ne_nil c)] at hx
        exact isWhiteSpace_of_mem_upperChar (List.mem_of_head? hx) (h.head c (by rw [hs]; rfl))
  · intro x hx
    rw [toList_upper] at hx
    rcases List.eq_nil_or_concat' s.toList with hs | ⟨front, c, hs⟩
    · simp [hs] at hx
    · rw [hs, List.flatMap_append, List.flatMap_singleton,
        List.getLast?_append_of_ne_nil _ (upperChar_ne_nil c)] at hx
      exact isWhiteSpace_of_mem_upperChar (List.mem_of_getLast? hx) (h.last c (by simp [hs]))

end Text

section FirstOccurrences

variable {α : Type} [DecidableEq α] {a : α} {l names : List α}

theorem eraseDups_concat (l : List α) (a : α) :
    (l ++ [a]).eraseDups = if a ∈ l then l.eraseDups else l.eraseDups ++ [a] := by
  rw [List.eraseDups_append]
  split
  · next h => simp [List.removeAll, h]
  · next h => simp [List.removeAll, h, List.eraseDups_cons]

/-- The elements of a list once each, in the order in which they first occur. -/
structure FirstOccurrences (l names : List α) : Prop where
  mem : ∀ a, a ∈ names ↔ a ∈ l
  ordered : names.Pairwise fun a b => l.idxOf a < l.idxOf b

theorem firstOccurrences_eraseDups (l : List α) : FirstOccurrences l l.eraseDups := by
  refine ⟨fun a => List.mem_eraseDups, ?_⟩
  induction l using List.reverseRecOn with
  | nil => simp
  | append_singleton l a ih =>
      have hbefore : l.eraseDups.Pairwise fun b c => (l ++ [a]).idxOf b < (l ++ [a]).idxOf c := by
        refine ih.imp_of_mem fun {b c} hb hc hlt => ?_
        rwa [List.idxOf_append, if_pos (List.mem_eraseDups.mp hb), List.idxOf_append,
          if_pos (List.mem_eraseDups.mp hc)]
      rw [eraseDups_concat]
      split
      · exact hbefore
      · next ha =>
          rw [List.pairwise_append]
          refine ⟨hbefore, List.pairwise_singleton _ _, fun b hb c hc => ?_⟩
          have hb' : b ∈ l := List.mem_eraseDups.mp hb
          rw [List.mem_singleton.mp hc, List.idxOf_append, if_pos hb', List.idxOf_append,
            if_neg ha]
          exact Nat.lt_of_lt_of_le (List.idxOf_lt_length_of_mem hb') (Nat.le_add_left _ _)

theorem FirstOccurrences.nodup (h : FirstOccurrences l names) : names.Nodup :=
  h.ordered.imp fun hlt heq => absurd hlt (by rw [heq]; exact Nat.lt_irrefl _)

theorem FirstOccurrences.unique {names' : List α} (h : FirstOccurrences l names)
    (h' : FirstOccurrences l names') : names = names' := by
  have hperm : names.Perm names' :=
    (List.perm_ext_iff_of_nodup h.nodup h'.nodup).mpr fun a => (h.mem a).trans (h'.mem a).symm
  exact hperm.eq_of_pairwise (fun a b _ _ hlt hgt => absurd hlt (Nat.lt_asymm hgt))
    h.ordered h'.ordered

theorem FirstOccurrences.of_nodup (h : l.Nodup) : FirstOccurrences l l := by
  refine ⟨fun a => Iff.rfl, List.pairwise_iff_getElem.mpr fun i j hi hj hlt => ?_⟩
  rwa [h.idxOf_getElem, h.idxOf_getElem]

theorem find?_eraseDups (p : α → Bool) (l : List α) : l.eraseDups.find? p = l.find? p := by
  induction l using List.reverseRecOn with
  | nil => rfl
  | append_singleton l a ih =>
      rw [eraseDups_concat, List.find?_append]
      split
      · next ha =>
          rw [ih]
          cases hfind : l.find? p with
          | some b => rfl
          | none =>
              have hpa := List.find?_eq_none.mp hfind a ha
              rw [List.find?_singleton, if_neg hpa]
              rfl
      · rw [List.find?_append, ih]

theorem mem_of_mem_takeWhile_ne {b : α} {before after : List α}
    (h : b ∈ (before ++ a :: after).takeWhile (· ≠ a)) : b ∈ before := by
  induction before with
  | nil => simp at h
  | cons c before ih =>
      rw [List.cons_append, List.takeWhile_cons] at h
      split at h
      · rcases List.mem_cons.mp h with rfl | h
        · exact List.mem_cons_self
        · exact List.mem_cons_of_mem c (ih h)
      · cases h

end FirstOccurrences

namespace Dialect

/-- What a dialect has to fulfil, in the order in which it is checked. -/
inductive Requirement where
  | keywordsPresent
  | keywordsDistinct
  | builtinsFree
  | rangeOrdered
  | namesPossible
deriving DecidableEq, Repr

def requirements : List Requirement :=
  [.keywordsPresent, .keywordsDistinct, .builtinsFree, .rangeOrdered, .namesPossible]

variable (d : Dialect)

theorem mem_requirements : ∀ r, r ∈ requirements := by
  rintro ⟨⟩ <;> decide

/-- The reserved words of a dialect in canonical form. -/
def canonicalReserved : List String :=
  d.keywords.toList.map canonical ++ expressionKeywords

/-- Whether a name, in canonical form, is one that no built-in may have. -/
def Clashes (name : String) : Prop :=
  canonical name ≠ "" ∧ canonical name ∈ d.canonicalReserved

instance (name : String) : Decidable (d.Clashes name) :=
  inferInstanceAs (Decidable (_ ∧ _))

/-- Whether a dialect, with its words in canonical form, meets a requirement. -/
def Meets : Requirement → Prop
  | .keywordsPresent => ∀ word ∈ d.keywords.toList, canonical word ≠ ""
  | .keywordsDistinct => (d.keywords.toList.map canonical).Nodup
  | .builtinsFree => ∀ name ∈ d.builtins, ¬ d.Clashes name
  | .rangeOrdered => d.numberRange.min ≤ d.numberRange.max
  | .namesPossible => 1 ≤ d.maxNameLength

instance (r : Requirement) : Decidable (d.Meets r) :=
  match r with
  | .keywordsPresent => inferInstanceAs (Decidable (∀ word ∈ d.keywords.toList, _))
  | .keywordsDistinct => inferInstanceAs (Decidable (List.Nodup _))
  | .builtinsFree => inferInstanceAs (Decidable (∀ name ∈ d.builtins, _))
  | .rangeOrdered => inferInstanceAs (Decidable (_ ≤ _))
  | .namesPossible => inferInstanceAs (Decidable (_ ≤ _))

/-- The first requirement that a dialect does not meet. -/
structure FirstUnmet (r : Requirement) : Prop where
  before : ∀ other ∈ requirements.takeWhile (· ≠ r), d.Meets other
  unmet : ¬ d.Meets r

/-- The error that reports a requirement. -/
inductive Reports : Requirement → DialectError → Prop where
  | emptyKeyword : Reports .keywordsPresent .emptyKeyword
  | repeatedKeyword : Reports .keywordsDistinct (.repeatedKeyword (d.keywords.map canonical))
  /-- Of all built-ins that clash the first one is reported. -/
  | reservedBuiltin {before after : List String} {name : String}
      (hsplit : d.builtins = before ++ name :: after) (hname : d.Clashes name)
      (hbefore : ∀ other ∈ before, ¬ d.Clashes other) :
      Reports .builtinsFree (.reservedBuiltin (canonical name))
  | invertedRange : Reports .rangeOrdered (.invertedRange d.numberRange)
  | noNames : Reports .namesPossible .noNames

/-- The canonical form of a dialect. Its other fields are as they were. -/
structure CanonicalForm (d' : Dialect) : Prop where
  keywords : d'.keywords = d.keywords.map canonical
  builtins : FirstOccurrences ((d.builtins.map canonical).filter (· ≠ "")) d'.builtins
  others : d' = { d with keywords := d'.keywords, builtins := d'.builtins }

variable {d}

theorem canonicalForm_iff {d' : Dialect} : d.CanonicalForm d' ↔ d' = d.canonicalize := by
  constructor
  · intro h
    rw [h.others, h.keywords, h.builtins.unique (firstOccurrences_eraseDups _)]
    rfl
  · rintro rfl
    exact ⟨rfl, firstOccurrences_eraseDups _, rfl⟩

theorem canonical_canonical (word : String) : canonical (canonical word) = canonical word := by
  rw [canonical, canonical, (Text.trimmed_trim word).upper.trim_eq, Text.upper_upper]

theorem canonicalBuiltins_idem (names : List String) :
    canonicalBuiltins (canonicalBuiltins names) = canonicalBuiltins names := by
  have hfixed : ∀ name ∈ canonicalBuiltins names, canonical name = name ∧ name ≠ "" := by
    intro name hname
    obtain ⟨hmem, hne⟩ := List.mem_filter.mp (List.mem_eraseDups.mp hname)
    obtain ⟨raw, -, rfl⟩ := List.mem_map.mp hmem
    exact ⟨canonical_canonical raw, of_decide_eq_true hne⟩
  have hmap : (canonicalBuiltins names).map canonical = canonicalBuiltins names :=
    (List.map_congr_left fun name hname => (hfixed name hname).1).trans (List.map_id _)
  have hfilter : (canonicalBuiltins names).filter (· ≠ "") = canonicalBuiltins names :=
    List.filter_eq_self.mpr fun name hname => decide_eq_true (hfixed name hname).2
  have hnodup : (canonicalBuiltins names).Nodup := (firstOccurrences_eraseDups _).nodup
  rw [canonicalBuiltins, hmap, hfilter]
  exact (firstOccurrences_eraseDups _).unique (.of_nodup hnodup)

theorem canonicalize_canonicalize (d : Dialect) : d.canonicalize.canonicalize = d.canonicalize := by
  have hkeywords : (d.keywords.map canonical).map canonical = d.keywords.map canonical := by
    simp only [Keywords.map, canonical_canonical]
  rw [canonicalize, canonicalize, hkeywords, canonicalBuiltins_idem]

theorem normalize_canonicalize (d : Dialect) : d.canonicalize.normalize = d.normalize := by
  rw [normalize, canonicalize_canonicalize, normalize]

theorem isReserved_canonicalize (name : String) :
    d.canonicalize.isReserved name = true ↔ name ∈ d.canonicalReserved :=
  List.contains_iff_mem

theorem find?_canonicalize :
    d.canonicalize.builtins.find? d.canonicalize.isReserved =
      (d.builtins.find? fun name => d.Clashes name).map canonical := by
  have hclashes : (fun name => decide (d.Clashes name)) =
      (fun name => decide (decide (name ≠ "") = true ∧ d.canonicalize.isReserved name = true)) ∘
        canonical := by
    funext name
    rw [Function.comp_apply, decide_eq_decide, decide_eq_true_eq, isReserved_canonicalize]
    exact Iff.rfl
  rw [hclashes, ← List.find?_map, ← List.find?_filter]
  exact find?_eraseDups _ _

theorem keywords_canonicalize (d : Dialect) :
    d.canonicalize.keywords = d.keywords.map canonical := by
  rw [canonicalize]

theorem numberRange_canonicalize (d : Dialect) : d.canonicalize.numberRange = d.numberRange := by
  rw [canonicalize]

theorem maxNameLength_canonicalize (d : Dialect) :
    d.canonicalize.maxNameLength = d.maxNameLength := by
  rw [canonicalize]

/-- What normalizing a dialect comes to, requirement by requirement. -/
theorem normalize_eq (d : Dialect) :
    d.normalize =
      if d.Meets .keywordsPresent then
        if d.Meets .keywordsDistinct then
          match d.builtins.find? fun name => d.Clashes name with
          | some name => .error (.reservedBuiltin (canonical name))
          | none =>
              if d.Meets .rangeOrdered then
                if d.Meets .namesPossible then .ok d.canonicalize
                else .error .noNames
              else .error (.invertedRange d.numberRange)
        else .error (.repeatedKeyword (d.keywords.map canonical))
      else .error .emptyKeyword := by
  have hpresent : (d.keywords.toList.map canonical).contains "" = true ↔
      ¬ d.Meets .keywordsPresent := by
    rw [List.contains_iff_mem]
    simp [Meets]
  have hdistinct : (d.keywords.toList.map canonical).Nodup ↔ d.Meets .keywordsDistinct := Iff.rfl
  have hrange : d.numberRange.max < d.numberRange.min ↔ ¬ d.Meets .rangeOrdered := by
    rw [Meets, Nat.not_le]
  have hnames : d.maxNameLength = 0 ↔ ¬ d.Meets .namesPossible := by
    rw [Meets, Nat.not_le, Nat.lt_one_iff]
  simp only [normalize, defect?, find?_canonicalize, keywords_canonicalize, Keywords.toList_map,
    numberRange_canonicalize, maxNameLength_canonicalize, hpresent, hdistinct, hrange, hnames,
    ite_not]
  cases d.builtins.find? fun name => d.Clashes name with
  | some name =>
      simp only [Option.map_some]
      split_ifs <;> rfl
  | none =>
      simp only [Option.map_none]
      split_ifs <;> rfl

theorem find?_of_builtinsFree (h : d.Meets .builtinsFree) :
    d.builtins.find? (fun name => d.Clashes name) = none := by
  rw [List.find?_eq_none]
  intro name hname hclashes
  exact h name hname (of_decide_eq_true hclashes)

theorem normalize_of_meets (h : ∀ r ∈ requirements, d.Meets r) :
    d.normalize = .ok d.canonicalize := by
  rw [normalize_eq, if_pos (h .keywordsPresent (by decide)),
    if_pos (h .keywordsDistinct (by decide)), find?_of_builtinsFree (h .builtinsFree (by decide))]
  simp only [if_pos (h .rangeOrdered (by decide)), if_pos (h .namesPossible (by decide))]

theorem normalize_of_firstUnmet {r : Requirement} {e : DialectError} (h : d.FirstUnmet r)
    (he : d.Reports r e) : d.normalize = .error e := by
  obtain ⟨hbefore, hunmet⟩ := h
  cases he with
  | emptyKeyword => rw [normalize_eq, if_neg hunmet]
  | repeatedKeyword =>
      rw [normalize_eq, if_pos (hbefore .keywordsPresent (by decide)), if_neg hunmet]
  | @reservedBuiltin before after name hsplit hname hothers =>
      have hfind : d.builtins.find? (fun name => d.Clashes name) = some name := by
        rw [List.find?_eq_some_iff_append]
        refine ⟨decide_eq_true hname, before, after, hsplit, fun other hother => ?_⟩
        rw [Bool.not_eq_true', decide_eq_false_iff_not]
        exact hothers other hother
      rw [normalize_eq, if_pos (hbefore .keywordsPresent (by decide)),
        if_pos (hbefore .keywordsDistinct (by decide)), hfind]
  | invertedRange =>
      rw [normalize_eq, if_pos (hbefore .keywordsPresent (by decide)),
        if_pos (hbefore .keywordsDistinct (by decide)),
        find?_of_builtinsFree (hbefore .builtinsFree (by decide))]
      simp only [if_neg hunmet]
  | noNames =>
      rw [normalize_eq, if_pos (hbefore .keywordsPresent (by decide)),
        if_pos (hbefore .keywordsDistinct (by decide)),
        find?_of_builtinsFree (hbefore .builtinsFree (by decide))]
      simp only [if_pos (hbefore .rangeOrdered (by decide)), if_neg hunmet]

theorem exists_reports {r : Requirement} (h : ¬ d.Meets r) : ∃ e, d.Reports r e := by
  cases r with
  | keywordsPresent => exact ⟨_, .emptyKeyword⟩
  | keywordsDistinct => exact ⟨_, .repeatedKeyword⟩
  | builtinsFree =>
      cases hfind : d.builtins.find? fun name => d.Clashes name with
      | some name =>
          obtain ⟨hname, before, after, hsplit, hbefore⟩ := List.find?_eq_some_iff_append.mp hfind
          refine ⟨_, .reservedBuiltin hsplit (of_decide_eq_true hname) fun other hother => ?_⟩
          have hother' := hbefore other hother
          rwa [Bool.not_eq_true', decide_eq_false_iff_not] at hother'
      | none =>
          exfalso
          apply h
          intro name hname hclashes
          exact List.find?_eq_none.mp hfind name hname (decide_eq_true hclashes)
  | rangeOrdered => exact ⟨_, .invertedRange⟩
  | namesPossible => exact ⟨_, .noNames⟩

theorem exists_firstUnmet (h : ¬ ∀ r ∈ requirements, d.Meets r) : ∃ r, d.FirstUnmet r := by
  cases hfind : requirements.find? fun r => ¬ d.Meets r with
  | some r =>
      obtain ⟨hunmet, before, after, hsplit, hbefore⟩ := List.find?_eq_some_iff_append.mp hfind
      refine ⟨r, fun other hother => ?_, of_decide_eq_true hunmet⟩
      rw [hsplit] at hother
      have hmet := hbefore other (mem_of_mem_takeWhile_ne hother)
      rwa [Bool.not_eq_true', decide_eq_false_iff_not, not_not] at hmet
  | none =>
      exfalso
      apply h
      intro r hr
      have hmet := List.find?_eq_none.mp hfind r hr
      rwa [decide_eq_true_eq, not_not] at hmet

theorem normalize_eq_ok_iff {d' : Dialect} :
    d.normalize = .ok d' ↔ (∀ r ∈ requirements, d.Meets r) ∧ d' = d.canonicalize := by
  constructor
  · intro hd'
    by_cases h : ∀ r ∈ requirements, d.Meets r
    · exact ⟨h, Except.ok.inj (hd'.symm.trans (normalize_of_meets h))⟩
    · obtain ⟨r, hr⟩ := exists_firstUnmet h
      obtain ⟨e, he⟩ := exists_reports hr.unmet
      cases hd'.symm.trans (normalize_of_firstUnmet hr he)
  · rintro ⟨h, rfl⟩
    exact normalize_of_meets h

theorem normalize_eq_error_iff {e : DialectError} :
    d.normalize = .error e ↔ ∃ r, d.FirstUnmet r ∧ d.Reports r e := by
  constructor
  · intro he
    by_cases h : ∀ r ∈ requirements, d.Meets r
    · cases he.symm.trans (normalize_of_meets h)
    · obtain ⟨r, hr⟩ := exists_firstUnmet h
      obtain ⟨e', he'⟩ := exists_reports hr.unmet
      obtain rfl : e = e' := Except.error.inj (he.symm.trans (normalize_of_firstUnmet hr he'))
      exact ⟨r, hr, he'⟩
  · rintro ⟨r, hr, he⟩
    exact normalize_of_firstUnmet hr he

theorem builtins_of_normalize {d' : Dialect} (h : d.normalize = .ok d') :
    ∀ name ∈ d'.builtins, Text.upper name = name ∧ name ∉ d'.reservedWords := by
  obtain ⟨hmeets, rfl⟩ := normalize_eq_ok_iff.mp h
  intro name hname
  obtain ⟨hmem, hne⟩ := List.mem_filter.mp (List.mem_eraseDups.mp hname)
  obtain ⟨raw, hraw, rfl⟩ := List.mem_map.mp hmem
  refine ⟨Text.upper_upper _, fun hreserved => ?_⟩
  exact hmeets .builtinsFree (mem_requirements _) raw hraw ⟨of_decide_eq_true hne, hreserved⟩

/-- Normalizing accepts a dialect exactly if it meets every requirement, and else reports the
first one that it does not meet. The result is the canonical form, and normalizing it once more
changes nothing. -/
theorem normalize_canonicalizes (d : Dialect) :
    ((∃ d', d.normalize = .ok d') ↔ ∀ r ∈ requirements, d.Meets r) ∧
    (∀ e, d.normalize = .error e ↔ ∃ r, d.FirstUnmet r ∧ d.Reports r e) ∧
    ∀ d', d.normalize = .ok d' → d.CanonicalForm d' ∧ d'.normalize = .ok d' := by
  refine ⟨?_, fun e => normalize_eq_error_iff, fun d' hd' => ?_⟩
  · simp only [normalize_eq_ok_iff, exists_and_left, exists_eq, and_true]
  · obtain ⟨-, rfl⟩ := normalize_eq_ok_iff.mp hd'
    exact ⟨canonicalForm_iff.mpr rfl, (normalize_canonicalize d).trans hd'⟩

/-- Names that are different texts may be one name in canonical form. -/
example :
    let given : Dialect :=
      { Dialect.standard with builtins := [" add", "", "straße", "ADD\t", "STRASSE"] }
    (normalize given).map (·.builtins) = .ok ["ADD", "STRASSE"] := by
  decide +kernel

end Dialect

end KeywordLang
