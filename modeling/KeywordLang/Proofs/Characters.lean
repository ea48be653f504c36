import KeywordLang.Scan
import Mathlib.Data.List.Basic

/-!
The classes of characters that scanning tells apart have no character in common, and an
upper-case form is its own upper-case form. Both are read off the tables.
-/

namespace KeywordLang

namespace Text

section Classes

variable {c : Char}

theorem RangeTable.contains_eq_false {table other : RangeTable} {n : Nat}
    (hapart : ∀ r ∈ table, ∀ m ∈ List.range' r.1 (r.2 + 1 - r.1), other.contains m = false)
    (h : table.contains n = true) : other.contains n = false := by
  obtain ⟨r, hr, hfirst, hlast⟩ := exists_mem_of_contains h
  apply hapart r hr
  rw [List.mem_range'_1]
  omega

def digitRanges : RangeTable :=
  [(0x30, 0x39)]

theorem contains_digitRanges (h : c.isDigit = true) :
    digitRanges.contains c.toNat = true := by
  have hbounds : 48 ≤ c.toNat ∧ c.toNat ≤ 57 := by
    simpa [Char.isDigit, UInt32.le_iff_toNat_le] using h
  simp only [digitRanges, RangeTable.contains, Bool.and_eq_true, Bool.or_eq_true,
    decide_eq_true_eq]
  omega

theorem isDigit_of_isAlphabetic (h : isAlphabetic c = true) : c.isDigit = false := by
  rw [Bool.eq_false_iff]
  intro hdigit
  have hnot : isAlphabetic c = false :=
    RangeTable.contains_eq_false (by decide +kernel) (contains_digitRanges hdigit)
  rw [hnot] at h
  cases h

theorem isDigit_of_isWhiteSpace (h : isWhiteSpace c = true) : c.isDigit = false := by
  rw [Bool.eq_false_iff]
  intro hdigit
  have hnot : isWhiteSpace c = false :=
    RangeTable.contains_eq_false (by decide +kernel) (contains_digitRanges hdigit)
  rw [hnot] at h
  cases h

theorem isAlphabetic_of_isWhiteSpace (h : isWhiteSpace c = true) : isAlphabetic c = false :=
  RangeTable.contains_eq_false (by decide +kernel) h

end Classes

section UpperCase

/-- A set of code points as the bits of a number, in which large sets are compared at
once. -/
def mask (codes : List Nat) : Nat :=
  codes.foldr (fun n bits => bits ||| 1 <<< n) 0

theorem testBit_mask {codes : List Nat} {n : Nat} :
    (mask codes).testBit n = true ↔ n ∈ codes := by
  induction codes with
  | nil => simp [mask]
  | cons m codes ih =>
      change (mask codes ||| 1 <<< m).testBit n = true ↔ _
      rw [Nat.testBit_or, Nat.one_shiftLeft, Nat.testBit_two_pow, Bool.or_eq_true, ih,
        decide_eq_true_eq, List.mem_cons, or_comm, eq_comm]

theorem not_mem_of_mask {codes others : List Nat} (h : mask codes &&& mask others = 0)
    {n : Nat} (hn : n ∈ codes) : n ∉ others := by
  intro hother
  have hbit : (mask codes &&& mask others).testBit n = true := by
    rw [Nat.testBit_and, testBit_mask.mpr hn, testBit_mask.mpr hother]
    rfl
  rw [h, Nat.zero_testBit] at hbit
  cases hbit

def CaseRun.codes (run : CaseRun) : List Nat :=
  List.range' run.first ((run.last - run.first) / run.stride + 1) run.stride

theorem CaseRun.mem_codes {run : CaseRun} {n : Nat} (h : run.covers n = true) :
    n ∈ run.codes := by
  simp only [covers, Bool.and_eq_true, decide_eq_true_eq, beq_iff_eq] at h
  obtain ⟨⟨hfirst, hlast⟩, hmod⟩ := h
  rw [codes, List.mem_range']
  refine ⟨(n - run.first) / run.stride, ?_, ?_⟩
  · exact Nat.lt_succ_of_le (Nat.div_le_div_right (by omega))
  · have hdiv := Nat.div_add_mod (n - run.first) run.stride
    omega

/-- The code points that upper-casing changes. -/
def casedCodes : List Nat :=
  caseRuns.flatMap CaseRun.codes ++ caseExpansions.map Prod.fst

/-- The code points that upper-casing puts in their places. -/
def upperForms : List Nat :=
  caseRuns.flatMap (fun run => run.codes.map run.upper) ++ caseExpansions.flatMap Prod.snd

theorem upperCode_of_not_mem {n : Nat} (h : n ∉ casedCodes) : upperCode n = [n] := by
  rw [casedCodes, List.mem_append, not_or] at h
  obtain ⟨hrun, hexpansion⟩ := h
  have hfind : caseRuns.find? (·.covers n) = none := by
    rw [List.find?_eq_none]
    intro run hmem hcovers
    exact hrun (List.mem_flatMap.mpr ⟨run, hmem, CaseRun.mem_codes hcovers⟩)
  have hlookup : caseExpansions.lookup n = none := by
    rw [List.lookup_eq_none_iff]
    rintro ⟨m, codes⟩ hmem
    rw [bne_iff_ne]
    rintro rfl
    exact hexpansion (List.mem_map.mpr ⟨_, hmem, rfl⟩)
  simp only [upperCode, hfind, hlookup]

theorem upperCode_cases (n : Nat) :
    upperCode n = [n] ∨ ∀ m ∈ upperCode n, m ∈ upperForms := by
  cases hfind : caseRuns.find? (·.covers n) with
  | some run =>
      right
      intro m hm
      simp only [upperCode, hfind, List.mem_singleton] at hm
      have hcovers : run.covers n = true := by simpa using List.find?_some hfind
      have hmem : run.upper n ∈ run.codes.map run.upper :=
        List.mem_map_of_mem (CaseRun.mem_codes hcovers)
      rw [hm]
      exact List.mem_append_left _
        (List.mem_flatMap.mpr ⟨run, List.mem_of_find?_eq_some hfind, hmem⟩)
  | none =>
      cases hlookup : caseExpansions.lookup n with
      | some codes =>
          right
          intro m hm
          simp only [upperCode, hfind, hlookup] at hm
          obtain ⟨before, after, hsplit, -⟩ := List.lookup_eq_some_iff.mp hlookup
          have hmem : (n, codes) ∈ caseExpansions := by simp [hsplit]
          exact List.mem_append_right _ (List.mem_flatMap.mpr ⟨_, hmem, hm⟩)
      | none =>
          left
          simp only [upperCode, hfind, hlookup]

theorem mask_upperForms : mask upperForms &&& mask casedCodes = 0 := by
  decide +kernel

theorem upperCode_of_mem_upperCode {n m : Nat} (h : m ∈ upperCode n) : upperCode m = [m] := by
  rcases upperCode_cases n with hn | hn
  · rw [hn, List.mem_singleton] at h
    rw [h, hn]
  · exact upperCode_of_not_mem (not_mem_of_mask mask_upperForms (hn m h))

/-- Upper-casing yields characters, and of the first 128 only capital letters. -/
theorem upperForms_valid : ∀ m ∈ upperForms,
    m.isValidChar ∧ (m < 0x80 → 0x41 ≤ m ∧ m ≤ 0x5A) := by
  decide +kernel

theorem toNat_ofNat_of_mem_upperCode {c : Char} {m : Nat} (h : m ∈ upperCode c.toNat) :
    (Char.ofNat m).toNat = m := by
  have hvalid : m.isValidChar := by
    rcases upperCode_cases c.toNat with hc | hc
    · rw [hc, List.mem_singleton] at h
      rw [h]
      exact c.valid
    · exact (upperForms_valid m (hc m h)).1
  rw [Char.ofNat, dif_pos hvalid]
  rfl

theorem upperChar_of_mem_upperChar {c x : Char} (h : x ∈ upperChar c) : upperChar x = [x] := by
  obtain ⟨m, hm, rfl⟩ := List.mem_map.mp h
  rw [upperChar, toNat_ofNat_of_mem_upperCode hm, upperCode_of_mem_upperCode hm]
  rfl

theorem upperChar_ascii {c x : Char} (h : x ∈ upperChar c) (hx : x.toNat < 0x80) :
    x = c ∨ 0x41 ≤ x.toNat ∧ x.toNat ≤ 0x5A := by
  obtain ⟨m, hm, rfl⟩ := List.mem_map.mp h
  rw [toNat_ofNat_of_mem_upperCode hm] at hx ⊢
  rcases upperCode_cases c.toNat with hc | hc
  · rw [hc, List.mem_singleton] at hm
    left
    rw [hm, Char.ofNat_toNat]
  · exact .inr ((upperForms_valid m (hc m hm)).2 hx)

theorem upper_upper (s : String) : upper (upper s) = upper s := by
  apply String.ext
  rw [toList_upper]
  have hfixed : ∀ x ∈ (upper s).toList, upperChar x = [x] := by
    intro x hx
    rw [toList_upper] at hx
    obtain ⟨c, -, hx⟩ := List.mem_flatMap.mp hx
    exact upperChar_of_mem_upperChar hx
  calc (upper s).toList.flatMap upperChar
      = (upper s).toList.flatMap fun x => [x] := List.flatMap_congr hfixed
    _ = (upper s).toList := List.flatMap_singleton' _

end UpperCase

end Text

end KeywordLang
