import KeywordLang.Proofs.LexemeCuts
import KeywordLang.Proofs.ProgramCode
import Mathlib.Data.List.DropRight
import Mathlib.Tactic.IntervalCases

/-!
Generated code can be read back from left to right, fragment by fragment. All that it does
not show is how digits are grouped: a digit looks the same at the end of a name, within a
number and on its own. So fragments are read in their finest form, in which every digit is
a number by itself.
-/

namespace KeywordLang

section Concatenation

variable {α β γ : Type}

/-- Lists that are joined from pieces agree in their pieces, as far as `key` tells these
apart, if they agree in the first one whenever they are equal. -/
theorem map_eq_of_flatMap_eq {g : α → List β} {key : α → γ} {P : List α → Prop}
    (hne : ∀ x xs, P (x :: xs) → g x ≠ []) (htail : ∀ x xs, P (x :: xs) → P xs)
    (hfirst : ∀ x xs y ys, P (x :: xs) → P (y :: ys) →
      g x ++ xs.flatMap g = g y ++ ys.flatMap g →
        key x = key y ∧ xs.flatMap g = ys.flatMap g)
    {xs ys : List α} (hxs : P xs) (hys : P ys) (h : xs.flatMap g = ys.flatMap g) :
    xs.map key = ys.map key := by
  induction xs generalizing ys with
  | nil =>
      cases ys with
      | nil => rfl
      | cons y ys => exact absurd (List.append_eq_nil_iff.mp h.symm).1 (hne y ys hys)
  | cons x xs ih =>
      cases ys with
      | nil => exact absurd (List.append_eq_nil_iff.mp h).1 (hne x xs hxs)
      | cons y ys =>
          obtain ⟨hkey, hrest⟩ := hfirst x xs y ys hxs hys h
          rw [List.map_cons, List.map_cons, hkey, ih (htail x xs hxs) (htail y ys hys) hrest]

theorem append_inj_of_span {p : α → Bool} {xs ys xs' ys' : List α}
    (hxs : ∀ x ∈ xs, p x = true) (hys : ∀ y ∈ ys, p y = true)
    (hxs' : ∀ x ∈ xs'.head?, p x = false) (hys' : ∀ y ∈ ys'.head?, p y = false)
    (h : xs ++ xs' = ys ++ ys') : xs = ys ∧ xs' = ys' := by
  have hspan {zs zs' : List α} (hzs : ∀ z ∈ zs, p z = true)
      (hzs' : ∀ z ∈ zs'.head?, p z = false) : (zs ++ zs').takeWhile p = zs := by
    rw [List.takeWhile_append_of_pos hzs]
    cases zs' with
    | nil => simp
    | cons z zs' => simp [hzs' z rfl]
  have heq : xs = ys := by rw [← hspan hxs hxs', h, hspan hys hys']
  subst heq
  exact ⟨rfl, List.append_cancel_left h⟩

end Concatenation

namespace Code

/-- The characters of names in generated code. -/
def isNameChar (c : Char) : Bool :=
  0x80 ≤ c.toNat || (0x41 ≤ c.toNat && c.toNat ≤ 0x5A) || c.isDigit

theorem isNameChar_of_isDigit {c : Char} (h : c.isDigit = true) : isNameChar c = true := by
  rw [isNameChar, h, Bool.or_true]

theorem capital_of_upperCode : ∀ n < 0x80, Text.upperCode n = [n] →
    Text.isAlphabetic (Char.ofNat n) = true → 0x41 ≤ n ∧ n ≤ 0x5A := by
  decide +kernel

theorem isNameChar_of_mem_upper {text : String} {x : Char}
    (htext : ∀ c ∈ text.toList, Scan.continuesWord c = true)
    (hx : x ∈ (Text.upper text).toList) : isNameChar x = true := by
  rw [Text.toList_upper] at hx
  obtain ⟨c, hc, hx⟩ := List.mem_flatMap.mp hx
  by_cases hascii : x.toNat < 0x80
  · rcases Text.upperChar_ascii hx hascii with rfl | hcapital
    · rcases Bool.or_eq_true_iff.mp (htext x hc) with halpha | hdigit
      · obtain ⟨m, hm, hmx⟩ := List.mem_map.mp hx
        have hcode := Text.upperCode_of_mem_upperCode hm
        have hmx' : m = x.toNat := by rw [← Text.toNat_ofNat_of_mem_upperCode hm, hmx]
        rw [hmx'] at hcode
        rw [← Char.ofNat_toNat x] at halpha
        simp [isNameChar, capital_of_upperCode x.toNat hascii hcode halpha]
      · exact isNameChar_of_isDigit hdigit
    · simp [isNameChar, hcapital]
  · simp [isNameChar, Nat.le_of_not_lt hascii]

def IsName (name : String) : Prop :=
  ∀ c ∈ name.toList, isNameChar c = true

instance (name : String) : Decidable (IsName name) :=
  List.decidableBAll (fun c => isNameChar c = true) name.toList

def digitValue (c : Char) : Nat :=
  c.toNat - '0'.toNat

theorem digitValue_of_isDigit {c : Char} (h : c.isDigit = true) :
    digitValue c < 10 ∧ Nat.toDigits 10 (digitValue c) = [c] := by
  have hbounds : 48 ≤ c.toNat ∧ c.toNat ≤ 57 := by
    simpa [Char.isDigit, UInt32.le_iff_toNat_le] using h
  obtain ⟨hmin, hmax⟩ := hbounds
  unfold digitValue
  rw [← Char.ofNat_toNat c]
  generalize c.toNat = n at hmin hmax
  interval_cases n
  all_goals exact ⟨by decide, rfl⟩

theorem isDigit_of_mem_toDigits {c : Char} {value : Nat} (hc : c ∈ Nat.toDigits 10 value) :
    c.isDigit = true :=
  Nat.isDigit_of_mem_toDigits (by omega) (by omega) hc

/-- A text without the digits at its end. -/
def stem (cs : List Char) : List Char :=
  cs.rdropWhile Char.isDigit

/-- The digits at the end of a text. -/
def ending (cs : List Char) : List Char :=
  cs.rtakeWhile Char.isDigit

theorem stem_append_ending (cs : List Char) : stem cs ++ ending cs = cs :=
  List.rdropWhile_append_rtakeWhile

theorem isDigit_of_mem_ending {c : Char} {cs : List Char} (h : c ∈ ending cs) :
    c.isDigit = true :=
  List.mem_rtakeWhile_imp h

theorem stem_append {cs digits : List Char} (h : ∀ c ∈ digits, c.isDigit = true) :
    stem (cs ++ digits) = stem cs := by
  rw [stem, List.rdropWhile, List.reverse_append, List.dropWhile_append_of_pos]
  · rfl
  · intro c hc
    exact h c (List.mem_reverse.mp hc)

/-! Reading the first fragment of a code, and the code that is left. -/

/-- The fragment with the name that comes next. A text of the length given ends it. -/
def readName (make : String → Fragment) (ending : Nat) (cs : List Char) :
    Fragment × List Char :=
  (make (String.ofList (cs.takeWhile isNameChar)), (cs.dropWhile isNameChar).drop ending)

/-- A name in a body, or a text in the call that wraps it. A call of a name never goes on with
a quote, so no text is taken for one. -/
def readSymbol (cs : List Char) : Fragment × List Char :=
  match cs.dropWhile isNameChar with
  | '(' :: '"' :: rest =>
      (.text (String.ofList ('"' :: (rest.takeWhile (· ≠ '"') ++ ['"']))),
        (rest.dropWhile (· ≠ '"')).drop 2)
  | _ =>
      let name := stem (cs.takeWhile isNameChar)
      (.symbol (String.ofList name), cs.drop name.length)

/-- The first fragment of a code and the code after it. -/
def read? : List Char → Option (Fragment × List Char)
  | [] => none
  | '(' :: rest => some (.mark .openParen, rest)
  | ')' :: rest =>
      some (if rest.head? = some ';' then (.functionClose, rest.drop 2)
        else (.mark .closeParen, rest))
  | ',' :: rest => some (.mark .comma, rest)
  | '+' :: rest => some (.mark .plus, rest)
  | '-' :: rest => some (.mark .minus, rest)
  | ' ' :: '=' :: rest => some (.assign, rest.drop 3)
  | ' ' :: ' ' :: 'c' :: rest => some (readName .functionOpen 3 (rest.drop 7))
  | ' ' :: ' ' :: 'r' :: rest => some (readName .moduleClose 7 (rest.drop 8))
  | 'c' :: rest => some (readName .moduleOpen 17 (rest.drop 7))
  | 'm' :: '_' :: rest => some (readSymbol rest)
  | c :: rest => some (.number (digitValue c), rest)

end Code

namespace Fragment

def digit (c : Char) : Fragment :=
  .number (Code.digitValue c)

/-- The finest form of a fragment. -/
def spelledOut : Fragment → List Fragment
  | .symbol name =>
      .symbol (String.ofList (Code.stem name.toList)) :: (Code.ending name.toList).map digit
  | .number value => (Nat.toDigits 10 value).map digit
  | x => [x]

/-- A fragment that holds a name or a text as the scanner finds them. -/
def Readable : Fragment → Prop
  | .moduleOpen name | .moduleClose name | .functionOpen name | .symbol name =>
      Code.IsName name
  | .text literal => ∃ inner, literal = String.ofList ('"' :: (inner ++ ['"'])) ∧ '"' ∉ inner
  | .number _ | .assign | .functionClose | .mark _ => True
  | .verbatim _ => False

/-- A fragment in its finest form. -/
def Fine : Fragment → Prop
  | .symbol name => Code.stem name.toList = name.toList
  | .number value => value < 10
  | _ => True

structure Legible (x : Fragment) : Prop where
  readable : x.Readable
  fine : x.Fine

theorem legible_digit {c : Char} (h : c.isDigit = true) : (digit c).Legible :=
  ⟨trivial, (Code.digitValue_of_isDigit h).1⟩

theorem Readable.spelledOut {x : Fragment} (h : x.Readable) :
    ∀ y ∈ x.spelledOut, y.Legible := by
  cases x with
  | symbol name =>
      refine List.forall_mem_cons.mpr ⟨⟨?_, ?_⟩, ?_⟩
      · intro c hc
        rw [String.toList_ofList] at hc
        exact h c ((List.rdropWhile_prefix _ _).subset hc)
      · rw [Fine, String.toList_ofList]
        exact List.rdropWhile_idempotent _ _
      · intro y hy
        obtain ⟨c, hc, rfl⟩ := List.mem_map.mp hy
        exact legible_digit (Code.isDigit_of_mem_ending hc)
  | number value =>
      intro y hy
      obtain ⟨c, hc, rfl⟩ := List.mem_map.mp hy
      exact legible_digit (Code.isDigit_of_mem_toDigits hc)
  | _ => exact List.forall_mem_singleton.mpr ⟨h, trivial⟩

theorem render_cons (d : Dialect) (x : Fragment) (xs : List Fragment) :
    Code.render d (x :: xs) = x.render d ++ Code.render d xs := by
  rw [Code.render, List.map_cons, String.join_cons, ← Code.render]

theorem render_digits (d : Dialect) {digits : List Char}
    (h : ∀ c ∈ digits, c.isDigit = true) :
    Code.render d (digits.map digit) = String.ofList digits := by
  induction digits with
  | nil => rfl
  | cons c digits ih =>
      obtain ⟨hc, h⟩ := List.forall_mem_cons.mp h
      have hwrite : (digit c).render d = String.ofList [c] :=
        congrArg String.ofList (Code.digitValue_of_isDigit hc).2
      rw [List.map_cons, render_cons, hwrite, ih h, ← String.ofList_append,
        List.singleton_append]

theorem render_spelledOut (d : Dialect) (x : Fragment) :
    Code.render d x.spelledOut = x.render d := by
  cases x with
  | symbol name =>
      rw [spelledOut, render_cons, render_digits d fun c => Code.isDigit_of_mem_ending]
      apply String.ext
      simp [render, Code.symbol, Code.stem_append_ending]
  | number value => exact render_digits d fun c => Code.isDigit_of_mem_toDigits
  | _ => exact (render_cons d _ []).trans String.append_empty

def chars (x : Fragment) : List Char :=
  (x.render .standard).toList

section Chars

variable (name : String)

theorem chars_moduleOpen : (moduleOpen name).chars =
    "const m_".toList ++ (name.toList ++ " = function () \x7b\n".toList) := by
  simp [chars, render, Code.symbol, Dialect.standard]

theorem chars_moduleClose : (moduleClose name).chars =
    "  return m_".toList ++ (name.toList ++ ";\n\x7d();\n".toList) := by
  simp [chars, render, Code.symbol, Dialect.standard]

theorem chars_functionOpen : (functionOpen name).chars =
    "  const m_".toList ++ (name.toList ++ " = ".toList) := by
  simp [chars, render, Code.symbol, Dialect.standard]

theorem chars_symbol : (symbol name).chars = "m_".toList ++ name.toList := by
  simp [chars, render, Code.symbol, Dialect.standard]

theorem chars_text (inner : List Char) :
    (text (String.ofList ('"' :: (inner ++ ['"'])))).chars =
      "m_".toList ++ ("ТЕКСТ".toList ++ '(' :: '"' :: (inner ++ ['"', ')'])) := by
  simp [chars, render, Code.textCall, Code.symbol, Dialect.standard]

end Chars

end Fragment

namespace Code

/-- What a fragment has to be told apart from: code that can follow it. -/
structure Continues (cs : List Char) : Prop where
  semicolon : cs.head? ≠ some ';'
  quote : cs.head? ≠ some '"'
  name : ∀ c ∈ (cs.dropWhile Char.isDigit).head?, isNameChar c = false
  call : ¬ ['(', '"'] <+: cs.dropWhile Char.isDigit

theorem Continues.nil : Continues [] :=
  ⟨nofun, nofun, nofun, by simp⟩

/-- The characters that fragments begin with, digits apart. -/
def openings : List Char :=
  [' ', 'c', 'm', '(', ')', ',', '+', '-']

theorem Continues.opening {c : Char} {cs : List Char} (hc : c ∈ openings)
    (hcall : c = '(' → cs.head? ≠ some '"') : Continues (c :: cs) := by
  have hall : openings.all (fun x =>
      !x.isDigit && !isNameChar x && x != ';' && x != '"') = true := by decide
  have hopening := List.all_eq_true.mp hall c hc
  simp only [Bool.and_eq_true, Bool.not_eq_true', bne_iff_ne] at hopening
  obtain ⟨⟨⟨hdigit, hname⟩, hsemicolon⟩, hquote⟩ := hopening
  have hdrop : (c :: cs).dropWhile Char.isDigit = c :: cs := by simp [hdigit]
  refine ⟨by simpa using hsemicolon, by simpa using hquote, ?_, ?_⟩
  · rw [hdrop]
    rintro x ⟨⟩
    exact hname
  · rw [hdrop]
    intro h
    obtain ⟨rfl, hcs⟩ := List.cons_prefix_cons.mp h
    obtain ⟨rest, rfl⟩ := hcs
    exact hcall rfl rfl

theorem Continues.digit {c : Char} {cs : List Char} (h : Continues cs) (hc : c.isDigit = true) :
    Continues (c :: cs) := by
  have hdrop : (c :: cs).dropWhile Char.isDigit = cs.dropWhile Char.isDigit := by simp [hc]
  refine ⟨?_, ?_, hdrop ▸ h.name, hdrop ▸ h.call⟩
  · rintro ⟨⟩
    cases hc
  · rintro ⟨⟩
    cases hc

theorem exists_digit {value : Nat} (h : value < 10) :
    ∃ c : Char, (Text.Decimal.write value).toList = [c] ∧ c.isDigit = true ∧
      ∀ rest, read? (c :: rest) = some (.number value, rest) := by
  refine ⟨Nat.digitChar value, ?_, ?_, ?_⟩
  · interval_cases value <;> rfl
  · interval_cases value <;> rfl
  · intro rest
    interval_cases value <;> rfl

theorem readName_append {name : String} (make : String → Fragment) (ending rest : List Char)
    (hname : IsName name) (hending : ∃ c ∈ ending.head?, isNameChar c = false) :
    readName make ending.length (name.toList ++ (ending ++ rest)) = (make name, rest) := by
  obtain ⟨c, hc, hend⟩ := hending
  obtain ⟨ending, rfl⟩ := List.head?_eq_some_iff.mp hc
  rw [readName, List.takeWhile_append_of_pos hname, List.dropWhile_append_of_pos hname,
    List.cons_append, List.takeWhile_cons_of_neg (by simp [hend]),
    List.dropWhile_cons_of_neg (by simp [hend]), List.append_nil, String.ofList_toList,
    ← List.cons_append, List.drop_left]

theorem readSymbol_append {name : String} {rest : List Char} (hname : IsName name)
    (hstem : stem name.toList = name.toList) (hrest : Continues rest) :
    readSymbol (name.toList ++ rest) = (.symbol name, rest) := by
  -- The digits that follow are taken for characters of the name at first.
  obtain ⟨digits, tail, rfl, hdigits, htail⟩ :=
    Scan.exists_eq_append_of_span Char.isDigit rest
  have hdrop : (digits ++ tail).dropWhile Char.isDigit = tail := by
    rw [List.dropWhile_append_of_pos hdigits]
    cases tail with
    | nil => rfl
    | cons c tail => simp [htail c rfl]
  have htailName := hrest.name
  have hcall := hrest.call
  rw [hdrop] at htailName hcall
  have hrun : ∀ c ∈ name.toList ++ digits, isNameChar c = true := by
    intro c hc
    rcases List.mem_append.mp hc with hc | hc
    · exact hname c hc
    · exact isNameChar_of_isDigit (hdigits c hc)
  have htake : tail.takeWhile isNameChar = [] ∧ tail.dropWhile isNameChar = tail := by
    cases tail with
    | nil => exact ⟨rfl, rfl⟩
    | cons c tail => simp [htailName c rfl]
  rw [← List.append_assoc, readSymbol, List.dropWhile_append_of_pos hrun,
    List.takeWhile_append_of_pos hrun, htake.1, htake.2, List.append_nil, stem_append hdigits,
    hstem, List.append_assoc]
  split
  · next inner => exact absurd ⟨inner, rfl⟩ hcall
  · simp only [List.drop_left, String.ofList_toList]

theorem readSymbol_text (constructor : String) {inner : List Char} (rest : List Char)
    (hconstructor : IsName constructor) (hinner : '"' ∉ inner) :
    readSymbol (constructor.toList ++ '(' :: '"' :: (inner ++ '"' :: ')' :: rest)) =
      (.text (String.ofList ('"' :: (inner ++ ['"']))), rest) := by
  have hquote : ∀ c ∈ inner, decide (c ≠ '"') = true := by
    intro c hc
    rw [decide_eq_true_eq]
    rintro rfl
    exact hinner hc
  rw [readSymbol, List.dropWhile_append_of_pos hconstructor]
  change (Fragment.text (String.ofList ('"' :: ((inner ++ '"' :: ')' :: rest).takeWhile _ ++
    ['"']))), List.drop 2 ((inner ++ '"' :: ')' :: rest).dropWhile _)) = _
  rw [List.takeWhile_append_of_pos hquote, List.dropWhile_append_of_pos hquote]
  simp

theorem read?_append {x : Fragment} {rest : List Char} (hx : x.Legible)
    (hrest : Continues rest) : read? (x.chars ++ rest) = some (x, rest) := by
  cases x with
  | moduleOpen name =>
      have hname := readName_append .moduleOpen " = function () \x7b\n".toList rest
        hx.readable ⟨' ', rfl, rfl⟩
      rw [Fragment.chars_moduleOpen, List.append_assoc, List.append_assoc]
      exact congrArg some hname
  | moduleClose entry =>
      have hname := readName_append .moduleClose ";\n\x7d();\n".toList rest hx.readable
        ⟨';', rfl, rfl⟩
      rw [Fragment.chars_moduleClose, List.append_assoc, List.append_assoc]
      exact congrArg some hname
  | functionOpen name =>
      have hname := readName_append .functionOpen " = ".toList rest hx.readable
        ⟨' ', rfl, rfl⟩
      rw [Fragment.chars_functionOpen, List.append_assoc, List.append_assoc]
      exact congrArg some hname
  | assign => rfl
  | functionClose => rfl
  | mark m =>
      cases m with
      | closeParen =>
          change some (if rest.head? = some ';' then _ else (Fragment.mark .closeParen, rest)) = _
          rw [if_neg hrest.semicolon]
      | openParen => rfl
      | comma => rfl
      | plus => rfl
      | minus => rfl
  | symbol name =>
      rw [Fragment.chars_symbol, List.append_assoc]
      exact congrArg some (readSymbol_append hx.readable hx.fine hrest)
  | number value =>
      obtain ⟨c, hwrite, -, hread⟩ := exists_digit hx.fine
      change read? ((Text.Decimal.write value).toList ++ rest) = _
      rw [hwrite, List.singleton_append, hread]
  | text literal =>
      obtain ⟨inner, rfl, hinner⟩ := hx.readable
      have htext := readSymbol_text "ТЕКСТ" rest (by decide) hinner
      rw [Fragment.chars_text]
      simp only [List.append_assoc, List.cons_append, List.nil_append]
      exact congrArg some htext
  | verbatim code => exact hx.readable.elim

theorem exists_opening {x : Fragment} (hx : x.Legible) (hnumber : ∀ value, x ≠ .number value) :
    ∃ c body, x.chars = c :: body ∧ c ∈ openings ∧ (c = '(' → body = []) := by
  cases x with
  | moduleOpen name => exact ⟨'c', _, Fragment.chars_moduleOpen name, by decide, nofun⟩
  | moduleClose entry => exact ⟨' ', _, Fragment.chars_moduleClose entry, by decide, nofun⟩
  | functionOpen name => exact ⟨' ', _, Fragment.chars_functionOpen name, by decide, nofun⟩
  | assign => exact ⟨' ', _, rfl, by decide, nofun⟩
  | functionClose => exact ⟨')', _, rfl, by decide, nofun⟩
  | mark m => cases m <;> exact ⟨_, [], rfl, by decide, fun _ => rfl⟩
  | symbol name => exact ⟨'m', _, Fragment.chars_symbol name, by decide, nofun⟩
  | number value => exact absurd rfl (hnumber value)
  | text literal =>
      obtain ⟨inner, rfl, -⟩ := hx.readable
      exact ⟨'m', _, Fragment.chars_text inner, by decide, nofun⟩
  | verbatim code => exact hx.readable.elim

theorem continues_flatMap {xs : List Fragment} (hxs : ∀ x ∈ xs, x.Legible) :
    Continues (xs.flatMap Fragment.chars) := by
  induction xs with
  | nil => exact .nil
  | cons x xs ih =>
      obtain ⟨hx, hxs⟩ := List.forall_mem_cons.mp hxs
      have hrest := ih hxs
      rw [List.flatMap_cons]
      by_cases hnumber : ∃ value, x = .number value
      · obtain ⟨value, rfl⟩ := hnumber
        obtain ⟨c, hwrite, hdigit, -⟩ := exists_digit hx.fine
        change Continues ((Text.Decimal.write value).toList ++ _)
        rw [hwrite]
        exact hrest.digit hdigit
      · obtain ⟨c, body, hchars, hc, hbody⟩ := exists_opening hx (not_exists.mp hnumber)
        rw [hchars]
        refine .opening hc fun heq => ?_
        rw [hbody heq]
        exact hrest.quote

theorem toList_render (xs : List Fragment) :
    (Code.render .standard xs).toList = xs.flatMap Fragment.chars := by
  simp only [Code.render, String.toList_join, List.flatMap_map]
  rfl

/-- Code has one reading in fragments of the finest form. -/
theorem eq_of_render_eq {xs ys : List Fragment} (hxs : ∀ x ∈ xs, x.Legible)
    (hys : ∀ y ∈ ys, y.Legible)
    (h : Code.render .standard xs = Code.render .standard ys) : xs = ys := by
  have hfirst (z : Fragment) (zs : List Fragment) (hzs : ∀ x ∈ z :: zs, x.Legible) :
      read? (z.chars ++ zs.flatMap Fragment.chars) = some (z, zs.flatMap Fragment.chars) := by
    obtain ⟨hz, hzs⟩ := List.forall_mem_cons.mp hzs
    exact read?_append hz (continues_flatMap hzs)
  have hchars := congrArg String.toList h
  rw [toList_render, toList_render] at hchars
  have hmap : xs.map id = ys.map id := by
    refine map_eq_of_flatMap_eq (P := fun zs => ∀ z ∈ zs, z.Legible) ?_ ?_ ?_ hxs hys hchars
    · intro x xs hxs hnil
      have hread := read?_append (hxs x List.mem_cons_self) .nil
      rw [hnil] at hread
      cases hread
    · intro x xs hxs
      exact (List.forall_mem_cons.mp hxs).2
    · intro x xs y ys hxs hys heq
      have hread := hfirst x xs hxs
      rw [heq, hfirst y ys hys, Option.some.injEq, Prod.mk.injEq] at hread
      exact ⟨hread.1.symm, hread.2.symm⟩
  rwa [List.map_id, List.map_id] at hmap

/-- Code shows its fragments, except for the grouping of digits. -/
theorem render_eq_iff {xs ys : List Fragment} (hxs : ∀ x ∈ xs, x.Readable)
    (hys : ∀ y ∈ ys, y.Readable) :
    Code.render .standard xs = Code.render .standard ys ↔
      xs.flatMap Fragment.spelledOut = ys.flatMap Fragment.spelledOut := by
  have hrender (zs : List Fragment) :
      Code.render .standard (zs.flatMap Fragment.spelledOut) = Code.render .standard zs :=
    Program.render_flatMap (Fragment.render_spelledOut .standard) zs
  have hlegible {zs : List Fragment} (hzs : ∀ z ∈ zs, z.Readable) :
      ∀ y ∈ zs.flatMap Fragment.spelledOut, y.Legible := by
    intro y hy
    obtain ⟨z, hz, hy⟩ := List.mem_flatMap.mp hy
    exact (hzs z hz).spelledOut y hy
  constructor
  · intro h
    rw [← hrender xs, ← hrender ys] at h
    exact eq_of_render_eq (hlegible hxs) (hlegible hys) h
  · intro h
    rw [← hrender xs, h, hrender ys]

end Code

end KeywordLang
