import KeywordLang.Proofs.Reader

/-!
Text constants in the generated code. A text of the source has no escapes and may go over
several lines, a string of the generated code has escapes and ends with its line. The text
is taken over as it is, so it keeps its meaning exactly if it has none of the characters in
which the two differ.
-/

namespace KeywordLang

namespace JavaScript

/-- A code point in UTF-16. -/
def codeUnits (n : Nat) : List Nat :=
  if n < 0x10000 then [n]
  else [0xD800 + (n - 0x10000) / 0x400, 0xDC00 + (n - 0x10000) % 0x400]

/-- The string value that has the given characters. -/
def units (cs : List Char) : List Nat :=
  cs.flatMap fun c => codeUnits c.toNat

def hexValue? (c : Char) : Option Nat :=
  if c.isDigit then some (c.toNat - 0x30)
  else if 'a' ≤ c ∧ c ≤ 'f' then some (c.toNat - 0x61 + 10)
  else if 'A' ≤ c ∧ c ≤ 'F' then some (c.toNat - 0x41 + 10)
  else none

def readHex? (digits : List Char) : Option Nat :=
  digits.foldlM (fun value c => (hexValue? c).map (16 * value + ·)) 0

def isOctalDigit (c : Char) : Bool :=
  '0' ≤ c && c ≤ '7'

/-- A code in octal, of up to three digits and within a byte: the code units and the number
of characters. -/
def octalEscape (c : Char) (rest : List Char) : List Nat × Nat :=
  let digits := c :: (rest.take (if c ≤ '3' then 2 else 1)).takeWhile isOctalDigit
  ([digits.foldl (fun value c => 8 * value + (c.toNat - 0x30)) 0], digits.length)

/-- A letter and a code of as many digits in base sixteen. -/
def hexEscape? (count : Nat) (rest : List Char) : Option (List Nat × Nat) :=
  if (rest.take count).length = count then
    (readHex? (rest.take count)).map fun n => ([n], count + 1)
  else none

/-- A letter and a code point in braces. -/
def pointEscape? (inner : List Char) : Option (List Nat × Nat) :=
  let digits := inner.takeWhile (· ≠ '\x7d')
  if digits = [] ∨ digits.length = inner.length then none
  else ((readHex? digits).filter (· < 0x110000)).map fun n => (codeUnits n, digits.length + 3)

/-- The escape that begins with `u`. -/
def unicodeEscape? : List Char → Option (List Nat × Nat)
  | '\x7b' :: inner => pointEscape? inner
  | rest => hexEscape? 4 rest

/-- What stands for a single character behind a backslash. -/
def singleEscape (c : Char) : List Nat :=
  match c with
  | 'b' => [8]
  | 't' => [9]
  | 'n' => [10]
  | 'v' => [11]
  | 'f' => [12]
  | 'r' => [13]
  | c => codeUnits c.toNat

/-- The escape that follows a backslash: its code units, and how many characters belong to
it. A line break behind a backslash is left out of the value. -/
def escape? : List Char → Option (List Nat × Nat)
  | [] => none
  | c :: rest =>
      if c = '\r' ∧ rest.head? = some '\n' then some ([], 2)
      else if c = '\n' ∨ c = '\r' ∨ c = '\u2028' ∨ c = '\u2029' then some ([], 1)
      else if isOctalDigit c then some (octalEscape c rest)
      else if c = 'x' then hexEscape? 2 rest
      else if c = 'u' then unicodeEscape? rest
      else some (singleEscape c, 1)

/-- The value of a string up to its closing quote, and the code behind it. -/
def readString? : List Char → Option (List Nat × List Char)
  | [] => none
  | c :: rest =>
      if c = '"' then some ([], rest)
      else if c = '\n' ∨ c = '\r' then none
      else if c = '\\' then
        match escape? rest with
        | none => none
        | some (value, length) =>
            (readString? (rest.drop length)).map fun (more, behind) => (value ++ more, behind)
      else (readString? rest).map fun (more, behind) => (codeUnits c.toNat ++ more, behind)
termination_by cs => cs.length
decreasing_by
  · simp only [List.length_drop, List.length_cons]
    omega
  · simp

/-- The value of the string in double quotes with which code begins, and the code behind
it. -/
def readLiteral? : List Char → Option (List Nat × List Char)
  | '"' :: rest => readString? rest
  | _ => none

theorem length_codeUnits (n : Nat) : 1 ≤ (codeUnits n).length ∧ (codeUnits n).length ≤ 2 := by
  unfold codeUnits
  split
  · exact ⟨Nat.le_refl 1, Nat.le_succ 1⟩
  · exact ⟨Nat.le_succ 1, Nat.le_refl 2⟩

theorem units_cons (c : Char) (cs : List Char) :
    units (c :: cs) = codeUnits c.toNat ++ units cs :=
  List.flatMap_cons

theorem units_append (cs cs' : List Char) : units (cs ++ cs') = units cs ++ units cs' :=
  List.flatMap_append

theorem length_le_length_units (cs : List Char) : cs.length ≤ (units cs).length := by
  induction cs with
  | nil => exact Nat.le_refl 0
  | cons c cs ih =>
      have hc := (length_codeUnits c.toNat).1
      rw [units_cons, List.length_append, List.length_cons]
      omega

theorem length_units_take_drop (n : Nat) (cs : List Char) :
    (units (cs.take n)).length + (units (cs.drop n)).length = (units cs).length := by
  rw [← List.length_append, ← units_append, List.take_append_drop]

theorem hexEscape?_length {count length : Nat} {rest : List Char} {value : List Nat}
    (h : hexEscape? count rest = some (value, length)) : value.length = 1 ∧ 1 ≤ length := by
  unfold hexEscape? at h
  split at h
  · obtain ⟨n, -, hn⟩ := Option.map_eq_some_iff.mp h
    obtain ⟨rfl, rfl⟩ := Prod.mk.inj hn
    exact ⟨rfl, Nat.le_add_left 1 count⟩
  · cases h

theorem pointEscape?_length {length : Nat} {inner : List Char} {value : List Nat}
    (h : pointEscape? inner = some (value, length)) : value.length ≤ 2 ∧ 2 ≤ length := by
  rw [pointEscape?] at h
  split at h
  · cases h
  · obtain ⟨n, -, hn⟩ := Option.map_eq_some_iff.mp h
    obtain ⟨rfl, rfl⟩ := Prod.mk.inj hn
    exact ⟨(length_codeUnits n).2, by omega⟩

theorem unicodeEscape?_length {length : Nat} {rest : List Char} {value : List Nat}
    (h : unicodeEscape? rest = some (value, length)) :
    value.length ≤ (('u' :: rest).take length).length := by
  unfold unicodeEscape? at h
  split at h
  · next inner =>
      obtain ⟨hvalue, hlength⟩ := pointEscape?_length h
      simp only [List.length_take, List.length_cons]
      omega
  · obtain ⟨hvalue, hlength⟩ := hexEscape?_length h
    simp only [List.length_take, List.length_cons]
    omega

theorem length_singleEscape_le (c : Char) :
    (singleEscape c).length ≤ (codeUnits c.toNat).length := by
  unfold singleEscape
  split
  iterate 6 exact (length_codeUnits _).1
  exact Nat.le_refl _

theorem escape?_length {cs : List Char} {value : List Nat} {length : Nat}
    (h : escape? cs = some (value, length)) :
    value.length ≤ (units (cs.take length)).length := by
  cases cs with
  | nil => cases h
  | cons c rest =>
      rw [escape?] at h
      split at h
      · obtain ⟨rfl, -⟩ := Prod.mk.inj (Option.some.inj h)
        exact Nat.zero_le _
      split at h
      · obtain ⟨rfl, -⟩ := Prod.mk.inj (Option.some.inj h)
        exact Nat.zero_le _
      split at h
      · obtain ⟨rfl, rfl⟩ := Prod.mk.inj (Option.some.inj h)
        refine Nat.le_trans ?_ (length_le_length_units _)
        simp
      split at h
      · obtain ⟨hvalue, hlength⟩ := hexEscape?_length h
        refine Nat.le_trans ?_ (length_le_length_units _)
        simp only [List.length_take, List.length_cons]
        omega
      split at h
      · next hc =>
          rw [hc]
          exact (unicodeEscape?_length h).trans (length_le_length_units _)
      · obtain ⟨rfl, rfl⟩ := Prod.mk.inj (Option.some.inj h)
        have hc := length_singleEscape_le c
        rw [List.take_succ_cons, List.take_zero, units_cons, List.length_append]
        omega

/-- The characters that mean themselves in a string. -/
def IsPlain (c : Char) : Prop :=
  c ≠ '\\' ∧ c ≠ '\n' ∧ c ≠ '\r'

section Reading

variable {c : Char} {rest behind : List Char} {value : List Nat}

theorem exists_escape_of_readString? (h : readString? ('\\' :: rest) = some (value, behind)) :
    ∃ escaped length more, escape? rest = some (escaped, length) ∧
      readString? (rest.drop length) = some (more, behind) ∧ value = escaped ++ more := by
  rw [readString?, if_neg (by decide), if_neg (by decide), if_pos rfl] at h
  split at h
  · cases h
  · next escaped length hescape =>
      obtain ⟨⟨more, rest'⟩, hmore, heq⟩ := Option.map_eq_some_iff.mp h
      obtain ⟨rfl, rfl⟩ := Prod.mk.inj heq
      exact ⟨escaped, length, more, hescape, hmore, rfl⟩

theorem readString?_plain (rest : List Char) (hquote : c ≠ '"') (hc : IsPlain c) :
    readString? (c :: rest) =
      (readString? rest).map fun (more, behind) => (codeUnits c.toNat ++ more, behind) := by
  obtain ⟨hbackslash, hfeed, hreturn⟩ := hc
  rw [readString?, if_neg hquote, if_neg (by simp [hfeed, hreturn]), if_neg hbackslash]

theorem exists_more_of_readString? (hquote : c ≠ '"') (hc : IsPlain c)
    (h : readString? (c :: rest) = some (value, behind)) :
    ∃ more, readString? rest = some (more, behind) ∧ value = codeUnits c.toNat ++ more := by
  rw [readString?_plain rest hquote hc] at h
  obtain ⟨⟨more, rest'⟩, hmore, heq⟩ := Option.map_eq_some_iff.mp h
  obtain ⟨rfl, rfl⟩ := Prod.mk.inj heq
  exact ⟨more, hmore, rfl⟩

theorem length_lt_of_readString? {cs : List Char} (h : readString? cs = some (value, behind)) :
    value.length + (units behind).length < (units cs).length := by
  induction cs using readString?.induct generalizing value with
  | case1 => simp [readString?] at h
  | case2 rest =>
      rw [readString?, if_pos rfl] at h
      obtain ⟨rfl, rfl⟩ := Prod.mk.inj (Option.some.inj h)
      have hc := (length_codeUnits '"'.toNat).1
      rw [units_cons, List.length_append, List.length_nil]
      omega
  | case3 c rest hquote hbreak =>
      rw [readString?, if_neg hquote, if_pos hbreak] at h
      cases h
  | case4 rest hescape =>
      obtain ⟨escaped, length, more, hescape', -⟩ := exists_escape_of_readString? h
      rw [hescape] at hescape'
      cases hescape'
  | case5 rest escaped length hescape _ _ ih =>
      obtain ⟨escaped', length', more, hescape', hmore, rfl⟩ := exists_escape_of_readString? h
      rw [hescape] at hescape'
      obtain ⟨rfl, rfl⟩ := Prod.mk.inj (Option.some.inj hescape')
      have hshort := escape?_length hescape
      have hsplit := length_units_take_drop length rest
      have hbehind := ih hmore
      rw [units_cons, List.length_append, List.length_append]
      omega
  | case6 c rest hquote hbreak hbackslash ih =>
      rw [not_or] at hbreak
      obtain ⟨more, hmore, rfl⟩ :=
        exists_more_of_readString? hquote ⟨hbackslash, hbreak.1, hbreak.2⟩ h
      have hbehind := ih hmore
      rw [units_cons, List.length_append, List.length_append]
      omega

/-- Plain characters between quotes are read as themselves. Where there is any other one,
the string goes wrong, or it loses at least the backslash. -/
theorem readString?_eq_units_iff {inner : List Char} (hinner : '"' ∉ inner)
    (behind : List Char) :
    readString? (inner ++ '"' :: behind) = some (units inner, behind) ↔
      ∀ c ∈ inner, IsPlain c := by
  induction inner with
  | nil =>
      rw [List.nil_append, readString?, if_pos rfl]
      exact iff_of_true rfl (List.forall_mem_nil _)
  | cons c inner ih =>
      rw [List.mem_cons, not_or] at hinner
      have hquote : c ≠ '"' := Ne.symm hinner.1
      rw [List.cons_append, List.forall_mem_cons, ← ih hinner.2]
      constructor
      · intro h
        have hplain : IsPlain c := by
          refine ⟨?_, ?_, ?_⟩
          · rintro rfl
            obtain ⟨escaped, length, more, hescape, hmore, hvalue⟩ :=
              exists_escape_of_readString? h
            have hlength := congrArg List.length hvalue
            have hshort := escape?_length hescape
            have hlong := length_lt_of_readString? hmore
            have hsplit := length_units_take_drop length (inner ++ '"' :: behind)
            have hc := (length_codeUnits '\\'.toNat).1
            have hclose : (codeUnits '"'.toNat).length = 1 := rfl
            rw [units_append, units_cons, List.length_append, List.length_append] at hsplit
            rw [units_cons, List.length_append, List.length_append] at hlength
            omega
          · rintro rfl
            rw [readString?, if_neg hquote, if_pos (.inl rfl)] at h
            cases h
          · rintro rfl
            rw [readString?, if_neg hquote, if_pos (.inr rfl)] at h
            cases h
        obtain ⟨more, hmore, hvalue⟩ := exists_more_of_readString? hquote hplain h
        rw [units_cons, List.append_cancel_left_eq] at hvalue
        rw [hvalue]
        exact ⟨hplain, hmore⟩
      · rintro ⟨hplain, hmore⟩
        rw [readString?_plain _ hquote hplain, hmore, units_cons]
        rfl

end Reading

end JavaScript

theorem Program.Machine.step_text {d : Dialect} {x : Lexeme} (m : Machine)
    (hx : x.kind = .text) (hphase : m.phase = .body) :
    m.step d x = (.ok (), m.emit (.text x.text)) := by
  obtain ⟨kind, text⟩ := x
  obtain rfl : kind = .text := hx
  obtain ⟨phase, scopes, code, line⟩ := m
  obtain rfl : phase = .body := hphase
  rfl

theorem Expression.Machine.step_text {d : Dialect} {x : Lexeme} (s : Scopes) (m : Machine)
    (hx : x.kind = .text) (hdone : m.done = false) (hside : m.side = .operand) :
    m.step d s x = (.ok (), m.push (.operand (.text x.text)) .operator) := by
  obtain ⟨kind, text⟩ := x
  obtain rfl : kind = .text := hx
  obtain ⟨stack, side, brackets, line, done⟩ := m
  obtain rfl : done = false := hdone
  obtain rfl : side = .operand := hside
  rfl

/-- Wherever a lexeme may stand in a body or an expression, the code for it is a call of the
text constructor with the argument given. -/
structure WrittenAsText (d : Dialect) (x : Lexeme) (argument : String) : Prop where
  body : ∀ m : Program.Machine, m.phase = .body →
    ∃ m', m.step d x = (.ok (), m') ∧ Code.render d m'.code.toList =
      Code.render d m.code.toList ++
        (Code.symbol d d.textConstructor ++ "(" ++ argument ++ ")")
  operand : ∀ (s : Scopes) (m : Expression.Machine), m.done = false → m.side = .operand →
    ∃ m' e, m.step d s x = (.ok (), m') ∧ m'.stack = .operand e :: m.stack ∧
      e.render d = Code.symbol d d.textConstructor ++ "(" ++ argument ++ ")"

theorem writtenAsText (d : Dialect) {x : Lexeme} (hx : x.kind = .text) :
    WrittenAsText d x x.text where
  body m hphase := by
    refine ⟨m.emit (.text x.text), m.step_text hx hphase, ?_⟩
    rw [Program.Machine.emit, Array.toList_push, Code.render_append]
    apply String.ext
    simp [Code.render, Fragment.render, Code.textCall]
  operand s m hdone hside :=
    ⟨m.push (.operand (.text x.text)) .operator, .text x.text,
      m.step_text s hx hdone hside, rfl, rfl⟩

/-- A text constant is written into the code as it stands in the source. There it is a
complete string with the same characters, whatever follows it, exactly if it contains no
backslash, no line feed and no carriage return. -/
theorem text_keeps_meaning_iff (d : Dialect) (source : String) (x : Lexeme)
    (hx : x ∈ Scan.lexemes d source.toList) (hkind : x.kind = .text) :
    ∃ inner : List Char, x.text = String.ofList ('"' :: (inner ++ ['"'])) ∧ '"' ∉ inner ∧
      WrittenAsText d x x.text ∧
      ∀ behind, JavaScript.readLiteral? (x.text.toList ++ behind) =
          some (JavaScript.units inner, behind) ↔
        ∀ c ∈ inner, c ≠ '\\' ∧ c ≠ '\n' ∧ c ≠ '\r' := by
  obtain ⟨tail, hcut⟩ := Scan.exists_cut_of_mem_lexemes hx
  rw [hkind] at hcut
  obtain ⟨inner, htext, hinner⟩ := hcut.exists_text
  refine ⟨inner, ?_, hinner, writtenAsText d hkind, ?_⟩
  · rw [← htext, String.ofList_toList]
  · intro behind
    rw [htext, List.cons_append, List.append_assoc]
    exact JavaScript.readString?_eq_units_iff hinner behind

/-- Tabs, slashes, other line separators and characters beyond the basic plane are kept. -/
theorem text_keeps_meaning_unusual :
    let source := "1, \"\t//\u2028😀'\""
    let x : Lexeme := ⟨.text, "\"\t//\u2028😀'\""⟩
    x ∈ Scan.lexemes .standard source.toList ∧ x.kind = .text ∧
      ∃ inner : List Char, x.text = String.ofList ('"' :: (inner ++ ['"'])) ∧ '"' ∉ inner ∧
        WrittenAsText .standard x x.text ∧
        ∀ behind, JavaScript.readLiteral? (x.text.toList ++ behind) =
            some (JavaScript.units inner, behind) ↔
          ∀ c ∈ inner, c ≠ '\\' ∧ c ≠ '\n' ∧ c ≠ '\r' := by
  intro source x
  have hx : x ∈ Scan.lexemes .standard source.toList := by decide +kernel
  exact ⟨hx, rfl, text_keeps_meaning_iff .standard source x hx rfl⟩

/-- Three texts that do not keep their meaning: a line break is an error within a string, a
backslash at the end takes the closing quote away, and one elsewhere is no character. -/
theorem text_loses_meaning :
    (compile .standard .expression "\"а\nб\"" = .ok "m_ТЕКСТ(\"а\nб\")" ∧
      JavaScript.readLiteral? "\"а\nб\")".toList = none) ∧
    (compile .standard .module "модуль м пусть ф() = \"\\\" старт ф" =
        .ok ("const m_М = function () \x7b\n" ++
          "  const m_Ф = () => (m_ТЕКСТ(\"\\\"));\n  return m_Ф;\n\x7d();\n") ∧
      JavaScript.readLiteral? "\"\\\"));\n  return m_Ф;\n\x7d();\n".toList = none) ∧
    (compile .standard .expression "\"\\t\"" = .ok "m_ТЕКСТ(\"\\t\")" ∧
      JavaScript.readLiteral? "\"\\t\")".toList = some (JavaScript.units ['\t'], [')'])) := by
  refine ⟨⟨?_, ?_⟩, ⟨?_, ?_⟩, ?_, ?_⟩
  all_goals decide +kernel

end KeywordLang
