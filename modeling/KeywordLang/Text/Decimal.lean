namespace KeywordLang.Text.Decimal

/-- The canonical decimal form, which has no leading zeros. -/
def write (n : Nat) : String :=
  String.ofList (Nat.toDigits 10 n)

/-- The value of a non-empty string of ASCII digits. Leading zeros are allowed. -/
def readDigits? (digits : List Char) : Option Nat :=
  if digits.isEmpty || !digits.all Char.isDigit then none
  else some (Nat.ofDigitChars 10 digits 0)

/-- The value of a digit string that may carry one leading plus sign. -/
def read? (s : String) : Option Nat :=
  match s.toList with
  | '+' :: digits => readDigits? digits
  | digits => readDigits? digits

theorem readDigits?_eq_some_iff {digits : List Char} {n : Nat} :
    readDigits? digits = some n ↔
      digits ≠ [] ∧ (∀ c ∈ digits, c.isDigit = true) ∧
        Nat.ofDigitChars 10 digits 0 = n := by
  cases digits with
  | nil => simp [readDigits?]
  | cons c rest =>
      by_cases h : (c :: rest).all Char.isDigit = true
      · simp only [readDigits?, List.isEmpty_cons, Bool.false_or, h, Bool.not_true,
          Bool.false_eq_true, if_false, Option.some.injEq, ne_eq, reduceCtorEq,
          not_false_eq_true, true_and]
        exact ⟨fun hn => ⟨List.all_eq_true.mp h, hn⟩, fun hn => hn.2⟩
      · simp only [readDigits?, List.isEmpty_cons, Bool.false_or, h, Bool.not_false,
          if_true, reduceCtorEq, false_iff]
        exact fun hn => h (List.all_eq_true.mpr hn.2.1)

end KeywordLang.Text.Decimal
