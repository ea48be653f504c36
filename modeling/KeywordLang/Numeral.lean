import KeywordLang.Fault

namespace KeywordLang.Numeral

/-- Numeric constants denote words of 32 bits. -/
def wordCount : Nat := 0x100000000

/-- The value of a numeric constant, which has to fit into a word and into the
range of the dialect. Digits count by their exact value, however many there are. -/
def check (d : Dialect) (text : String) : Except Fault Nat :=
  match Text.Decimal.read? text with
  | some value =>
      if value < wordCount && d.numberRange.contains value then .ok value
      else .error (.numberOutOfRange text d.numberRange)
  | none => .error (.numberOutOfRange text d.numberRange)

theorem check_eq_error {d : Dialect} {text : String} {fault : Fault}
    (h : check d text = .error fault) : fault = .numberOutOfRange text d.numberRange := by
  unfold check at h
  repeat' split at h
  all_goals cases h
  all_goals rfl

end KeywordLang.Numeral
