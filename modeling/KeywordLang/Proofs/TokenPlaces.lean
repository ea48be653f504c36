import KeywordLang.Proofs.LexemeCuts
import KeywordLang.Proofs.TokenStream
import Mathlib.Algebra.GroupWithZero.Nat

/-!
Scanning loses nothing and knows where it is. The texts of the tokens make up the source, and
the place of a token is what has been read before it: so many bytes, and so many lines.
-/

namespace KeywordLang.Scan

def textOf (ts : List Token) : String :=
  String.join (ts.map fun t => t.text)

theorem textOf_cons (t : Token) (ts : List Token) : textOf (t :: ts) = t.text ++ textOf ts :=
  String.join_cons

theorem textOf_append (ts us : List Token) : textOf (ts ++ us) = textOf ts ++ textOf us := by
  rw [textOf, List.map_append, String.join_append, textOf, textOf]

theorem toList_textOf (ts : List Token) :
    (textOf ts).toList = characters (ts.map Token.toLexeme) := by
  rw [textOf, String.toList_join, List.flatMap_map, characters, List.flatMap_map]

theorem utf8ByteSize_textOf (ts : List Token) :
    (textOf ts).utf8ByteSize = (ts.map fun t => t.text.utf8ByteSize).sum := by
  induction ts with
  | nil => rfl
  | cons t ts ih =>
      rw [textOf_cons, String.utf8ByteSize_append, ih, List.map_cons, List.sum_cons]

theorem textOf_place (offset line : Nat) (xs : List Lexeme) :
    (textOf (place offset line xs)).toList = characters xs := by
  induction xs generalizing offset line with
  | nil => rfl
  | cons x xs ih => rw [place, textOf_cons, String.toList_append, ih, characters_cons]

theorem place_eq_append_cons {offset line : Nat} {xs : List Lexeme} {before after : List Token}
    {t : Token} (h : place offset line xs = before ++ t :: after) :
    t.offset = offset + (textOf before).utf8ByteSize ∧
      t.line = line + (textOf before).toList.count '\n' := by
  induction before generalizing offset line xs with
  | nil =>
      cases xs with
      | nil =>
          cases h
          exact ⟨rfl, rfl⟩
      | cons x xs =>
          cases h
          exact ⟨rfl, rfl⟩
  | cons b before ih =>
      cases xs with
      | nil =>
          have hlength := congrArg List.length h
          simp [place] at hlength
      | cons x xs =>
          obtain ⟨hb, hrest⟩ := List.cons_eq_cons.mp h
          subst hb
          obtain ⟨hoffset, hline⟩ := ih hrest
          rw [hoffset, hline, textOf_cons, String.utf8ByteSize_append, String.toList_append,
            List.count_append, Nat.add_assoc, Nat.add_assoc]
          exact ⟨rfl, rfl⟩

theorem textOf_tokens (d : Dialect) (source : String) : textOf (tokens d source) = source := by
  apply String.toList_inj.mp
  rw [tokens, textOf_place, characters_lexemes]

theorem exists_tokens_eq (d : Dialect) (source : String) :
    ∃ ts, tokens d source =
        ts ++ [⟨⟨.endOfInput, ""⟩, source.utf8ByteSize, 1 + source.toList.count '\n'⟩] ∧
      ts.map Token.toLexeme = lexemes d source.toList := by
  obtain ⟨ts, ⟨⟨kind, text⟩, offset, line⟩, htokens, hlexemes, rfl⟩ :=
    exists_place 0 1 (lexemes d source.toList)
  have hsource : textOf ts = source := by
    apply String.toList_inj.mp
    rw [toList_textOf, hlexemes, characters_lexemes]
  have hempty : text = "" := by
    have hall := textOf_tokens d source
    rw [tokens, htokens, textOf_append, hsource, textOf_cons] at hall
    simpa [textOf] using hall
  obtain ⟨hoffset, hline⟩ := place_eq_append_cons htokens
  rw [hsource] at hoffset hline
  simp only [Nat.zero_add] at hoffset hline
  rw [tokens, htokens, hempty, hoffset, hline]
  exact ⟨ts, rfl, hlexemes⟩

theorem tokens_eq_single_iff {d : Dialect} {kind : LexemeKind} {source : String} :
    (tokens d source).map Token.toLexeme = [⟨kind, source⟩, ⟨.endOfInput, ""⟩] ↔
      Cut d kind source.toList [] := by
  obtain ⟨ts, htokens, hlexemes⟩ := exists_tokens_eq d source
  rw [htokens, List.map_append, hlexemes]
  constructor
  · intro h
    have hend : lexemes d source.toList ++ [⟨.endOfInput, ""⟩] =
        [⟨kind, source⟩] ++ [⟨.endOfInput, ""⟩] := h
    have hsingle := List.append_cancel_right hend
    obtain ⟨tail, -, hcut, htail⟩ := exists_cut_of_lexemes hsingle
    rwa [eq_nil_of_lexemes htail] at hcut
  · intro hcut
    have hlexemes' := hcut.lexemes
    rw [List.append_nil, lexemes, String.ofList_toList] at hlexemes'
    rw [hlexemes']
    rfl

/-- How a token stands in a source, behind the tokens `before`. -/
structure StandsIn (source : String) (before : List Token) (t : Token) : Prop where
  text : ∃ rest, source = textOf before ++ t.text ++ rest
  offset : t.offset = (before.map fun b => b.text.utf8ByteSize).sum
  /-- A token begins and ends between two characters. -/
  boundaries : String.Pos.Raw.IsValid source ⟨t.offset⟩ ∧
    String.Pos.Raw.IsValid source ⟨t.offset + t.text.utf8ByteSize⟩
  line : t.line = 1 + (textOf before).toList.count '\n'

theorem standsIn_of_tokens {d : Dialect} {source : String} {before after : List Token}
    {t : Token} (h : tokens d source = before ++ t :: after) : StandsIn source before t := by
  obtain ⟨hoffset, hline⟩ := place_eq_append_cons h
  rw [Nat.zero_add] at hoffset
  have hsource : source = textOf before ++ t.text ++ textOf after := by
    have hall := textOf_tokens d source
    rw [h, textOf_append, textOf_cons, ← String.append_assoc] at hall
    exact hall.symm
  refine ⟨⟨_, hsource⟩, ?_, ⟨?_, ?_⟩, hline⟩
  · rw [hoffset, utf8ByteSize_textOf]
  · rw [String.Pos.Raw.isValid_iff_exists_append]
    refine ⟨textOf before, t.text ++ textOf after, ?_, ?_⟩
    · rw [← String.append_assoc]
      exact hsource
    · rw [hoffset]
      rfl
  · rw [String.Pos.Raw.isValid_iff_exists_append]
    refine ⟨textOf before ++ t.text, textOf after, hsource, ?_⟩
    rw [hoffset, ← String.utf8ByteSize_append]
    rfl

/-- A return at the end of blanks, a text over two lines and a comment that the end cuts off. -/
example : tokens .standard "ß \r\r\n\"é\n\"//\r" =
    [⟨⟨.name, "ß"⟩, 0, 1⟩, ⟨⟨.space, " \r"⟩, 2, 1⟩, ⟨⟨.lineBreak, "\r\n"⟩, 4, 1⟩,
      ⟨⟨.text, "\"é\n\""⟩, 6, 2⟩, ⟨⟨.comment, "//\r"⟩, 11, 3⟩, ⟨⟨.endOfInput, ""⟩, 14, 3⟩] := by
  decide +kernel

end KeywordLang.Scan
