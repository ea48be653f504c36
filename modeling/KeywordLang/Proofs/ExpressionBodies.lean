import KeywordLang.Proofs.ExpressionGrammar
import KeywordLang.Proofs.LexemeCuts
import KeywordLang.Proofs.ProgramGrammar
import Mathlib.Data.List.Infix

/-!
Expressions as the bodies of functions. The code of an expression shows its structure in
brackets, that of a body has the same parts in the same order and no brackets.
-/

namespace KeywordLang

namespace Code

/-- Code without its brackets, from within a text or from outside of one. What stands
between quotes is left as it is. -/
def eraseFrom (quoted : Bool) : List Char → List Char
  | [] => []
  | c :: cs =>
      if c = '"' then c :: eraseFrom (!quoted) cs
      else if quoted = false ∧ (c = '[' ∨ c = ']') then eraseFrom quoted cs
      else c :: eraseFrom quoted cs

/-- Code without the brackets outside of its texts. -/
def eraseBrackets (code : String) : String :=
  String.ofList (eraseFrom false code.toList)

/-- Code with no bracket and no quote. -/
def Plain (code : String) : Prop :=
  ∀ c ∈ code.toList, c ≠ '[' ∧ c ≠ ']' ∧ c ≠ '"'

instance (code : String) : Decidable (Plain code) :=
  List.decidableBAll (fun c => c ≠ '[' ∧ c ≠ ']' ∧ c ≠ '"') code.toList

theorem Plain.append {code code' : String} (h : Plain code) (h' : Plain code') :
    Plain (code ++ code') := by
  intro c hc
  rw [String.toList_append] at hc
  rcases List.mem_append.mp hc with hc | hc
  · exact h c hc
  · exact h' c hc

/-- Erasing passes over `code` and leaves `erased` of it, whatever follows. -/
def Erases (code erased : String) : Prop :=
  ∀ rest, eraseFrom false (code.toList ++ rest) = erased.toList ++ eraseFrom false rest

theorem Erases.eraseBrackets {code erased : String} (h : Erases code erased) :
    eraseBrackets code = erased := by
  have hend := h []
  rw [List.append_nil, eraseFrom, List.append_nil] at hend
  rw [Code.eraseBrackets, hend, String.ofList_toList]

theorem Erases.append {code code' erased erased' : String} (h : Erases code erased)
    (h' : Erases code' erased') : Erases (code ++ code') (erased ++ erased') := by
  intro rest
  rw [String.toList_append, String.toList_append, List.append_assoc, h, h', List.append_assoc]

theorem Plain.erases {code : String} (h : Plain code) : Erases code code := by
  intro rest
  rw [Plain] at h
  generalize code.toList = cs at h
  induction cs with
  | nil => rfl
  | cons c cs ih =>
      obtain ⟨⟨hopen, hclose, hquote⟩, h⟩ := List.forall_mem_cons.mp h
      rw [List.cons_append, eraseFrom, if_neg hquote, if_neg (by simp [hopen, hclose]), ih h]
      rfl

theorem erases_openBracket : Erases "[" "" := by
  intro rest
  rfl

theorem erases_closeBracket : Erases "]" "" := by
  intro rest
  rfl

theorem eraseFrom_quoted {inner : List Char} (h : '"' ∉ inner) (rest : List Char) :
    eraseFrom true (inner ++ '"' :: rest) = inner ++ '"' :: eraseFrom false rest := by
  induction inner with
  | nil => rfl
  | cons c inner ih =>
      rw [List.mem_cons, not_or] at h
      rw [List.cons_append, eraseFrom, if_neg (Ne.symm h.1), if_neg (by simp), ih h.2]
      rfl

theorem erases_literal {inner : List Char} (h : '"' ∉ inner) :
    Erases (String.ofList ('"' :: (inner ++ ['"'])))
      (String.ofList ('"' :: (inner ++ ['"']))) := by
  intro rest
  rw [String.toList_ofList, List.cons_append, List.append_assoc, eraseFrom, if_pos rfl]
  change '"' :: eraseFrom true (inner ++ '"' :: rest) = _
  rw [eraseFrom_quoted h]
  simp

theorem plain_write (n : Nat) : Plain (Text.Decimal.write n) := by
  intro c hc
  rw [Text.Decimal.write, String.toList_ofList] at hc
  have hdigit : c.isDigit = true := Nat.isDigit_of_mem_toDigits (by omega) (by omega) hc
  refine ⟨?_, ?_, ?_⟩
  all_goals
    rintro rfl
    cases hdigit

theorem plain_upper {text : String} {c : Char} {body : List Char}
    (htext : text.toList = c :: body) (hc : Text.isAlphabetic c = true)
    (hbody : ∀ x ∈ body, Scan.continuesWord x = true) : Plain (Text.upper text) := by
  intro x hx
  rw [Text.toList_upper, htext] at hx
  obtain ⟨y, hy, hx⟩ := List.mem_flatMap.mp hx
  have hword : Scan.continuesWord y = true := by
    rcases List.mem_cons.mp hy with rfl | hy
    · simp [Scan.continuesWord, hc]
    · exact hbody y hy
  have hne {z : Char} (hz : z.toNat < 0x41 ∨ 0x5A < z.toNat) (hascii : z.toNat < 0x80)
      (hother : Scan.continuesWord z = false) : x ≠ z := by
    rintro rfl
    rcases Text.upperChar_ascii hx hascii with rfl | hrange
    · rw [hother] at hword
      cases hword
    · omega
  exact ⟨hne (by decide) (by decide) rfl, hne (by decide) (by decide) rfl,
    hne (by decide) (by decide) rfl⟩

end Code

namespace Program

section Balance

variable {xs ys : List Item}

theorem Balanced.append (hxs : Balanced xs) (hys : Balanced ys) : Balanced (xs ++ ys) := by
  constructor
  · intro before hbefore
    rcases List.prefix_or_prefix_of_prefix hbefore (List.prefix_append xs ys) with h | h
    · exact hxs.1 before h
    · obtain ⟨rest, rfl⟩ := h
      have hrest := hys.1 rest ((List.prefix_append_right_inj xs).mp hbefore)
      rw [List.count_append, List.count_append, hxs.2]
      omega
  · rw [List.count_append, List.count_append, hxs.2, hys.2]

theorem Balanced.parenthesize (hxs : Balanced xs) :
    Balanced (.mark .openParen :: (xs ++ [.mark .closeParen])) := by
  constructor
  · intro before hbefore
    cases before with
    | nil => exact Nat.le_refl 0
    | cons b before =>
        obtain ⟨hb, hrest⟩ := List.cons_prefix_cons.mp hbefore
        subst hb
        rcases List.prefix_concat_iff.mp hrest with rfl | hrest
        · simp [hxs.2]
        · have hle := hxs.1 before hrest
          rw [List.count_cons_of_ne (by decide), List.count_cons_self]
          omega
  · simp [hxs.2]

theorem balanced_nil : Balanced [] := by
  refine ⟨?_, rfl⟩
  intro before hbefore
  rw [List.prefix_nil.mp hbefore]
  exact Nat.le_refl 0

theorem balanced_singleton {item : Item} (hopen : item ≠ .mark .openParen)
    (hclose : item ≠ .mark .closeParen) : Balanced [item] := by
  constructor
  · intro before hbefore
    have hcount := hbefore.sublist.count_le (.mark .closeParen)
    rw [List.count_singleton, if_neg (by simpa using hclose)] at hcount
    omega
  · simp [hopen, hclose]

end Balance

end Program

namespace Expression

open Program (Item Balanced)

/-- The punctuation of a body that an operator is written with. -/
def Operator.mark? : Operator → Option Mark
  | .openGroup => some .openParen
  | .closeGroup => some .closeParen
  | .comma => some .comma
  | .plus => some .plus
  | .minus => some .minus
  | _ => none

theorem Operator.mark?_of_isBinary {op : Operator} (h : op.isBinary = true) :
    op.mark? ≠ some .openParen ∧ op.mark? ≠ some .closeParen := by
  cases op with
  | openGroup => cases h
  | closeGroup => cases h
  | _ => exact ⟨by decide, by decide⟩

theorem Operator.text_of_mark? {op : Operator} {m : Mark} (h : op.mark? = some m) :
    m.text = op.text := by
  cases op <;> cases h <;> rfl

theorem Operator.plain_text (op : Operator) : Code.Plain op.text := by
  cases op <;> decide

/-- What an entry is within a body. -/
def Entry.item? : Entry → Option Item
  | .operand (.number value) => some (.number value)
  | .operand (.symbol name) => some (.name name)
  | .operand (.text literal) => some (.text literal)
  | .operand _ => none
  | .operator op => op.mark?.map .mark

/-- The parts of an expression from left to right. -/
def Expr.items (e : Expr) : List Item :=
  e.yield.filterMap Entry.item?

theorem Expr.items_group (inner : Expr) :
    (Expr.group inner).items = .mark .openParen :: (inner.items ++ [.mark .closeParen]) := by
  simp [items, yield, Entry.item?, Operator.mark?]

theorem Expr.items_binary (op : Operator) (left right : Expr) :
    (Expr.binary op left right).items =
      left.items ++ ((op.mark?.map Item.mark).toList ++ right.items) := by
  cases h : op.mark? <;> simp [items, yield, Entry.item?, h]

theorem Expr.items_select (cond yes no : Expr) :
    (Expr.select cond yes no).items = cond.items ++ (yes.items ++ no.items) := by
  have hcond : Entry.item? (.operator .cond) = none := rfl
  have hthen : Entry.item? (.operator .thenBranch) = none := rfl
  have helse : Entry.item? (.operator .elseBranch) = none := rfl
  simp [items, yield, hcond, hthen, helse]

theorem Expr.Grouped.balanced_items {e : Expr} (h : e.Grouped) : Balanced e.items := by
  induction e with
  | number value => exact Program.balanced_singleton nofun nofun
  | symbol name => exact Program.balanced_singleton nofun nofun
  | text literal => exact Program.balanced_singleton nofun nofun
  | group inner ih =>
      rw [items_group]
      exact (ih h.1).parenthesize
  | binary op left right ihl ihr =>
      obtain ⟨hop, hleft, hright, -, -⟩ := h
      rw [items_binary]
      have hmark : Balanced (op.mark?.map Item.mark).toList := by
        obtain ⟨hopen, hclose⟩ := Operator.mark?_of_isBinary hop
        cases h : op.mark? with
        | none => exact Program.balanced_nil
        | some m =>
            rw [h] at hopen hclose
            apply Program.balanced_singleton
            · simpa using hopen
            · simpa using hclose
      exact (ihl hleft).append (hmark.append (ihr hright))
  | select cond yes no ihc ihy ihn =>
      obtain ⟨hcond, hyes, hno, -, -, -⟩ := h
      rw [items_select]
      exact (ihc hcond).append ((ihy hyes).append (ihn hno))

/-- Entries that erasing brackets leaves whole. -/
inductive Entry.Whole : Entry → Prop where
  | number (value : Nat) : Whole (.operand (.number value))
  | symbol {name : String} (h : Code.Plain name) : Whole (.operand (.symbol name))
  | text {inner : List Char} (h : '"' ∉ inner) :
      Whole (.operand (.text (String.ofList ('"' :: (inner ++ ['"'])))))
  | operator {op : Operator} {m : Mark} (h : op.mark? = some m) : Whole (.operator op)

/-- The code of an expression as a body of the function `self`. -/
def Expr.bodyCode (d : Dialect) (self : String) (e : Expr) : String :=
  String.join (e.items.map (Item.render d self))

section BodyCode

variable (d : Dialect) (self : String)

theorem Expr.bodyCode_number (value : Nat) :
    (Expr.number value).bodyCode d self = Text.Decimal.write value := by
  simp [bodyCode, items, yield, Entry.item?, Item.render]

theorem Expr.bodyCode_symbol (name : String) :
    (Expr.symbol name).bodyCode d self = Code.symbol d name := by
  simp [bodyCode, items, yield, Entry.item?, Item.render]

theorem Expr.bodyCode_text (literal : String) :
    (Expr.text literal).bodyCode d self = Code.textCall d literal := by
  simp [bodyCode, items, yield, Entry.item?, Item.render]

theorem Expr.bodyCode_group (inner : Expr) :
    (Expr.group inner).bodyCode d self = "(" ++ inner.bodyCode d self ++ ")" := by
  rw [bodyCode, items_group]
  simp [bodyCode, Item.render, Mark.text, String.append_assoc]

theorem Expr.bodyCode_binary {op : Operator} {m : Mark} (h : op.mark? = some m)
    (left right : Expr) :
    (Expr.binary op left right).bodyCode d self =
      left.bodyCode d self ++ op.text ++ right.bodyCode d self := by
  rw [bodyCode, items_binary, h]
  simp [bodyCode, Item.render, Operator.text_of_mark? h, String.append_assoc]

end BodyCode

/-- Without its brackets, the code of an expression is its code as a body. -/
theorem Expr.erases_render {d : Dialect} (hnames : Code.Plain d.namePrefix)
    (hconstructor : Code.Plain d.textConstructor) (self : String) {e : Expr}
    (h : ∀ a ∈ e.yield, a.Whole) : Code.Erases (e.render d) (e.bodyCode d self) := by
  have hsymbol {name : String} (hname : Code.Plain name) :
      Code.Erases (Code.symbol d name) (Code.symbol d name) :=
    (hnames.append hname).erases
  have hopen : Code.Erases "(" "(" := Code.Plain.erases (by decide)
  have hclose : Code.Erases ")" ")" := Code.Plain.erases (by decide)
  induction e with
  | number value =>
      rw [bodyCode_number]
      exact (Code.plain_write value).erases
  | symbol name =>
      rw [bodyCode_symbol]
      cases h _ List.mem_cons_self with
      | symbol hname => exact hsymbol hname
  | text literal =>
      rw [bodyCode_text]
      cases h _ List.mem_cons_self with
      | text hinner =>
          have hliteral := Code.erases_literal hinner
          exact (((hsymbol hconstructor).append hopen).append hliteral).append hclose
  | group inner ih =>
      have hinner := ih fun a ha => h a (by simp [yield, ha])
      have hopens : Code.Erases "[(" "(" := Code.erases_openBracket.append hopen
      have hcloses : Code.Erases ")]" ")" := hclose.append Code.erases_closeBracket
      rw [bodyCode_group, Expr.render]
      exact (hopens.append hinner).append hcloses
  | binary op left right ihl ihr =>
      have hleft := ihl fun a ha => h a (by simp [yield, ha])
      have hright := ihr fun a ha => h a (by simp [yield, ha])
      cases h (.operator op) (by simp [yield]) with
      | operator hmark =>
          have hoperands := (hleft.append op.plain_text.erases).append hright
          have hbrackets :=
            (Code.erases_openBracket.append hoperands).append Code.erases_closeBracket
          rw [bodyCode_binary d self hmark, Expr.render]
          simpa [String.append_assoc] using hbrackets
  | select cond yes no =>
      -- The keyword of a conditional is no part of a body.
      cases h (.operator .cond) (by simp [yield]) with
      | operator hmark => cases hmark

end Expression

end KeywordLang
