import KeywordLang.Proofs.FragmentReading

/-!
The finest form of a program, in which every digit of a body is a number by itself, also
those at the end of a name. A program has the code of its finest form, and the fragments of
its code show that form and nothing more. Where no number directly follows a number or a
name, the digits can be grouped again as they were.
-/

namespace KeywordLang

section Separators

variable {α β : Type} {sep x : α} {xs : List α}

theorem mem_of_mem_intersperse (h : x ∈ xs.intersperse sep) : x ∈ xs ∨ x = sep := by
  induction xs with
  | nil => cases h
  | cons y ys ih =>
      cases ys with
      | nil => exact .inl h
      | cons z zs =>
          rw [List.intersperse_cons_cons, List.mem_cons, List.mem_cons] at h
          rcases h with rfl | rfl | h
          · exact .inl List.mem_cons_self
          · exact .inr rfl
          · exact (ih h).imp_left (List.mem_cons_of_mem y)

theorem mem_intersperse_of_mem (sep : α) (h : x ∈ xs) : x ∈ xs.intersperse sep := by
  induction xs with
  | nil => cases h
  | cons y ys ih =>
      cases ys with
      | nil => exact h
      | cons z zs =>
          rw [List.intersperse_cons_cons]
          rcases List.mem_cons.mp h with rfl | h
          · exact List.mem_cons_self
          · exact List.mem_cons_of_mem _ (List.mem_cons_of_mem _ (ih h))

theorem filterMap_intersperse {f : α → Option β} (hsep : f sep = none) (xs : List α) :
    (xs.intersperse sep).filterMap f = xs.filterMap f := by
  induction xs with
  | nil => rfl
  | cons y ys ih =>
      cases ys with
      | nil => rfl
      | cons z zs =>
          rw [List.intersperse_cons_cons, List.filterMap_cons, List.filterMap_cons_none hsep, ih,
            List.filterMap_cons (a := y)]

end Separators

namespace Program

/-! A program in which functions refer to themselves by name, and its finest form. -/

def Item.named (self : String) : Item → Item
  | .selfReference => .name self
  | item => item

def FunctionDecl.named (f : FunctionDecl) : FunctionDecl :=
  { f with body := f.body.map (Item.named f.name) }

def ModuleDecl.named (m : ModuleDecl) : ModuleDecl :=
  { m with functions := m.functions.map FunctionDecl.named }

def Item.digit (c : Char) : Item :=
  .number (Code.digitValue c)

/-- The finest form of an item: digits stand alone, those at the end of a name too. -/
def Item.spelledOut : Item → List Item
  | .number value => (Nat.toDigits 10 value).map digit
  | .name word =>
      .name (String.ofList (Code.stem word.toList)) :: (Code.ending word.toList).map digit
  | item => [item]

def FunctionDecl.spelledOut (f : FunctionDecl) : FunctionDecl :=
  { f with body := f.named.body.flatMap Item.spelledOut }

def ModuleDecl.spelledOut (m : ModuleDecl) : ModuleDecl :=
  { m with functions := m.functions.map FunctionDecl.spelledOut }

/-! Bodies in which digits can be grouped again. -/

def Item.isNumber : Item → Bool
  | .number _ => true
  | _ => false

/-- Whether digits that follow an item cannot be told from its own. -/
def Item.takesDigits : Item → Bool
  | .number _ | .name _ | .selfReference => true
  | .text _ | .mark _ => false

/-- No number directly follows a number or a name. -/
def NumbersApart (items : List Item) : Prop :=
  items.IsChain fun a b => a.takesDigits = true → b.isNumber = false

/-- The digits at the beginning of a body. -/
def leadingDigits (items : List Item) : List Char :=
  (items.takeWhile Item.isNumber).flatMap fun
    | .number value => Nat.toDigits 10 value
    | _ => []

/-- The first item of a body in finest form, with all the digits that it can take. -/
def regroup? : List Item → Option (Item × List Item)
  | [] => none
  | .name word :: rest =>
      some (.name (word ++ String.ofList (leadingDigits rest)), rest.dropWhile Item.isNumber)
  | .number value :: rest =>
      some (.number (Nat.ofDigitChars 10 (leadingDigits (.number value :: rest)) 0),
        rest.dropWhile Item.isNumber)
  | item :: rest => some (item, rest)

theorem leadingDigits_append {digits : List Char} {rest : List Item}
    (hdigits : ∀ c ∈ digits, c.isDigit = true)
    (hrest : ∀ item ∈ rest.head?, item.isNumber = false) :
    leadingDigits (digits.map Item.digit ++ rest) = digits ∧
      (digits.map Item.digit ++ rest).dropWhile Item.isNumber = rest := by
  have hend : rest.takeWhile Item.isNumber = [] ∧ rest.dropWhile Item.isNumber = rest := by
    cases rest with
    | nil => exact ⟨rfl, rfl⟩
    | cons item rest => simp [hrest item rfl]
  induction digits with
  | nil => simp [leadingDigits, hend]
  | cons c digits ih =>
      obtain ⟨hc, hdigits⟩ := List.forall_mem_cons.mp hdigits
      obtain ⟨hleading, hdrop⟩ := ih hdigits
      refine ⟨?_, hdrop⟩
      change Nat.toDigits 10 (Code.digitValue c) ++
        leadingDigits (digits.map Item.digit ++ rest) = _
      rw [(Code.digitValue_of_isDigit hc).2, hleading, List.singleton_append]

theorem regroup?_append {self : String} {item : Item} {rest : List Item}
    (hrest : item.takesDigits = true → ∀ x ∈ rest.head?, x.isNumber = false) :
    regroup? ((item.named self).spelledOut ++ rest) = some (item.named self, rest) := by
  have hname (word : String) (hhead : ∀ x ∈ rest.head?, x.isNumber = false) :
      regroup? ((Item.name word).spelledOut ++ rest) = some (.name word, rest) := by
    have hending : ∀ c ∈ Code.ending word.toList, c.isDigit = true :=
      fun c => Code.isDigit_of_mem_ending
    obtain ⟨hleading, hdrop⟩ := leadingDigits_append hending hhead
    rw [Item.spelledOut, List.cons_append, regroup?, hleading, hdrop, ← String.ofList_append,
      Code.stem_append_ending, String.ofList_toList]
  cases item with
  | name word => exact hname word (hrest rfl)
  | selfReference => exact hname self (hrest rfl)
  | number value =>
      have hdigits : ∀ c ∈ Nat.toDigits 10 value, c.isDigit = true :=
        fun c => Code.isDigit_of_mem_toDigits
      obtain ⟨hleading, hdrop⟩ := leadingDigits_append hdigits (hrest rfl)
      have hvalue : Nat.ofDigitChars 10 (Nat.toDigits 10 value) 0 = value :=
        Nat.ofDigitChars_ten_toDigits
      change regroup? ((Nat.toDigits 10 value).map Item.digit ++ rest) = some (.number value, rest)
      cases hcs : Nat.toDigits 10 value with
      | nil => exact absurd hcs Nat.toDigits_ne_nil
      | cons c cs =>
          rw [hcs] at hleading hdrop hvalue
          change some (Item.number (Nat.ofDigitChars 10
            (leadingDigits ((c :: cs).map Item.digit ++ rest)) 0),
            ((c :: cs).map Item.digit ++ rest).dropWhile Item.isNumber) = _
          rw [hleading, hvalue, hdrop]
  | text literal => rfl
  | mark m => rfl

theorem head?_spelledOut (self : String) (item : Item) (rest : List Item) :
    ∃ x ∈ ((item.named self).spelledOut ++ rest).head?, x.isNumber = item.isNumber := by
  cases item with
  | number value =>
      change ∃ x ∈ ((Nat.toDigits 10 value).map Item.digit ++ rest).head?, x.isNumber = true
      cases hcs : Nat.toDigits 10 value with
      | nil => exact absurd hcs Nat.toDigits_ne_nil
      | cons c cs => exact ⟨Item.digit c, rfl, rfl⟩
  | text literal => exact ⟨.text literal, rfl, rfl⟩
  | name word => exact ⟨_, rfl, rfl⟩
  | selfReference => exact ⟨_, rfl, rfl⟩
  | mark m => exact ⟨.mark m, rfl, rfl⟩

/-- Digits that are apart can be grouped again. -/
theorem named_eq_of_spelledOut_eq (self : String) {xs ys : List Item} (hxs : NumbersApart xs)
    (hys : NumbersApart ys)
    (h : (xs.map (Item.named self)).flatMap Item.spelledOut =
      (ys.map (Item.named self)).flatMap Item.spelledOut) :
    xs.map (Item.named self) = ys.map (Item.named self) := by
  have hfirst (z : Item) (zs : List Item) (hzs : NumbersApart (z :: zs)) :
      regroup? ((z.named self).spelledOut ++ zs.flatMap fun x => (x.named self).spelledOut) =
        some (z.named self, zs.flatMap fun x => (x.named self).spelledOut) := by
    apply regroup?_append
    intro hz x hx
    cases zs with
    | nil => cases hx
    | cons y zs =>
        have hy := (List.isChain_cons_cons.mp hzs).1 hz
        obtain ⟨x', hx', hnumber⟩ := head?_spelledOut self y
          (zs.flatMap fun x => (x.named self).spelledOut)
        rw [List.flatMap_cons] at hx
        rw [Option.mem_unique hx hx', hnumber, hy]
  rw [List.flatMap_map, List.flatMap_map] at h
  refine map_eq_of_flatMap_eq (P := NumbersApart) ?_ ?_ ?_ hxs hys h
  · intro z zs _ hnil
    obtain ⟨x, hx, -⟩ := head?_spelledOut self z []
    rw [hnil] at hx
    cases hx
  · intro z zs hzs
    exact List.isChain_of_isChain_cons hzs
  · intro z zs y ys hzs hys heq
    have hread := hfirst z zs hzs
    rw [heq, hfirst y ys hys, Option.some.injEq, Prod.mk.injEq] at hread
    exact ⟨hread.1.symm, hread.2.symm⟩

/-! From fragments in finest form back to the program. -/

/-- The part of a body that a fragment is. -/
def itemOf? : Fragment → Option Item
  | .number value => some (.number value)
  | .text literal => some (.text literal)
  | .symbol name => some (.name name)
  | .mark m => some (.mark m)
  | _ => none

theorem filterMap_digits (digits : List Char) :
    (digits.map Fragment.digit).filterMap itemOf? = digits.map Item.digit := by
  induction digits with
  | nil => rfl
  | cons c digits ih => exact congrArg (Item.digit c :: ·) ih

theorem Item.spelledOut_fragment (self : String) (item : Item) :
    (item.fragment self).spelledOut.filterMap itemOf? = (item.named self).spelledOut := by
  have hname (word : String) :
      (Fragment.symbol word).spelledOut.filterMap itemOf? = (Item.name word).spelledOut :=
    congrArg (Item.name _ :: ·) (filterMap_digits (Code.ending word.toList))
  cases item with
  | number value => exact filterMap_digits _
  | name word => exact hname word
  | selfReference => exact hname self
  | text literal => rfl
  | mark m => rfl

/-- Items as fragments in finest form. -/
def fineCode (self : String) (items : List Item) : List Fragment :=
  items.flatMap fun item => (item.fragment self).spelledOut

theorem filterMap_fineCode (self : String) (items : List Item) :
    (fineCode self items).filterMap itemOf? =
      (items.map (Item.named self)).flatMap Item.spelledOut := by
  rw [fineCode, List.filterMap_flatMap, List.flatMap_map]
  simp only [Item.spelledOut_fragment]

theorem cases_of_mem_fineCode {self : String} {items : List Item} {x : Fragment}
    (hx : x ∈ fineCode self items) :
    (∃ item ∈ items, x = item.fragment self) ∨ (∃ value, x = .number value) ∨
      ∃ name, x = .symbol name := by
  obtain ⟨item, hitem, hx⟩ := List.mem_flatMap.mp hx
  have hdigit {digits : List Char} (hx : x ∈ digits.map Fragment.digit) :
      ∃ value, x = .number value := by
    obtain ⟨c, -, rfl⟩ := List.mem_map.mp hx
    exact ⟨_, rfl⟩
  have hname {word : String} (hx : x ∈ (Fragment.symbol word).spelledOut) :
      (∃ value, x = .number value) ∨ ∃ name, x = .symbol name := by
    rcases List.mem_cons.mp hx with rfl | hx
    · exact .inr ⟨_, rfl⟩
    · exact .inl (hdigit hx)
  cases item with
  | number value => exact .inr (.inl (hdigit hx))
  | name word => exact .inr (hname hx)
  | selfReference => exact .inr (hname hx)
  | text literal => exact .inl ⟨_, hitem, List.mem_singleton.mp hx⟩
  | mark m => exact .inl ⟨_, hitem, List.mem_singleton.mp hx⟩

/-- The parameters of a function with their commas, as the items of a body. -/
def parameterItems (parameters : List String) : List Item :=
  (parameters.map Item.name).intersperse (.mark .comma)

/-- The name that an item is. -/
def nameOf? : Item → Option String
  | .name word => some word
  | _ => none

theorem cases_of_mem_parameterItems {parameters : List String} {item : Item}
    (h : item ∈ parameterItems parameters) :
    (∃ p ∈ parameters, item = .name p) ∨ item = .mark .comma := by
  refine (mem_of_mem_intersperse h).imp_left fun h => ?_
  obtain ⟨p, hp, rfl⟩ := List.mem_map.mp h
  exact ⟨p, hp, rfl⟩

theorem numbersApart_parameterItems (parameters : List String) :
    NumbersApart (parameterItems parameters) := by
  apply List.Pairwise.isChain
  apply List.pairwise_of_forall_mem_list
  intro a _ b hb _
  rcases cases_of_mem_parameterItems hb with ⟨p, -, rfl⟩ | rfl
  · rfl
  · rfl

theorem parameters_eq_of_fineCode_eq {self : String} {ps qs : List String}
    (h : fineCode self (parameterItems ps) = fineCode self (parameterItems qs)) : ps = qs := by
  have hfilter (names : List String) :
      ((parameterItems names).map (Item.named self)).filterMap nameOf? = names := by
    rw [parameterItems, map_intersperse, filterMap_intersperse rfl, List.map_map,
      List.filterMap_map]
    exact List.filterMap_some
  have hitems := congrArg (List.filterMap itemOf?) h
  rw [filterMap_fineCode, filterMap_fineCode] at hitems
  have hnamed := named_eq_of_spelledOut_eq self (numbersApart_parameterItems ps)
    (numbersApart_parameterItems qs) hitems
  rw [← hfilter ps, hnamed, hfilter qs]

theorem FunctionDecl.flatMap_spelledOut (f : FunctionDecl) :
    f.fragments.flatMap Fragment.spelledOut =
      .functionOpen f.name :: .mark .openParen :: (fineCode f.name (parameterItems f.parameters) ++
        .mark .closeParen :: .assign :: (fineCode f.name f.body ++ [.functionClose])) := by
  have hparameters : ((f.parameters.map Fragment.symbol).intersperse (.mark .comma)) =
      (parameterItems f.parameters).map (Item.fragment f.name) := by
    rw [parameterItems, map_intersperse, List.map_map]
    rfl
  simp only [FunctionDecl.fragments, Heading.fragments, hparameters]
  simp [fineCode, List.flatMap_map, Fragment.spelledOut]

theorem FunctionDecl.spelledOut_of_append {f f' : FunctionDecl} {rest rest' : List Fragment}
    (h : f.fragments.flatMap Fragment.spelledOut ++ rest =
      f'.fragments.flatMap Fragment.spelledOut ++ rest') :
    f.spelledOut = f'.spelledOut ∧ rest = rest' := by
  rw [flatMap_spelledOut, flatMap_spelledOut] at h
  simp only [List.cons_append, List.append_assoc, List.cons.injEq, Fragment.functionOpen.injEq,
    true_and, List.nil_append] at h
  obtain ⟨hname, h⟩ := h
  rw [← hname] at h
  have hclose (g : FunctionDecl) : ∀ x ∈ fineCode f.name (parameterItems g.parameters),
      decide (x ≠ .mark .closeParen) = true := by
    intro x hx
    rcases cases_of_mem_fineCode hx with ⟨item, hitem, rfl⟩ | ⟨value, rfl⟩ | ⟨name, rfl⟩
    · rcases cases_of_mem_parameterItems hitem with ⟨p, -, rfl⟩ | rfl
      · rfl
      · rfl
    · rfl
    · rfl
  have hend (g : FunctionDecl) : ∀ x ∈ fineCode f.name g.body,
      decide (x ≠ .functionClose) = true := by
    intro x hx
    rcases cases_of_mem_fineCode hx with ⟨item, -, rfl⟩ | ⟨value, rfl⟩ | ⟨name, rfl⟩
    · cases item <;> rfl
    · rfl
    · rfl
  obtain ⟨hparameters, h⟩ := append_inj_of_span (hclose f) (hclose f') (by simp) (by simp) h
  simp only [List.cons.injEq, true_and] at h
  obtain ⟨hbody, h⟩ := append_inj_of_span (hend f) (hend f') (by simp) (by simp) h
  have hitems := congrArg (List.filterMap itemOf?) hbody
  rw [filterMap_fineCode, filterMap_fineCode] at hitems
  have hheading : f.toHeading = f'.toHeading :=
    congrArg₂ Heading.mk hname (parameters_eq_of_fineCode_eq hparameters)
  have hspelled : f.named.body.flatMap Item.spelledOut = f'.named.body.flatMap Item.spelledOut := by
    rw [FunctionDecl.named, FunctionDecl.named, ← hname]
    exact hitems
  exact ⟨congrArg₂ FunctionDecl.mk hheading hspelled, (List.cons.inj h).2⟩

theorem ModuleDecl.flatMap_spelledOut (m : ModuleDecl) :
    m.fragments.flatMap Fragment.spelledOut =
      .moduleOpen m.name ::
        ((m.functions.flatMap fun f => f.fragments.flatMap Fragment.spelledOut) ++
          [.moduleClose m.entry]) := by
  simp [ModuleDecl.fragments, List.flatMap_assoc, Fragment.spelledOut]

/-- Whether a fragment ends a module. -/
def endsModule : Fragment → Bool
  | .moduleClose _ => true
  | _ => false

theorem FunctionDecl.endsModule_eq_false {f : FunctionDecl} {x : Fragment}
    (hx : x ∈ f.fragments.flatMap Fragment.spelledOut) : endsModule x = false := by
  have hitems {items : List Item} (hx : x ∈ fineCode f.name items) : endsModule x = false := by
    rcases cases_of_mem_fineCode hx with ⟨item, -, rfl⟩ | ⟨value, rfl⟩ | ⟨name, rfl⟩
    · cases item <;> rfl
    · rfl
    · rfl
  rw [flatMap_spelledOut] at hx
  simp only [List.mem_cons, List.mem_append, List.not_mem_nil, or_false] at hx
  rcases hx with rfl | rfl | hx | rfl | rfl | hx | rfl
  · rfl
  · rfl
  · exact hitems hx
  · rfl
  · rfl
  · exact hitems hx
  · rfl

theorem functions_spelledOut_eq {fs fs' : List FunctionDecl}
    (h : (fs.flatMap fun f => f.fragments.flatMap Fragment.spelledOut) =
      fs'.flatMap fun f => f.fragments.flatMap Fragment.spelledOut) :
    fs.map FunctionDecl.spelledOut = fs'.map FunctionDecl.spelledOut := by
  refine map_eq_of_flatMap_eq (P := fun _ => True) ?_ ?_ ?_ trivial trivial h
  · intro f _ _
    rw [FunctionDecl.flatMap_spelledOut]
    exact List.cons_ne_nil _ _
  · exact fun _ _ _ => trivial
  · intro f fs f' fs' _ _ h
    exact FunctionDecl.spelledOut_of_append h

theorem ModuleDecl.spelledOut_of_append {m m' : ModuleDecl} {rest rest' : List Fragment}
    (h : m.fragments.flatMap Fragment.spelledOut ++ rest =
      m'.fragments.flatMap Fragment.spelledOut ++ rest') :
    m.spelledOut = m'.spelledOut ∧ rest = rest' := by
  have hinner (m : ModuleDecl) :
      ∀ x ∈ m.functions.flatMap fun f => f.fragments.flatMap Fragment.spelledOut,
        (!endsModule x) = true := by
    intro x hx
    obtain ⟨f, -, hx⟩ := List.mem_flatMap.mp hx
    rw [FunctionDecl.endsModule_eq_false hx]
    rfl
  rw [flatMap_spelledOut, flatMap_spelledOut] at h
  simp only [List.cons_append, List.append_assoc, List.cons.injEq, Fragment.moduleOpen.injEq,
    List.nil_append] at h
  obtain ⟨hname, h⟩ := h
  obtain ⟨hfunctions, h⟩ :=
    append_inj_of_span (hinner m) (hinner m') (by simp [endsModule]) (by simp [endsModule]) h
  simp only [List.cons.injEq, Fragment.moduleClose.injEq] at h
  have hmapped := functions_spelledOut_eq hfunctions
  exact ⟨by simp only [ModuleDecl.spelledOut, hname, hmapped, h.1], h.2⟩

/-- The finest fragments of a program determine the finest form of the program. -/
theorem spelledOut_eq_of_fragments {program program' : List ModuleDecl}
    (h : (fragments program).flatMap Fragment.spelledOut =
      (fragments program').flatMap Fragment.spelledOut) :
    program.map ModuleDecl.spelledOut = program'.map ModuleDecl.spelledOut := by
  rw [fragments, fragments, List.flatMap_assoc, List.flatMap_assoc] at h
  refine map_eq_of_flatMap_eq (P := fun _ => True) ?_ ?_ ?_ trivial trivial h
  · intro m _ _
    rw [ModuleDecl.flatMap_spelledOut]
    exact List.cons_ne_nil _ _
  · exact fun _ _ _ => trivial
  · intro m ms m' ms' _ _ h
    exact ModuleDecl.spelledOut_of_append h

/-! The code of a program is that of its finest form. -/

section Rendering

variable (d : Dialect)

theorem Item.render_spelledOut (self : String) (item : Item) :
    String.join ((item.named self).spelledOut.map (Item.render d self)) =
      item.render d self := by
  have hdigits (digits : List Char) :
      (digits.map Item.digit).map (Item.render d self) =
        (digits.map Fragment.digit).map (Fragment.render d) := by
    rw [List.map_map, List.map_map]
    rfl
  have hfragment : (item.named self).spelledOut.map (Item.render d self) =
      (item.fragment self).spelledOut.map (Fragment.render d) := by
    cases item with
    | number value => exact hdigits _
    | name word => exact congrArg (_ :: ·) (hdigits _)
    | selfReference => exact congrArg (_ :: ·) (hdigits _)
    | text literal => rfl
    | mark m => rfl
  rw [hfragment, ← item.render_fragment self]
  exact Fragment.render_spelledOut d _

theorem FunctionDecl.render_spelledOut (f : FunctionDecl) :
    f.spelledOut.render d = f.render d := by
  have hbody : String.join (f.spelledOut.body.map (Item.render d f.name)) =
      String.join (f.body.map (Item.render d f.name)) := by
    simp only [FunctionDecl.spelledOut, FunctionDecl.named]
    induction f.body with
    | nil => rfl
    | cons item body ih =>
        rw [List.map_cons, List.flatMap_cons, List.map_append, String.join_append, ih,
          Item.render_spelledOut, List.map_cons, String.join_cons]
  exact congrArg (fun body => _ ++ body ++ ");\n") hbody

theorem render_spelledOut (program : List ModuleDecl) :
    render d (program.map ModuleDecl.spelledOut) = render d program := by
  have hmodule (m : ModuleDecl) : m.spelledOut.render d = m.render d := by
    simp only [ModuleDecl.render, ModuleDecl.spelledOut, List.map_map, Function.comp_def,
      FunctionDecl.render_spelledOut]
  simp only [render, List.map_map, Function.comp_def, hmodule]

end Rendering

/-- No number of the program directly follows a number or a name. -/
def NumbersStandApart (program : List ModuleDecl) : Prop :=
  ∀ m ∈ program, ∀ f ∈ m.functions, NumbersApart f.body

theorem map_eq_map_of_mem {α β γ : Type} {f : α → β} {g : α → γ} {xs ys : List α}
    (h : ∀ x ∈ xs, ∀ y ∈ ys, f x = f y → g x = g y) (hmap : xs.map f = ys.map f) :
    xs.map g = ys.map g := by
  induction xs generalizing ys with
  | nil =>
      cases ys with
      | nil => rfl
      | cons y ys => cases hmap
  | cons x xs ih =>
      cases ys with
      | nil => cases hmap
      | cons y ys =>
          obtain ⟨hfirst, hrest⟩ := List.cons_eq_cons.mp hmap
          have hg := h x List.mem_cons_self y List.mem_cons_self hfirst
          have hih := ih (fun x hx y hy =>
            h x (List.mem_cons_of_mem _ hx) y (List.mem_cons_of_mem _ hy)) hrest
          rw [List.map_cons, List.map_cons, hg, hih]

theorem FunctionDecl.named_eq_of_spelledOut_eq {f f' : FunctionDecl} (hf : NumbersApart f.body)
    (hf' : NumbersApart f'.body) (h : f.spelledOut = f'.spelledOut) : f.named = f'.named := by
  obtain ⟨hheading, hbody⟩ := FunctionDecl.mk.inj h
  have hname : f.name = f'.name := congrArg Heading.name hheading
  have hnamed : f.named.body = f'.named.body := by
    simp only [FunctionDecl.named, ← hname] at hbody ⊢
    exact Program.named_eq_of_spelledOut_eq f.name hf hf' hbody
  exact congrArg₂ FunctionDecl.mk hheading hnamed

theorem FunctionDecl.spelledOut_named (f : FunctionDecl) : f.named.spelledOut = f.spelledOut := by
  have hitem (item : Item) : (item.named f.name).named f.name = item.named f.name := by
    cases item <;> rfl
  simp only [FunctionDecl.spelledOut, FunctionDecl.named, List.map_map, Function.comp_def, hitem]

theorem spelledOut_eq_iff_named_eq {program program' : List ModuleDecl}
    (h : NumbersStandApart program) (h' : NumbersStandApart program') :
    program.map ModuleDecl.spelledOut = program'.map ModuleDecl.spelledOut ↔
      program.map ModuleDecl.named = program'.map ModuleDecl.named := by
  constructor
  · refine map_eq_map_of_mem fun m hm m' hm' heq => ?_
    obtain ⟨hname, hspelled, hentry⟩ := ModuleDecl.mk.inj heq
    have hfunctions : m.functions.map FunctionDecl.named = m'.functions.map FunctionDecl.named := by
      refine map_eq_map_of_mem (fun f hf f' hf' => ?_) hspelled
      exact FunctionDecl.named_eq_of_spelledOut_eq (h m hm f hf) (h' m' hm' f' hf')
    simp only [ModuleDecl.named, hname, hfunctions, hentry]
  · have hmodule (m : ModuleDecl) : m.named.spelledOut = m.spelledOut := by
      simp only [ModuleDecl.spelledOut, ModuleDecl.named, List.map_map, Function.comp_def,
        FunctionDecl.spelledOut_named]
    intro heq
    have hspelled := congrArg (List.map ModuleDecl.spelledOut) heq
    simpa only [List.map_map, Function.comp_def, hmodule] using hspelled

end Program

end KeywordLang
