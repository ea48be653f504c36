import KeywordLang.Proofs.ProgramGrammar

namespace KeywordLang.Program

def Item.fragment (self : String) : Item → Fragment
  | .number value => .number value
  | .text literal => .text literal
  | .name word => .symbol word
  | .selfReference => .symbol self
  | .mark m => .mark m

def Heading.fragments (h : Heading) : List Fragment :=
  [.functionOpen h.name, .mark .openParen] ++
    (h.parameters.map .symbol).intersperse (.mark .comma) ++ [.mark .closeParen]

def FunctionDecl.fragments (f : FunctionDecl) : List Fragment :=
  f.toHeading.fragments ++ .assign :: f.body.map (Item.fragment f.name) ++ [.functionClose]

def ModuleDecl.fragments (m : ModuleDecl) : List Fragment :=
  .moduleOpen m.name :: m.functions.flatMap FunctionDecl.fragments ++ [.moduleClose m.entry]

def fragments (program : List ModuleDecl) : List Fragment :=
  program.flatMap ModuleDecl.fragments

theorem map_intersperse {α β : Type} (f : α → β) (sep : α) (xs : List α) :
    (xs.intersperse sep).map f = (xs.map f).intersperse (f sep) := by
  induction xs with
  | nil => rfl
  | cons x xs ih =>
      cases xs with
      | nil => rfl
      | cons y ys => exact congrArg (f x :: f sep :: ·) ih

variable {d : Dialect}

theorem Item.render_fragment (self : String) (item : Item) :
    (item.fragment self).render d = item.render d self := by
  cases item <;> rfl

theorem FunctionDecl.render_fragments (f : FunctionDecl) :
    Code.render d f.fragments = f.render d := by
  have hparameters : ((f.parameters.map Fragment.symbol).intersperse (.mark .comma)).map
      (Fragment.render d) = (f.parameters.map (Code.symbol d)).intersperse "," := by
    rw [map_intersperse, List.map_map]
    rfl
  have hbody : (f.body.map (Item.fragment f.name)).map (Fragment.render d) =
      f.body.map (Item.render d f.name) := by
    rw [List.map_map]
    apply List.map_congr_left
    intro item _
    exact item.render_fragment f.name
  simp only [Code.render, FunctionDecl.fragments, Heading.fragments, List.map_append,
    List.map_cons, hparameters, hbody, String.join_append, String.join_cons]
  apply String.ext
  simp [FunctionDecl.render, Fragment.render, Mark.text]

theorem render_flatMap {α : Type} {g : α → List Fragment} {r : α → String}
    (h : ∀ x, Code.render d (g x) = r x) (xs : List α) :
    Code.render d (xs.flatMap g) = String.join (xs.map r) := by
  induction xs with
  | nil => rfl
  | cons x xs ih =>
      rw [List.flatMap_cons, Code.render_append, h, ih, List.map_cons, String.join_cons]

theorem ModuleDecl.render_fragments (m : ModuleDecl) :
    Code.render d m.fragments = m.render d := by
  have hfunctions := render_flatMap (d := d) FunctionDecl.render_fragments m.functions
  rw [Code.render] at hfunctions
  simp only [Code.render, ModuleDecl.fragments, List.map_append, List.map_cons,
    List.cons_append, hfunctions, String.join_append, String.join_cons]
  apply String.ext
  simp [ModuleDecl.render, Fragment.render]

theorem render_fragments (program : List ModuleDecl) :
    Code.render d (fragments program) = render d program :=
  render_flatMap ModuleDecl.render_fragments program

end KeywordLang.Program
