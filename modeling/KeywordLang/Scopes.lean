import KeywordLang.Brackets

/-!
The names that are in force at some point of a program.

Three scopes are visible: the global one, with the built-ins and every module
closed so far, that of the functions of the open module, and that of the
parameters of the open function. At most one module and one function are open.
-/

namespace KeywordLang

/-- Where a name is defined. -/
inductive ScopeKind where
  | parameter
  | function
  | global
deriving DecidableEq, Repr

/-- The names that a program has defined so far, and what it has open. The
built-ins belong to the dialect. -/
structure Scopes where
  /-- The modules that have been closed. -/
  modules : List String := []
  functions : List String := []
  parameters : List String := []
  openModule : Option String := none
  openFunction : Option String := none
  brackets : Brackets := {}
deriving DecidableEq, Repr

namespace Scopes

/-- Refuses names beyond the limit of the dialect. -/
def checkLength (d : Dialect) (name : String) : Except Fault Unit :=
  if name.length ≤ d.maxNameLength then .ok ()
  else .error (.nameTooLong name d.maxNameLength)

/-- Whether a name is known in every module. -/
def isGlobal (d : Dialect) (s : Scopes) (name : String) : Bool :=
  d.isBuiltin name || s.modules.contains name

/-- Whether a name can no longer be defined. -/
def isTaken (d : Dialect) (s : Scopes) (name : String) : Bool :=
  d.isReserved name || s.isGlobal d name || s.functions.contains name ||
    s.parameters.contains name || s.openModule == some name ||
    s.openFunction == some name

def checkNew (d : Dialect) (s : Scopes) (name : String) : Except Fault Unit := do
  checkLength d name
  if s.isTaken d name then .error (.alreadyDefined name) else .ok ()

def declareGlobal (d : Dialect) (s : Scopes) (name : String) : Except Fault Scopes := do
  s.checkNew d name
  return { s with modules := name :: s.modules }

def declareFunction (d : Dialect) (s : Scopes) (name : String) : Except Fault Scopes := do
  s.checkNew d name
  return { s with functions := name :: s.functions }

def declareParameter (d : Dialect) (s : Scopes) (name : String) : Except Fault Scopes := do
  s.checkNew d name
  return { s with parameters := name :: s.parameters }

/-- Finds the scope of a name, the innermost one first. -/
def resolve (d : Dialect) (s : Scopes) (name : String) : Except Fault ScopeKind := do
  checkLength d name
  if s.parameters.contains name then .ok .parameter
  else if s.functions.contains name then .ok .function
  else if s.isGlobal d name then .ok .global
  else .error (.undefinedName name)

/-- Opens a module under a new name. -/
def beginModule (d : Dialect) (s : Scopes) (name : String) : Except Fault Scopes :=
  match s.openModule with
  | some current => .error (.moduleAlreadyOpen current)
  | none => do
      s.checkNew d name
      return { s with openModule := some name }

/-- A module may export its own functions and every global name. -/
def checkExport (d : Dialect) (s : Scopes) (entry : String) : Except Fault Unit := do
  checkLength d entry
  if s.functions.contains entry || s.isGlobal d entry then .ok ()
  else .error (.undefinedName entry)

/-- Closes the open module, which exports `entry`, and makes its name global. The
answer is that name. The module is left even if its name cannot be made global. -/
def endModule (d : Dialect) (s : Scopes) (entry : String) :
    Except Fault String × Scopes :=
  match s.checkExport d entry, s.openModule with
  | .error fault, _ => (.error fault, s)
  | .ok (), none => (.error (.unexpected .openModule (.excerpt entry)), s)
  | .ok (), some name =>
      let left := { s with functions := [], openModule := none }
      match left.declareGlobal d name with
      | .error fault => (.error fault, left)
      | .ok closed => (.ok name, closed)

/-- Opens a function, which has no parameters yet. -/
def beginFunction (s : Scopes) (name : String) : Scopes :=
  { s with parameters := [], openFunction := some name, brackets := {} }

/-- Closes the open function once its parentheses match. -/
def endFunction (s : Scopes) : Except Fault Scopes := do
  s.brackets.ensureBalanced
  return { s with parameters := [], openFunction := none }

def openBracket (s : Scopes) : Scopes :=
  { s with brackets := s.brackets.push }

def closeBracket (s : Scopes) : Except Fault Scopes := do
  return { s with brackets := ← s.brackets.pop }

end Scopes

inductive ScopeRequest where
  | declareGlobal (name : String)
  | declareFunction (name : String)
  | declareParameter (name : String)
  | resolve (name : String)
  | beginModule (name : String)
  | endModule (entry : String)
  | beginFunction (name : String)
  | endFunction
  | openBracket
  | closeBracket
deriving DecidableEq, Repr

/-- What a granted request answers. -/
inductive ScopeAnswer where
  | done
  | scope (kind : ScopeKind)
  | closedModule (name : String)
deriving DecidableEq, Repr

namespace Scopes

/-- The answer to a request that changes everything or nothing. -/
def allOrNothing (s : Scopes) : Except Fault Scopes → Except Fault ScopeAnswer × Scopes
  | .ok s' => (.ok .done, s')
  | .error fault => (.error fault, s)

/-- Serves a request: its answer, and the scopes after it, whether it is granted
or not. -/
def serve (d : Dialect) (s : Scopes) : ScopeRequest → Except Fault ScopeAnswer × Scopes
  | .declareGlobal name => s.allOrNothing (s.declareGlobal d name)
  | .declareFunction name => s.allOrNothing (s.declareFunction d name)
  | .declareParameter name => s.allOrNothing (s.declareParameter d name)
  | .resolve name => ((s.resolve d name).map .scope, s)
  | .beginModule name => s.allOrNothing (s.beginModule d name)
  | .endModule entry =>
      let (answer, s') := s.endModule d entry
      (answer.map .closedModule, s')
  | .beginFunction name => (.ok .done, s.beginFunction name)
  | .endFunction => s.allOrNothing s.endFunction
  | .openBracket => (.ok .done, s.openBracket)
  | .closeBracket => s.allOrNothing s.closeBracket

end Scopes

end KeywordLang
