namespace KeywordLang.Storage

/-- A path: the pieces of its text between the slashes. A piece names a step, and
one that is empty, like a single dot, leads nowhere else. -/
structure Path where
  pieces : List String
deriving DecidableEq, Repr

namespace Path

/-- The pieces of a text between its slashes. -/
def splitSlashes (cs : List Char) : List (List Char) :=
  cs.foldr (fun c pieces =>
    if c = '/' then [] :: pieces
    else
      match pieces with
      | [] => [[c]]
      | piece :: rest => (c :: piece) :: rest) [[]]

def parse (text : String) : Path where
  pieces := (splitSlashes text.toList).map String.ofList

def text (p : Path) : String :=
  String.intercalate "/" p.pieces

/-- Whether a path begins with a slash, and so at the root. -/
def isAbsolute (p : Path) : Bool :=
  match p.pieces with
  | "" :: _ :: _ => true
  | _ => false

/-- Whether a path ends in a slash, and so can only mean a directory. -/
def endsInSlash (p : Path) : Bool :=
  match p.pieces.reverse with
  | "" :: _ :: _ => true
  | _ => false

/-- Whether a step stays where it begins. -/
def isHere (step : String) : Bool :=
  step == "" || step == "."

def isUp (step : String) : Bool :=
  step == ".."

end Path

end KeywordLang.Storage
