import KeywordLang.Storage.Node
import KeywordLang.Storage.Path

/-!
A tree of directories and files with a directory to work in, and the rules by which
paths are followed and files are read and written.
-/

namespace KeywordLang.Storage

/-- Why a file or directory is not available. -/
inductive StorageError where
  | notFound
  | alreadyExists
  | notDirectory
  | isDirectory
  | nameTooLong
  /-- The bytes of a file are no text in UTF-8. -/
  | notText
  /-- Any other failure, in the words of the system. -/
  | other (text : String)
deriving DecidableEq, Repr

/-- The text of an error, with its number on the system. -/
def StorageError.message : StorageError → String
  | .notFound => "No such file or directory (os error 2)"
  | .alreadyExists => "File exists (os error 17)"
  | .notDirectory => "Not a directory (os error 20)"
  | .isDirectory => "Is a directory (os error 21)"
  | .nameTooLong => "File name too long (os error 36)"
  | .notText => "stream did not contain valid UTF-8"
  | .other text => text

/-- The most bytes that a name in a directory has. -/
def maxNameSize : Nat := 255

/-- The most bytes that a path has. -/
def maxPathSize : Nat := 4095

/-- Where a walk through a tree has come to. -/
structure Spot where
  node : Node
  /-- The directories above, the nearest first, each with the name under which the
  walk has left it. -/
  above : List (String × Node) := []

namespace Spot

def location (s : Spot) : Location :=
  (s.above.map (·.1)).reverse

/-- The directory above. Above the root there is the root. -/
def up (s : Spot) : Spot :=
  match s.above with
  | [] => s
  | (_, node) :: above => { node, above }

/-- What stands under a name in the directory of a spot. -/
def look (s : Spot) (name : String) : Except StorageError (Option Node) :=
  match s.node with
  | .file _ => .error .notDirectory
  | .directory entries =>
      if maxNameSize < name.utf8ByteSize then .error .nameTooLong
      else .ok (entries.lookup name)

/-- Follows one step from a directory. -/
def descend (s : Spot) (step : String) : Except StorageError Spot := do
  let found ← s.look step
  if Path.isHere step then return s
  else if Path.isUp step then return s.up
  else
    match found with
    | some node => return { node, above := (step, s.node) :: s.above }
    | none => .error .notFound

end Spot

structure FileTree where
  root : Node := .directory []
  /-- Where paths that are not absolute begin. -/
  home : Location := []

namespace FileTree

/-- Puts a node at a place, instead of what stood there. -/
def put (t : FileTree) (place : Location) (node : Node) : FileTree :=
  { t with root := t.root.put place node }

/-- Refuses paths that lead nowhere, whatever the tree. -/
def checkPath (p : Path) : Except StorageError Unit :=
  if p.text = "" then .error .notFound
  else if maxPathSize < p.text.utf8ByteSize then .error .nameTooLong
  else .ok ()

/-- Follows steps from where a path begins. -/
def follow (t : FileTree) (p : Path) (steps : List String) : Except StorageError Spot :=
  let start := if p.isAbsolute then [] else t.home
  (start ++ steps).foldlM Spot.descend { node := t.root }

/-- The spot to which a path leads. -/
def locate (t : FileTree) (p : Path) : Except StorageError Spot := do
  checkPath p
  t.follow p p.pieces

/-- The last step of a path, with the directory in which it is to be taken. A path
of nothing but slashes has none. -/
def locateLast (t : FileTree) (p : Path) : Except StorageError (Option (Spot × String)) := do
  checkPath p
  match p.pieces.reverse.dropWhile (· = "") with
  | [] => return none
  | step :: above =>
      let spot ← t.follow p (above.reverse ++ ["."])
      return some (spot, step)

def isDirectory (t : FileTree) (p : Path) : Bool :=
  match t.locate p with
  | .ok spot => spot.node.isDirectory
  | .error _ => false

/-- Makes one directory, at a place where nothing stands yet. -/
def makeDirectory (t : FileTree) (p : Path) : Except StorageError FileTree := do
  match ← t.locateLast p with
  | none => .error .alreadyExists
  | some (spot, name) =>
      let found ← spot.look name
      if Path.isHere name || Path.isUp name || found.isSome then .error .alreadyExists
      else return t.put (spot.location ++ [name]) (.directory [])

def readBytes (t : FileTree) (p : Path) : Except StorageError Bytes := do
  match (← t.locate p).node with
  | .file content => return content
  | .directory _ => .error .isDirectory

def readText (t : FileTree) (p : Path) : Except StorageError String := do
  match Bytes.toText? (← t.readBytes p) with
  | some text => return text
  | none => .error .notText

/-- Writes a file, which may be new, into a directory. -/
def writeBytes (t : FileTree) (p : Path) (content : Bytes) :
    Except StorageError FileTree := do
  match ← t.locateLast p with
  | none => .error .isDirectory
  | some (spot, name) =>
      if p.endsInSlash || Path.isHere name || Path.isUp name then .error .isDirectory
      else
        match ← spot.look name with
        | some (.directory _) => .error .isDirectory
        | _ => return t.put (spot.location ++ [name]) (.file content)

end FileTree

end KeywordLang.Storage
