/-!
Directories and files as a tree in memory. The view of a tree is `Node.at?`, which
says what stands at a place.
-/

namespace KeywordLang.Storage

/-- The place of a file or directory: the names on the way from the root. -/
abbrev Location := List String

/-- The content of a file. -/
abbrev Bytes := List UInt8

/-- The bytes of a text in UTF-8. -/
def Bytes.ofText (text : String) : Bytes :=
  text.toUTF8.data.toList

/-- The text whose bytes in UTF-8 these are, if there is one. -/
def Bytes.toText? (bytes : Bytes) : Option String :=
  String.fromUTF8? ⟨bytes.toArray⟩

/-- A file, or a directory with what stands in it under which name. -/
inductive Node where
  | file (content : Bytes)
  | directory (entries : List (String × Node))

namespace Node

def isDirectory : Node → Bool
  | .file _ => false
  | .directory _ => true

/-- What stands in a directory. In a file there is nothing. -/
def entries : Node → List (String × Node)
  | .file _ => []
  | .directory entries => entries

/-- What stands at a place below a node, if anything does. -/
def at? : Node → Location → Option Node
  | node, [] => some node
  | node, name :: rest =>
      match node.entries.lookup name with
      | some child => child.at? rest
      | none => none

/-- Puts a node at a place below another one, instead of what stood there. -/
def put (node : Node) : Location → Node → Node
  | [], new => new
  | name :: rest, new =>
      let child := (node.entries.lookup name).getD (.directory [])
      .directory ((name, child.put rest new) :: node.entries.filter (·.1 ≠ name))

@[simp]
theorem at?_put (node : Node) (place : Location) (new : Node) :
    (node.put place new).at? place = some new := by
  induction place generalizing node with
  | nil => rfl
  | cons name rest ih => simp [put, at?, entries, ih]

end Node

end KeywordLang.Storage
