import KeywordLang.Storage.Files

/-!
What a run of the program acts on: files, the standard output and the standard error
output. A machine in memory serves as well as the system.
-/

namespace KeywordLang.Command

open Storage (Bytes Files FileTree StorageError)

/-- What a run acts on. -/
structure Host (m : Type → Type) extends Files m where
  /-- Writes a text to the standard output. -/
  print : String → m (Except StorageError Unit)
  /-- Writes a text to the standard error output. -/
  printError : String → m Unit

/-- A machine in memory: its files, and what has come out of it so far. -/
structure World where
  tree : FileTree
  stdout : Bytes := []
  stderr : String := ""

/-- How a standard output takes the bytes that are written to it: all of them, or so many
until it fails. -/
abbrev Outlet := Bytes → Option (Nat × StorageError)

namespace World

def onTree {α : Type} (action : StateM FileTree α) : StateM World α := fun w =>
  let (a, tree) := action.run w.tree
  (a, { w with tree })

def write (outlet : Outlet) (bytes : Bytes) : StateM World (Except StorageError Unit) := fun w =>
  match outlet bytes with
  | none => (.ok (), { w with stdout := w.stdout ++ bytes })
  | some (count, cause) => (.error cause, { w with stdout := w.stdout ++ bytes.take count })

end World

/-- A machine in memory with a given standard output. -/
def Host.inMemory (outlet : Outlet) : Host (StateM World) where
  readText p := World.onTree (Files.ofTree.readText p)
  writeText p text := World.onTree (Files.ofTree.writeText p text)
  isDirectory p := World.onTree (Files.ofTree.isDirectory p)
  makeDirectory p := World.onTree (Files.ofTree.makeDirectory p)
  print text := World.write outlet (.ofText text)
  printError text := modify fun w => { w with stderr := w.stderr ++ text }

end KeywordLang.Command
