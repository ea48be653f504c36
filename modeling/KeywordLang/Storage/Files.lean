import KeywordLang.Storage.FileTree

/-!
Access to files, wherever they are kept: a tree in memory serves as well as the
disk.
-/

namespace KeywordLang.Storage

/-- The elementary operations on files and directories. -/
structure Files (m : Type → Type) where
  readText : Path → m (Except StorageError String)
  writeText : Path → String → m (Except StorageError Unit)
  isDirectory : Path → m Bool
  /-- Makes one directory, in a directory that is there. -/
  makeDirectory : Path → m (Except StorageError Unit)

namespace Files

/-- The files of a tree in memory. -/
def ofTree : Files (StateM FileTree) where
  readText p := fun t => (t.readText p, t)
  writeText p text := fun t =>
    match t.writeBytes p (.ofText text) with
    | .ok t' => (.ok (), t')
    | .error e => (.error e, t)
  isDirectory p := fun t => (t.isDirectory p, t)
  makeDirectory p := fun t =>
    match t.makeDirectory p with
    | .ok t' => (.ok (), t')
    | .error e => (.error e, t)

section

variable {m : Type → Type} [Monad m] (files : Files m)

/-- Makes a directory unless it is there. -/
def ensureDirectory (p : Path) : m (Except StorageError Unit) := do
  match ← files.makeDirectory p with
  | .ok () => return .ok ()
  | .error e => return if ← files.isDirectory p then .ok () else .error e

/-- Makes the directory to which a path leads, whose pieces are given from the last
one on, together with those above it that are missing. -/
def makeDirectories : List String → m (Except StorageError Unit)
  | [] => return .ok ()
  | step :: above => do
      if Path.isHere step then makeDirectories above
      else
        let p : Path := ⟨(step :: above).reverse⟩
        match ← files.ensureDirectory p with
        | .error .notFound =>
            match ← makeDirectories above with
            | .ok () => files.ensureDirectory p
            | .error e => return .error e
        | result => return result

/-- Makes the directory that is to hold the last name of a path. -/
def makeParent (p : Path) : m (Except StorageError Unit) :=
  files.makeDirectories (p.pieces.reverse.dropWhile Path.isHere).tail

end

end Files

end KeywordLang.Storage
