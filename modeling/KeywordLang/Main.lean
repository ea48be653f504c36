import KeywordLang.Command.Run

namespace KeywordLang.Command

open Storage (Files StorageError)

/-- The failure of an access to the files of the system. Its number may come with
either sign. -/
def storageError : IO.Error → StorageError
  | .noFileOrDirectory .. => .notFound
  | .alreadyExists .. => .alreadyExists
  | .inappropriateType _ code details =>
      if code = 20 ∨ code = -20 then .notDirectory
      else if code = 21 ∨ code = -21 then .isDirectory
      else .other details
  | .invalidArgument _ code details =>
      if code = 36 ∨ code = -36 then .nameTooLong else .other details
  | e => .other (toString e)

/-- Carries out an access to the files of the system. -/
def attempt {α : Type} (action : IO α) : IO (Except StorageError α) := do
  try return .ok (← action)
  catch e => return .error (storageError e)

def systemFiles : Files IO where
  readText path := do
    match ← attempt (IO.FS.readBinFile path.text) with
    | .error e => return .error e
    | .ok bytes =>
        match String.fromUTF8? bytes with
        | some text => return .ok text
        | none => return .error .notText
  writeText path text := attempt (IO.FS.writeFile path.text text)
  isDirectory path := do
    match ← attempt (IO.FS.realPath path.text) with
    | .ok place => place.isDir
    | .error _ => return false
  makeDirectory path := attempt (IO.FS.createDir path.text)

/-- The system as it is. -/
def system : Host IO where
  toFiles := systemFiles
  print text := attempt do
    let stdout ← IO.getStdout
    stdout.putStr text
    stdout.flush
  printError text := IO.eprint text

end KeywordLang.Command

def main (arguments : List String) : IO UInt32 :=
  KeywordLang.Command.run KeywordLang.Command.system arguments
