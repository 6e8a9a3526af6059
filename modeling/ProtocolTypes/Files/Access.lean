import ProtocolTypes.Files.Path

/-!
# ProtocolTypes.Files.Access

What a program may do with files, and how it can fail.
-/

namespace ProtocolTypes

inductive FileError where
  | missing
  | alreadyExists
  | notDirectory
  | isDirectory
  | nullInPath
  /-- A failure known by its description only. -/
  | other (description : String)
deriving DecidableEq, Repr

namespace FileError

def message : FileError → String
  | .missing => "No such file or directory (os error 2)"
  | .alreadyExists => "File exists (os error 17)"
  | .notDirectory => "Not a directory (os error 20)"
  | .isDirectory => "Is a directory (os error 21)"
  | .nullInPath => "file name contained an unexpected NUL byte"
  | .other description => description

end FileError

/-- Access to files in some context of effects. -/
structure FileAccess (m : Type → Type) where
  read : Path → m (Except FileError (List UInt8))
  /-- Creates a directory and those above it, as far as they are missing. -/
  createDirectories : Path → m (Except FileError Unit)
  /-- Replaces a file or creates it. -/
  write : Path → List UInt8 → m (Except FileError Unit)

end ProtocolTypes
