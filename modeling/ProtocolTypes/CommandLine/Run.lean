import ProtocolTypes.CommandLine.Arguments

/-!
# ProtocolTypes.CommandLine.Run

Running the command: the meta model is read, the source file made, and written only once it is
complete.
-/

namespace ProtocolTypes

/-! ## Errors -/

/-- The message followed by those of its causes. -/
def LoadError.chain : LoadError → String
  | .unreadable path error => (unreadable path error).message ++ ": " ++ error.message
  | .invalid error => error.message

/-- The message followed by those of its causes. -/
def GenerationError.chain : GenerationError → String
  | .loading error => (loading error).message ++ ": " ++ error.chain
  | .mapping (.reference error) =>
    (GenerationError.mapping (.reference error)).message ++ ": " ++ error.message
  | error => error.message

inductive RunError where
  | loading (path : Path) (error : LoadError)
  | generating (error : GenerationError)
  | creating (directory : Path) (error : FileError)
  | writing (path : Path) (error : FileError)

namespace RunError

def message : RunError → String
  | .loading path error => "failed to load meta model from " ++ path.text ++ ": " ++ error.chain
  | .generating error => "code generation failed: " ++ error.chain
  | .creating directory error => "failed to create " ++ directory.text ++ ": " ++ error.message
  | .writing path error =>
    "failed to write generated code to " ++ path.text ++ ": " ++ error.message

end RunError

/-! ## Steps -/

variable {m : Type → Type} [Monad m]

namespace Command

/-- The directory that has to be there before a file is written. -/
def outputDirectory? (output : Path) : Option Path :=
  output.parent?.filter fun p => !p.isEmpty

/-- The content of the source file. -/
def source (files : FileAccess m) (c : Command) : m (Except RunError String) := do
  match ← MetaModel.load files c.input with
  | .error e => return .error (.loading c.input e)
  | .ok model => return (model.generate c.options).mapError .generating

def store (files : FileAccess m) (output : Path) (code : String) : m (Except RunError Unit) := do
  if let some directory := outputDirectory? output then
    if let .error e ← files.createDirectories directory then
      return .error (.creating directory e)
  return (← files.write output code.toUTF8.data.toList).mapError (.writing output)

/-- The source file as text where it was not written. -/
def run (files : FileAccess m) (c : Command) : m (Except RunError (Option String)) := do
  match ← c.source files with
  | .error e => return .error e
  | .ok code =>
    match c.output with
    | none => return .ok (some code)
    | some output => return (← store files output code).map fun _ => none

end Command
end ProtocolTypes
