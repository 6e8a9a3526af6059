import ProtocolTypes.CommandLine.Run

/-!
# ProtocolTypes.Main

The command itself.
-/

namespace ProtocolTypes

def FileError.ofSystem : IO.Error → FileError
  | .noFileOrDirectory .. => .missing
  | .alreadyExists .. => .alreadyExists
  | e => .other (toString e)

/-- The files of the system. -/
def systemFiles : FileAccess IO where
  read p := do
    try return .ok (← IO.FS.readBinFile p.text).data.toList
    catch e => return .error (.ofSystem e)
  createDirectories p := do
    try return .ok (← IO.FS.createDirAll p.text)
    catch e => return .error (.ofSystem e)
  write p content := do
    try return .ok (← IO.FS.writeBinFile p.text ⟨content.toArray⟩)
    catch e => return .error (.ofSystem e)

end ProtocolTypes

open ProtocolTypes

def main (args : List String) : IO UInt32 := do
  match Arguments.parse args with
  | .error .help =>
    IO.print Arguments.help
    return 0
  | .error .version =>
    IO.print Arguments.version
    return 0
  | .error _ =>
    IO.eprint Arguments.help
    return 2
  | .ok c =>
    match ← c.run systemFiles with
    | .ok code =>
      IO.print (code.getD "")
      return 0
    | .error e =>
      IO.eprintln ("error: " ++ e.message)
      return 1
