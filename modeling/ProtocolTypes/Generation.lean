import ProtocolTypes.Decoding.Document
import ProtocolTypes.Files.Access
import ProtocolTypes.Mapping.Declarations
import ProtocolTypes.Source.Render

/-!
# ProtocolTypes.Generation

From a written meta model to a source file.
-/

namespace ProtocolTypes

structure Options extends MappingOptions where
  /-- Further lines for the head of the file. -/
  header : Option String := none
deriving DecidableEq, Repr

/-! ## Errors -/

inductive LoadError where
  | unreadable (path : Path) (error : FileError)
  | invalid (error : MetaModel.Invalid)

namespace LoadError

def message : LoadError → String
  | .unreadable path error => "cannot read meta model '" ++ path.text ++ "': " ++ error.message
  | .invalid error => error.message

end LoadError

inductive GenerationError where
  | loading (error : LoadError)
  | mapping (error : MappingError)
  | rendering (error : Source.RenderError)

namespace GenerationError

def message : GenerationError → String
  | .loading error => "meta model parse error: " ++ error.message
  | .mapping error => error.message
  | .rendering error => error.message

end GenerationError

/-! ## Generation -/

namespace MetaModel

/-- The source file for a meta model. -/
def generate (m : MetaModel) (o : Options) : Except GenerationError String := do
  let decls ← (m.targetDecls o.toMappingOptions).mapError .mapping
  (Source.file m.version o.header decls).mapError .rendering

def load {n : Type → Type} [Monad n] (files : FileAccess n) (path : Path) :
    n (Except LoadError MetaModel) := do
  match ← files.read path with
  | .error e => return .error (.unreadable path e)
  | .ok bytes => return (parseBytes bytes).mapError .invalid

end MetaModel

/-- The source file for the text of a meta model. -/
def generate (input : String) (o : Options) : Except GenerationError String :=
  match MetaModel.parseText input with
  | .error e => .error (.loading (.invalid e))
  | .ok m => m.generate o

/-- The source file for a meta model in a file. -/
def generateFile {n : Type → Type} [Monad n] (files : FileAccess n) (path : Path) (o : Options) :
    n (Except GenerationError String) := do
  match ← MetaModel.load files path with
  | .error e => return .error (.loading e)
  | .ok m => return m.generate o

end ProtocolTypes
