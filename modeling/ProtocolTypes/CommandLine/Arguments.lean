import ProtocolTypes.Files.Path
import ProtocolTypes.Generation

/-!
# ProtocolTypes.CommandLine.Arguments

Reading the arguments of the command. An option takes its value from the same argument or from the
next one; what is wrong with a value shows only when the next option is read or the arguments end.
-/

namespace ProtocolTypes

/-- What the command is told to do. -/
structure Command where
  input : Path := ⟨"metaModel.json"⟩
  output : Option Path := none
  flattenBases : Bool := false
  omitDocs : Bool := false
  header : Option String := none
  verbosity : Nat := 0
deriving DecidableEq, Repr

namespace Command

def options (c : Command) : Options where
  flattenBases := c.flattenBases
  documented := !c.omitDocs
  header := c.header

def logLevel (c : Command) : String :=
  match c.verbosity with
  | 0 => "warn"
  | 1 => "info"
  | 2 => "debug"
  | _ => "trace"

end Command

namespace Arguments

/-! ## Options -/

inductive ValueOption where
  | input
  | output
  | header
deriving DecidableEq, Repr

inductive Flag where
  | flattenBases
  | omitDocs
  | verbose
  | help
  | version
deriving DecidableEq, Repr

inductive Known where
  | value (o : ValueOption)
  | flag (f : Flag)
deriving DecidableEq, Repr

def ofLong? : String → Option Known
  | "input" => some (.value .input)
  | "output" => some (.value .output)
  | "header" => some (.value .header)
  | "flatten-bases" => some (.flag .flattenBases)
  | "no-docs" => some (.flag .omitDocs)
  | "verbose" => some (.flag .verbose)
  | "help" => some (.flag .help)
  | "version" => some (.flag .version)
  | _ => none

def ofShort? : Char → Option Known
  | 'i' => some (.value .input)
  | 'o' => some (.value .output)
  | 'v' => some (.flag .verbose)
  | 'h' => some (.flag .help)
  | 'V' => some (.flag .version)
  | _ => none

/-- Why no command results. -/
inductive Stop where
  | help
  | version
  | unknown (argument : String)
  /-- An option without its value, or with an empty path for one. -/
  | missingValue (option : ValueOption)
  /-- A value for an option that takes none. -/
  | excessValue (option : Flag)
  | repeated (option : Known)
deriving DecidableEq, Repr

/-! ## State -/

structure State where
  input : Option String := none
  output : Option String := none
  header : Option String := none
  flattenBases : Bool := false
  omitDocs : Bool := false
  verbosity : Nat := 0
  /-- The last option that takes a value from another argument, and that value once it is there. -/
  pending : Option (ValueOption × Option String) := none
deriving DecidableEq, Repr

namespace State

/-- Gives an option its value, which it may have once only. -/
def assign (s : State) : ValueOption → String → Except Stop State
  | .input, v =>
    if s.input.isSome then .error (.repeated (.value .input))
    else if v.isEmpty then .error (.missingValue .input)
    else .ok { s with input := some v }
  | .output, v =>
    if s.output.isSome then .error (.repeated (.value .output))
    else if v.isEmpty then .error (.missingValue .output)
    else .ok { s with output := some v }
  | .header, v =>
    if s.header.isSome then .error (.repeated (.value .header))
    else .ok { s with header := some v }

/-- Assigns the pending value. -/
def settle (s : State) : Except Stop State :=
  match s.pending with
  | none => .ok s
  | some (o, none) => .error (.missingValue o)
  | some (o, some v) => { s with pending := none }.assign o v

def setFlag (s : State) : Flag → Except Stop State
  | .flattenBases =>
    if s.flattenBases then .error (.repeated (.flag .flattenBases))
    else .ok { s with flattenBases := true }
  | .omitDocs =>
    if s.omitDocs then .error (.repeated (.flag .omitDocs)) else .ok { s with omitDocs := true }
  | .verbose => .ok { s with verbosity := min 255 (s.verbosity + 1) }
  | .help => .error .help
  | .version => .error .version

def command (s : State) : Command where
  input := ⟨s.input.getD "metaModel.json"⟩
  output := s.output.map Path.mk
  flattenBases := s.flattenBases
  omitDocs := s.omitDocs
  header := s.header
  verbosity := s.verbosity

/-! ## Steps -/

def readFlag (s : State) (f : Flag) : Except Stop State := do
  (← s.settle).setFlag f

def readValue (s : State) (o : ValueOption) : Option String → Except Stop State
  | some v => do (← s.settle).assign o v
  | none => do return { (← s.settle) with pending := some (o, none) }

/-- An option in full, with or without a value behind an equals sign. -/
def readLong (s : State) (name : String) (value : Option String) : Except Stop State :=
  match ofLong? name, value with
  | some (.value o), v => s.readValue o v
  | some (.flag f), none => s.readFlag f
  | some (.flag f), some _ => .error (.excessValue f)
  | none, _ => .error (.unknown ("--" ++ name))

/-- Options of one letter. The first that takes a value takes the rest of the argument for it,
without an equals sign in front. -/
def readShort (s : State) : List Char → Except Stop State
  | [] => .ok s
  | c :: rest =>
    match ofShort? c with
    | some (.flag f) => do readShort (← s.readFlag f) rest
    | some (.value o) =>
      s.readValue o <|
        match rest with
        | [] => none
        | '=' :: v => some (String.ofList v)
        | v => some (String.ofList v)
    | none => .error (.unknown ("-" ++ String.singleton c))

/-- An argument that is no option is the value of the pending one. -/
def readPlain (s : State) (v : String) : Except Stop State :=
  match s.pending with
  | some (o, none) => .ok { s with pending := some (o, some v) }
  | _ => .error (.unknown v)

def readOption (s : State) (cs : List Char) : Except Stop State :=
  match cs with
  | '-' :: '-' :: long =>
    s.readLong (String.ofList (long.takeWhile (· ≠ '=')))
      (match long.dropWhile (· ≠ '=') with
        | [] => none
        | _ :: v => some (String.ofList v))
  | '-' :: c :: short => s.readShort (c :: short)
  | _ => s.readPlain (String.ofList cs)

end State

/-- Reads the arguments one by one. Behind two dashes no option is read, and there are no other
arguments to the command. -/
def readAll (s : State) : List String → Except Stop State
  | [] => s.settle
  | "--" :: [] => s.settle
  | "--" :: v :: _ => .error (.unknown v)
  | a :: rest => do readAll (← s.readOption a.toList) rest

/-- The command that the arguments describe. -/
def parse (args : List String) : Except Stop Command :=
  State.command <$> readAll {} args

/-! ## Texts -/

def help : String :=
  "\n".intercalate
    ["Generate serde-ready Rust types from LSP meta models",
      "",
      "Usage: metagen [OPTIONS]",
      "",
      "Options:",
      "  -i, --input <INPUT>    Path to the meta model JSON document [default: metaModel.json]",
      "  -o, --output <OUTPUT>  Output file for the generated code (stdout when omitted)",
      "      --flatten-bases    Copy inherited properties into each struct " ++
        "instead of flattening bases",
      "      --no-docs          Omit documentation comments",
      "      --header <HEADER>  Extra line for the generated file header",
      "  -v, --verbose...       Increase verbosity (-v, -vv, -vvv)",
      "  -h, --help             Print help",
      "  -V, --version          Print version",
      ""]

def version : String :=
  "metagen 0.1.0\n"

end Arguments
end ProtocolTypes
