import ProtocolTypes.Binary64.Decimal
import ProtocolTypes.Identifier.Spelling
import ProtocolTypes.Source.Item
import ProtocolTypes.Target.Declaration
import ProtocolTypes.Text.Lines

/-!
# ProtocolTypes.Source.Render

Declarations as items of a source file, and the file with its header.
-/

namespace ProtocolTypes
namespace Source

open Identifier Target

/-! ## Errors -/

inductive RenderError where
  | notIdentifier (error : NotIdentifier)
  /-- A constant that no literal stands for. -/
  | notFinite (constant : String)
deriving DecidableEq, Repr

namespace RenderError

def message : RenderError → String
  | .notIdentifier error => error.message
  | .notFinite constant => "render error: constant '" ++ constant ++ "' has a non-finite value"

end RenderError

abbrev Rendered := Except RenderError

def ident (name : String) : Rendered String :=
  match spell name with
  | .ok i => .ok i.spelling
  | .error e => .error (.notIdentifier e)

/-! ## Types -/

def generic (name : String) (arguments : List Layout) : Layout :=
  .bracketed (name ++ "<") ">" .onLines arguments

def primitive (p : Primitive) : Layout :=
  .text p.spelling

/-- Text of a wrapper is borrowed where it comes from a constant. -/
def carrier : Primitive → Layout
  | .string => generic "::std::borrow::Cow" [.text "'static", .text "str"]
  | p => primitive p

/-- A tuple of one needs its comma. -/
def tuple : List Layout → Layout
  | [] => .text "()"
  | [a] => .bracketed "(" ")" .always [a]
  | items => .bracketed "(" ")" .onLines items

mutual

def type : TargetType → Rendered Layout
  | .primitive p => return primitive p
  | .constrained base _ => return primitive base
  | .symbol name => return .text (← ident name)
  | .list element => return generic "Vec" [← type element]
  | .map key value => do
    let k ← type key
    let v ← type value
    return generic "::std::collections::HashMap" [k, v]
  | .tuple items => return tuple (← types items)
  | .option inner => return generic "Option" [← type inner]
  | .boxed inner => return generic "Box" [← type inner]

def types : List TargetType → Rendered (List Layout)
  | [] => return []
  | t :: rest => do
    let a ← type t
    return a :: (← types rest)

end

/-! ## Attributes -/

/-- A line of documentation stands one blank behind its mark, and an empty one has none. -/
def docAttribute (line : String) : Attribute :=
  .doc (if line.isEmpty then "" else " " ++ line)

def setting (name value : String) : Layout :=
  .text (name ++ " = " ++ Text.Quoted.literal value)

def documentation (d : Docs) : List Attribute :=
  d.lines.map docAttribute ++
    match d.deprecated with
    | some note => [.list "deprecated" [setting "note" note]]
    | none => []

/-- How a member or type is written in messages. -/
def codec (arguments : List Layout) : Attribute :=
  .list "serde" arguments

def derives : Attribute :=
  .list "derive"
    [.text "Debug", .text "Clone", .text "PartialEq", .text "Serialize", .text "Deserialize"]

/-! ## Members -/

/-- A sentence that lists the values of a constrained type. -/
def valuesNote (values : List LiteralValue) : String :=
  let quoted := values.map fun v => "\x60" ++ v.describe ++ "\x60"
  match quoted with
  | [one] => "Always " ++ one ++ "."
  | many => "One of " ++ ", ".intercalate many ++ "."

/-- The documentation with a further paragraph. -/
def addNote (note : String) (d : Docs) : Docs :=
  { d with text := some (match d.text with
    | some text => text ++ "\n\n" ++ note
    | none => note) }

/-- The documentation of a field; the values of a constrained type are listed in it. -/
def fieldDocs (f : Field) : Docs :=
  match f.type.constraint? with
  | some values => addNote (valuesNote values) f.docs
  | none => f.docs

/-- A field that may be absent is left out of a message where it has no value. -/
def absence (f : Field) : List Attribute :=
  if f.optional && f.type.isOption then
    [codec [.text "default", setting "skip_serializing_if" "Option::is_none"]]
  else []

def base (b : Base) : Rendered Member := do
  let name ← ident b.ident
  let t ← type b.type
  return ⟨[codec [.text "flatten"]], .text ("pub " ++ name ++ ": ") ++ t⟩

def field (f : Field) : Rendered Member := do
  let name ← ident f.ident
  let t ← type f.type
  return ⟨documentation (fieldDocs f) ++ codec [setting "rename" f.wireName] :: absence f,
    .text ("pub " ++ name ++ ": ") ++ t⟩

def variant (v : Variant) : Rendered Member := do
  let name ← ident v.ident
  match v.type with
  | some t => return ⟨[], .bracketed (name ++ "(") ")" .onLines [← type t]⟩
  | none => return ⟨[], .text name⟩

/-! ## Items -/

/-- The literal for a constant; a negative zero has no sign. -/
def literal (name : String) : ConstValue → Rendered Layout
  | .int v => return .text (toString v.toInt)
  | .uint v => return .text (toString v.toNat)
  | .float v =>
    if !v.isFinite then throw (.notFinite name)
    else return .text ((if v.isNegative && !v.isZero then "-" else "") ++ v.positional)
  | .text s =>
    return .bracketed "::std::borrow::Cow::Borrowed(" ")" .onLines [.text (Text.Quoted.literal s)]

def constant (owner : String) (c : ConstDecl) : Rendered Item := do
  let name ← ident c.ident
  let value ← literal c.ident c.value
  return .statement (documentation c.docs)
    (.text ("pub const " ++ name ++ ": " ++ owner ++ " = ") ++
      .bracketed (owner ++ "(") ")" .onLines [value])

def typeItem (d : TypeDecl) : Rendered Item := do
  let name ← ident d.ident
  let docs := documentation d.docs
  match d.spec with
  | .record bases fields =>
    let bases ← bases.mapM base
    let fields ← fields.mapM field
    return .braced (docs ++ [derives]) (.text ("pub struct " ++ name)) (bases ++ fields)
  | .union variants =>
    return .braced (docs ++ [derives, codec [.text "untagged"]]) (.text ("pub enum " ++ name))
      (← variants.mapM variant)
  | .synonym t => return .statement docs (.text ("pub type " ++ name ++ " = ") ++ (← type t))
  | .newtype p =>
    return .statement (docs ++ [derives, codec [.text "transparent"]])
      (.bracketed ("pub struct " ++ name ++ "(") ")" .onLines [.text "pub " ++ carrier p])

def declItems : Decl → Rendered (List Item)
  | .type d => return [← typeItem d]
  | .constants b => do
    let owner ← ident b.owner
    b.constants.mapM (constant owner)

/-! ## The file -/

/-- Lines of a comment. -/
def headerLines (version : String) (header : Option String) : List String :=
  let version := if version.isEmpty then "unknown" else version
  ["// This code was automatically generated by metagen from LSP meta model version " ++ version ++
      ".",
    "// Do not edit manually."] ++
    ((header.map Text.lines).getD []).map fun line =>
      if line.isEmpty then "//" else "// " ++ line

/-- What every file begins with after its header. -/
def preamble : List String :=
  ["#![allow(",
    "    non_camel_case_types,",
    "    non_snake_case,",
    "    non_upper_case_globals,",
    "    deprecated,",
    "    clippy::all",
    ")]",
    "use serde::\x7bDeserialize, Serialize\x7d;"]

def unlines (lines : List String) : String :=
  String.join (lines.map (· ++ "\n"))

def items (ds : List Decl) : Rendered (List Item) :=
  List.flatten <$> ds.mapM declItems

/-- The source file for declarations in their order. -/
def file (version : String) (header : Option String) (ds : List Decl) : Rendered String := do
  let items ← items ds
  return unlines (headerLines version header ++ [""] ++ preamble) ++
    String.join (items.map Item.render)

end Source
end ProtocolTypes
