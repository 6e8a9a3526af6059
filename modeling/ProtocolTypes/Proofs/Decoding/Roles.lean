import ProtocolTypes.Proofs.Decoding.TypeNodes

/-!
# ProtocolTypes.Proofs.Decoding.Roles

What a part of a meta model is decoded as. A part's role gives its decoder (`Role.decode?`) and the
members that this decoder recognises in an object, with the roles of their values (`Role.fields`).
For a type expression these depend on the kind it names. No decoder depends on anything else in an
object than the values under the keys it recognises (`decode?_object_congr`).
-/

namespace ProtocolTypes
namespace Decoding

open Json Document

inductive Role where
  | metaModel
  | metaData
  | request
  | notification
  | struct
  | property
  | enumeration
  | entry
  | typeAlias
  | type
  | optionalType
  | params
  | literal
  | inlineProperty
  | direction
  | list (item : Role)
  /-- A value that has no parts, or no parts that matter. -/
  | leaf
deriving DecidableEq

/-- A value without parts. -/
def leaf? : Document → Option Document
  | .array _ | .object _ => none
  | d => some d

namespace Role

/-- What is decoded from a document of the role. -/
def Result : Role → Type
  | .metaModel => MetaModel
  | .metaData => String
  | .request => Request
  | .notification => Notification
  | .struct => Structure
  | .property | .inlineProperty => Property
  | .enumeration => Enumeration
  | .entry => EnumerationEntry
  | .typeAlias => TypeAlias
  | .type => TypeExpr
  | .optionalType => Option TypeExpr
  | .params => Option (OneOrMore TypeExpr)
  | .literal => StructLiteral
  | .direction => MessageDirection
  | .list r => List r.Result
  | .leaf => Document

def decode? : (r : Role) → Document → Option r.Result
  | .metaModel => metaModel?
  | .metaData => metaData?
  | .request => request?
  | .notification => notification?
  | .struct => structure?
  | .property => property?
  | .inlineProperty => inlineProperty?
  | .enumeration => enumeration?
  | .entry => enumerator?
  | .typeAlias => alias?
  | .type => typeExpr?
  | .optionalType => optional? typeExpr?
  | .params => params?
  | .literal => literal?
  | .direction => direction?
  | .list r => list? r.decode?
  | .leaf => leaf?

/-! ## Parts -/

def annotationFields : List (String × Role) :=
  AnnotationParts.fields.map fun key => (key, .leaf)

/-- The members that matter in a node of some kind, besides the kind itself. -/
def payloadFields : TypeKind → List (String × Role)
  | .base | .reference => [("name", .leaf)]
  | .array => [("element", .type)]
  | .map => [("key", .type), ("value", .type)]
  | .and | .or | .tuple => [("items", .list .type)]
  | .literal => [("value", .literal)]
  | .stringLiteral | .integerLiteral | .booleanLiteral => [("value", .leaf)]

def metaModelRoles : List (String × Role) :=
  [("metaData", .metaData), ("requests", .list .request), ("notifications", .list .notification),
    ("structures", .list .struct), ("enumerations", .list .enumeration),
    ("typeAliases", .list .typeAlias)]

def metaDataRoles : List (String × Role) :=
  [("version", .leaf)]

def requestRoles : List (String × Role) :=
  [("method", .leaf), ("result", .type), ("params", .params), ("partialResult", .optionalType),
    ("errorData", .optionalType), ("registrationMethod", .leaf),
    ("registrationOptions", .optionalType), ("messageDirection", .direction)] ++ annotationFields

def notificationRoles : List (String × Role) :=
  [("method", .leaf), ("params", .params), ("registrationMethod", .leaf),
    ("registrationOptions", .optionalType), ("messageDirection", .direction)] ++ annotationFields

def structureRoles : List (String × Role) :=
  [("name", .leaf), ("properties", .list .property), ("extends", .list .type),
    ("mixins", .list .type)] ++ annotationFields

def propertyRoles : List (String × Role) :=
  [("name", .leaf), ("type", .type), ("optional", .leaf)] ++ annotationFields

def enumerationRoles : List (String × Role) :=
  [("name", .leaf), ("type", .type), ("values", .list .entry), ("supportsCustomValues", .leaf)] ++
    annotationFields

def entryRoles : List (String × Role) :=
  [("name", .leaf), ("value", .leaf)] ++ annotationFields

def aliasRoles : List (String × Role) :=
  [("name", .leaf), ("type", .type)] ++ annotationFields

def literalRoles : List (String × Role) :=
  ("properties", .list .inlineProperty) :: annotationFields

def typeRoles (ms : List (String × Document)) : List (String × Role) :=
  ("kind", .leaf) :: ((kind? ms).map payloadFields).getD []

/-- The keys that are recognised in an object of the role, and the roles of the values there. -/
def fields : Role → List (String × Document) → List (String × Role)
  | .metaModel, _ => metaModelRoles
  | .metaData, _ => metaDataRoles
  | .request, _ => requestRoles
  | .notification, _ => notificationRoles
  | .struct, _ => structureRoles
  | .property, _ | .inlineProperty, _ => propertyRoles
  | .enumeration, _ => enumerationRoles
  | .entry, _ => entryRoles
  | .typeAlias, _ => aliasRoles
  | .type, ms | .optionalType, ms | .params, ms => typeRoles ms
  | .literal, _ => literalRoles
  | .direction, _ => MessageDirection.all.map fun direction => (direction.name, .leaf)
  | .list _, _ | .leaf, _ => []

/-- The keys that are recognised in an object of the role. -/
def recognised (r : Role) (ms : List (String × Document)) : List String :=
  (r.fields ms).map (·.1)

/-- The role of the value under a key. -/
def child (r : Role) (ms : List (String × Document)) (key : String) : Role :=
  (((r.fields ms).find? (·.1 = key)).map (·.2)).getD .leaf

/-- The role of a field given by its position. -/
def nth (fs : List (String × Role)) (i : Nat) : Role :=
  (fs[i]?.map (·.2)).getD .leaf

/-- The role of an element of an array. A record may be an array of its first fields. -/
def item : Role → Nat → Role
  | .metaModel, i => nth metaModelRoles i
  | .metaData, i => nth metaDataRoles i
  | .params, _ => .type
  | .list r, _ => r
  | _, _ => .leaf

theorem nodup_recognised (r : Role) (ms : List (String × Document)) : (r.recognised ms).Nodup := by
  have htype : ((typeRoles ms).map (·.1)).Nodup := by
    rw [typeRoles]
    cases kind? ms with
    | none => decide
    | some kind => cases kind <;> decide
  cases r with
  | type | optionalType | params => exact htype
  | _ => simp only [recognised, fields]; decide

theorem child_eq {r : Role} {ms : List (String × Document)} {f : String × Role}
    (h : f ∈ r.fields ms) : r.child ms f.1 = f.2 := by
  have hnodup := nodup_recognised r ms
  rw [recognised] at hnodup
  obtain ⟨g, hg⟩ : ∃ g, (r.fields ms).find? (·.1 = f.1) = some g := by
    rw [← Option.isSome_iff_exists, List.find?_isSome]
    exact ⟨f, h, by simp⟩
  have hkey : g.1 = f.1 := by simpa using List.find?_some hg
  have hgf : g = f := List.inj_on_of_nodup_map hnodup (List.mem_of_find?_eq_some hg) h hkey
  rw [child, hg, hgf]
  rfl

end Role

/-! ## Agreement -/

/-- Objects whose values under some keys are decoded to the same. -/
def Agree (fs : List (String × Role)) (ms' ms : List (String × Document)) : Prop :=
  ∀ f ∈ fs, (valuesAt f.1 ms').map f.2.decode? = (valuesAt f.1 ms).map f.2.decode?

/-- The decoder takes no array and no object. -/
def Flat {β : Type} (decode : Document → Option β) : Prop :=
  ∀ d, decode d = (leaf? d).bind decode

theorem flat_text : Flat text? := by
  intro d
  cases d <;> rfl

theorem flat_bool : Flat bool? := by
  intro d
  cases d <;> rfl

theorem flat_json {β : Type} {decode : Json → Partial β}
    (harray : ∀ items, (decode (.array items)).toOption = none)
    (hobject : ∀ members, (decode (.object members)).toOption = none) : Flat (json? decode) := by
  intro d
  cases d with
  | array ds => exact harray _
  | object ms => exact hobject _
  | _ => rfl

theorem flat_optionalText : Flat (json? AnnotationParts.optionalText) :=
  flat_json (fun _ => rfl) fun _ => rfl

theorem flat_optional {β : Type} {decode : Document → Option β} (h : Flat decode) :
    Flat (optional? decode) := by
  intro d
  cases d with
  | array ds => exact congrArg (Option.map some) (h (.array ds))
  | object ms => exact congrArg (Option.map some) (h (.object ms))
  | _ => rfl

section Agree

variable {fs : List (String × Role)} {ms' ms : List (String × Document)} {key : String}
  {β : Type} {decode : Document → Option β}

theorem field_congr (h : (valuesAt key ms').map decode = (valuesAt key ms).map decode) :
    field key decode ms' = field key decode ms := by
  have hmap (ms : List (String × Document)) :
      field key decode ms = fill id none ((valuesAt key ms).map decode) := by
    rw [fill_map]
    rfl
  rw [hmap, hmap, h]

theorem last?_congr (h : (valuesAt key ms').map decode = (valuesAt key ms).map decode) :
    last? key decode ms' = last? key decode ms := by
  have hmap (ms : List (String × Document)) :
      last? key decode ms = ((valuesAt key ms).map decode).getLast?.join := by
    rw [last?, List.getLast?_map]
    cases (valuesAt key ms).getLast? <;> rfl
  rw [hmap, hmap, h]

theorem Agree.map_flat (h : Agree fs ms' ms) (hkey : (key, Role.leaf) ∈ fs) (hflat : Flat decode) :
    (valuesAt key ms').map decode = (valuesAt key ms).map decode := by
  have hmap (ds : List Document) : ds.map decode = (ds.map leaf?).map fun d => d.bind decode := by
    rw [List.map_map]
    exact List.map_congr_left fun d _ => hflat d
  rw [hmap, hmap, show (valuesAt key ms').map leaf? = (valuesAt key ms).map leaf? from h _ hkey]

theorem Agree.flat (h : Agree fs ms' ms) (hkey : (key, Role.leaf) ∈ fs) (hflat : Flat decode) :
    field key decode ms' = field key decode ms :=
  field_congr (h.map_flat hkey hflat)

theorem Agree.annotations (h : Agree fs ms' ms) (hfs : ∀ f ∈ Role.annotationFields, f ∈ fs) :
    annotations? ms' = annotations? ms := by
  have hfield {β : Type} {decode : Document → Option β} {key : String} (hflat : Flat decode)
      (hkey : key ∈ AnnotationParts.fields) : field key decode ms' = field key decode ms :=
    h.flat (hfs _ (List.mem_map_of_mem hkey)) hflat
  rw [annotations?, annotations?, hfield flat_optionalText (by decide),
    hfield flat_optionalText (by decide),
    hfield (flat_json (fun _ => rfl) fun _ => rfl) (by decide),
    hfield flat_optionalText (by decide)]

end Agree

/-! ## Objects -/

section Object

variable {ms' ms : List (String × Document)}

open Role

theorem property?_congr (h : Agree propertyRoles ms' ms) :
    property? (.object ms') = property? (.object ms) := by
  have hname : field "name" text? ms' = field "name" text? ms := h.flat (by decide) flat_text
  have htype : field "type" typeExpr? ms' = field "type" typeExpr? ms :=
    field_congr (h ("type", .type) (by decide))
  have hoptional : field "optional" bool? ms' = field "optional" bool? ms :=
    h.flat (by decide) flat_bool
  have hannotations : annotations? ms' = annotations? ms := h.annotations (by decide)
  rw [property?, property?, members?_bind, members?_bind, hname, htype, hoptional, hannotations]

theorem structure?_congr (h : Agree structureRoles ms' ms) :
    structure? (.object ms') = structure? (.object ms) := by
  have hname : field "name" text? ms' = field "name" text? ms := h.flat (by decide) flat_text
  have hproperties :
      field "properties" (list? property?) ms' = field "properties" (list? property?) ms :=
    field_congr (h ("properties", .list .property) (by decide))
  have hextends : field "extends" (list? typeExpr?) ms' = field "extends" (list? typeExpr?) ms :=
    field_congr (h ("extends", .list .type) (by decide))
  have hmixins : field "mixins" (list? typeExpr?) ms' = field "mixins" (list? typeExpr?) ms :=
    field_congr (h ("mixins", .list .type) (by decide))
  have hannotations : annotations? ms' = annotations? ms := h.annotations (by decide)
  rw [structure?, structure?, members?_bind, members?_bind, hname, hproperties, hextends, hmixins,
    hannotations]

theorem enumerator?_congr (h : Agree entryRoles ms' ms) :
    enumerator? (.object ms') = enumerator? (.object ms) := by
  have hname : field "name" text? ms' = field "name" text? ms := h.flat (by decide) flat_text
  have hvalue :
      field "value" (json? enumerationValue) ms' = field "value" (json? enumerationValue) ms :=
    h.flat (by decide) (flat_json (fun _ => rfl) fun _ => rfl)
  have hannotations : annotations? ms' = annotations? ms := h.annotations (by decide)
  rw [enumerator?, enumerator?, members?_bind, members?_bind, hname, hvalue, hannotations]

theorem enumeration?_congr (h : Agree enumerationRoles ms' ms) :
    enumeration? (.object ms') = enumeration? (.object ms) := by
  have hname : field "name" text? ms' = field "name" text? ms := h.flat (by decide) flat_text
  have htype : field "type" typeExpr? ms' = field "type" typeExpr? ms :=
    field_congr (h ("type", .type) (by decide))
  have hvalues : field "values" (list? enumerator?) ms' = field "values" (list? enumerator?) ms :=
    field_congr (h ("values", .list .entry) (by decide))
  have hsupportsCustomValues :
      field "supportsCustomValues" bool? ms' = field "supportsCustomValues" bool? ms :=
    h.flat (by decide) flat_bool
  have hannotations : annotations? ms' = annotations? ms := h.annotations (by decide)
  rw [enumeration?, enumeration?, members?_bind, members?_bind, hname, htype, hvalues,
    hsupportsCustomValues, hannotations]

theorem alias?_congr (h : Agree aliasRoles ms' ms) :
    alias? (.object ms') = alias? (.object ms) := by
  have hname : field "name" text? ms' = field "name" text? ms := h.flat (by decide) flat_text
  have htype : field "type" typeExpr? ms' = field "type" typeExpr? ms :=
    field_congr (h ("type", .type) (by decide))
  have hannotations : annotations? ms' = annotations? ms := h.annotations (by decide)
  rw [alias?, alias?, members?_bind, members?_bind, hname, htype, hannotations]

theorem request?_congr (h : Agree requestRoles ms' ms) :
    request? (.object ms') = request? (.object ms) := by
  have hmethod : field "method" text? ms' = field "method" text? ms := h.flat (by decide) flat_text
  have hresult : field "result" typeExpr? ms' = field "result" typeExpr? ms :=
    field_congr (h ("result", .type) (by decide))
  have hparams : field "params" params? ms' = field "params" params? ms :=
    field_congr (h ("params", .params) (by decide))
  have hpartialResult :
      field "partialResult" (optional? typeExpr?) ms' =
        field "partialResult" (optional? typeExpr?) ms :=
    field_congr (h ("partialResult", .optionalType) (by decide))
  have herrorData :
      field "errorData" (optional? typeExpr?) ms' = field "errorData" (optional? typeExpr?) ms :=
    field_congr (h ("errorData", .optionalType) (by decide))
  have hregistrationMethod :
      field "registrationMethod" (optional? text?) ms' =
        field "registrationMethod" (optional? text?) ms :=
    h.flat (by decide) (flat_optional flat_text)
  have hregistrationOptions :
      field "registrationOptions" (optional? typeExpr?) ms' =
        field "registrationOptions" (optional? typeExpr?) ms :=
    field_congr (h ("registrationOptions", .optionalType) (by decide))
  have hmessageDirection :
      field "messageDirection" direction? ms' = field "messageDirection" direction? ms :=
    field_congr (h ("messageDirection", .direction) (by decide))
  have hannotations : annotations? ms' = annotations? ms := h.annotations (by decide)
  rw [request?, request?, members?_bind, members?_bind, hmethod, hresult, hparams, hpartialResult,
    herrorData, hregistrationMethod, hregistrationOptions, hmessageDirection, hannotations]

theorem notification?_congr (h : Agree notificationRoles ms' ms) :
    notification? (.object ms') = notification? (.object ms) := by
  have hmethod : field "method" text? ms' = field "method" text? ms := h.flat (by decide) flat_text
  have hparams : field "params" params? ms' = field "params" params? ms :=
    field_congr (h ("params", .params) (by decide))
  have hregistrationMethod :
      field "registrationMethod" (optional? text?) ms' =
        field "registrationMethod" (optional? text?) ms :=
    h.flat (by decide) (flat_optional flat_text)
  have hregistrationOptions :
      field "registrationOptions" (optional? typeExpr?) ms' =
        field "registrationOptions" (optional? typeExpr?) ms :=
    field_congr (h ("registrationOptions", .optionalType) (by decide))
  have hmessageDirection :
      field "messageDirection" direction? ms' = field "messageDirection" direction? ms :=
    field_congr (h ("messageDirection", .direction) (by decide))
  have hannotations : annotations? ms' = annotations? ms := h.annotations (by decide)
  rw [notification?, notification?, members?_bind, members?_bind, hmethod, hparams,
    hregistrationMethod, hregistrationOptions, hmessageDirection, hannotations]

theorem metaData?_congr (h : Agree metaDataRoles ms' ms) :
    metaData? (.object ms') = metaData? (.object ms) := by
  have hversion : field "version" text? ms' = field "version" text? ms :=
    h.flat (by decide) flat_text
  rw [metaData?, metaData?, membersOr?_bind, membersOr?_bind, hversion]

theorem metaModel?_congr (h : Agree metaModelRoles ms' ms) :
    metaModel? (.object ms') = metaModel? (.object ms) := by
  have hmetaData : field "metaData" metaData? ms' = field "metaData" metaData? ms :=
    field_congr (h ("metaData", .metaData) (by decide))
  have hrequests : field "requests" (list? request?) ms' = field "requests" (list? request?) ms :=
    field_congr (h ("requests", .list .request) (by decide))
  have hnotifications :
      field "notifications" (list? notification?) ms' =
        field "notifications" (list? notification?) ms :=
    field_congr (h ("notifications", .list .notification) (by decide))
  have hstructures :
      field "structures" (list? structure?) ms' = field "structures" (list? structure?) ms :=
    field_congr (h ("structures", .list .struct) (by decide))
  have henumerations :
      field "enumerations" (list? enumeration?) ms' =
        field "enumerations" (list? enumeration?) ms :=
    field_congr (h ("enumerations", .list .enumeration) (by decide))
  have htypeAliases :
      field "typeAliases" (list? alias?) ms' = field "typeAliases" (list? alias?) ms :=
    field_congr (h ("typeAliases", .list .typeAlias) (by decide))
  rw [metaModel?, metaModel?, membersOr?_bind, membersOr?_bind, hmetaData, hrequests,
    hnotifications, hstructures, henumerations, htypeAliases]

theorem kind?_congr (h : Agree (typeRoles ms) ms' ms) : kind? ms' = kind? ms := by
  rw [kind?, kind?, last?_congr (h.map_flat (by simp [typeRoles]) flat_text)]

theorem payload?_congr {kind : TypeKind} (h : Agree (payloadFields kind) ms' ms) :
    payload? kind ms' = payload? kind ms := by
  have hleaf {β : Type} {key : String} {decode : Document → Option β} (hflat : Flat decode)
      (hkey : (key, Role.leaf) ∈ payloadFields kind) :
      last? key decode ms' = last? key decode ms := last?_congr (h.map_flat hkey hflat)
  have hinteger : Flat (json? toInt64) := flat_json (fun _ => rfl) fun _ => rfl
  cases kind with
  | base | reference => exact congrArg (Option.map _) (hleaf flat_text (by decide))
  | array => exact congrArg (Option.map _) (last?_congr (h ("element", .type) (by decide)))
  | map =>
    have hkey : last? "key" typeExpr? ms' = last? "key" typeExpr? ms :=
      last?_congr (h ("key", .type) (by decide))
    have hvalue : last? "value" typeExpr? ms' = last? "value" typeExpr? ms :=
      last?_congr (h ("value", .type) (by decide))
    rw [payload?, payload?, hkey, hvalue]
  | and | or | tuple =>
    exact congrArg (Option.map _) (last?_congr (h ("items", .list .type) (by decide)))
  | literal => exact congrArg (Option.map _) (last?_congr (h ("value", .literal) (by decide)))
  | stringLiteral => exact congrArg (Option.map _) (hleaf flat_text (by decide))
  | integerLiteral => exact congrArg (Option.map _) (hleaf hinteger (by decide))
  | booleanLiteral => exact congrArg (Option.map _) (hleaf flat_bool (by decide))

theorem typeExpr?_congr (h : Agree (typeRoles ms) ms' ms) :
    typeExpr? (.object ms') = typeExpr? (.object ms) := by
  rw [typeExpr?_object, typeExpr?_object, kind?_congr h]
  refine Option.bind_congr fun kind hkind => payload?_congr fun f hf => h f ?_
  rw [typeRoles, hkind]
  exact List.mem_cons_of_mem _ hf

theorem params?_congr (h : Agree (typeRoles ms) ms' ms) :
    params? (.object ms') = params? (.object ms) := by
  have hparams (ms : List (String × Document)) :
      params? (.object ms) = (typeExpr? (.object ms)).map fun t => some ⟨t, []⟩ := by
    have hone : oneOrMore? (.object ms) = (typeExpr? (.object ms)).map fun t => ⟨t, []⟩ :=
      oneOrMore?_of_not_array (by simp)
    rw [show params? (.object ms) = (oneOrMore? (.object ms)).map some from rfl, hone,
      Option.map_map, Function.comp_def]
  rw [hparams, hparams, typeExpr?_congr h]

/-- What is decoded from the last of several members agrees as well. -/
theorem Agree.lastOfEach {fs : List (String × Role)} (h : Agree fs ms' ms) :
    Agree fs (lastOfEach ms') (lastOfEach ms) := by
  intro f hf
  have hlast {β : Type} (decode : Document → Option β) (ds : List Document) :
      ds.getLast?.toList.map decode = (ds.map decode).getLast?.toList := by
    rw [List.getLast?_map]
    cases ds.getLast? <;> rfl
  rw [valuesAt_lastOfEach, valuesAt_lastOfEach, hlast, hlast, h f hf]

theorem inlineProperty?_congr (h : Agree propertyRoles ms' ms) :
    inlineProperty? (.object ms') = inlineProperty? (.object ms) := by
  rw [inlineProperty?_object, inlineProperty?_object, property?_congr h.lastOfEach]

theorem literal?_congr (h : Agree literalRoles ms' ms) :
    literal? (.object ms') = literal? (.object ms) := by
  have hproperties :
      field "properties" (list? inlineProperty?) (lastOfEach ms') =
        field "properties" (list? inlineProperty?) (lastOfEach ms) :=
    field_congr (h.lastOfEach ("properties", .list .inlineProperty) (by decide))
  have hannotations : annotations? (lastOfEach ms') = annotations? (lastOfEach ms) :=
    h.lastOfEach.annotations (by decide)
  rw [literal?_object, literal?_object, hproperties, hannotations]

/-- Only the values under recognised keys matter to a decoder, except that a message direction is
an object of one member. -/
theorem decode?_object_congr {r : Role} (hr : r ≠ .direction) (h : Agree (r.fields ms) ms' ms) :
    r.decode? (.object ms') = r.decode? (.object ms) := by
  cases r with
  | metaModel => exact metaModel?_congr h
  | metaData => exact metaData?_congr h
  | request => exact request?_congr h
  | notification => exact notification?_congr h
  | struct => exact structure?_congr h
  | property => exact property?_congr h
  | enumeration => exact enumeration?_congr h
  | entry => exact enumerator?_congr h
  | typeAlias => exact alias?_congr h
  | type => exact typeExpr?_congr h
  | optionalType => exact congrArg (Option.map some) (typeExpr?_congr h)
  | params => exact params?_congr h
  | literal => exact literal?_congr h
  | inlineProperty => exact inlineProperty?_congr h
  | direction => exact absurd rfl hr
  | list r => rfl
  | leaf => rfl

/-- Which keys are recognised is known from the values under them. -/
theorem fields_congr {r : Role} (h : Agree (r.fields ms) ms' ms) : r.fields ms' = r.fields ms := by
  have htype (h : Agree (typeRoles ms) ms' ms) : typeRoles ms' = typeRoles ms := by
    rw [typeRoles, typeRoles, kind?_congr h]
  cases r with
  | type | optionalType | params => exact htype h
  | _ => rfl

end Object

/-! ## Arrays -/

section Array

variable {r : Role} {pre post : List Document} {d d' : Document}

theorem mapM_replace {β : Type} {decode : Document → Option β} (h : decode d' = decode d) :
    (pre ++ d' :: post).mapM decode = (pre ++ d :: post).mapM decode := by
  simp only [List.mapM_append, List.mapM_cons, h]

theorem soleText?_eq_none (hd : leaf? d = none) : soleText? (pre ++ d :: post) = none := by
  cases pre with
  | nil => cases d <;> first | rfl | cases hd
  | cons e pre => cases e <;> cases pre <;> rfl

theorem typeExpr?_replace (hd : leaf? d = none) (hd' : leaf? d' = none) :
    typeExpr? (.array (pre ++ d' :: post)) = typeExpr? (.array (pre ++ d :: post)) := by
  rw [typeExpr?_array, typeExpr?_array, soleText?_eq_none hd, soleText?_eq_none hd']

theorem params?_replace (hd : leaf? d = none) (hd' : leaf? d' = none)
    (h : typeExpr? d' = typeExpr? d) :
    params? (.array (pre ++ d' :: post)) = params? (.array (pre ++ d :: post)) := by
  refine congrArg (Option.map some) ?_
  rw [show json? (oneOrMore typeExpr) = oneOrMore? from rfl, oneOrMore?_array, oneOrMore?_array,
    mapM_replace h, typeExpr?_replace hd hd']

/-- One of the first fields is replaced by a value that is decoded to the same. -/
theorem agree_zip (fs gs : List (String × Role)) (hinj : ∀ g ∈ gs, ∀ f ∈ fs, f.1 = g.1 → f = g)
    (h : (Role.nth fs pre.length).decode? d' = (Role.nth fs pre.length).decode? d) :
    Agree gs ((fs.map (·.1)).zip (pre ++ d' :: post)) ((fs.map (·.1)).zip (pre ++ d :: post)) := by
  induction fs generalizing pre with
  | nil => exact fun _ _ => rfl
  | cons f fs ih =>
    intro g hg
    cases pre with
    | nil =>
      simp only [List.nil_append, List.map_cons, List.zip_cons_cons, valuesAt_cons]
      split
      · rename_i hkey
        have hd : f.2.decode? d' = f.2.decode? d := h
        rw [← hinj g hg f List.mem_cons_self hkey, List.map_cons, List.map_cons, hd]
      · rfl
    | cons e pre =>
      have hnth : Role.nth (f :: fs) (e :: pre).length = Role.nth fs pre.length := by
        simp [Role.nth]
      rw [hnth] at h
      have hrest := ih (fun g hg f hf => hinj g hg f (List.mem_cons_of_mem _ hf)) h g hg
      simp only [List.cons_append, List.map_cons, List.zip_cons_cons, valuesAt_cons]
      split
      · rw [List.map_cons, List.map_cons, hrest]
      · exact hrest

theorem metaModel?_array (ds : List Document) :
    metaModel? (.array ds) =
      if ds.length ≤ metaModelFields.length then metaModel? (.object (metaModelFields.zip ds))
      else none := by
  rw [metaModel?, membersOr?]
  split <;> rfl

theorem metaData?_array (ds : List Document) :
    metaData? (.array ds) =
      if ds.length ≤ 1 then metaData? (.object (["version"].zip ds)) else none := by
  rw [metaData?, membersOr?, List.length_singleton]
  split <;> rfl

/-- An element may be replaced by one that is decoded to the same. -/
theorem decode?_array_congr (hd : leaf? d = none) (hd' : leaf? d' = none)
    (h : (r.item pre.length).decode? d' = (r.item pre.length).decode? d) :
    r.decode? (.array (pre ++ d' :: post)) = r.decode? (.array (pre ++ d :: post)) := by
  have hlength : (pre ++ d' :: post).length = (pre ++ d :: post).length := by simp
  cases r with
  | metaModel =>
    have hagree : Agree Role.metaModelRoles (metaModelFields.zip (pre ++ d' :: post))
        (metaModelFields.zip (pre ++ d :: post)) :=
      agree_zip Role.metaModelRoles Role.metaModelRoles (by decide) h
    change metaModel? (.array _) = metaModel? (.array _)
    rw [metaModel?_array, metaModel?_array, hlength, metaModel?_congr hagree]
  | metaData =>
    have hagree : Agree Role.metaDataRoles (["version"].zip (pre ++ d' :: post))
        (["version"].zip (pre ++ d :: post)) :=
      agree_zip Role.metaDataRoles Role.metaDataRoles (by decide) h
    change metaData? (.array _) = metaData? (.array _)
    rw [metaData?_array, metaData?_array, hlength, metaData?_congr hagree]
  | type => exact typeExpr?_replace hd hd'
  | optionalType => exact congrArg (Option.map some) (typeExpr?_replace hd hd')
  | params => exact params?_replace hd hd' h
  | list r => exact mapM_replace h
  | _ => rfl

end Array

/-- A member may be replaced by one that is decoded to the same. -/
theorem agree_replace {r : Role} {pre post : List (String × Document)} {key : String}
    {d d' : Document}
    (h : (r.child (pre ++ (key, d) :: post) key).decode? d' =
      (r.child (pre ++ (key, d) :: post) key).decode? d) :
    Agree (r.fields (pre ++ (key, d) :: post)) (pre ++ (key, d') :: post)
      (pre ++ (key, d) :: post) := by
  intro f hf
  rw [valuesAt_append, valuesAt_append, valuesAt_cons, valuesAt_cons]
  by_cases hkey : key = f.1
  · subst hkey
    rw [Role.child_eq hf] at h
    simp [h]
  · rw [if_neg hkey, if_neg hkey]

/-! ## Message directions -/

section Direction

variable {ms ms' : List (String × Document)}

theorem direction?_of_length (h : ms.length ≠ 1) : direction? (.object ms) = none := by
  cases ms with
  | nil => rfl
  | cons m ms =>
    have hms : ms.isEmpty = false := by
      cases ms with
      | nil => exact absurd rfl h
      | cons _ _ => rfl
    rw [direction?_cons, hms]
    cases MessageDirection.ofName? m.1 <;> cases null? m.2 <;> rfl

theorem direction?_perm (h : ms.Perm ms') :
    direction? (.object ms') = direction? (.object ms) := by
  by_cases hlength : ms.length = 1
  · obtain ⟨m, rfl⟩ := List.length_eq_one_iff.mp hlength
    rw [List.singleton_perm.mp h]
  · rw [direction?_of_length hlength, direction?_of_length (h.length_eq ▸ hlength)]

theorem direction?_eq_none {pre post : List (String × Document)} {key : String} {d : Document}
    (hd : leaf? d = none) : direction? (.object (pre ++ (key, d) :: post)) = none := by
  cases pre with
  | nil =>
    have hnull : null? d = none := by cases d <;> first | rfl | cases hd
    rw [List.nil_append, direction?_cons, hnull]
    cases MessageDirection.ofName? key <;> rfl
  | cons m pre => exact direction?_of_length (by simp)

end Direction

end Decoding
end ProtocolTypes
