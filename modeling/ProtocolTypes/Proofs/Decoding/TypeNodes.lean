import ProtocolTypes.Proofs.Decoding.Messages

/-!
# ProtocolTypes.Proofs.Decoding.TypeNodes

What a type expression is decoded from. A node is looked at as a value, in which the last of several
members of one key stands for all of them (`lastOfEach`). Its kind says which members matter
(`typeExpr?_object`); inline structures and their properties are records in such a value
(`literal?_object`, `inlineProperty?_object`).
-/

namespace ProtocolTypes
namespace Json
namespace Document

/-- For each key the last member. -/
def lastOfEach : List (String × Document) → List (String × Document)
  | [] => []
  | (key, d) :: ms =>
    if (valuesAt key ms).isEmpty then (key, d) :: lastOfEach ms else lastOfEach ms

theorem valuesAt_lastOfEach (key : String) (ms : List (String × Document)) :
    valuesAt key (lastOfEach ms) = (valuesAt key ms).getLast?.toList := by
  induction ms with
  | nil => rfl
  | cons m ms ih =>
    obtain ⟨k, d⟩ := m
    rw [lastOfEach, valuesAt_cons]
    by_cases hk : k = key
    · subst hk
      cases hv : valuesAt k ms <;> simp [hv, ih]
    · split <;> simp [valuesAt_cons, hk, ih]

/-- The value of an object holds the last member of each key. -/
theorem valuesAt_membersToJson_nil (key : String) (ms : List (String × Document)) :
    valuesAt key (membersToJson [] ms) = (valuesAt key (lastOfEach ms)).map toJson := by
  rw [valuesAt_toJson, valuesAt_lastOfEach]
  cases (valuesAt key ms).getLast? <;> rfl

end Document
end Json

namespace Decoding

open Json Document

/-! ## Single values -/

theorem toOption_toText (d : Document) : (toText d.toJson).toOption = text? d := by
  cases d with
  | number v => cases v <;> rfl
  | _ => rfl

theorem toOption_toBool (d : Document) : (toBool d.toJson).toOption = bool? d := by
  cases d with
  | number v => cases v <;> rfl
  | _ => rfl

/-! ## Members of a value -/

/-- The value of the last member of a key. -/
def last? {β : Type} (key : String) (decode : Document → Option β) (ms : List (String × Document)) :
    Option β :=
  (valuesAt key ms).getLast?.bind decode

section Members

variable {β : Type} {key : String}

theorem member?_eq_head? (ms : List (String × Json)) :
    member? key ms = (valuesAt key ms).head? := by
  induction ms with
  | nil => rfl
  | cons m ms ih =>
    obtain ⟨k, v⟩ := m
    rw [valuesAt_cons]
    by_cases hk : k = key <;> simp_all [member?]

theorem member?_membersToJson (ms : List (String × Document)) :
    member? key (membersToJson [] ms) = (valuesAt key ms).getLast?.map toJson := by
  rw [member?_eq_head?, valuesAt_toJson]
  cases (valuesAt key ms).getLast? <;> rfl

theorem toOption_required {decode : Json → Partial β} (ms : List (String × Document)) :
    (required key decode (membersToJson [] ms)).toOption = last? key (json? decode) ms := by
  rw [required, member?_membersToJson, last?]
  cases (valuesAt key ms).getLast? <;> rfl

theorem memberType_eq (ms : List (String × Json)) :
    memberType key ms =
      match member? key ms with
      | some v => (typeExpr v).map some
      | none => .ok none := by
  induction ms with
  | nil => rw [memberType]; rfl
  | cons m ms ih =>
    obtain ⟨k, v⟩ := m
    rw [memberType]
    by_cases hk : k = key <;> simp_all [member?]

theorem memberTypes_eq (ms : List (String × Json)) :
    memberTypes key ms = required key typeList ms := by
  induction ms with
  | nil => rw [memberTypes]; rfl
  | cons m ms ih =>
    obtain ⟨k, v⟩ := m
    rw [memberTypes]
    by_cases hk : k = key <;> simp_all [required, member?]

theorem memberLiteral_eq (ms : List (String × Json)) :
    memberLiteral key ms = required key structLiteral ms := by
  induction ms with
  | nil => rw [memberLiteral]; rfl
  | cons m ms ih =>
    obtain ⟨k, v⟩ := m
    rw [memberLiteral]
    by_cases hk : k = key <;> simp_all [required, member?]

end Members

/-! ## Lists -/

theorem toOption_mapM {ε α β : Type} (f : α → Except ε β) (xs : List α) :
    (xs.mapM f).toOption = xs.mapM fun x => (f x).toOption := by
  induction xs with
  | nil => rfl
  | cons x xs ih =>
    rw [List.mapM_cons, List.mapM_cons, ← ih]
    cases f x <;> cases xs.mapM f <;> rfl

theorem typeItems_eq (items : List Json) : typeItems items = items.mapM typeExpr := by
  induction items with
  | nil => rw [typeItems]; rfl
  | cons v items ih =>
    rw [typeItems, ih, List.mapM_cons]
    cases typeExpr v <;> cases items.mapM typeExpr <;> rfl

theorem propertyItems_eq (items : List Json) : propertyItems items = items.mapM property := by
  induction items with
  | nil => rw [propertyItems]; rfl
  | cons v items ih =>
    rw [propertyItems, ih, List.mapM_cons]
    cases property v <;> cases items.mapM property <;> rfl

/-! ## Inline structures -/

def inlineProperty? : Document → Option Property :=
  json? property

def literal? : Document → Option StructLiteral :=
  json? structLiteral

theorem json?_typeList : json? typeList = list? typeExpr? := by
  funext d
  cases d with
  | number v => cases v <;> rfl
  | array ds =>
    rw [json?, toJson, typeList, typeItems_eq, itemsToJson_eq, toOption_mapM, List.mapM_map]
    rfl
  | _ => rfl

theorem json?_propertyList : json? propertyList = list? inlineProperty? := by
  funext d
  cases d with
  | number v => cases v <;> rfl
  | array ds =>
    rw [json?, toJson, propertyList, propertyItems_eq, itemsToJson_eq, toOption_mapM,
      List.mapM_map]
    rfl
  | _ => rfl

/-- Fills a place with each value in turn. -/
def refill {α β : Type} (decode : α → Option β) (place : Option β) : List α → Option (Option β)
  | [] => some place
  | x :: xs => (decode x).bind fun y => refill decode (some y) xs

/-- Where there is at most one value, none is replaced. -/
theorem refill_toList {α β : Type} (decode : α → Option β) (x : Option α) :
    refill decode none x.toList = fill decode none x.toList := by
  cases x <;> rfl

theorem refill_membersToJson {β : Type} {decode : Json → Option β} {key : String}
    (ms : List (String × Document)) :
    refill decode none (valuesAt key (membersToJson [] ms)) =
      field key (fun d => decode d.toJson) (lastOfEach ms) := by
  rw [valuesAt_toJson, refill_toList, field, valuesAt_lastOfEach]
  cases (valuesAt key ms).getLast? <;> rfl

theorem propertyParts_toOption (p : PropertyParts) (ms : List (String × Json)) :
    (propertyParts p ms).toOption = do
      let name ← refill (fun v => v.toText.toOption) p.name (valuesAt "name" ms)
      let type ← refill (fun v => (typeExpr v).toOption) p.type (valuesAt "type" ms)
      let optional ← refill (fun v => v.toBool.toOption) p.optional (valuesAt "optional" ms)
      let others := (ms.filter fun m => !propertyFields.contains m.1).reverse ++ p.others
      return { name, type, optional, others } := by
  induction ms generalizing p with
  | nil => rw [propertyParts]; rfl
  | cons m ms ih =>
    obtain ⟨key, v⟩ := m
    rw [propertyParts.eq_def]
    simp only
    split
    · cases hv : v.toText <;> simp [ih, valuesAt_cons, refill, hv, propertyFields]
    · cases hv : typeExpr v <;> simp [ih, valuesAt_cons, refill, hv, propertyFields]
    · cases hv : v.toBool <;> simp [ih, valuesAt_cons, refill, hv, propertyFields]
    · simp_all [valuesAt_cons, propertyFields]

theorem annotationsOf_membersToJson (known : List String)
    (h : ∀ key ∈ AnnotationParts.fields, key ∉ known) (ms : List (String × Document)) :
    (annotationsOf ((membersToJson [] ms).filter fun m => !known.contains m.1)).toOption =
      annotations? (lastOfEach ms) :=
  toOption_annotationsOf fun key hkey => by
    rw [valuesAt_filter (h key hkey), valuesAt_membersToJson_nil]

/-- A property of an inline structure is decoded as any other, from the last member of each key. -/
theorem inlineProperty?_object (ms : List (String × Document)) :
    inlineProperty? (.object ms) = property? (.object (lastOfEach ms)) := by
  have hannotations := annotationsOf_membersToJson propertyFields (by decide) ms
  have hparts := propertyParts_toOption {} (membersToJson [] ms)
  simp only [refill_membersToJson, toOption_toText, toOption_toBool] at hparts
  have hproperty : inlineProperty? (.object ms) =
      (propertyParts {} (membersToJson [] ms)).toOption.bind fun p => p.finish.toOption := by
    rw [inlineProperty?, json?, toJson, property]
    cases propertyParts {} (membersToJson [] ms) <;> rfl
  rw [hproperty, hparts, property?]
  simp only [members?, PropertyParts.finish, Option.bind_eq_bind, Option.pure_def,
    Option.bind_assoc, Option.bind_some, List.append_nil, List.reverse_reverse]
  refine Option.bind_congr fun name _ => Option.bind_congr fun type _ =>
    Option.bind_congr fun optional _ => ?_
  cases name with
  | none => simp
  | some name =>
    cases type with
    | none => simp
    | some type =>
      simp only [toOption_map, hannotations, Option.bind_some]
      cases annotations? (lastOfEach ms) <;> rfl

theorem literalParts_toOption (p : LiteralParts) (ms : List (String × Json)) :
    (literalParts p ms).toOption = do
      let properties ← refill (fun v => (propertyList v).toOption) p.properties
        (valuesAt "properties" ms)
      let others := (ms.filter fun m => !(["properties"].contains m.1)).reverse ++ p.others
      return { properties, others } := by
  induction ms generalizing p with
  | nil => rw [literalParts]; rfl
  | cons m ms ih =>
    obtain ⟨key, v⟩ := m
    rw [literalParts]
    split
    · rename_i hkey
      cases hv : propertyList v <;> simp [ih, refill, hv, hkey]
    · simp_all [valuesAt_cons]

/-- What an inline structure is decoded from, the last member of each key. -/
theorem literal?_object (ms : List (String × Document)) :
    literal? (.object ms) = do
      let properties ← field "properties" (list? inlineProperty?) (lastOfEach ms)
      let annotations ← annotations? (lastOfEach ms)
      return ⟨properties.getD [], annotations⟩ := by
  have hannotations := annotationsOf_membersToJson ["properties"] (by decide) ms
  have hparts := literalParts_toOption {} (membersToJson [] ms)
  rw [refill_membersToJson, show (fun d : Document => (propertyList d.toJson).toOption) =
    list? inlineProperty? from json?_propertyList] at hparts
  have hliteral : literal? (.object ms) =
      (literalParts {} (membersToJson [] ms)).toOption.bind fun p => p.finish.toOption := by
    rw [literal?, json?, toJson, structLiteral]
    cases literalParts {} (membersToJson [] ms) <;> rfl
  rw [hliteral, hparts]
  simp only [LiteralParts.finish, Option.bind_eq_bind, Option.pure_def, Option.bind_assoc,
    Option.bind_some, List.append_nil, List.reverse_reverse, toOption_map, hannotations]
  refine Option.bind_congr fun properties _ => ?_
  cases annotations? (lastOfEach ms) <;> rfl

/-! ## Type expressions -/

/-- The kind that a node names. -/
def kind? (ms : List (String × Document)) : Option TypeKind :=
  (last? "kind" text? ms).bind TypeKind.ofName?

/-- The members that a node of some kind is decoded from. -/
def payload? : TypeKind → List (String × Document) → Option TypeExpr
  | .base, ms => (last? "name" text? ms).map .base
  | .reference, ms => (last? "name" text? ms).map .reference
  | .array, ms => (last? "element" typeExpr? ms).map .array
  | .map, ms => do return .map (← last? "key" typeExpr? ms) (← last? "value" typeExpr? ms)
  | .and, ms => (last? "items" (list? typeExpr?) ms).map .and
  | .or, ms => (last? "items" (list? typeExpr?) ms).map .or
  | .tuple, ms => (last? "items" (list? typeExpr?) ms).map .tuple
  | .literal, ms => (last? "value" literal? ms).map .literal
  | .stringLiteral, ms => (last? "value" text? ms).map .stringLiteral
  | .integerLiteral, ms => (last? "value" (json? toInt64) ms).map .integerLiteral
  | .booleanLiteral, ms => (last? "value" bool? ms).map .booleanLiteral

theorem json?_toText : json? toText = text? :=
  funext toOption_toText

theorem json?_toBool : json? toBool = bool? :=
  funext toOption_toBool

theorem toOption_kindOfMembers (ms : List (String × Document)) :
    (kindOfMembers (membersToJson [] ms)).toOption = kind? ms := by
  rw [kind?, ← json?_toText, ← toOption_required, kindOfMembers]
  cases required "kind" toText (membersToJson [] ms) with
  | error e => rfl
  | ok name =>
    simp only [kindOfName, toOption_ok, Option.bind_some]
    cases TypeKind.ofName? name <;> rfl

theorem last?_typeExpr (key : String) (ms : List (String × Document)) :
    last? key typeExpr? ms = (memberType key (membersToJson [] ms)).toOption.join := by
  rw [last?, memberType_eq, member?_membersToJson]
  cases (valuesAt key ms).getLast? with
  | none => rfl
  | some d =>
    simp only [Option.map_some, Option.bind_some, typeExpr?, json?]
    cases typeExpr d.toJson <;> rfl

/-- The kind of a node says which of its members matter. -/
theorem typeExpr?_object (ms : List (String × Document)) :
    typeExpr? (.object ms) = (kind? ms).bind fun kind => payload? kind ms := by
  rw [← toOption_kindOfMembers, typeExpr?, json?, toJson, typeExpr]
  cases kindOfMembers (membersToJson [] ms) with
  | error e => rfl
  | ok kind =>
    rw [toOption_ok, Option.bind_some]
    cases kind with
    | array =>
      simp only [payload?, last?_typeExpr]
      rcases memberType "element" (membersToJson [] ms) with e | _ | element <;> rfl
    | map =>
      simp only [payload?, last?_typeExpr]
      rcases memberType "key" (membersToJson [] ms) with e | _ | key <;>
        rcases memberType "value" (membersToJson [] ms) with e | _ | value <;> rfl
    | _ =>
      simp only [payload?, memberTypes_eq, memberLiteral_eq, toOption_map, toOption_required,
        json?_toText, json?_toBool, json?_typeList, literal?]

/-- The only element of an array, if that is a text. -/
def soleText? : List Document → Option String
  | [.string s] => some s
  | _ => none

theorem toOption_kindOfList (ds : List Document) :
    (kindOfList (ds.map toJson)).toOption = (soleText? ds).bind TypeKind.ofName? := by
  cases ds with
  | nil => rfl
  | cons d ds =>
    cases d with
    | string name =>
      cases ds with
      | nil =>
        rw [List.map_cons, List.map_nil, toJson, kindOfList, soleText?]
        simp only [toText, List.isEmpty_nil, if_true, kindOfName, Option.bind_some]
        cases TypeKind.ofName? name <;> rfl
      | cons _ _ => rfl
    | number v => cases v <;> rfl
    | _ => rfl

/-- A node that is an array only names its kind. -/
theorem typeExpr?_array (ds : List Document) :
    typeExpr? (.array ds) =
      ((soleText? ds).bind TypeKind.ofName?).bind fun kind => (ofKindName kind).toOption := by
  rw [← toOption_kindOfList, typeExpr?, json?, toJson, itemsToJson_eq, typeExpr]
  cases kindOfList (ds.map toJson) <;> rfl

/-! ## One value or several -/

def oneOrMore? : Document → Option (OneOrMore TypeExpr) :=
  json? (oneOrMore typeExpr)

/-- An array is a list of types, or else a single type. -/
theorem oneOrMore?_array (ds : List Document) :
    oneOrMore? (.array ds) =
      match ds.mapM typeExpr? with
      | some ts => OneOrMore.ofList? ts
      | none => (typeExpr? (.array ds)).map fun t => ⟨t, []⟩ := by
  have hitems : ((ds.map toJson).mapM typeExpr).toOption = ds.mapM typeExpr? := by
    rw [toOption_mapM, List.mapM_map]
    rfl
  rw [oneOrMore?, json?, toJson, itemsToJson_eq, ← hitems, typeExpr?, json?, toJson,
    itemsToJson_eq, oneOrMore]
  rcases (ds.map toJson).mapM typeExpr with e | _ | ⟨t, ts⟩
  · simp only [toOption_error]
    cases typeExpr (.array (ds.map toJson)) <;> rfl
  · rfl
  · rfl

theorem oneOrMore?_of_not_array {d : Document} (h : ∀ ds, d ≠ .array ds) :
    oneOrMore? d = (typeExpr? d).map fun t => ⟨t, []⟩ := by
  rw [oneOrMore?, json?, typeExpr?, json?, ← toOption_map]
  cases d with
  | array ds => exact absurd rfl (h ds)
  | number v => cases v <;> rfl
  | _ => rfl

end Decoding
end ProtocolTypes
