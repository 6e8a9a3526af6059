import ProtocolTypes.Proofs.Decoding.Fields

/-!
# ProtocolTypes.Proofs.Decoding.Records

What a declaration is decoded from, field by field. For each kind there is a decoder of documents
that looks up every field under its key and nothing else (`property?`, `structure?`, `enumeration?`,
`alias?`), and the decoder of syntax trees sees just that (`sees_property` and so on). Members
without a field of their own only matter as annotations (`annotationsOf_leftovers`).
-/

namespace ProtocolTypes
namespace Decoding

open Json

/-! ## Annotations -/

theorem ofMembers_toOption (p : AnnotationParts) (ms : List (String × Json)) :
    (p.ofMembers ms).toOption = do
      let documentation ← fill (fun v => (AnnotationParts.optionalText v).toOption)
        p.documentation (valuesAt "documentation" ms)
      let since ← fill (fun v => (AnnotationParts.optionalText v).toOption)
        p.since (valuesAt "since" ms)
      let proposed ← fill (fun v => v.toBool.toOption) p.proposed (valuesAt "proposed" ms)
      let deprecated ← fill (fun v => (AnnotationParts.optionalText v).toOption)
        p.deprecated (valuesAt "deprecated" ms)
      return ⟨documentation.join, since.join, proposed.getD false, deprecated.join⟩ := by
  induction ms generalizing p with
  | nil => rfl
  | cons m ms ih =>
    obtain ⟨key, v⟩ := m
    rw [AnnotationParts.ofMembers]
    unfold AnnotationParts.filled AnnotationParts.put
    split
    · cases p.documentation <;> cases hv : AnnotationParts.optionalText v <;>
        simp [ih, valuesAt_cons, Except.map, hv]
    · cases p.since <;> cases hv : AnnotationParts.optionalText v <;>
        simp [ih, valuesAt_cons, Except.map, hv]
    · cases p.proposed <;> cases hv : v.toBool <;>
        simp [ih, valuesAt_cons, Except.map, hv]
    · cases p.deprecated <;> cases hv : AnnotationParts.optionalText v <;>
        simp [ih, valuesAt_cons, Except.map, hv]
    · rename_i h₁ h₂ h₃ h₄
      rw [valuesAt_cons_of_ne h₁, valuesAt_cons_of_ne h₂, valuesAt_cons_of_ne h₃,
        valuesAt_cons_of_ne h₄]
      exact ih p

/-- The annotations among the members of a declaration. -/
def annotations? (ms : List (String × Document)) : Option Annotations := do
  let documentation ← field "documentation" (json? AnnotationParts.optionalText) ms
  let since ← field "since" (json? AnnotationParts.optionalText) ms
  let proposed ← field "proposed" (json? toBool) ms
  let deprecated ← field "deprecated" (json? AnnotationParts.optionalText) ms
  return ⟨documentation.join, since.join, proposed.getD false, deprecated.join⟩

/-- The members under other keys than the given ones, with their values. -/
def leftovers (known : List String) (ms : List (String × Document)) : List (String × Json) :=
  (ms.filter fun m => !known.contains m.1).map fun m => (m.1, m.2.toJson)

theorem leftovers_cons (known : List String) (key : String) (d : Document)
    (ms : List (String × Document)) :
    leftovers known ((key, d) :: ms) =
      if known.contains key then leftovers known ms
      else (key, d.toJson) :: leftovers known ms := by
  by_cases h : key ∈ known <;> simp [leftovers, h]

theorem valuesAt_leftovers {known : List String} {key : String} (h : key ∉ known)
    (ms : List (String × Document)) :
    valuesAt key (leftovers known ms) = (valuesAt key ms).map Document.toJson := by
  rw [leftovers, valuesAt_map, valuesAt_filter h]

/-- Annotations are a matter of the values under their keys. -/
theorem toOption_annotationsOf {js : List (String × Json)} {ms : List (String × Document)}
    (h : ∀ key ∈ AnnotationParts.fields,
      valuesAt key js = (valuesAt key ms).map Document.toJson) :
    (annotationsOf js).toOption = annotations? ms := by
  rw [annotationsOf, ofMembers_toOption, annotations?, h "documentation" (by decide),
    h "since" (by decide), h "proposed" (by decide), h "deprecated" (by decide)]
  simp only [fill_map]
  rfl

/-- Among the members that a declaration has no field of its own for, its annotations are found. -/
theorem annotationsOf_leftovers (known : List String)
    (h : ∀ key ∈ AnnotationParts.fields, key ∉ known) (ms : List (String × Document)) :
    (annotationsOf (leftovers known ms)).toOption = annotations? ms :=
  toOption_annotationsOf fun key hkey => valuesAt_leftovers (h key hkey) ms

theorem sees_keep (key : String) (others : List (String × Json)) :
    Sees (Tree.keep key others) fun d => some ((key, d.toJson) :: others) := by
  intro t
  rw [Tree.keep, toOption_map, sees_toJson t]
  cases t.document? <;> rfl

/-! ## Properties -/

def typeExpr? : Document → Option TypeExpr :=
  json? typeExpr

theorem sees_typeExpr : Sees Tree.toTypeExpr typeExpr? :=
  sees_via typeExpr

def propertyFields : List String :=
  ["name", "type", "optional"]

def property? (d : Document) : Option Property := do
  let ms ← members? d
  let name ← field "name" text? ms
  let type ← field "type" typeExpr? ms
  let optional ← field "optional" bool? ms
  let annotations ← annotations? ms
  return ⟨← name, ← type, optional.getD false, annotations⟩

def gatherProperty (p : PropertyParts) (ms : List (String × Document)) : Option PropertyParts := do
  let name ← fill text? p.name (valuesAt "name" ms)
  let type ← fill typeExpr? p.type (valuesAt "type" ms)
  let optional ← fill bool? p.optional (valuesAt "optional" ms)
  let others := (leftovers propertyFields ms).reverse ++ p.others
  return { name, type, optional, others }

theorem gathers_property : propertyRecord.Gathers gatherProperty where
  nil p := rfl
  filled p key d ms h := by
    simp only [propertyRecord] at h
    split at h <;> simp_all [gatherProperty, valuesAt_cons, fill_cons_of_isSome]
  put p key t ms h := by
    simp only [propertyRecord] at h ⊢
    split at h
    · refine sees_text.put (fun d => ?_) t
      cases hd : text? d <;>
        simp_all [gatherProperty, valuesAt_cons, leftovers_cons, propertyFields]
    · refine sees_typeExpr.put (fun d => ?_) t
      cases hd : typeExpr? d <;>
        simp_all [gatherProperty, valuesAt_cons, leftovers_cons, propertyFields]
    · refine sees_bool.put (fun d => ?_) t
      cases hd : bool? d <;>
        simp_all [gatherProperty, valuesAt_cons, leftovers_cons, propertyFields]
    · refine (sees_keep key p.others).put (fun d => ?_) t
      simp_all [gatherProperty, valuesAt_cons, leftovers_cons, propertyFields]

theorem sees_property : Sees propertyRecord.decode property? := by
  refine gathers_property.sees fun d => Option.bind_congr fun ms _ => ?_
  have hannotations := annotationsOf_leftovers propertyFields (by decide) ms
  simp only [gatherProperty, propertyRecord, field, Option.bind_eq_bind, Option.pure_def,
    Option.bind_assoc, Option.bind_some, List.append_nil, List.reverse_reverse,
    PropertyParts.finish]
  refine Option.bind_congr fun name _ => Option.bind_congr fun type _ =>
    Option.bind_congr fun optional _ => ?_
  cases name <;> cases type <;> simp [toOption_map, hannotations]
  cases annotations? ms <;> rfl

/-! ## Structures -/

def structureFields : List String :=
  ["name", "properties", "extends", "mixins"]

def structure? (d : Document) : Option Structure := do
  let ms ← members? d
  let name ← field "name" text? ms
  let properties ← field "properties" (list? property?) ms
  let bases ← field "extends" (list? typeExpr?) ms
  let mixins ← field "mixins" (list? typeExpr?) ms
  let annotations ← annotations? ms
  return ⟨← name, properties.getD [], bases.getD [], mixins.getD [], annotations⟩

def gatherStructure (p : StructureParts) (ms : List (String × Document)) : Option StructureParts :=
    do
  let name ← fill text? p.name (valuesAt "name" ms)
  let properties ← fill (list? property?) p.properties (valuesAt "properties" ms)
  let bases ← fill (list? typeExpr?) p.bases (valuesAt "extends" ms)
  let mixins ← fill (list? typeExpr?) p.mixins (valuesAt "mixins" ms)
  let others := (leftovers structureFields ms).reverse ++ p.others
  return { name, properties, bases, mixins, others }

theorem gathers_structure : structureRecord.Gathers gatherStructure where
  nil p := rfl
  filled p key d ms h := by
    simp only [structureRecord] at h
    split at h <;> simp_all [gatherStructure, valuesAt_cons, fill_cons_of_isSome]
  put p key t ms h := by
    simp only [structureRecord] at h ⊢
    split at h
    · refine sees_text.put (fun d => ?_) t
      cases hd : text? d <;>
        simp_all [gatherStructure, valuesAt_cons, leftovers_cons, structureFields]
    · refine sees_property.list.put (fun d => ?_) t
      cases hd : list? property? d <;>
        simp_all [gatherStructure, valuesAt_cons, leftovers_cons, structureFields]
    · refine sees_typeExpr.list.put (fun d => ?_) t
      cases hd : list? typeExpr? d <;>
        simp_all [gatherStructure, valuesAt_cons, leftovers_cons, structureFields]
    · refine sees_typeExpr.list.put (fun d => ?_) t
      cases hd : list? typeExpr? d <;>
        simp_all [gatherStructure, valuesAt_cons, leftovers_cons, structureFields]
    · refine (sees_keep key p.others).put (fun d => ?_) t
      simp_all [gatherStructure, valuesAt_cons, leftovers_cons, structureFields]

theorem sees_structure : Sees structureRecord.decode structure? := by
  refine gathers_structure.sees fun d => Option.bind_congr fun ms _ => ?_
  have hannotations := annotationsOf_leftovers structureFields (by decide) ms
  simp only [gatherStructure, structureRecord, field, Option.bind_eq_bind, Option.pure_def,
    Option.bind_assoc, Option.bind_some, List.append_nil, List.reverse_reverse]
  refine Option.bind_congr fun name _ => Option.bind_congr fun properties _ =>
    Option.bind_congr fun bases _ => Option.bind_congr fun mixins _ => ?_
  cases name <;> simp [toOption_map, hannotations]
  cases annotations? ms <;> rfl

/-! ## Enumerations -/

def entryFields : List String :=
  ["name", "value"]

def enumerator? (d : Document) : Option EnumerationEntry := do
  let ms ← members? d
  let name ← field "name" text? ms
  let value ← field "value" (json? enumerationValue) ms
  let annotations ← annotations? ms
  return ⟨← name, ← value, annotations⟩

def gatherEntry (p : EntryParts) (ms : List (String × Document)) : Option EntryParts := do
  let name ← fill text? p.name (valuesAt "name" ms)
  let value ← fill (json? enumerationValue) p.value (valuesAt "value" ms)
  let others := (leftovers entryFields ms).reverse ++ p.others
  return { name, value, others }

theorem gathers_entry : entryRecord.Gathers gatherEntry where
  nil p := rfl
  filled p key d ms h := by
    simp only [entryRecord] at h
    split at h <;> simp_all [gatherEntry, valuesAt_cons, fill_cons_of_isSome]
  put p key t ms h := by
    simp only [entryRecord] at h ⊢
    split at h
    · refine sees_text.put (fun d => ?_) t
      cases hd : text? d <;> simp_all [gatherEntry, valuesAt_cons, leftovers_cons, entryFields]
    · refine (sees_via enumerationValue).put (fun d => ?_) t
      cases hd : json? enumerationValue d <;>
        simp_all [gatherEntry, valuesAt_cons, leftovers_cons, entryFields]
    · refine (sees_keep key p.others).put (fun d => ?_) t
      simp_all [gatherEntry, valuesAt_cons, leftovers_cons, entryFields]

theorem sees_entry : Sees entryRecord.decode enumerator? := by
  refine gathers_entry.sees fun d => Option.bind_congr fun ms _ => ?_
  have hannotations := annotationsOf_leftovers entryFields (by decide) ms
  simp only [gatherEntry, entryRecord, field, Option.bind_eq_bind, Option.pure_def,
    Option.bind_assoc, Option.bind_some, List.append_nil, List.reverse_reverse]
  refine Option.bind_congr fun name _ => Option.bind_congr fun value _ => ?_
  cases name <;> cases value <;> simp [toOption_map, hannotations]
  cases annotations? ms <;> rfl

def enumerationFields : List String :=
  ["name", "type", "values", "supportsCustomValues"]

def enumeration? (d : Document) : Option Enumeration := do
  let ms ← members? d
  let name ← field "name" text? ms
  let type ← field "type" typeExpr? ms
  let values ← field "values" (list? enumerator?) ms
  let supportsCustomValues ← field "supportsCustomValues" bool? ms
  let annotations ← annotations? ms
  return ⟨← name, ← type, values.getD [], supportsCustomValues.getD false, annotations⟩

def gatherEnumeration (p : EnumerationParts) (ms : List (String × Document)) : Option
    EnumerationParts := do
  let name ← fill text? p.name (valuesAt "name" ms)
  let type ← fill typeExpr? p.type (valuesAt "type" ms)
  let values ← fill (list? enumerator?) p.values (valuesAt "values" ms)
  let supportsCustomValues ← fill bool? p.supportsCustomValues (valuesAt "supportsCustomValues" ms)
  let others := (leftovers enumerationFields ms).reverse ++ p.others
  return { name, type, values, supportsCustomValues, others }

theorem gathers_enumeration : enumerationRecord.Gathers gatherEnumeration where
  nil p := rfl
  filled p key d ms h := by
    simp only [enumerationRecord] at h
    split at h <;> simp_all [gatherEnumeration, valuesAt_cons, fill_cons_of_isSome]
  put p key t ms h := by
    simp only [enumerationRecord] at h ⊢
    split at h
    · refine sees_text.put (fun d => ?_) t
      cases hd : text? d <;>
        simp_all [gatherEnumeration, valuesAt_cons, leftovers_cons, enumerationFields]
    · refine sees_typeExpr.put (fun d => ?_) t
      cases hd : typeExpr? d <;>
        simp_all [gatherEnumeration, valuesAt_cons, leftovers_cons, enumerationFields]
    · refine sees_entry.list.put (fun d => ?_) t
      cases hd : list? enumerator? d <;>
        simp_all [gatherEnumeration, valuesAt_cons, leftovers_cons, enumerationFields]
    · refine sees_bool.put (fun d => ?_) t
      cases hd : bool? d <;>
        simp_all [gatherEnumeration, valuesAt_cons, leftovers_cons, enumerationFields]
    · refine (sees_keep key p.others).put (fun d => ?_) t
      simp_all [gatherEnumeration, valuesAt_cons, leftovers_cons, enumerationFields]

theorem sees_enumeration : Sees enumerationRecord.decode enumeration? := by
  refine gathers_enumeration.sees fun d => Option.bind_congr fun ms _ => ?_
  have hannotations := annotationsOf_leftovers enumerationFields (by decide) ms
  simp only [gatherEnumeration, enumerationRecord, field, Option.bind_eq_bind, Option.pure_def,
    Option.bind_assoc, Option.bind_some, List.append_nil, List.reverse_reverse]
  refine Option.bind_congr fun name _ => Option.bind_congr fun type _ =>
    Option.bind_congr fun values _ => Option.bind_congr fun supportsCustomValues _ => ?_
  cases name <;> cases type <;> simp [toOption_map, hannotations]
  cases annotations? ms <;> rfl

/-! ## Aliases -/

def aliasFields : List String :=
  ["name", "type"]

def alias? (d : Document) : Option TypeAlias := do
  let ms ← members? d
  let name ← field "name" text? ms
  let type ← field "type" typeExpr? ms
  let annotations ← annotations? ms
  return ⟨← name, ← type, annotations⟩

def gatherAlias (p : AliasParts) (ms : List (String × Document)) : Option AliasParts := do
  let name ← fill text? p.name (valuesAt "name" ms)
  let type ← fill typeExpr? p.type (valuesAt "type" ms)
  let others := (leftovers aliasFields ms).reverse ++ p.others
  return { name, type, others }

theorem gathers_alias : aliasRecord.Gathers gatherAlias where
  nil p := rfl
  filled p key d ms h := by
    simp only [aliasRecord] at h
    split at h <;> simp_all [gatherAlias, valuesAt_cons, fill_cons_of_isSome]
  put p key t ms h := by
    simp only [aliasRecord] at h ⊢
    split at h
    · refine sees_text.put (fun d => ?_) t
      cases hd : text? d <;> simp_all [gatherAlias, valuesAt_cons, leftovers_cons, aliasFields]
    · refine sees_typeExpr.put (fun d => ?_) t
      cases hd : typeExpr? d <;> simp_all [gatherAlias, valuesAt_cons, leftovers_cons, aliasFields]
    · refine (sees_keep key p.others).put (fun d => ?_) t
      simp_all [gatherAlias, valuesAt_cons, leftovers_cons, aliasFields]

theorem sees_alias : Sees aliasRecord.decode alias? := by
  refine gathers_alias.sees fun d => Option.bind_congr fun ms _ => ?_
  have hannotations := annotationsOf_leftovers aliasFields (by decide) ms
  simp only [gatherAlias, aliasRecord, field, Option.bind_eq_bind, Option.pure_def,
    Option.bind_assoc, Option.bind_some, List.append_nil, List.reverse_reverse]
  refine Option.bind_congr fun name _ => Option.bind_congr fun type _ => ?_
  cases name <;> cases type <;> simp [toOption_map, hannotations]
  cases annotations? ms <;> rfl

end Decoding
end ProtocolTypes
