import ProtocolTypes.Proofs.Binary64.Integers
import ProtocolTypes.Proofs.Decoding.ModelDocument
import ProtocolTypes.Proofs.Decoding.Text
import ProtocolTypes.Proofs.Decoding.TypeNodes
import ProtocolTypes.Proofs.Json.Compact
import ProtocolTypes.Proofs.Model.TypeExpr

/-!
# ProtocolTypes.Proofs.Decoding.RoundTrip

Decoding gives back the model that a document spells.
-/

namespace ProtocolTypes

open Json Decoding Document

/-! ## Members that are there -/

namespace Json
namespace Document

section Present

variable {fs : List (String × Option Document)} {key : String} {v : Option Document}

theorem keys_present (fs : List (String × Option Document)) :
    ((present fs).map (·.1)).Sublist (fs.map (·.1)) := by
  induction fs with
  | nil => exact .slnil
  | cons f fs ih =>
    obtain ⟨k, v⟩ := f
    cases v with
    | none => simpa [present] using ih.cons k
    | some d => simpa [present] using ih

theorem valuesAt_present (hnodup : (fs.map (·.1)).Nodup) (hmem : (key, v) ∈ fs) :
    valuesAt key (present fs) = v.toList := by
  induction fs with
  | nil => cases hmem
  | cons f fs ih =>
    obtain ⟨k, w⟩ := f
    obtain ⟨hk, hnodup⟩ := List.nodup_cons.mp hnodup
    have hcons : valuesAt key (present ((k, w) :: fs)) =
        if k = key then w.toList ++ valuesAt key (present fs) else valuesAt key (present fs) := by
      cases w <;> simp [present, valuesAt_cons]
    rw [hcons]
    obtain heq | hmem := List.mem_cons.mp hmem
    · cases heq
      rw [if_pos rfl, valuesAt_of_not_mem fun h => hk ((keys_present fs).subset h),
        List.append_nil]
    · have hne : k ≠ key := fun hkey => hk (hkey ▸ List.mem_map.mpr ⟨_, hmem, rfl⟩)
      rw [if_neg hne, ih hnodup hmem]

theorem lastOfEach_of_nodup {ms : List (String × Document)} (h : (ms.map (·.1)).Nodup) :
    lastOfEach ms = ms := by
  induction ms with
  | nil => rfl
  | cons m ms ih =>
    obtain ⟨k, d⟩ := m
    obtain ⟨hk, hnodup⟩ := List.nodup_cons.mp h
    rw [lastOfEach, valuesAt_of_not_mem hk, ih hnodup]
    rfl

theorem lastOfEach_present (hnodup : (fs.map (·.1)).Nodup) :
    lastOfEach (present fs) = present fs :=
  lastOfEach_of_nodup (hnodup.sublist (keys_present fs))

end Present

theorem mapM_document {α : Type} {document : α → Document} {decode : Document → Option α}
    {xs : List α} (h : ∀ x ∈ xs, decode (document x) = some x) :
    (xs.map document).mapM decode = some xs := by
  induction xs with
  | nil => rfl
  | cons x xs ih =>
    obtain ⟨hx, hxs⟩ := List.forall_mem_cons.mp h
    simp [List.mapM_cons, hx, ih hxs]

end Document
end Json

namespace Decoding

/-! ## Fields -/

theorem join_map_some {α : Type} (o : Option α) : (o.map some).join = o := by
  cases o <;> rfl

section Fields

variable {fs : List (String × Option Document)} {key : String} {β : Type}
  {decode : Document → Option β}

theorem field_required {d : Document} {x : β} (hnodup : (fs.map (·.1)).Nodup)
    (hmem : (key, some d) ∈ fs) (hd : decode d = some x) :
    field key decode (present fs) = some (some x) := by
  rw [field, valuesAt_present hnodup hmem]
  simp [hd]

theorem field_optional {α : Type} {o : Option α} {f : α → Document} {g : α → β}
    (hnodup : (fs.map (·.1)).Nodup) (hmem : (key, o.map f) ∈ fs)
    (hf : ∀ x, o = some x → decode (f x) = some (g x)) :
    field key decode (present fs) = some (o.map g) := by
  rw [field, valuesAt_present hnodup hmem]
  cases o with
  | none => rfl
  | some x => simp [hf x rfl]

/-- The field gives a value, which is the default where nothing is written. -/
def FieldGives (key : String) (decode : Document → Option β) (ms : List (String × Document))
    (default x : β) : Prop :=
  ∃ y, field key decode ms = some y ∧ y.getD default = x

theorem field_flag {b : Bool} (hnodup : (fs.map (·.1)).Nodup) (hmem : (key, flag b) ∈ fs) :
    FieldGives key bool? (present fs) false b := by
  rw [FieldGives, field, valuesAt_present hnodup hmem]
  cases b with
  | false => exact ⟨none, rfl, rfl⟩
  | true => exact ⟨some true, rfl, rfl⟩

theorem field_items {xs : List β} {document : β → Document}
    (hnodup : (fs.map (·.1)).Nodup) (hmem : (key, items (xs.map document)) ∈ fs)
    (hxs : ∀ x ∈ xs, decode (document x) = some x) :
    FieldGives key (list? decode) (present fs) [] xs := by
  rw [FieldGives, field, valuesAt_present hnodup hmem]
  cases xs with
  | nil => exact ⟨none, rfl, rfl⟩
  | cons x xs =>
    have hwritten : (items ((x :: xs).map document)).toList = [.array ((x :: xs).map document)] :=
      rfl
    have hlist : list? decode (.array ((x :: xs).map document)) = some (x :: xs) :=
      mapM_document hxs
    rw [hwritten, fill_none_cons, hlist]
    exact ⟨some (x :: xs), rfl, rfl⟩

theorem annotations?_present {a : Annotations} (hnodup : (fs.map (·.1)).Nodup)
    (hmem : ∀ m ∈ a.members, m ∈ fs) : annotations? (present fs) = some a := by
  simp only [Annotations.members, List.forall_mem_cons] at hmem
  obtain ⟨hdocumentation, hsince, hproposed, hdeprecated, -⟩ := hmem
  have htext {key : String} {o : Option String} (hmem : (key, text o) ∈ fs) :
      field key (json? AnnotationParts.optionalText) (present fs) = some (o.map some) :=
    field_optional hnodup hmem fun _ _ => rfl
  obtain ⟨proposed, hproposed, hset⟩ := field_flag hnodup hproposed
  rw [annotations?, htext hdocumentation, htext hsince, json?_toBool, hproposed, htext hdeprecated]
  simp [hset, join_map_some]

end Fields

/-! ## Type expressions -/

theorem kind?_node (kind : TypeKind) {payload : List (String × Document)}
    (h : "kind" ∉ payload.map (·.1)) :
    kind? (("kind", .string kind.name) :: payload) = some kind := by
  rw [kind?, last?, valuesAt_cons_self, valuesAt_of_not_mem h]
  exact TypeKind.ofName?_name kind

theorem typeExpr?_node (kind : TypeKind) {payload : List (String × Document)}
    (h : "kind" ∉ payload.map (·.1)) :
    typeExpr? (node kind payload) = payload? kind (("kind", .string kind.name) :: payload) := by
  rw [node, typeExpr?_object, kind?_node kind h]
  rfl

theorem json?_toInt64 (i : Int64) : json? toInt64 (integer i.toInt) = some i := by
  have hrange : Int64.minValue.toInt ≤ i.toInt ∧ i.toInt ≤ Int64.maxValue.toInt :=
    ⟨i.minValue_le_toInt, i.toInt_le⟩
  rw [json?, integer, toJson, toInt64, toInteger, if_pos hrange]
  simp [Except.map]

section Property

variable {p : Property} (htype : typeExpr? p.type.document = some p.type)
include htype

theorem property?_document : property? p.document = some p := by
  have hnodup : (p.members.map (·.1)).Nodup := by
    simp [Property.members, propertyMembers, Annotations.members]
  have hname : field "name" text? (present p.members) = some (some p.name) :=
    field_required (d := .string p.name) hnodup (by simp [Property.members, propertyMembers]) rfl
  have htype : field "type" typeExpr? (present p.members) = some (some p.type) :=
    field_required hnodup (by simp [Property.members, propertyMembers]) htype
  obtain ⟨optional, hoptional, hset⟩ :
      FieldGives "optional" bool? (present p.members) false p.optional :=
    field_flag hnodup (by simp [Property.members, propertyMembers])
  have hannotations : annotations? (present p.members) = some p.annotations :=
    annotations?_present hnodup (by simp +contextual [Property.members, propertyMembers])
  rw [Property.document_eq, property?, members?_bind, hname, htype, hoptional, hannotations]
  cases p
  simpa using hset

theorem inlineProperty?_document : inlineProperty? p.document = some p := by
  have hnodup : (p.members.map (·.1)).Nodup := by
    simp [Property.members, propertyMembers, Annotations.members]
  rw [Property.document_eq, inlineProperty?_object, lastOfEach_present hnodup,
    ← Property.document_eq]
  exact property?_document htype

end Property

theorem literal?_document {l : StructLiteral}
    (hproperties : ∀ p ∈ l.properties, inlineProperty? p.document = some p) :
    literal? l.document = some l := by
  have hnodup : (l.members.map (·.1)).Nodup := by
    simp [StructLiteral.members, literalMembers, Annotations.members]
  obtain ⟨properties, hproperties, hlist⟩ :
      FieldGives "properties" (list? inlineProperty?) (present l.members) [] l.properties :=
    field_items hnodup (by simp [StructLiteral.members, literalMembers]) hproperties
  have hannotations : annotations? (present l.members) = some l.annotations :=
    annotations?_present hnodup (by simp +contextual [StructLiteral.members, literalMembers])
  rw [StructLiteral.document_eq, literal?_object, lastOfEach_present hnodup, hproperties,
    hannotations]
  cases l
  simpa using hlist

theorem list?_documents {ts : List TypeExpr} (h : ∀ t ∈ ts, typeExpr? t.document = some t) :
    list? typeExpr? (.array (TypeExpr.documents ts)) = some ts := by
  rw [TypeExpr.documents_eq]
  exact mapM_document h

theorem typeExpr?_document (t : TypeExpr) : typeExpr? t.document = some t := by
  induction t using TypeExpr.induct with
  | step t ih =>
    cases t with
    | base name | reference name | stringLiteral value | booleanLiteral value =>
      rw [TypeExpr.document, typeExpr?_node _ (by simp)]
      simp [payload?, last?, valuesAt_cons, text?, bool?]
    | integerLiteral value =>
      rw [TypeExpr.document, typeExpr?_node _ (by simp)]
      simp [payload?, last?, valuesAt_cons, json?_toInt64]
    | array element =>
      have helement : typeExpr? element.document = some element :=
        ih element (by simp [TypeExpr.children])
      rw [TypeExpr.document, typeExpr?_node _ (by simp)]
      simp [payload?, last?, valuesAt_cons, helement]
    | map key value =>
      have hkey : typeExpr? key.document = some key := ih key (by simp [TypeExpr.children])
      have hvalue : typeExpr? value.document = some value := ih value (by simp [TypeExpr.children])
      rw [TypeExpr.document, typeExpr?_node _ (by simp)]
      simp [payload?, last?, valuesAt_cons, hkey, hvalue]
    | and items | or items | tuple items =>
      have hitems : list? typeExpr? (.array (TypeExpr.documents items)) = some items :=
        list?_documents ih
      rw [TypeExpr.document, typeExpr?_node _ (by simp)]
      simp [payload?, last?, valuesAt_cons, hitems]
    | literal l =>
      have hliteral : literal? l.document = some l := literal?_document fun p hp =>
        inlineProperty?_document (ih p.type (List.mem_map.mpr ⟨p, hp, rfl⟩))
      rw [TypeExpr.document, typeExpr?_node _ (by simp)]
      simp [payload?, last?, valuesAt_cons, hliteral]

theorem field_types {fs : List (String × Option Document)} {key : String} {ts : List TypeExpr}
    (hnodup : (fs.map (·.1)).Nodup) (hmem : (key, items (ts.map TypeExpr.document)) ∈ fs) :
    FieldGives key (list? typeExpr?) (present fs) [] ts :=
  field_items hnodup hmem fun t _ => typeExpr?_document t

/-! ## Declarations -/

theorem structure?_document (s : Structure) : structure? s.document = some s := by
  have hnodup : (s.members.map (·.1)).Nodup := by simp [Structure.members, Annotations.members]
  have hname : field "name" text? (present s.members) = some (some s.name) :=
    field_required (d := .string s.name) hnodup (by simp [Structure.members]) rfl
  obtain ⟨properties, hproperties, hp⟩ :
      FieldGives "properties" (list? property?) (present s.members) [] s.properties :=
    field_items hnodup (by simp [Structure.members]) fun p _ =>
      property?_document (typeExpr?_document p.type)
  obtain ⟨bases, hbases, hb⟩ :
      FieldGives "extends" (list? typeExpr?) (present s.members) [] s.bases :=
    field_types hnodup (by simp [Structure.members])
  obtain ⟨mixins, hmixins, hm⟩ :
      FieldGives "mixins" (list? typeExpr?) (present s.members) [] s.mixins :=
    field_types hnodup (by simp [Structure.members])
  have hannotations : annotations? (present s.members) = some s.annotations :=
    annotations?_present hnodup (by simp +contextual [Structure.members])
  rw [Structure.document, structure?, members?_bind, hname, hproperties, hbases, hmixins,
    hannotations]
  simp [hp, hb, hm]

theorem enumerationValue_document {v : EnumerationValue} (h : v.IsExact) :
    json? enumerationValue v.document = some v := by
  cases v with
  | string s => rfl
  | number x => exact congrArg (fun y => some (EnumerationValue.number y)) h.ofInt_truncate

theorem enumerator?_document {e : EnumerationEntry} (h : e.value.IsExact) :
    enumerator? e.document = some e := by
  have hnodup : (e.members.map (·.1)).Nodup := by
    simp [EnumerationEntry.members, Annotations.members]
  have hname : field "name" text? (present e.members) = some (some e.name) :=
    field_required (d := .string e.name) hnodup (by simp [EnumerationEntry.members]) rfl
  have hvalue : field "value" (json? enumerationValue) (present e.members) = some (some e.value) :=
    field_required hnodup (by simp [EnumerationEntry.members]) (enumerationValue_document h)
  have hannotations : annotations? (present e.members) = some e.annotations :=
    annotations?_present hnodup (by simp +contextual [EnumerationEntry.members])
  rw [EnumerationEntry.document, enumerator?, members?_bind, hname, hvalue, hannotations]
  rfl

theorem enumeration?_document {e : Enumeration} (h : ∀ v ∈ e.values, v.value.IsExact) :
    enumeration? e.document = some e := by
  have hnodup : (e.members.map (·.1)).Nodup := by simp [Enumeration.members, Annotations.members]
  have hname : field "name" text? (present e.members) = some (some e.name) :=
    field_required (d := .string e.name) hnodup (by simp [Enumeration.members]) rfl
  have htype : field "type" typeExpr? (present e.members) = some (some e.type) :=
    field_required hnodup (by simp [Enumeration.members]) (typeExpr?_document e.type)
  obtain ⟨values, hvalues, hv⟩ :
      FieldGives "values" (list? enumerator?) (present e.members) [] e.values :=
    field_items hnodup (by simp [Enumeration.members]) fun v hv => enumerator?_document (h v hv)
  obtain ⟨custom, hcustom, hc⟩ :
      FieldGives "supportsCustomValues" bool? (present e.members) false e.supportsCustomValues :=
    field_flag hnodup (by simp [Enumeration.members])
  have hannotations : annotations? (present e.members) = some e.annotations :=
    annotations?_present hnodup (by simp +contextual [Enumeration.members])
  rw [Enumeration.document, enumeration?, members?_bind, hname, htype, hvalues, hcustom,
    hannotations]
  simp [hv, hc]

theorem alias?_document (a : TypeAlias) : alias? a.document = some a := by
  have hnodup : (a.members.map (·.1)).Nodup := by simp [TypeAlias.members, Annotations.members]
  have hname : field "name" text? (present a.members) = some (some a.name) :=
    field_required (d := .string a.name) hnodup (by simp [TypeAlias.members]) rfl
  have htype : field "type" typeExpr? (present a.members) = some (some a.type) :=
    field_required hnodup (by simp [TypeAlias.members]) (typeExpr?_document a.type)
  have hannotations : annotations? (present a.members) = some a.annotations :=
    annotations?_present hnodup (by simp +contextual [TypeAlias.members])
  rw [TypeAlias.document, alias?, members?_bind, hname, htype, hannotations]
  rfl

/-! ## Messages -/

theorem direction?_document (d : MessageDirection) : direction? d.document = some d := by
  cases d <;> decide

theorem optional?_typeExpr?_document (t : TypeExpr) :
    optional? typeExpr? t.document = some (some t) := by
  have hdecode := typeExpr?_document t
  obtain ⟨ms, hms⟩ := t.document_eq_object
  rw [hms] at hdecode ⊢
  rw [optional?, hdecode]
  · rfl
  · intro hnull
    cases hnull

theorem oneOrMore?_document (ts : OneOrMore TypeExpr) : oneOrMore? ts.document = some ts := by
  obtain ⟨t, tail⟩ := ts
  cases tail with
  | nil =>
    have hsingle : OneOrMore.document ⟨t, []⟩ = t.document := rfl
    have hdecode := typeExpr?_document t
    obtain ⟨ms, hms⟩ := t.document_eq_object
    rw [hsingle, oneOrMore?_of_not_array (by simp [hms]), hdecode]
    rfl
  | cons u us =>
    have hseveral : OneOrMore.document ⟨t, u :: us⟩ =
        .array ((t :: u :: us).map TypeExpr.document) := rfl
    have hdecode : ((t :: u :: us).map TypeExpr.document).mapM typeExpr? = some (t :: u :: us) :=
      mapM_document fun t _ => typeExpr?_document t
    rw [hseveral, oneOrMore?_array, hdecode]
    rfl

theorem params?_document (ts : OneOrMore TypeExpr) : params? ts.document = some (some ts) := by
  have hdecode : json? (oneOrMore typeExpr) ts.document = some ts := oneOrMore?_document ts
  have hnull : ts.document ≠ .null := by
    obtain ⟨t, tail⟩ := ts
    cases tail with
    | nil =>
      obtain ⟨ms, hms⟩ := t.document_eq_object
      simp [OneOrMore.document, hms]
    | cons u us => simp [OneOrMore.document]
  rw [params?, optional?, hdecode]
  · rfl
  · exact hnull

section Messages

variable {fs : List (String × Option Document)} {key : String}

theorem field_params {ts : Option (OneOrMore TypeExpr)} (hnodup : (fs.map (·.1)).Nodup)
    (hmem : (key, ts.map OneOrMore.document) ∈ fs) :
    field key params? (present fs) = some (ts.map some) :=
  field_optional hnodup hmem fun ts _ => params?_document ts

theorem field_optionalType {t : Option TypeExpr} (hnodup : (fs.map (·.1)).Nodup)
    (hmem : (key, t.map TypeExpr.document) ∈ fs) :
    field key (optional? typeExpr?) (present fs) = some (t.map some) :=
  field_optional hnodup hmem fun t _ => optional?_typeExpr?_document t

theorem field_optionalText {s : Option String} (hnodup : (fs.map (·.1)).Nodup)
    (hmem : (key, text s) ∈ fs) :
    field key (optional? text?) (present fs) = some (s.map some) :=
  field_optional hnodup hmem fun _ _ => rfl

end Messages

theorem request?_document (r : Request) : request? r.document = some r := by
  have hnodup : (r.members.map (·.1)).Nodup := by simp [Request.members, Annotations.members]
  have hmethod : field "method" text? (present r.members) = some (some r.method) :=
    field_required (d := .string r.method) hnodup (by simp [Request.members]) rfl
  have hresult : field "result" typeExpr? (present r.members) = some (some r.result) :=
    field_required hnodup (by simp [Request.members]) (typeExpr?_document r.result)
  have hparams : field "params" params? (present r.members) = some (r.params.map some) :=
    field_params hnodup (by simp [Request.members])
  have hpartialResult : field "partialResult" (optional? typeExpr?) (present r.members) =
      some (r.partialResult.map some) := field_optionalType hnodup (by simp [Request.members])
  have herrorData : field "errorData" (optional? typeExpr?) (present r.members) =
      some (r.errorData.map some) := field_optionalType hnodup (by simp [Request.members])
  have hmethod' : field "registrationMethod" (optional? text?) (present r.members) =
      some (r.registrationMethod.map some) := field_optionalText hnodup (by simp [Request.members])
  have hoptions : field "registrationOptions" (optional? typeExpr?) (present r.members) =
      some (r.registrationOptions.map some) := field_optionalType hnodup (by simp [Request.members])
  have hdirection : field "messageDirection" direction? (present r.members) =
      some (some r.messageDirection) :=
    field_required hnodup (by simp [Request.members]) (direction?_document r.messageDirection)
  have hannotations : annotations? (present r.members) = some r.annotations :=
    annotations?_present hnodup (by simp +contextual [Request.members])
  rw [Request.document, request?, members?_bind, hmethod, hresult, hparams, hpartialResult,
    herrorData, hmethod', hoptions, hdirection, hannotations]
  simp only [Option.bind_eq_bind, Option.bind_some, join_map_some]
  rfl

theorem notification?_document (n : Notification) : notification? n.document = some n := by
  have hnodup : (n.members.map (·.1)).Nodup := by simp [Notification.members, Annotations.members]
  have hmethod : field "method" text? (present n.members) = some (some n.method) :=
    field_required (d := .string n.method) hnodup (by simp [Notification.members]) rfl
  have hparams : field "params" params? (present n.members) = some (n.params.map some) :=
    field_params hnodup (by simp [Notification.members])
  have hmethod' : field "registrationMethod" (optional? text?) (present n.members) =
      some (n.registrationMethod.map some) :=
    field_optionalText hnodup (by simp [Notification.members])
  have hoptions : field "registrationOptions" (optional? typeExpr?) (present n.members) =
      some (n.registrationOptions.map some) :=
    field_optionalType hnodup (by simp [Notification.members])
  have hdirection : field "messageDirection" direction? (present n.members) =
      some (some n.messageDirection) :=
    field_required hnodup (by simp [Notification.members]) (direction?_document n.messageDirection)
  have hannotations : annotations? (present n.members) = some n.annotations :=
    annotations?_present hnodup (by simp +contextual [Notification.members])
  rw [Notification.document, notification?, members?_bind, hmethod, hparams, hmethod', hoptions,
    hdirection, hannotations]
  simp only [Option.bind_eq_bind, Option.bind_some, join_map_some]
  rfl

/-! ## The model -/

theorem field_metaData {m : MetaModel} (hnodup : (m.members.map (·.1)).Nodup) :
    FieldGives "metaData" metaData? (present m.members) "" m.version := by
  rw [FieldGives, field, valuesAt_present (v := m.metaData) hnodup (by simp [MetaModel.members]),
    MetaModel.metaData]
  split
  · rename_i hversion
    exact ⟨none, rfl, hversion.symm⟩
  · exact ⟨some m.version, rfl, rfl⟩

theorem metaModel?_document {m : MetaModel}
    (h : ∀ e ∈ m.enumerations, ∀ v ∈ e.values, v.value.IsExact) :
    metaModel? m.document = some m := by
  have hnodup : (m.members.map (·.1)).Nodup := by simp [MetaModel.members]
  obtain ⟨version, hversion, hv⟩ := field_metaData hnodup
  obtain ⟨requests, hrequests, hr⟩ :
      FieldGives "requests" (list? request?) (present m.members) [] m.requests :=
    field_items hnodup (by simp [MetaModel.members]) fun r _ => request?_document r
  obtain ⟨notifications, hnotifications, hn⟩ :
      FieldGives "notifications" (list? notification?) (present m.members) [] m.notifications :=
    field_items hnodup (by simp [MetaModel.members]) fun n _ => notification?_document n
  obtain ⟨structures, hstructures, hs⟩ :
      FieldGives "structures" (list? structure?) (present m.members) [] m.structures :=
    field_items hnodup (by simp [MetaModel.members]) fun s _ => structure?_document s
  obtain ⟨enumerations, henumerations, he⟩ :
      FieldGives "enumerations" (list? enumeration?) (present m.members) [] m.enumerations :=
    field_items hnodup (by simp [MetaModel.members]) fun e hmem => enumeration?_document (h e hmem)
  obtain ⟨typeAliases, htypeAliases, ha⟩ :
      FieldGives "typeAliases" (list? alias?) (present m.members) [] m.typeAliases :=
    field_items hnodup (by simp [MetaModel.members]) fun a _ => alias?_document a
  rw [MetaModel.document, metaModel?, membersOr?_bind, hversion, hrequests, hnotifications,
    hstructures, henumerations, htypeAliases]
  simp [hv, hr, hn, hs, he, ha]

end Decoding

/-! ## Documents of models are whole -/

namespace Json
namespace Document

/-- Whatever is written of a list of members is whole. -/
def WholeMembers (fs : List (String × Option Document)) : Prop :=
  ∀ f ∈ fs, ∀ d, f.2 = some d → d.Whole

section WholeMembers

variable {fs : List (String × Option Document)} {key : String}

theorem whole_present (h : WholeMembers fs) : (Document.object (present fs)).Whole := by
  refine .object fun m hm => ?_
  obtain ⟨f, hf, hm⟩ := List.mem_filterMap.mp hm
  obtain ⟨d, hd, rfl⟩ := Option.map_eq_some_iff.mp hm
  exact h f hf d hd

theorem WholeMembers.nil : WholeMembers [] :=
  fun _ h => nomatch h

theorem WholeMembers.cons {v : Option Document} (hv : ∀ d, v = some d → d.Whole)
    (h : WholeMembers fs) : WholeMembers ((key, v) :: fs) :=
  List.forall_mem_cons.mpr ⟨hv, h⟩

theorem WholeMembers.required {d : Document} (hd : d.Whole) (h : WholeMembers fs) :
    WholeMembers ((key, some d) :: fs) :=
  .cons (fun _ he => Option.some.inj he ▸ hd) h

theorem WholeMembers.optional {α : Type} {o : Option α} {document : α → Document}
    (ho : ∀ x, (document x).Whole) (h : WholeMembers fs) :
    WholeMembers ((key, o.map document) :: fs) := by
  refine .cons (fun d hd => ?_) h
  obtain ⟨x, -, rfl⟩ := Option.map_eq_some_iff.mp hd
  exact ho x

theorem WholeMembers.text {s : Option String} (h : WholeMembers fs) :
    WholeMembers ((key, Document.text s) :: fs) :=
  .optional .string h

theorem WholeMembers.flag {b : Bool} (h : WholeMembers fs) :
    WholeMembers ((key, Document.flag b) :: fs) := by
  refine .cons (fun d hd => ?_) h
  cases b <;> cases hd
  exact .bool true

theorem WholeMembers.items {α : Type} {xs : List α} {document : α → Document}
    (hxs : ∀ x ∈ xs, (document x).Whole) (h : WholeMembers fs) :
    WholeMembers ((key, Document.items (xs.map document)) :: fs) := by
  refine .cons (fun d hd => ?_) h
  cases xs with
  | nil => cases hd
  | cons x xs =>
    cases hd
    exact .array (List.forall_mem_map.mpr hxs)

end WholeMembers

theorem whole_node (kind : TypeKind) {payload : List (String × Document)}
    (h : ∀ m ∈ payload, m.2.Whole) : (node kind payload).Whole :=
  .object (List.forall_mem_cons.mpr ⟨.string kind.name, h⟩)

theorem whole_integer {i : Int} (lo : Int64.minValue.toInt ≤ i) (hi : i ≤ Int64.maxValue.toInt) :
    (integer i).Whole :=
  .integer lo (Int.lt_of_le_of_lt hi (by decide))

end Document
end Json

theorem Annotations.whole_members (a : Annotations) : WholeMembers a.members :=
  .text <| .text <| .flag <| .text .nil

theorem Property.whole_document {p : Property} (h : p.type.document.Whole) : p.document.Whole := by
  rw [Property.document_eq]
  exact whole_present <| .required (.string p.name) <| .required h <|
    .flag p.annotations.whole_members

theorem StructLiteral.whole_document {l : StructLiteral}
    (h : ∀ p ∈ l.properties, p.type.document.Whole) : l.document.Whole := by
  rw [StructLiteral.document_eq]
  exact whole_present <| .items (fun p hp => Property.whole_document (h p hp))
    l.annotations.whole_members

theorem TypeExpr.whole_document (t : TypeExpr) : t.document.Whole := by
  induction t using TypeExpr.induct with
  | step t ih =>
    cases t with
    | base name | reference name | stringLiteral name =>
      rw [TypeExpr.document]
      exact whole_node _ (List.forall_mem_singleton.mpr (.string name))
    | booleanLiteral value =>
      rw [TypeExpr.document]
      exact whole_node _ (List.forall_mem_singleton.mpr (.bool value))
    | integerLiteral value =>
      rw [TypeExpr.document]
      exact whole_node _ (List.forall_mem_singleton.mpr
        (whole_integer value.minValue_le_toInt value.toInt_le))
    | array element =>
      rw [TypeExpr.document]
      exact whole_node _ (List.forall_mem_singleton.mpr (ih element List.mem_cons_self))
    | map key value =>
      rw [TypeExpr.document]
      refine whole_node _ (List.forall_mem_cons.mpr ⟨ih key List.mem_cons_self, ?_⟩)
      exact List.forall_mem_singleton.mpr (ih value (List.mem_cons_of_mem _ List.mem_cons_self))
    | and items | or items | tuple items =>
      rw [TypeExpr.document, TypeExpr.documents_eq]
      exact whole_node _ (List.forall_mem_singleton.mpr (.array (List.forall_mem_map.mpr ih)))
    | literal l =>
      rw [TypeExpr.document]
      refine whole_node _ (List.forall_mem_singleton.mpr (StructLiteral.whole_document ?_))
      exact fun p hp => ih p.type (List.mem_map.mpr ⟨p, hp, rfl⟩)

theorem Structure.whole_document (s : Structure) : s.document.Whole :=
  whole_present <| .required (.string s.name) <|
    .items (fun p _ => Property.whole_document p.type.whole_document) <|
    .items (fun t _ => t.whole_document) <| .items (fun t _ => t.whole_document)
    s.annotations.whole_members

theorem EnumerationValue.whole_document {v : EnumerationValue} (h : v.IsExact) :
    v.document.Whole := by
  cases v with
  | string s => exact .string s
  | number x =>
    have hle : x.truncate.natAbs ≤ 1 <<< 53 := Binary64.IsExactInteger.natAbs_truncate_le h
    have hmin : Int64.minValue.toInt = -9223372036854775808 := rfl
    have hmax : Int64.maxValue.toInt = 9223372036854775807 := rfl
    have hbound : 1 <<< 53 = 9007199254740992 := rfl
    exact whole_integer (by omega) (by omega)

theorem EnumerationEntry.whole_document {e : EnumerationEntry} (h : e.value.IsExact) :
    e.document.Whole :=
  whole_present <| .required (.string e.name) <|
    .required (EnumerationValue.whole_document h) e.annotations.whole_members

theorem Enumeration.whole_document {e : Enumeration} (h : ∀ v ∈ e.values, v.value.IsExact) :
    e.document.Whole :=
  whole_present <| .required (.string e.name) <| .required e.type.whole_document <|
    .items (fun v hv => EnumerationEntry.whole_document (h v hv)) <|
    .flag e.annotations.whole_members

theorem TypeAlias.whole_document (a : TypeAlias) : a.document.Whole :=
  whole_present <| .required (.string a.name) <| .required a.type.whole_document
    a.annotations.whole_members

theorem OneOrMore.whole_document (ts : OneOrMore TypeExpr) : ts.document.Whole := by
  rw [OneOrMore.document]
  split
  · exact ts.head.whole_document
  · exact .array (List.forall_mem_map.mpr fun t _ => t.whole_document)

theorem Request.whole_document (r : Request) : r.document.Whole :=
  whole_present <| .required (.string r.method) <| .required r.result.whole_document <|
    .optional OneOrMore.whole_document <| .optional TypeExpr.whole_document <|
    .optional TypeExpr.whole_document <| .text <| .optional TypeExpr.whole_document <|
    .required (.string r.messageDirection.name) r.annotations.whole_members

theorem Notification.whole_document (n : Notification) : n.document.Whole :=
  whole_present <| .required (.string n.method) <| .optional OneOrMore.whole_document <|
    .text <| .optional TypeExpr.whole_document <|
    .required (.string n.messageDirection.name) n.annotations.whole_members

namespace MetaModel

theorem whole_metaData (m : MetaModel) : ∀ d, m.metaData = some d → d.Whole := by
  intro d hd
  rw [metaData] at hd
  split at hd <;> cases hd
  exact .object (List.forall_mem_singleton.mpr (.string m.version))

section Exact

variable {m : MetaModel} (hexact : ∀ e ∈ m.enumerations, ∀ v ∈ e.values, v.value.IsExact)
include hexact

theorem whole_document : m.document.Whole :=
  whole_present <| .cons m.whole_metaData <| .items (fun r _ => r.whole_document) <|
    .items (fun n _ => n.whole_document) <| .items (fun s _ => s.whole_document) <|
    .items (fun e he => Enumeration.whole_document (hexact e he)) <|
    .items (fun a _ => a.whole_document) .nil

/-! ## Texts -/

theorem parseText_of_writtenAs (hdepth : m.document.depth ≤ maxDepth) {text : String}
    (htext : m.document.WrittenAs text) : parseText text = .ok m := by
  obtain ⟨e, he⟩ := Option.isSome_iff_exists.mp
    (isSome_read metaModelShape (whole_document hexact) hdepth)
  have hparse := parseText_toOption htext
  rw [he, Option.bind_some, metaModel?_document hexact] at hparse
  exact toOption_eq_some.mp hparse

/-- The document of a model can be written, and every spelling of it is parsed to the model. -/
theorem parseText_document (hdepth : m.document.depth ≤ maxDepth) :
    m.document.WrittenAs (.ofList m.document.compact) ∧
      ∀ text, m.document.WrittenAs text → parseText text = .ok m := by
  refine ⟨writtenAs_compact (whole_document hexact), fun text htext => ?_⟩
  exact parseText_of_writtenAs hexact hdepth htext

end Exact

namespace Sample

/-- A model with a bare parameter and a negative number. -/
def codes : MetaModel where
  version := ""
  requests := []
  notifications :=
    [⟨"exit", some ⟨.map (.base "string") (.integerLiteral (-1)), []⟩, none, none, .both, {}⟩]
  structures := []
  enumerations :=
    [⟨"Code", .base "integer", [⟨"Low", .number (.ofInt (-3)), { since := some "2" }⟩], false, {}⟩]
  typeAliases := []

def codesText : String :=
  "\x7b\"notifications\":[\x7b\"method\":\"exit\",\"params\":\x7b\"kind\":\"map\"," ++
    "\"key\":\x7b\"kind\":\"base\",\"name\":\"string\"\x7d," ++
    "\"value\":\x7b\"kind\":\"integerLiteral\",\"value\":-1\x7d\x7d," ++
    "\"messageDirection\":\"both\"\x7d]," ++
    "\"enumerations\":[\x7b\"name\":\"Code\"," ++
    "\"type\":\x7b\"kind\":\"base\",\"name\":\"integer\"\x7d," ++
    "\"values\":[\x7b\"name\":\"Low\",\"value\":-3,\"since\":\"2\"\x7d]\x7d]\x7d"

theorem parseText_codesText :
    (∀ e ∈ codes.enumerations, ∀ v ∈ e.values, v.value.IsExact) ∧
      codes.document.depth ≤ maxDepth ∧ codes.document.WrittenAs codesText ∧
      parseText codesText = .ok codes := by
  have hexact : ∀ e ∈ codes.enumerations, ∀ v ∈ e.values, v.value.IsExact := by
    decide +kernel
  have hdepth : codes.document.depth ≤ maxDepth := by
    decide +kernel
  have htext : codesText = .ofList codes.document.compact := by
    decide +kernel
  obtain ⟨hwritten, hparse⟩ := parseText_document hexact hdepth
  rw [← htext] at hwritten
  exact ⟨hexact, hdepth, hwritten, hparse codesText hwritten⟩

end Sample
end MetaModel
end ProtocolTypes
