import ProtocolTypes.Proofs.Decoding.Messages
import ProtocolTypes.Proofs.Json.Reading

/-!
# ProtocolTypes.Proofs.Decoding.Text

What a written meta model is decoded to. The reader skips members that a meta model has no field
for, and nothing that is decoded depends on them (`metaModel?_read`). So the model that a text gives
is a matter of the document written there, provided that its numbers can be represented and its
nesting keeps within the limit (`parseText_toOption`).
-/

namespace ProtocolTypes
namespace Json
namespace Document

/-! ## What has been read -/

section Inversion

variable {room : Nat} {shape : Shape} {d e : Document}

theorem exists_of_read_array {ds : List Document} (h : (array ds).read room shape = some e) :
    ∃ room' es, readItems room' shape.elements ds = some es ∧ e = array es := by
  cases room with
  | zero =>
    rw [read_array_zero] at h
    cases h
  | succ room =>
    rw [read_array_succ, Option.map_eq_some_iff] at h
    obtain ⟨es, hes, rfl⟩ := h
    exact ⟨room, es, hes, rfl⟩

theorem exists_of_read_object {ms : List (String × Document)}
    (h : (object ms).read room shape = some e) :
    ∃ room' es, readMembers room' shape ms = some es ∧ e = object es := by
  cases room with
  | zero =>
    rw [read_object_zero] at h
    cases h
  | succ room =>
    rw [read_object_succ, Option.map_eq_some_iff] at h
    obtain ⟨es, hes, rfl⟩ := h
    exact ⟨room, es, hes, rfl⟩

theorem exists_of_readItems_cons {shapes : List Shape} {ds es : List Document}
    (h : readItems room shapes (d :: ds) = some es) :
    ∃ e es', d.read room (shapes.head?.getD .anything) = some e ∧
      readItems room (shapes.drop 1) ds = some es' ∧ es = e :: es' := by
  rw [readItems, Option.bind_eq_some_iff] at h
  obtain ⟨e, he, h⟩ := h
  obtain ⟨es', hes, rfl⟩ := Option.map_eq_some_iff.mp h
  exact ⟨e, es', he, hes, rfl⟩

theorem exists_of_readMembers_cons {key : String} {ms es : List (String × Document)}
    (h : readMembers room shape ((key, d) :: ms) = some es) :
    ∃ e es',
      (match shape.member? key with
        | some s => d.read room s
        | none => some .unread) = some e ∧
      readMembers room shape ms = some es' ∧ es = (key, e) :: es' := by
  rw [readMembers, Option.bind_eq_some_iff] at h
  obtain ⟨e, he, h⟩ := h
  obtain ⟨es', hes, rfl⟩ := Option.map_eq_some_iff.mp h
  exact ⟨e, es', he, hes, rfl⟩

end Inversion

mutual

/-- A reader that is interested in everything sees the document as it is. -/
theorem eq_of_read_anything (room : Nat) : ∀ {d e : Document}, d.read room .anything = some e →
    e = d
  | .null, _, h | .bool _, _, h | .number (some _), _, h | .string _, _, h | .unread, _, h => by
    cases h
    rfl
  | .number none, _, h => nomatch h
  | .array ds, e, h => by
    obtain ⟨room', es, hes, rfl⟩ := exists_of_read_array h
    rw [eq_of_readItems_nil room' hes]
  | .object ms, e, h => by
    obtain ⟨room', es, hes, rfl⟩ := exists_of_read_object h
    rw [eq_of_readMembers_anything room' hes]

theorem eq_of_readItems_nil (room : Nat) : ∀ {ds es : List Document},
    readItems room [] ds = some es → es = ds
  | [], _, h => by cases h; rfl
  | d :: ds, es, h => by
    obtain ⟨e, es, he, hes, rfl⟩ := exists_of_readItems_cons h
    rw [eq_of_read_anything room he, eq_of_readItems_nil room hes]

theorem eq_of_readMembers_anything (room : Nat) : ∀ {ms es : List (String × Document)},
    readMembers room .anything ms = some es → es = ms
  | [], _, h => by cases h; rfl
  | (key, d) :: ms, es, h => by
    obtain ⟨e, es, he, hes, rfl⟩ := exists_of_readMembers_cons h
    rw [eq_of_read_anything room he, eq_of_readMembers_anything room hes]

end

variable {room : Nat} {shape s : Shape} {key : String}

theorem mapM_valuesAt_of_readMembers (hs : shape.member? key = some s)
    {ms es : List (String × Document)} (h : readMembers room shape ms = some es) :
    (valuesAt key ms).mapM (read room s) = some (valuesAt key es) := by
  induction ms generalizing es with
  | nil =>
    cases h
    rfl
  | cons m ms ih =>
    obtain ⟨k, d⟩ := m
    obtain ⟨e, es, he, hes, rfl⟩ := exists_of_readMembers_cons h
    rw [valuesAt_cons, valuesAt_cons]
    by_cases hk : k = key
    · subst hk
      simp only [hs] at he
      simp [List.mapM_cons, he, ih hes]
    · rw [if_neg hk, if_neg hk]
      exact ih hes

theorem length_of_readItems {shapes : List Shape} {ds es : List Document}
    (h : readItems room shapes ds = some es) : es.length = ds.length := by
  induction ds generalizing shapes es with
  | nil =>
    cases h
    rfl
  | cons d ds ih =>
    obtain ⟨e, es, -, hes, rfl⟩ := exists_of_readItems_cons h
    rw [List.length_cons, List.length_cons, ih hes]

/-- The array form of a record is read as the object of its first fields. -/
theorem readMembers_zip {fields : List (String × Shape)}
    (hfields : ∀ f ∈ fields, shape.member? f.1 = some f.2) {ds es : List Document}
    (h : readItems room (fields.map (·.2)) ds = some es) :
    readMembers room shape ((fields.map (·.1)).zip ds) = some ((fields.map (·.1)).zip es) := by
  induction fields generalizing ds es with
  | nil => simp [readMembers]
  | cons f fields ih =>
    cases ds with
    | nil =>
      cases h
      simp [readMembers]
    | cons d ds =>
      obtain ⟨e, es, he, hes, rfl⟩ := exists_of_readItems_cons h
      have hrest := ih (fun f hf => hfields f (List.mem_cons_of_mem _ hf)) hes
      simp only [List.map_cons, List.zip_cons_cons, readMembers, hfields f List.mem_cons_self]
      rw [show d.read room f.2 = some e from he, Option.bind_some, hrest]
      rfl

end Document
end Json

namespace Decoding

open Json Document

section Fields

variable {room : Nat} {shape s : Shape} {key : String} {β : Type} {decode : Document → Option β}

theorem fill_of_mapM {see : Document → Option Document}
    (hdecode : ∀ d e, see d = some e → decode e = decode d) {ds es : List Document}
    (h : ds.mapM see = some es) (place : Option β) :
    fill decode place es = fill decode place ds := by
  induction ds generalizing es place with
  | nil =>
    cases h
    rfl
  | cons d ds ih =>
    rw [List.mapM_cons, Option.bind_eq_bind, Option.bind_eq_some_iff] at h
    obtain ⟨e, he, h⟩ := h
    obtain ⟨es, hes, h⟩ := Option.bind_eq_some_iff.mp h
    cases h
    rw [fill, fill, hdecode d e he]
    simp only [ih hes]

/-- A field is decoded as if its member had been read in full. -/
theorem field_of_readMembers (hs : shape.member? key = some s)
    (hdecode : ∀ d e, d.read room s = some e → decode e = decode d)
    {ms es : List (String × Document)} (h : readMembers room shape ms = some es) :
    field key decode es = field key decode ms :=
  fill_of_mapM hdecode (mapM_valuesAt_of_readMembers hs h) none

theorem field_of_readMembers_anything (hs : shape.member? key = some .anything)
    {ms es : List (String × Document)} (h : readMembers room shape ms = some es) :
    field key decode es = field key decode ms :=
  field_of_readMembers hs (fun _ _ he => by rw [eq_of_read_anything room he]) h

/-- What is read of a record has its members, or neither has any. -/
theorem membersOr?_of_read {fields : List (String × Shape)}
    (hfields : ∀ f ∈ fields, (Shape.record fields).member? f.1 = some f.2) {d e : Document}
    (h : d.read room (.record fields) = some e) :
    (membersOr? (fields.map (·.1)) d = none ∧ membersOr? (fields.map (·.1)) e = none) ∨
      ∃ room' ms es, membersOr? (fields.map (·.1)) d = some ms ∧
        membersOr? (fields.map (·.1)) e = some es ∧
        readMembers room' (.record fields) ms = some es := by
  cases d with
  | array ds =>
    obtain ⟨room', es, hes, rfl⟩ := exists_of_read_array h
    rw [membersOr?, membersOr?, length_of_readItems hes]
    split
    · exact .inr ⟨room', _, _, rfl, rfl, readMembers_zip hfields hes⟩
    · exact .inl ⟨rfl, rfl⟩
  | object ms =>
    obtain ⟨room', es, hes, rfl⟩ := exists_of_read_object h
    exact .inr ⟨room', _, _, rfl, rfl, hes⟩
  | number v =>
    cases v with
    | none => cases h
    | some v =>
      cases h
      exact .inl ⟨rfl, rfl⟩
  | _ =>
    cases h
    exact .inl ⟨rfl, rfl⟩

end Fields

/-! ## The meta model -/

theorem metaData?_read {room : Nat} {d e : Document}
    (h : d.read room (.record [("version", .anything)]) = some e) : metaData? e = metaData? d := by
  have hmembers := membersOr?_of_read (by simp [Shape.member?]) h
  simp only [List.map_cons, List.map_nil] at hmembers
  obtain ⟨hd, he⟩ | ⟨room', ms, es, hd, he, hms⟩ := hmembers
  · simp [metaData?, hd, he]
  · have hversion : field "version" text? es = field "version" text? ms :=
      field_of_readMembers_anything (by simp [Shape.member?]) hms
    simp [metaData?, hd, he, hversion]

/-- A meta model is decoded as if its document had been read in full. -/
theorem metaModel?_read {room : Nat} {d e : Document} (h : d.read room metaModelShape = some e) :
    metaModel? e = metaModel? d := by
  have hmembers := membersOr?_of_read (by simp [Shape.member?, metaModelFields]) h
  simp only [List.map_map, Function.comp_def, List.map_id'] at hmembers
  obtain ⟨hd, he⟩ | ⟨room', ms, es, hd, he, hms⟩ := hmembers
  · simp [metaModel?, hd, he]
  · have hmetaData : field "metaData" metaData? es = field "metaData" metaData? ms :=
      field_of_readMembers (by simp [Shape.member?, metaModelFields])
        (fun _ _ he => metaData?_read he) hms
    have hfield {β : Type} {key : String} {decode : Document → Option β}
        (hkey : metaModelShape.member? key = some .anything) :
        field key decode es = field key decode ms := field_of_readMembers_anything hkey hms
    simp only [metaModel?, hd, he, hmetaData, Option.bind_eq_bind, Option.bind_some]
    rw [hfield rfl, hfield rfl, hfield rfl, hfield rfl, hfield rfl]

end Decoding

namespace MetaModel

open Json Decoding

/-- A text gives the model of the document that is written there, or none when the document has
numbers or levels that cannot be read. -/
theorem parseText_toOption {d : Document} {text : String} (h : d.WrittenAs text) :
    (parseText text).toOption = (d.read maxDepth metaModelShape).bind fun _ => metaModel? d := by
  have hread := document?_read h metaModelShape
  have hparse : (parseText text).toOption =
      (metaModel (Json.read metaModelShape (Symbol.ofText text)).1).toOption := by
    rw [parseText, parse, decodeFirst]
    cases metaModel (Json.read metaModelShape (Symbol.ofText text)).1 <;> rfl
  rw [hparse, sees_metaModel, hread]
  cases hd : d.read maxDepth metaModelShape with
  | none => rfl
  | some e => exact metaModel?_read hd

end MetaModel
end ProtocolTypes
