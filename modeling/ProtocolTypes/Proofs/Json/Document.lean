import Mathlib.Data.String.Basic
import Mathlib.Tactic.SplitIfs
import ProtocolTypes.Decoding.Basic
import ProtocolTypes.Proofs.Traversal

/-!
# ProtocolTypes.Proofs.Json.Document

JSON documents apart from their spelling: members in the order of the text, keys as often as they
are written. `Tree.document?` is what a syntax tree without faults stands for, and `Document.read`
what a reader with a limit on nesting sees of a document. The value that is built from a tree is
that of its document (`toJson_toOption`), and it holds the last of several members of one key
(`valuesAt_toJson`).
-/

namespace ProtocolTypes
namespace Json

inductive Document where
  | null
  | bool (value : Bool)
  /-- A number that is too large has no value. -/
  | number (value : Option JsonNumber)
  | string (value : String)
  | array (items : List Document)
  | object (members : List (String × Document))
  /-- A value that nobody looked at. -/
  | unread

/-! ## What a tree stands for -/

mutual

/-- The document of a tree without faults. -/
def Tree.document? : Tree → Option Document
  | .broken _ _ => none
  | .skipped => some .unread
  | .null _ _ => some .null
  | .bool _ _ b => some (.bool b)
  | .number _ _ n => some (.number (some n))
  | .string _ _ s => some (.string s)
  | .array _ elements => elements.documents?.map .array
  | .object _ members => members.documents?.map .object

def Elements.documents? : Elements → Option (List Document)
  | .closed _ => some []
  | .broken _ => none
  | .element value _ rest => value.document?.bind fun d => rest.documents?.map (d :: ·)

def Members.documents? : Members → Option (List (String × Document))
  | .closed _ => some []
  | .broken _ | .badKey _ | .badColon _ _ => none
  | .member key value _ rest =>
    value.document?.bind fun d => rest.documents?.map ((key.text, d) :: ·)

end

namespace Document

/-! ## What a reader sees -/

mutual

/-- What is seen of a document by a reader of the given shape that may open `room` levels. -/
def read (room : Nat) (shape : Shape) : Document → Option Document
  | .number none => none
  | .array items =>
    match room with
    | 0 => none
    | room + 1 => (readItems room shape.elements items).map .array
  | .object members =>
    match room with
    | 0 => none
    | room + 1 => (readMembers room shape members).map .object
  | d => some d

def readItems (room : Nat) (shapes : List Shape) : List Document → Option (List Document)
  | [] => some []
  | d :: ds =>
    (read room (shapes.head?.getD .anything) d).bind fun e =>
      (readItems room (shapes.drop 1) ds).map (e :: ·)

def readMembers (room : Nat) (shape : Shape) :
    List (String × Document) → Option (List (String × Document))
  | [] => some []
  | (key, d) :: ms =>
    let seen :=
      match shape.member? key with
      | some s => read room s d
      | none => some .unread
    seen.bind fun e => (readMembers room shape ms).map ((key, e) :: ·)

end

theorem read_array_zero (shape : Shape) (items : List Document) :
    (array items).read 0 shape = none := by
  simp only [read]

theorem read_array_succ (room : Nat) (shape : Shape) (items : List Document) :
    (array items).read (room + 1) shape = (readItems room shape.elements items).map .array := by
  simp only [read]

theorem read_object_zero (shape : Shape) (members : List (String × Document)) :
    (object members).read 0 shape = none := by
  simp only [read]

theorem read_object_succ (room : Nat) (shape : Shape) (members : List (String × Document)) :
    (object members).read (room + 1) shape = (readMembers room shape members).map .object := by
  simp only [read]

/-! ## Values -/

mutual

/-- The value that is built of a document. -/
def toJson : Document → Json
  | .null | .unread | .number none => .null
  | .bool b => .bool b
  | .number (some n) => .number n
  | .string s => .string s
  | .array items => .array (itemsToJson items)
  | .object members => .object (membersToJson [] members)

def itemsToJson : List Document → List Json
  | [] => []
  | d :: ds => d.toJson :: itemsToJson ds

def membersToJson (before : List (String × Json)) :
    List (String × Document) → List (String × Json)
  | [] => before
  | (key, d) :: ms => membersToJson (insertMember key d.toJson before) ms

end

theorem itemsToJson_eq (ds : List Document) : itemsToJson ds = ds.map toJson := by
  induction ds with
  | nil => rfl
  | cons d ds ih => rw [itemsToJson, ih, List.map_cons]

end Document

open Decoding

@[simp]
theorem toOption_ok {ε α : Type} (x : α) : (Except.ok x : Except ε α).toOption = some x :=
  rfl

@[simp]
theorem toOption_error {ε α : Type} (e : ε) : (Except.error e : Except ε α).toOption = none :=
  rfl

theorem toOption_map {ε α β : Type} (x : Except ε α) (f : α → β) :
    (x.map f).toOption = x.toOption.map f := by
  cases x <;> rfl

mutual

theorem Tree.toJson_toOption : ∀ t : Tree,
    t.toJson.toOption = t.document?.map Document.toJson
  | .broken _ _ | .skipped | .null _ _ | .bool _ _ _ | .number _ _ _ | .string _ _ _ => rfl
  | .array _ elements => by
    have h := elements.toJson_toOption 0
    rw [Tree.toJson, Tree.document?]
    cases hj : Tree.elementsToJson 0 elements <;> cases hd : elements.documents? <;>
      rw [hj, hd] at h <;> simp_all [Except.toOption, Document.toJson]
  | .object _ members => by
    have h := members.toJson_toOption []
    rw [Tree.toJson, Tree.document?]
    cases hj : Tree.membersToJson [] members <;> cases hd : members.documents? <;>
      rw [hj, hd] at h <;> simp_all [Except.toOption, Document.toJson]

theorem Elements.toJson_toOption (i : Nat) : ∀ es : Elements,
    (Tree.elementsToJson i es).toOption = es.documents?.map Document.itemsToJson
  | .closed _ | .broken _ => rfl
  | .element value _ rest => by
    have hv := value.toJson_toOption
    have hr := rest.toJson_toOption (i + 1)
    rw [Tree.elementsToJson, Elements.documents?]
    cases hj : value.toJson <;> cases hd : value.document? <;> rw [hj, hd] at hv <;>
      simp only [Except.toOption, Option.map, reduceCtorEq] at hv
    · rfl
    · cases hv
      cases hj : Tree.elementsToJson (i + 1) rest <;> cases hd : rest.documents? <;>
        rw [hj, hd] at hr <;> simp_all [Except.toOption, Document.itemsToJson]

theorem Members.toJson_toOption (before : List (String × Json)) : ∀ ms : Members,
    (Tree.membersToJson before ms).toOption =
      ms.documents?.map (Document.membersToJson before)
  | .closed _ | .broken _ | .badKey _ | .badColon _ _ => rfl
  | .member key value _ rest => by
    have hv := value.toJson_toOption
    rw [Tree.membersToJson, Members.documents?]
    cases hj : value.toJson <;> cases hd : value.document? <;> rw [hj, hd] at hv <;>
      simp only [Except.toOption, Option.map, reduceCtorEq] at hv
    · rfl
    · cases hv
      exact (rest.toJson_toOption _).trans (by cases rest.documents? <;> rfl)

end

/-! ## Values under a key -/

/-- The values under a key, in their order. -/
def valuesAt {β : Type} (key : String) (ms : List (String × β)) : List β :=
  ms.filterMap fun m => if m.1 = key then some m.2 else none

section ValuesAt

variable {β : Type} {key k : String} {v : β} {ms ms' : List (String × β)}

@[simp]
theorem valuesAt_nil : valuesAt key ([] : List (String × β)) = [] :=
  rfl

theorem valuesAt_cons :
    valuesAt key ((k, v) :: ms) = if k = key then v :: valuesAt key ms else valuesAt key ms := by
  by_cases h : k = key <;> simp [valuesAt, h]

@[simp]
theorem valuesAt_cons_self : valuesAt key ((key, v) :: ms) = v :: valuesAt key ms := by
  simp [valuesAt_cons]

theorem valuesAt_cons_of_ne (h : k ≠ key) : valuesAt key ((k, v) :: ms) = valuesAt key ms := by
  simp [valuesAt_cons, h]

@[simp]
theorem valuesAt_append :
    valuesAt key (ms ++ ms') = valuesAt key ms ++ valuesAt key ms' :=
  List.filterMap_append

theorem valuesAt_eq_nil (h : ∀ m ∈ ms, m.1 ≠ key) : valuesAt key ms = [] :=
  List.filterMap_eq_nil_iff.mpr fun m hm => if_neg (h m hm)

theorem valuesAt_of_not_mem (h : key ∉ ms.map (·.1)) : valuesAt key ms = [] :=
  valuesAt_eq_nil fun m hm hkey => h (hkey ▸ List.mem_map.mpr ⟨m, hm, rfl⟩)

theorem valuesAt_filter {known : List String} (h : key ∉ known) (ms : List (String × β)) :
    valuesAt key (ms.filter fun m => !known.contains m.1) = valuesAt key ms := by
  induction ms with
  | nil => rfl
  | cons m ms ih =>
    obtain ⟨k, v⟩ := m
    rw [List.filter_cons, valuesAt_cons]
    by_cases hk : k = key
    · subst hk
      simp_all
    · rw [if_neg hk]
      split
      · rw [valuesAt_cons_of_ne hk, ih]
      · exact ih

theorem valuesAt_map {γ : Type} (f : β → γ) (ms : List (String × β)) :
    valuesAt key (ms.map fun m => (m.1, f m.2)) = (valuesAt key ms).map f := by
  induction ms with
  | nil => rfl
  | cons m ms ih =>
    obtain ⟨k, v⟩ := m
    by_cases hk : k = key <;> simp [valuesAt_cons, hk, ih]

theorem valuesAt_perm (h : ms.Perm ms') : (valuesAt key ms).Perm (valuesAt key ms') :=
  h.filterMap _

/-- The members are in increasing key order. -/
def KeysAscend (ms : List (String × β)) : Prop :=
  ms.Pairwise fun m m' => m.1 < m'.1

end ValuesAt

section InsertMember

variable {key k : String} {v : Json} {ms : List (String × Json)}

theorem mem_insertMember {m : String × Json} (h : m ∈ insertMember key v ms) :
    m = (key, v) ∨ m ∈ ms := by
  induction ms with
  | nil => simpa [insertMember] using h
  | cons m' ms ih =>
    rw [insertMember] at h
    split_ifs at h <;> grind

theorem KeysAscend.insertMember (h : KeysAscend ms) : KeysAscend (insertMember key v ms) := by
  induction ms with
  | nil => simp [KeysAscend, Json.insertMember]
  | cons m ms ih =>
    obtain ⟨k, w⟩ := m
    obtain ⟨hk, hms⟩ := List.pairwise_cons.mp h
    rw [Json.insertMember]
    split_ifs with hlt heq
    · refine List.pairwise_cons.mpr ⟨fun m hm => ?_, h⟩
      obtain rfl | hm := List.mem_cons.mp hm
      · exact hlt
      · exact hlt.trans (hk m hm)
    · subst heq
      exact List.pairwise_cons.mpr ⟨hk, hms⟩
    · refine List.pairwise_cons.mpr ⟨fun m hm => ?_, ih hms⟩
      obtain rfl | hm := mem_insertMember hm
      · exact lt_of_le_of_ne (not_lt.mp hlt) (Ne.symm heq)
      · exact hk m hm

/-- A member put in its place stands alone under its key. -/
theorem valuesAt_insertMember (h : KeysAscend ms) :
    valuesAt k (insertMember key v ms) = if key = k then [v] else valuesAt k ms := by
  induction ms with
  | nil => by_cases hk : key = k <;> simp [insertMember, valuesAt_cons, hk]
  | cons m ms ih =>
    obtain ⟨k', w⟩ := m
    obtain ⟨hk', hms⟩ := List.pairwise_cons.mp h
    rw [insertMember]
    obtain hlt | rfl | hgt := lt_trichotomy key k'
    · have hne : ∀ m ∈ (k', w) :: ms, m.1 ≠ key := by
        intro m hm
        obtain rfl | hm := List.mem_cons.mp hm
        · exact hlt.ne'
        · exact (hlt.trans (hk' m hm)).ne'
      rw [if_pos hlt, valuesAt_cons]
      by_cases hk : key = k
      · subst hk
        simp [valuesAt_eq_nil hne]
      · simp [hk]
    · rw [if_neg (lt_irrefl _), if_pos rfl, valuesAt_cons, valuesAt_cons]
      by_cases hk : key = k
      · subst hk
        simp [valuesAt_eq_nil fun m hm => (hk' m hm).ne']
      · simp [hk]
    · rw [if_neg hgt.not_gt, if_neg hgt.ne', valuesAt_cons, valuesAt_cons, ih hms]
      by_cases hk : key = k
      · subst hk
        simp [hgt.ne]
      · simp [hk]

end InsertMember

namespace Document

theorem valuesAt_membersToJson (key : String) (ms : List (String × Document))
    {before : List (String × Json)} (h : KeysAscend before) :
    valuesAt key (membersToJson before ms) =
      ((valuesAt key ms).getLast?.map fun d => [d.toJson]).getD (valuesAt key before) := by
  induction ms generalizing before with
  | nil => rfl
  | cons m ms ih =>
    obtain ⟨k, d⟩ := m
    rw [membersToJson, ih h.insertMember, valuesAt_insertMember h, valuesAt_cons]
    by_cases hk : k = key
    · simp [hk, List.getLast?_cons]
    · simp [hk]

/-- Of several members of one key, the value holds the last one. -/
theorem valuesAt_toJson (key : String) (ms : List (String × Document)) :
    valuesAt key (membersToJson [] ms) = ((valuesAt key ms).getLast?.map toJson).toList := by
  rw [valuesAt_membersToJson key ms List.Pairwise.nil]
  cases (valuesAt key ms).getLast? <;> rfl

end Document
end Json
end ProtocolTypes
