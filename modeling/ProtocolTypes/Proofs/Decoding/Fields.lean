import ProtocolTypes.Decoding.Document
import ProtocolTypes.Proofs.Json.Document

/-!
# ProtocolTypes.Proofs.Decoding.Fields

Decoders on documents. A decoder of syntax trees sees no more of a tree than the document it stands
for (`Sees`), and a record that is put together member by member is a matter of its fields: of each
field it is known which values are written under its key (`field`), whatever stands between them.
-/

namespace ProtocolTypes
namespace Decoding

open Json

/-! ## Fields -/

section Fill

variable {α β γ : Type}

/-- Fills a place with the only value there is for it. A place that is filled takes no other. -/
def fill (decode : α → Option β) (place : Option β) : List α → Option (Option β)
  | [] => some place
  | x :: xs => if place.isSome then none else (decode x).bind fun y => fill decode (some y) xs

/-- What is written under a key. -/
def field (key : String) (decode : α → Option β) (ms : List (String × α)) : Option (Option β) :=
  fill decode none (valuesAt key ms)

variable {decode : α → Option β}

@[simp]
theorem fill_nil (place : Option β) : fill decode place [] = some place :=
  rfl

@[simp]
theorem fill_some_cons (y : β) (x : α) (xs : List α) : fill decode (some y) (x :: xs) = none :=
  rfl

@[simp]
theorem fill_none_cons (x : α) (xs : List α) :
    fill decode none (x :: xs) = (decode x).bind fun y => fill decode (some y) xs :=
  rfl

theorem fill_cons_of_isSome {place : Option β} (h : place.isSome = true) (x : α) (xs : List α) :
    fill decode place (x :: xs) = none :=
  if_pos h

theorem fill_map (f : γ → α) (place : Option β) (xs : List γ) :
    fill decode place (xs.map f) = fill (fun x => decode (f x)) place xs := by
  induction xs generalizing place with
  | nil => rfl
  | cons x xs ih =>
    rw [List.map_cons, fill, fill]
    simp only [ih]

end Fill

/-! ## Decoders that see documents -/

/-- The decoder sees no more of a tree than the document it stands for. -/
def Sees {α : Type} (decode : Tree → Decoded α) (decode? : Document → Option α) : Prop :=
  ∀ t : Tree, (decode t).toOption = t.document?.bind decode?

def text? : Document → Option String
  | .string s => some s
  | _ => none

def bool? : Document → Option Bool
  | .bool b => some b
  | _ => none

/-- A value that may be null. -/
def optional? {α : Type} (decode? : Document → Option α) : Document → Option (Option α)
  | .null => some none
  | d => (decode? d).map some

def list? {α : Type} (decode? : Document → Option α) : Document → Option (List α)
  | .array ds => ds.mapM decode?
  | _ => none

/-- Decodes the value that is built of a document. -/
def json? {α : Type} (decode : Json → Partial α) (d : Document) : Option α :=
  (decode d.toJson).toOption

section Sees

variable {α β : Type}

theorem sees_text : Sees Tree.toText text? := by
  intro t
  cases t with
  | array _ es => cases h : es.documents? <;> simp [Tree.document?, h] <;> rfl
  | object _ ms => cases h : ms.documents? <;> simp [Tree.document?, h] <;> rfl
  | _ => rfl

theorem sees_bool : Sees Tree.toBool bool? := by
  intro t
  cases t with
  | array _ es => cases h : es.documents? <;> simp [Tree.document?, h] <;> rfl
  | object _ ms => cases h : ms.documents? <;> simp [Tree.document?, h] <;> rfl
  | _ => rfl

variable {decode : Tree → Decoded α} {decode? : Document → Option α}

theorem Sees.optional (h : Sees decode decode?) :
    Sees (Tree.toOption decode) (optional? decode?) := by
  intro t
  have hsome : ((decode t).map some).toOption =
      t.document?.bind fun d => (decode? d).map some := by
    rw [toOption_map, h t]
    cases t.document? <;> rfl
  cases t with
  | null => rfl
  | array _ es =>
    rw [Tree.toOption, hsome]
    · cases hd : es.documents? <;> simp [Tree.document?, hd, optional?]
    · nofun
  | object _ ms =>
    rw [Tree.toOption, hsome]
    · cases hd : ms.documents? <;> simp [Tree.document?, hd, optional?]
    · nofun
  | _ => exact hsome

theorem sees_via (decode : Json → Partial α) : Sees (Tree.via decode) (json? decode) := by
  intro t
  have hjson := t.toJson_toOption
  rw [Tree.via]
  cases hv : t.toJson <;> cases hd : t.document? <;> rw [hv, hd] at hjson <;>
    simp only [Except.toOption, Option.map, reduceCtorEq, Option.some.injEq] at hjson
  · rfl
  · subst hjson
    rw [Option.bind_some, json?]
    simp only
    cases decode _ <;> rfl

theorem sees_toJson : Sees Tree.toJson fun d => some d.toJson := by
  intro t
  rw [t.toJson_toOption]
  cases t.document? <;> rfl

theorem toOption_decode_element (t : Tree) (i landing : Nat) (rest : Elements) :
    ((Elements.element t landing rest).decode decode i).toOption =
      (decode t).toOption.bind fun x => (rest.decode decode (i + 1)).toOption.map (x :: ·) := by
  rw [Elements.decode]
  cases decode t with
  | error f => rfl
  | ok x => cases rest.decode decode (i + 1) <;> rfl

theorem Sees.elements (h : Sees decode decode?) (i : Nat) (es : Elements) :
    (es.decode decode i).toOption = es.documents?.bind fun ds => ds.mapM decode? := by
  cases es with
  | closed _ => rfl
  | broken _ => rfl
  | element t _ rest =>
    rw [toOption_decode_element, h t, Sees.elements h (i + 1) rest, Elements.documents?]
    cases t.document? with
    | none => rfl
    | some d =>
      cases rest.documents? with
      | none => simp
      | some ds =>
        simp only [Option.bind_some, Option.map_some, List.mapM_cons]
        cases decode? d with
        | none => rfl
        | some x => cases ds.mapM decode? <;> rfl

theorem Sees.list (h : Sees decode decode?) : Sees (Tree.toList decode) (list? decode?) := by
  intro t
  cases t with
  | array _ es =>
    rw [Tree.toList, h.elements, Tree.document?]
    cases es.documents? <;> rfl
  | object _ ms => cases hd : ms.documents? <;> simp [Tree.document?, hd] <;> rfl
  | _ => rfl

/-- What is decoded of a member goes into a record, and the record goes on. -/
theorem Sees.put {σ : Type} (h : Sees decode decode?) {set : α → σ} {next : σ → Option σ}
    {result : Document → Option σ}
    (hresult : ∀ d, (decode? d).bind (fun x => next (set x)) = result d) (t : Tree) :
    ((decode t).map set).toOption.bind next = t.document?.bind result := by
  rw [toOption_map, h t, ← funext hresult]
  cases t.document? with
  | none => rfl
  | some d => exact Option.bind_map ..

end Sees

/-! ## Records -/

/-- The members of an object. -/
def members? : Document → Option (List (String × Document))
  | .object ms => some ms
  | _ => none

/-- The members of an object, or of an array of some first fields. -/
def membersOr? (fields : List String) : Document → Option (List (String × Document))
  | .object ms => some ms
  | .array ds => if ds.length ≤ fields.length then some (fields.zip ds) else none
  | _ => none

theorem members?_bind {β : Type} (ms : List (String × Document))
    (f : List (String × Document) → Option β) : (members? (.object ms) >>= f) = f ms :=
  rfl

theorem membersOr?_bind {β : Type} (fields : List String) (ms : List (String × Document))
    (f : List (String × Document) → Option β) : (membersOr? fields (.object ms) >>= f) = f ms :=
  rfl

namespace Record

variable {σ α : Type}

/-- What the members of an object make of the parts collected before them. -/
structure Gathers (r : Record σ α) (gather : σ → List (String × Document) → Option σ) : Prop where
  nil : ∀ p, gather p [] = some p
  filled : ∀ p key d ms, r.filled p key = true → gather p ((key, d) :: ms) = none
  put : ∀ p key t ms, r.filled p key = false →
    ((r.put p key t).toOption.bind fun p' => gather p' ms) =
      t.document?.bind fun d => gather p ((key, d) :: ms)

variable {r : Record σ α} {gather : σ → List (String × Document) → Option σ}

theorem toOption_collect_member {p : σ} {key : Key} (hfree : r.filled p key.text = false)
    (t : Tree) (landing : Nat) (rest : Members) :
    (r.collect p (.member key t landing rest)).toOption =
      (r.put p key.text t).toOption.bind fun p' => (r.collect p' rest).toOption := by
  rw [Record.collect, if_neg (by simp [hfree])]
  cases r.put p key.text t <;> rfl

theorem toOption_ofMembers (ms : Members) :
    (r.ofMembers ms).toOption =
      (r.collect r.start ms).toOption.bind fun parts => (r.finish parts.1).toOption := by
  rw [Record.ofMembers]
  cases r.collect r.start ms with
  | error f => rfl
  | ok parts =>
    obtain ⟨p, stop⟩ := parts
    simp only [Except.toOption, Option.bind_some]
    cases r.finish p <;> rfl

theorem Gathers.collect (h : r.Gathers gather) (p : σ) (ms : Members) :
    (r.collect p ms).toOption.map (·.1) = ms.documents?.bind (gather p) := by
  cases ms with
  | closed _ => exact (h.nil p).symm
  | broken _ => rfl
  | badKey _ => rfl
  | badColon key _ =>
    rw [Record.collect]
    split <;> rfl
  | member key t landing rest =>
    rw [Members.documents?, Option.bind_assoc]
    cases hfilled : r.filled p key.text with
    | true =>
      rw [Record.collect, if_pos hfilled]
      cases t.document? with
      | none => rfl
      | some d => cases rest.documents? <;> simp [h.filled p key.text d _ hfilled]
    | false =>
      calc
        _ = (r.put p key.text t).toOption.bind fun p' => rest.documents?.bind (gather p') := by
          rw [toOption_collect_member hfilled, Option.map_bind]
          exact Option.bind_congr fun p' _ => Gathers.collect h p' rest
        _ = rest.documents?.bind fun ms =>
            t.document?.bind fun d => gather p ((key.text, d) :: ms) := by
          rw [Option.bind_comm]
          exact Option.bind_congr fun ms _ => h.put p key.text t ms hfilled
        _ = t.document?.bind fun d =>
            (rest.documents?.map ((key.text, d) :: ·)).bind (gather p) := by
          rw [Option.bind_comm]
          exact Option.bind_congr fun d _ => Option.bind_map.symm

theorem Gathers.ofMembers (h : r.Gathers gather) (ms : Members) :
    (r.ofMembers ms).toOption =
      ms.documents?.bind fun ms => (gather r.start ms).bind fun p => (r.finish p).toOption := by
  rw [toOption_ofMembers, ← Option.bind_assoc, ← h.collect, Option.bind_map]
  rfl

/-- A record is decoded from an object by what its members make of it. -/
theorem Gathers.sees (h : r.Gathers gather) {decode? : Document → Option α}
    (hdecode : ∀ d, decode? d =
      (members? d).bind fun ms => (gather r.start ms).bind fun p => (r.finish p).toOption) :
    Sees r.decode decode? := by
  intro t
  rw [funext hdecode]
  cases t with
  | object _ ms =>
    refine (h.ofMembers ms).trans ?_
    rw [Tree.document?]
    cases ms.documents? <;> rfl
  | array _ es =>
    rw [Tree.document?]
    cases es.documents? <;> rfl
  | _ => rfl

/-- The end of an array after the last field. -/
theorem closeArray_toOption (landing : Nat) (es : Elements) :
    (closeArray landing es).toOption =
      es.documents?.bind fun ds => if ds.isEmpty then some () else none := by
  unfold closeArray
  split
  · rfl
  · rfl
  · rfl
  · rfl
  · rename_i t _ rest
    rw [Elements.documents?]
    cases t.document? with
    | none => rfl
    | some d => cases rest.documents? <;> rfl

/-- Putting a member leaves the places of other members as they are. -/
def Separate (r : Record σ α) : Prop :=
  ∀ p p' key t, r.put p key t = .ok p' → ∀ key', key' ≠ key → r.filled p' key' = r.filled p key'

theorem toOption_ofElements_nil (i landing : Nat) (p : σ) (es : Elements) :
    (r.ofElements [] i landing p es).toOption =
      (closeArray landing es).toOption.bind fun _ => (r.finish p).toOption := by
  rw [Record.ofElements]
  cases closeArray landing es with
  | error f => rfl
  | ok _ => cases r.finish p <;> rfl

theorem toOption_ofElements_element (key : String) (fields : List String) (i landing : Nat)
    (p : σ) (t : Tree) (landing' : Nat) (rest : Elements) :
    (r.ofElements (key :: fields) i landing p (.element t landing' rest)).toOption =
      (r.put p key t).toOption.bind fun p' =>
        (r.ofElements fields (i + 1) landing' p' rest).toOption := by
  rw [Record.ofElements]
  cases r.put p key t <;> rfl

/-- What the items of an array make of the parts collected before them, as values of the first
fields. -/
def ofItems (r : Record σ α) (gather : σ → List (String × Document) → Option σ)
    (fields : List String) (p : σ) (ds : List Document) : Option α :=
  if ds.length ≤ fields.length then
    (gather p (fields.zip ds)).bind fun p => (r.finish p).toOption
  else none

theorem Gathers.ofItems_nil (h : r.Gathers gather) (fields : List String) (p : σ) :
    r.ofItems gather fields p [] = (r.finish p).toOption := by
  rw [ofItems, List.zip_nil_right, h.nil, List.length_nil, if_pos (Nat.zero_le _),
    Option.bind_some]

theorem Gathers.put_ofItems (h : r.Gathers gather) {p : σ} {key : String}
    (hfree : r.filled p key = false) (t : Tree) (fields : List String) (ds : List Document) :
    ((r.put p key t).toOption.bind fun p' => r.ofItems gather fields p' ds) =
      t.document?.bind fun d => r.ofItems gather (key :: fields) p (d :: ds) := by
  simp only [ofItems, List.length_cons, Nat.add_le_add_iff_right, List.zip_cons_cons]
  split
  · rw [← Option.bind_assoc, ← Option.bind_assoc, h.put p key t _ hfree]
  · rw [Option.bind_fun_none, Option.bind_fun_none]

/-- The array form of a record is an object of its first fields. -/
theorem Gathers.ofElements (h : r.Gathers gather) (hsep : r.Separate) (i landing : Nat)
    {fields : List String} {p : σ} (hnodup : fields.Nodup)
    (hfree : ∀ key ∈ fields, r.filled p key = false) (es : Elements) :
    (r.ofElements fields i landing p es).toOption =
      es.documents?.bind (r.ofItems gather fields p) := by
  induction fields generalizing es i landing p with
  | nil =>
    rw [toOption_ofElements_nil, closeArray_toOption, Option.bind_assoc]
    refine Option.bind_congr fun ds _ => ?_
    cases ds with
    | nil => exact (h.ofItems_nil [] p).symm
    | cons d ds => rfl
  | cons key fields ih =>
    cases es with
    | closed stop =>
      rw [Record.ofElements, Elements.documents?, Option.bind_some, h.ofItems_nil]
      cases r.finish p <;> rfl
    | broken f =>
      rw [Record.ofElements]
      rfl
    | element t landing' rest =>
      obtain ⟨hkey, hnodup⟩ := List.nodup_cons.mp hnodup
      have hfree' {p' : σ} (hput : r.put p key t = .ok p') :
          ∀ k ∈ fields, r.filled p' k = false := fun k hk => by
        rw [hsep p p' key t hput k (ne_of_mem_of_not_mem hk hkey)]
        exact hfree k (List.mem_cons_of_mem _ hk)
      rw [toOption_ofElements_element, Elements.documents?, Option.bind_assoc]
      calc
        _ = (r.put p key t).toOption.bind fun p' =>
            rest.documents?.bind (r.ofItems gather fields p') :=
          Option.bind_congr fun p' hput =>
            ih (i + 1) landing' hnodup (hfree' (toOption_eq_some.mp hput)) rest
        _ = rest.documents?.bind fun ds =>
            t.document?.bind fun d => r.ofItems gather (key :: fields) p (d :: ds) := by
          rw [Option.bind_comm]
          exact Option.bind_congr fun ds _ =>
            h.put_ofItems (hfree key List.mem_cons_self) t fields ds
        _ = t.document?.bind fun d =>
            (rest.documents?.map (d :: ·)).bind (r.ofItems gather (key :: fields) p) := by
          rw [Option.bind_comm]
          exact Option.bind_congr fun d _ => by rw [Option.bind_map]; rfl

/-- A record of some fields is decoded from an object, or from an array of its first fields. -/
theorem Gathers.sees_either (h : r.Gathers gather) (hsep : r.Separate) {fields : List String}
    (hnodup : fields.Nodup) (hfree : ∀ key ∈ fields, r.filled r.start key = false)
    {decode? : Document → Option α}
    (hdecode : ∀ d, decode? d = (membersOr? fields d).bind fun ms =>
      (gather r.start ms).bind fun p => (r.finish p).toOption) :
    Sees (r.decodeEither fields) decode? := by
  intro t
  rw [funext hdecode]
  cases t with
  | object _ ms =>
    refine (h.ofMembers ms).trans ?_
    rw [Tree.document?]
    cases ms.documents? <;> rfl
  | array _ es =>
    refine (h.ofElements hsep 0 0 hnodup hfree es).trans ?_
    rw [Tree.document?]
    cases es.documents? with
    | none => rfl
    | some ds =>
      rw [Option.map_some, Option.bind_some, Option.bind_some, ofItems, membersOr?]
      split <;> rfl
  | _ => rfl

end Record

end Decoding
end ProtocolTypes
