import Mathlib.Logic.Relation
import ProtocolTypes.Proofs.Decoding.Roles
import ProtocolTypes.Proofs.Decoding.Text
import ProtocolTypes.Proofs.Json.Compact

/-!
# ProtocolTypes.Proofs.Decoding.Variation

Changes to a document that a decoder does not notice: the members of an object change places, or a
member comes in under a key that is not recognised there (`Variation`). Where no recognised key
stands twice, a change leaves what is decoded as it is (`Variation.decode?_eq`) and keeps that no
recognised key stands twice (`Variation.once`); so any number of changes gives the same model
(`parseText_toOption_of_variations`). A message direction is the one object that no member may be
added to.
-/

namespace ProtocolTypes
namespace Json
namespace Document

def IsPlain : Document → Prop
  | .null | .bool _ | .string _ => True
  | _ => False

/-- Neither an array nor an object. -/
def IsAtom : Document → Prop
  | .array _ | .object _ => False
  | _ => True

theorem IsPlain.isAtom {d : Document} (h : d.IsPlain) : d.IsAtom := by
  cases d <;> trivial

/-- In every object no key stands twice. -/
inductive KeysDistinct : Document → Prop
  | atom {d : Document} (h : d.IsAtom) : KeysDistinct d
  | array {ds : List Document} (items : ∀ d ∈ ds, KeysDistinct d) : KeysDistinct (.array ds)
  | object {ms : List (String × Document)} (distinct : (ms.map (·.1)).Nodup)
      (members : ∀ m ∈ ms, KeysDistinct m.2) : KeysDistinct (.object ms)

end Document
end Json

namespace Decoding

open Json Document

/-! ## Changes -/

/-- One change to a document that is decoded in some role. Members are only added to objects of
the roles in `grows`. -/
inductive Variation (grows : Role → Prop) : Role → Document → Document → Prop
  | permute {r : Role} {ms ms' : List (String × Document)} (perm : ms.Perm ms') :
      Variation grows r (.object ms) (.object ms')
  | add {r : Role} {ms : List (String × Document)} {key : String} {d : Document} (allowed : grows r)
      (unknown : key ∉ r.recognised ms) (plain : d.IsPlain) :
      Variation grows r (.object ms) (.object ((key, d) :: ms))
  | element {r : Role} {d d' : Document} (pre post : List Document)
      (change : Variation grows (r.item pre.length) d d') :
      Variation grows r (.array (pre ++ d :: post)) (.array (pre ++ d' :: post))
  | member {r : Role} {key : String} {d d' : Document} (pre post : List (String × Document))
      (change : Variation grows (r.child (pre ++ (key, d) :: post) key) d d') :
      Variation grows r (.object (pre ++ (key, d) :: post)) (.object (pre ++ (key, d') :: post))

/-- In every object no key that is recognised there stands twice. -/
inductive Once : Role → Document → Prop
  | atom {r : Role} {d : Document} (h : d.IsAtom) : Once r d
  | array {r : Role} {ds : List Document}
      (items : ∀ i d, ds[i]? = some d → Once (r.item i) d) : Once r (.array ds)
  | object {r : Role} {ms : List (String × Document)}
      (single : ∀ key ∈ r.recognised ms, (valuesAt key ms).length ≤ 1)
      (members : ∀ m ∈ ms, Once (r.child ms m.1) m.2) : Once r (.object ms)

section Values

variable {ms ms' : List (String × Document)} {key : String}

theorem length_valuesAt_of_nodup (h : (ms.map (·.1)).Nodup) (key : String) :
    (valuesAt key ms).length ≤ 1 := by
  induction ms with
  | nil => exact Nat.zero_le 1
  | cons m ms ih =>
    obtain ⟨k, d⟩ := m
    obtain ⟨hk, hnodup⟩ := List.nodup_cons.mp h
    rw [valuesAt_cons]
    split
    · rename_i hkey
      subst hkey
      rw [valuesAt_of_not_mem hk, List.length_singleton]
    · exact ih hnodup

/-- What stands at most once stands there in any order of the members. -/
theorem valuesAt_eq_of_perm (h : ms.Perm ms') (hsingle : (valuesAt key ms).length ≤ 1) :
    valuesAt key ms' = valuesAt key ms := by
  have hperm : (valuesAt key ms).Perm (valuesAt key ms') := valuesAt_perm h
  match hvalues : valuesAt key ms, hsingle with
  | [], _ => exact List.nil_perm.mp (hvalues ▸ hperm)
  | [d], _ => exact List.singleton_perm.mp (hvalues ▸ hperm) |>.symm

theorem agree_of_valuesAt {r : Role}
    (h : ∀ key ∈ r.recognised ms, valuesAt key ms' = valuesAt key ms) :
    Agree (r.fields ms) ms' ms := by
  intro f hf
  rw [h f.1 (List.mem_map.mpr ⟨f, hf, rfl⟩)]

end Values

/-! ## Recognised keys stand once -/

theorem once_of_keysDistinct {d : Document} (h : d.KeysDistinct) : ∀ r : Role, Once r d := by
  induction h with
  | atom h => exact fun r => .atom h
  | array _ ih => exact fun r => .array fun i d hd => ih d (List.mem_of_getElem? hd) _
  | object hdistinct _ ih =>
    intro r
    exact .object (fun key _ => length_valuesAt_of_nodup hdistinct key) fun m hm => ih m hm _

section Once

variable {r : Role} {ds : List Document} {ms : List (String × Document)}

theorem Once.item (h : Once r (.array ds)) {i : Nat} {d : Document} (hd : ds[i]? = some d) :
    Once (r.item i) d := by
  cases h with
  | atom h => exact h.elim
  | array items => exact items i d hd

theorem Once.single (h : Once r (.object ms)) :
    ∀ key ∈ r.recognised ms, (valuesAt key ms).length ≤ 1 := by
  cases h with
  | atom h => exact h.elim
  | object single _ => exact single

theorem Once.member (h : Once r (.object ms)) : ∀ m ∈ ms, Once (r.child ms m.1) m.2 := by
  cases h with
  | atom h => exact h.elim
  | object _ members => exact members

end Once

/-! ## One change -/

namespace Variation

variable {grows : Role → Prop} {r : Role} {d d' : Document}

theorem leaf?_eq_none (h : Variation grows r d d') : leaf? d = none ∧ leaf? d' = none := by
  cases h <;> exact ⟨rfl, rfl⟩

/-- A change where recognised keys stand once does not change what is decoded. -/
theorem decode?_eq (hgrows : ¬ grows .direction) (h : Variation grows r d d') (honce : Once r d) :
    r.decode? d' = r.decode? d := by
  induction h with
  | @permute r ms ms' perm =>
    by_cases hr : r = .direction
    · subst hr
      exact direction?_perm perm
    · exact decode?_object_congr hr
        (agree_of_valuesAt fun key hkey => valuesAt_eq_of_perm perm (honce.single key hkey))
  | @add r ms key d allowed unknown _ =>
    have hr : r ≠ .direction := fun hr => hgrows (hr ▸ allowed)
    exact decode?_object_congr hr
      (agree_of_valuesAt fun k hk => valuesAt_cons_of_ne fun hkey => unknown (hkey ▸ hk))
  | element pre post change ih =>
    obtain ⟨hd, hd'⟩ := change.leaf?_eq_none
    exact decode?_array_congr hd hd' (ih (honce.item (by simp)))
  | @member r key d d' pre post change ih =>
    by_cases hr : r = .direction
    · subst hr
      obtain ⟨hd, hd'⟩ := change.leaf?_eq_none
      exact (direction?_eq_none hd').trans (direction?_eq_none hd).symm
    · exact decode?_object_congr hr (agree_replace (ih (honce.member (key, d) (by simp))))

/-- An object whose recognised keys and their roles are those of another one. -/
theorem once_of_fields {ms ms' : List (String × Document)} (hfields : r.fields ms' = r.fields ms)
    (single : ∀ key ∈ r.recognised ms, (valuesAt key ms').length ≤ 1)
    (members : ∀ m ∈ ms', Once (r.child ms m.1) m.2) : Once r (.object ms') := by
  have hrecognised : r.recognised ms' = r.recognised ms := by
    rw [Role.recognised, Role.recognised, hfields]
  have hchild (key : String) : r.child ms' key = r.child ms key := by
    rw [Role.child, Role.child, hfields]
  refine .object (hrecognised ▸ single) fun m hm => ?_
  rw [hchild]
  exact members m hm

/-- A change keeps that recognised keys stand once. -/
theorem once (hgrows : ¬ grows .direction) (h : Variation grows r d d') (honce : Once r d) :
    Once r d' := by
  induction h with
  | @permute r ms ms' perm =>
    have hvalues : ∀ key ∈ r.recognised ms, valuesAt key ms' = valuesAt key ms :=
      fun key hkey => valuesAt_eq_of_perm perm (honce.single key hkey)
    refine once_of_fields (fields_congr (agree_of_valuesAt hvalues)) (fun key hkey => ?_)
      fun m hm => honce.member m (perm.mem_iff.mpr hm)
    rw [hvalues key hkey]
    exact honce.single key hkey
  | @add r ms key d _ unknown plain =>
    have hvalues : ∀ k ∈ r.recognised ms, valuesAt k ((key, d) :: ms) = valuesAt k ms :=
      fun k hk => valuesAt_cons_of_ne fun hkey => unknown (hkey ▸ hk)
    refine once_of_fields (fields_congr (agree_of_valuesAt hvalues)) (fun k hk => ?_) ?_
    · rw [hvalues k hk]
      exact honce.single k hk
    · exact List.forall_mem_cons.mpr ⟨.atom plain.isAtom, honce.member⟩
  | @element r d d' pre post change ih =>
    refine .array fun i e he => ?_
    by_cases hi : i = pre.length
    · subst hi
      obtain rfl : d' = e := by simpa using he
      exact ih (honce.item (by simp))
    · refine honce.item ?_
      rw [← he]
      grind
  | @member r key d d' pre post change ih =>
    have hd : Once (r.child (pre ++ (key, d) :: post) key) d := honce.member (key, d) (by simp)
    have hagree := agree_replace (change.decode?_eq hgrows hd)
    refine once_of_fields (fields_congr hagree) (fun k hk => ?_) fun m hm => ?_
    · refine le_of_eq_of_le ?_ (honce.single k hk)
      simp only [valuesAt_append, valuesAt_cons, List.length_append]
      split <;> rfl
    · rw [List.mem_append, List.mem_cons] at hm
      obtain hm | rfl | hm := hm
      · exact honce.member m (by simp [hm])
      · exact ih hd
      · exact honce.member m (by simp [hm])

end Variation

/-! ## What can be read -/

section Reading

variable {room : Nat} {shape : Shape}

theorem isSome_readItems_replace {shapes : List Shape} {pre post : List Document} {d d' : Document}
    (h : ∀ shape, (d'.read room shape).isSome = (d.read room shape).isSome) :
    (readItems room shapes (pre ++ d' :: post)).isSome =
      (readItems room shapes (pre ++ d :: post)).isSome := by
  have hcons (shapes : List Shape) (e : Document) (es : List Document) :
      (readItems room shapes (e :: es)).isSome =
        ((e.read room (shapes.head?.getD .anything)).isSome &&
          (readItems room (shapes.drop 1) es).isSome) := by
    rw [readItems]
    cases e.read room (shapes.head?.getD .anything) <;> simp
  induction pre generalizing shapes with
  | nil => rw [List.nil_append, List.nil_append, hcons, hcons, h]
  | cons e pre ih => rw [List.cons_append, List.cons_append, hcons, hcons, ih]

/-- A member that is read or skipped. -/
def IsReadable (room : Nat) (shape : Shape) (m : String × Document) : Prop :=
  ∀ s, shape.member? m.1 = some s → (m.2.read room s).isSome = true

theorem isSome_readMembers (ms : List (String × Document)) :
    (readMembers room shape ms).isSome = true ↔ ∀ m ∈ ms, IsReadable room shape m := by
  induction ms with
  | nil => simp [readMembers]
  | cons m ms ih =>
    obtain ⟨key, d⟩ := m
    rw [List.forall_mem_cons, ← ih, readMembers, IsReadable]
    cases hs : shape.member? key with
    | none => simp
    | some s => cases hd : d.read room s <;> simp [hd]

end Reading

/-- A change leaves a readable document readable. -/
theorem Variation.isSome_read {grows : Role → Prop} {r : Role} {d d' : Document}
    (h : Variation grows r d d') :
    ∀ room shape, (d'.read room shape).isSome = (d.read room shape).isSome := by
  have hobject {ms ms' : List (String × Document)}
      (h : ∀ room shape, (readMembers room shape ms').isSome = (readMembers room shape ms).isSome)
      (room : Nat) (shape : Shape) :
      ((object ms').read room shape).isSome = ((object ms).read room shape).isSome := by
    cases room with
    | zero => rw [read_object_zero, read_object_zero]
    | succ room =>
      rw [read_object_succ, read_object_succ, Option.isSome_map, Option.isSome_map, h]
  induction h with
  | permute perm =>
    refine hobject fun room shape => Bool.eq_iff_iff.mpr ?_
    rw [isSome_readMembers, isSome_readMembers]
    exact forall_congr' fun m => by rw [perm.mem_iff]
  | @add r ms key d _ _ plain =>
    refine hobject fun room shape => Bool.eq_iff_iff.mpr ?_
    rw [isSome_readMembers, isSome_readMembers, List.forall_mem_cons]
    refine and_iff_right fun s _ => ?_
    cases d <;> first | rfl | cases plain
  | element pre post _ ih =>
    intro room shape
    cases room with
    | zero => rw [read_array_zero, read_array_zero]
    | succ room =>
      rw [read_array_succ, read_array_succ, Option.isSome_map, Option.isSome_map,
        isSome_readItems_replace fun shape => ih room shape]
  | member pre post _ ih =>
    refine hobject fun room shape => Bool.eq_iff_iff.mpr ?_
    rw [isSome_readMembers, isSome_readMembers]
    simp only [List.forall_mem_append, List.forall_mem_cons, IsReadable, ih]

/-! ## Any number of changes -/

theorem variations_preserve {grows : Role → Prop} (hgrows : ¬ grows .direction) {r : Role}
    {d d' : Document} (h : Relation.ReflTransGen (Variation grows r) d d') (honce : Once r d) :
    Once r d' ∧ r.decode? d' = r.decode? d ∧
      ∀ room shape, (d'.read room shape).isSome = (d.read room shape).isSome := by
  induction h with
  | refl => exact ⟨honce, rfl, fun _ _ => rfl⟩
  | tail _ change ih =>
    obtain ⟨honce, hdecode, hread⟩ := ih
    exact ⟨change.once hgrows honce, (change.decode?_eq hgrows honce).trans hdecode,
      fun room shape => (change.isSome_read room shape).trans (hread room shape)⟩

end Decoding

namespace MetaModel

open Json Decoding Document

/-- Members may change places anywhere, and members under keys that are not recognised may come in
anywhere but in a message direction. -/
theorem parseText_toOption_of_variations {d d' : Document} {text text' : String}
    (hd : d.KeysDistinct)
    (h : Relation.ReflTransGen (Variation (· ≠ .direction) .metaModel) d d')
    (htext : d.WrittenAs text) (htext' : d'.WrittenAs text') :
    (parseText text').toOption = (parseText text).toOption := by
  obtain ⟨-, hdecode, hread⟩ := variations_preserve (by simp) h (once_of_keysDistinct hd .metaModel)
  have hmodel : metaModel? d' = metaModel? d := hdecode
  rw [parseText_toOption htext, parseText_toOption htext', hmodel]
  have hsome := hread maxDepth metaModelShape
  cases hr : d.read maxDepth metaModelShape <;>
    cases hr' : d'.read maxDepth metaModelShape <;> simp_all

namespace Sample

/-- A model of one request. -/
def requestDocument (result direction : List (String × Document)) : Document :=
  .object [("requests", .array [.object [("method", .string "hover"), ("result", .object result),
    ("messageDirection", .object direction)]])]

def requestText (result direction : String) : String :=
  "\x7b\"requests\":[\x7b\"method\":\"hover\",\"result\":\x7b" ++ result ++
    "\x7d,\"messageDirection\":\x7b" ++ direction ++ "\x7d\x7d]\x7d"

def reference : List (String × Document) :=
  [("kind", .string "reference"), ("name", .string "Hover")]

/-- The kind stands behind a member that no reference has. -/
def lateReference : List (String × Document) :=
  [("name", .string "Hover"), ("items", .null), ("kind", .string "reference")]

def bothWays : List (String × Document) :=
  [("both", .null)]

def bothWaysNoted : List (String × Document) :=
  [("both", .null), ("note", .bool true)]

def plainText : String :=
  requestText "\"kind\":\"reference\",\"name\":\"Hover\"" "\"both\":null"

def lateText : String :=
  requestText "\"name\":\"Hover\",\"items\":null,\"kind\":\"reference\"" "\"both\":null"

def notedText : String :=
  requestText "\"kind\":\"reference\",\"name\":\"Hover\"" "\"both\":null,\"note\":true"

theorem keysDistinct_requestDocument : (requestDocument reference bothWays).KeysDistinct := by
  have hreference : (object reference).KeysDistinct :=
    .object (by decide) (List.forall_mem_cons.mpr
      ⟨.atom trivial, List.forall_mem_singleton.mpr (.atom trivial)⟩)
  have hbothWays : (object bothWays).KeysDistinct :=
    .object (by decide) (List.forall_mem_singleton.mpr (.atom trivial))
  exact .object (by decide) (List.forall_mem_singleton.mpr (.array (List.forall_mem_singleton.mpr
    (.object (by decide) (List.forall_mem_cons.mpr ⟨.atom trivial, List.forall_mem_cons.mpr
      ⟨hreference, List.forall_mem_singleton.mpr hbothWays⟩⟩)))))

theorem whole_requestDocument {result direction : List (String × Document)}
    (hresult : ∀ m ∈ result, m.2.Whole) (hdirection : ∀ m ∈ direction, m.2.Whole) :
    (requestDocument result direction).Whole :=
  .object (List.forall_mem_singleton.mpr (.array (List.forall_mem_singleton.mpr
    (.object (List.forall_mem_cons.mpr ⟨.string _, List.forall_mem_cons.mpr
      ⟨.object hresult, List.forall_mem_singleton.mpr (.object hdirection)⟩⟩)))))

theorem whole_reference : ∀ m ∈ reference, m.2.Whole :=
  List.forall_mem_cons.mpr ⟨.string _, List.forall_mem_singleton.mpr (.string _)⟩

theorem whole_bothWays : ∀ m ∈ bothWays, m.2.Whole :=
  List.forall_mem_singleton.mpr .null

theorem writtenAs_plainText : (requestDocument reference bothWays).WrittenAs plainText := by
  have htext : plainText = .ofList (requestDocument reference bothWays).compact := by
    decide +kernel
  exact htext ▸ writtenAs_compact (whole_requestDocument whole_reference whole_bothWays)

theorem parseText_plainText : (parseText plainText).toOption.isSome = true := by
  rw [parseText_toOption writtenAs_plainText]
  rfl

theorem parseText_lateText :
    (requestDocument reference bothWays).KeysDistinct ∧
      Relation.ReflTransGen (Variation (· ≠ .direction) .metaModel)
        (requestDocument reference bothWays) (requestDocument lateReference bothWays) ∧
      (requestDocument reference bothWays).WrittenAs plainText ∧
      (requestDocument lateReference bothWays).WrittenAs lateText ∧
      (parseText plainText).toOption.isSome = true ∧
      (parseText lateText).toOption = (parseText plainText).toOption := by
  have hresult {node node' : List (String × Document)}
      (h : Variation (· ≠ .direction) .type (.object node) (.object node')) :
      Variation (· ≠ .direction) .metaModel (requestDocument node bothWays)
        (requestDocument node' bothWays) :=
    .member [] [] (.element [] [] (.member [("method", .string "hover")]
      [("messageDirection", .object bothWays)] h))
  have hadd : Variation (· ≠ .direction) .type (.object reference)
      (.object (("items", .null) :: reference)) := .add nofun (by decide) trivial
  have hpermute : Variation (· ≠ .direction) .type (.object (("items", .null) :: reference))
      (.object lateReference) := .permute (@List.perm_append_comm _ [_, _] [_])
  have hvaried := (Relation.ReflTransGen.single (hresult hadd)).tail (hresult hpermute)
  have htext : (requestDocument lateReference bothWays).WrittenAs lateText := by
    have htext : lateText = .ofList (requestDocument lateReference bothWays).compact := by
      decide +kernel
    refine htext ▸ writtenAs_compact (whole_requestDocument ?_ whole_bothWays)
    exact List.forall_mem_cons.mpr ⟨.string _, List.forall_mem_cons.mpr
      ⟨.null, List.forall_mem_singleton.mpr (.string _)⟩⟩
  exact ⟨keysDistinct_requestDocument, hvaried, writtenAs_plainText, htext, parseText_plainText,
    parseText_toOption_of_variations keysDistinct_requestDocument hvaried writtenAs_plainText htext⟩

/-- A direction that is an object has one member, and another one makes it no direction. -/
theorem parseText_notedText :
    (requestDocument reference bothWays).KeysDistinct ∧
      Relation.ReflTransGen (Variation (fun _ => True) .metaModel)
        (requestDocument reference bothWays) (requestDocument reference bothWaysNoted) ∧
      (requestDocument reference bothWays).WrittenAs plainText ∧
      (requestDocument reference bothWaysNoted).WrittenAs notedText ∧
      (parseText plainText).toOption.isSome = true ∧ (parseText notedText).toOption = none := by
  have hdirection {ms ms' : List (String × Document)}
      (h : Variation (fun _ => True) .direction (.object ms) (.object ms')) :
      Variation (fun _ => True) .metaModel (requestDocument reference ms)
        (requestDocument reference ms') :=
    .member [] [] (.element [] [] (.member
      [("method", .string "hover"), ("result", .object reference)] [] h))
  have hadd : Variation (fun _ => True) .direction (.object bothWays)
      (.object (("note", .bool true) :: bothWays)) := .add trivial (by decide) trivial
  have hpermute : Variation (fun _ => True) .direction (.object (("note", .bool true) :: bothWays))
      (.object bothWaysNoted) := .permute (@List.perm_append_comm _ [_] [_])
  have htext : (requestDocument reference bothWaysNoted).WrittenAs notedText := by
    have htext : notedText = .ofList (requestDocument reference bothWaysNoted).compact := by
      decide +kernel
    refine htext ▸ writtenAs_compact (whole_requestDocument whole_reference ?_)
    exact List.forall_mem_cons.mpr ⟨.null, List.forall_mem_singleton.mpr (.bool _)⟩
  have hrefused : (parseText notedText).toOption = none := by
    rw [parseText_toOption htext]
    rfl
  exact ⟨keysDistinct_requestDocument,
    (Relation.ReflTransGen.single (hdirection hadd)).tail (hdirection hpermute),
    writtenAs_plainText, htext, parseText_plainText, hrefused⟩

end Sample
end MetaModel
end ProtocolTypes
