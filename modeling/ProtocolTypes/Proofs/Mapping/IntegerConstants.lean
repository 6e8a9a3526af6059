import ProtocolTypes.Proofs.Binary64.Truncation
import ProtocolTypes.Proofs.Decoding.FiniteNumbers
import ProtocolTypes.Proofs.Mapping.Success

/-!
# ProtocolTypes.Proofs.Mapping.IntegerConstants

The constants of enumerations over integers. A decoded enumeration is declared exactly when all its
values are numbers, and each constant is the number without its fraction, brought to the nearest
integer that the base type has (`declare_integerConstants`). A number beyond the base type is
therefore not refused but replaced (`constants_saturate`).
-/

namespace ProtocolTypes

open Target Json

/-- The integer that a constant is. -/
def Target.ConstValue.integer? : ConstValue → Option Int
  | .int v => some v.toInt
  | .uint v => some v.toNat
  | .float _ | .text _ => none

namespace Enumeration

variable {e : Enumeration}

/-- The least and the greatest integer of a base type of integers. -/
def integerRange? : String → Option (Int × Int)
  | "integer" => some (-2147483648, 2147483647)
  | "uinteger" => some (0, 4294967295)
  | _ => none

/-- The enumeration was read from a text, on its own or in a meta model. -/
inductive IsDecoded : Enumeration → Prop where
  | alone {shape : Json.Shape} {input : List Symbol} {e : Enumeration} :
      Decoding.decodeOnly shape Decoding.enumerationRecord.decode input = .ok e → IsDecoded e
  | declared {input : List Symbol} {m : MetaModel} {e : Enumeration} :
      MetaModel.parse input = .ok m → e ∈ m.enumerations → IsDecoded e

theorem IsDecoded.hasFiniteNumbers (h : e.IsDecoded) : e.HasFiniteNumbers := by
  cases h with
  | @alone shape input _ hdecode =>
    simp only [Decoding.decodeOnly] at hdecode
    have hfinite := allFinite_read shape input
    split at hdecode
    · cases hdecode
    · rename_i htree _
      cases hdecode
      exact Decoding.hasFiniteNumbers_of_enumeration hfinite htree
    · rename_i htree _
      split at hdecode <;> cases hdecode
      exact Decoding.hasFiniteNumbers_of_enumeration hfinite htree
  | declared hparse he => exact MetaModel.hasFiniteNumbers_of_parse hparse e he

/-! ## Carriers -/

/-- The integer in the range that is nearest to the number without its fraction. -/
def nearest (lo hi : Int) (x : Binary64) : Int :=
  max lo (min hi (towardZero x.toRat))

theorem nearest_mem {lo hi : Int} (h : lo ≤ hi) (x : Binary64) :
    lo ≤ nearest lo hi x ∧ nearest lo hi x ≤ hi := by
  rw [nearest]
  omega

theorem nearest_eq_iff {lo hi : Int} (h : lo ≤ hi) {x : Binary64} :
    nearest lo hi x = towardZero x.toRat ↔
      lo ≤ towardZero x.toRat ∧ towardZero x.toRat ≤ hi := by
  rw [nearest]
  omega

/-- What becomes of values in a carrier of the integers from `lo` to `hi`. -/
structure Carries (carrier : Primitive) (lo hi : Int) : Prop where
  le : lo ≤ hi
  text : ∀ s, constant? carrier (.string s) = none
  number : ∀ x : Binary64, x.isFinite = true → ∃ v,
    constant? carrier (.number x) = some v ∧ v.integer? = some (nearest lo hi x)

theorem carries_int32 : Carries .int32 (-2147483648) 2147483647 := by
  refine ⟨by decide, fun _ => rfl, fun x hx => ⟨_, rfl, ?_⟩⟩
  have hmin : Int32.minValue.toInt = -2147483648 := by decide
  have hmax : Int32.maxValue.toInt = 2147483647 := by decide
  obtain ⟨hlo, hhi⟩ := nearest_mem (show (-2147483648 : Int) ≤ 2147483647 by decide) x
  rw [ConstValue.integer?, Binary64.clampTo_eq hx, hmin, hmax, ← nearest,
    Int32.toInt_ofInt_of_le hlo (by omega)]

theorem carries_uint32 : Carries .uint32 0 4294967295 := by
  refine ⟨by decide, fun _ => rfl, fun x hx => ⟨_, rfl, ?_⟩⟩
  have hmax : ((UInt32.size : Nat) : Int) - 1 = 4294967295 := by decide
  obtain ⟨hlo, hhi⟩ := nearest_mem (show (0 : Int) ≤ 4294967295 by decide) x
  have hlt : (nearest 0 4294967295 x).toNat < UInt32.size := by
    rw [show UInt32.size = 4294967296 from rfl]
    omega
  rw [ConstValue.integer?, Binary64.clampTo_eq hx, hmax, ← nearest, UInt32.toNat_ofNat_of_lt' hlt,
    Int.toNat_of_nonneg hlo]

theorem exists_carries {base : String} {lo hi : Int} (h : integerRange? base = some (lo, hi)) :
    ∃ carrier, carrierOf? base = some carrier ∧ Carries carrier lo hi := by
  rw [integerRange?.eq_def] at h
  split at h <;> cases h
  · exact ⟨.int32, rfl, carries_int32⟩
  · exact ⟨.uint32, rfl, carries_uint32⟩

/-! ## Constants -/

/-- The constant for an entry of an enumeration over the integers from `lo` to `hi`. -/
structure IsConstantOf (e : Enumeration) (lo hi : Int) (entry : EnumerationEntry)
    (c : ConstDecl) : Prop where
  ident : c.ident = e.name ++ entry.name
  value : ∃ x v, entry.value = .number x ∧ c.value.integer? = some v ∧ v = nearest lo hi x ∧
    (v = towardZero x.toRat ↔ lo ≤ towardZero x.toRat ∧ towardZero x.toRat ≤ hi)

section Entry

variable {documented : Bool} {carrier : Primitive} {lo hi : Int} {entry : EnumerationEntry}

theorem mapEntry_of_number (h : Carries carrier lo hi) {x : Binary64} (hx : x.isFinite = true)
    (hvalue : entry.value = .number x) :
    ∃ c, e.mapEntry documented carrier entry = .ok c ∧ e.IsConstantOf lo hi entry c := by
  obtain ⟨v, hv, hinteger⟩ := h.number x hx
  rw [mapEntry, hvalue, hv]
  exact ⟨_, rfl, rfl, x, _, hvalue, hinteger, rfl, nearest_eq_iff h.le⟩

theorem mapEntry_of_text (h : Carries carrier lo hi) {s : String}
    (hvalue : entry.value = .string s) :
    e.mapEntry documented carrier entry =
      .error (.entryMismatch e.name entry.name e.baseName) := by
  rw [mapEntry, hvalue, h.text]

theorem mapEntry_eq_ok (h : Carries carrier lo hi) (hfinite : entry.value.IsFinite) {c : ConstDecl}
    (hc : e.mapEntry documented carrier entry = .ok c) : e.IsConstantOf lo hi entry c := by
  cases hvalue : entry.value with
  | number x =>
    rw [hvalue] at hfinite
    obtain ⟨c', hc', hconstant⟩ : ∃ c', e.mapEntry documented carrier entry = .ok c' ∧
        e.IsConstantOf lo hi entry c' := mapEntry_of_number h hfinite hvalue
    rw [hc] at hc'
    cases hc'
    exact hconstant
  | string s =>
    rw [mapEntry_of_text h hvalue] at hc
    cases hc

theorem mapEntry_eq_error (h : Carries carrier lo hi) (hfinite : entry.value.IsFinite)
    {err : MappingError} (herr : e.mapEntry documented carrier entry = .error err) :
    (∃ s, entry.value = .string s) ∧ err = .entryMismatch e.name entry.name e.baseName := by
  cases hvalue : entry.value with
  | number x =>
    rw [hvalue] at hfinite
    obtain ⟨c, hc, _⟩ : ∃ c, e.mapEntry documented carrier entry = .ok c ∧
        e.IsConstantOf lo hi entry c := mapEntry_of_number h hfinite hvalue
    rw [hc] at herr
    cases herr
  | string s =>
    rw [mapEntry_of_text h hvalue] at herr
    cases herr
    exact ⟨⟨s, rfl⟩, rfl⟩

end Entry

section Entries

variable {documented : Bool} {carrier : Primitive} {lo hi : Int}

theorem exists_constants_iff (h : Carries carrier lo hi) (hfinite : e.HasFiniteNumbers) :
    (∃ cs, e.values.mapM (e.mapEntry documented carrier) = .ok cs) ↔
      ∀ entry ∈ e.values, ∃ x, entry.value = .number x := by
  rw [exists_mapM_eq_ok_iff]
  refine forall₂_congr fun entry hmem => ?_
  have hentry := hfinite entry hmem
  constructor
  · rintro ⟨c, hc⟩
    obtain ⟨x, _, hvalue, _⟩ := (mapEntry_eq_ok h hentry hc).value
    exact ⟨x, hvalue⟩
  · rintro ⟨x, hvalue⟩
    rw [hvalue] at hentry
    obtain ⟨c, hc, _⟩ := mapEntry_of_number h hentry hvalue
    exact ⟨c, hc⟩

theorem forall₂_isConstantOf (h : Carries carrier lo hi) (hfinite : e.HasFiniteNumbers)
    {cs : List ConstDecl} (hcs : e.values.mapM (e.mapEntry documented carrier) = .ok cs) :
    List.Forall₂ (e.IsConstantOf lo hi) e.values cs := by
  have hall := mapM_eq_ok_iff.mp hcs
  rw [List.forall₂_iff_get] at hall ⊢
  exact ⟨hall.1, fun i hi hi' =>
    mapEntry_eq_ok h (hfinite _ (List.get_mem _ _)) (hall.2 i hi hi')⟩

end Entries

/-- A decoded enumeration over integers is declared when no value is a text, with one constant for
each entry, in order. A constant is its entry's number truncated toward zero just where this is
within the range, and else the bound next to it. -/
theorem declare_integerConstants (hdecoded : e.IsDecoded) {base : String}
    (htype : e.type = .base base) {lo hi : Int} (hrange : integerRange? base = some (lo, hi))
    (documented : Bool) :
    ((∃ d, e.declare documented = .ok d) ↔ ∀ entry ∈ e.values, ∃ x, entry.value = .number x) ∧
      (∀ err, e.declare documented = .error err → ∃ entry ∈ e.values,
        (∃ s, entry.value = .string s) ∧ err = .entryMismatch e.name entry.name base) ∧
      ∀ t b, e.declare documented = .ok (t, b) →
        b.owner = e.name ∧ List.Forall₂ (e.IsConstantOf lo hi) e.values b.constants := by
  have hfinite := hdecoded.hasFiniteNumbers
  obtain ⟨carrier, hbase, hcarries⟩ := exists_carries hrange
  have hcarrier := carrierOf?_baseName_iff.mpr ⟨base, htype, hbase⟩
  have hname : e.baseName = base := by
    rw [baseName, htype]
    rfl
  have hdeclare : e.declare documented = (fun constants =>
      (⟨e.name, Docs.ofAnnotations documented e.annotations, .newtype carrier⟩,
        ⟨e.name, constants⟩)) <$> e.values.mapM (e.mapEntry documented carrier) :=
    declare_of_carrier documented hcarrier
  rw [hdeclare, ← exists_constants_iff hcarries hfinite]
  refine ⟨?defined, fun err herr => ?failure, fun t b hdecl => ?constants⟩
  case defined =>
    constructor
    · rintro ⟨d, hd⟩
      obtain ⟨cs, hcs, _⟩ := map_eq_ok.mp hd
      exact ⟨cs, hcs⟩
    · rintro ⟨cs, hcs⟩
      exact ⟨_, map_eq_ok.mpr ⟨cs, hcs, rfl⟩⟩
  case failure =>
    obtain ⟨entry, hmem, hentry⟩ := exists_of_mapM_eq_error (map_eq_error.mp herr)
    obtain ⟨htext, rfl⟩ := mapEntry_eq_error hcarries (hfinite entry hmem) hentry
    exact ⟨entry, hmem, htext, by rw [hname]⟩
  case constants =>
    obtain ⟨cs, hcs, heq⟩ := map_eq_ok.mp hdecl
    cases heq
    exact ⟨rfl, forall₂_isConstantOf hcarries hfinite hcs⟩

/-! ## Samples -/

namespace Sample

/-- A text of an enumeration named `Level`. -/
def levelText (base : String) (entries : List (String × String)) : String :=
  "\x7b\"name\":\"Level\",\"type\":\x7b\"kind\":\"base\",\"name\":\"" ++ base ++
    "\"\x7d,\"values\":[" ++
    ",".intercalate (entries.map fun (name, digits) =>
      "\x7b\"name\":\"" ++ name ++ "\",\"value\":" ++ digits ++ "\x7d") ++ "]\x7d"

def level (base : String) (entries : List (String × Binary64)) : Enumeration :=
  ⟨"Level", .base base, entries.map fun (name, x) => ⟨name, .number x, {}⟩, false, {}⟩

/-- Types have no decidable equality, so what a text is decoded to is compared part by part. -/
theorem isDecoded_level (text : String) {base : String} {entries : List (String × Binary64)}
    (h : (Decoding.decodeOnly .anything Decoding.enumerationRecord.decode
      (Symbol.ofText text)).toOption.map (fun e => (e.name, e.type.base?, e.values,
        e.supportsCustomValues, e.annotations)) =
      some ("Level", some base, (level base entries).values, false, {})) :
    (level base entries).IsDecoded := by
  obtain ⟨⟨name, type, values, custom, annotations⟩, hdecode, hparts⟩ := Option.map_eq_some_iff.mp h
  simp only [Prod.mk.injEq] at hparts
  obtain ⟨rfl, htype, rfl, rfl, rfl⟩ := hparts
  cases type with
  | base name =>
    cases htype
    exact .alone (toOption_eq_some.mp hdecode)
  | _ => cases htype

/-- The numbers 2.9, -3 and 3000000000. -/
def mixed : List (String × Binary64) :=
  [("High", ⟨0x4007333333333333⟩), ("Low", .ofInt (-3)), ("Top", .ofInt 3000000000)]

theorem isDecoded_mixed : (level "integer" mixed).IsDecoded :=
  isDecoded_level (levelText "integer" [("High", "2.9"), ("Low", "-3"), ("Top", "3e9")])
    (by decide +kernel)

/-- The number -1. -/
def unset : List (String × Binary64) :=
  [("Unset", .ofInt (-1))]

theorem isDecoded_unset : (level "uinteger" unset).IsDecoded :=
  isDecoded_level (levelText "uinteger" [("Unset", "-1")]) (by decide +kernel)

/-- The wrapper and the constants of an enumeration named `Level`. -/
def levelDecls (carrier : Primitive) (constants : List (String × ConstValue)) :
    TypeDecl × ConstBlock :=
  (⟨"Level", Docs.ofAnnotations true {}, .newtype carrier⟩,
    ⟨"Level", constants.map fun (ident, v) => ⟨ident, v, Docs.ofAnnotations true {}⟩⟩)

end Sample

open Sample

theorem declare_mixed :
    (level "integer" mixed).IsDecoded ∧
      (level "integer" mixed).declare true = .ok (levelDecls .int32
        [("LevelHigh", .int 2), ("LevelLow", .int (-3)), ("LevelTop", .int 2147483647)]) ∧
      List.Forall₂ ((level "integer" mixed).IsConstantOf (-2147483648) 2147483647)
        (level "integer" mixed).values (levelDecls .int32 [("LevelHigh", .int 2),
          ("LevelLow", .int (-3)), ("LevelTop", .int 2147483647)]).2.constants := by
  have hdeclare : (level "integer" mixed).declare true = .ok (levelDecls .int32
      [("LevelHigh", .int 2), ("LevelLow", .int (-3)), ("LevelTop", .int 2147483647)]) := by
    decide +kernel
  have hlaw := declare_integerConstants isDecoded_mixed rfl rfl true
  exact ⟨isDecoded_mixed, hdeclare, (hlaw.2.2 _ _ hdeclare).2⟩

/-- The entry -1 of an enumeration over the natural numbers becomes 0 without an error. -/
theorem constants_saturate :
    ¬ ∀ (e : Enumeration) (base : String) (lo hi : Int) (documented : Bool) (t : TypeDecl)
        (b : ConstBlock), e.IsDecoded → e.type = .base base → integerRange? base = some (lo, hi) →
      e.declare documented = .ok (t, b) →
      List.Forall₂ (fun entry c => c.ident = e.name ++ entry.name ∧ ∃ x, entry.value = .number x ∧
        c.value.integer? = some (towardZero x.toRat)) e.values b.constants := by
  intro h
  have hdeclare : (level "uinteger" unset).declare true =
      .ok (levelDecls .uint32 [("LevelUnset", .uint 0)]) := by
    decide +kernel
  have hlaw := h _ _ _ _ _ _ _ isDecoded_unset rfl rfl hdeclare
  obtain ⟨⟨_, x, hx, hvalue⟩, _⟩ := List.forall₂_cons.mp hlaw
  cases hx
  rw [← Binary64.truncate_eq] at hvalue
  exact absurd hvalue (by decide +kernel)

end Enumeration
end ProtocolTypes
