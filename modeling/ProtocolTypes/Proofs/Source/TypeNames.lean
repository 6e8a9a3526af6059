import ProtocolTypes.Proofs.Identifier.Spelling
import ProtocolTypes.Proofs.Mapping.AsciiNames

/-!
# ProtocolTypes.Proofs.Source.TypeNames

How the names of types are written. In a model with ASCII names every type can be written; two types
are written alike exactly when their names are `SpeltAlike`, and a type is written like one of the
language exactly when it bears its name (`targetDecls_typeNames`). Both happen, since a name is
chosen without a look at what is written (`types_written_alike`).
-/

namespace ProtocolTypes

open Target Text Identifier

/-- How the type declarations of a list are written. -/
structure WrittenTypes (ds : List Decl) : Prop where
  written : ∀ t, .type t ∈ ds → ∃ w, Source.ident t.ident = .ok w
  alike : ∀ t u, .type t ∈ ds → .type u ∈ ds →
    (Source.ident t.ident = Source.ident u.ident ↔ SpeltAlike t.ident u.ident)
  distinct_iff : ((typeDecls ds).map fun t => Source.ident t.ident).Nodup ↔
    ∀ t u, .type t ∈ ds → .type u ∈ ds → SpeltAlike t.ident u.ident → t = u
  builtin : ∀ t, .type t ∈ ds → ∀ w ∈ Source.builtins,
    (Source.ident t.ident = .ok w ↔ t.ident = w)
  /-- Where names are spelt apart and none is a type of the language, what is written in place of a
  type denotes its declaration and nothing else. -/
  denotes : (∀ t u, .type t ∈ ds → .type u ∈ ds → SpeltAlike t.ident u.ident → t = u) →
    (∀ t, .type t ∈ ds → t.ident ∉ Source.builtins) → ∀ t, .type t ∈ ds →
      ∃ w, Source.type (.symbol t.ident) = .ok (.text w) ∧ w ∉ Source.builtins ∧
        ∀ u, .type u ∈ ds → Source.ident u.ident = .ok w → u = t

theorem Source.type_symbol {name w : String} (h : Source.ident name = .ok w) :
    Source.type (.symbol name) = .ok (.text w) := by
  rw [Source.type, h]
  rfl

theorem writtenTypes_of_isAscii {ds : List Decl} (hdistinct : DistinctTypes ds)
    (h : ∀ t, .type t ∈ ds → IsAscii t.ident) : WrittenTypes ds := by
  have halike : ∀ t u, .type t ∈ ds → .type u ∈ ds →
      (Source.ident t.ident = Source.ident u.ident ↔ SpeltAlike t.ident u.ident) :=
    fun t u ht hu => ident_eq_iff (h t ht) (h u hu)
  have hbuiltin : ∀ t, .type t ∈ ds → ∀ w ∈ Source.builtins,
      (Source.ident t.ident = .ok w ↔ t.ident = w) :=
    fun t ht w hw => ident_eq_builtin_iff (h t ht) hw
  refine ⟨fun t ht => ⟨_, ident_eq_ok (h t ht)⟩, halike, ?distinct, hbuiltin, ?denotes⟩
  case distinct =>
    rw [List.nodup_map_iff_inj_on (List.Nodup.of_map _ hdistinct)]
    simp only [mem_typeDecls]
    constructor
    · intro hinj t u ht hu htu
      exact hinj t ht u hu ((halike t u ht hu).mpr htu)
    · intro hspelt t ht u hu htu
      exact hspelt t u ht hu ((halike t u ht hu).mp htu)
  case denotes =>
    intro hspelt hfree t ht
    have hw := ident_eq_ok (h t ht)
    refine ⟨_, Source.type_symbol hw, fun hmem => ?_, fun u hu huw => ?_⟩
    · have hname := (hbuiltin t ht _ hmem).mp hw
      exact hfree t ht (hname ▸ hmem)
    · exact hspelt u t hu ht ((halike u t hu ht).mp (huw.trans hw.symm))

namespace MetaModel

variable {m : MetaModel} {o : MappingOptions}

theorem targetDecls_typeNames (hm : m.AsciiNames) {ds : List Decl}
    (h : m.targetDecls o = .ok ds) : WrittenTypes ds := by
  obtain ⟨set, ps, r, dss, hg⟩ := generated_of_targetDecls h
  refine writtenTypes_of_isAscii hg.distinct fun t ht => ?_
  obtain ⟨u, g, rfl, horigin⟩ := hg.origin ht
  exact horigin.isAscii hm

/-! ## Models to run on -/

/-- A property that holds an inline structure with a label. -/
def kindProperty : Property :=
  ⟨"kind", .literal ⟨[⟨"label", .base "string", false, {}⟩], {}⟩, false, {}⟩

theorem isAscii_kindProperty :
    IsAscii kindProperty.name ∧ kindProperty.type.AsciiProperties := by
  refine ⟨by decide, TypeExpr.asciiProperties_of_children (fun l hl => ?_) fun c hc => ?_⟩
  · cases hl
    decide
  · obtain rfl := List.mem_singleton.mp hc
    exact TypeExpr.asciiProperties_of_isAtomic rfl

/-- The record for an inline structure with a label. -/
def labelRecord : TypeSpec :=
  .record [] [⟨"label", "label", .primitive .string, false, {}⟩]

/-- Structures of two names, of which the second has a kind. -/
def twoNames (first second : String) : MetaModel where
  version := "1"
  requests := []
  notifications := []
  structures := [
    ⟨first, [⟨"value", .base "string", false, {}⟩], [], [], {}⟩,
    ⟨second, [kindProperty], [], [], {}⟩]
  enumerations := []
  typeAliases := []

def twoNamesDecls (first second third : String) : List Decl := [
  .type ⟨first, {}, .record [] [⟨"value", "value", .primitive .string, false, {}⟩]⟩,
  .type ⟨second, {}, .record [] [⟨"kind", "kind", .symbol third, false, {}⟩]⟩,
  .type ⟨third, {}, labelRecord⟩]

theorem asciiNames_twoNames {first second : String} (hfirst : IsAscii first)
    (hsecond : IsAscii second) : (twoNames first second).AsciiNames where
  declared d hd := by
    simp only [declarations, twoNames, List.map_cons, List.map_nil, List.append_nil,
      List.mem_cons, List.not_mem_nil, or_false] at hd
    rcases hd with rfl | rfl
    · exact hfirst
    · exact hsecond
  properties s hs p hp := by
    simp only [twoNames, List.mem_cons, List.not_mem_nil, or_false] at hs
    rcases hs with rfl | rfl
    · obtain rfl := List.mem_singleton.mp hp
      exact ⟨by decide, TypeExpr.asciiProperties_of_isAtomic rfl⟩
    · obtain rfl := List.mem_singleton.mp hp
      exact isAscii_kindProperty
  aliases a ha := absurd ha List.not_mem_nil

theorem twoNames_typeNames :
    (twoNames "Self" "Tag").AsciiNames ∧
      (twoNames "Self" "Tag").targetDecls {} = .ok (twoNamesDecls "Self" "Tag" "TagKind") ∧
      WrittenTypes (twoNamesDecls "Self" "Tag" "TagKind") ∧
      ((typeDecls (twoNamesDecls "Self" "Tag" "TagKind")).map fun t => Source.ident t.ident) =
        ["Self_", "Tag", "TagKind"].map .ok := by
  have hascii := asciiNames_twoNames (show IsAscii "Self" by decide) (show IsAscii "Tag" by decide)
  have hdecls : (twoNames "Self" "Tag").targetDecls {} =
      .ok (twoNamesDecls "Self" "Tag" "TagKind") := targetDecls_of_collect (by decide +kernel)
  exact ⟨hascii, hdecls, targetDecls_typeNames hascii hdecls, by decide +kernel⟩

/-- The kind of `Item_` is written like the structure `Item-Kind`, and a structure may bear the name
of the type of text. -/
theorem types_written_alike :
    (¬ ∀ (m : MetaModel) (o : MappingOptions) (ds : List Decl), m.AsciiNames →
      m.targetDecls o = .ok ds → ((typeDecls ds).map fun t => Source.ident t.ident).Nodup) ∧
    ¬ ∀ (m : MetaModel) (o : MappingOptions) (ds : List Decl), m.AsciiNames →
      m.targetDecls o = .ok ds → ∀ t, .type t ∈ ds → ∀ w ∈ Source.builtins,
        Source.ident t.ident ≠ .ok w := by
  constructor
  · intro h
    have hascii := asciiNames_twoNames (show IsAscii "Item-Kind" by decide)
      (show IsAscii "Item_" by decide)
    have hdecls : (twoNames "Item-Kind" "Item_").targetDecls {} =
        .ok (twoNamesDecls "Item-Kind" "Item_" "Item_Kind") :=
      targetDecls_of_collect (by decide +kernel)
    exact absurd (h _ {} _ hascii hdecls) (by decide +kernel)
  · intro h
    have hascii := asciiNames_twoNames (show IsAscii "String" by decide)
      (show IsAscii "Tag" by decide)
    have hdecls : (twoNames "String" "Tag").targetDecls {} =
        .ok (twoNamesDecls "String" "Tag" "TagKind") := targetDecls_of_collect (by decide +kernel)
    have hident : Source.ident "String" = .ok "String" := by decide +kernel
    exact h _ {} _ hascii hdecls _ List.mem_cons_self "String" (by decide) hident

end MetaModel
end ProtocolTypes
