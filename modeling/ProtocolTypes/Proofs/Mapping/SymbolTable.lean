import ProtocolTypes.Proofs.Mapping.Output

/-!
# ProtocolTypes.Proofs.Mapping.SymbolTable

The declarations of a meta model are a program that can be compiled:

* `mentioned_type_declared`: every name that a type mentions is declared as a type.
* `targetDecls_symbolTable`: each declared name has one type, shaped by its last declaration, each
  enumeration has one block of constants, and all other types are synthesized under new names.
* `targetDecls_finite_size`: no record and no union contains itself by value.
-/

namespace ProtocolTypes

open Target

namespace MetaModel

variable {m : MetaModel} {o : MappingOptions}

/-! ## A model to run on -/

/-- A structure with a base and a mixin; its value may hold another one. -/
def itemStructure : Structure where
  name := "Item"
  properties := [
    ⟨"kind", .reference "ItemKind", false, {}⟩,
    ⟨"value", .or [.reference "Item", .base "string"], false, {}⟩]
  bases := [.reference "Base"]
  mixins := [.reference "Extra"]
  annotations := {}

def inventory : MetaModel where
  version := "1"
  requests := []
  notifications := []
  structures := [
    ⟨"Base", [⟨"id", .base "integer", false, {}⟩], [], [], {}⟩,
    ⟨"Extra", [⟨"note", .base "string", true, {}⟩], [], [], {}⟩,
    itemStructure]
  enumerations := [
    ⟨"ItemKind", .base "string", [⟨"Plain", .string "plain", {}⟩], false, {}⟩]
  typeAliases := []

/-- The record for an item; the declarations around it do not depend on it. -/
def itemRecord (bases : List Base) (inherited : List Field) : TypeDecl where
  ident := "Item"
  docs := {}
  spec := .record bases (inherited ++
    [⟨"note", "note", .option (.primitive .string), true, {}⟩,
      ⟨"kind", "kind", .symbol "ItemKind", false, {}⟩,
      ⟨"value", "value", .boxed (.symbol "ItemValue"), false, {}⟩])

def inventoryWith (item : TypeDecl) : List Decl := [
  .type ⟨"Base", {}, .record [] [⟨"id", "id", .primitive .int32, false, {}⟩]⟩,
  .type ⟨"Extra", {}, .record [] [⟨"note", "note", .option (.primitive .string), true, {}⟩]⟩,
  .type item,
  .type ⟨"ItemKind", {}, .newtype .string⟩,
  .constants ⟨"ItemKind", [⟨"ItemKindPlain", .text "plain", {}⟩]⟩,
  .type ⟨"ItemValue", {}, .union [⟨"Item", some (.boxed (.symbol "Item"))⟩,
    ⟨"String", some (.primitive .string)⟩]⟩]

def item : TypeDecl :=
  itemRecord [⟨"base", .symbol "Base"⟩] []

def inventoryDecls : List Decl :=
  inventoryWith item

/-- Declarations that were collected in order are only boxed. -/
theorem targetDecls_of_collect {ds : List Decl}
    (h : (m.collect o).toOption.any fun s =>
      s.decls.Pairwise (fun a b => a.le b) ∧ boxed s.decls = ds) :
    m.targetDecls o = .ok ds := by
  rw [targetDecls]
  cases hs : m.collect o with
  | error e => rw [hs] at h; cases h
  | ok s =>
    rw [hs] at h
    obtain ⟨hsorted, hboxed⟩ := of_decide_eq_true h
    rw [← hboxed, ← show s.sorted = s.decls from List.mergeSort_of_pairwise hsorted]
    rfl

theorem targetDecls_inventory : inventory.targetDecls {} = .ok inventoryDecls :=
  targetDecls_of_collect (by decide +kernel)

/-! ## Names that types mention -/

/-- Every name that a type of a declaration mentions, at any depth, is declared as a type. -/
theorem mentioned_type_declared {ds : List Decl} (h : m.targetDecls o = .ok ds) {d : TypeDecl}
    (hd : .type d ∈ ds) {t : TargetType} (ht : t ∈ d.spec.types) {name : String}
    (hname : t.Mentions name) : ∃ e, .type e ∈ ds ∧ e.ident = name := by
  obtain ⟨set, ps, r, dss, hg⟩ := generated_of_targetDecls h
  obtain ⟨s, hs⟩ := hg.exists_shape hd
  obtain ⟨u, hu⟩ := TypeSpec.exists_shape_of_mem_types hs ht
  obtain ⟨v, hv⟩ := TargetType.exists_meaning_of_mentions hname hu
  rcases mem_or_declared_of_meaningIn hv with hmem | ⟨e, he, hident⟩
  · obtain ⟨p, hp, rfl⟩ := List.mem_map.mp hmem
    obtain ⟨e, _, he, _, hident, _⟩ := hg.exists_type hp
    exact ⟨e, he, hident⟩
  · exact ⟨e, mem_typeDecls.mp he, hident⟩

theorem mentioned_itemValue :
    .type item ∈ inventoryDecls ∧ .boxed (.symbol "ItemValue") ∈ item.spec.types ∧
      ∃ e, .type e ∈ inventoryDecls ∧ e.ident = "ItemValue" := by
  have hitem : .type item ∈ inventoryDecls := by decide
  have hvalue : .boxed (.symbol "ItemValue") ∈ item.spec.types := by decide
  exact ⟨hitem, hvalue,
    mentioned_type_declared targetDecls_inventory hitem hvalue (.boxed .symbol)⟩

/-! ## Sizes -/

/-- No record and no union is contained in itself by value, through however many others. -/
theorem targetDecls_finite_size {ds : List Decl} (h : m.targetDecls o = .ok ds) {d : TypeDecl}
    (hd : .type d ∈ ds) (hs : d.spec.isComposite) :
    ¬ Relation.TransGen (ContainsByValue ds) d.ident d.ident := by
  obtain ⟨set, ps, r, dss, hg⟩ := generated_of_targetDecls h
  have hdistinct := DeclSet.distinctTypes_sorted hg.distinct_set
  rw [hg.boxed] at hd ⊢
  exact boxed_acyclic hdistinct hd hs

theorem item_finite_size :
    .type item ∈ inventoryDecls ∧ item.spec.isComposite ∧
      ¬ Relation.TransGen (ContainsByValue inventoryDecls) "Item" "Item" := by
  have hitem : .type item ∈ inventoryDecls := by decide
  exact ⟨hitem, rfl, targetDecls_finite_size targetDecls_inventory hitem rfl⟩

/-! ## The symbol table -/

/-- The declaration of `t` among `ds` is what the model declares as `d`. -/
structure Declares (m : MetaModel) (o : MappingOptions) (ds : List Decl) (d : Declared)
    (t : TypeDecl) : Prop where
  ident : t.ident = d.name
  docs : t.docs = Docs.ofAnnotations o.documented d.annotations
  form : t.spec.form = d.form
  shape : ∃ s, m.translateDeclared o d = .ok s ∧ t.spec.shape (m.meaning ds) = some s

/-- The declaration of `t` is `u` but for the heap. -/
structure SameButHeap (u t : TypeDecl) : Prop where
  ident : t.ident = u.ident
  docs : t.docs = u.docs
  spec : ∃ cycle, t.spec = u.spec.box cycle

/-- What each declaration is there for. -/
structure SymbolTable (m : MetaModel) (o : MappingOptions) (ds : List Decl) : Prop where
  sorted : ds.Pairwise Decl.Precedes
  distinct : DistinctTypes ds
  /-- Each name of the model has one type, which its last declaration shapes. -/
  named : ∀ d ∈ m.declarations, ∃ e t, m.Indexes e ∧ e.name = d.name ∧
    (typeDecls ds).filter (fun u => u.ident = d.name) = [t] ∧ Declares m o ds e t
  /-- A name has constants when its last declaration is an enumeration. -/
  owner : ∀ b, .constants b ∈ ds →
    ∃ e : Enumeration, m.Indexes (.enumeration e) ∧ e.name = b.owner
  constants : ∀ e : Enumeration, m.Indexes (.enumeration e) →
    ∃ t b, e.declare o.documented = .ok (t, b) ∧
      (constBlocks ds).filter (fun c => c.owner = e.name) = [b]
  /-- All other types are those that the run registers, under names that are not the model's. -/
  synthesized : ∃ named r, (m.mapPrimaries o).run (.empty m.names) = (.ok named, r) ∧
    (∀ t, .type t ∈ ds → (∀ d ∈ m.declarations, d.name ≠ t.ident) →
      ∃ u ∈ r.decls, SameButHeap u t) ∧
    ∀ u ∈ r.decls, (∀ d ∈ m.declarations, d.name ≠ u.ident) ∧
      ∃ t, .type t ∈ ds ∧ SameButHeap u t

theorem targetDecls_symbolTable {ds : List Decl} (h : m.targetDecls o = .ok ds) :
    SymbolTable m o ds := by
  obtain ⟨set, ps, r, dss, hg⟩ := generated_of_targetDecls h
  refine ⟨hg.sorted, hg.distinct, ?named, ?owner, ?constants, ?synthesized⟩
  case named =>
    intro d hd
    obtain ⟨e, hlast, hname⟩ := Declared.exists_isLast hd
    obtain ⟨t, s, ht, hs, hident, hdocs, hform, hshape⟩ := hg.exists_type (indexes_iff.mp hlast)
    refine ⟨e, t, hlast, hname, ?_, hident, hdocs, hform, s, hs, hshape⟩
    rw [← hname, ← hident]
    exact filter_key_eq hg.distinct (mem_typeDecls.mpr ht)
  case owner =>
    intro b hb
    obtain ⟨d, hd, hblock⟩ := hg.mem_constBlocks_iff.mp (mem_constBlocks.mpr hb)
    obtain ⟨e, _, rfl, _⟩ := Declared.block?_eq_some.mp hblock
    exact ⟨e, indexes_iff.mpr hd, (Declared.owner_of_block? hblock).symm⟩
  case constants =>
    intro e hlast
    have hd := indexes_iff.mp hlast
    obtain ⟨_, s, _, hs, _⟩ := hg.exists_type hd
    obtain ⟨t, b, hdeclare⟩ := exists_declare hs
    have hblock : (Declared.enumeration e).block? o.documented = some b :=
      Declared.block?_eq_some.mpr ⟨e, t, rfl, hdeclare⟩
    refine ⟨t, b, hdeclare, ?_⟩
    rw [← show b.owner = e.name from Declared.owner_of_block? hblock]
    exact filter_key_eq hg.owners_nodup (hg.mem_constBlocks_iff.mpr ⟨_, hd, hblock⟩)
  case synthesized =>
    refine ⟨dss.flatten, r, hg.collected.run, fun t ht hnew => ?_, fun u hu => ⟨?_, ?_⟩⟩
    · rcases hg.type_cases ht with hname | ⟨u, hu, rfl⟩
      · obtain ⟨d, hd, hident⟩ := mem_names_iff_declared.mp hname
        exact absurd hident (hnew d hd)
      · exact ⟨u, hu, rfl, rfl, _, rfl⟩
    · intro d hd hident
      have hfresh := hg.collected.fits.wellFormed.fresh u hu
      rw [hg.collected.fits.reserved] at hfresh
      exact hfresh (mem_names_iff_declared.mpr ⟨d, hd, hident⟩)
    · exact ⟨_, hg.boxed_mem (List.mem_append_right _ hu), rfl, rfl, _, rfl⟩

theorem inventory_symbolTable : SymbolTable inventory {} inventoryDecls :=
  targetDecls_symbolTable targetDecls_inventory

end MetaModel
end ProtocolTypes
