import ProtocolTypes.Proofs.Mapping.Meaning
import ProtocolTypes.Proofs.Model.Ancestry

/-!
# ProtocolTypes.Proofs.Mapping.Flattening

Copying inherited properties and keeping bases give the same records. A record that keeps bases is
expanded by putting the fields of its bases in their place (`expand`). Both its expansion and the
record with copied properties show the properties that flattening finds, in that order
(`expand_of_flattenFrom`, `fields_of_flatten`), so they look the same in messages
(`flattening_keeps_records`).
-/

namespace ProtocolTypes

open Target

/-! ## Outlines -/

/-- What messages and readers see of a field. -/
structure Outline where
  wireName : String
  type : Shape
  optional : Bool
  docs : Docs

namespace Target

def FieldShape.outline (f : FieldShape) : Outline :=
  ⟨f.wireName, f.type, f.optional, f.docs⟩

def Field.outline (μ : Meaning) (f : Field) : Option Outline :=
  (f.type.shape μ).map fun s => ⟨f.wireName, s, f.optional, f.docs⟩

theorem Field.outline_of_shape {μ : Meaning} {f : Field} {s : FieldShape}
    (h : f.shape μ = some s) : f.outline μ = some s.outline := by
  obtain ⟨t, ht, rfl⟩ := Option.map_eq_some_iff.mp h
  rw [outline, ht]
  rfl

theorem Field.mapM_outline {μ : Meaning} {fields : List Field} {fs : List FieldShape}
    (h : fields.mapM (Field.shape μ) = some fs) :
    fields.mapM (Field.outline μ) = some (fs.map FieldShape.outline) := by
  rw [mapM_eq_some_iff] at h ⊢
  rw [List.forall₂_map_right_iff]
  exact h.imp fun _ _ => outline_of_shape

/-- Other names do not show in outlines. -/
theorem FieldShape.map_outline_named {names : List String} {fs : List FieldShape}
    (h : fs.length ≤ names.length) : (named names fs).map outline = fs.map outline := by
  have hfst : fs = (fs.zip names).map Prod.fst := (List.map_fst_zip h).symm
  rw [named, List.map_map]
  conv => rhs; rw [hfst, List.map_map]
  rfl

end Target

/-- The fields of a record with those of its bases in front, to the given depth of bases. -/
def expand (ds : List Decl) : Nat → String → Option (List Field)
  | 0, _ => none
  | depth + 1, name =>
    match declared? (typeDecls ds) name with
    | some ⟨_, _, .record bases fields⟩ => do
      let inherited ← bases.mapM fun b => b.type.symbol?.bind (expand ds depth)
      return inherited.flatten ++ fields
    | _ => none

theorem expand_succ {ds : List Decl} (hds : DistinctTypes ds) {t : TypeDecl} (ht : .type t ∈ ds)
    {bases : List Base} {fields : List Field} (hspec : t.spec = .record bases fields)
    {names : List String} (hbases : bases.map (·.type.symbol?) = names.map some) (depth : Nat) :
    expand ds (depth + 1) t.ident =
      (names.mapM (expand ds depth)).map fun inherited => inherited.flatten ++ fields := by
  obtain ⟨ident, docs, spec⟩ := t
  obtain rfl : spec = .record bases fields := hspec
  have hmapM : bases.mapM (fun b => b.type.symbol?.bind (expand ds depth)) =
      names.mapM (expand ds depth) := by
    have hmap := congrArg (List.mapM (Option.bind · (expand ds depth))) hbases
    rwa [List.mapM_map, List.mapM_map] at hmap
  rw [expand, declared?_of_mem hds (mem_typeDecls.mpr ht)]
  simp only [hmapM]
  cases names.mapM (expand ds depth) <;> rfl

example : (expand MetaModel.inventoryDecls 4 "Item").map (·.map (·.wireName)) =
    some ["id", "note", "kind", "value"] := by decide

namespace MetaModel

variable {m : MetaModel}

/-- The outline of the field for a property. -/
def outline? (m : MetaModel) (documented : Bool) (p : OwnedProperty) : Option Outline :=
  (m.translateProperty documented p.owner p.property).toOption.map FieldShape.outline

theorem mapM_outline? {documented : Bool} {context : String} {ps : List OwnedProperty}
    {fs : List FieldShape}
    (h : ps.mapM (fun p => m.translateProperty documented context p.property) = .ok fs) :
    ps.mapM (m.outline? documented) = some (fs.map FieldShape.outline) := by
  rw [mapM_eq_ok_iff] at h
  rw [mapM_eq_some_iff, List.forall₂_map_right_iff]
  refine h.imp fun p f hf => ?_
  rw [outline?, translateProperty_context hf]
  rfl

/-! ## Records -/

namespace Generated

variable {o : MappingOptions} {ds : List Decl} {set : DeclSet} {ps : List (Declared × Shape)}
  {r : Registry} {dss : List (List Decl)}

/-- Only a name of the model stands for itself. -/
theorem eq_of_meaning (h : Generated m o ds set ps r dss) {n name : String}
    (hn : m.meaning ds n = some (.symbol name)) : n = name := by
  obtain ⟨_, hs⟩ | ⟨_, hcomposite⟩ := h.meaning_cases hn
  · cases hs
    rfl
  · cases hcomposite

/-- The record for a structure: its bases name the bases of the structure, and its fields show the
properties that are not left to them. -/
theorem exists_record (h : Generated m o ds set ps r dss) {s : Structure}
    (hs : .struct s ∈ m.primaries) :
    ∃ names properties t bases fields, m.parts o.flattenBases s = .ok (names, properties) ∧
      .type t ∈ ds ∧ t.ident = s.name ∧ t.spec = .record bases fields ∧
      bases.map (·.type.symbol?) = names.map some ∧
      ∃ outlines, properties.mapM (m.outline? o.documented) = some outlines ∧
        fields.mapM (Field.outline (m.meaning ds)) = some outlines := by
  obtain ⟨t, shape, ht, hshape, hident, _, hform, hspec⟩ := h.exists_type hs
  obtain ⟨⟨names, fs⟩, hfs, rfl⟩ : ∃ p, m.translateStructure o s = .ok p ∧
      Shape.ofMembers p.1 p.2 = shape := map_eq_ok.mp hshape
  obtain ⟨properties, hparts, hproperties⟩ := translateStructure_eq_ok.mp hfs
  obtain ⟨ident, docs, spec⟩ := t
  cases spec with
  | union | synonym | newtype => cases hform
  | record bases fields =>
    simp only [TypeSpec.shape, TargetType.shapes_eq, Option.pure_def, Option.bind_eq_bind,
      Option.bind_eq_some_iff] at hspec
    obtain ⟨bs, hbs, gs, hgs, heq⟩ := hspec
    cases heq
    refine ⟨names, properties, _, bases, fields, hparts, ht, hident, rfl, ?_, _,
      mapM_outline? hproperties, ?_⟩
    · rw [mapM_eq_some_iff, List.forall₂_map_left_iff, List.forall₂_map_right_iff] at hbs
      exact map_eq_map_of_forall₂ hbs fun b name hb =>
        TargetType.symbol?_of_shape (fun _ => h.eq_of_meaning) hb
    · rw [Field.mapM_outline hgs, FieldShape.map_outline_named]
      rw [Members.length_fieldNames, List.length_map]

/-- A record without bases shows what flattening finds. -/
theorem fields_of_flatten {documented : Bool} (h : Generated m ⟨true, documented⟩ ds set ps r dss)
    {s : Structure} (hs : .struct s ∈ m.primaries) {all : List OwnedProperty}
    (hall : m.flatten s = .ok all) :
    ∃ t fields outlines, .type t ∈ ds ∧ t.ident = s.name ∧ t.spec = .record [] fields ∧
      all.mapM (m.outline? documented) = some outlines ∧
      fields.mapM (Field.outline (m.meaning ds)) = some outlines := by
  obtain ⟨names, properties, t, bases, fields, hparts, ht, hident, hspec, hbases, outlines,
    hproperties, hfields⟩ := h.exists_record hs
  rw [parts_true hall] at hparts
  cases hparts
  obtain rfl : bases = [] := List.map_eq_nil_iff.mp hbases
  exact ⟨t, fields, outlines, ht, hident, hspec, hproperties, hfields⟩

/-- Bases that expand one by one expand together. -/
theorem expand_bases {documented : Bool} {depth : Nat} {names : List String}
    {inherited : List (List OwnedProperty)}
    (h : List.Forall₂ (fun name qs => ∃ fields, expand ds depth name = some fields ∧
      fields.mapM (Field.outline (m.meaning ds)) = qs.mapM (m.outline? documented))
      names inherited) :
    ∃ fss, names.mapM (expand ds depth) = some fss ∧
      fss.flatten.mapM (Field.outline (m.meaning ds)) =
        inherited.flatten.mapM (m.outline? documented) := by
  induction h with
  | nil => exact ⟨[], rfl, rfl⟩
  | cons hname _ ih =>
    obtain ⟨fields, hexpand, houtlines⟩ := hname
    obtain ⟨fss, hfss, hrest⟩ := ih
    refine ⟨fields :: fss, ?_, ?_⟩
    · rw [List.mapM_cons, hexpand, hfss]
      rfl
    · rw [List.flatten_cons, List.flatten_cons, List.mapM_append, List.mapM_append, houtlines,
        hrest]

theorem chain_step {names chain : List String} {name : String} (hchain : chain.Nodup)
    (hsub : chain ⊆ names) (hnot : name ∉ chain) (hname : name ∈ names) :
    (chain ++ [name]).Nodup ∧ chain ++ [name] ⊆ names ∧
      names.length - chain.length = names.length - (chain ++ [name]).length + 1 := by
  have hchain' : (chain ++ [name]).Nodup := by
    rw [List.nodup_append]
    refine ⟨hchain, List.nodup_singleton _, fun a ha b hb hab => hnot ?_⟩
    rwa [← List.mem_singleton.mp hb, ← hab]
  have hsub' : chain ++ [name] ⊆ names := by simp [hsub, hname]
  have hlen : (chain ++ [name]).length ≤ names.length :=
    (List.subperm_of_subset hchain' hsub').length_le
  refine ⟨hchain', hsub', ?_⟩
  rw [List.length_append, List.length_singleton] at hlen ⊢
  omega

/-- The expansion of a record shows what flattening finds. The structures on the way are distinct
names of the model, so their number bounds the depth. -/
theorem expand_of_flattenFrom {documented : Bool}
    (h : Generated m ⟨false, documented⟩ ds set ps r dss) {fuel : Nat} (hle : fuel ≤ m.chainBound)
    {chain : List String} (hchain : chain.Nodup) (hsub : chain ⊆ m.names) {s : Structure}
    (hs : m.find? s.name = some (.struct s)) {all : List OwnedProperty}
    (hall : m.flattenFrom fuel chain s = .ok all) :
    ∃ fields, expand ds (m.names.length - chain.length) s.name = some fields ∧
      fields.mapM (Field.outline (m.meaning ds)) = all.mapM (m.outline? documented) := by
  induction fuel generalizing chain s all with
  | zero => cases hall
  | succ fuel ih =>
    have hnot : s.name ∉ chain := (flattenFrom_succ_eq_ok.mp hall).1
    have hflat : m.flatten s = .ok all := flattenFrom_weaken hle (List.nil_subset _) hall
    obtain ⟨names, inherited, mixed, hnames, hmixed, hinherited, rfl⟩ :=
      exists_parts_of_flattenFrom (by omega) hall
    obtain ⟨hchain', hsub', hdepth⟩ := chain_step hchain hsub hnot (mem_names.mpr ⟨_, hs⟩)
    obtain ⟨_, _, t, bases, fields, hparts, ht, hident, hspec, hbases, outlines, hproperties,
      hfields⟩ := h.exists_record (mem_primaries.mpr hs)
    rw [parts_false hflat hnames hmixed] at hparts
    cases hparts
    obtain ⟨fss, hfss, hrest⟩ := expand_bases <| hinherited.imp fun name qs hqs => by
      obtain ⟨p, hp, hqs⟩ := hqs
      obtain rfl := find?_name hp
      exact ih (by omega) hchain' hsub' hp hqs
    refine ⟨fss.flatten ++ fields, ?_, ?_⟩
    · rw [hdepth, ← hident, expand_succ h.distinct ht hspec hbases, hident, hfss, Option.map_some]
    · rw [List.mapM_append, List.mapM_append, hrest, hfields, hproperties]

end Generated

/-! ## Success -/

theorem exists_translateStructure_iff {o : MappingOptions} {s : Structure} :
    (∃ shape, m.translateDeclared o (.struct s) = .ok shape) ↔
      ∃ names properties, m.parts o.flattenBases s = .ok (names, properties) ∧
        ∀ p ∈ properties, ∃ f, m.translateProperty o.documented s.name p.property = .ok f := by
  have hstructure : (∃ shape, m.translateDeclared o (.struct s) = .ok shape) ↔
      ∃ names fs, m.translateStructure o s = .ok (names, fs) := by
    simp [translateDeclared]
  rw [hstructure]
  simp only [translateStructure_eq_ok, ← exists_mapM_eq_ok_iff]
  constructor
  · rintro ⟨names, fs, properties, hparts, hfs⟩
    exact ⟨names, properties, hparts, fs, hfs⟩
  · rintro ⟨names, properties, hparts, fs, hfs⟩
    exact ⟨names, fs, properties, hparts, hfs⟩

/-- What a record with bases leaves to them is among all properties. -/
theorem parts_false_of_flatten {s : Structure} {all : List OwnedProperty}
    (h : m.flatten s = .ok all) :
    ∃ names inherited mixed, m.parts false s = .ok (names, mixed ++ s.ownProperties) ∧
      all = inherited ++ (mixed ++ s.ownProperties) := by
  have hfrom : m.flattenFrom (m.structures.length + 1 + 1) [] s = .ok all := h
  obtain ⟨names, inherited, mixed, hnames, hmixed, _, hall⟩ :=
    exists_parts_of_flattenFrom (Nat.le_succ _) hfrom
  exact ⟨names, inherited.flatten, mixed, parts_false h hnames hmixed, hall⟩

theorem translateDeclared_keeping {documented : Bool} {s : Structure}
    (h : ∃ shape, m.translateDeclared ⟨true, documented⟩ (.struct s) = .ok shape) :
    ∃ shape, m.translateDeclared ⟨false, documented⟩ (.struct s) = .ok shape := by
  rw [exists_translateStructure_iff] at h ⊢
  obtain ⟨names, properties, hparts, hproperties⟩ := h
  obtain ⟨all, hall⟩ := (parts_eq_ok hparts).1
  rw [parts_true hall] at hparts
  cases hparts
  obtain ⟨names, inherited, mixed, hparts, rfl⟩ := parts_false_of_flatten hall
  exact ⟨names, _, hparts, fun p hp => hproperties p (List.mem_append_right _ hp)⟩

/-- Inherited properties were translated where they are declared. -/
theorem translateDeclared_flattening {documented : Bool}
    (h : ∀ s, .struct s ∈ m.primaries →
      ∃ shape, m.translateDeclared ⟨false, documented⟩ (.struct s) = .ok shape)
    {s : Structure} (hs : .struct s ∈ m.primaries) :
    ∃ shape, m.translateDeclared ⟨true, documented⟩ (.struct s) = .ok shape := by
  obtain ⟨_, _, hparts, _⟩ := exists_translateStructure_iff.mp (h s hs)
  obtain ⟨all, hall⟩ := (parts_eq_ok hparts).1
  refine exists_translateStructure_iff.mpr ⟨[], all, parts_true hall, fun p hp => ?_⟩
  obtain ⟨s', hs', hown⟩ := owner_of_mem_flattenFrom hall hp
  have hprimary : .struct s' ∈ m.primaries := by
    rcases hs' with rfl | hfind
    · exact hs
    · exact mem_primaries.mpr hfind
  obtain ⟨names, properties, hparts', hproperties⟩ :=
    exists_translateStructure_iff.mp (h s' hprimary)
  obtain ⟨all', hall'⟩ := (parts_eq_ok hparts').1
  obtain ⟨_, _, mixed, hfalse, _⟩ := parts_false_of_flatten hall'
  rw [hfalse] at hparts'
  cases hparts'
  obtain ⟨f, hf⟩ := hproperties p (List.mem_append_right _ hown)
  exact ⟨f, translateProperty_context hf⟩

/-- Under a name, the record with copied properties has no bases, and its fields look like those
that the record with bases expands to. -/
def SameRecord (m : MetaModel) (flat kept : List Decl) (name : String) : Prop :=
  ∃ d fields expanded outlines, .type d ∈ flat ∧ d.ident = name ∧ d.spec = .record [] fields ∧
    expand kept m.names.length name = some expanded ∧
    fields.mapM (Field.outline (m.meaning flat)) = some outlines ∧
    expanded.mapM (Field.outline (m.meaning kept)) = some outlines

theorem flattening_keeps_records (m : MetaModel) (documented : Bool) :
    ((∃ flat, m.targetDecls ⟨true, documented⟩ = .ok flat) ↔
      ∃ kept, m.targetDecls ⟨false, documented⟩ = .ok kept) ∧
    ∀ flat kept, m.targetDecls ⟨true, documented⟩ = .ok flat →
      m.targetDecls ⟨false, documented⟩ = .ok kept →
      ∀ s, m.Indexes (.struct s) → SameRecord m flat kept s.name := by
  constructor
  · rw [exists_targetDecls_iff, exists_targetDecls_iff]
    constructor
    · intro h d hd
      cases d with
      | struct s => exact translateDeclared_keeping (h _ hd)
      | enumeration | typeAlias => exact h _ hd
    · intro h d hd
      cases d with
      | struct s => exact translateDeclared_flattening (fun s hs => h _ hs) hd
      | enumeration | typeAlias => exact h _ hd
  · intro flat kept hflat hkept s hlast
    obtain ⟨_, _, _, _, hgflat⟩ := generated_of_targetDecls hflat
    obtain ⟨_, _, _, _, hgkept⟩ := generated_of_targetDecls hkept
    have hs := indexes_iff.mp hlast
    obtain ⟨all, hall⟩ : ∃ all, m.flatten s = .ok all := by
      obtain ⟨_, _, _, _, _, hparts, _⟩ := hgkept.exists_record hs
      exact (parts_eq_ok hparts).1
    obtain ⟨d, fields, outlines, hd, hident, hspec, hproperties, hfields⟩ :=
      hgflat.fields_of_flatten hs hall
    obtain ⟨expanded, hexpand, hexpanded⟩ := hgkept.expand_of_flattenFrom (Nat.le_refl _)
      List.nodup_nil (List.nil_subset _) (mem_primaries.mp hs) hall
    exact ⟨d, fields, expanded, outlines, hd, hident, hspec, hexpand, hfields,
      hexpanded.trans hproperties⟩

def itemFlat : TypeDecl :=
  itemRecord [] [⟨"id", "id", .primitive .int32, false, {}⟩]

theorem inventory_keeps_item :
    SameRecord inventory (inventoryWith itemFlat) inventoryDecls "Item" := by
  have hflat : inventory.targetDecls ⟨true, true⟩ = .ok (inventoryWith itemFlat) :=
    targetDecls_of_collect (by decide +kernel)
  have hlast : inventory.Indexes (.struct itemStructure) :=
    ⟨(inventory.structures.take 2).map .struct, inventory.enumerations.map .enumeration, rfl,
      by decide⟩
  exact (flattening_keeps_records inventory true).2 _ _ hflat targetDecls_inventory _ hlast

end MetaModel
end ProtocolTypes
