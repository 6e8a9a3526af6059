import ProtocolTypes.Generation
import ProtocolTypes.Proofs.Mapping.Declarations
import ProtocolTypes.Proofs.Target.DeclSet

/-!
# ProtocolTypes.Proofs.Mapping.Output

What the declarations of a meta model are made of. There are declarations exactly when all names can
be translated (`exists_targetDecls_iff`). Each type declaration belongs to a name of the model or
comes from the registry (`type_cases`), names are distinct (`distinct`), and whatever had a shape in
the registry has the same one among the declarations (`meaning_extends`).
-/

namespace ProtocolTypes

open Target

namespace MetaModel

/-- What names stand for among declarations made for a model. -/
def meaning (m : MetaModel) (ds : List Decl) : Meaning :=
  meaningIn m.names (typeDecls ds) ds.length

variable {m : MetaModel} {o : MappingOptions}

/-- A run and the declarations it returns. -/
structure Generated (m : MetaModel) (o : MappingOptions) (ds : List Decl) (set : DeclSet)
    (ps : List (Declared × Shape)) (r : Registry) (dss : List (List Decl)) : Prop where
  collected : Collected m o set ps r dss
  translated : m.translatePrimaries o = .ok ps
  boxed : ds = Target.boxed set.sorted

theorem generated_of_collect {set : DeclSet} (h : m.collect o = .ok set) :
    ∃ ps r dss, Generated m o (Target.boxed set.sorted) set ps r dss := by
  have hagree := collect_agree m o
  rw [h] at hagree
  obtain ⟨ps, hps, r, dss, hc⟩ := hagree.exists_of_ok
  exact ⟨ps, r, dss, hc, hps, rfl⟩

theorem generated_of_targetDecls {ds : List Decl} (h : m.targetDecls o = .ok ds) :
    ∃ set ps r dss, Generated m o ds set ps r dss := by
  obtain ⟨set, hset, rfl⟩ := map_eq_ok.mp h
  exact ⟨set, generated_of_collect hset⟩

theorem generate_eq_ok_iff {o : Options} {code : String} : m.generate o = .ok code ↔
    ∃ ds, m.targetDecls o.toMappingOptions = .ok ds ∧
      Source.file m.version o.header ds = .ok code := by
  simp only [generate, bind_eq_ok, mapError_eq_ok]

theorem exists_targetDecls_iff :
    (∃ ds, m.targetDecls o = .ok ds) ↔
      ∀ d ∈ m.primaries, ∃ s, m.translateDeclared o d = .ok s := by
  have hpairs : (∃ ps, m.translatePrimaries o = .ok ps) ↔
      ∀ d ∈ m.primaries, ∃ s, m.translateDeclared o d = .ok s := by
    rw [translatePrimaries, exists_mapM_eq_ok_iff]
    simp
  rw [← hpairs]
  constructor
  · rintro ⟨ds, h⟩
    obtain ⟨_, ps, _, _, hg⟩ := generated_of_targetDecls h
    exact ⟨ps, hg.translated⟩
  · rintro ⟨ps, hps⟩
    have hagree := collect_agree m o
    rw [hps] at hagree
    obtain ⟨set, hset, _⟩ := hagree.exists_of_ok_right
    exact ⟨Target.boxed set.sorted, map_eq_ok.mpr ⟨set, hset, rfl⟩⟩

namespace Generated

variable {ds : List Decl} {set : DeclSet} {ps : List (Declared × Shape)} {r : Registry}
  {dss : List (List Decl)}

/-! ## Declarations of names -/

theorem primaries_eq (h : Generated m o ds set ps r dss) : ps.map Prod.fst = m.primaries := by
  have hmap := map_eq_map_of_forall₂ (f := id) (g := Prod.fst)
    (translatePrimaries_eq_ok.mp h.translated) fun _ _ hp => hp.1.symm
  rw [← hmap, List.map_id]

theorem translated_of_mem (h : Generated m o ds set ps r dss) {p : Declared × Shape}
    (hp : p ∈ ps) : p.1 ∈ m.primaries ∧ m.translateDeclared o p.1 = .ok p.2 := by
  obtain ⟨d, hd, rfl, hs⟩ := exists_of_forall₂_right (translatePrimaries_eq_ok.mp h.translated) hp
  exact ⟨hd, hs⟩

/-- The types of the names, in the order of the names. -/
theorem named_types (h : Generated m o ds set ps r dss) :
    List.Forall₂ (fun t p => TypeDenotes p.1.name (Docs.ofAnnotations o.documented p.1.annotations)
      p.1.form r t p.2) (typeDecls dss.flatten) ps := by
  have hdss := h.collected.denotes
  clear h
  induction hdss with
  | nil => exact .nil
  | cons hd _ ih =>
    obtain ⟨t, rfl, ht⟩ := hd
    rw [List.flatten_cons, typeDecls_append, typeDecls_type_cons]
    exact .cons ht ih

theorem idents_named (h : Generated m o ds set ps r dss) :
    (typeDecls dss.flatten).map (·.ident) = m.names := by
  rw [map_eq_map_of_forall₂ (g := fun p => p.1.name) h.named_types fun _ _ ht => ht.ident, names,
    ← h.primaries_eq, List.map_map]
  rfl

/-! ## All declarations -/

theorem typeDecls_set (h : Generated m o ds set ps r dss) :
    typeDecls set.decls = typeDecls dss.flatten ++ r.decls := by
  rw [h.collected.decls, typeDecls_append, typeDecls_map_type]

theorem distinct_set (h : Generated m o ds set ps r dss) : DistinctTypes set.decls := by
  rw [DistinctTypes, h.typeDecls_set, List.map_append, h.idents_named, List.nodup_append]
  refine ⟨m.nodup_names, h.collected.fits.wellFormed.distinct, ?_⟩
  rintro name hname _ hreg rfl
  obtain ⟨d, hd, rfl⟩ := List.mem_map.mp hreg
  exact h.collected.fits.wellFormed.fresh d hd (h.collected.fits.reserved ▸ hname)

theorem distinct (h : Generated m o ds set ps r dss) : DistinctTypes ds := by
  rw [h.boxed]
  exact (DeclSet.distinctTypes_sorted h.distinct_set).boxed

/-- A type of the run is returned with parts of it on the heap. -/
theorem boxed_mem (h : Generated m o ds set ps r dss) {t : TypeDecl}
    (ht : t ∈ typeDecls dss.flatten ++ r.decls) :
    .type (t.box (.ofDecls set.sorted)) ∈ ds := by
  rw [h.boxed, type_mem_boxed]
  refine ⟨t, ?_, rfl⟩
  rw [← mem_typeDecls, set.typeDecls_sorted_perm.mem_iff, h.typeDecls_set]
  exact ht

theorem exists_of_type_mem (h : Generated m o ds set ps r dss) {t : TypeDecl}
    (ht : .type t ∈ ds) :
    ∃ u ∈ typeDecls dss.flatten ++ r.decls, u.box (.ofDecls set.sorted) = t := by
  rw [h.boxed, type_mem_boxed] at ht
  obtain ⟨u, hu, rfl⟩ := ht
  rw [← mem_typeDecls, set.typeDecls_sorted_perm.mem_iff, h.typeDecls_set] at hu
  exact ⟨u, hu, rfl⟩

/-- A shape in the registry is the shape among the declarations. -/
theorem meaning_extends (h : Generated m o ds set ps r dss) :
    r.meaning.Extends (m.meaning ds) := by
  have hlen : r.decls.length ≤ ds.length := by
    have hperm := set.sorted_perm.length_eq
    rw [h.boxed, Target.boxed, List.length_map, hperm, h.collected.decls, List.length_append,
      List.length_map]
    exact Nat.le_add_left _ _
  rw [Registry.meaning, meaning, h.collected.fits.reserved]
  refine meaningIn_extends (fun name d hd => ?_) hlen
  obtain ⟨hmem, rfl⟩ := declared?_eq_some hd
  refine ⟨d.box (.ofDecls set.sorted), ?_, fun μ => TypeSpec.shape_box μ _ d.spec⟩
  exact declared?_of_mem h.distinct (mem_typeDecls.mpr (h.boxed_mem (List.mem_append_right _ hmem)))

/-- The declaration for a name that the model declares. -/
theorem exists_type (h : Generated m o ds set ps r dss) {d : Declared} (hd : d ∈ m.primaries) :
    ∃ t s, .type t ∈ ds ∧ m.translateDeclared o d = .ok s ∧ t.ident = d.name ∧
      t.docs = Docs.ofAnnotations o.documented d.annotations ∧ t.spec.form = d.form ∧
      t.spec.shape (m.meaning ds) = some s := by
  obtain ⟨p, hp, rfl⟩ := List.mem_map.mp (h.primaries_eq ▸ hd)
  obtain ⟨t, ht, hdenotes⟩ := exists_of_forall₂_right h.named_types hp
  refine ⟨t.box (.ofDecls set.sorted), p.2, h.boxed_mem (List.mem_append_left _ ht),
    (h.translated_of_mem hp).2, hdenotes.ident, hdenotes.docs, ?_, ?_⟩
  · exact (TypeSpec.form_box _ t.spec).trans hdenotes.form
  · exact (TypeSpec.shape_box _ _ t.spec).trans
      (TypeSpec.shape_mono h.meaning_extends hdenotes.shape)

/-- Every type declaration is the one of a name or comes from the registry. -/
theorem type_cases (h : Generated m o ds set ps r dss) {t : TypeDecl} (ht : .type t ∈ ds) :
    t.ident ∈ m.names ∨ ∃ u ∈ r.decls, u.box (.ofDecls set.sorted) = t := by
  obtain ⟨u, hu, rfl⟩ := h.exists_of_type_mem ht
  rcases List.mem_append.mp hu with hu | hu
  · exact .inl (h.idents_named ▸ List.mem_map.mpr ⟨u, hu, rfl⟩)
  · exact .inr ⟨u, hu, rfl⟩

/-- A name of the model stands for itself, and any other one for a record or a union. -/
theorem meaning_cases (h : Generated m o ds set ps r dss) {n : String} {s : Shape}
    (hn : m.meaning ds n = some s) :
    n ∈ m.names ∧ s = .symbol n ∨ n ∉ m.names ∧ s.isComposite = true := by
  by_cases hmem : n ∈ m.names
  · rw [meaning, meaningIn_of_mem hmem] at hn
    cases hn
    exact .inl ⟨hmem, rfl⟩
  · refine .inr ⟨hmem, ?_⟩
    rw [meaning] at hn
    cases hdepth : ds.length with
    | zero =>
      rw [hdepth, meaningIn, if_neg (by simpa using hmem)] at hn
      cases hn
    | succ depth =>
      rw [hdepth, meaningIn_succ hmem] at hn
      obtain ⟨d, hd, hs⟩ := Option.bind_eq_some_iff.mp hn
      obtain ⟨hdecl, rfl⟩ := declared?_eq_some hd
      obtain ⟨u, hu, rfl⟩ := (h.type_cases (mem_typeDecls.mp hdecl)).resolve_left hmem
      have hcomposite := h.collected.fits.wellFormed.composite u hu
      rw [← TypeDecl.isComposite_box (.ofDecls set.sorted)] at hcomposite
      exact TypeSpec.isComposite_shape hcomposite hs

theorem exists_shape (h : Generated m o ds set ps r dss) {t : TypeDecl} (ht : .type t ∈ ds) :
    ∃ s, t.spec.shape (m.meaning ds) = some s := by
  rcases h.type_cases ht with hname | ⟨u, hu, rfl⟩
  · obtain ⟨d, hd, hident⟩ := List.mem_map.mp hname
    obtain ⟨t', s, ht', _, hident', _, _, hs⟩ := h.exists_type hd
    obtain rfl := h.distinct.eq ht ht' (hident.symm.trans hident'.symm)
    exact ⟨s, hs⟩
  · obtain ⟨s, hs⟩ := h.collected.fits.wellFormed.shape_of_mem hu
    exact ⟨s, (TypeSpec.shape_box _ _ u.spec).trans (TypeSpec.shape_mono h.meaning_extends hs)⟩

/-! ## Constants -/

theorem constBlocks_set (h : Generated m o ds set ps r dss) :
    constBlocks set.decls = m.primaries.filterMap (Declared.block? o.documented) := by
  rw [h.collected.decls, constBlocks_append, constBlocks_map_type, List.append_nil,
    ← h.primaries_eq, List.filterMap_map]
  have hdss := h.collected.denotes
  clear h
  induction hdss with
  | nil => rfl
  | @cons _ p _ _ hd _ ih =>
    obtain ⟨t, rfl, _⟩ := hd
    rw [List.flatten_cons, constBlocks_append, constBlocks_type_cons, ih, List.filterMap_cons,
      Function.comp_apply]
    cases p.1.block? o.documented <;> rfl

theorem constBlocks_perm (h : Generated m o ds set ps r dss) :
    (constBlocks ds).Perm (m.primaries.filterMap (Declared.block? o.documented)) := by
  rw [h.boxed, constBlocks_boxed, ← h.constBlocks_set]
  exact set.constBlocks_sorted_perm

theorem owners_set (h : Generated m o ds set ps r dss) :
    ((constBlocks set.decls).map (·.owner)).Nodup := by
  rw [h.constBlocks_set]
  exact m.nodup_names.sublist (Declared.owners_sublist _ m.primaries)

theorem owners_nodup (h : Generated m o ds set ps r dss) :
    ((constBlocks ds).map (·.owner)).Nodup := by
  have hperm := h.constBlocks_perm.map (·.owner)
  exact hperm.nodup_iff.mpr (h.constBlocks_set ▸ h.owners_set)

theorem mem_constBlocks_iff (h : Generated m o ds set ps r dss) {b : ConstBlock} :
    b ∈ constBlocks ds ↔ ∃ d ∈ m.primaries, d.block? o.documented = some b := by
  rw [h.constBlocks_perm.mem_iff, List.mem_filterMap]

/-! ## Order -/

theorem sorted (h : Generated m o ds set ps r dss) : ds.Pairwise Decl.Precedes := by
  rw [h.boxed]
  exact boxed_precedes (DeclSet.sorted_precedes h.distinct_set h.owners_set)

end Generated
end MetaModel
end ProtocolTypes
