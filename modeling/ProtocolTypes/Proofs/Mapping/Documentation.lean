import ProtocolTypes.Proofs.Mapping.Replay
import ProtocolTypes.Proofs.Mapping.Success

/-!
# ProtocolTypes.Proofs.Mapping.Documentation

Declarations with and without documentation. A model that has documented declarations has
undocumented ones as well, and they are the documented ones less their documentation when shapes
that want one name differ in more than documentation (`targetDecls_undocumented`). Else the
undocumented shapes become one, and declarations are missing (`undocumented_shared`).
-/

namespace ProtocolTypes

open Target

/-- Documentation without what is left out where none is wanted. -/
def Target.Docs.undocumented (d : Docs) : Docs :=
  { deprecated := d.deprecated }

/-- Declarations that may want the same name differ in more than what `g` changes. -/
def Registry.TellsApart (r : Registry) (g : Docs → Docs) : Prop :=
  ∀ d ∈ r.decls, ∀ e ∈ r.decls, ∀ name i j, d.ident = candidate name i →
    e.ident = candidate name j → d.spec.redocument g = e.spec.redocument g → d.spec = e.spec

theorem Registry.TellsApart.consistent {r : Registry} {g : Docs → Docs} (h : r.TellsApart g)
    (hdistinct : (r.decls.map (·.ident)).Nodup) : Catalogue.Consistent (· ∈ r.decls) g where
  eq _ _ hd he hident := List.inj_on_of_nodup_map hdistinct hd he hident
  apart d e hd he := h d hd e he

namespace MetaModel

/-- The declarations that types without names get. -/
def synthesized (m : MetaModel) (o : MappingOptions) : Registry :=
  ((m.mapPrimaries o).run (.empty m.names)).2

variable {m : MetaModel} {flattenBases : Bool}

theorem variation_undocumented (m : MetaModel) : Variation Docs.undocumented m m true false where
  names := .refl m
  docs _ := rfl

theorem mapPrimaries_replays {T : Catalogue} (hT : T.Consistent Docs.undocumented) :
    Replays T Docs.undocumented (m.mapPrimaries ⟨flattenBases, true⟩)
      (m.mapPrimaries ⟨flattenBases, false⟩) (List.map (Decl.redocument Docs.undocumented)) := by
  have hdeclared : ∀ d, Replays T Docs.undocumented (m.mapDeclared ⟨flattenBases, true⟩ d)
      (m.mapDeclared ⟨flattenBases, false⟩ d) (List.map (Decl.redocument Docs.undocumented)) :=
    mapDeclared_replays hT (variation_undocumented m) rfl
  rw [mapPrimaries, mapPrimaries]
  refine (Replays.mapM fun d _ => hdeclared d).bind fun dss => .pure ?_
  exact List.map_flatten

/-- What is collected with documentation is collected without it, in some order. -/
theorem collect_undocumented
    (hapart : (m.synthesized ⟨flattenBases, true⟩).TellsApart Docs.undocumented)
    {set set' : DeclSet} (hset : m.collect ⟨flattenBases, true⟩ = .ok set)
    (hset' : m.collect ⟨flattenBases, false⟩ = .ok set') :
    (set.decls.map (Decl.redocument Docs.undocumented)).Perm set'.decls := by
  obtain ⟨ps, q, dss, hg⟩ := generated_of_collect hset
  obtain ⟨ps', r, dss', hg'⟩ := generated_of_collect hset'
  have hq : m.synthesized ⟨flattenBases, true⟩ = q := congrArg Prod.snd hg.collected.run
  have hdistinct := hg.collected.fits.wellFormed.distinct
  have hdistinct' := hg'.collected.fits.wellFormed.distinct
  have hT := (hq ▸ hapart).consistent hdistinct
  -- the undocumented run starts from the same registry, and replays the documented one
  obtain ⟨-, -, hreplay⟩ := mapPrimaries_replays hT _ _ _ hg.collected.run fun d hd => hd
  obtain ⟨r', hrun, hgains⟩ := hreplay (.empty m.names)
    ⟨fun _ => Iff.rfl, fun d hd => absurd hd List.not_mem_nil,
      fun e he => absurd he List.not_mem_nil⟩
  obtain ⟨hdss, rfl⟩ :
      dss'.flatten = dss.flatten.map (Decl.redocument Docs.undocumented) ∧ r = r' := by
    rw [hg'.collected.run] at hrun
    injection hrun with hresult hregistry
    injection hresult with hdss
    exact ⟨hdss, hregistry⟩
  have hidents : (q.decls.map (TypeDecl.redocument Docs.undocumented)).map (·.ident) =
      q.decls.map (·.ident) := by
    rw [List.map_map]
    rfl
  have hregistered : (q.decls.map (TypeDecl.redocument Docs.undocumented)).Perm r.decls := by
    refine perm_of_mem_iff (hidents ▸ hdistinct) hdistinct' fun e => ?_
    rw [hgains.mem_iff, List.mem_map]
    exact or_iff_right List.not_mem_nil
  have htypes := hregistered.map Decl.type
  rw [List.map_map] at htypes
  rw [hg.collected.decls, hg'.collected.decls, hdss, List.map_append, List.map_map]
  exact htypes.append_left _

theorem targetDecls_undocumented (m : MetaModel) (flattenBases : Bool) {ds : List Decl}
    (h : m.targetDecls ⟨flattenBases, true⟩ = .ok ds) :
    (∃ ds', m.targetDecls ⟨flattenBases, false⟩ = .ok ds') ∧
      ((m.synthesized ⟨flattenBases, true⟩).TellsApart Docs.undocumented →
        m.targetDecls ⟨flattenBases, false⟩ =
          .ok (ds.map (Decl.redocument Docs.undocumented))) := by
  have hexists : ∃ ds', m.targetDecls ⟨flattenBases, false⟩ = .ok ds' :=
    exists_targetDecls_iff_sound.mpr (exists_targetDecls_iff_sound.mp ⟨ds, h⟩)
  refine ⟨hexists, fun hapart => ?_⟩
  obtain ⟨set, hset, _⟩ := map_eq_ok.mp h
  obtain ⟨ds', hds'⟩ := hexists
  obtain ⟨set', hset', _⟩ := map_eq_ok.mp hds'
  exact targetDecls_of_perm hset hset' (collect_undocumented hapart hset hset') h

theorem labels_undocumented :
    (labels (textProperty "In the menu.") codeProperty).targetDecls ⟨false, true⟩ =
        .ok (labelDecls "ItemKindLabel" "ItemKindLabel2"
          [("ItemKindLabel", textField "In the menu."), ("ItemKindLabel2", codeField)]) ∧
      (labels (textProperty "In the menu.") codeProperty).targetDecls ⟨false, false⟩ =
        .ok (labelDecls "ItemKindLabel" "ItemKindLabel2"
          [("ItemKindLabel", textField none), ("ItemKindLabel2", codeField)]) := by
  have h : (labels (textProperty "In the menu.") codeProperty).targetDecls ⟨false, true⟩ =
      .ok (labelDecls "ItemKindLabel" "ItemKindLabel2"
        [("ItemKindLabel", textField "In the menu."), ("ItemKindLabel2", codeField)]) :=
    targetDecls_of_collect (by decide +kernel)
  have hspecs : ∀ d ∈ ((labels (textProperty "In the menu.") codeProperty).synthesized
        ⟨false, true⟩).decls,
      ∀ e ∈ ((labels (textProperty "In the menu.") codeProperty).synthesized ⟨false, true⟩).decls,
      d.spec.redocument Docs.undocumented = e.spec.redocument Docs.undocumented →
      d.spec = e.spec := by decide +kernel
  refine ⟨h, (targetDecls_undocumented _ false h).2 ?_⟩
  intro d hd e he name i j _ _
  exact hspecs d hd e he

/-- Two shapes that differ in documentation only become one without it. -/
theorem undocumented_shared :
    ¬ ∀ (m : MetaModel) (flattenBases : Bool) (ds : List Decl),
      m.targetDecls ⟨flattenBases, true⟩ = .ok ds →
      m.targetDecls ⟨flattenBases, false⟩ =
        .ok (ds.map (Decl.redocument Docs.undocumented)) := by
  intro h
  have hdocumented : (labels (textProperty "In the menu.")
      (textProperty "In the list.")).targetDecls ⟨false, true⟩ =
      .ok (labelDecls "ItemKindLabel" "ItemKindLabel2"
        [("ItemKindLabel", textField "In the menu."),
          ("ItemKindLabel2", textField "In the list.")]) :=
    targetDecls_of_collect (by decide +kernel)
  have hundocumented : (labels (textProperty "In the menu.")
      (textProperty "In the list.")).targetDecls ⟨false, false⟩ =
      .ok (labelDecls "ItemKindLabel" "ItemKindLabel" [("ItemKindLabel", textField none)]) :=
    targetDecls_of_collect (by decide +kernel)
  have heq := h _ false _ hdocumented
  rw [hundocumented, Except.ok.injEq] at heq
  exact absurd (congrArg List.length heq) (by decide)

end MetaModel
end ProtocolTypes
