import ProtocolTypes.Proofs.Mapping.Replay
import ProtocolTypes.Proofs.Mapping.Success

/-!
# ProtocolTypes.Proofs.Mapping.Reordering

Models that declare the same in another order. Types without names are numbered in the order in
which declarations are mapped, so the order shows where two declarations want one name for different
shapes (`reordered_renames`). Every order has declarations, and where no two of them want one name
for different shapes (`OrderFree`), the source is the same in every order (`generate_reordering`).
-/

namespace ProtocolTypes

open Target

namespace MetaModel

/-! ## Other orders -/

/-- The same declarations of each kind, in any order. -/
structure Reordering (m m' : MetaModel) : Prop where
  structures : m'.structures.Perm m.structures
  enumerations : m'.enumerations.Perm m.enumerations
  typeAliases : m'.typeAliases.Perm m.typeAliases
  version : m'.version = m.version

/-- No name is declared twice. -/
def DistinctNames (m : MetaModel) : Prop :=
  (m.declarations.map Declared.name).Nodup

/-- What is mapped before the aliases. -/
def structural (m : MetaModel) : List Declared :=
  m.structures.map .struct ++ m.enumerations.map .enumeration

def aliases (m : MetaModel) : List Declared :=
  m.typeAliases.map .typeAlias

theorem declarations_eq (m : MetaModel) : m.declarations = m.structural ++ m.aliases := rfl

section Reordering

variable {m m' : MetaModel} (h : m.Reordering m')

include h

theorem Reordering.structural_perm : m'.structural.Perm m.structural :=
  (h.structures.map _).append (h.enumerations.map _)

theorem Reordering.aliases_perm : m'.aliases.Perm m.aliases :=
  h.typeAliases.map _

theorem Reordering.declarations_perm : m'.declarations.Perm m.declarations :=
  h.structural_perm.append h.aliases_perm

theorem Reordering.distinctNames (hm : m.DistinctNames) : m'.DistinctNames :=
  (h.declarations_perm.map _).nodup_iff.mpr hm

end Reordering

variable {m m' : MetaModel} {o : MappingOptions}

theorem DistinctNames.find?_eq_some (hm : m.DistinctNames) {name : String} {d : Declared} :
    m.find? name = some d ↔ d ∈ m.declarations ∧ d.name = name := by
  constructor
  · exact Declared.last?_eq_some
  · rintro ⟨hd, rfl⟩
    obtain ⟨e, he⟩ := exists_find?_iff.mpr ⟨d, hd, rfl⟩
    obtain ⟨hmem, hname⟩ := Declared.last?_eq_some he
    rw [he, List.inj_on_of_nodup_map hm hmem hd hname]

theorem DistinctNames.primaries_eq (hm : m.DistinctNames) : m.primaries = m.declarations :=
  Declared.primaries_of_nodup hm

theorem Reordering.mem_names (h : m.Reordering m') {name : String} :
    name ∈ m'.names ↔ name ∈ m.names := by
  simp only [mem_names_iff_declared, h.declarations_perm.mem_iff]

theorem Reordering.sameNames (h : m.Reordering m') (hm : m.DistinctNames) : m.SameNames m' where
  find? name := by
    ext d
    rw [hm.find?_eq_some, (h.distinctNames hm).find?_eq_some, h.declarations_perm.mem_iff]
  chainBound := by rw [chainBound, chainBound, h.structures.length_eq]

/-! ## Sound in every order -/

section SameNames

variable (h : m.SameNames m')

include h

theorem SameNames.refersTo_iff {t : TypeExpr} {p : Structure} :
    m'.RefersTo t p ↔ m.RefersTo t p := by
  rw [← structure?_iff_refersTo, ← structure?_iff_refersTo, structure?, structure?,
    funext h.find?]

theorem SameNames.inherits_eq : m'.Inherits = m.Inherits := by
  funext s p
  simp only [Inherits, h.refersTo_iff]

theorem SameNames.soundAncestry_iff {s : Structure} : m'.SoundAncestry s ↔ m.SoundAncestry s := by
  constructor
  · rintro ⟨hrefers, hacyclic⟩
    simp only [h.inherits_eq, h.refersTo_iff] at hrefers hacyclic
    exact ⟨hrefers, hacyclic⟩
  · rintro ⟨hrefers, hacyclic⟩
    simp only [← h.inherits_eq, ← h.refersTo_iff] at hrefers hacyclic
    exact ⟨hrefers, hacyclic⟩

theorem SameNames.indexes {d : Declared} : m'.Indexes d ↔ m.Indexes d := by
  rw [indexes_iff, indexes_iff, mem_primaries, mem_primaries, h.find?]

theorem SameNames.resolves_iff {t : TypeExpr} : m'.Resolves t ↔ m.Resolves t := by
  constructor
  · rintro ⟨hbase, hreference⟩
    simp only [h.indexes] at hreference
    exact ⟨hbase, hreference⟩
  · rintro ⟨hbase, hreference⟩
    simp only [← h.indexes] at hreference
    exact ⟨hbase, hreference⟩

theorem SameNames.sound_iff {d : Declared} : d.Sound m' ↔ d.Sound m := by
  cases d with
  | struct s => simp only [Declared.Sound, h.soundAncestry_iff, h.resolves_iff]
  | enumeration e => rfl
  | typeAlias a => exact h.resolves_iff

end SameNames

/-- A model in another order has declarations as well. -/
theorem Reordering.exists_targetDecls (h : m.Reordering m') (hm : m.DistinctNames)
    (hds : ∃ ds, m.targetDecls o = .ok ds) : ∃ ds, m'.targetDecls o = .ok ds := by
  rw [exists_targetDecls_iff_sound, hm.primaries_eq] at hds
  rw [exists_targetDecls_iff_sound, (h.distinctNames hm).primaries_eq]
  exact fun d hd => (h.sameNames hm).sound_iff.mpr (hds d (h.declarations_perm.mem_iff.mp hd))

/-! ## One declaration at a time -/

/-- What is registered when only `d` is mapped from `q`. -/
def alone (m : MetaModel) (o : MappingOptions) (q : Registry) (d : Declared) : Registry :=
  ((m.mapDeclared o d).run q).2

/-- The declarations for `d` when only it is mapped from `q`; none if that fails. -/
def declsFrom (m : MetaModel) (o : MappingOptions) (q : Registry) (d : Declared) : List Decl :=
  ((m.mapDeclared o d).run q).1.toOption.getD []

/-- Mapped one at a time from `q`, no two of them register different shapes under one name. -/
def AgreeFrom (m : MetaModel) (o : MappingOptions) (q : Registry) (ds : List Declared) : Prop :=
  ∀ d ∈ ds, ∀ e ∈ ds, ∀ t ∈ (m.alone o q d).decls, ∀ u ∈ (m.alone o q e).decls,
    t.ident = u.ident → t = u

/-- What is registered before the aliases are mapped. -/
def beforeAliases (m : MetaModel) (o : MappingOptions) : Registry :=
  ((m.structural.mapM (m.mapDeclared o)).run (.empty m.names)).2

/-- No two structures want one name for different shapes, and no two aliases do. -/
structure OrderFree (m : MetaModel) (o : MappingOptions) : Prop where
  structural : m.AgreeFrom o (.empty m.names) m.structural
  aliases : m.AgreeFrom o (m.beforeAliases o) m.aliases

/-- What is in `q` or registered by one of the declarations. -/
def reachable (m : MetaModel) (o : MappingOptions) (q : Registry) (ds : List Declared) :
    Catalogue :=
  fun t => t ∈ q.decls ∨ ∃ d ∈ ds, t ∈ (m.alone o q d).decls

variable {q r : Registry} {ds : List Declared}

theorem alone_fits (hq : q.Fits m) (d : Declared) : (m.alone o q d).Fits m :=
  (mapDeclared_simulates hq d).fits

theorem extends_alone (hq : q.Fits m) (d : Declared) : q.Extends (m.alone o q d) :=
  (mapDeclared_simulates hq d).grows

theorem AgreeFrom.consistent (hq : q.Fits m) (h : m.AgreeFrom o q ds) :
    (m.reachable o q ds).Consistent id where
  apart d e _ _ name i j _ _ hspec := by
    rwa [TypeSpec.redocument_id, TypeSpec.redocument_id] at hspec
  eq t u ht hu hident := by
    have hgrow : ∀ d, q.decls ⊆ (m.alone o q d).decls := fun d => (extends_alone hq d).decls.subset
    have hdistinct : ∀ d, ∀ t ∈ (m.alone o q d).decls, ∀ u ∈ (m.alone o q d).decls,
        t.ident = u.ident → t = u := fun d t ht u hu =>
      List.inj_on_of_nodup_map (alone_fits hq d).wellFormed.distinct ht hu
    rcases ht with ht | ⟨d, hd, ht⟩ <;> rcases hu with hu | ⟨e, he, hu⟩
    · exact List.inj_on_of_nodup_map hq.wellFormed.distinct ht hu hident
    · exact hdistinct e t (hgrow e ht) u hu hident
    · exact hdistinct d t ht u (hgrow d hu) hident
    · exact h d hd e he t ht u hu hident

theorem run_alone (hq : q.Fits m) {d : Declared}
    (hd : ∃ s, m.translateDeclared o d = .ok s) :
    (m.mapDeclared o d).run q = (.ok (m.declsFrom o q d), m.alone o q d) := by
  obtain ⟨s, hs⟩ := hd
  have hagree := (mapDeclared_simulates (o := o) hq d).agree
  rw [hs] at hagree
  obtain ⟨a, ha, _⟩ := hagree.exists_of_ok_right
  rw [declsFrom, alone, ha]
  exact Prod.ext ha rfl

/-- Declarations mapped one after another, in another model and from a registry that follows `q`,
give what each gives from `q`. -/
theorem run_mapM (hm : m.SameNames m') (hq : q.Fits m) (hagree : m.AgreeFrom o q ds)
    (hds : ∀ d ∈ ds, ∃ s, m.translateDeclared o d = .ok s) {es : List Declared} (hes : es ⊆ ds)
    (hr : q.FollowedBy (m.reachable o q ds) id r) :
    ∃ r', (es.mapM (m'.mapDeclared o)).run r = (.ok (es.map (m.declsFrom o q)), r') ∧
      q.FollowedBy (m.reachable o q ds) id r' ∧
      ∀ t, t ∈ r'.decls ↔ t ∈ r.decls ∨ ∃ d ∈ es, t ∈ (m.alone o q d).decls := by
  induction es generalizing r with
  | nil => exact ⟨r, rfl, hr, by simp⟩
  | cons d es ih =>
    have hd := hes List.mem_cons_self
    have hvariation : Variation id m m' o.documented o.documented := ⟨hm, fun _ => rfl⟩
    have hcat : ∀ t ∈ (m.alone o q d).decls, m.reachable o q ds t := fun t ht => .inr ⟨d, hd, ht⟩
    obtain ⟨hreserved, hsub, hreplay⟩ := mapDeclared_replays (hagree.consistent hq) hvariation rfl d
      q _ _ (run_alone hq (hds d hd)) hcat
    obtain ⟨r₁, hrun₁, hgains⟩ := hreplay r hr
    have hr₁ := (hr.of_gains hreserved hcat hgains).of_subset hreserved hsub
    obtain ⟨r₂, hrun₂, hr₂, hmem⟩ := ih (fun e he => hes (List.mem_cons_of_mem _ he)) hr₁
    refine ⟨r₂, ?_, hr₂, fun t => ?_⟩
    · rw [List.map_id'' Decl.redocument_id] at hrun₁
      rw [List.mapM_cons, Mapping.run_bind, hrun₁]
      dsimp only
      rw [Mapping.run_bind, hrun₂]
      rfl
    · rw [hmem, hgains.mem_iff]
      simp only [TypeDecl.redocument_id, exists_eq_right, List.mem_cons, exists_eq_or_imp, or_assoc]

/-! ## All declarations in another order -/

/-- Registries that reserve the same names and hold the same declarations, in any order. -/
structure Alike (q r : Registry) : Prop where
  reserved : ∀ name, name ∈ r.reserved ↔ name ∈ q.reserved
  mem_iff : ∀ t, t ∈ r.decls ↔ t ∈ q.decls

theorem Alike.followedBy (h : Alike q r) : q.FollowedBy (m.reachable o q ds) id r where
  reserved := h.reserved
  carried t ht := by rwa [TypeDecl.redocument_id, h.mem_iff]
  within t ht := ⟨t, .inl ((h.mem_iff t).mp ht), t.redocument_id⟩

/-- From registries that are alike, declarations that agree give the same in any order. -/
theorem AgreeFrom.run_perm (hagree : m.AgreeFrom o q ds) (hm : m.SameNames m') (hq : q.Fits m)
    (hds : ∀ d ∈ ds, ∃ s, m.translateDeclared o d = .ok s) (halike : Alike q r)
    {es : List Declared} (hperm : es.Perm ds) :
    ∃ q' r', (ds.mapM (m.mapDeclared o)).run q = (.ok (ds.map (m.declsFrom o q)), q') ∧
      (es.mapM (m'.mapDeclared o)).run r = (.ok (es.map (m.declsFrom o q)), r') ∧
      Alike q' r' := by
  obtain ⟨q', hrun, hq', hmem⟩ := run_mapM (.refl m) hq hagree hds (List.Subset.refl ds)
    (Alike.followedBy ⟨fun _ => Iff.rfl, fun _ => Iff.rfl⟩)
  obtain ⟨r', hrun', hr', hmem'⟩ := run_mapM hm hq hagree hds hperm.subset halike.followedBy
  refine ⟨q', r', hrun, hrun', fun name => ?_, fun t => ?_⟩
  · rw [hr'.reserved, hq'.reserved]
  · rw [hmem', hmem, halike.mem_iff]
    simp only [hperm.mem_iff]

theorem collect_of_runs (hm : m.DistinctNames) {as bs : List (List Decl)}
    (has : (m.structural.mapM (m.mapDeclared o)).run (.empty m.names) = (.ok as, q))
    (hbs : (m.aliases.mapM (m.mapDeclared o)).run q = (.ok bs, r)) :
    m.collect o = .ok ⟨(as ++ bs).flatten ++ r.decls.map .type⟩ := by
  have hrun : (m.mapPrimaries o).run (.empty m.names) = (.ok (as ++ bs).flatten, r) := by
    rw [mapPrimaries, hm.primaries_eq, declarations_eq, List.mapM_append, Mapping.run_bind,
      Mapping.run_bind, has]
    dsimp only
    rw [Mapping.run_bind, hbs]
    rfl
  rw [collect, hrun]

theorem fits_of_run (hq : q.Fits m) {dss : List (List Decl)}
    (hrun : (ds.mapM (m.mapDeclared o)).run q = (.ok dss, r)) : r.Fits m := by
  have hfits := (mapM_mapDeclared_simulates (o := o) hq ds).fits
  rwa [hrun] at hfits

/-- Where no two declarations want one name, every order collects the same. -/
theorem OrderFree.collect_perm (hfree : m.OrderFree o) (hm : m.DistinctNames)
    (h : m.Reordering m') {set : DeclSet} (hset : m.collect o = .ok set) :
    ∃ set', m'.collect o = .ok set' ∧ set.decls.Perm set'.decls := by
  have hnames := h.sameNames hm
  have htranslate : ∀ d ∈ m.structural ++ m.aliases, ∃ s, m.translateDeclared o d = .ok s := by
    rw [← declarations_eq, ← hm.primaries_eq]
    exact exists_targetDecls_iff.mp ⟨_, map_eq_ok.mpr ⟨set, hset, rfl⟩⟩
  -- the structures and enumerations, from the empty registry
  obtain ⟨q₁, r₁, hq₁, hr₁, halike₁⟩ := hfree.structural.run_perm hnames (.empty m)
    (fun d hd => htranslate d (List.mem_append_left _ hd))
    (r := .empty m'.names) ⟨fun _ => h.mem_names, fun _ => Iff.rfl⟩ h.structural_perm
  have hbefore : m.beforeAliases o = q₁ := congrArg Prod.snd hq₁
  have hfits₁ : q₁.Fits m := fits_of_run (.empty m) hq₁
  -- the aliases, from what the structures left behind
  obtain ⟨q₂, r₂, hq₂, hr₂, halike₂⟩ := (hbefore ▸ hfree.aliases).run_perm hnames hfits₁
    (fun d hd => htranslate d (List.mem_append_right _ hd)) halike₁ h.aliases_perm
  have hq₂' : q₂.WellFormed := (fits_of_run hfits₁ hq₂).wellFormed
  have hr₂' : r₂.WellFormed := (fits_of_run (fits_of_run (.empty m') hr₁) hr₂).wellFormed
  have hregistered := perm_of_mem_iff hq₂'.distinct hr₂'.distinct halike₂.mem_iff
  cases hset.symm.trans (collect_of_runs hm hq₁ hq₂)
  refine ⟨_, collect_of_runs (h.distinctNames hm) hr₁ hr₂, ?_⟩
  refine .append (.flatten (.append ?_ ?_)) (hregistered.map _)
  · exact (h.structural_perm.map _).symm
  · exact (h.aliases_perm.map _).symm

theorem OrderFree.targetDecls_eq (hfree : m.OrderFree o) (hm : m.DistinctNames)
    (h : m.Reordering m') {ds : List Decl} (hds : m.targetDecls o = .ok ds) :
    m'.targetDecls o = .ok ds := by
  obtain ⟨set, hset, _⟩ := map_eq_ok.mp hds
  obtain ⟨set', hset', hperm⟩ := hfree.collect_perm hm h hset
  have hid : ∀ ds : List Decl, ds.map (Decl.redocument id) = ds := List.map_id'' Decl.redocument_id
  rw [← hid ds]
  exact targetDecls_of_perm hset hset' ((hid set.decls).symm ▸ hperm) hds

/-- A model for which source is generated has declarations in every order. Where no two of them want
one name for different shapes, the source is the same in every order. -/
theorem generate_reordering {o : Options} (hm : m.DistinctNames) (h : m.Reordering m')
    {code : String} (hcode : m.generate o = .ok code) :
    (∃ ds, m'.targetDecls o.toMappingOptions = .ok ds) ∧
      (m.OrderFree o.toMappingOptions → m'.generate o = .ok code) := by
  obtain ⟨ds, hds, hfile⟩ := generate_eq_ok_iff.mp hcode
  refine ⟨h.exists_targetDecls hm ⟨ds, hds⟩, fun hfree => ?_⟩
  exact generate_eq_ok_iff.mpr ⟨ds, hfree.targetDecls_eq hm h hds, h.version.symm ▸ hfile⟩

theorem reordering_labelsReversed (first second : Property) :
    (labels first second).Reordering (labelsReversed first second) where
  structures := List.reverse_perm _
  enumerations := .refl _
  typeAliases := .refl _
  version := rfl

theorem generate_eq_ok {o : Options} {ds : List Decl} {code : String}
    (hds : m.targetDecls o.toMappingOptions = .ok ds) :
    m.generate o = .ok code ↔ Source.file m.version o.header ds = .ok code := by
  simp [generate, hds]

/-- Two structures that want one name for the same shape share it in either order. -/
theorem generate_sharedLabels :
    (labels (textProperty none) (textProperty none)).DistinctNames ∧
      ∃ code, (labels (textProperty none) (textProperty none)).generate {} = .ok code ∧
        (labelsReversed (textProperty none) (textProperty none)).generate {} = .ok code := by
  have hnames : (labels (textProperty none) (textProperty none)).DistinctNames := by
    unfold DistinctNames
    decide
  have hfree : (labels (textProperty none) (textProperty none)).OrderFree {} := by
    constructor
    · unfold AgreeFrom
      decide +kernel
    · unfold AgreeFrom
      decide +kernel
  have hds : (labels (textProperty none) (textProperty none)).targetDecls {} =
      .ok (labelDecls "ItemKindLabel" "ItemKindLabel" [("ItemKindLabel", textField none)]) :=
    targetDecls_of_collect (by decide +kernel)
  have hfile : (Source.file "1" none (labelDecls "ItemKindLabel" "ItemKindLabel"
      [("ItemKindLabel", textField none)])).toOption.isSome := by decide +kernel
  obtain ⟨code, hcode⟩ := Option.isSome_iff_exists.mp hfile
  have hgenerate := (generate_eq_ok (o := {}) hds).mpr (toOption_eq_some.mp hcode)
  exact ⟨hnames, code, hgenerate,
    (generate_reordering hnames (reordering_labelsReversed _ _) hgenerate).2 hfree⟩

/-! ## Where the order shows -/

/-- Declarations that were collected in any order are sorted and boxed. -/
theorem targetDecls_of_isPerm {ds : List Decl}
    (hperm : (m.collect o).toOption.any fun s => s.decls.isPerm ds)
    (hsorted : ds.Pairwise fun a b => a.le b) : m.targetDecls o = .ok (boxed ds) := by
  cases hset : m.collect o with
  | error e => rw [hset] at hperm; cases hperm
  | ok set =>
    rw [hset] at hperm
    obtain ⟨_, _, _, hg⟩ := generated_of_collect hset
    have hds : set.sorted = ds :=
      (DeclSet.sorted_eq_of_perm (List.isPerm_iff.mp hperm) hg.distinct_set hg.owners_set).trans
        (List.mergeSort_of_pairwise hsorted)
    rw [targetDecls, hset, ← hds]
    rfl

/-- Two structures that want one name for different shapes get it in turn. -/
theorem reordered_renames :
    ¬ ∀ (m m' : MetaModel) (o : Options) (code : String), m.DistinctNames → m.Reordering m' →
      m.generate o = .ok code → m'.generate o = .ok code := by
  intro h
  have hds : (labels (textProperty none) codeProperty).targetDecls {} =
      .ok (labelDecls "ItemKindLabel" "ItemKindLabel2"
        [("ItemKindLabel", textField none), ("ItemKindLabel2", codeField)]) :=
    targetDecls_of_collect (by decide +kernel)
  have hds' : (labelsReversed (textProperty none) codeProperty).targetDecls {} =
      .ok (boxed (labelDecls "ItemKindLabel2" "ItemKindLabel"
        [("ItemKindLabel", codeField), ("ItemKindLabel2", textField none)])) :=
    targetDecls_of_isPerm (by decide +kernel) (by decide +kernel)
  have hfile : (Source.file "1" none (labelDecls "ItemKindLabel" "ItemKindLabel2"
      [("ItemKindLabel", textField none), ("ItemKindLabel2", codeField)])).toOption.isSome := by
    decide +kernel
  obtain ⟨code, hcode⟩ := Option.isSome_iff_exists.mp hfile
  have hgenerate := h (labels (textProperty none) codeProperty) _ {} code
    (by unfold DistinctNames; decide) (reordering_labelsReversed _ _)
    ((generate_eq_ok (o := {}) hds).mpr (toOption_eq_some.mp hcode))
  have hsame := toOption_eq_some.mpr ((generate_eq_ok (o := {}) hds').mp hgenerate)
  rw [← hcode] at hsame
  revert hsame
  decide +kernel

end MetaModel
end ProtocolTypes
