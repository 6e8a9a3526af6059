import ProtocolTypes.Proofs.Mapping.Output
import ProtocolTypes.Proofs.Target.Redocument

/-!
# ProtocolTypes.Proofs.Mapping.Replay

One mapping run twice: from a registry `q`, and with other documentation from a registry `r` that
holds what `q` holds and more. `Replays` says that the second run gives what the first one gives and
registers what the first one registers, as long as all declarations that occur belong to a catalogue
in which names tell declarations apart (`Catalogue.Consistent`). Names are found alike because each
candidate serves in both registries or in neither (`FollowedBy.nameFor_eq`). The rules follow the
way mappings are put together; `mapDeclared_replays` is what they come to.
-/

namespace ProtocolTypes

open Target

/-! ## Registries that follow others -/

/-- All declarations that may be registered. -/
abbrev Catalogue := TypeDecl → Prop

/-- A name is that of one declaration, and declarations that may want the same name differ in more
than what `g` changes. -/
structure Catalogue.Consistent (T : Catalogue) (g : Docs → Docs) : Prop where
  eq : ∀ d e, T d → T e → d.ident = e.ident → d = e
  apart : ∀ d e, T d → T e → ∀ name i j, d.ident = Registry.candidate name i →
    e.ident = Registry.candidate name j → d.spec.redocument g = e.spec.redocument g →
    d.spec = e.spec

namespace Registry

/-- `r` reserves what `q` reserves and holds what `q` holds, with other documentation; whatever else
it holds is from the catalogue. -/
structure FollowedBy (T : Catalogue) (g : Docs → Docs) (q r : Registry) : Prop where
  reserved : ∀ name, name ∈ r.reserved ↔ name ∈ q.reserved
  carried : ∀ d ∈ q.decls, d.redocument g ∈ r.decls
  within : ∀ e ∈ r.decls, ∃ d, T d ∧ d.redocument g = e

/-- `r'` is `r` and what `q` holds, with other documentation. -/
structure Gains (g : Docs → Docs) (q r r' : Registry) : Prop where
  reserved : r'.reserved = r.reserved
  mem_iff : ∀ e, e ∈ r'.decls ↔ e ∈ r.decls ∨ ∃ d ∈ q.decls, d.redocument g = e

variable {T : Catalogue} {g : Docs → Docs} {q q' r r' r'' : Registry}

theorem FollowedBy.gains (h : q.FollowedBy T g r) : Gains g q r r where
  reserved := rfl
  mem_iff e := by
    constructor
    · exact .inl
    · rintro (he | ⟨d, hd, rfl⟩)
      · exact he
      · exact h.carried d hd

theorem FollowedBy.of_gains (h : q.FollowedBy T g r) (hreserved : q'.reserved = q.reserved)
    (hT : ∀ d ∈ q'.decls, T d) (hr' : Gains g q' r r') : q'.FollowedBy T g r' where
  reserved name := by rw [hr'.reserved, h.reserved, hreserved]
  carried d hd := (hr'.mem_iff _).mpr (.inr ⟨d, hd, rfl⟩)
  within e he := by
    rcases (hr'.mem_iff e).mp he with he | ⟨d, hd, rfl⟩
    · exact h.within e he
    · exact ⟨d, hT d hd, rfl⟩

theorem FollowedBy.of_subset (h : q'.FollowedBy T g r) (hreserved : q'.reserved = q.reserved)
    (hsub : q.decls ⊆ q'.decls) : q.FollowedBy T g r where
  reserved name := by rw [h.reserved, hreserved]
  carried d hd := h.carried d (hsub hd)
  within := h.within

theorem Gains.trans (hsub : q.decls ⊆ q'.decls) (h : Gains g q r r') (h' : Gains g q' r' r'') :
    Gains g q' r r'' where
  reserved := h'.reserved.trans h.reserved
  mem_iff e := by
    rw [h'.mem_iff, h.mem_iff]
    constructor
    · rintro ((he | ⟨d, hd, rfl⟩) | he)
      · exact .inl he
      · exact .inr ⟨d, hsub hd, rfl⟩
      · exact .inr he
    · rintro (he | he)
      · exact .inl (.inl he)
      · exact .inr he

/-- `r'` gains what `q` with one more declaration holds when it gains that declaration. -/
theorem FollowedBy.gains_add (h : q.FollowedBy T g r) {d : TypeDecl}
    (hreserved : r'.reserved = r.reserved)
    (hmem : ∀ e, e ∈ r'.decls ↔ e ∈ r.decls ∨ e = d.redocument g) : Gains g (q.add d) r r' where
  reserved := hreserved
  mem_iff e := by
    rw [hmem]
    constructor
    · rintro (he | rfl)
      · exact .inl he
      · exact .inr ⟨d, mem_add.mpr (.inr rfl), rfl⟩
    · rintro (he | ⟨d', hd', rfl⟩)
      · exact .inl he
      · rcases mem_add.mp hd' with hd' | rfl
        · exact .inl (h.carried d' hd')
        · exact .inr rfl

/-- Under the name of a declaration of the catalogue `r` holds that declaration only. -/
theorem FollowedBy.eq_of_find? (hT : T.Consistent g) (h : q.FollowedBy T g r) {d e : TypeDecl}
    (hd : T d) (hfind : r.find? d.ident = some e) : e = d.redocument g := by
  obtain ⟨he, hident⟩ := declared?_eq_some hfind
  obtain ⟨d', hd', rfl⟩ := h.within e he
  rw [hT.eq d' d hd' hd hident]

/-- Where `q` holds a declaration, `r` finds it under its name. -/
theorem FollowedBy.find? (hT : T.Consistent g) (h : q.FollowedBy T g r) {d : TypeDecl}
    (hd : d ∈ q.decls) (hTd : T d) : r.find? d.ident = some (d.redocument g) := by
  cases hfind : r.find? d.ident with
  | none =>
    rw [Registry.find?, List.find?_eq_none] at hfind
    exact absurd (hfind _ (h.carried d hd)) (by simp [TypeDecl.redocument])
  | some e => rw [h.eq_of_find? hT hTd hfind]

/-- A name that serves a declaration of the catalogue serves it with other documentation. -/
theorem FollowedBy.serves (hT : T.Consistent g) (h : q.FollowedBy T g r) {d : TypeDecl} (hd : T d)
    (hserves : q.serves d.spec d.ident = true) :
    r.serves (d.spec.redocument g) d.ident = true := by
  rw [serves_iff] at hserves ⊢
  refine ⟨fun hmem => hserves.1 ((h.reserved _).mp hmem), fun e hfind => ?_⟩
  rw [h.eq_of_find? hT hd hfind]
  rfl

/-- A candidate that does not serve a declaration does not serve it with other documentation. -/
theorem FollowedBy.refuses (hT : T.Consistent g) (h : q.FollowedBy T g r)
    (hq : ∀ d ∈ q.decls, T d) {d : TypeDecl} (hd : T d) {name : String} {i j : Nat}
    (hident : d.ident = candidate name i) (hrefuses : q.serves d.spec (candidate name j) = false) :
    r.serves (d.spec.redocument g) (candidate name j) = false := by
  by_contra hserves
  rw [Bool.not_eq_false, serves_iff] at hserves
  have hfree : candidate name j ∉ q.reserved := fun hmem => hserves.1 ((h.reserved _).mpr hmem)
  have hheld : ∃ e, q.find? (candidate name j) = some e ∧ e.spec ≠ d.spec := by
    by_contra hnone
    push Not at hnone
    rw [serves_iff.mpr ⟨hfree, hnone⟩] at hrefuses
    cases hrefuses
  obtain ⟨e, hfind, hne⟩ := hheld
  obtain ⟨he, hname⟩ := declared?_eq_some hfind
  have hspec := hserves.2 _ (hname ▸ h.find? hT he (hq e he))
  exact hne (hT.apart e d (hq e he) hd name j i hname hident hspec)

/-- A declaration that the catalogue has under the name that it gets in `q` gets it in `r`. -/
theorem FollowedBy.nameFor_eq (hT : T.Consistent g) (h : q.FollowedBy T g r)
    (hq : ∀ d ∈ q.decls, T d) {name : String} {d : TypeDecl} (hd : T d)
    (hident : d.ident = q.nameFor ⟨name, {}, d.spec⟩) :
    r.nameFor ⟨name, {}, d.spec.redocument g⟩ = d.ident := by
  obtain ⟨k, hk, hserves, hbefore⟩ := q.nameFor_spec ⟨name, {}, d.spec⟩
  obtain ⟨l, hl, hserves', hbefore'⟩ := r.nameFor_spec ⟨name, {}, d.spec.redocument g⟩
  have hcandidate : d.ident = candidate name k := hident.trans hk
  have hk' : r.serves (d.spec.redocument g) (candidate name k) = true := by
    rw [← hcandidate]
    exact h.serves hT hd (hcandidate ▸ hserves)
  rcases Nat.lt_trichotomy l k with hlt | rfl | hgt
  · have hrefuses := h.refuses hT hq hd hcandidate (hbefore l hlt)
    rw [hserves'] at hrefuses
    cases hrefuses
  · exact hl.trans hcandidate.symm
  · have hrefuses := hbefore' k hgt
    rw [hk'] at hrefuses
    cases hrefuses

end Registry

/-! ## Mappings that replay others -/

/-- When `x` succeeds from a registry, `y` succeeds from each registry that follows it. The results
and what is registered differ by documentation only. -/
def Replays {α β : Type} (T : Catalogue) (g : Docs → Docs) (x : Mapping α) (y : Mapping β)
    (f : α → β) : Prop :=
  ∀ q a q', x.run q = (.ok a, q') → (∀ d ∈ q'.decls, T d) →
    q'.reserved = q.reserved ∧ q.decls ⊆ q'.decls ∧
      ∀ r, q.FollowedBy T g r → ∃ r', y.run r = (.ok (f a), r') ∧ Registry.Gains g q' r r'

namespace Replays

variable {α β γ δ : Type} {T : Catalogue} {g : Docs → Docs}

protected theorem pure {a : α} {b : β} {f : α → β} (h : f a = b) :
    Replays T g (pure a) (pure b) f := by
  intro q c q' hrun _
  cases hrun
  refine ⟨rfl, List.Subset.refl _, fun r hr => ⟨r, ?_, hr.gains⟩⟩
  rw [h]
  rfl

theorem ofExcept {x : Except MappingError α} {y : Except MappingError β} {f : α → β}
    (h : ∀ a, x = .ok a → y = .ok (f a)) : Replays T g (liftM x) (liftM y) f := by
  intro q a q' hrun _
  rw [Mapping.run_ofExcept, Prod.mk.injEq] at hrun
  obtain ⟨hx, rfl⟩ := hrun
  refine ⟨rfl, List.Subset.refl _, fun r hr => ⟨r, ?_, hr.gains⟩⟩
  rw [Mapping.run_ofExcept, h a hx]

protected theorem bind {x : Mapping α} {y : Mapping β} {f : α → β} {k : α → Mapping γ}
    {l : β → Mapping δ} {h : γ → δ} (hx : Replays T g x y f)
    (hk : ∀ a, Replays T g (k a) (l (f a)) h) : Replays T g (x >>= k) (y >>= l) h := by
  intro q c q' hrun hT
  rw [Mapping.run_bind] at hrun
  rcases hfirst : x.run q with ⟨e | a, q₁⟩ <;> rw [hfirst] at hrun
  · cases hrun
  · -- what the first part registers is kept by the second, so it is in the catalogue as well
    obtain ⟨hres₂, hsub₂, hreplay₂⟩ := hk a q₁ c q' hrun hT
    have hT₁ : ∀ d ∈ q₁.decls, T d := fun d hd => hT d (hsub₂ hd)
    obtain ⟨hres₁, hsub₁, hreplay₁⟩ := hx q a q₁ hfirst hT₁
    refine ⟨hres₂.trans hres₁, List.Subset.trans hsub₁ hsub₂, fun r hr => ?_⟩
    obtain ⟨r₁, hrun₁, hgains₁⟩ := hreplay₁ r hr
    obtain ⟨r₂, hrun₂, hgains₂⟩ := hreplay₂ r₁ (hr.of_gains hres₁ hT₁ hgains₁)
    refine ⟨r₂, ?_, hgains₁.trans hsub₂ hgains₂⟩
    rw [Mapping.run_bind, hrun₁]
    exact hrun₂

protected theorem map {x : Mapping α} {y : Mapping β} {f : α → β} {k : α → γ} {l : β → δ}
    {h : γ → δ} (hx : Replays T g x y f) (hk : ∀ a, h (k a) = l (f a)) :
    Replays T g (k <$> x) (l <$> y) h := by
  rw [map_eq_pure_bind, map_eq_pure_bind]
  exact hx.bind fun a => .pure (hk a)

protected theorem mapM {ι : Type} {xs : List ι} {k : ι → Mapping α} {l : ι → Mapping β}
    {f : α → β} (h : ∀ x ∈ xs, Replays T g (k x) (l x) f) :
    Replays T g (xs.mapM k) (xs.mapM l) (List.map f) := by
  induction xs with
  | nil => exact .pure rfl
  | cons x xs ih =>
    rw [List.mapM_cons, List.mapM_cons]
    refine (h x List.mem_cons_self).bind fun a => ?_
    refine (ih fun z hz => h z (List.mem_cons_of_mem _ hz)).bind fun as => ?_
    exact .pure rfl

theorem synthesize (hT : T.Consistent g) (hg : g {} = {}) (name : String) (spec : TypeSpec) :
    Replays T g (Mapping.synthesize name spec) (Mapping.synthesize name (spec.redocument g))
      id := by
  intro q a q' hrun hq'
  obtain ⟨-, ⟨e, hfind, rfl, heq⟩ | ⟨hnew, heq⟩⟩ := q.register_cases ⟨name, {}, spec⟩
  · -- `q` holds the shape already, and so does `r`
    rw [Mapping.run_synthesize, heq] at hrun
    cases hrun
    refine ⟨rfl, List.Subset.refl _, fun r hr => ⟨r, ?_, hr.gains⟩⟩
    obtain ⟨he, hident⟩ := declared?_eq_some hfind
    have hname := hr.nameFor_eq hT hq' (hq' e he) hident
    have hshared := Registry.register_of_find? (hname.symm ▸ hr.find? hT he (hq' e he))
    rw [Mapping.run_synthesize, hshared, hname, hident]
    rfl
  · rw [Mapping.run_synthesize, heq] at hrun
    cases hrun
    refine ⟨rfl, List.subset_append_left _ _, fun r hr => ?_⟩
    have hd := hq' _ (Registry.mem_add.mpr (.inr rfl))
    have hname := hr.nameFor_eq hT (fun d hd => hq' d (Registry.mem_add.mpr (.inl hd))) hd rfl
    obtain ⟨-, ⟨e, hfind, -, heq⟩ | ⟨-, heq⟩⟩ := r.register_cases ⟨name, {}, spec.redocument g⟩
    · rw [Mapping.run_synthesize, heq, hname]
      refine ⟨r, rfl, hr.gains_add rfl fun e' => ⟨.inl, ?_⟩⟩
      rintro (he' | rfl)
      · exact he'
      · rw [hname] at hfind
        rw [← hr.eq_of_find? hT hd hfind]
        exact List.mem_of_find?_eq_some hfind
    · rw [Mapping.run_synthesize, heq, hname]
      refine ⟨_, rfl, hr.gains_add rfl fun e' => ?_⟩
      rw [Registry.mem_add, TypeDecl.redocument, hg]

end Replays

/-! ## Models that differ in what mapping does not read -/

namespace MetaModel

/-- Names stand for the same in both models, and chains of structures have the same bound. -/
structure SameNames (m m' : MetaModel) : Prop where
  find? : ∀ name, m'.find? name = m.find? name
  chainBound : m'.chainBound = m.chainBound

theorem SameNames.refl (m : MetaModel) : m.SameNames m :=
  ⟨fun _ => rfl, rfl⟩

section SameNames

variable {m m' : MetaModel}

theorem symbol_eq_of_find? (h : ∀ name, m'.find? name = m.find? name) : m'.symbol = m.symbol := by
  funext name context
  rw [symbol, symbol, resolve, resolve, h]

theorem visitParents_eq_of_find? (h : ∀ name, m'.find? name = m.find? name) {α : Type} :
    @visitParents α m' = m.visitParents := by
  funext visit s relation
  have hparent : m'.parent = m.parent := by
    funext s relation position t
    simp only [parent, resolve, h]
  rw [visitParents, visitParents, hparent]

theorem flattenFrom_eq_of_find? (h : ∀ name, m'.find? name = m.find? name) :
    m'.flattenFrom = m.flattenFrom := by
  funext fuel
  induction fuel with
  | zero => rfl
  | succ fuel ih =>
    funext chain s
    rw [flattenFrom, flattenFrom, ih, visitParents_eq_of_find? h]

theorem SameNames.recordParts_eq (h : m.SameNames m') : m'.recordParts = m.recordParts := by
  funext flattenBases s
  simp only [recordParts, flatten, baseNames, flattenMixins, flattenFrom_eq_of_find? h.find?,
    visitParents_eq_of_find? h.find?, h.chainBound]

end SameNames

/-- A second model and documentation switch, such that `g` tells their documentation from that of
the first ones. -/
structure Variation (g : Docs → Docs) (m m' : MetaModel) (documented documented' : Bool) :
    Prop where
  names : m.SameNames m'
  docs : ∀ a, g (Docs.ofAnnotations documented a) = Docs.ofAnnotations documented' a

theorem Variation.no_docs {g : Docs → Docs} {m m' : MetaModel} {documented documented' : Bool}
    (h : Variation g m m' documented documented') : g {} = {} := by
  have hnone : ∀ wanted, Docs.ofAnnotations wanted {} = {} := by
    intro wanted
    cases wanted <;> rfl
  rw [← hnone documented, h.docs, hnone, hnone]

theorem redocument_inlineRecord (g : Docs → Docs) (fields : List Field) :
    (inlineRecord fields).redocument g = inlineRecord (fields.map (Field.redocument g)) := by
  have hdistinct := Members.distinct_redocument g ⟨[], fields⟩
  rw [inlineRecord, inlineRecord, TypeSpec.redocument, TypeSpec.record.injEq]
  exact ⟨rfl, congrArg Members.fields hdistinct.symm⟩

/-- The second outcome is the first one with other documentation. Errors may be others. -/
inductive OutcomeVaries (g : Docs → Docs) :
    Outcome TargetType TypeSpec → Outcome TargetType TypeSpec → Prop where
  | type {x y : Except MappingError TargetType} : (∀ u, x = .ok u → y = .ok u) →
      OutcomeVaries g (.type x) (.type y)
  | declaration {spec : TypeSpec} {nullable : Bool} :
      OutcomeVaries g (.declaration spec nullable) (.declaration (spec.redocument g) nullable)

theorem redocument_orNull (g : Docs → Docs) (nullable : Bool) (spec : TypeSpec) :
    (spec.orNull nullable).redocument g = (spec.redocument g).orNull nullable := by
  cases spec <;> rfl

section Replays

variable {T : Catalogue} {g : Docs → Docs} {m m' : MetaModel} {documented documented' : Bool}
  {context context' : String}

/-- The contexts show in errors only. -/
theorem outcome_varies (hm : Variation g m m' documented documented') (us : List TargetType)
    (t : TypeExpr) :
    OutcomeVaries g (m.outcome documented context us t)
      (m'.outcome documented' context' us t) := by
  cases t with
  | base name =>
    refine .type fun u hu => ?_
    obtain ⟨p, hp, rfl⟩ := map_eq_ok.mp hu
    exact map_eq_ok.mpr ⟨p, ofBase_eq_ok_iff.mpr (ofBase_eq_ok_iff.mp hp), rfl⟩
  | reference name =>
    rw [outcome, outcome, symbol_eq_of_find? hm.names.find?]
    exact .type fun u hu => symbol_eq_ok_iff.mpr (symbol_eq_ok_iff.mp hu)
  | or items =>
    rw [outcome, outcome]
    cases TypeExpr.unionForm items with
    | single | literals => exact .type fun _ hu => hu
    | variants => exact .declaration
  | and items => exact .declaration
  | literal l =>
    have hfield : ∀ p u, (Property.field documented p u).redocument g = p.field documented' u := by
      intro p u
      rw [Field.redocument, Property.field, hm.docs]
      rfl
    have hspec := redocument_inlineRecord g
      (List.zipWith (Property.field documented) l.properties us)
    rw [List.map_zipWith, funext fun p => funext (hfield p)] at hspec
    rw [outcome, outcome, ← hspec]
    exact .declaration
  | array | map | tuple | stringLiteral | integerLiteral | booleanLiteral =>
    exact .type fun _ hu => hu

variable {x y : Outcome TargetType TypeSpec}

theorem settle_replays (hT : T.Consistent g) (hg : g {} = {}) (h : OutcomeVaries g x y)
    (hint : String) : Replays T g (Mapping.settle hint x) (Mapping.settle hint y) id := by
  cases h with
  | type h => exact .ofExcept h
  | declaration => exact (Replays.synthesize hT hg hint _).map fun u => rfl

theorem specify_replays (h : OutcomeVaries g x y) :
    Replays T g (Mapping.specify x) (Mapping.specify y) (TypeSpec.redocument g) := by
  cases h with
  | type h => exact (Replays.ofExcept (f := id) h).map fun u => rfl
  | declaration => exact .pure (redocument_orNull g _ _)

variable (hT : T.Consistent g) (hm : Variation g m m' documented documented')

include hT hm

theorem mapType_replays (hint : String) (t : TypeExpr) :
    Replays T g (m.mapType documented context hint t) (m'.mapType documented' context' hint t)
      id := by
  induction t using TypeExpr.induct generalizing hint with
  | step t ih =>
    rw [mapType_eq, mapType_eq]
    refine (Replays.mapM (f := id) fun p hp => ?part).bind fun us => ?settled
    case part => exact ih p.2 (TypeExpr.mem_children_of_mem_parts hp) p.1
    case settled =>
      rw [List.map_id]
      exact settle_replays hT hm.no_docs (outcome_varies hm us t) hint

theorem mapProperty_replays (owner : String) (p : Property) :
    Replays T g (m.mapProperty documented context owner p)
      (m'.mapProperty documented' context' owner p) (Field.redocument g) := by
  rw [mapProperty_eq, mapProperty_eq]
  refine (mapType_replays hT hm _ p.type).map fun u => ?_
  rw [Field.redocument, Property.field, hm.docs]
  rfl

theorem mapSpec_replays (name : String) (t : TypeExpr) :
    Replays T g (m.mapSpec documented name t) (m'.mapSpec documented' name t)
      (TypeSpec.redocument g) := by
  rw [mapSpec_eq, mapSpec_eq]
  refine (Replays.mapM (f := id) fun p _ => mapType_replays hT hm p.1 p.2).bind fun us => ?_
  rw [List.map_id]
  exact specify_replays (outcome_varies hm us t)

end Replays
end MetaModel

/-! ## Declared names -/

section Declared

variable {T : Catalogue} {g : Docs → Docs} {m m' : MetaModel} {o o' : MappingOptions}

theorem Enumeration.mapEntry_redocument {documented documented' : Bool}
    (hdocs : ∀ a, g (Docs.ofAnnotations documented a) = Docs.ofAnnotations documented' a)
    {e : Enumeration} {carrier : Primitive} {entry : EnumerationEntry} {c : ConstDecl}
    (h : e.mapEntry documented carrier entry = .ok c) :
    e.mapEntry documented' carrier entry = .ok (c.redocument g) := by
  rw [mapEntry] at h ⊢
  cases hv : constant? carrier entry.value with
  | none => rw [hv] at h; cases h
  | some v =>
    rw [hv] at h
    cases h
    rw [ConstDecl.redocument, hdocs]

theorem Enumeration.declare_redocument {documented documented' : Bool}
    (hdocs : ∀ a, g (Docs.ofAnnotations documented a) = Docs.ofAnnotations documented' a)
    {e : Enumeration} {t : TypeDecl} {b : ConstBlock} (h : e.declare documented = .ok (t, b)) :
    e.declare documented' = .ok (t.redocument g, b.redocument g) := by
  cases hc : carrierOf? e.baseName with
  | none => rw [declare, hc] at h; cases h
  | some carrier =>
    rw [declare_of_carrier documented hc] at h
    rw [declare_of_carrier documented' hc]
    cases hv : e.values.mapM (e.mapEntry documented carrier) with
    | error err => rw [hv] at h; cases h
    | ok cs =>
      rw [hv] at h
      cases h
      have hcs : e.values.mapM (e.mapEntry documented' carrier) =
          .ok (cs.map (ConstDecl.redocument g)) := by
        rw [mapM_eq_ok_iff, List.forall₂_map_right_iff]
        exact (mapM_eq_ok_iff.mp hv).imp fun _ _ => mapEntry_redocument hdocs
      rw [hcs, TypeDecl.redocument, hdocs]
      rfl

namespace MetaModel

theorem Replays.ofResolution {α : Type} (x : Except ReferenceError α) :
    Replays T g (Mapping.ofResolution x) (Mapping.ofResolution x) id := by
  cases x with
  | ok a => exact .pure rfl
  | error e => exact .ofExcept (x := .error (.reference e)) fun _ => id

theorem mapStructure_replays (hT : T.Consistent g)
    (hm : Variation g m m' o.documented o'.documented)
    (hflat : o'.flattenBases = o.flattenBases) (s : Structure) :
    Replays T g (m.mapStructure o s) (m'.mapStructure o' s) (TypeDecl.redocument g) := by
  rw [mapStructure, mapStructure, hm.names.recordParts_eq, hflat]
  refine (Replays.ofResolution _).bind fun parts => ?_
  obtain ⟨bases, properties⟩ := parts
  refine (Replays.mapM fun p _ => mapProperty_replays hT hm p.owner p.property).bind fun fs => ?_
  have hdistinct : Members.distinct ⟨bases, fs.map (Field.redocument g)⟩ =
      (Members.distinct ⟨bases, fs⟩).redocument g := Members.distinct_redocument g ⟨bases, fs⟩
  refine .pure ?_
  simp only [hdistinct, TypeDecl.redocument, TypeSpec.redocument, Members.redocument,
    hm.docs]

theorem mapAlias_replays (hT : T.Consistent g) (hm : Variation g m m' o.documented o'.documented)
    (a : TypeAlias) :
    Replays T g (m.mapAlias o a) (m'.mapAlias o' a) (TypeDecl.redocument g) := by
  rw [mapAlias, mapAlias, declare, declare]
  refine (mapSpec_replays hT hm a.name a.type).bind fun spec => .pure ?_
  rw [TypeDecl.redocument, hm.docs]

theorem mapDeclared_replays (hT : T.Consistent g) (hm : Variation g m m' o.documented o'.documented)
    (hflat : o'.flattenBases = o.flattenBases) (d : Declared) :
    Replays T g (m.mapDeclared o d) (m'.mapDeclared o' d) (List.map (Decl.redocument g)) := by
  cases d with
  | struct s =>
    rw [mapDeclared, mapDeclared]
    exact (mapStructure_replays hT hm hflat s).bind fun t => .pure rfl
  | enumeration e =>
    rw [mapDeclared, mapDeclared]
    have hdeclare : Replays T g (liftM (e.declare o.documented)) (liftM (e.declare o'.documented))
        (Prod.map (TypeDecl.redocument g) (ConstBlock.redocument g)) :=
      .ofExcept fun _ h => Enumeration.declare_redocument hm.docs h
    exact hdeclare.bind fun p => .pure rfl
  | typeAlias a =>
    rw [mapDeclared, mapDeclared]
    exact (mapAlias_replays hT hm a).bind fun t => .pure rfl

/-! ## All declarations -/

/-- Distinctly named declarations that have the same members differ in their order. -/
theorem perm_of_mem_iff {ts us : List TypeDecl} (ht : (ts.map (·.ident)).Nodup)
    (hu : (us.map (·.ident)).Nodup) (h : ∀ t, t ∈ us ↔ t ∈ ts) : ts.Perm us := by
  rw [List.perm_ext_iff_of_nodup (.of_map _ ht) (.of_map _ hu)]
  exact fun t => (h t).symm

/-- When two runs collect the same but for documentation and order, so are their declarations. -/
theorem targetDecls_of_perm {set set' : DeclSet} (hset : m.collect o = .ok set)
    (hset' : m'.collect o' = .ok set')
    (hperm : (set.decls.map (Decl.redocument g)).Perm set'.decls) {ds : List Decl}
    (hds : m.targetDecls o = .ok ds) :
    m'.targetDecls o' = .ok (ds.map (Decl.redocument g)) := by
  obtain ⟨_, _, _, hg⟩ := generated_of_collect hset'
  have hsorted : set'.sorted = set.sorted.map (Decl.redocument g) := by
    rw [← DeclSet.sorted_redocument]
    exact DeclSet.sorted_eq_of_perm hperm.symm hg.distinct_set hg.owners_set
  rw [targetDecls, hset] at hds
  cases hds
  rw [targetDecls, hset', ← boxed_redocument, ← hsorted]
  rfl

end MetaModel
end Declared

/-! ## A model to run on -/

namespace MetaModel

/-- Two structures whose inline structures ask for one name. -/
def labels (first second : Property) : MetaModel where
  version := "1"
  requests := []
  notifications := []
  structures := [
    ⟨"Item", [⟨"kindLabel", .literal ⟨[first], {}⟩, false, {}⟩], [], [], {}⟩,
    ⟨"ItemKind", [⟨"label", .literal ⟨[second], {}⟩, false, {}⟩], [], [], {}⟩]
  enumerations := []
  typeAliases := []

def textProperty (documentation : Option String) : Property :=
  ⟨"text", .base "string", false, { documentation }⟩

def codeProperty : Property :=
  ⟨"code", .base "integer", false, {}⟩

/-- The same with the structures the other way round. -/
def labelsReversed (first second : Property) : MetaModel :=
  { labels first second with structures := (labels first second).structures.reverse }

/-- The declarations for labels of the given types. -/
def labelDecls (first second : String) (labels : List (String × Field)) : List Decl := [
    .type ⟨"Item", {}, .record [] [⟨"kind_label", "kindLabel", .symbol first, false, {}⟩]⟩,
    .type ⟨"ItemKind", {}, .record [] [⟨"label", "label", .symbol second, false, {}⟩]⟩] ++
  labels.map fun (ident, field) => .type ⟨ident, {}, .record [] [field]⟩

def textField (text : Option String) : Field :=
  ⟨"text", "text", .primitive .string, false, { text }⟩

def codeField : Field :=
  ⟨"code", "code", .primitive .int32, false, {}⟩

end MetaModel
end ProtocolTypes
