import Mathlib.Data.Set.Finite.List
import Mathlib.Data.Fintype.Card
import ProtocolTypes.Proofs.Mapping.Meaning
import ProtocolTypes.Proofs.Target.Mention

/-!
# ProtocolTypes.Proofs.Mapping.Synonyms

Synonyms of synonyms. A synonym has no meaning of its own: it is replaced by the type it stands for,
and so are the synonyms in that type (`Expands`). The synonyms of the output mention each other
exactly as the aliases of the model do where no record and no union is made in between
(`Generated.synonymEdge_iff`), and no alias is refused for referring to itself:

* `targetDecls_aliasGraph`: replacing synonyms comes to an end exactly where the aliases do not
  refer to each other in a circle.
* `alias_circle`: they can.
-/

open Relation (ReflTransGen TransGen)

namespace ProtocolTypes

open Target

/-! ## Relations without circles -/

section Circles

variable {α : Type} {R : α → α → Prop} {a : α}

/-- Where only the values of a list lead on, paths from a value end if they reach no circle. -/
theorem acc_of_no_circle {xs : List α} (hxs : ∀ a b, R a b → a ∈ xs)
    (ha : ∀ b, ReflTransGen R a b → ¬ TransGen R b b) : Acc (fun y x => R x y) a := by
  let reached : Set α := {x | x ∈ xs ∧ ReflTransGen R a x}
  have hfinite : Finite reached := (xs.finite_toSet.subset fun x hx => hx.1).to_subtype
  have htrans : IsTrans reached fun y x => TransGen R x.1 y.1 := ⟨fun _ _ _ h h' => h'.trans h⟩
  have hirrefl : Std.Irrefl fun y x : reached => TransGen R x.1 y.1 := ⟨fun x => ha x.1 x.2.2⟩
  have hwf := Finite.wellFounded_of_trans_of_irrefl fun y x : reached => TransGen R x.1 y.1
  have hacc : ∀ x : reached, Acc (fun y x => R x y) x.1 := by
    intro x
    induction x using hwf.induction with
    | _ x ih =>
      refine .intro _ fun y hxy => ?_
      by_cases hy : y ∈ xs
      · exact ih ⟨y, hy, x.2.2.tail hxy⟩ (.single hxy)
      · exact .intro _ fun z hyz => absurd (hxs y z hyz) hy
  by_cases hmem : a ∈ xs
  · exact hacc ⟨a, hmem, .refl⟩
  · exact .intro _ fun y hay => absurd (hxs a y hay) hmem

theorem no_circle_of_acc (h : Acc (fun y x => R x y) a) {b : α} (hab : ReflTransGen R a b) :
    ¬ TransGen R b b := by
  induction h generalizing b with
  | intro a _ ih =>
    intro hcircle
    rcases hab.cases_head with rfl | ⟨c, hac, hcb⟩
    · -- the circle leads through a value next to `a`
      obtain ⟨c, hac, hca⟩ := TransGen.head'_iff.mp hcircle
      exact ih c hac hca hcircle
    · exact ih c hac hcb hcircle

end Circles

/-! ## Replacing synonyms -/

namespace Target

variable {ds : List TypeDecl} {t : TargetType} {a b : String}

/-- The synonym `a` stands for a type that mentions the synonym `b`. -/
def SynonymEdge (ds : List TypeDecl) (a b : String) : Prop :=
  ∃ d ∈ ds, ∃ e ∈ ds, ∃ t u, d.ident = a ∧ e.ident = b ∧ d.spec = .synonym t ∧
    e.spec = .synonym u ∧ t.Mentions b

/-- Replacing the synonyms in a type by what they stand for comes to an end. -/
inductive Expands (ds : List TypeDecl) : TargetType → Prop where
  | primitive {p : Primitive} : Expands ds (.primitive p)
  | constrained {p : Primitive} {vs : List LiteralValue} : Expands ds (.constrained p vs)
  /-- Other declarations stay. -/
  | named {name : String} : (∀ d ∈ ds, d.ident = name → ∀ t, d.spec ≠ .synonym t) →
      Expands ds (.symbol name)
  | synonym {d : TypeDecl} {t : TargetType} : d ∈ ds → d.spec = .synonym t → Expands ds t →
      Expands ds (.symbol d.ident)
  | list {t : TargetType} : Expands ds t → Expands ds (.list t)
  | map {k v : TargetType} : Expands ds k → Expands ds v → Expands ds (.map k v)
  | tuple {ts : List TargetType} : (∀ t ∈ ts, Expands ds t) → Expands ds (.tuple ts)
  | option {t : TargetType} : Expands ds t → Expands ds (.option t)
  | boxed {t : TargetType} : Expands ds t → Expands ds (.boxed t)

theorem Expands.of_mentions (h : t.Mentions a) (ht : Expands ds t) : Expands ds (.symbol a) := by
  induction h with
  | symbol => exact ht
  | list _ ih =>
    cases ht with
    | list ht => exact ih ht
  | option _ ih =>
    cases ht with
    | option ht => exact ih ht
  | boxed _ ih =>
    cases ht with
    | boxed ht => exact ih ht
  | key _ ih =>
    cases ht with
    | map hk _ => exact ih hk
  | value _ ih =>
    cases ht with
    | map _ hv => exact ih hv
  | item hu _ ih =>
    cases ht with
    | tuple hts => exact ih (hts _ hu)

/-- A type expands when each name in it does. -/
theorem expands_iff_mentions : Expands ds t ↔ ∀ a, t.Mentions a → Expands ds (.symbol a) := by
  refine ⟨fun ht a ha => ht.of_mentions ha, fun h => ?_⟩
  induction t with
  | primitive => exact .primitive
  | constrained => exact .constrained
  | symbol name => exact h name .symbol
  | list t ih => exact .list (ih fun a ha => h a (.list ha))
  | option t ih => exact .option (ih fun a ha => h a (.option ha))
  | boxed t ih => exact .boxed (ih fun a ha => h a (.boxed ha))
  | map k v ihk ihv =>
    exact .map (ihk fun a ha => h a (.key ha)) (ihv fun a ha => h a (.value ha))
  | tuple ts ih => exact .tuple fun t ht => ih t ht fun a ha => h a (.item ht ha)

/-- From the names in a type that expands no path of synonyms goes on for ever. -/
theorem Expands.acc_of_mentions (hds : (ds.map (·.ident)).Nodup) (h : Expands ds t)
    (ha : t.Mentions a) : Acc (fun b a => SynonymEdge ds a b) a := by
  induction h generalizing a with
  | primitive => cases ha
  | constrained => cases ha
  | @named name hname =>
    cases ha
    refine .intro _ fun c hedge => ?_
    obtain ⟨d, hd, _, _, t, _, hident, _, hspec, _⟩ := hedge
    exact absurd hspec (hname d hd hident t)
  | @synonym d t hd hspec _ ih =>
    cases ha
    refine .intro _ fun c hedge => ?_
    obtain ⟨d', hd', _, _, t', _, hident, _, hspec', _, hmentions⟩ := hedge
    obtain rfl := List.inj_on_of_nodup_map hds hd' hd hident
    cases hspec.symm.trans hspec'
    exact ih hmentions
  | list _ ih =>
    cases ha with
    | list ha => exact ih ha
  | map _ _ ihk ihv =>
    cases ha with
    | key ha => exact ihk ha
    | value ha => exact ihv ha
  | tuple _ ih =>
    cases ha with
    | item ht ha => exact ih _ ht ha
  | option _ ih =>
    cases ha with
    | option ha => exact ih ha
  | boxed _ ih =>
    cases ha with
    | boxed ha => exact ih ha

/-- A synonym expands when no path of synonyms from it goes on for ever. -/
theorem expands_symbol_iff_acc (hds : (ds.map (·.ident)).Nodup) :
    Expands ds (.symbol a) ↔ Acc (fun b a => SynonymEdge ds a b) a := by
  constructor
  · exact fun h => h.acc_of_mentions hds .symbol
  · intro h
    induction h with
    | intro a _ ih =>
      by_cases hsynonym : ∃ d ∈ ds, d.ident = a ∧ ∃ t, d.spec = .synonym t
      · obtain ⟨d, hd, rfl, t, hspec⟩ := hsynonym
        refine .synonym hd hspec (expands_iff_mentions.mpr fun b hb => ?_)
        by_cases hb' : ∃ e ∈ ds, e.ident = b ∧ ∃ u, e.spec = .synonym u
        · obtain ⟨e, he, hident, u, hu⟩ := hb'
          exact ih b ⟨d, hd, e, he, t, u, rfl, hident, hspec, hu, hb⟩
        · exact .named fun e he hident u hu => hb' ⟨e, he, hident, u, hu⟩
      · exact .named fun d hd hident t ht => hsynonym ⟨d, hd, hident, t, ht⟩

/-- Replacing synonyms ends where they lead into no circle. -/
theorem expands_iff_no_circle (hds : (ds.map (·.ident)).Nodup) :
    Expands ds t ↔ ∀ a, t.Mentions a →
      ∀ b, ReflTransGen (SynonymEdge ds) a b → ¬ TransGen (SynonymEdge ds) b b := by
  simp only [expands_iff_mentions (t := t), expands_symbol_iff_acc hds]
  constructor
  · intro h a ha b
    exact no_circle_of_acc (h a ha)
  · intro h a ha
    have hfrom : ∀ a b, SynonymEdge ds a b → a ∈ ds.map (·.ident) := by
      rintro a b ⟨d, hd, _, _, _, _, rfl, _⟩
      exact List.mem_map_of_mem hd
    exact acc_of_no_circle hfrom (h a ha)

/-! ## Names in shapes -/

/-- The shape shows the name; names in records and unions are not shown. -/
inductive Shape.Shows (name : String) : Shape → Prop where
  | symbol : Shows name (.symbol name)
  | list {s : Shape} : Shows name s → Shows name (.list s)
  | key {k v : Shape} : Shows name k → Shows name (.map k v)
  | value {k v : Shape} : Shows name v → Shows name (.map k v)
  | item {ss : List Shape} {s : Shape} : s ∈ ss → Shows name s → Shows name (.tuple ss)
  | option {s : Shape} : Shows name s → Shows name (.option s)

namespace Shape

variable {name : String} {s k v : Shape} {ss : List Shape}

theorem shows_symbol {n : String} : (symbol n).Shows name ↔ name = n := by
  constructor
  · intro h
    cases h
    rfl
  · rintro rfl
    exact .symbol

theorem shows_list : (list s).Shows name ↔ s.Shows name := by
  constructor
  · intro h
    cases h
    assumption
  · exact .list

theorem shows_map : (map k v).Shows name ↔ k.Shows name ∨ v.Shows name := by
  constructor
  · intro h
    cases h with
    | key hk => exact .inl hk
    | value hv => exact .inr hv
  · rintro (hk | hv)
    · exact .key hk
    · exact .value hv

theorem shows_tuple : (tuple ss).Shows name ↔ ∃ s ∈ ss, s.Shows name := by
  constructor
  · intro h
    cases h with
    | item hs h => exact ⟨_, hs, h⟩
  · rintro ⟨s, hs, h⟩
    exact .item hs h

theorem shows_option : (option s).Shows name ↔ s.Shows name := by
  constructor
  · intro h
    cases h
    assumption
  · exact .option

theorem shows_optionalIf {wanted : Bool} : (s.optionalIf wanted).Shows name ↔ s.Shows name := by
  cases wanted with
  | false => rfl
  | true =>
    rw [optionalIf, if_pos rfl, optional]
    split
    · rfl
    · exact shows_option

theorem not_shows_of_isComposite (h : s.isComposite = true) : ¬ s.Shows name := by
  intro hshows
  cases hshows <;> cases h

end Shape

/-- Where names of the model stand for themselves and other ones for records and unions, a type
mentions those names of the model that its shape shows. -/
theorem TargetType.mentions_iff_shows {μ : Meaning} {names : List String}
    (hμ : ∀ n s, μ n = some s →
      n ∈ names ∧ s = .symbol n ∨ n ∉ names ∧ s.isComposite = true)
    {b : String} (hb : b ∈ names) {t : TargetType} {s : Shape} (ht : t.shape μ = some s) :
    t.Mentions b ↔ s.Shows b := by
  induction t generalizing s with
  | primitive | constrained =>
    cases ht
    exact ⟨nofun, nofun⟩
  | symbol n =>
    rw [mentions_symbol]
    obtain ⟨_, rfl⟩ | ⟨hn, hcomposite⟩ := hμ n s ht
    · exact Shape.shows_symbol.symm
    · have hne : b ≠ n := fun heq => hn (heq ▸ hb)
      exact iff_of_false hne (Shape.not_shows_of_isComposite hcomposite)
  | list t ih =>
    obtain ⟨u, hu, rfl⟩ := Option.map_eq_some_iff.mp ht
    rw [mentions_list, Shape.shows_list, ih hu]
  | option t ih =>
    obtain ⟨u, hu, rfl⟩ := Option.map_eq_some_iff.mp ht
    rw [mentions_option, Shape.shows_option, ih hu]
  | boxed t ih => rw [mentions_boxed, ih ht]
  | map k v ihk ihv =>
    simp only [shape, Option.pure_def, Option.bind_eq_bind, Option.bind_eq_some_iff,
      Option.some.injEq] at ht
    obtain ⟨k', hk, v', hv, rfl⟩ := ht
    rw [mentions_map, Shape.shows_map, ihk hk, ihv hv]
  | tuple ts ih =>
    rw [shape, shapes_eq] at ht
    obtain ⟨us, hus, rfl⟩ := Option.map_eq_some_iff.mp ht
    rw [mapM_eq_some_iff] at hus
    rw [mentions_tuple, Shape.shows_tuple]
    exact exists_iff_of_forall₂ hus fun t ht u hu => ih t ht hu

end Target

/-! ## References that stand in the open -/

/-- `u` stands in `t` where no declaration is made for a type around it. -/
inductive TypeExpr.Exposed (u : TypeExpr) : TypeExpr → Prop where
  | self : Exposed u u
  | element {element : TypeExpr} : Exposed u element → Exposed u (.array element)
  | key {key value : TypeExpr} : Exposed u key → Exposed u (.map key value)
  | value {key value : TypeExpr} : Exposed u value → Exposed u (.map key value)
  | item {items : List TypeExpr} {t : TypeExpr} :
      t ∈ items → Exposed u t → Exposed u (.tuple items)
  /-- Null beside a single item makes no union. -/
  | single {items : List TypeExpr} {t : TypeExpr} :
      TypeExpr.alternatives items = [t] → Exposed u t → Exposed u (.or items)

namespace TypeExpr

variable {b : String} {t : TypeExpr} {items : List TypeExpr}

theorem exposed_reference {name : String} : Exposed (.reference b) (.reference name) ↔ b = name := by
  constructor
  · intro h
    cases h
    rfl
  · rintro rfl
    exact .self

theorem exposed_array : Exposed (.reference b) (.array t) ↔ Exposed (.reference b) t := by
  constructor
  · intro h
    cases h
    assumption
  · exact .element

theorem exposed_map {key value : TypeExpr} : Exposed (.reference b) (.map key value) ↔
    Exposed (.reference b) key ∨ Exposed (.reference b) value := by
  constructor
  · intro h
    cases h with
    | key hk => exact .inl hk
    | value hv => exact .inr hv
  · rintro (hk | hv)
    · exact .key hk
    · exact .value hv

theorem exposed_tuple :
    Exposed (.reference b) (.tuple items) ↔ ∃ t ∈ items, Exposed (.reference b) t := by
  constructor
  · intro h
    cases h with
    | item ht h => exact ⟨_, ht, h⟩
  · rintro ⟨t, ht, h⟩
    exact .item ht h

theorem exposed_or : Exposed (.reference b) (.or items) ↔
    ∃ t, alternatives items = [t] ∧ Exposed (.reference b) t := by
  constructor
  · intro h
    cases h with
    | single halt h => exact ⟨_, halt, h⟩
  · rintro ⟨t, halt, h⟩
    exact .single halt h

theorem specForm_of_exposed (h : Exposed (.reference b) t) : t.specForm = .synonym := by
  cases h with
  | self | element | key | value | item => rfl
  | single halt _ => rw [specForm, unionForm, halt]

end TypeExpr

namespace MetaModel

variable {m : MetaModel} {documented : Bool}

/-- The meaning of a type shows the names that the type refers to in the open. -/
theorem Means.shows_iff {t : TypeExpr} {s : Shape} (h : m.Means documented t s) {b : String} :
    s.Shows b ↔ TypeExpr.Exposed (.reference b) t := by
  induction t using TypeExpr.induct generalizing s with
  | step t ih =>
    cases h with
    | base | stringLiteral | integerLiteral | booleanLiteral | and => exact ⟨nofun, nofun⟩
    | literal => exact ⟨nofun, nofun⟩
    | reference hname => rw [Shape.shows_symbol, TypeExpr.exposed_reference]
    | array hs =>
      rw [Shape.shows_list, TypeExpr.exposed_array, ih _ List.mem_cons_self hs]
    | map hk hv =>
      rw [Shape.shows_map, TypeExpr.exposed_map, ih _ List.mem_cons_self hk,
        ih _ (List.mem_cons_of_mem _ List.mem_cons_self) hv]
    | tuple hss =>
      rw [Shape.shows_tuple, TypeExpr.exposed_tuple]
      exact (exists_iff_of_forall₂ hss fun t ht s hs => (ih t ht hs).symm).symm
    | @or items s nullable _ hchoice =>
      rw [TypeExpr.besidesNull_eq] at hchoice
      rw [Shape.shows_optionalIf, TypeExpr.exposed_or]
      generalize halt : TypeExpr.alternatives items = ts at hchoice
      -- but for a single alternative nothing is shown and nothing stands in the open
      cases hchoice with
      | none => exact ⟨nofun, by simp⟩
      | literals _ => exact ⟨nofun, by simp⟩
      | variants _ _ => exact ⟨nofun, by simp⟩
      | @single t _ hmeans =>
        have hmem : t ∈ TypeExpr.alternatives items := halt ▸ List.mem_singleton_self t
        rw [ih t (List.mem_filter.mp hmem).1 hmeans]
        simp

/-! ## Synonyms of the output -/

variable {o : MappingOptions}

theorem translateSpec_of_synonym {name : String} {t : TypeExpr} (h : t.specForm = .synonym) :
    m.translateSpec documented name t = m.translate documented name t := by
  cases t with
  | or items =>
    rw [translateSpec]
    cases hform : TypeExpr.unionForm items with
    | variants =>
      rw [TypeExpr.specForm, hform] at h
      cases h
    | single | literals => rfl
  | _ => rfl

/-- The alias `a` refers to the alias `b` in the open, and neither makes a record or a union. -/
def AliasRefers (m : MetaModel) (a b : String) : Prop :=
  ∃ x y : TypeAlias, m.Indexes (.typeAlias x) ∧
    m.Indexes (.typeAlias y) ∧ x.name = a ∧ y.name = b ∧
    y.type.specForm = .synonym ∧ TypeExpr.Exposed (.reference b) x.type

namespace Generated

variable {ds : List Decl} {set : DeclSet} {ps : List (Declared × Shape)} {r : Registry}
  {dss : List (List Decl)}

/-- An alias that makes no record and no union becomes a synonym. Of the names of the model this
mentions those that the alias refers to in the open. -/
theorem exists_synonym (h : Generated m o ds set ps r dss) {x : TypeAlias}
    (hx : .typeAlias x ∈ m.primaries) (hform : x.type.specForm = .synonym) :
    ∃ d t, .type d ∈ ds ∧ d.ident = x.name ∧ d.spec = .synonym t ∧
      ∀ b ∈ m.names, t.Mentions b ↔ TypeExpr.Exposed (.reference b) x.type := by
  obtain ⟨d, s, hd, hs, hident, _, hspec, hshape⟩ := h.exists_type hx
  rw [Declared.form, hform] at hspec
  rw [translateDeclared, translateSpec_of_synonym hform, translate_eq_ok_iff] at hs
  cases ht : d.spec with
  | record | union | newtype => rw [ht] at hspec; cases hspec
  | synonym t =>
    rw [ht] at hshape
    refine ⟨d, t, hd, hident, ht, fun b hb => ?_⟩
    rw [TargetType.mentions_iff_shows (fun _ _ => h.meaning_cases) hb hshape, hs.shows_iff]

/-- All synonyms are those of aliases. -/
theorem exists_alias (h : Generated m o ds set ps r dss) {d : TypeDecl} (hd : .type d ∈ ds)
    {t : TargetType} (hspec : d.spec = .synonym t) :
    ∃ x, .typeAlias x ∈ m.primaries ∧ x.name = d.ident ∧ x.type.specForm = .synonym := by
  rcases h.type_cases hd with hname | ⟨u, hu, rfl⟩
  · obtain ⟨e, he, hident⟩ := List.mem_map.mp hname
    obtain ⟨d', _, hd', _, hident', _, hform, _⟩ := h.exists_type he
    obtain rfl := h.distinct.eq hd hd' (hident.symm.trans hident'.symm)
    rw [hspec] at hform
    cases e with
    | typeAlias x => exact ⟨x, he, hident, hform.symm⟩
    | struct | enumeration => cases hform
  · have hcomposite := h.collected.fits.wellFormed.composite u hu
    rw [← TypeDecl.isComposite_box (.ofDecls set.sorted), hspec] at hcomposite
    cases hcomposite

theorem synonymEdge_iff (h : Generated m o ds set ps r dss) {a b : String} :
    SynonymEdge (typeDecls ds) a b ↔ m.AliasRefers a b := by
  constructor
  · rintro ⟨d, hd, e, he, t, u, rfl, rfl, ht, hu, hmentions⟩
    obtain ⟨x, hx, hxname, hxform⟩ := h.exists_alias (mem_typeDecls.mp hd) ht
    obtain ⟨y, hy, hyname, hyform⟩ := h.exists_alias (mem_typeDecls.mp he) hu
    obtain ⟨d', t', hd', hident, ht', hiff⟩ := h.exists_synonym hx hxform
    obtain rfl := h.distinct.eq hd' (mem_typeDecls.mp hd) (hident.trans hxname)
    cases ht.symm.trans ht'
    have hname : e.ident ∈ m.names := List.mem_map.mpr ⟨_, hy, hyname⟩
    exact ⟨x, y, indexes_iff.mpr hx, indexes_iff.mpr hy, hxname, hyname, hyform,
      (hiff _ hname).mp hmentions⟩
  · rintro ⟨x, y, hx, hy, rfl, rfl, hyform, hexposed⟩
    rw [indexes_iff] at hx hy
    obtain ⟨d, t, hd, hdname, ht, hiff⟩ :=
      h.exists_synonym hx (TypeExpr.specForm_of_exposed hexposed)
    obtain ⟨e, u, he, hename, hu, _⟩ := h.exists_synonym hy hyform
    have hname : y.name ∈ m.names := List.mem_map.mpr ⟨_, hy, rfl⟩
    exact ⟨d, mem_typeDecls.mpr hd, e, mem_typeDecls.mpr he, t, u, hdname, hename, ht, hu,
      (hiff _ hname).mpr hexposed⟩

end Generated

/-- How the synonyms of the output lead to each other. -/
structure AliasGraph (m : MetaModel) (ds : List Decl) : Prop where
  /-- A synonym mentions another one exactly where its alias refers to the alias of that in the
  open. -/
  edge_iff : ∀ a b, SynonymEdge (typeDecls ds) a b ↔ m.AliasRefers a b
  /-- There is a circle of synonyms exactly where there is one of aliases. -/
  circle_iff : (∃ a, TransGen (SynonymEdge (typeDecls ds)) a a) ↔ ∃ a, TransGen m.AliasRefers a a
  /-- The synonyms in a type can be replaced by what they stand for, to the end, exactly when no
  circle of aliases can be reached from them. -/
  expands_iff : ∀ t, Expands (typeDecls ds) t ↔ ∀ a, t.Mentions a →
    ∀ b, ReflTransGen m.AliasRefers a b → ¬ TransGen m.AliasRefers b b

theorem targetDecls_aliasGraph {ds : List Decl} (h : m.targetDecls o = .ok ds) :
    AliasGraph m ds := by
  obtain ⟨set, ps, r, dss, hg⟩ := generated_of_targetDecls h
  have hedge : SynonymEdge (typeDecls ds) = m.AliasRefers :=
    funext fun a => funext fun b => propext hg.synonymEdge_iff
  refine ⟨fun a b => hg.synonymEdge_iff, ?circle, fun t => ?expands⟩
  case circle => rw [hedge]
  case expands => rw [expands_iff_no_circle hg.distinct, hedge]

/-- A value is a row or a text, a row is a list of values, and a table has names for its rows. -/
def tables : MetaModel where
  version := "1"
  requests := []
  notifications := []
  structures := []
  enumerations := []
  typeAliases := [
    ⟨"Row", .array (.or [.reference "Value", .base "null"]), {}⟩,
    ⟨"Table", .map (.base "string") (.tuple [.reference "Row"]), {}⟩,
    ⟨"Value", .or [.reference "Row", .base "string"], {}⟩]

def tablesDecls : List Decl := [
  .type ⟨"Row", {}, .synonym (.list (.option (.symbol "Value")))⟩,
  .type ⟨"Table", {}, .synonym (.map (.primitive .string) (.tuple [.symbol "Row"]))⟩,
  .type ⟨"Value", {}, .union [⟨"Row", some (.symbol "Row")⟩,
    ⟨"String", some (.primitive .string)⟩]⟩]

/-- The union of values keeps the aliases apart. -/
theorem tables_aliasGraph :
    tables.targetDecls {} = .ok tablesDecls ∧ AliasGraph tables tablesDecls := by
  have hdecls : tables.targetDecls {} = .ok tablesDecls :=
    targetDecls_of_collect (by decide +kernel)
  exact ⟨hdecls, targetDecls_aliasGraph hdecls⟩

/-! ## Aliases in a circle -/

/-- A tree is a list of trees. -/
def trees : MetaModel where
  version := "1"
  requests := []
  notifications := []
  structures := []
  enumerations := []
  typeAliases := [⟨"Tree", .array (.reference "Tree"), {}⟩]

def treesDecls : List Decl :=
  [.type ⟨"Tree", {}, .synonym (.list (.symbol "Tree"))⟩]

/-- An alias may refer to itself; there is no end then to what it stands for. -/
theorem alias_circle :
    trees.targetDecls {} = .ok treesDecls ∧
      TransGen (SynonymEdge (typeDecls treesDecls)) "Tree" "Tree" ∧
      ¬ Expands (typeDecls treesDecls) (.symbol "Tree") := by
  have hedge : SynonymEdge (typeDecls treesDecls) "Tree" "Tree" :=
    ⟨_, List.mem_singleton_self _, _, List.mem_singleton_self _, _, _, rfl, rfl, rfl, rfl,
      .list .symbol⟩
  refine ⟨targetDecls_of_collect (by decide +kernel), .single hedge, fun h => ?_⟩
  exact (expands_iff_no_circle (by decide)).mp h "Tree" .symbol "Tree" .refl (.single hedge)

end MetaModel
end ProtocolTypes
