import ProtocolTypes.Proofs.Mapping.Congruence
import ProtocolTypes.Proofs.Model.Lineage

/-!
# ProtocolTypes.Proofs.Mapping.Shadowing

Declarations that a later one of their name shadows. Each name has one declaration that is not
shadowed, and without the shadowed ones a model gives the same source, or the same error
(`generate_unshadowed`). Names stand for the same in both models (`find?_unshadowed`). The bound on
chains is another one, but no chain is as long as either (`flattenFrom_stable`).
-/

namespace ProtocolTypes

open Target

namespace Declared

/-! ## The last declaration of each name -/

theorem primaries_sublist (ds : List Declared) : (primaries ds).Sublist ds := by
  induction ds with
  | nil => exact .slnil
  | cons d ds ih =>
    rw [primaries]
    split
    · exact ih.cons d
    · exact ih.cons_cons d

theorem last?_primaries (name : String) (ds : List Declared) :
    last? name (primaries ds) = last? name ds := by
  induction ds with
  | nil => rfl
  | cons d ds ih =>
    rw [primaries, last?]
    split
    · -- a later declaration of the name of `d` is found before `d`
      rename_i hshadowed
      rw [ih]
      by_cases hname : d.name = name
      · have hlast : last? name ds ≠ none := by
          rw [← hname]
          exact fun hnone => by simp [isShadowedBy_eq_false.mpr hnone] at hshadowed
        obtain ⟨e, he⟩ := Option.ne_none_iff_exists'.mp hlast
        rw [he, Option.some_or]
      · rw [if_neg hname, Option.or_none]
    · rw [last?, ih]

/-- A flag is set where no declaration behind has the name. -/
theorem getElem?_primaryFlags (ds : List Declared) (i : Nat) :
    (primaryFlags ds)[i]? = ds[i]?.map fun d => !d.isShadowedBy (ds.drop (i + 1)) := by
  induction ds generalizing i with
  | nil => rfl
  | cons d ds ih =>
    cases i with
    | zero => rfl
    | succ i => exact ih i

theorem primary_iff {ds : List Declared} {d : Declared} {i : Nat} (hd : ds[i]? = some d) :
    (primaryFlags ds)[i]? = some true ↔ ∀ j e, i < j → ds[j]? = some e → e.name ≠ d.name := by
  rw [getElem?_primaryFlags, hd, Option.map_some, Option.some_inj, Bool.not_eq_true',
    isShadowedBy_eq_false, last?_eq_none]
  constructor
  · intro h j e hij he
    refine h e (List.mem_of_getElem? (i := j - (i + 1)) ?_)
    rw [List.getElem?_drop, Nat.add_sub_cancel' hij, he]
  · intro h e he
    obtain ⟨k, hk⟩ := List.getElem?_of_mem he
    rw [List.getElem?_drop] at hk
    exact h (i + 1 + k) e (by omega) hk

/-- Among the declarations of one name exactly one is primary. -/
theorem existsUnique_primary {ds : List Declared} {d : Declared} (hd : d ∈ ds) :
    ∃! i : Nat, ∃ e, ds[i]? = some e ∧ e.name = d.name ∧
      (primaryFlags ds)[i]? = some true := by
  obtain ⟨e, ⟨earlier, later, hds, hlater⟩, hname⟩ := exists_isLast hd
  have he : ds[earlier.length]? = some e := by simp [hds]
  have hprimary : (primaryFlags ds)[earlier.length]? = some true := by
    rw [primary_iff he]
    intro j c hlt hc
    refine hlater c (List.mem_of_getElem? (i := j - (earlier.length + 1)) ?_)
    rw [hds, List.getElem?_append_right hlt.le, List.getElem?_cons] at hc
    rwa [if_neg (by omega), Nat.sub_sub] at hc
  refine ⟨earlier.length, ⟨e, he, hname, hprimary⟩, ?_⟩
  rintro i ⟨c, hc, hcname, hc'⟩
  rw [primary_iff he] at hprimary
  rw [primary_iff hc] at hc'
  rcases Nat.lt_trichotomy i earlier.length with hlt | heq | hgt
  · exact absurd (hname.trans hcname.symm) (hc' _ e hlt he)
  · exact heq
  · exact absurd (hcname.trans hname.symm) (hprimary _ c hgt hc)

end Declared

namespace MetaModel

/-- Only the declarations that no later one shadows. -/
def unshadowed (m : MetaModel) : MetaModel :=
  { m with
    structures := m.primaries.filterMap Declared.structure?
    enumerations := m.primaries.filterMap Declared.enumeration?
    typeAliases := m.primaries.filterMap Declared.typeAlias? }

variable (m : MetaModel)

theorem declarations_unshadowed : m.unshadowed.declarations = m.primaries := by
  obtain ⟨front, as, hprimaries, hfront, has⟩ :=
    List.sublist_append_iff.mp (Declared.primaries_sublist m.declarations)
  obtain ⟨ss, es, rfl, hss, hes⟩ := List.sublist_append_iff.mp hfront
  obtain ⟨structures, _, rfl⟩ := List.sublist_map_iff.mp hss
  obtain ⟨enumerations, _, rfl⟩ := List.sublist_map_iff.mp hes
  obtain ⟨typeAliases, _, rfl⟩ := List.sublist_map_iff.mp has
  rw [declarations, unshadowed, primaries, hprimaries]
  simp [List.filterMap_append, List.filterMap_map, Function.comp_def, Declared.structure?,
    Declared.enumeration?, Declared.typeAlias?]

theorem find?_unshadowed (name : String) : m.unshadowed.find? name = m.find? name := by
  rw [find?, declarations_unshadowed, primaries, Declared.last?_primaries, find?]

theorem primaries_unshadowed : m.unshadowed.primaries = m.primaries := by
  rw [primaries, declarations_unshadowed]
  exact Declared.primaries_of_nodup m.nodup_names

theorem names_unshadowed : m.unshadowed.names = m.names := by
  rw [names, names, primaries_unshadowed]

/-! ## Chains -/

variable {m} {s : Structure}

/-- More fuel than there are structures left for a chain changes nothing. -/
theorem flattenFrom_stable {fuel fuel' : Nat} {chain : List String}
    (hs : m.find? s.name = some (.struct s)) (hchain : m.LeadsTo chain s)
    (hfuel : m.structures.length < fuel + chain.length) (hle : fuel ≤ fuel') :
    m.flattenFrom fuel chain s = m.flattenFrom fuel' chain s :=
  (flattens_flattenFrom hs hchain hfuel).unique (flattens_flattenFrom hs hchain (by omega))

theorem length_structures_unshadowed (m : MetaModel) :
    m.unshadowed.structures.length ≤ m.structures.length := by
  have hsub : m.unshadowed.structures.Sublist (m.declarations.filterMap Declared.structure?) :=
    (Declared.primaries_sublist m.declarations).filterMap _
  have hstructures : m.declarations.filterMap Declared.structure? = m.structures := by
    simp [declarations, List.filterMap_append, List.filterMap_map, Function.comp_def,
      Declared.structure?]
  exact hstructures ▸ hsub.length_le

theorem recordParts_unshadowed (hs : m.find? s.name = some (.struct s)) (flattenBases : Bool) :
    m.unshadowed.recordParts flattenBases s = m.recordParts flattenBases s := by
  have hfind := m.find?_unshadowed
  have hs' : m.unshadowed.find? s.name = some (.struct s) := (hfind _).trans hs
  have hstable : ∀ {chain p}, m.unshadowed.find? p.name = some (.struct p) →
      m.unshadowed.LeadsTo chain p →
      m.unshadowed.flattenFrom m.unshadowed.chainBound chain p =
        m.flattenFrom m.chainBound chain p := by
    intro chain p hp hchain
    have hle := length_structures_unshadowed m
    rw [← flattenFrom_eq_of_find? hfind]
    refine flattenFrom_stable hp hchain ?_ ?_ <;> rw [chainBound]
    · omega
    · rw [chainBound]
      omega
  have hall : m.unshadowed.flatten s = m.flatten s := hstable hs' (.nil _ s)
  have hmixins : m.unshadowed.flattenMixins s = m.flattenMixins s := by
    rw [flattenMixins, flattenMixins]
    refine congrArg (List.flatten <$> ·) ?_
    rw [← visitParents_eq_of_find? hfind]
    refine visitParents_congr fun p hp => hstable (find?_of_inherits hp) ?_
    exact LeadsTo.snoc (.nil _ s) hs' List.not_mem_nil hp
  have hbases : m.unshadowed.baseNames s = m.baseNames s := by
    rw [baseNames, baseNames, visitParents_eq_of_find? hfind]
  rw [recordParts, recordParts, hall, hmixins, hbases]

/-! ## Source -/

/-- Without shadowed declarations the source, or the error, is the same, and in a model each
declared name has exactly one declaration that is not shadowed. -/
theorem generate_unshadowed (m : MetaModel) (o : Options) :
    m.unshadowed.generate o = m.generate o ∧
      ∀ d ∈ m.declarations, ∃! i : Nat, ∃ e, m.declarations[i]? = some e ∧ e.name = d.name ∧
        (Declared.primaryFlags m.declarations)[i]? = some true := by
  refine ⟨?_, fun d hd => Declared.existsUnique_primary hd⟩
  have hdeclared : ∀ d ∈ m.primaries,
      m.unshadowed.mapDeclared o.toMappingOptions d = m.mapDeclared o.toMappingOptions d := by
    intro d hd
    have hsame := mapDeclared_congr (f := id) (symbol_eq_of_find? m.find?_unshadowed)
      (fun _ => rfl) (d := d) (o := o.toMappingOptions) ?_
    · rwa [Declared.mapAnnotations_id] at hsame
    · rintro s rfl
      rw [Structure.mapAnnotations_id, recordParts_unshadowed (mem_primaries.mp hd),
        funext OwnedProperty.mapAnnotations_id, List.map_id_fun', Prod.map_id, id_map]
  have hprimaries : m.unshadowed.mapPrimaries o.toMappingOptions =
      m.mapPrimaries o.toMappingOptions := by
    rw [mapPrimaries, mapPrimaries, primaries_unshadowed, mapM_congr_mem hdeclared]
  rw [generate, generate, targetDecls, targetDecls, collect, collect, hprimaries,
    names_unshadowed]
  rfl

/-- The name of a structure that refers to nothing is taken by an alias. -/
def renewed : MetaModel where
  version := "1"
  requests := []
  notifications := []
  structures := [⟨"Item", [⟨"label", .reference "Missing", false, {}⟩], [.base "string"], [], {}⟩,
    ⟨"List", [⟨"items", .array (.reference "Item"), false, {}⟩], [], [], {}⟩]
  enumerations := []
  typeAliases := [⟨"Item", .base "string", {}⟩]

/-- The structure of that name is left out and has no effect; the alias is the primary one. -/
theorem generate_renewed :
    renewed.unshadowed.structures.map (·.name) = ["List"] ∧
      renewed.unshadowed.generate {} = renewed.generate {} ∧
      ∃! i : Nat, ∃ e, renewed.declarations[i]? = some e ∧ e.name = "Item" ∧
        (Declared.primaryFlags renewed.declarations)[i]? = some true := by
  obtain ⟨hgenerate, hunique⟩ := generate_unshadowed renewed {}
  exact ⟨rfl, hgenerate, hunique _ List.mem_cons_self⟩

end MetaModel
end ProtocolTypes
