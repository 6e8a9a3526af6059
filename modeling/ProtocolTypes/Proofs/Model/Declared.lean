import Mathlib.Data.List.Nodup
import ProtocolTypes.Model.Inheritance

/-!
# ProtocolTypes.Proofs.Model.Declared

The declarations that names stand for: each declared name has exactly one, the last of the name
(`mem_primaries`, `nodup_names`, `mem_names`).
-/

namespace ProtocolTypes

namespace Declared

/-! ## Kinds of declarations -/

/-- The structure that a name is declared as, if it is one. -/
def structure? : Declared → Option Structure
  | .struct s => some s
  | .enumeration _ | .typeAlias _ => none

/-- The enumeration that a name is declared as, if it is one. -/
def enumeration? : Declared → Option Enumeration
  | .enumeration e => some e
  | .struct _ | .typeAlias _ => none

/-- The alias that a name is declared as, if it is one. -/
def typeAlias? : Declared → Option TypeAlias
  | .typeAlias a => some a
  | .struct _ | .enumeration _ => none

/-! ## The last declaration of a name -/

theorem last?_eq_none {name : String} {ds : List Declared} :
    last? name ds = none ↔ ∀ d ∈ ds, d.name ≠ name := by
  induction ds with
  | nil => simp [last?]
  | cons d ds ih => simp [last?, ih, and_comm]

theorem last?_eq_some {name : String} {ds : List Declared} {d : Declared}
    (h : last? name ds = some d) : d ∈ ds ∧ d.name = name := by
  induction ds with
  | nil => cases h
  | cons e ds ih =>
    rw [last?] at h
    cases hlast : last? name ds with
    | some f =>
      rw [hlast, Option.some_or] at h
      obtain ⟨hmem, hname⟩ := ih (hlast.trans h)
      exact ⟨List.mem_cons_of_mem _ hmem, hname⟩
    | none =>
      rw [hlast, Option.none_or] at h
      split at h
      · cases h
        exact ⟨List.mem_cons_self, ‹_›⟩
      · cases h

theorem isShadowedBy_eq_false {d : Declared} {later : List Declared} :
    d.isShadowedBy later = false ↔ last? d.name later = none := by
  simp [isShadowedBy, last?_eq_none]

theorem last?_cons_eq_some {d e : Declared} {ds : List Declared} :
    last? d.name (e :: ds) = some d ↔
      last? d.name ds = some d ∨ e = d ∧ last? d.name ds = none := by
  rw [last?]
  cases last? d.name ds with
  | some f => simp
  | none =>
    rw [Option.none_or]
    constructor
    · intro h
      split at h
      · cases h
        exact .inr ⟨rfl, rfl⟩
      · cases h
    · rintro (h | ⟨rfl, _⟩)
      · cases h
      · exact if_pos rfl

/-- The primary declarations are the last ones of their names. -/
theorem mem_primaries {d : Declared} {ds : List Declared} :
    d ∈ primaries ds ↔ last? d.name ds = some d := by
  induction ds with
  | nil => simp [primaries, last?]
  | cons e ds ih =>
    rw [primaries, last?_cons_eq_some]
    by_cases hshadow : e.isShadowedBy ds = true
    · rw [if_pos hshadow, ih]
      refine ⟨.inl, fun h => h.resolve_right ?_⟩
      rintro ⟨rfl, hnone⟩
      rw [isShadowedBy_eq_false.mpr hnone] at hshadow
      cases hshadow
    · rw [if_neg hshadow, List.mem_cons, ih]
      have hnone : last? e.name ds = none := isShadowedBy_eq_false.mp (by simpa using hshadow)
      constructor
      · rintro (rfl | h)
        · exact .inr ⟨rfl, hnone⟩
        · exact .inl h
      · rintro (h | ⟨rfl, _⟩)
        · exact .inr h
        · exact .inl rfl

/-- The declaration stands in the list, and none of its name stands behind it. -/
def IsLast (d : Declared) (ds : List Declared) : Prop :=
  ∃ earlier later, ds = earlier ++ d :: later ∧ ∀ e ∈ later, e.name ≠ d.name

theorem last?_eq_some_iff {d : Declared} {ds : List Declared} :
    last? d.name ds = some d ↔ d.IsLast ds := by
  induction ds with
  | nil => simp [last?, IsLast]
  | cons e ds ih =>
    rw [last?_cons_eq_some, ih, last?_eq_none]
    constructor
    · rintro (⟨earlier, later, rfl, hlater⟩ | ⟨rfl, hlater⟩)
      · exact ⟨e :: earlier, later, rfl, hlater⟩
      · exact ⟨[], ds, rfl, hlater⟩
    · rintro ⟨earlier, later, heq, hlater⟩
      cases earlier with
      | nil =>
        cases heq
        exact .inr ⟨rfl, hlater⟩
      | cons x xs =>
        cases heq
        exact .inl ⟨xs, later, rfl, hlater⟩

theorem exists_isLast {d : Declared} {ds : List Declared} (h : d ∈ ds) :
    ∃ e : Declared, e.IsLast ds ∧ e.name = d.name := by
  cases hlast : last? d.name ds with
  | none => exact absurd rfl (last?_eq_none.mp hlast d h)
  | some e =>
    obtain ⟨_, hname⟩ := last?_eq_some hlast
    exact ⟨e, last?_eq_some_iff.mp (hname ▸ hlast), hname⟩

theorem nodup_primaries (ds : List Declared) : ((primaries ds).map name).Nodup := by
  induction ds with
  | nil => exact List.nodup_nil
  | cons e ds ih =>
    rw [primaries]
    split
    · exact ih
    · rename_i hshadow
      have hnone : last? e.name ds = none := isShadowedBy_eq_false.mp (by simpa using hshadow)
      rw [List.map_cons, List.nodup_cons]
      refine ⟨fun hmem => ?_, ih⟩
      obtain ⟨d, hd, hname⟩ := List.mem_map.mp hmem
      exact last?_eq_none.mp hnone d (last?_eq_some (mem_primaries.mp hd)).1 hname

/-- Where no name is declared twice nothing is shadowed. -/
theorem primaries_of_nodup {ds : List Declared} (h : (ds.map name).Nodup) : primaries ds = ds := by
  induction ds with
  | nil => rfl
  | cons d ds ih =>
    rw [List.map_cons, List.nodup_cons] at h
    have hshadow : d.isShadowedBy ds = false := by
      rw [isShadowedBy_eq_false, last?_eq_none]
      exact fun e he hname => h.1 (hname ▸ List.mem_map_of_mem he)
    rw [primaries, hshadow, ih h.2]
    rfl

end Declared

namespace MetaModel

variable {m : MetaModel}

theorem find?_name {name : String} {d : Declared} (h : m.find? name = some d) : d.name = name :=
  (Declared.last?_eq_some h).2

theorem mem_primaries {d : Declared} : d ∈ m.primaries ↔ m.find? d.name = some d :=
  Declared.mem_primaries

/-- The name of `d` stands for `d`: of the structures, the enumerations and the aliases, in this
order, `d` is the last one of its name. -/
def Indexes (m : MetaModel) (d : Declared) : Prop :=
  d.IsLast (m.structures.map .struct ++ m.enumerations.map .enumeration ++
    m.typeAliases.map .typeAlias)

theorem indexes_iff {d : Declared} : m.Indexes d ↔ d ∈ m.primaries :=
  Declared.last?_eq_some_iff.symm.trans Declared.mem_primaries.symm

theorem mem_primaries_of_find? {name : String} {d : Declared} (h : m.find? name = some d) :
    d ∈ m.primaries := by
  rw [mem_primaries, find?_name h, h]

theorem nodup_names (m : MetaModel) : m.names.Nodup :=
  Declared.nodup_primaries _

theorem mem_names {name : String} : name ∈ m.names ↔ ∃ d, m.find? name = some d := by
  rw [names, List.mem_map]
  constructor
  · rintro ⟨d, hd, rfl⟩
    exact ⟨d, mem_primaries.mp hd⟩
  · rintro ⟨d, hd⟩
    exact ⟨d, mem_primaries_of_find? hd, find?_name hd⟩

/-- A name is known when it is declared anywhere. -/
theorem exists_find?_iff {name : String} :
    (∃ d, m.find? name = some d) ↔ ∃ d ∈ m.declarations, d.name = name := by
  constructor
  · rintro ⟨d, hd⟩
    exact ⟨d, Declared.last?_eq_some hd⟩
  · rintro ⟨d, hd, hname⟩
    cases hfind : m.find? name with
    | some e => exact ⟨e, rfl⟩
    | none => exact absurd hname (Declared.last?_eq_none.mp hfind d hd)

theorem mem_names_iff_declared {name : String} :
    name ∈ m.names ↔ ∃ d ∈ m.declarations, d.name = name :=
  mem_names.trans exists_find?_iff

theorem mem_names_iff_indexed {name : String} :
    name ∈ m.names ↔ ∃ d, m.Indexes d ∧ d.name = name := by
  simp only [names, List.mem_map, indexes_iff]

theorem resolve_eq_ok {name context : String} {d : Declared} :
    m.resolve name context = .ok d ↔ m.find? name = some d := by
  rw [resolve]
  split <;> rename_i h <;> simp [h]

end MetaModel
end ProtocolTypes
