import ProtocolTypes.Proofs.Target.Shape
import ProtocolTypes.Proofs.Text.Numbering

/-!
# ProtocolTypes.Proofs.Target.Members

Telling the members of a record apart. The names get distinct (`nodup_distinctNames`), and each is
one that was there or a numbered form of it (`exists_of_mem_distinctNames`). Renaming keeps the
number of members, their types and all else about them, so it shows in a shape as new names of its
fields only.
-/

namespace ProtocolTypes
namespace Target

/-! ## Distinct names -/

theorem numbered_injective (name : String) : Function.Injective (numbered name) := by
  intro m n h
  rw [numbered, numbered, String.append_right_inj] at h
  exact Text.repr_injective h

/-- With enough fuel for one numbered form to be free, the search finds the first that is. -/
theorem firstFree_spec {taken : List String} {name : String} (fuel n : Nat)
    (h : ∃ k, n ≤ k ∧ k ≤ n + fuel ∧ numbered name k ∉ taken) :
    ∃ k, n ≤ k ∧ firstFree taken name fuel n = numbered name k ∧ numbered name k ∉ taken ∧
      ∀ j, n ≤ j → j < k → numbered name j ∈ taken := by
  induction fuel generalizing n with
  | zero =>
    obtain ⟨k, hnk, hkn, hk⟩ := h
    obtain rfl : k = n := by omega
    exact ⟨k, hnk, rfl, hk, fun j hj hjk => absurd hjk (by omega)⟩
  | succ fuel ih =>
    rw [firstFree]
    by_cases hn : numbered name n ∈ taken
    · rw [if_pos (List.contains_iff_mem.mpr hn)]
      obtain ⟨k, hnk, hkn, hk⟩ := h
      have hne : k ≠ n := by
        rintro rfl
        exact hk hn
      obtain ⟨k, hle, heq, hfree, hbefore⟩ := ih (n + 1) ⟨k, by omega, by omega, hk⟩
      refine ⟨k, by omega, heq, hfree, fun j hj hjk => ?_⟩
      by_cases hjn : j = n
      · rw [hjn]
        exact hn
      · exact hbefore j (by omega) hjk
    · rw [if_neg (mt List.contains_iff_mem.mp hn)]
      exact ⟨n, Nat.le_refl n, rfl, hn, fun j hj hjn => absurd hjn (by omega)⟩

/-- The name with the least number, from two on, that makes it new. -/
def IsLeastNumbered (taken : List String) (name new : String) : Prop :=
  ∃ k : Nat, 2 ≤ k ∧ new = name ++ "_" ++ toString k ∧ new ∉ taken ∧
    ∀ j : Nat, 2 ≤ j → j < k → name ++ "_" ++ toString j ∈ taken

theorem freshName_of_not_mem {taken : List String} {name : String} (h : name ∉ taken) :
    freshName taken name = name := by
  rw [freshName, if_neg (mt List.contains_iff_mem.mp h)]

theorem freshName_of_mem {taken : List String} {name : String} (h : name ∈ taken) :
    IsLeastNumbered taken name (freshName taken name) := by
  have hinj : Function.Injective fun k => numbered name (2 + k) := fun j k hjk => by
    have := numbered_injective name hjk
    omega
  obtain ⟨k, hk, hfree⟩ := Text.exists_not_mem_of_injective hinj taken
  obtain ⟨k, hle, heq, hfree, hbefore⟩ :=
    firstFree_spec taken.length 2 ⟨2 + k, by omega, by omega, hfree⟩
  rw [freshName, if_pos (List.contains_iff_mem.mpr h), heq]
  exact ⟨k, hle, rfl, hfree, hbefore⟩

/-- A name stays as it is or is numbered, and is free then. -/
theorem freshName_spec (taken : List String) (name : String) :
    (freshName taken name = name ∨ ∃ k, freshName taken name = numbered name k) ∧
      freshName taken name ∉ taken := by
  by_cases h : name ∈ taken
  · obtain ⟨k, _, heq, hfree, _⟩ := freshName_of_mem h
    exact ⟨.inr ⟨k, heq⟩, hfree⟩
  · rw [freshName_of_not_mem h]
    exact ⟨.inl rfl, h⟩

theorem nodup_distinctNames (taken names : List String) :
    (distinctNames taken names).Nodup ∧ ∀ name ∈ distinctNames taken names, name ∉ taken := by
  induction names generalizing taken with
  | nil => exact ⟨.nil, fun _ h => absurd h List.not_mem_nil⟩
  | cons name names ih =>
    obtain ⟨hnodup, hfresh⟩ := ih (freshName taken name :: taken)
    rw [distinctNames]
    refine ⟨List.nodup_cons.mpr ⟨fun hmem => hfresh _ hmem List.mem_cons_self, hnodup⟩, ?_⟩
    refine List.forall_mem_cons.mpr ⟨(freshName_spec taken name).2, fun n hn htaken => ?_⟩
    exact hfresh n hn (List.mem_cons_of_mem _ htaken)

theorem exists_of_mem_distinctNames {taken names : List String} {n : String}
    (h : n ∈ distinctNames taken names) : ∃ name ∈ names, n = name ∨ ∃ k, n = numbered name k := by
  induction names generalizing taken with
  | nil => cases h
  | cons name names ih =>
    rw [distinctNames] at h
    rcases List.mem_cons.mp h with rfl | h
    · exact ⟨name, List.mem_cons_self, (freshName_spec taken name).1⟩
    · obtain ⟨name', hmem, hn⟩ := ih h
      exact ⟨name', List.mem_cons_of_mem _ hmem, hn⟩

/-! ## Renamed members -/

theorem length_distinctNames (taken names : List String) :
    (distinctNames taken names).length = names.length := by
  induction names generalizing taken with
  | nil => rfl
  | cons name names ih => rw [distinctNames, List.length_cons, List.length_cons, ih]

/-- The fields under other names. -/
def FieldShape.named (names : List String) (fs : List FieldShape) : List FieldShape :=
  (fs.zip names).map fun (f, name) => { f with ident := name }

theorem Field.map_ident {μ : Meaning} {fields : List Field} {fs : List FieldShape}
    (h : fields.mapM (Field.shape μ) = some fs) : fs.map (·.ident) = fields.map (·.ident) := by
  rw [mapM_eq_some_iff] at h
  induction h with
  | nil => rfl
  | cons hf _ ih =>
    obtain ⟨_, _, rfl⟩ := Option.map_eq_some_iff.mp hf
    rw [List.map_cons, List.map_cons, ih]

theorem Field.mapM_shape_named {μ : Meaning} {fields : List Field} {fs : List FieldShape}
    (h : fields.mapM (Field.shape μ) = some fs) (names : List String) :
    ((fields.zip names).map fun (f, name) => { f with ident := name }).mapM (Field.shape μ) =
      some (FieldShape.named names fs) := by
  rw [mapM_eq_some_iff] at h ⊢
  induction h generalizing names with
  | nil => exact .nil
  | cons hf _ ih =>
    cases names with
    | nil => exact .nil
    | cons name names =>
      refine .cons ?_ (ih names)
      obtain ⟨s, hs, rfl⟩ := Option.map_eq_some_iff.mp hf
      exact Option.map_eq_some_iff.mpr ⟨s, hs, rfl⟩

namespace Members

variable {m : Members}

theorem types_bases_distinct (m : Members) :
    m.distinct.bases.map (·.type) = m.bases.map (·.type) := by
  have hlen : m.bases.length ≤ (distinctNames [] m.names).length := by
    rw [length_distinctNames, names, List.length_append, List.length_map]
    exact Nat.le_add_right _ _
  rw [distinct, withNames, List.map_map]
  have hfst : m.bases = (m.bases.zip (distinctNames [] m.names)).map Prod.fst :=
    (List.map_fst_zip hlen).symm
  conv => rhs; rw [hfst, List.map_map]
  rfl

theorem forall₂_named {α : Type} {R : α → Field → Prop}
    (hR : ∀ x f name, R x f → R x { f with ident := name }) {xs : List α} {fields : List Field}
    (h : List.Forall₂ R xs fields) {names : List String} (hle : fields.length ≤ names.length) :
    List.Forall₂ R xs ((fields.zip names).map fun (f, name) => { f with ident := name }) := by
  induction h generalizing names with
  | nil => exact .nil
  | cons hf _ ih =>
    cases names with
    | nil => cases hle
    | cons name names => exact .cons (hR _ _ name hf) (ih (Nat.le_of_succ_le_succ hle))

/-- What holds of fields under any name holds of them under distinct names. -/
theorem forall₂_fields_distinct {α : Type} {R : α → Field → Prop}
    (hR : ∀ x f name, R x f → R x { f with ident := name }) {xs : List α}
    (h : List.Forall₂ R xs m.fields) : List.Forall₂ R xs m.distinct.fields := by
  refine forall₂_named hR h (Nat.le_of_eq ?_)
  rw [List.length_drop, length_distinctNames, names, List.length_append, List.length_map,
    List.length_map, Nat.add_sub_cancel_left]

theorem types_fields_distinct (m : Members) :
    m.distinct.fields.map (·.type) = m.fields.map (·.type) := by
  have hself : List.Forall₂ (fun g f : Field => g.type = f.type) m.fields m.fields :=
    List.forall₂_same.mpr fun _ _ => rfl
  exact (map_eq_map_of_forall₂ (forall₂_fields_distinct (fun _ _ _ h => h) hself)
    fun _ _ h => h).symm

/-- Fields keep their types. -/
theorem exists_of_mem_fields_distinct {f : Field} (hf : f ∈ m.distinct.fields) :
    ∃ g ∈ m.fields, f.type = g.type := by
  have hself : List.Forall₂ (fun g f : Field => f.type = g.type) m.fields m.fields :=
    List.forall₂_same.mpr fun _ _ => rfl
  exact exists_of_forall₂_right (forall₂_fields_distinct (fun _ _ _ h => h) hself) hf

/-- The names of the members after they were told apart. -/
theorem names_distinct (m : Members) : m.distinct.names = distinctNames [] m.names := by
  have hlen : (distinctNames [] m.names).length = m.bases.length + m.fields.length := by
    rw [length_distinctNames, names, List.length_append, List.length_map, List.length_map]
  rw [names, distinct, withNames, List.map_map, List.map_map]
  generalize distinctNames [] m.names = ns at hlen ⊢
  have hbases : (m.bases.zip ns).map Prod.snd = ns.take m.bases.length := by
    rw [List.zip_eq_zip_take_min, Nat.min_eq_left (by omega), List.take_length, List.map_snd_zip]
    rw [List.length_take]
    exact Nat.min_le_left _ _
  have hfields : (m.fields.zip (ns.drop m.bases.length)).map Prod.snd = ns.drop m.bases.length := by
    rw [List.map_snd_zip]
    rw [List.length_drop]
    omega
  conv => rhs; rw [← List.take_append_drop m.bases.length ns, ← hbases, ← hfields]
  rfl

/-- The names of the fields that stand behind bases. -/
def fieldNames (bases fields : List String) : List String :=
  (distinctNames [] (bases ++ fields)).drop bases.length

theorem length_fieldNames (bases fields : List String) :
    (fieldNames bases fields).length = fields.length := by
  rw [fieldNames, List.length_drop, length_distinctNames, List.length_append,
    Nat.add_sub_cancel_left]

theorem mapM_shape_fields_distinct {μ : Meaning} {fs : List FieldShape}
    (h : m.fields.mapM (Field.shape μ) = some fs) :
    m.distinct.fields.mapM (Field.shape μ) =
      some (FieldShape.named (fieldNames (m.bases.map (·.ident)) (fs.map (·.ident))) fs) := by
  rw [Field.map_ident h, fieldNames, List.length_map]
  exact Field.mapM_shape_named h _

end Members
end Target
end ProtocolTypes
