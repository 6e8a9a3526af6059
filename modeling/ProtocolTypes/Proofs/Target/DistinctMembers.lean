import ProtocolTypes.Proofs.Target.Members

/-!
# ProtocolTypes.Proofs.Target.DistinctMembers

What telling members apart does to each of them. A member that has the name of an earlier one, under
the name that this one has by then, gets the least number that makes its own name new, and all others
keep theirs (`renames_distinctNames`). A second time nothing is left to change
(`distinctNames_of_nodup`). `distinct_law` says this of the members of a record.
-/

namespace ProtocolTypes
namespace Target

/-! ## Names -/

/-- What becomes of a name behind names that are in use. -/
structure Renames (before : List String) (old new : String) : Prop where
  kept_or_numbered : new = old ∨ IsLeastNumbered before old new
  ne_iff : new ≠ old ↔ old ∈ before

theorem renames_freshName (taken : List String) (name : String) :
    Renames taken name (freshName taken name) := by
  by_cases h : name ∈ taken
  · have hleast := freshName_of_mem h
    refine ⟨.inr hleast, fun _ => h, fun _ heq => ?_⟩
    obtain ⟨_, _, _, hfree, _⟩ := hleast
    exact hfree (heq.symm ▸ h)
  · rw [freshName_of_not_mem h]
    exact ⟨.inl rfl, fun hne => absurd rfl hne, fun hmem => absurd hmem h⟩

/-- Which names are in use matters, not their order. -/
theorem Renames.congr {before before' : List String} {old new : String}
    (hmem : ∀ n, n ∈ before ↔ n ∈ before') (h : Renames before old new) :
    Renames before' old new := by
  refine ⟨h.kept_or_numbered.imp id ?_, h.ne_iff.trans (hmem old)⟩
  rintro ⟨k, hk, heq, hfree, hbefore⟩
  exact ⟨k, hk, heq, mt (hmem new).mpr hfree, fun j hj hjk => (hmem _).mp (hbefore j hj hjk)⟩

/-- By induction on the names: those that the rest finds in use are the ones taken before and the
ones given since. -/
theorem renames_distinctNames {taken names : List String} {i : Nat} {old : String}
    (h : names[i]? = some old) :
    ∃ new, (distinctNames taken names)[i]? = some new ∧
      Renames (taken ++ (distinctNames taken names).take i) old new := by
  induction names generalizing taken i with
  | nil => cases h
  | cons name names ih =>
    rw [distinctNames]
    cases i with
    | zero =>
      obtain rfl : name = old := Option.some.inj h
      refine ⟨freshName taken name, rfl, ?_⟩
      rw [List.take_zero, List.append_nil]
      exact renames_freshName taken name
    | succ i =>
      obtain ⟨new, hnew, hrenames⟩ := @ih (freshName taken name :: taken) i h
      refine ⟨new, hnew, hrenames.congr fun n => ?_⟩
      rw [List.take_succ_cons]
      simp only [List.mem_append, List.mem_cons]
      exact or_assoc.trans or_left_comm

theorem distinctNames_of_nodup {taken names : List String} (h : names.Nodup)
    (hfree : ∀ n ∈ names, n ∉ taken) : distinctNames taken names = names := by
  induction names generalizing taken with
  | nil => rfl
  | cons name names ih =>
    obtain ⟨hname, hnames⟩ := List.nodup_cons.mp h
    obtain ⟨hfresh, hrest⟩ := List.forall_mem_cons.mp hfree
    rw [distinctNames, freshName_of_not_mem hfresh, ih hnames]
    intro n hn hmem
    rcases List.mem_cons.mp hmem with heq | hmem
    · exact hname (heq ▸ hn)
    · exact hrest n hn hmem

/-- Positions at which two lists differ, counted along the lists or by their numbers. -/
theorem countP_zip_ne {xs ys : List String} (h : xs.length = ys.length) :
    (xs.zip ys).countP (fun (x, y) => x ≠ y) =
      (List.range xs.length).countP fun i => xs[i]? ≠ ys[i]? := by
  induction xs generalizing ys with
  | nil => rfl
  | cons x xs ih =>
    cases ys with
    | nil => cases h
    | cons y ys =>
      rw [List.zip_cons_cons, List.countP_cons, ih (Nat.succ.inj h), List.length_cons,
        List.range_succ_eq_map, List.countP_cons, List.countP_map]
      simp [Function.comp_def]

theorem zip_map_append {α β : Type} (f : α → β) (xs : List α) (ys : List β) :
    xs.zip (xs.map f ++ ys) = xs.map fun x => (x, f x) := by
  induction xs with
  | nil => rfl
  | cons x xs ih => rw [List.map_cons, List.cons_append, List.zip_cons_cons, ih, List.map_cons]

/-! ## Members -/

namespace Members

/-- The members `m` under the names of `m'`, of which `renamed` are new. -/
structure ToldApart (m m' : Members) (renamed : Nat) : Prop where
  distinct : m'.names.Nodup
  /-- All but the name of a base stays. -/
  bases : List.Forall₂ (fun b b' => b' = { b with ident := b'.ident }) m.bases m'.bases
  /-- All but the name of a field stays. -/
  fields : List.Forall₂ (fun f f' => f' = { f with ident := f'.ident }) m.fields m'.fields
  renames : ∀ i old, m.names[i]? = some old →
    ∃ new, m'.names[i]? = some new ∧ Renames (m'.names.take i) old new
  count : renamed = (List.range m.names.length).countP fun i => m.names[i]? ≠ m'.names[i]?

theorem forall₂_bases_distinct (m : Members) :
    List.Forall₂ (fun b b' => b' = { b with ident := b'.ident }) m.bases m.distinct.bases := by
  have htypes := m.types_bases_distinct
  rw [← List.forall₂_eq_eq_eq, List.forall₂_map_left_iff, List.forall₂_map_right_iff] at htypes
  refine htypes.flip.imp fun b b' htype => ?_
  rw [← htype]

theorem withNames_names (m : Members) : m.withNames m.names = m := by
  have hfields : m.names.drop m.bases.length = m.fields.map (·.ident) ++ [] := by
    rw [names, List.append_nil, List.drop_left' (List.length_map _)]
  rw [withNames, hfields, zip_map_append, names, zip_map_append, List.map_map, List.map_map]
  congr 1
  · exact List.map_id _
  · exact List.map_id _

theorem distinct_of_nodup {m : Members} (h : m.names.Nodup) : m.distinct = m := by
  rw [distinct, distinctNames_of_nodup h fun _ _ => List.not_mem_nil, withNames_names]

theorem renamed_eq (m : Members) :
    m.renamed =
      (List.range m.names.length).countP fun i => m.names[i]? ≠ m.distinct.names[i]? := by
  rw [renamed, names_distinct]
  exact countP_zip_ne (length_distinctNames [] m.names).symm

theorem toldApart_distinct (m : Members) : ToldApart m m.distinct m.renamed where
  distinct := by
    rw [names_distinct]
    exact (nodup_distinctNames [] m.names).1
  bases := m.forall₂_bases_distinct
  fields := forall₂_fields_distinct (fun _ _ _ h => by rw [h])
    (List.forall₂_same.mpr fun _ _ => rfl)
  renames i old h := by
    rw [names_distinct]
    exact renames_distinctNames h
  count := m.renamed_eq

/-- Members are told apart, and doing so again changes none of them. -/
theorem distinct_law (m : Members) :
    ToldApart m m.distinct m.renamed ∧ m.distinct.distinct = m.distinct ∧
      m.distinct.renamed = 0 := by
  have hagain : m.distinct.distinct = m.distinct := distinct_of_nodup m.toldApart_distinct.distinct
  refine ⟨m.toldApart_distinct, hagain, ?_⟩
  rw [renamed_eq, hagain, List.countP_eq_zero]
  simp

/-- The numbered form of a name can be the name of a later member. -/
example : distinctNames [] ["base", "base", "base_2", "base"] =
    ["base", "base_2", "base_2_2", "base_3"] := by
  decide

end Members
end Target
end ProtocolTypes
