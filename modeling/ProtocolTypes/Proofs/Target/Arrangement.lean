import ProtocolTypes.Proofs.Target.Redocument

/-!
# ProtocolTypes.Proofs.Target.Arrangement

What becomes of declarations that are added to a set one after another. Sorting arranges them by
name and kind and leaves those that agree in both in the order they were added in. There is one such
arrangement (`Arranges.unique`), and it shows nothing of the order of additions where names are
distinct (`sorted_law`).
-/

namespace ProtocolTypes
namespace Target

namespace Decl

/-- What the order of declarations looks at. -/
def key (d : Decl) : String × Bool :=
  (d.ident, d.isType)

theorem key_eq_of_le {a b : Decl} (hab : a.le b = true) (hba : b.le a = true) : a.key = b.key := by
  rw [le_iff, rank_le_iff] at hab hba
  rcases hab with hab | ⟨hident, hrank⟩ <;> rcases hba with hba | ⟨hident', hrank'⟩
  · exact absurd hba (String.lt_asymm hab)
  · exact absurd (hident' ▸ hab) (String.lt_irrefl _)
  · exact absurd (hident ▸ hba) (String.lt_irrefl _)
  · exact Prod.ext hident (Bool.eq_iff_iff.mpr ⟨hrank', hrank⟩)

theorem le_of_key_eq {a b : Decl} (h : a.key = b.key) : a.le b = true :=
  le_iff.mpr (.inr ⟨congrArg Prod.fst h, rank_le_iff.mpr (congrArg Prod.snd h).trans⟩)

end Decl

/-! ## Arrangements -/

/-- The declarations that were added, by the bytes of their names, types before constants, and
otherwise in the order they were added in. -/
structure Arranges (added ds : List Decl) : Prop where
  perm : ds.Perm added
  ordered : ds.Pairwise fun a b =>
    Text.octets a.ident < Text.octets b.ident ∨
      a.ident = b.ident ∧ (b.isType = true → a.isType = true)
  stable : ∀ key, ds.filter (fun d => d.key = key) = added.filter (fun d => d.key = key)

theorem mem_iff_of_filter_key {ds es : List Decl}
    (h : ∀ key, ds.filter (fun d => d.key = key) = es.filter (fun d => d.key = key)) (d : Decl) :
    d ∈ ds ↔ d ∈ es := by
  have hd := congrArg (d ∈ ·) (h d.key)
  simpa using hd

/-- Lists in order that agree in the declarations of each name and kind are the same. -/
theorem eq_of_ordered {ds es : List Decl} (hds : ds.Pairwise fun a b => a.le b = true)
    (hes : es.Pairwise fun a b => a.le b = true)
    (h : ∀ key, ds.filter (fun d => d.key = key) = es.filter (fun d => d.key = key)) :
    ds = es := by
  induction ds generalizing es with
  | nil =>
    refine (List.eq_nil_iff_forall_not_mem.mpr fun d hd => ?_).symm
    exact List.not_mem_nil ((mem_iff_of_filter_key h d).mpr hd)
  | cons a ds ih =>
    have hmem := mem_iff_of_filter_key h
    cases es with
    | nil => exact absurd ((hmem a).mp List.mem_cons_self) List.not_mem_nil
    | cons b es =>
      obtain ⟨hads, htailds⟩ := List.pairwise_cons.mp hds
      obtain ⟨hbes, htailes⟩ := List.pairwise_cons.mp hes
      -- each head is the least, so that they have one key, and they are the first with that key
      have hab : a = b ∨ a.le b = true :=
        (List.mem_cons.mp ((hmem b).mpr List.mem_cons_self)).imp Eq.symm (hads b)
      have hba : b = a ∨ b.le a = true :=
        (List.mem_cons.mp ((hmem a).mp List.mem_cons_self)).imp Eq.symm (hbes a)
      have hkey : a.key = b.key := by
        rcases hab with rfl | hab
        · rfl
        · rcases hba with rfl | hba
          · rfl
          · exact Decl.key_eq_of_le hab hba
      have hheads := h a.key
      rw [List.filter_cons_of_pos (by simp), List.filter_cons_of_pos (by simp [hkey])] at hheads
      obtain rfl : a = b := (List.cons.inj hheads).1
      have htails : ∀ key, ds.filter (fun d => d.key = key) = es.filter (fun d => d.key = key) := by
        intro key
        have hcons := h key
        rw [List.filter_cons, List.filter_cons] at hcons
        split at hcons
        · exact (List.cons.inj hcons).2
        · exact hcons
      rw [ih htailds htailes htails]

theorem Arranges.unique {added ds es : List Decl} (hds : Arranges added ds)
    (hes : Arranges added es) : ds = es := by
  have hle : ∀ {a b : Decl}, Text.octets a.ident < Text.octets b.ident ∨
      a.ident = b.ident ∧ (b.isType = true → a.isType = true) → a.le b = true := by
    intro a b h
    rwa [Text.octets_lt_octets, ← Decl.rank_le_iff, ← Decl.le_iff] at h
  exact eq_of_ordered (hds.ordered.imp hle) (hes.ordered.imp hle)
    fun key => (hds.stable key).trans (hes.stable key).symm

namespace DeclSet

/-- Declarations of one name and kind stay in the order they were added in. -/
theorem filter_sorted (s : DeclSet) (key : String × Bool) :
    s.sorted.filter (fun d => d.key = key) = s.decls.filter (fun d => d.key = key) := by
  have hle : (s.decls.filter fun d => d.key = key).Pairwise fun a b => a.le b = true := by
    refine List.pairwise_of_forall_mem_list fun a ha b hb => Decl.le_of_key_eq ?_
    rw [List.mem_filter, decide_eq_true_eq] at ha hb
    exact ha.2.trans hb.2.symm
  have hsub : (s.decls.filter fun d => d.key = key).Sublist s.sorted :=
    List.sublist_mergeSort Decl.le_trans Decl.le_total hle List.filter_sublist
  have hfilter := hsub.filter fun d => d.key = key
  rw [List.filter_filter] at hfilter
  simp only [Bool.and_self] at hfilter
  exact (hfilter.eq_of_length (s.sorted_perm.filter _).length_eq.symm).symm

theorem arranges_sorted (s : DeclSet) : Arranges s.decls s.sorted := by
  refine ⟨s.sorted_perm, ?ordered, s.filter_sorted⟩
  case ordered =>
    have hle : s.sorted.Pairwise fun a b => a.le b = true :=
      List.pairwise_mergeSort Decl.le_trans Decl.le_total s.decls
    refine hle.imp fun {a b} hab => ?_
    rwa [Text.octets_lt_octets, ← Decl.rank_le_iff, ← Decl.le_iff]

/-! ## Additions -/

/-- What is added to a set at a time. -/
inductive Addition where
  | type (t : TypeDecl)
  | constants (b : ConstBlock)
  | types (ts : List TypeDecl)

def Addition.decls : Addition → List Decl
  | .type t => [.type t]
  | .constants b => [.constants b]
  | .types ts => ts.map .type

def put (s : DeclSet) : Addition → DeclSet
  | .type t => s.add (.type t)
  | .constants b => s.add (.constants b)
  | .types ts => s.addTypes ts

/-- The set after additions, one after another. -/
def putAll (s : DeclSet) (xs : List Addition) : DeclSet :=
  xs.foldl put s

theorem decls_put (s : DeclSet) (x : Addition) : (s.put x).decls = s.decls ++ x.decls := by
  cases x <;> rfl

theorem decls_putAll (s : DeclSet) (xs : List Addition) :
    (s.putAll xs).decls = s.decls ++ xs.flatMap Addition.decls := by
  induction xs generalizing s with
  | nil => exact (List.append_nil _).symm
  | cons x xs ih =>
    rw [putAll, List.foldl_cons, ← putAll, ih, decls_put, List.flatMap_cons, List.append_assoc]

/-- Sorting gives the one arrangement of what was added. Other additions of the same declarations
give the same list where no name is declared twice as a type, nor twice as an enumeration. -/
theorem sorted_law (xs : List Addition) :
    (∀ ds, Arranges (xs.flatMap Addition.decls) ds ↔ ds = (empty.putAll xs).sorted) ∧
      ∀ ys, (ys.flatMap Addition.decls).Perm (xs.flatMap Addition.decls) →
        DistinctTypes (xs.flatMap Addition.decls) →
        ((constBlocks (xs.flatMap Addition.decls)).map (·.owner)).Nodup →
        (empty.putAll ys).sorted = (empty.putAll xs).sorted := by
  have hdecls : ∀ xs, (empty.putAll xs).decls = xs.flatMap Addition.decls :=
    fun xs => decls_putAll empty xs
  refine ⟨fun ds => ⟨fun h => ?_, ?_⟩, fun ys hperm ht hc => ?_⟩
  · exact h.unique (hdecls xs ▸ (empty.putAll xs).arranges_sorted)
  · rintro rfl
    exact hdecls xs ▸ (empty.putAll xs).arranges_sorted
  · rw [← hdecls, ← hdecls] at hperm
    rw [← hdecls] at ht hc
    exact (sorted_eq_of_perm hperm.symm ht hc).symm

def kindType : TypeDecl := ⟨"Kind", {}, .newtype .string⟩
def kindValues : ConstBlock := ⟨"Kind", [⟨"KindPlain", .text "plain", {}⟩]⟩
def kindList : TypeDecl := ⟨"Kind2", {}, .synonym (.list (.symbol "Kind"))⟩
def stateAlias : TypeDecl := ⟨"État", {}, .synonym (.symbol "Kind")⟩

/-- A name with constants, one that goes on behind it and one that leaves ASCII. -/
def inOrder : List Addition :=
  [.type kindType, .constants kindValues, .types [kindList, stateAlias]]

def shuffled : List Addition :=
  [.types [stateAlias], .constants kindValues, .type kindList, .type kindType]

theorem shuffled_sorted :
    (shuffled.flatMap Addition.decls).Perm (inOrder.flatMap Addition.decls) ∧
      DistinctTypes (inOrder.flatMap Addition.decls) ∧
      ((constBlocks (inOrder.flatMap Addition.decls)).map (·.owner)).Nodup ∧
      (empty.putAll shuffled).sorted =
        [.type kindType, .constants kindValues, .type kindList, .type stateAlias] := by
  have hperm : (shuffled.flatMap Addition.decls).Perm (inOrder.flatMap Addition.decls) := by
    decide
  have ht : DistinctTypes (inOrder.flatMap Addition.decls) := by
    unfold DistinctTypes
    decide
  have hc : ((constBlocks (inOrder.flatMap Addition.decls)).map (·.owner)).Nodup := by
    decide
  have hsorted : (empty.putAll inOrder).sorted =
      [.type kindType, .constants kindValues, .type kindList, .type stateAlias] :=
    List.mergeSort_of_pairwise (by decide)
  exact ⟨hperm, ht, hc, ((sorted_law inOrder).2 shuffled hperm ht hc).trans hsorted⟩

end DeclSet
end Target
end ProtocolTypes
