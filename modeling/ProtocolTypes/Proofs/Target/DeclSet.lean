import ProtocolTypes.Proofs.Target.Containment
import ProtocolTypes.Proofs.Text.ByteOrder
import ProtocolTypes.Target.DeclSet

/-!
# ProtocolTypes.Proofs.Target.DeclSet

The order of declarations. Sorting loses and adds none, and where no two declarations agree in name
and kind the result is strictly increasing by the bytes of names (`sorted_precedes`); boxing keeps
that order (`boxed_precedes`).
-/

namespace ProtocolTypes
namespace Target

/-! ## Parts of a list -/

/-- The blocks of constants of a list. -/
def constBlocks (ds : List Decl) : List ConstBlock :=
  ds.filterMap fun
    | .type _ => none
    | .constants b => some b

theorem mem_constBlocks {ds : List Decl} {b : ConstBlock} :
    b ∈ constBlocks ds ↔ .constants b ∈ ds := by
  rw [constBlocks, List.mem_filterMap]
  constructor
  · rintro ⟨_ | _, h, he⟩
    · cases he
    · cases he; exact h
  · exact fun h => ⟨_, h, rfl⟩

theorem typeDecls_append (ds es : List Decl) :
    typeDecls (ds ++ es) = typeDecls ds ++ typeDecls es :=
  List.filterMap_append

theorem constBlocks_append (ds es : List Decl) :
    constBlocks (ds ++ es) = constBlocks ds ++ constBlocks es :=
  List.filterMap_append

theorem typeDecls_map_type (ts : List TypeDecl) : typeDecls (ts.map .type) = ts := by
  induction ts with
  | nil => rfl
  | cons t ts ih => exact congrArg (t :: ·) ih

theorem constBlocks_map_type (ts : List TypeDecl) : constBlocks (ts.map .type) = [] := by
  induction ts with
  | nil => rfl
  | cons t ts ih => exact ih

theorem typeDecls_type_cons (t : TypeDecl) (bs : List ConstBlock) :
    typeDecls (.type t :: bs.map .constants) = [t] := by
  have hnil : typeDecls (bs.map .constants) = [] := by
    induction bs with
    | nil => rfl
    | cons b bs ih => exact ih
  exact congrArg (t :: ·) hnil

theorem constBlocks_type_cons (t : TypeDecl) (bs : List ConstBlock) :
    constBlocks (.type t :: bs.map .constants) = bs := by
  induction bs with
  | nil => rfl
  | cons b bs ih => exact congrArg (b :: ·) ih

/-! ## Order -/

namespace Decl

def isType : Decl → Bool
  | .type _ => true
  | .constants _ => false

theorem rank_le_iff {a b : Decl} : a.rank ≤ b.rank ↔ (b.isType = true → a.isType = true) := by
  cases a <;> cases b <;> simp [rank, isType]

theorem rank_lt_iff {a b : Decl} : a.rank < b.rank ↔ a.isType = true ∧ b.isType = false := by
  cases a <;> cases b <;> simp [rank, isType]

/-- A smaller name in bytes, or the type of a name and its constants. -/
def Precedes (a b : Decl) : Prop :=
  Text.octets a.ident < Text.octets b.ident ∨
    a.ident = b.ident ∧ a.isType = true ∧ b.isType = false

theorem le_iff {a b : Decl} :
    a.le b = true ↔ a.ident < b.ident ∨ a.ident = b.ident ∧ a.rank ≤ b.rank := by
  simp [le]

theorem le_trans (a b c : Decl) (hab : a.le b = true) (hbc : b.le c = true) : a.le c = true := by
  rw [le_iff] at hab hbc ⊢
  rcases hab with hab | ⟨hab, hr⟩ <;> rcases hbc with hbc | ⟨hbc, hr'⟩
  · exact .inl (String.lt_trans hab hbc)
  · exact .inl (hbc ▸ hab)
  · exact .inl (hab ▸ hbc)
  · exact .inr ⟨hab.trans hbc, Nat.le_trans hr hr'⟩

theorem le_total (a b : Decl) : (a.le b || b.le a) = true := by
  rw [Bool.or_eq_true, le_iff, le_iff]
  by_cases hab : a.ident < b.ident
  · exact .inl (.inl hab)
  by_cases hba : b.ident < a.ident
  · exact .inr (.inl hba)
  have heq : a.ident = b.ident :=
    String.le_antisymm (String.not_lt.mp hba) (String.not_lt.mp hab)
  rcases Nat.le_total a.rank b.rank with hr | hr
  · exact .inl (.inr ⟨heq, hr⟩)
  · exact .inr (.inr ⟨heq.symm, hr⟩)

theorem precedes_of_le {a b : Decl} (h : a.le b = true)
    (hne : (a.ident, a.rank) ≠ (b.ident, b.rank)) : a.Precedes b := by
  rcases le_iff.mp h with hlt | ⟨heq, hr⟩
  · exact .inl (Text.octets_lt_octets.mpr hlt)
  · refine .inr ⟨heq, rank_lt_iff.mp (Nat.lt_of_le_of_ne hr fun hrank => hne ?_)⟩
    rw [heq, hrank]

end Decl

/-- Distinct types and distinct owners of constants make distinct pairs of name and kind. -/
theorem nodup_keys {ds : List Decl} (ht : DistinctTypes ds)
    (hc : ((constBlocks ds).map (·.owner)).Nodup) :
    (ds.map fun d => (d.ident, d.rank)).Nodup := by
  induction ds with
  | nil => exact List.nodup_nil
  | cons d ds ih =>
    rw [List.map_cons, List.nodup_cons, List.mem_map]
    cases d with
    | type t =>
      have ht : t.ident ∉ (typeDecls ds).map (·.ident) ∧ DistinctTypes ds := List.nodup_cons.mp ht
      refine ⟨?_, ih ht.2 hc⟩
      rintro ⟨_ | b, he, hkey⟩ <;> simp only [Decl.ident, Decl.rank, Prod.mk.injEq] at hkey
      · exact ht.1 (List.mem_map.mpr ⟨_, mem_typeDecls.mpr he, hkey.1⟩)
      · cases hkey.2
    | constants b =>
      have hc : b.owner ∉ (constBlocks ds).map (·.owner) ∧
          ((constBlocks ds).map (·.owner)).Nodup := List.nodup_cons.mp hc
      refine ⟨?_, ih ht hc.2⟩
      rintro ⟨_ | c, he, hkey⟩ <;> simp only [Decl.ident, Decl.rank, Prod.mk.injEq] at hkey
      · cases hkey.2
      · exact hc.1 (List.mem_map.mpr ⟨_, mem_constBlocks.mpr he, hkey.1⟩)

namespace DeclSet

variable (s : DeclSet)

theorem sorted_perm : s.sorted.Perm s.decls :=
  List.mergeSort_perm _ _

theorem typeDecls_sorted_perm : (typeDecls s.sorted).Perm (typeDecls s.decls) :=
  s.sorted_perm.filterMap _

theorem constBlocks_sorted_perm : (constBlocks s.sorted).Perm (constBlocks s.decls) :=
  s.sorted_perm.filterMap _

variable {s}

theorem distinctTypes_sorted (h : DistinctTypes s.decls) : DistinctTypes s.sorted := by
  have hperm := s.typeDecls_sorted_perm.map (·.ident)
  exact hperm.nodup_iff.mpr h

theorem sorted_precedes (ht : DistinctTypes s.decls)
    (hc : ((constBlocks s.decls).map (·.owner)).Nodup) : s.sorted.Pairwise Decl.Precedes := by
  have hle : s.sorted.Pairwise fun a b => a.le b = true := by
    rw [sorted]
    exact List.pairwise_mergeSort Decl.le_trans Decl.le_total s.decls
  have hkeys : (s.sorted.map fun d => (d.ident, d.rank)).Nodup :=
    (s.sorted_perm.map _).nodup_iff.mpr (nodup_keys ht hc)
  have hne : s.sorted.Pairwise fun a b => (a.ident, a.rank) ≠ (b.ident, b.rank) :=
    List.pairwise_map.mp hkeys
  exact hle.imp₂ (fun _ _ => Decl.precedes_of_le) hne

end DeclSet

/-! ## Boxing -/

theorem constBlocks_boxed (ds : List Decl) : constBlocks (boxed ds) = constBlocks ds := by
  rw [boxed, constBlocks, constBlocks, List.filterMap_map]
  congr 1
  funext d
  cases d <;> rfl

theorem boxed_precedes {ds : List Decl} (h : ds.Pairwise Decl.Precedes) :
    (boxed ds).Pairwise Decl.Precedes := by
  have hident : ∀ g d, (Decl.box g d).ident = d.ident := by
    rintro g (_ | _) <;> rfl
  have hisType : ∀ g d, (Decl.box g d).isType = d.isType := by
    rintro g (_ | _) <;> rfl
  rw [boxed, List.pairwise_map]
  refine h.imp fun hab => ?_
  rwa [Decl.Precedes, hident, hident, hisType, hisType]

end Target
end ProtocolTypes
