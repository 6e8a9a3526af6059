import ProtocolTypes.Proofs.Target.DeclSet
import ProtocolTypes.Target.Members

/-!
# ProtocolTypes.Proofs.Target.Redocument

Declarations under a change of their documentation. Nothing that is done to declarations later reads
documentation: making member names distinct (`Members.distinct_redocument`), sorting
(`sorted_redocument`) and boxing (`boxed_redocument`) give the same with other documentation. How
declarations were added does not show after sorting (`sorted_eq_of_perm`).
-/

namespace ProtocolTypes
namespace Target

/-! ## Other documentation -/

def Field.redocument (g : Docs → Docs) (f : Field) : Field :=
  { f with docs := g f.docs }

def TypeSpec.redocument (g : Docs → Docs) : TypeSpec → TypeSpec
  | .record bases fields => .record bases (fields.map (Field.redocument g))
  | .union variants => .union variants
  | .synonym t => .synonym t
  | .newtype p => .newtype p

def TypeDecl.redocument (g : Docs → Docs) (d : TypeDecl) : TypeDecl :=
  ⟨d.ident, g d.docs, d.spec.redocument g⟩

def ConstDecl.redocument (g : Docs → Docs) (c : ConstDecl) : ConstDecl :=
  { c with docs := g c.docs }

def ConstBlock.redocument (g : Docs → Docs) (b : ConstBlock) : ConstBlock :=
  ⟨b.owner, b.constants.map (ConstDecl.redocument g)⟩

def Decl.redocument (g : Docs → Docs) : Decl → Decl
  | .type d => .type (d.redocument g)
  | .constants b => .constants (b.redocument g)

section Identity

@[simp] theorem Field.redocument_id (f : Field) : f.redocument id = f := rfl

@[simp] theorem TypeSpec.redocument_id (spec : TypeSpec) : spec.redocument id = spec := by
  cases spec with
  | record bases fields => rw [redocument, funext Field.redocument_id, List.map_id']
  | union | synonym | newtype => rfl

@[simp] theorem TypeDecl.redocument_id (d : TypeDecl) : d.redocument id = d := by
  rw [redocument, TypeSpec.redocument_id]
  rfl

@[simp] theorem ConstDecl.redocument_id (c : ConstDecl) : c.redocument id = c := rfl

@[simp] theorem ConstBlock.redocument_id (b : ConstBlock) : b.redocument id = b := by
  rw [redocument, funext ConstDecl.redocument_id, List.map_id']

@[simp] theorem Decl.redocument_id (d : Decl) : d.redocument id = d := by
  cases d with
  | type d => rw [redocument, TypeDecl.redocument_id]
  | constants b => rw [redocument, ConstBlock.redocument_id]

end Identity

variable (g : Docs → Docs)

@[simp] theorem Decl.ident_redocument (d : Decl) : (d.redocument g).ident = d.ident := by
  cases d <;> rfl

@[simp] theorem Decl.rank_redocument (d : Decl) : (d.redocument g).rank = d.rank := by
  cases d <;> rfl

/-! ## Member names -/

namespace Members

def redocument (m : Members) : Members :=
  ⟨m.bases, m.fields.map (Field.redocument g)⟩

theorem names_redocument (m : Members) : (m.redocument g).names = m.names := by
  rw [names, names, redocument, List.map_map]
  rfl

theorem distinct_redocument (m : Members) :
    (m.redocument g).distinct = m.distinct.redocument g := by
  rw [distinct, distinct, names_redocument, withNames, withNames, redocument, redocument,
    Members.mk.injEq]
  refine ⟨rfl, ?_⟩
  rw [List.zip_map_left, List.map_map, List.map_map]
  rfl

end Members

/-! ## Boxing -/

theorem TypeSpec.members_redocument (spec : TypeSpec) :
    (spec.redocument g).members = spec.members := by
  cases spec with
  | record bases fields =>
    rw [redocument, members, members, List.map_map]
    rfl
  | union | synonym | newtype => rfl

theorem TypeSpec.contained_redocument (spec : TypeSpec) :
    (spec.redocument g).contained = spec.contained := by
  have hmembers := spec.members_redocument g
  cases spec with
  | record bases fields => exact congrArg TargetType.containedAll hmembers
  | union | synonym | newtype => rfl

theorem TypeSpec.box_redocument (cycle : List String) (spec : TypeSpec) :
    (spec.redocument g).box cycle = (spec.box cycle).redocument g := by
  cases spec with
  | record bases fields =>
    rw [redocument, box, box, redocument, List.map_map, List.map_map]
    rfl
  | union | synonym | newtype => rfl

theorem Containment.declares_redocument (name : String) (d : Decl) :
    declares name (d.redocument g) = declares name d := by
  cases d <;> rfl

theorem Containment.ofDecls_redocument (ds : List Decl) :
    ofDecls (ds.map (Decl.redocument g)) = ofDecls ds := by
  induction ds with
  | nil => rfl
  | cons d ds ih =>
    cases d with
    | type d =>
      have hany : (ds.map (Decl.redocument g)).any (declares d.ident) =
          ds.any (declares d.ident) := by
        rw [List.any_map]
        exact congrArg ds.any (funext fun e => declares_redocument g d.ident e)
      rw [List.map_cons, Decl.redocument, ofDecls, ofDecls, ih, TypeDecl.redocument,
        TypeSpec.contained_redocument, hany]
    | constants b => rw [List.map_cons, Decl.redocument, ofDecls, ofDecls, ih]

theorem Decl.box_redocument (c : Containment) (d : Decl) :
    (d.redocument g).box c = (d.box c).redocument g := by
  cases d with
  | type d =>
    rw [redocument, box, TypeDecl.redocument, TypeSpec.box_redocument]
    rfl
  | constants b => rfl

theorem boxed_redocument (ds : List Decl) :
    boxed (ds.map (Decl.redocument g)) = (boxed ds).map (Decl.redocument g) := by
  rw [boxed, boxed, Containment.ofDecls_redocument, List.map_map, List.map_map]
  exact List.map_congr_left fun d _ => d.box_redocument g _

/-! ## Sorting -/

theorem Decl.Precedes.asymm {a b : Decl} (hab : a.Precedes b) : ¬ b.Precedes a := by
  intro hba
  rw [Precedes, Text.octets_lt_octets] at hab hba
  rcases hab with hab | ⟨heq, htype, _⟩ <;> rcases hba with hba | ⟨heq', _, hconstants⟩
  · exact absurd hba (String.lt_asymm hab)
  · rw [heq'] at hab
    exact absurd hab (String.lt_irrefl _)
  · rw [heq] at hba
    exact absurd hba (String.lt_irrefl _)
  · rw [htype] at hconstants
    cases hconstants

namespace DeclSet

theorem sorted_redocument (s : DeclSet) :
    sorted ⟨s.decls.map (Decl.redocument g)⟩ = s.sorted.map (Decl.redocument g) := by
  rw [sorted, sorted]
  refine (List.map_mergeSort fun a _ b _ => ?_).symm
  rw [Decl.le, Decl.le, Decl.ident_redocument, Decl.ident_redocument, Decl.rank_redocument,
    Decl.rank_redocument]

/-- The order in which declarations were added does not show. -/
theorem sorted_eq_of_perm {s s' : DeclSet} (hperm : s.decls.Perm s'.decls)
    (ht : DistinctTypes s.decls) (hc : ((constBlocks s.decls).map (·.owner)).Nodup) :
    s.sorted = s'.sorted := by
  have ht' : DistinctTypes s'.decls := ((hperm.filterMap _).map _).nodup_iff.mp ht
  have hc' : ((constBlocks s'.decls).map (·.owner)).Nodup :=
    ((hperm.filterMap _).map _).nodup_iff.mp hc
  have hsorted : s.sorted.Perm s'.sorted :=
    s.sorted_perm.trans (hperm.trans s'.sorted_perm.symm)
  refine hsorted.eq_of_pairwise ?_ (sorted_precedes ht hc) (sorted_precedes ht' hc')
  intro a b _ _ hab hba
  exact absurd hba hab.asymm

end DeclSet
end Target
end ProtocolTypes
