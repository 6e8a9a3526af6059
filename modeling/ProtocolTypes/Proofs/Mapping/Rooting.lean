import ProtocolTypes.Proofs.Mapping.Gathering
import ProtocolTypes.Proofs.Mapping.Origin
import ProtocolTypes.Proofs.Mapping.Reordering
import ProtocolTypes.Proofs.Target.Mention

/-!
# ProtocolTypes.Proofs.Mapping.Rooting

Nothing is registered in vain. The parts of a type are registered before the type itself, which may
then share a declaration that was made earlier. `Rooted r m P` says that all declarations of `r` can
be reached from the names `P`; registering a declaration trades the names that it mentions for its
own (`Rooted.register`), since the declaration it shares mentions the same ones. So mapping passes
it on with the names that types mention (`rooting`), and `targetDecls_noOrphans` says it of the
output.
-/

open Relation (ReflTransGen TransGen)

namespace ProtocolTypes

open Target

/-- Wrappers of primitives mention no names. -/
theorem Target.TypeSpec.gather_of_newtype {spec : TypeSpec} (h : spec.form = .newtype) :
    spec.gather .name = ∅ := by
  cases spec with
  | newtype p => exact gatherIn_nil .name
  | record | union | synonym => cases h

/-! ## Registries -/

namespace Registry

/-- The name is reserved or that of a declaration. -/
def Knows (r : Registry) (name : String) : Prop :=
  name ∈ r.reserved ∨ ∃ d ∈ r.decls, d.ident = name

/-- Declarations mention reserved names and those of declarations before them. -/
def Ordered (r : Registry) : Prop :=
  ∀ before d after, r.decls = before ++ d :: after →
    ∀ name ∈ d.spec.gather .name, name ∈ r.reserved ∨ ∃ e ∈ before, e.ident = name

/-- All declarations can be reached from the names `roots`. -/
structure Rooted (r : Registry) (m : MetaModel) (roots : Set String) : Prop where
  reserved : r.reserved = m.names
  known : ∀ name ∈ roots, r.Knows name
  ordered : r.Ordered
  reached : ∀ d ∈ r.decls, ∃ name ∈ roots, ReflTransGen (Mentioning r.decls) name d.ident

variable {r r' : Registry} {m : MetaModel} {P : Set String} {d : TypeDecl}

theorem Knows.mono {name : String} (h : r.Knows name) (hext : r.Extends r') : r'.Knows name := by
  rcases h with hres | ⟨d, hd, hident⟩
  · exact .inl (hext.reserved ▸ hres)
  · exact .inr ⟨d, hext.decls.subset hd, hident⟩

theorem Ordered.add (h : r.Ordered) (hd : ∀ name ∈ d.spec.gather .name, r.Knows name) :
    (r.add d).Ordered := by
  intro before e after heq
  rcases List.eq_nil_or_concat after with rfl | ⟨after, last, rfl⟩
  · obtain ⟨rfl, hlast⟩ := List.append_inj' (show r.decls ++ [d] = before ++ [e] from heq) rfl
    cases hlast
    exact hd
  · have hinit : r.decls ++ [d] = (before ++ e :: after) ++ [last] := by
      simpa [Registry.add] using heq
    exact h before e after (List.append_inj' hinit rfl).1

namespace Rooted

theorem empty (m : MetaModel) : (Registry.empty m.names).Rooted m ∅ where
  reserved := rfl
  known _ h := absurd h (Set.notMem_empty _)
  ordered before _ _ heq := by cases before <;> cases heq
  reached _ hd := absurd hd List.not_mem_nil

/-- Names of the model lead nowhere yet. -/
theorem union (h : r.Rooted m P) {names : Set String} (hnames : ∀ name ∈ names, name ∈ m.names) :
    r.Rooted m (P ∪ names) where
  reserved := h.reserved
  known := by
    rintro name (hname | hname)
    · exact h.known name hname
    · exact .inl (h.reserved ▸ hnames name hname)
  ordered := h.ordered
  reached e he := by
    obtain ⟨name, hname, hpath⟩ := h.reached e he
    exact ⟨name, .inl hname, hpath⟩

/-- Where the names that a declaration mentions lead, its own name leads once it is registered,
whether the declaration is new or one of the same shape is shared. -/
theorem register (h : r.Rooted m (P ∪ d.spec.gather .name)) :
    (r.register d).2.Rooted m (P ∪ {(r.register d).1}) := by
  have hext := r.extends_register d
  obtain ⟨e, hfind, hspec⟩ := r.find?_register d
  obtain ⟨he, hident⟩ := declared?_eq_some hfind
  have earlier : ∀ f ∈ r.decls, ∃ name ∈ P ∪ {(r.register d).1},
      ReflTransGen (Mentioning (r.register d).2.decls) name f.ident := by
    intro f hf
    obtain ⟨name, hname, hpath⟩ := h.reached f hf
    have hpath := ReflTransGen.mono (fun _ _ => Mentioning.mono hext.decls.subset) _ _ hpath
    rcases hname with hname | hname
    · exact ⟨name, .inl hname, hpath⟩
    · have hmention := mentioning_iff_gather.mpr ⟨e, he, hident, hspec ▸ hname⟩
      exact ⟨_, .inr rfl, hpath.head hmention⟩
  refine ⟨hext.reserved.trans h.reserved, ?known, ?ordered, ?reached⟩
  case known =>
    rintro name (hname | rfl)
    · exact (h.known name (.inl hname)).mono hext
    · exact .inr ⟨e, he, hident⟩
  case ordered =>
    rcases r.register_grows d with heq | heq <;> rw [heq]
    · exact h.ordered
    · exact h.ordered.add fun name hname => h.known name (.inr hname)
  case reached =>
    intro f hf
    rcases r.register_grows d with heq | heq
    · exact earlier f (heq ▸ hf)
    · rw [heq] at hf
      rcases mem_add.mp hf with hf | rfl
      · exact earlier f hf
      · exact ⟨_, .inr rfl, .refl⟩

end Rooted
end Registry

/-! ## Mappings -/

namespace MetaModel

variable {m : MetaModel} {o : MappingOptions}

/-- Literals become types without names. -/
theorem gatherIn_literalTypes (t : TypeExpr) : gatherIn .name t.literalTypes = ∅ := by
  cases t with
  | stringLiteral | integerLiteral | booleanLiteral => simp [TypeExpr.literalTypes, TypeExpr.only]
  | or items =>
    rw [TypeExpr.literalTypes]
    cases hform : TypeExpr.unionForm items with
    | single | variants => exact gatherIn_nil .name
    | literals u =>
      obtain ⟨v, vs, _, rfl⟩ := TypeExpr.exists_literals_of_unionForm hform
      simp
  | base | reference | array | map | tuple | and | literal => exact gatherIn_nil .name

/-- Types of the model have no names to begin with: all come from what mapping makes of them. -/
theorem rooting (m : MetaModel) : Tally m .name (fun _ => ∅) fun r P => r.Rooted m P where
  symbol hname hr := by
    rw [TargetType.gather_name_symbol]
    refine hr.union ?_
    rintro _ rfl
    exact hname
  register d hr := by
    rw [TargetType.gather_name_symbol]
    exact hr.register
  source_eq hint t := by
    rw [gatherIn_literalTypes]
    simp

/-! ## All declarations -/

namespace Generated

variable {ds : List Decl} {set : DeclSet} {ps : List (Declared × Shape)} {r : Registry}
  {dss : List (List Decl)}

theorem rooted (h : Generated m o ds set ps r dss) :
    r.Rooted m (gatherOf .name (typeDecls dss.flatten)) := by
  refine (rooting m).mapPrimaries o _ ?_ _ _ h.collected.run
  have hnone : {name : String | ∃ d ∈ m.primaries, name ∈ d.sources m o fun _ => ∅} = ∅ := by
    simp [Declared.sources_empty]
  rw [hnone]
  exact .empty m

/-- The output mentions what was mentioned when its declarations were made. -/
theorem mentioning_iff (h : Generated m o ds set ps r dss) {a b : String} :
    Mentioning (typeDecls ds) a b ↔ Mentioning (typeDecls dss.flatten ++ r.decls) a b := by
  rw [h.boxed, mentioning_boxed, ← h.typeDecls_set]
  simp only [Mentioning, set.typeDecls_sorted_perm.mem_iff]

/-- A name of the model whose type mentions anything is that of a structure or an alias. -/
theorem exists_declared_of_mem_gatherOf (h : Generated m o ds set ps r dss) {name : String}
    (hname : name ∈ gatherOf .name (typeDecls dss.flatten)) :
    ∃ d ∈ m.primaries, ((∃ s, d = .struct s) ∨ ∃ a, d = .typeAlias a) ∧
      Mentioning (typeDecls ds) d.name name := by
  obtain ⟨t, ht, hmention⟩ := hname
  obtain ⟨⟨d, s⟩, hp, hdenotes⟩ := exists_of_forall₂ h.named_types ht
  have hmentioning : Mentioning (typeDecls dss.flatten ++ r.decls) d.name name :=
    mentioning_iff_gather.mpr ⟨t, List.mem_append_left _ ht, hdenotes.ident, hmention⟩
  refine ⟨d, (h.translated_of_mem hp).1, ?_, h.mentioning_iff.mpr hmentioning⟩
  cases d with
  | struct s => exact .inl ⟨s, rfl⟩
  | typeAlias a => exact .inr ⟨a, rfl⟩
  | enumeration e =>
    have hform : t.spec.form = .newtype := hdenotes.form
    rw [TypeSpec.gather_of_newtype hform] at hmention
    exact absurd hmention (Set.notMem_empty name)

end Generated

/-- Declarations that the model does not name are there for those that it names. -/
structure NoOrphans (m : MetaModel) (o : MappingOptions) (ds : List Decl) : Prop where
  /-- They are mentioned, through however many others, by the type of a structure or an alias. -/
  rooted : ∀ t, .type t ∈ ds → (∀ d ∈ m.declarations, d.name ≠ t.ident) →
    ∃ d : Declared, m.Indexes d ∧
      ((∃ s, d = .struct s) ∨ ∃ a, d = .typeAlias a) ∧
      TransGen (Mentioning (typeDecls ds)) d.name t.ident
  /-- As they were registered, before boxing, they mention names of the model and each other in
  order. -/
  ordered : ∃ named r, (m.mapPrimaries o).run (.empty m.names) = (.ok named, r) ∧
    ds = boxed (DeclSet.mk (named ++ r.decls.map .type)).sorted ∧
    ∀ before d after, r.decls = before ++ d :: after →
      ∀ t ∈ d.spec.types, ∀ name, t.Mentions name →
        (∃ e ∈ m.declarations, e.name = name) ∨ ∃ e ∈ before, e.ident = name

theorem targetDecls_noOrphans {ds : List Decl} (h : m.targetDecls o = .ok ds) :
    NoOrphans m o ds := by
  obtain ⟨set, ps, r, dss, hg⟩ := generated_of_targetDecls h
  refine ⟨fun t ht hnew => ?rooted, dss.flatten, r, hg.collected.run, ?output, ?ordered⟩
  case rooted =>
    rcases hg.type_cases ht with hname | ⟨u, hu, rfl⟩
    · obtain ⟨d, hd, hident⟩ := mem_names_iff_declared.mp hname
      exact absurd hident (hnew d hd)
    · obtain ⟨name, hname, hpath⟩ := hg.rooted.reached u hu
      obtain ⟨d, hd, hdeclared, hmention⟩ := hg.exists_declared_of_mem_gatherOf hname
      have hpath : ReflTransGen (Mentioning (typeDecls ds)) name u.ident := by
        refine ReflTransGen.mono (fun a b hab => ?_) _ _ hpath
        exact hg.mentioning_iff.mpr (hab.mono (List.subset_append_right _ _))
      exact ⟨d, indexes_iff.mpr hd, hdeclared, .head' hmention hpath⟩
  case output =>
    rw [hg.boxed, ← hg.collected.decls]
  case ordered =>
    intro before d after heq t ht name hname
    have hgather := TypeSpec.mem_gather_name.mpr ⟨t, ht, hname⟩
    rcases hg.rooted.ordered before d after heq name hgather with hres | hbefore
    · exact .inl (mem_names_iff_declared.mp (hg.rooted.reserved ▸ hres))
    · exact .inr hbefore

/-- The note is a list of a union, one item of which is a structure that needs another union. -/
def noteProperty : Property where
  name := "note"
  type := .array (.or [
    .literal ⟨[⟨"kind", .or [.base "string", .base "integer"], false, {}⟩], {}⟩,
    .base "boolean"])
  optional := false
  annotations := {}

/-- Both structures have the note and share what is registered for it. -/
def remarks : MetaModel where
  version := "1"
  requests := []
  notifications := []
  structures := [
    ⟨"Extra", [noteProperty], [], [], {}⟩,
    ⟨"Item", [], [], [.reference "Extra"], {}⟩]
  enumerations := []
  typeAliases := []

def remarksDecls : List Decl :=
  let note : Field := ⟨"note", "note", .list (.symbol "ExtraNoteItem"), false, {}⟩
  [.type ⟨"Extra", {}, .record [] [note]⟩,
    .type ⟨"ExtraNoteItem", {}, .union [⟨"Literal", some (.symbol "ExtraNoteItemLiteral")⟩,
      ⟨"Boolean", some (.primitive .bool)⟩]⟩,
    .type ⟨"ExtraNoteItemLiteral", {}, .record [] [⟨"kind", "kind",
      .symbol "ExtraNoteItemLiteralKind", false, {}⟩]⟩,
    .type ⟨"ExtraNoteItemLiteralKind", {}, .union [⟨"String", some (.primitive .string)⟩,
      ⟨"Integer", some (.primitive .int32)⟩]⟩,
    .type ⟨"Item", {}, .record [] [note]⟩]

theorem remarks_noOrphans :
    remarks.targetDecls {} = .ok (boxed remarksDecls) ∧
      NoOrphans remarks {} (boxed remarksDecls) := by
  have hdecls : remarks.targetDecls {} = .ok (boxed remarksDecls) :=
    targetDecls_of_isPerm (by decide +kernel) (by decide +kernel)
  exact ⟨hdecls, targetDecls_noOrphans hdecls⟩

end MetaModel
end ProtocolTypes
