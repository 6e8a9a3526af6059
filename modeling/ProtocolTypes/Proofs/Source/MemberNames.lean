import ProtocolTypes.Proofs.Identifier.Spelling
import ProtocolTypes.Proofs.Mapping.AsciiNames

/-!
# ProtocolTypes.Proofs.Source.MemberNames

How the members of a record are written. In a model with ASCII names every member can be written,
and two members are written alike exactly when one is the other with the underscore that a digit or
a keyword without a raw form needs (`targetDecls_memberNames`). Such members exist: telling members
apart does not look at what is written (`members_written_alike`).
-/

namespace ProtocolTypes

open Target Text Identifier

/-! ## Words -/

theorem isWord_of_memberName {n : String} (h : MetaModel.MemberName n) : IsWord n ∧ n ≠ "" := by
  obtain ⟨s, hs, rfl⟩ := h
  exact ⟨isWord_member hs, member_ne_empty s⟩

theorem isWord_numbered {n : String} (h : IsWord n) (k : Nat) :
    IsWord (numbered n k) ∧ numbered n k ≠ "" := by
  rw [numbered]
  have hunderscore : IsWord "_" := by decide
  refine ⟨isWord_append.mpr ⟨isWord_append.mpr ⟨h, hunderscore⟩, isWord_repr k⟩, fun hempty => ?_⟩
  have hparts := String.append_eq_empty_iff.mp (String.append_eq_empty_iff.mp hempty).1
  exact absurd hparts.2 (by decide)

/-- Members that were named after ASCII names stay words when they are told apart. -/
theorem isWord_of_mem_distinct {members : Members}
    (h : ∀ n ∈ members.names, MetaModel.MemberName n) :
    ∀ n ∈ members.distinct.names, IsWord n ∧ n ≠ "" := by
  intro n hn
  rw [Members.names_distinct] at hn
  obtain ⟨name, hname, rfl | ⟨k, rfl⟩⟩ := exists_of_mem_distinctNames hn
  · exact isWord_of_memberName (h n hname)
  · exact isWord_numbered (isWord_of_memberName (h name hname)).1 k

/-! ## Written members -/

theorem Identifier.Underscored.ne {a b : String} (h : Underscored a b) : a ≠ b := by
  have hlen : a.length ≠ b.length := by
    obtain ⟨_, rfl⟩ | ⟨_, rfl⟩ := h
    · rw [String.length_append, show "_".length = 1 from rfl]
      omega
    · rw [String.length_append, show "_".length = 1 from rfl]
      omega
  exact fun heq => hlen (congrArg String.length heq)

/-- How names are written that are distinct and could be members of a record. -/
structure WrittenMembers (names : List String) : Prop where
  distinct : names.Nodup
  written : ∀ n ∈ names, ∃ w, Source.ident n = .ok w
  alike : ∀ a ∈ names, ∀ b ∈ names,
    Source.ident a = Source.ident b ↔ a = b ∨ Underscored a b ∨ Underscored b a
  distinct_iff : (names.map Source.ident).Nodup ↔ ∀ a ∈ names, ∀ b ∈ names, ¬ Underscored a b

theorem writtenMembers_of_isWord {names : List String} (hnodup : names.Nodup)
    (h : ∀ n ∈ names, IsWord n ∧ n ≠ "") : WrittenMembers names := by
  have halike : ∀ a ∈ names, ∀ b ∈ names,
      Source.ident a = Source.ident b ↔ a = b ∨ Underscored a b ∨ Underscored b a := by
    intro a ha b hb
    rw [ident_eq_iff (h a ha).1.isAscii (h b hb).1.isAscii]
    exact speltAlike_iff_of_isWord (h a ha).1 (h a ha).2 (h b hb).1 (h b hb).2
  refine ⟨hnodup, fun n hn => ⟨_, ident_eq_ok (h n hn).1.isAscii⟩, halike, ?_⟩
  rw [List.nodup_map_iff_inj_on hnodup]
  constructor
  · intro hinj a ha b hb hab
    exact hab.ne (hinj a ha b hb ((halike a ha b hb).mpr (.inr (.inl hab))))
  · intro hnot a ha b hb hab
    rcases (halike a ha b hb).mp hab with heq | hab | hba
    · exact heq
    · exact absurd hab (hnot a ha b hb)
    · exact absurd hba (hnot b hb a ha)

namespace MetaModel

variable {m : MetaModel} {o : MappingOptions}

theorem targetDecls_memberNames (hm : m.AsciiNames) {ds : List Decl}
    (h : m.targetDecls o = .ok ds) {t : TypeDecl} (ht : .type t ∈ ds) {bases : List Base}
    {fields : List Field} (hspec : t.spec = .record bases fields) :
    WrittenMembers (bases.map (·.ident) ++ fields.map (·.ident)) := by
  obtain ⟨set, ps, r, dss, hg⟩ := generated_of_targetDecls h
  obtain ⟨u, g, rfl, horigin⟩ := hg.origin ht
  obtain ⟨bs, fs, hu, rfl, rfl⟩ := TypeSpec.exists_record_of_box hspec
  obtain ⟨members, hmembers, hnames⟩ := horigin.named hm bs fs hu
  have hidents : members.distinct.names = bs.map (·.ident) ++ fs.map (·.ident) := by
    rw [hmembers, Members.names]
  rw [List.map_map, List.map_map]
  show WrittenMembers (bs.map (·.ident) ++ fs.map (·.ident))
  rw [← hidents]
  refine writtenMembers_of_isWord ?_ (isWord_of_mem_distinct hnames)
  rw [Members.names_distinct]
  exact (nodup_distinctNames [] members.names).1

/-- A structure whose properties bear the name of its base, keywords and a digit in front. -/
def entries : MetaModel where
  version := "1"
  requests := []
  notifications := []
  structures := [
    ⟨"Base", [⟨"id", .base "integer", false, {}⟩], [], [], {}⟩,
    ⟨"Entry", [
      ⟨"base", .base "string", false, {}⟩,
      ⟨"type", .base "string", false, {}⟩,
      ⟨"self", .base "string", false, {}⟩,
      ⟨"2nd", .base "string", false, {}⟩], [.reference "Base"], [], {}⟩]
  enumerations := []
  typeAliases := []

def entryBases : List Base :=
  [⟨"base", .symbol "Base"⟩]

def entryFields : List Field := [
  ⟨"base_2", "base", .primitive .string, false, {}⟩,
  ⟨"type", "type", .primitive .string, false, {}⟩,
  ⟨"self", "self", .primitive .string, false, {}⟩,
  ⟨"2nd", "2nd", .primitive .string, false, {}⟩]

def entriesDecls : List Decl := [
  .type ⟨"Base", {}, .record [] [⟨"id", "id", .primitive .int32, false, {}⟩]⟩,
  .type ⟨"Entry", {}, .record entryBases entryFields⟩]

theorem entries_memberNames :
    entries.AsciiNames ∧ entries.targetDecls {} = .ok entriesDecls ∧
      .type ⟨"Entry", {}, .record entryBases entryFields⟩ ∈ entriesDecls ∧
      WrittenMembers (entryBases.map (·.ident) ++ entryFields.map (·.ident)) ∧
      (entryBases.map (·.ident) ++ entryFields.map (·.ident)).map Source.ident =
        ["base", "base_2", "r#type", "self_", "_2nd"].map .ok := by
  have hascii : entries.AsciiNames := .of_atomic (by decide) (by decide) (by decide)
  have hdecls : entries.targetDecls {} = .ok entriesDecls :=
    targetDecls_of_collect (by decide +kernel)
  have hentry : .type ⟨"Entry", {}, .record entryBases entryFields⟩ ∈ entriesDecls := by decide
  exact ⟨hascii, hdecls, hentry, targetDecls_memberNames hascii hdecls hentry rfl,
    by decide +kernel⟩

/-- Two properties that differ in the underscore that one of them is written with. -/
def selves : MetaModel where
  version := "1"
  requests := []
  notifications := []
  structures := [
    ⟨"Item", [⟨"self", .base "string", false, {}⟩, ⟨"self_", .base "string", false, {}⟩],
      [], [], {}⟩]
  enumerations := []
  typeAliases := []

def selvesFields : List Field := [
  ⟨"self", "self", .primitive .string, false, {}⟩,
  ⟨"self_", "self_", .primitive .string, false, {}⟩]

theorem members_written_alike :
    ¬ ∀ (m : MetaModel) (o : MappingOptions) (ds : List Decl), m.AsciiNames →
      m.targetDecls o = .ok ds → ∀ t bases fields, .type t ∈ ds → t.spec = .record bases fields →
        ((bases.map (·.ident) ++ fields.map (·.ident)).map Source.ident).Nodup := by
  intro h
  have hascii : selves.AsciiNames := .of_atomic (by decide) (by decide) (by decide)
  have hdecls : selves.targetDecls {} = .ok [.type ⟨"Item", {}, .record [] selvesFields⟩] :=
    targetDecls_of_collect (by decide +kernel)
  have hnodup := h selves {} _ hascii hdecls ⟨"Item", {}, .record [] selvesFields⟩ [] selvesFields
    List.mem_cons_self rfl
  exact absurd hnodup (by decide +kernel)

end MetaModel
end ProtocolTypes
