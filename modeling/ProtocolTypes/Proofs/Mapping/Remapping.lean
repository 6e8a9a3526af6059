import ProtocolTypes.Proofs.Mapping.Meaning
import ProtocolTypes.Proofs.Mapping.Replay

/-!
# ProtocolTypes.Proofs.Mapping.Remapping

Mapping a type again. A registry that holds what a mapping registered gives the same result a second
time and stays as it is, whatever else it holds by then (`Replays.run_again`). So a type is mapped
alike after any further calls, and a property that is copied into several records has one type in
all of them (`remapping_stable`).
-/

namespace ProtocolTypes

open Target

/-! ## Registries that hold what was registered -/

namespace Registry

variable {q r r' : Registry}

/-- The names of a sound registry tell its declarations apart. -/
theorem Sound.consistent (h : r.Sound) : Catalogue.Consistent (· ∈ r.decls) id where
  eq d e hd he hident := List.inj_on_of_nodup_map h.distinct hd he hident
  apart d e _ _ _ _ _ _ _ hspec := by
    rwa [TypeSpec.redocument_id, TypeSpec.redocument_id] at hspec

theorem Extends.followedBy (h : q.Extends r) : q.FollowedBy (· ∈ r.decls) id r where
  reserved name := by rw [h.reserved]
  carried d hd := by
    rw [TypeDecl.redocument_id]
    exact h.decls.subset hd
  within e he := ⟨e, he, e.redocument_id⟩

/-- What is added to a sound registry is new to it. -/
theorem Extends.eq_of_subset (h : r.Extends r') (hr' : r'.Sound) (hsub : r'.decls ⊆ r.decls) :
    r' = r := by
  obtain ⟨more, hmore⟩ := h.decls
  have hdistinct := hr'.distinct
  rw [← hmore, List.map_append, List.nodup_append] at hdistinct
  have hnone : more = [] := by
    rw [List.eq_nil_iff_forall_not_mem]
    intro d hd
    have hold : d ∈ r.decls := hsub (hmore ▸ List.mem_append_right _ hd)
    exact hdistinct.2.2 _ (List.mem_map_of_mem hold) _ (List.mem_map_of_mem hd) rfl
  rw [hnone, List.append_nil] at hmore
  cases r
  cases r'
  exact congrArg₂ Registry.mk h.reserved hmore.symm

end Registry

/-! ## The same mapping again -/

section Again

variable {α β : Type} {m : MetaModel} {documented : Bool} {context context' : String}
  {q q' r : Registry}

/-- A mapping that replays another one registers nothing where the other's declarations are held. -/
theorem Replays.run_again {x y : Mapping α} (hreplays : Replays (· ∈ r.decls) id x y id)
    {z : Except MappingError β} {R : Registry → α → β → Prop} (hy : Simulates m r y z R) {a : α}
    (hrun : x.run q = (.ok a, q')) (hext : q'.Extends r) : y.run r = (.ok a, r) := by
  obtain ⟨hreserved, hsub, hreplay⟩ := hreplays q a q' hrun fun d hd => hext.decls.subset hd
  obtain ⟨r', hagain, hgains⟩ := hreplay r
    (hext.followedBy.of_subset hreserved hsub)
  have hgrows := hy.grows
  have hfits := hy.fits
  rw [hagain] at hgrows hfits
  have hold : r'.decls ⊆ r.decls := by
    intro e he
    rcases (hgains.mem_iff e).mp he with he | ⟨d, hd, rfl⟩
    · exact he
    · rw [TypeDecl.redocument_id]
      exact hext.decls.subset hd
  obtain rfl : r' = r := hgrows.eq_of_subset hfits.wellFormed.sound hold
  exact hagain

namespace MetaModel

/-- Mapping the type of a value that may be absent. -/
def mapValue (m : MetaModel) (documented optional : Bool) (context hint : String) (t : TypeExpr) :
    Mapping TargetType :=
  TargetType.optionalIf optional <$> m.mapType documented context hint t

theorem mapType_again (hr : r.Fits m) {hint : String} {t : TypeExpr} {u : TargetType}
    (hrun : (m.mapType documented context hint t).run q = (.ok u, q')) (hext : q'.Extends r) :
    (m.mapType documented context' hint t).run r = (.ok u, r) := by
  have hreplays : Replays (· ∈ r.decls) id (m.mapType documented context hint t)
      (m.mapType documented context' hint t) id :=
    mapType_replays hr.wellFormed.sound.consistent ⟨.refl m, fun _ => rfl⟩ hint t
  exact hreplays.run_again (mapType_simulates hint t hr) hrun hext

theorem mapValue_again (hr : r.Fits m) {optional : Bool} {hint : String} {t : TypeExpr}
    {u : TargetType} (hrun : (m.mapValue documented optional context hint t).run q = (.ok u, q'))
    (hext : q'.Extends r) :
    (m.mapValue documented optional context' hint t).run r = (.ok u, r) := by
  obtain ⟨u, htype, rfl⟩ := Mapping.run_map_eq_ok.mp hrun
  exact Mapping.run_map_eq_ok.mpr ⟨u, mapType_again hr htype hext, rfl⟩

theorem mapProperty_again (hr : r.Fits m) {owner : String} {p : Property} {f : Field}
    (hrun : (m.mapProperty documented context owner p).run q = (.ok f, q'))
    (hext : q'.Extends r) :
    (m.mapProperty documented context' owner p).run r = (.ok f, r) := by
  have hreplays : Replays (· ∈ r.decls) id (m.mapProperty documented context owner p)
      (m.mapProperty documented context' owner p) id :=
    mapProperty_replays hr.wellFormed.sound.consistent ⟨.refl m, fun _ => rfl⟩ owner p
  exact hreplays.run_again (mapProperty_simulates owner p hr) hrun hext

end MetaModel
end Again

/-! ## Mappings one after another -/

/-- From a registry that fits the model the mapping leaves one that holds more and fits as well. -/
def Steady {α : Type} (m : MetaModel) (x : Mapping α) : Prop :=
  ∀ r : Registry, r.Fits m → (x.run r).2.Fits m ∧ r.Extends (x.run r).2

theorem Steady.of_simulates {α β : Type} {m : MetaModel} {x : Mapping α} {y : Except MappingError β}
    {R : Registry → α → β → Prop} (h : ∀ r : Registry, r.Fits m → Simulates m r x y R) :
    Steady m x :=
  fun r hr => ⟨(h r hr).fits, (h r hr).grows⟩

/-- Each item of a list was mapped from a fitting registry, and all that it registered was kept. -/
theorem Steady.runs_of_mapM {ι α : Type} {m : MetaModel} {f : ι → Mapping α} {xs : List ι}
    {as : List α} {q r : Registry} (hf : ∀ x, Steady m (f x)) (hq : q.Fits m)
    (hrun : (xs.mapM f).run q = (.ok as, r)) :
    (r.Fits m ∧ q.Extends r) ∧ List.Forall₂ (fun x a => ∃ q₁ q₂ : Registry, q₁.Fits m ∧
      (f x).run q₁ = (.ok a, q₂) ∧ q₂.Extends r) xs as := by
  induction xs generalizing q as with
  | nil =>
    cases hrun
    exact ⟨⟨hq, .refl _⟩, .nil⟩
  | cons x xs ih =>
    rw [List.mapM_cons] at hrun
    obtain ⟨a, q₁, hx, hrest⟩ := Mapping.run_bind_eq_ok.mp hrun
    obtain ⟨as, q₂, hxs, hpure⟩ := Mapping.run_bind_eq_ok.mp hrest
    cases hpure
    have hx' := hf x q hq
    rw [hx] at hx'
    obtain ⟨⟨hr, hext⟩, hruns⟩ := ih hx'.1 hxs
    exact ⟨⟨hr, hx'.2.trans hext⟩, .cons ⟨q, q₁, hq, hx, hext⟩ hruns⟩

namespace MetaModel

variable {m : MetaModel} {documented : Bool} {q r : Registry}

theorem registryAfter_extends (hr : r.Fits m) (call : Mapping.Call) :
    r.Extends (m.registryAfter documented r call) := by
  cases call with
  | type context hint t => exact (mapType_simulates hint t hr).grows
  | property context owner p => exact (mapProperty_simulates owner p hr).grows
  | declaration name t docs => exact (declare_simulates hr name t docs).grows
  | struct flattenBases s => exact (mapStructure_simulates hr s).grows
  | typeAlias a => exact (mapAlias_simulates hr a).grows

/-- Calls keep what was registered before them. -/
theorem foldl_registryAfter (hr : r.Fits m) (calls : List Mapping.Call) :
    (calls.foldl (m.registryAfter documented) r).Fits m ∧
      r.Extends (calls.foldl (m.registryAfter documented) r) := by
  induction calls generalizing r with
  | nil => exact ⟨hr, .refl r⟩
  | cons call calls ih =>
    obtain ⟨hfits, hext⟩ := ih (registryAfter_fits hr call)
    exact ⟨hfits, (registryAfter_extends hr call).trans hext⟩

/-! ## Copies of properties -/

/-- The type that the registry has for the field of a property, whichever record it stands in. -/
def copyType (m : MetaModel) (documented : Bool) (r : Registry) (p : OwnedProperty) : TargetType :=
  match ((m.mapProperty documented p.owner p.owner p.property).run r).1 with
  | .ok f => f.type
  | .error _ => .primitive .unit

theorem copyType_eq (hr : r.Fits m) {context : String} {p : OwnedProperty} {f : Field}
    {q' : Registry}
    (hrun : (m.mapProperty documented context p.owner p.property).run q = (.ok f, q'))
    (hext : q'.Extends r) : m.copyType documented r p = f.type := by
  have hagain : (m.mapProperty documented p.owner p.owner p.property).run r = (.ok f, r) :=
    mapProperty_again hr hrun hext
  rw [copyType, hagain]

theorem run_recordParts_flat {s : Structure} {bases : List Base} {ps : List OwnedProperty}
    {q' : Registry}
    (h : (Mapping.ofResolution (m.recordParts true s)).run q = (.ok (bases, ps), q')) :
    bases = [] ∧ m.flatten s = .ok ps ∧ q = q' := by
  rw [recordParts] at h
  cases hall : m.flatten s with
  | error e =>
    rw [hall] at h
    cases h
  | ok all =>
    rw [hall] at h
    cases h
    exact ⟨rfl, rfl, rfl⟩

/-- The record of a structure, with its inherited properties copied: each field has the type that a
later registry has for its property. -/
theorem types_of_mapStructure {s : Structure} {d : TypeDecl} {q' : Registry} (hq : q.Fits m)
    (hrun : (m.mapStructure ⟨true, documented⟩ s).run q = (.ok d, q')) (hr : r.Fits m)
    (hext : q'.Extends r) :
    ∃ ps fields, m.flatten s = .ok ps ∧ d.ident = s.name ∧ d.spec = .record [] fields ∧
      fields.map (·.type) = ps.map (m.copyType documented r) := by
  obtain ⟨⟨bases, ps⟩, q₁, hparts, hfields⟩ := Mapping.run_bind_eq_ok.mp hrun
  obtain ⟨rfl, hall, rfl⟩ := run_recordParts_flat hparts
  obtain ⟨fields, q₂, hmapM, hpure⟩ := Mapping.run_bind_eq_ok.mp hfields
  cases hpure
  have hsteady : ∀ p : OwnedProperty,
      Steady m (m.mapProperty documented s.name p.owner p.property) :=
    fun p => .of_simulates fun r hr => mapProperty_simulates p.owner p.property hr
  have hruns := (Steady.runs_of_mapM hsteady hq hmapM).2
  have htypes : List.Forall₂ (fun p f => m.copyType documented r p = f.type) ps fields :=
    hruns.imp fun p f ⟨q₁, q₂, _, hf, hext'⟩ => copyType_eq hr hf (hext'.trans hext)
  refine ⟨ps, _, hall, rfl, rfl, ?_⟩
  exact (map_eq_map_of_forall₂ (Members.forall₂_fields_distinct (fun _ _ _ h => h) htypes)
    fun _ _ h => h).symm

/-- In the records of a run every property has one type, however often it is copied. -/
theorem types_of_collect {set : DeclSet} (h : m.collect ⟨true, documented⟩ = .ok set) :
    ∃ r : Registry, ∀ s, .struct s ∈ m.primaries →
      ∃ ps docs fields, m.flatten s = .ok ps ∧
        .type ⟨s.name, docs, .record [] fields⟩ ∈ set.decls ∧
        fields.map (·.type) = ps.map (m.copyType documented r) := by
  rw [collect] at h
  split at h
  · rename_i decls r hrun
    cases h
    obtain ⟨dss, r', hmapM, hpure⟩ := Mapping.run_bind_eq_ok.mp hrun
    cases hpure
    have hsteady : ∀ d : Declared, Steady m (m.mapDeclared ⟨true, documented⟩ d) :=
      fun d => .of_simulates fun q hq => mapDeclared_simulates hq d
    obtain ⟨⟨hr, _⟩, hruns⟩ := Steady.runs_of_mapM hsteady (.empty m) hmapM
    refine ⟨r, fun s hs => ?_⟩
    obtain ⟨ds, hds, q, q', hq, hrun, hext⟩ := exists_of_forall₂ hruns hs
    obtain ⟨d, q', hstruct, hpure⟩ := Mapping.run_bind_eq_ok.mp hrun
    cases hpure
    obtain ⟨ps, fields, hall, hident, hspec, htypes⟩ := types_of_mapStructure hq hstruct hr hext
    obtain ⟨ident, docs, spec⟩ := d
    cases hident
    cases hspec
    refine ⟨ps, docs, fields, hall, List.mem_append_left _ ?_, htypes⟩
    exact List.mem_flatten.mpr ⟨_, hds, List.mem_singleton_self _⟩
  · cases h

/-! ## Stability -/

/-- Each property has one type, which it has in every record that it is copied into. -/
def OneTypeEach (m : MetaModel) (decls : List Decl) : Prop :=
  ∃ typeOf : OwnedProperty → TargetType, ∀ s, m.Indexes (.struct s) →
    ∃ ps docs fields, m.flatten s = .ok ps ∧ .type ⟨s.name, docs, .record [] fields⟩ ∈ decls ∧
      fields.map (·.type) = ps.map typeOf

/-- A type that was mapped once, after whatever calls, is mapped to the same type after any further
ones, and registers nothing. So where properties are copied, all copies of one have one type. -/
theorem remapping_stable (m : MetaModel) (documented : Bool) :
    (∀ calls optional context hint t u r,
      (m.mapValue documented optional context hint t).run (m.registryAfterAll documented calls) =
        (.ok u, r) →
      ∀ (more : List Mapping.Call) (context' : String),
        let r' := more.foldl (m.registryAfter documented) r
        (m.mapValue documented optional context' hint t).run r' = (.ok u, r')) ∧
    ∀ set, m.collect ⟨true, documented⟩ = .ok set → m.OneTypeEach set.decls := by
  constructor
  · intro calls optional context hint t u r hrun more context' r'
    have hr : r.Fits m := by
      obtain ⟨u, htype, _⟩ := Mapping.run_map_eq_ok.mp hrun
      have hsteady : Steady m (m.mapType documented context hint t) :=
        .of_simulates fun q hq => mapType_simulates hint t hq
      have hcalls : (m.registryAfterAll documented calls).Fits m := registryAfterAll_fits calls
      have hafter := hsteady _ hcalls
      rw [htype] at hafter
      exact hafter.1
    obtain ⟨hr', hext⟩ := foldl_registryAfter hr more
    exact mapValue_again hr' hrun hext
  · intro set hset
    obtain ⟨r, hr⟩ := types_of_collect hset
    exact ⟨m.copyType documented r, fun s hs => hr s (indexes_iff.mp hs)⟩

/-- A draft and a note that take over one label, which is a text or a number. -/
def labelled : MetaModel where
  version := "1"
  requests := []
  notifications := []
  structures := [
    ⟨"Draft", [⟨"title", .base "string", false, {}⟩], [.reference "Labelled"], [], {}⟩,
    ⟨"Labelled", [⟨"label", .or [.base "string", .base "integer"], true, {}⟩], [], [], {}⟩,
    ⟨"Note", [], [], [.reference "Labelled"], {}⟩]
  enumerations := []
  typeAliases := []

/-- A flag has the name that the label asks for. -/
def flagCall : List Mapping.Call := [
  .type "Note" "LabelledLabel" (.or [.base "boolean", .base "null", .base "string"])]

/-- The label is mapped for a record, and a type under its name fails halfway. -/
def laterCalls : List Mapping.Call := [
  .struct true ⟨"Note", [], [], [.reference "Labelled"], {}⟩,
  .type "Draft" "LabelledLabel2" (.tuple [.and [.reference "Note"], .reference "Nowhere"])]

def labelType : TypeExpr :=
  .or [.base "string", .base "integer"]

/-- The union that the label becomes, under a name it may have. -/
def labelUnion (name : String) : TypeDecl :=
  ⟨name, {}, .union [⟨"String", some (.primitive .string)⟩, ⟨"Integer", some (.primitive .int32)⟩]⟩

def labelledRegistry : Registry where
  reserved := ["Draft", "Labelled", "Note"]
  decls := [
    ⟨"LabelledLabel", {}, .union [⟨"Boolean", some (.primitive .bool)⟩,
      ⟨"String", some (.primitive .string)⟩]⟩,
    labelUnion "LabelledLabel2"]

def laterRegistry : Registry :=
  laterCalls.foldl (labelled.registryAfter true) labelledRegistry

def labelField : Field :=
  ⟨"label", "label", .option (.symbol "LabelledLabel"), true, {}⟩

def labelledSet : DeclSet where
  decls := [
    .type ⟨"Draft", {}, .record [] [labelField, ⟨"title", "title", .primitive .string, false, {}⟩]⟩,
    .type ⟨"Labelled", {}, .record [] [labelField]⟩,
    .type ⟨"Note", {}, .record [] [labelField]⟩,
    .type (labelUnion "LabelledLabel")]

theorem labelled_remapped :
    (labelled.mapValue true true "Labelled" "LabelledLabel" labelType).run
        (labelled.registryAfterAll true flagCall) =
      (.ok (.option (.symbol "LabelledLabel2")), labelledRegistry) ∧
    (labelled.mapValue true true "Note" "LabelledLabel" labelType).run laterRegistry =
      (.ok (.option (.symbol "LabelledLabel2")), laterRegistry) ∧
    labelled.collect ⟨true, true⟩ = .ok labelledSet ∧ labelled.OneTypeEach labelledSet.decls := by
  have hrun : (labelled.mapValue true true "Labelled" "LabelledLabel" labelType).run
      (labelled.registryAfterAll true flagCall) =
      (.ok (.option (.symbol "LabelledLabel2")), labelledRegistry) := by decide +kernel
  have hset : labelled.collect ⟨true, true⟩ = .ok labelledSet := by decide +kernel
  obtain ⟨hagain, htypes⟩ := remapping_stable labelled true
  exact ⟨hrun, hagain _ _ _ _ _ _ _ hrun laterCalls "Note", hset, htypes _ hset⟩

end MetaModel
end ProtocolTypes
