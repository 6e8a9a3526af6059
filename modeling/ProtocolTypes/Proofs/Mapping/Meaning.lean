import ProtocolTypes.Proofs.Mapping.SymbolTable
import ProtocolTypes.Proofs.Model.TypeExpr

/-!
# ProtocolTypes.Proofs.Mapping.Meaning

What types mean, told apart from how they are mapped.

* `Means` relates a type to a shape, by one rule for each form of types and `Choice` for unions. The
  translation computes it (`translate_eq_ok_iff`).
* `resolved_type_means`: whatever was mapped before, with or without success, the type that mapping
  gives stands for what the type expression means, once the names of the registry are followed.
-/

namespace ProtocolTypes

open Target

/-! ## The meaning of types -/

namespace TypeExpr

/-- The known base types, each with its primitive. -/
def baseTypes : List (String × Primitive) :=
  [("string", .string), ("URI", .string), ("DocumentUri", .string), ("RegExp", .string),
    ("integer", .int32), ("uinteger", .uint32), ("decimal", .float64), ("number", .float64),
    ("boolean", .bool), ("null", .unit)]

/-- The type is a literal, of the primitive and with the value. -/
inductive IsLiteral : TypeExpr → Primitive → LiteralValue → Prop where
  | string {s : String} : IsLiteral (.stringLiteral s) .string (.text s)
  | integer {i : Int64} : IsLiteral (.integerLiteral i) .int32 (.integer i)
  | boolean {b : Bool} : IsLiteral (.booleanLiteral b) .bool (.boolean b)

/-- The types are literals of one primitive, with the values in order. -/
def LiteralsOf (p : Primitive) : List TypeExpr → List LiteralValue → Prop :=
  List.Forall₂ fun t v => t.IsLiteral p v

/-- The items of a union apart from null. -/
def besidesNull (items : List TypeExpr) : List TypeExpr :=
  items.filter fun
    | .base "null" => false
    | _ => true

end TypeExpr

/-- What a choice between types means, when `R` says what the types mean. -/
inductive Choice (R : TypeExpr → Shape → Prop) : List TypeExpr → Shape → Prop where
  | none : Choice R [] (.primitive .unit)
  | single {t : TypeExpr} {s : Shape} : R t s → Choice R [t] s
  | literals {t u : TypeExpr} {ts : List TypeExpr} {p : Primitive} {vs : List LiteralValue} :
      TypeExpr.LiteralsOf p (t :: u :: ts) vs → Choice R (t :: u :: ts) (.constrained p vs)
  | variants {t u : TypeExpr} {ts : List TypeExpr} {ss : List Shape} :
      (∀ p vs, ¬ TypeExpr.LiteralsOf p (t :: u :: ts) vs) → List.Forall₂ R (t :: u :: ts) ss →
      Choice R (t :: u :: ts) (.ofVariants (t :: u :: ts) ss)

/-- What a type means. -/
inductive MetaModel.Means (m : MetaModel) (documented : Bool) : TypeExpr → Shape → Prop where
  | base {name : String} {p : Primitive} :
      (name, p) ∈ TypeExpr.baseTypes → Means m documented (.base name) (.primitive p)
  | reference {name : String} :
      name ∈ m.names → Means m documented (.reference name) (.symbol name)
  | array {element : TypeExpr} {s : Shape} :
      Means m documented element s → Means m documented (.array element) (.list s)
  | map {key value : TypeExpr} {k v : Shape} :
      Means m documented key k → Means m documented value v →
      Means m documented (.map key value) (.map k v)
  | tuple {items : List TypeExpr} {ss : List Shape} :
      List.Forall₂ (Means m documented) items ss → Means m documented (.tuple items) (.tuple ss)
  | stringLiteral {s : String} :
      Means m documented (.stringLiteral s) (.constrained .string [.text s])
  | integerLiteral {i : Int64} :
      Means m documented (.integerLiteral i) (.constrained .int32 [.integer i])
  | booleanLiteral {b : Bool} :
      Means m documented (.booleanLiteral b) (.constrained .bool [.boolean b])
  | literal {l : StructLiteral} {ss : List Shape} :
      List.Forall₂ (Means m documented) (l.properties.map (·.type)) ss →
      Means m documented (.literal l)
        (.ofMembers [] (List.zipWith (Property.fieldShape documented) l.properties ss))
  | and {items : List TypeExpr} {ss : List Shape} :
      List.Forall₂ (Means m documented) items ss → Means m documented (.and items) (.record ss [])
  /-- Null among the items makes the choice between the others optional. -/
  | or {items : List TypeExpr} {s : Shape} {nullable : Bool} :
      (nullable = true ↔ .base "null" ∈ items) →
      Choice (Means m documented) (TypeExpr.besidesNull items) s →
      Means m documented (.or items) (s.optionalIf nullable)

/-! ## Choices -/

namespace TypeExpr

theorem mem_baseTypes {name : String} {p : Primitive} :
    (name, p) ∈ baseTypes ↔ Primitive.ofBase? name = some p := by
  constructor
  · have hall : ∀ b ∈ baseTypes, Primitive.ofBase? b.1 = some b.2 := by decide
    exact hall (name, p)
  · intro h
    unfold Primitive.ofBase? at h
    split at h <;> cases h <;> decide

theorem isLiteral_iff {t : TypeExpr} {p : Primitive} {v : LiteralValue} :
    t.IsLiteral p v ↔ t.literal? = some v ∧ v.primitive = p := by
  constructor
  · rintro (_ | _ | _) <;> exact ⟨rfl, rfl⟩
  · rintro ⟨hv, rfl⟩
    cases t with
    | stringLiteral | integerLiteral | booleanLiteral =>
      cases hv
      constructor
    | _ => cases hv

theorem literalsOf_iff {p : Primitive} {ts : List TypeExpr} {vs : List LiteralValue} :
    LiteralsOf p ts vs ↔
      List.Forall₂ (fun t v => t.literal? = some v) ts vs ∧ ∀ v ∈ vs, v.primitive = p := by
  constructor
  · intro h
    refine ⟨h.imp fun _ _ ht => (isLiteral_iff.mp ht).1, fun v hv => ?_⟩
    obtain ⟨t, _, ht⟩ := exists_of_forall₂_right h hv
    exact (isLiteral_iff.mp ht).2
  · rintro ⟨hvalues, hprimitive⟩
    induction hvalues with
    | nil => exact .nil
    | cons hv _ ih =>
      obtain ⟨hp, hprimitive⟩ := List.forall_mem_cons.mp hprimitive
      exact .cons (isLiteral_iff.mpr ⟨hv, hp⟩) (ih hprimitive)

theorem isNull_iff {t : TypeExpr} : t.isNull = true ↔ t = .base "null" := by
  cases t <;> simp [isNull, base?]

theorem hasNull_iff {items : List TypeExpr} : hasNull items = true ↔ .base "null" ∈ items := by
  simp only [hasNull, List.any_eq_true, isNull_iff, exists_eq_right]

theorem besidesNull_eq (items : List TypeExpr) : besidesNull items = alternatives items := by
  refine List.filter_congr fun t _ => ?_
  rw [Bool.eq_iff_iff, Bool.not_eq_true', ← Bool.not_eq_true, isNull_iff]
  split
  · simp
  · rename_i hnot
    simpa using hnot

end TypeExpr

/-- Literals of one primitive are found, and nothing else is. -/
theorem TypeExpr.commonPrimitive?_eq_some_iff {ts : List TypeExpr} (hne : ts ≠ [])
    {w : TargetType} :
    commonPrimitive? ts = some w ↔ ∃ p vs, LiteralsOf p ts vs ∧ .constrained p vs = w := by
  constructor
  · intro h
    rw [commonPrimitive?] at h
    split at h
    · rename_i v vs hvalues
      split at h
      · rename_i hall
        cases h
        refine ⟨v.primitive, v :: vs, literalsOf_iff.mpr ⟨mapM_eq_some_iff.mp hvalues, ?_⟩, rfl⟩
        simpa using hall
      · cases h
    · cases h
  · rintro ⟨p, vs, hliterals, rfl⟩
    obtain ⟨hvalues, hprimitive⟩ := literalsOf_iff.mp hliterals
    cases hvalues with
    | nil => exact absurd rfl hne
    | @cons t v ts vs hv hvs =>
      have hmapM : (t :: ts).mapM literal? = some (v :: vs) := mapM_eq_some_iff.mpr (.cons hv hvs)
      obtain rfl : v.primitive = p := hprimitive v List.mem_cons_self
      have hall : vs.all (fun w => w.primitive = v.primitive) = true := by
        rw [List.all_eq_true]
        intro w hw
        exact decide_eq_true (hprimitive w (List.mem_cons_of_mem _ hw))
      rw [commonPrimitive?, hmapM]
      dsimp only
      rw [if_pos hall]

theorem TypeExpr.LiteralsOf.unique {p q : Primitive} {ts : List TypeExpr}
    {vs ws : List LiteralValue} (hvs : LiteralsOf p ts vs) (hws : LiteralsOf q ts ws)
    (hne : ts ≠ []) : p = q ∧ vs = ws := by
  have hp := (commonPrimitive?_eq_some_iff hne).mpr ⟨p, vs, hvs, rfl⟩
  have hq := (commonPrimitive?_eq_some_iff hne).mpr ⟨q, ws, hws, rfl⟩
  rw [hp] at hq
  cases hq
  exact ⟨rfl, rfl⟩

namespace Choice

variable {R S : TypeExpr → Shape → Prop} {ts : List TypeExpr} {s : Shape}

theorem imp (hRS : ∀ t ∈ ts, ∀ s, R t s ↔ S t s) (h : Choice R ts s) : Choice S ts s := by
  cases h with
  | none => exact .none
  | single ht => exact .single ((hRS _ List.mem_cons_self _).mp ht)
  | literals hvs => exact .literals hvs
  | variants hnot hss => exact .variants hnot ((forall₂_congr_mem hRS).mp hss)

theorem congr (hRS : ∀ t ∈ ts, ∀ s, R t s ↔ S t s) : Choice R ts s ↔ Choice S ts s :=
  ⟨imp hRS, imp fun t ht s => (hRS t ht s).symm⟩

theorem nil_iff : Choice R [] s ↔ .primitive .unit = s := by
  constructor
  · intro h
    cases h
    rfl
  · rintro rfl
    exact .none

theorem singleton_iff {t : TypeExpr} : Choice R [t] s ↔ R t s := by
  constructor
  · intro h
    cases h with
    | single ht => exact ht
  · exact .single

theorem literals_iff {t u : TypeExpr} {p : Primitive} {vs : List LiteralValue}
    (h : TypeExpr.LiteralsOf p (t :: u :: ts) vs) :
    Choice R (t :: u :: ts) s ↔ .constrained p vs = s := by
  constructor
  · intro hs
    cases hs with
    | literals h' =>
      obtain ⟨rfl, rfl⟩ := h.unique h' (List.cons_ne_nil _ _)
      rfl
    | variants hnot _ => exact absurd h (hnot p vs)
  · rintro rfl
    exact .literals h

theorem variants_iff {t u : TypeExpr} (h : ∀ p vs, ¬ TypeExpr.LiteralsOf p (t :: u :: ts) vs) :
    Choice R (t :: u :: ts) s ↔
      ∃ ss, List.Forall₂ R (t :: u :: ts) ss ∧ .ofVariants (t :: u :: ts) ss = s := by
  constructor
  · intro hs
    cases hs with
    | literals hvs => exact absurd hvs (h _ _)
    | variants _ hss => exact ⟨_, hss, rfl⟩
  · rintro ⟨ss, hss, rfl⟩
    exact .variants h hss

end Choice

/-! ## The translation computes the meaning -/

namespace MetaModel

section Translation

variable {m : MetaModel} {documented : Bool} {context : String}

/-- A union is translated by the choice it leaves. -/
theorem translate_or_eq_ok_iff {items : List TypeExpr} {s : Shape} :
    m.translate documented context (.or items) = .ok s ↔
      ∃ u, Choice (fun t u => m.translate documented context t = .ok u)
        (TypeExpr.alternatives items) u ∧ u.optionalIf (TypeExpr.hasNull items) = s := by
  rw [translate]
  rcases halt : TypeExpr.alternatives items with _ | ⟨t, _ | ⟨t', ts⟩⟩
  · have hform : TypeExpr.unionForm items = .single := by rw [TypeExpr.unionForm, halt]
    simp only [hform, translateSingle_eq, halt, Choice.nil_iff, bind_eq_ok, pure_eq_ok,
      Except.ok.injEq]
  · have hform : TypeExpr.unionForm items = .single := by rw [TypeExpr.unionForm, halt]
    simp only [hform, translateSingle_eq, halt, Choice.singleton_iff, bind_eq_ok, pure_eq_ok]
  · cases hcommon : TypeExpr.commonPrimitive? (t :: t' :: ts) with
    | some w =>
      have hform := TypeExpr.unionForm_of_cons_cons halt
      rw [hcommon, Option.elim_some] at hform
      obtain ⟨p, vs, hvs, rfl⟩ :=
        (TypeExpr.commonPrimitive?_eq_some_iff (List.cons_ne_nil _ _)).mp hcommon
      have hlimited := Option.some.inj (TypeExpr.shape_of_unionForm hform fun _ => none).1
      simp only [hform, ← hlimited, Choice.literals_iff hvs, bind_eq_ok, pure_eq_ok]
    | none =>
      have hform := TypeExpr.unionForm_of_cons_cons halt
      rw [hcommon, Option.elim_none] at hform
      have hnot : ∀ p vs, ¬ TypeExpr.LiteralsOf p (t :: t' :: ts) vs := by
        intro p vs hvs
        have heq := (TypeExpr.commonPrimitive?_eq_some_iff (List.cons_ne_nil _ _)).mpr
          ⟨p, vs, hvs, rfl⟩
        rw [hcommon] at heq
        cases heq
      simp only [hform, translateVariants_eq, halt, Choice.variants_iff hnot, bind_eq_ok,
        pure_eq_ok, ← mapM_eq_ok_iff]
      constructor
      · rintro ⟨_, ⟨ss, hss, rfl⟩, _, rfl, hs⟩
        exact ⟨_, ⟨ss, hss, rfl⟩, hs⟩
      · rintro ⟨_, ⟨ss, hss, rfl⟩, hs⟩
        exact ⟨_, ⟨ss, hss, rfl⟩, _, rfl, hs⟩

/-- The translation gives exactly what a type means. -/
theorem translate_eq_ok_iff {t : TypeExpr} {s : Shape} :
    m.translate documented context t = .ok s ↔ m.Means documented t s := by
  induction t using TypeExpr.induct generalizing s with
  | step t ih =>
    cases t with
    | base name =>
      simp only [translate, bind_eq_ok, pure_eq_ok, ofBase_eq_ok_iff]
      constructor
      · rintro ⟨p, hp, rfl⟩
        exact .base (TypeExpr.mem_baseTypes.mpr hp)
      · intro h
        cases h with
        | base hp => exact ⟨_, TypeExpr.mem_baseTypes.mp hp, rfl⟩
    | reference name =>
      simp only [translate, bind_eq_ok, pure_eq_ok, symbol_eq_ok_iff]
      constructor
      · rintro ⟨_, ⟨hname, _⟩, rfl⟩
        exact .reference hname
      · intro h
        cases h with
        | reference hname => exact ⟨_, ⟨hname, rfl⟩, rfl⟩
    | array element =>
      simp only [translate, bind_eq_ok, pure_eq_ok, ih element List.mem_cons_self]
      constructor
      · rintro ⟨u, hu, rfl⟩
        exact .array hu
      · intro h
        cases h with
        | array hu => exact ⟨_, hu, rfl⟩
    | map key value =>
      simp only [translate, bind_eq_ok, pure_eq_ok, ih key List.mem_cons_self,
        ih value (List.mem_cons_of_mem _ List.mem_cons_self)]
      constructor
      · rintro ⟨k, hk, v, hv, rfl⟩
        exact .map hk hv
      · intro h
        cases h with
        | map hk hv => exact ⟨_, hk, _, hv, rfl⟩
    | tuple items =>
      have hitems := fun ss => @forall₂_congr_mem _ _ _ items ss _ fun t ht s => @ih t ht s
      simp only [translate, bind_eq_ok, pure_eq_ok, translateItems_eq, mapM_eq_ok_iff, hitems]
      constructor
      · rintro ⟨ss, hss, rfl⟩
        exact .tuple hss
      · intro h
        cases h with
        | tuple hss => exact ⟨_, hss, rfl⟩
    | and items =>
      have hitems := fun ss => @forall₂_congr_mem _ _ _ items ss _ fun t ht s => @ih t ht s
      simp only [translate, bind_eq_ok, pure_eq_ok, translateItems_eq, mapM_eq_ok_iff, hitems]
      constructor
      · rintro ⟨ss, hss, rfl⟩
        exact .and hss
      · intro h
        cases h with
        | and hss => exact ⟨_, hss, rfl⟩
    | or items =>
      have hchoice := fun u => @Choice.congr _ _ (TypeExpr.alternatives items) u fun t ht s =>
        @ih t (List.mem_filter.mp ht).1 s
      simp only [translate_or_eq_ok_iff, hchoice]
      constructor
      · rintro ⟨u, hu, rfl⟩
        exact .or TypeExpr.hasNull_iff (TypeExpr.besidesNull_eq items ▸ hu)
      · intro h
        cases h with
        | or hnull hu =>
          rw [Bool.eq_iff_iff.mpr (hnull.trans TypeExpr.hasNull_iff.symm)]
          exact ⟨_, TypeExpr.besidesNull_eq items ▸ hu, rfl⟩
    | literal l =>
      have hproperties := fun ss =>
        @forall₂_congr_mem _ _ _ (TypeExpr.literal l).children ss _ fun t ht s => @ih t ht s
      simp only [TypeExpr.children] at hproperties
      simp only [translate, bind_eq_ok, pure_eq_ok, translateLiteral_eq, mapM_eq_ok_iff,
        hproperties]
      constructor
      · rintro ⟨fs, ⟨ss, hss, rfl⟩, rfl⟩
        exact .literal hss
      · intro h
        cases h with
        | literal hss => exact ⟨_, ⟨_, hss, rfl⟩, rfl⟩
    | stringLiteral | integerLiteral | booleanLiteral =>
      rw [translate, pure_eq_ok]
      constructor
      · rintro rfl
        constructor
      · intro h
        cases h
        rfl

/-- A translation mentions its context in errors only. -/
theorem translateProperty_context {context' : String} {p : Property} {f : FieldShape}
    (h : m.translateProperty documented context p = .ok f) :
    m.translateProperty documented context' p = .ok f := by
  rw [translateProperty_eq, map_eq_ok] at h ⊢
  obtain ⟨s, hs, rfl⟩ := h
  exact ⟨s, translate_eq_ok_iff.mpr (translate_eq_ok_iff.mp hs), rfl⟩

end Translation

/-! ## After any calls -/

end MetaModel

/-- What may be mapped one after another with one registry. -/
inductive Mapping.Call where
  | type (context hint : String) (t : TypeExpr)
  | property (context owner : String) (p : Property)
  | declaration (name : String) (t : TypeExpr) (docs : Docs)
  | struct (flattenBases : Bool) (s : Structure)
  | typeAlias (a : TypeAlias)

namespace MetaModel

variable {m : MetaModel} {documented : Bool}

/-- The registry after a call. A call that fails leaves what it registered so far. -/
def registryAfter (m : MetaModel) (documented : Bool) (r : Registry) : Mapping.Call → Registry
  | .type context hint t => ((m.mapType documented context hint t).run r).2
  | .property context owner p => ((m.mapProperty documented context owner p).run r).2
  | .declaration name t docs => ((m.declare documented name t docs).run r).2
  | .struct flattenBases s => ((m.mapStructure ⟨flattenBases, documented⟩ s).run r).2
  | .typeAlias a => ((m.mapAlias ⟨false, documented⟩ a).run r).2

theorem registryAfter_fits {r : Registry} (hr : r.Fits m) (call : Mapping.Call) :
    (m.registryAfter documented r call).Fits m := by
  cases call with
  | type context hint t => exact (mapType_simulates hint t hr).fits
  | property context owner p => exact (mapProperty_simulates owner p hr).fits
  | declaration name t docs => exact (declare_simulates hr name t docs).fits
  | struct flattenBases s => exact (mapStructure_simulates hr s).fits
  | typeAlias a => exact (mapAlias_simulates hr a).fits

/-- The registry after calls, one after another. -/
def registryAfterAll (m : MetaModel) (documented : Bool) (calls : List Mapping.Call) : Registry :=
  calls.foldl (m.registryAfter documented) (.empty m.names)

theorem registryAfterAll_fits (calls : List Mapping.Call) :
    (m.registryAfterAll documented calls).Fits m := by
  have hfold : ∀ r, r.Fits m → (calls.foldl (m.registryAfter documented) r).Fits m := by
    induction calls with
    | nil =>
      intro r hr
      exact hr
    | cons call calls ih =>
      intro r hr
      exact ih _ (registryAfter_fits hr call)
  exact hfold _ (.empty m)

/-- After any calls, a type that is mapped stands for its one meaning, once the names that are not
the model's are replaced by their declarations, as deep as there are declarations or deeper. -/
theorem resolved_type_means {calls : List Mapping.Call} {context hint : String} {t : TypeExpr}
    {u : TargetType} {r : Registry}
    (h : (m.mapType documented context hint t).run (m.registryAfterAll documented calls) =
      (.ok u, r)) {depth : Nat} (hdepth : r.decls.length ≤ depth) :
    ∃ s, u.shape (meaningIn m.names r.decls depth) = some s ∧
      ∀ s', m.Means documented t s' ↔ s' = s := by
  obtain ⟨hfits, _, hagree⟩ := @mapType_simulates m documented context _ hint t
    (registryAfterAll_fits calls)
  rw [h] at hfits hagree
  obtain ⟨s, hs, hdenotes⟩ := hagree.exists_of_ok
  refine ⟨s, ?_, fun s' => ?_⟩
  · have hshape := hdenotes.shape
    rw [Registry.meaning, hfits.reserved] at hshape
    exact TargetType.shape_mono (meaningIn_mono hdepth) hshape
  · rw [← @translate_eq_ok_iff m documented context, hs, Except.ok.injEq, eq_comm]

def labelKind : Property where
  name := "kind"
  type := .reference "ItemKind"
  optional := false
  annotations := { documentation := "What it is.", since := "3.17.0", proposed := true }

def labelMode : Property where
  name := "mode"
  type := .or [.stringLiteral "off", .base "null", .stringLiteral "on"]
  optional := true
  annotations := { deprecated := "Use the kind." }

/-- An inline structure with a kind and a mode, a text, or null. -/
def label : TypeExpr :=
  .or [.literal ⟨[labelKind, labelMode], {}⟩, .base "string", .base "null"]

/-- A union under the name that the label asks for, and a call that fails halfway. -/
def earlierCalls : List Mapping.Call := [
  .type "Item" "Label" (.or [.base "string", .base "integer"]),
  .type "Item" "Part" (.tuple [.and [.reference "Base"], .reference "Nowhere"])]

def labelKindDocs : Docs where
  text := "What it is."
  since := "3.17.0"
  proposed := true

def labelModeDocs : Docs where
  deprecated := "Use the kind."

def labelRegistry : Registry where
  reserved := inventory.names
  decls := [
    ⟨"Label", {}, .union [⟨"String", some (.primitive .string)⟩,
      ⟨"Integer", some (.primitive .int32)⟩]⟩,
    ⟨"Part0", {}, .record [⟨"base", .symbol "Base"⟩] []⟩,
    ⟨"LabelLiteral", {}, .record [] [⟨"kind", "kind", .symbol "ItemKind", false, labelKindDocs⟩,
      ⟨"mode", "mode", .option (.constrained .string [.text "off", .text "on"]), true,
        labelModeDocs⟩]⟩,
    ⟨"Label2", {}, .union [⟨"Literal", some (.symbol "LabelLiteral")⟩,
      ⟨"String", some (.primitive .string)⟩]⟩]

def labelShape : Shape :=
  .option (.union [
    ⟨"Literal", some (.record [] [⟨"kind", "kind", .symbol "ItemKind", false, labelKindDocs⟩,
      ⟨"mode", "mode", .option (.constrained .string [.text "off", .text "on"]), true,
        labelModeDocs⟩])⟩,
    ⟨"String", some (.primitive .string)⟩])

theorem resolved_label_means :
    (inventory.mapType true "Item" "Label" label).run
        (inventory.registryAfterAll true earlierCalls) =
      (.ok (.option (.symbol "Label2")), labelRegistry) ∧
    (TargetType.option (.symbol "Label2")).shape
      (meaningIn inventory.names labelRegistry.decls 4) = some labelShape ∧
    ∀ s, inventory.Means true label s ↔ s = labelShape := by
  have hrun : (inventory.mapType true "Item" "Label" label).run
      (inventory.registryAfterAll true earlierCalls) =
      (.ok (.option (.symbol "Label2")), labelRegistry) := by decide +kernel
  have hshape : (TargetType.option (.symbol "Label2")).shape
      (meaningIn inventory.names labelRegistry.decls 4) = some labelShape := by rfl
  obtain ⟨s, hs, hmeans⟩ := resolved_type_means hrun (Nat.le_refl 4)
  obtain rfl : labelShape = s := Option.some.inj (hshape.symm.trans hs)
  exact ⟨hrun, hshape, hmeans⟩

end MetaModel
end ProtocolTypes
