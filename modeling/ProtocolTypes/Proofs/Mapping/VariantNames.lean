import ProtocolTypes.Proofs.Mapping.Constants
import ProtocolTypes.Proofs.Mapping.Origin

/-!
# ProtocolTypes.Proofs.Mapping.VariantNames

The names of the variants of a union. A variant is named after its item; where an earlier variant has
that name already, the position is put behind it, and nobody looks whether the outcome is new. What
follows for the names is said on those of the items alone: `Repeats` are the positions that get a
number and `Meets` those whose numbered name is in use, so that the variants are distinct exactly when
no two positions meet and no item is named as the variant for null is (`union_variantNames`). Both
happen (`variants_clash`).
-/

namespace ProtocolTypes

open Target

/-! ## Names and positions -/

namespace NumberedNames

/-- The name at a position is in use ahead of it, for a name that is the same or that got its
position behind it. -/
inductive Repeats (names : List String) : Nat → Prop where
  | same {i j : Nat} {name : String} : j < i → names[i]? = some name → names[j]? = some name →
      Repeats names i
  | numbered {i j : Nat} {name : String} : j < i → names[i]? = some (name ++ toString j) →
      names[j]? = some name → Repeats names j → Repeats names i

/-- The name at `i` with its position is the name at `j`, or that one with its position. -/
structure Meets (names : List String) (j i : Nat) : Prop where
  lt : j < i
  repeats : Repeats names i
  eq : ∃ name other, names[i]? = some name ∧ names[j]? = some other ∧
    (other = name ++ toString i ∨ Repeats names j ∧ other ++ toString j = name ++ toString i)

/-- No name is another one with digits behind it. -/
def Unnumbered (names : List String) : Prop :=
  ∀ name ∈ names, ∀ other ∈ names, ∀ digits, Text.IsDigits digits → name ≠ other ++ digits

/-- Each of `names` becomes one of `idents`: itself, or itself with its position if it is among those
ahead. -/
structure Numbers (names idents : List String) : Prop where
  length : idents.length = names.length
  getElem? : ∀ i name, names[i]? = some name →
    idents[i]? = some (if name ∈ idents.take i then name ++ toString i else name)

theorem mem_take_iff {xs : List String} {i : Nat} {x : String} :
    x ∈ xs.take i ↔ ∃ j < i, xs[j]? = some x := by
  simp [List.mem_iff_getElem?, List.getElem?_take]

theorem nodup_iff_not_mem_take {xs : List String} :
    xs.Nodup ↔ ∀ i x, xs[i]? = some x → x ∉ xs.take i := by
  rw [List.nodup_iff_getElem?_ne_getElem?]
  constructor
  · intro hne i x hi hmem
    obtain ⟨j, hj, heq⟩ := mem_take_iff.mp hmem
    exact hne j i hj (List.getElem?_eq_some_iff.mp hi).1 (heq.trans hi.symm)
  · intro hnew j i hj hbound heq
    have hi := List.getElem?_eq_getElem hbound
    exact hnew i _ hi (mem_take_iff.mpr ⟨j, hj, heq.trans hi⟩)

namespace Numbers

variable {names idents : List String} (h : Numbers names idents)
include h

theorem exists_name {i : Nat} {ident : String} (hi : idents[i]? = some ident) :
    ∃ name, names[i]? = some name ∧
      ident = if name ∈ idents.take i then name ++ toString i else name := by
  have hname := List.getElem?_eq_getElem (h.length ▸ (List.getElem?_eq_some_iff.mp hi).1)
  refine ⟨_, hname, ?_⟩
  rw [h.getElem? i _ hname] at hi
  exact (Option.some.inj hi).symm

/-- The name of an item is the name of its variant or of an earlier one. -/
theorem mem_take_succ {j : Nat} {name : String} (hj : names[j]? = some name) :
    name ∈ idents.take (j + 1) := by
  have hident := h.getElem? j _ hj
  split at hident
  · rename_i hearlier
    exact List.take_subset_take_left _ (Nat.le_succ j) hearlier
  · exact mem_take_iff.mpr ⟨j, Nat.lt_succ_self j, hident⟩

/-- By induction on the position: a variant ahead either kept the name of its item or repeats as
well. -/
theorem mem_take_iff_repeats {i : Nat} {name : String} (hi : names[i]? = some name) :
    name ∈ idents.take i ↔ Repeats names i := by
  induction i using Nat.strong_induction_on generalizing name with
  | h i ih =>
  constructor
  · intro hmem
    obtain ⟨j, hj, hident⟩ := mem_take_iff.mp hmem
    obtain ⟨other, hother, heq⟩ := h.exists_name hident
    by_cases hearlier : other ∈ idents.take j
    · rw [if_pos hearlier] at heq
      exact .numbered hj (heq ▸ hi) hother ((ih j hj hother).mp hearlier)
    · rw [if_neg hearlier] at heq
      exact .same hj hi (heq ▸ hother)
  · intro hrepeats
    cases hrepeats with
    | @same _ j _ hj hi' hother =>
      obtain rfl := Option.some.inj (hi'.symm.trans hi)
      exact List.take_subset_take_left _ hj (h.mem_take_succ hother)
    | @numbered _ j other hj hi' hother hrepeats =>
      obtain rfl := Option.some.inj (hi'.symm.trans hi)
      have hident := h.getElem? j _ hother
      rw [if_pos ((ih j hj hother).mpr hrepeats)] at hident
      exact mem_take_iff.mpr ⟨j, hj, hident⟩

theorem getElem?_of_repeats {i : Nat} {name : String} (hi : names[i]? = some name)
    (hrepeats : Repeats names i) : idents[i]? = some (name ++ toString i) := by
  rw [h.getElem? i name hi, if_pos ((h.mem_take_iff_repeats hi).mpr hrepeats)]

theorem getElem?_of_not_repeats {i : Nat} {name : String} (hi : names[i]? = some name)
    (hrepeats : ¬ Repeats names i) : idents[i]? = some name := by
  rw [h.getElem? i name hi, if_neg (mt (h.mem_take_iff_repeats hi).mp hrepeats)]

theorem numbered_or_kept {i : Nat} {ident : String} (hi : idents[i]? = some ident) :
    ∃ name, names[i]? = some name ∧ (Repeats names i ∧ ident = name ++ toString i ∨
      ¬ Repeats names i ∧ ident = name) := by
  obtain ⟨name, hname, heq⟩ := h.exists_name hi
  refine ⟨name, hname, ?_⟩
  rw [← h.mem_take_iff_repeats hname]
  by_cases hearlier : name ∈ idents.take i
  · exact .inl ⟨hearlier, heq.trans (if_pos hearlier)⟩
  · exact .inr ⟨hearlier, heq.trans (if_neg hearlier)⟩

theorem mem_take_iff_meets {i : Nat} {ident : String} (hi : idents[i]? = some ident) :
    ident ∈ idents.take i ↔ ∃ j, Meets names j i := by
  obtain ⟨name, hname, hcase⟩ := h.numbered_or_kept hi
  constructor
  · intro hmem
    obtain ⟨hrepeats, rfl⟩ | ⟨hnew, rfl⟩ := hcase
    · obtain ⟨j, hj, hident⟩ := mem_take_iff.mp hmem
      obtain ⟨other, hother, ⟨hrepeats', heq⟩ | ⟨_, heq⟩⟩ := h.numbered_or_kept hident
      · exact ⟨j, hj, hrepeats, name, other, hname, hother, .inr ⟨hrepeats', heq.symm⟩⟩
      · exact ⟨j, hj, hrepeats, name, other, hname, hother, .inl heq.symm⟩
    · exact absurd ((h.mem_take_iff_repeats hname).mp hmem) hnew
  · rintro ⟨j, hj, hrepeats, name', other, hname', hother, hmeets⟩
    have hident := h.getElem?_of_repeats hname' hrepeats
    obtain rfl := Option.some.inj (hident.symm.trans hi)
    obtain rfl | ⟨hearlier, heq⟩ := hmeets
    · exact List.take_subset_take_left _ hj (h.mem_take_succ hother)
    · exact mem_take_iff.mpr ⟨j, hj, heq ▸ h.getElem?_of_repeats hother hearlier⟩

/-- Names are distinct exactly when no two positions meet. -/
theorem nodup_iff : idents.Nodup ↔ ∀ j i, ¬ Meets names j i := by
  rw [nodup_iff_not_mem_take]
  constructor
  · intro hnew j i hmeets
    obtain ⟨name, _, hname, _⟩ := hmeets.eq
    have hident := h.getElem?_of_repeats hname hmeets.repeats
    exact hnew i _ hident ((h.mem_take_iff_meets hident).mpr ⟨j, hmeets⟩)
  · intro hmeets i ident hident hmem
    obtain ⟨j, hj⟩ := (h.mem_take_iff_meets hident).mp hmem
    exact hmeets j i hj

/-- A name that does not end in a digit is given to a variant only where an item has it. -/
theorem mem_idents_iff {name : String} (hlast : name.toList.getLast?.any Char.isDigit = false) :
    name ∈ idents ↔ name ∈ names := by
  constructor
  · intro hmem
    obtain ⟨i, hi⟩ := List.mem_iff_getElem?.mp hmem
    obtain ⟨other, hother, ⟨_, heq⟩ | ⟨_, rfl⟩⟩ := h.numbered_or_kept hi
    · exact absurd heq (Text.ne_append_of_isDigits hlast (Text.isDigits_repr i))
    · exact List.mem_of_getElem? hother
  · intro hmem
    obtain ⟨i, hi⟩ := List.mem_iff_getElem?.mp hmem
    exact List.mem_of_mem_take (h.mem_take_succ hi)

end Numbers

/-- Positions meet only where a name is another one with digits behind it: the longer position goes on
where the name in front of the shorter one ends. -/
theorem not_meets_of_unnumbered {names : List String} (h : Unnumbered names) (j i : Nat) :
    ¬ Meets names j i := by
  -- What one number has in front of another one is a number as well.
  have hfront {n n' : Nat} {rest : String} (hne : n ≠ n') (heq : toString n = rest ++ toString n') :
      Text.IsDigits rest := by
    constructor
    · rintro rfl
      rw [String.empty_append] at heq
      exact hne (Text.repr_injective heq)
    · intro c hc
      refine (Text.isDigits_repr n).2 c ?_
      rw [show n.repr = rest ++ toString n' from heq, String.toList_append]
      exact List.mem_append_left _ hc
  rintro ⟨hlt, -, name, other, hi, hj, heq | ⟨-, heq⟩⟩
  · exact h _ (List.mem_of_getElem? hj) _ (List.mem_of_getElem? hi) _ (Text.isDigits_repr i) heq
  · obtain ⟨rest, hname, hnumber⟩ | ⟨rest, hname, hnumber⟩ := Text.append_eq_append_iff.mp heq
    · exact h _ (List.mem_of_getElem? hi) _ (List.mem_of_getElem? hj) _
        (hfront hlt.ne hnumber) hname
    · exact h _ (List.mem_of_getElem? hj) _ (List.mem_of_getElem? hi) _
        (hfront hlt.ne' hnumber) hname

end NumberedNames

/-! ## Variants -/

open NumberedNames

namespace TypeExpr

/-- The names of the items of a union that are not null. -/
def variantNames (items : List TypeExpr) : List String :=
  (alternatives items).map variantName

/-- By induction on the items: those ahead are the ones `taken` before and the ones named since. -/
theorem getElem?_variantIdents (taken : List String) (position : Nat) (ts : List TypeExpr)
    (i : Nat) :
    (variantIdents taken position ts)[i]? = ts[i]?.map
      (variantIdent (((variantIdents taken position ts).take i).reverse ++ taken)
        (position + i)) := by
  induction ts generalizing taken position i with
  | nil => rfl
  | cons t ts ih =>
    rw [variantIdents]
    cases i with
    | zero => rfl
    | succ i =>
      rw [List.getElem?_cons_succ, List.getElem?_cons_succ, List.take_succ_cons,
        List.reverse_cons, List.append_assoc, List.singleton_append, ih, Nat.add_right_comm,
        Nat.add_assoc]

theorem numbers_variantIdents (ts : List TypeExpr) :
    Numbers (ts.map variantName) (variantIdents [] 0 ts) where
  length := by rw [length_variantIdents, List.length_map]
  getElem? i name hi := by
    obtain ⟨t, ht, rfl⟩ := Option.map_eq_some_iff.mp (List.getElem?_map.symm.trans hi)
    rw [getElem?_variantIdents, ht, List.append_nil, Nat.zero_add, Option.map_some, variantIdent]
    simp only [List.contains_reverse, List.contains_iff_mem]

/-- The names of the variants of a union, with a variant for null or without. -/
structure VariantsNamed (items : List TypeExpr) (withNull : Bool) (vs : List Variant) : Prop where
  length : vs.length = (alternatives items).length + withNull.toNat
  /-- A variant whose name is in use ahead of it gets its position. -/
  numbered : ∀ i name, (variantNames items)[i]? = some name → Repeats (variantNames items) i →
    (vs.map (·.ident))[i]? = some (name ++ toString i)
  kept : ∀ i name, (variantNames items)[i]? = some name → ¬ Repeats (variantNames items) i →
    (vs.map (·.ident))[i]? = some name
  null : withNull = true → (vs.map (·.ident)).getLast? = some "Null"
  nodup_iff : (vs.map (·.ident)).Nodup ↔
    (∀ j i, ¬ Meets (variantNames items) j i) ∧ (withNull = true → "Null" ∉ variantNames items)
  nodup : Unnumbered (variantNames items) → (withNull = true → "Null" ∉ variantNames items) →
    (vs.map (·.ident)).Nodup

theorem variantsNamed {items : List TypeExpr} {withNull : Bool} {vs : List Variant}
    (h : vs.map (·.ident) = variantIdents [] 0 (alternatives items) ++
      if withNull then ["Null"] else []) : VariantsNamed items withNull vs := by
  have hnumbers : Numbers (variantNames items) (variantIdents [] 0 (alternatives items)) :=
    numbers_variantIdents (alternatives items)
  have hfront {i : Nat} {ident : String}
      (hi : (variantIdents [] 0 (alternatives items))[i]? = some ident) :
      (vs.map (·.ident))[i]? = some ident := by
    rw [h, List.getElem?_append_left (List.getElem?_eq_some_iff.mp hi).1, hi]
  have hnodup : (vs.map (·.ident)).Nodup ↔ (∀ j i, ¬ Meets (variantNames items) j i) ∧
      (withNull = true → "Null" ∉ variantNames items) := by
    rw [h, ← hnumbers.nodup_iff, ← hnumbers.mem_idents_iff (by decide)]
    cases withNull with
    | false => simp
    | true =>
      rw [if_pos rfl, ← List.concat_eq_append, List.nodup_concat, and_comm]
      simp
  constructor
  case length =>
    rw [← List.length_map (·.ident), h, List.length_append, length_variantIdents]
    cases withNull <;> rfl
  case numbered => exact fun i name hi hrepeats => hfront (hnumbers.getElem?_of_repeats hi hrepeats)
  case kept => exact fun i name hi hnew => hfront (hnumbers.getElem?_of_not_repeats hi hnew)
  case null =>
    rintro rfl
    rw [h, if_pos rfl, List.getLast?_concat]
  case nodup_iff => exact hnodup
  case nodup => exact fun hnames hnull => hnodup.mpr ⟨not_meets_of_unnumbered hnames, hnull⟩

end TypeExpr

/-! ## Unions that are mapped -/

namespace MetaModel

open TypeExpr

variable {m : MetaModel} {documented : Bool} {context hint : String}

/-- The declaration of a union names its variants after the items, whether null is one or not. -/
theorem variantsNamed_orNull {items : List TypeExpr} {us : List TargetType}
    (hform : unionForm items = .variants) (hlen : us.length = ((or items).parts hint).length)
    (withNull : Bool) {vs : List Variant}
    (h : (TypeSpec.union (List.zipWith (fun ident u => ⟨ident, some u⟩)
      (variantIdents [] 0 (alternatives items)) us)).orNull withNull = .union vs) :
    VariantsNamed items withNull vs := by
  simp only [TypeExpr.parts, hform, ← List.length_map (f := Prod.snd), map_snd_named] at hlen
  cases h
  refine variantsNamed ?_
  rw [List.map_append, List.map_zipWith, ← List.map_uncurry_zip_eq_zipWith]
  refine congrArg₂ _ (List.map_fst_zip ?_) (by cases withNull <;> rfl)
  rw [length_variantIdents, hlen]

theorem mapType_variantsNamed {items : List TypeExpr} {r r' : Registry} {u : TargetType}
    (h : (m.mapType documented context hint (.or items)).run r = (.ok u, r'))
    (hform : unionForm items = .variants) :
    ∃ d ∈ r'.decls, ∃ vs, u = (TargetType.symbol d.ident).optionalIf (hasNull items) ∧
      d.spec = .union vs ∧ VariantsNamed items false vs := by
  rw [mapType_eq] at h
  obtain ⟨us, r₁, hus, hsettle⟩ := Mapping.run_bind_eq_ok.mp h
  simp only [outcome, hform] at hsettle
  obtain ⟨t, ht, rfl⟩ := Mapping.run_map_eq_ok.mp hsettle
  rw [Mapping.run_synthesize, Prod.mk.injEq, Except.ok.injEq] at ht
  obtain ⟨rfl, rfl⟩ := ht
  obtain ⟨d, hfind, hspec⟩ := r₁.find?_register ⟨hint, {}, .union (List.zipWith _ _ us)⟩
  obtain ⟨hd, hident⟩ := declared?_eq_some hfind
  refine ⟨d, hd, _, by rw [hident], hspec, ?_⟩
  refine variantsNamed_orNull hform (Mapping.length_of_run_mapM hus) false ?_
  exact congrArg TypeSpec.union (List.append_nil _)

theorem declare_variantsNamed {name : String} {t : TypeExpr} {docs : Docs} {r r' : Registry}
    {d : TypeDecl} {vs : List Variant}
    (h : (m.declare documented name t docs).run r = (.ok d, r')) (hspec : d.spec = .union vs) :
    ∃ items, t = .or items ∧ unionForm items = .variants ∧
      VariantsNamed items (hasNull items) vs := by
  obtain ⟨spec, r₁, hmap, hpure⟩ := Mapping.run_bind_eq_ok.mp h
  cases hpure
  obtain rfl : spec = .union vs := hspec
  rw [mapSpec_eq] at hmap
  obtain ⟨us, r₂, hus, hspecify⟩ := Mapping.run_bind_eq_ok.mp hmap
  have hother {x : Except MappingError TargetType} :
      ¬ (Mapping.specify (.type x)).run r₂ = (.ok (.union vs), r') := by
    intro hrun
    obtain ⟨_, _, heq⟩ := Mapping.run_map_eq_ok.mp hrun
    cases heq
  cases t with
  | or items =>
    rw [outcome] at hspecify
    cases hform : unionForm items with
    | variants =>
      simp only [hform] at hspecify
      obtain ⟨heq, -⟩ := Prod.mk.injEq _ _ _ _ ▸ hspecify
      exact ⟨items, rfl, hform, variantsNamed_orNull hform (Mapping.length_of_run_mapM hus) _
        (Except.ok.inj heq)⟩
    | single | literals =>
      rw [hform] at hspecify
      exact absurd hspecify hother
  | and items | literal l => cases hspecify
  | _ => exact absurd hspecify hother

/-! ### Unions in the registry -/

/-- The declaration was made for some type. -/
abbrev MadeForAny (m : MetaModel) (documented : Bool) (d : TypeDecl) : Prop :=
  m.MadeFor documented (fun _ _ => True) d

theorem MadeFor.variantsNamed {P : String → TypeExpr → Prop} {d : TypeDecl} {vs : List Variant}
    (h : m.MadeFor documented P d) (hspec : d.spec = .union vs) :
    ∃ items, unionForm items = .variants ∧ VariantsNamed items false vs := by
  obtain ⟨_, _, _, _, _, _, hmade⟩ := h
  rw [hspec] at hmade
  cases hmade with
  | union hform hvs =>
    refine ⟨_, hform, TypeExpr.variantsNamed ?_⟩
    rw [hvs.idents]
    exact (List.append_nil _).symm

theorem registryAfter_madeFor {r : Registry} (hr : ∀ d ∈ r.decls, m.MadeForAny documented d)
    (call : Mapping.Call) :
    ∀ d ∈ (m.registryAfter documented r call).decls, m.MadeForAny documented d := by
  have hclosed : Mapping.Closed fun _ _ => True := fun _ _ _ _ _ _ => trivial
  have hdeclare (name : String) (t : TypeExpr) (docs : Docs) :
      Keeps (m.MadeForAny documented) (m.declare documented name t docs) fun _ => True :=
    (mapSpec_keeps hclosed trivial).bind fun _ _ => .pure trivial
  cases call with
  | type context hint t => exact (mapType_keeps hclosed hint t trivial r hr).1
  | property context owner p => exact (mapProperty_keeps hclosed owner p trivial r hr).1
  | declaration name t docs => exact (hdeclare name t docs r hr).1
  | struct flattenBases s =>
    exact (mapStructure_keeps_of hclosed (fun _ _ _ _ _ => trivial) r hr).1
  | typeAlias a => exact (hdeclare a.name a.type _ r hr).1

/-- By induction on the calls: all that a mapper registers is made for a type. -/
theorem registryAfterAll_madeFor (calls : List Mapping.Call) :
    ∀ d ∈ (m.registryAfterAll documented calls).decls, m.MadeForAny documented d := by
  have hfold : ∀ r : Registry, (∀ d ∈ r.decls, m.MadeForAny documented d) →
      ∀ d ∈ (calls.foldl (m.registryAfter documented) r).decls, m.MadeForAny documented d := by
    induction calls with
    | nil => exact fun r hr => hr
    | cons call calls ih => exact fun r hr => ih _ (registryAfter_madeFor hr call)
  exact hfold (.empty m.names) fun d hd => absurd hd List.not_mem_nil

/-- A union that is mapped gets a declaration with a variant for each item that is not null, and one
that is declared under a name has a variant for null as well. Of both it is known what the variants
are called, and when this keeps them apart; and of all unions that any calls leave in the registry. -/
theorem union_variantNames (m : MetaModel) (documented : Bool) :
    (∀ context hint items r r' u, unionForm items = .variants →
      (m.mapType documented context hint (.or items)).run r = (.ok u, r') →
      ∃ d ∈ r'.decls, ∃ vs, u = (TargetType.symbol d.ident).optionalIf (hasNull items) ∧
        d.spec = .union vs ∧ VariantsNamed items false vs) ∧
      (∀ name t docs r r' d vs, (m.declare documented name t docs).run r = (.ok d, r') →
        d.spec = .union vs → ∃ items, t = .or items ∧ unionForm items = .variants ∧
          VariantsNamed items (hasNull items) vs) ∧
      ∀ calls, ∀ d ∈ (m.registryAfterAll documented calls).decls, ∀ vs, d.spec = .union vs →
        ∃ items, unionForm items = .variants ∧ VariantsNamed items false vs := by
  refine ⟨fun context hint items r r' u hform hrun => ?mapped,
    fun name t docs r r' d vs hrun hspec => ?declared, fun calls d hd vs hspec => ?registered⟩
  case mapped => exact mapType_variantsNamed hrun hform
  case declared => exact declare_variantsNamed hrun hspec
  case registered => exact MadeFor.variantsNamed (registryAfterAll_madeFor calls d hd) hspec

/-! ## Samples -/

namespace Sample

def nameless : MetaModel := ⟨"", [], [], [], [], []⟩

def unionOf (name : String) (variants : List (String × Option TargetType)) : TypeDecl :=
  ⟨name, {}, .union (variants.map fun (ident, t) => ⟨ident, t⟩)⟩

def integerItem : TypeExpr := .base "integer"

/-- Two texts of one name. -/
def letters : List TypeExpr := [.stringLiteral "a", .stringLiteral "A", integerItem, .base "null"]

/-- The numbered name of the third text is the name of the first one. -/
def numberedItems : List TypeExpr :=
  [.stringLiteral "item2", .stringLiteral "item", .stringLiteral "Item", integerItem]

/-- A text that is named as null is. -/
def nullText : List TypeExpr := [.stringLiteral "null", integerItem, .base "null"]

def textLimited (s : String) : Option TargetType :=
  some (TypeExpr.only (.text s))

def integerType : Option TargetType :=
  some (.primitive .int32)

end Sample

open Sample

/-- The union is mapped, declared, and found in the registry as the item type of a list. -/
theorem letters_variantNames :
    ∃ vs vs', VariantsNamed letters false vs ∧ VariantsNamed letters true vs' ∧
      vs.map (·.ident) = ["A", "A1", "Integer"] ∧
      vs'.map (·.ident) = ["A", "A1", "Integer", "Null"] ∧
      ∃ d ∈ (nameless.registryAfterAll true [.type "Page" "Page" (.array (.or letters))]).decls,
        d.ident = "PageItem" ∧ d.spec = .union vs ∧
          ∃ items, unionForm items = .variants ∧ VariantsNamed items false vs := by
  have hmap : (nameless.mapType true "Letter" "Letter" (.or letters)).run (.empty []) =
      (.ok (.option (.symbol "Letter")), ⟨[], [unionOf "Letter" [("A", textLimited "a"),
        ("A1", textLimited "A"), ("Integer", integerType)]]⟩) := by
    decide +kernel
  have hdeclare : (nameless.declare true "Letter" (.or letters) {}).run (.empty []) =
      (.ok (unionOf "Letter" [("A", textLimited "a"), ("A1", textLimited "A"),
        ("Integer", integerType), ("Null", none)]), .empty []) := by
    decide +kernel
  have hregistry : unionOf "PageItem" [("A", textLimited "a"), ("A1", textLimited "A"),
      ("Integer", integerType)] ∈
      (nameless.registryAfterAll true [.type "Page" "Page" (.array (.or letters))]).decls := by
    decide +kernel
  obtain ⟨hmapped, hdeclared, hregistered⟩ := union_variantNames nameless true
  obtain ⟨d, hd, vs, _, hspec, hnamed⟩ := hmapped _ _ _ _ _ _ rfl hmap
  obtain rfl := List.mem_singleton.mp hd
  cases hspec
  obtain ⟨items, heq, _, hnamed'⟩ := hdeclared _ _ _ _ _ _ _ hdeclare rfl
  cases heq
  exact ⟨_, _, hnamed, hnamed', rfl, rfl, _, hregistry, rfl, rfl,
    hregistered _ _ hregistry _ rfl⟩

/-- The third text of a union gets the name of the first one, and a text gets that of null. -/
theorem variants_clash :
    (¬ ∀ (m : MetaModel) documented context hint items r r' u d vs,
      (m.mapType documented context hint (.or items)).run r = (.ok u, r') →
      unionForm items = .variants → d ∈ r'.decls →
      u = (TargetType.symbol d.ident).optionalIf (hasNull items) → d.spec = .union vs →
      (vs.map (·.ident)).Nodup) ∧
    ¬ ∀ (m : MetaModel) documented name items docs r r' d vs,
      (m.declare documented name (.or items) docs).run r = (.ok d, r') → d.spec = .union vs →
      (vs.map (·.ident)).Nodup := by
  constructor
  · intro h
    have hmap : (nameless.mapType true "Choice" "Choice" (.or numberedItems)).run (.empty []) =
        (.ok (.symbol "Choice"), ⟨[], [unionOf "Choice" [("Item2", textLimited "item2"),
          ("Item", textLimited "item"), ("Item2", textLimited "Item"),
          ("Integer", integerType)]]⟩) := by
      decide +kernel
    exact absurd (h _ _ _ _ _ _ _ _ _ _ hmap rfl List.mem_cons_self rfl rfl) (by decide)
  · intro h
    have hdeclare : (nameless.declare true "Choice" (.or nullText) {}).run (.empty []) =
        (.ok (unionOf "Choice" [("Null", textLimited "null"), ("Integer", integerType),
          ("Null", none)]), .empty []) := by
      decide +kernel
    exact absurd (h _ _ _ _ _ _ _ _ _ hdeclare rfl) (by decide)

end MetaModel
end ProtocolTypes
