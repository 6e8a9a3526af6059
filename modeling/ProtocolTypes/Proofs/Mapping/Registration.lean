import Mathlib.Data.List.Dedup
import ProtocolTypes.Proofs.Mapping.Registry

/-!
# ProtocolTypes.Proofs.Mapping.Registration

Registering one declaration after another.

* `Search` tests candidates one by one until one serves; `search_register` says that it ends at the
  name that registering gives, after no more tests than there are names to avoid, and one.
* `register_again` and `spec_eq_of_register_eq`: whatever is registered in between, a shape gets the
  name it got before, and no other shape gets that name.
* `registration_law` is what holds of every registration in every run.
-/

namespace ProtocolTypes

open Target

namespace Registry

variable {r r' : Registry} {d e : TypeDecl} {name : String}

/-! ## The search, test by test -/

/-- Testing the candidates for `d`, from the `n`-th on, ends at `name` after `tests` tests. -/
inductive Search (r : Registry) (d : TypeDecl) : Nat → Nat → String → Prop where
  | found {n : Nat} : r.serves d.spec (candidate d.ident n) = true →
      Search r d n 1 (candidate d.ident n)
  | next {n tests : Nat} {name : String} : r.serves d.spec (candidate d.ident n) = false →
      Search r d (n + 1) tests name → Search r d n (tests + 1) name

/-- The search can end in one way only. -/
theorem Search.unique {n tests tests' : Nat} {name' : String} (h : Search r d n tests name)
    (h' : Search r d n tests' name') : tests = tests' ∧ name = name' := by
  induction h generalizing tests' with
  | found hs =>
    cases h' with
    | found => exact ⟨rfl, rfl⟩
    | next hs' => rw [hs] at hs'; cases hs'
  | next hs _ ih =>
    cases h' with
    | found hs' => rw [hs] at hs'; cases hs'
    | next _ h' =>
      obtain ⟨htests, hname⟩ := ih h'
      exact ⟨congrArg (· + 1) htests, hname⟩

theorem search_of_serves {k : Nat} (hs : r.serves d.spec (candidate d.ident k) = true)
    (hbefore : ∀ j < k, r.serves d.spec (candidate d.ident j) = false) {n : Nat} (hn : n ≤ k) :
    Search r d n (k - n + 1) (candidate d.ident k) := by
  induction h : k - n generalizing n with
  | zero =>
    obtain rfl : n = k := by omega
    exact .found hs
  | succ steps ih =>
    exact .next (hbefore n (by omega)) (ih (by omega) (by omega))

/-- A candidate that serves comes before as many candidates as there are names to avoid are
passed. -/
theorem le_of_serves_first {k : Nat}
    (hbefore : ∀ j < k, r.serves d.spec (candidate d.ident j) = false) :
    k ≤ r.reserved.dedup.length + r.decls.length := by
  obtain ⟨j, hj, hfree⟩ := Text.exists_not_mem_of_injective (candidate_injective d.ident)
    (r.reserved.dedup ++ r.decls.map (·.ident))
  rw [List.length_append, List.length_map] at hj
  by_contra hlt
  have hserves : r.serves d.spec (candidate d.ident j) = true := by
    apply serves_of_not_mem
    simpa using hfree
  rw [hbefore j (by omega)] at hserves
  cases hserves

theorem register_fst (r : Registry) (d : TypeDecl) : (r.register d).1 = r.nameFor d := by
  obtain ⟨-, ⟨e, -, -, heq⟩ | ⟨-, heq⟩⟩ := r.register_cases d <;> rw [heq]

/-- The search ends at the name that the declaration gets, however it is run. -/
theorem search_register (r : Registry) (d : TypeDecl) :
    ∃ tests ≤ r.reserved.dedup.length + r.decls.length + 1,
      ∀ tests' name, Search r d 0 tests' name ↔ tests' = tests ∧ name = (r.register d).1 := by
  obtain ⟨k, hk, hs, hbefore⟩ := r.nameFor_spec d
  have hsearch : Search r d 0 (k + 1) (r.register d).1 := by
    rw [register_fst, hk]
    exact search_of_serves hs hbefore (Nat.zero_le k)
  refine ⟨k + 1, Nat.succ_le_succ (le_of_serves_first hbefore), fun tests' name => ?_⟩
  constructor
  · intro h
    exact h.unique hsearch
  · rintro ⟨rfl, rfl⟩
    exact hsearch

/-! ## Runs -/

/-- The registry after registrations, one after another. -/
def registerAll (r : Registry) (ds : List TypeDecl) : Registry :=
  ds.foldl (fun r d => (r.register d).2) r

theorem register_grows (r : Registry) (d : TypeDecl) :
    (r.register d).2 = r ∨ (r.register d).2 = r.add { d with ident := (r.register d).1 } := by
  obtain ⟨-, ⟨e, -, -, heq⟩ | ⟨-, heq⟩⟩ := r.register_cases d
  · exact .inl (by rw [heq])
  · exact .inr (by rw [heq])

theorem extends_register (r : Registry) (d : TypeDecl) : r.Extends (r.register d).2 := by
  rcases r.register_grows d with heq | heq <;> rw [heq]
  · exact .refl r
  · exact .add r _

theorem extends_registerAll (r : Registry) (ds : List TypeDecl) :
    r.Extends (r.registerAll ds) := by
  induction ds generalizing r with
  | nil => exact .refl r
  | cons d ds ih => exact (r.extends_register d).trans (ih _)

theorem Sound.register (h : r.Sound) (d : TypeDecl) : (r.register d).2.Sound := by
  obtain ⟨hres, ⟨e, -, -, heq⟩ | ⟨hnew, heq⟩⟩ := r.register_cases d <;> rw [heq]
  · exact h
  · exact h.add hres hnew

theorem Sound.registerAll (h : r.Sound) (ds : List TypeDecl) : (r.registerAll ds).Sound := by
  induction ds generalizing r with
  | nil => exact h
  | cons d ds ih => exact ih (h.register d)

/-! ## Names that were given -/

/-- The name that a declaration got holds its shape from then on. -/
theorem find?_register (r : Registry) (d : TypeDecl) :
    ∃ e, (r.register d).2.find? (r.register d).1 = some e ∧ e.spec = d.spec := by
  obtain ⟨-, ⟨e, hfind, hspec, heq⟩ | ⟨hnew, heq⟩⟩ := r.register_cases d <;> rw [heq]
  · exact ⟨e, hfind, hspec⟩
  · exact ⟨_, find?_add hnew, rfl⟩

/-- A candidate that another shape holds or that is reserved stays so. -/
theorem Extends.serves_eq_false (h : r.Extends r') {spec : TypeSpec}
    (hname : r.serves spec name = false) : r'.serves spec name = false := by
  rw [← Bool.not_eq_true, serves_iff] at hname ⊢
  intro hserves
  refine hname ⟨h.reserved ▸ hserves.1, fun e he => hserves.2 e (h.find? he)⟩

theorem nameFor_of_extends (h : (r.register d).2.Extends r') (hident : e.ident = d.ident)
    (hspec : e.spec = d.spec) : r'.nameFor e = (r.register d).1 := by
  obtain ⟨k, hk, hs, hbefore⟩ := r.nameFor_spec d
  obtain ⟨l, hl, hs', hbefore'⟩ := r'.nameFor_spec e
  rw [hident, hspec] at hs' hbefore'
  rw [hident] at hl
  rw [register_fst, hl, hk]
  -- the candidate that served is held by the shape now, and those before it serve no better
  have hserves : r'.serves d.spec (candidate d.ident k) = true := by
    rw [← hk, ← register_fst, serves_iff]
    obtain ⟨f, hfind, hf⟩ := r.find?_register d
    constructor
    · rw [h.reserved, (r.extends_register d).reserved, register_fst, hk]
      exact (serves_iff.mp hs).1
    · intro f' hf'
      rw [h.find? hfind] at hf'
      cases hf'
      exact hf
  rcases Nat.lt_trichotomy l k with hlt | rfl | hgt
  · have hrefused := ((r.extends_register d).trans h).serves_eq_false (hbefore l hlt)
    rw [hs'] at hrefused
    cases hrefused
  · rfl
  · rw [hbefore' k hgt] at hserves
    cases hserves

/-- A shape that asks for the same name again gets the name it got, and nothing is added. -/
theorem register_again (h : (r.register d).2.Extends r') (hident : e.ident = d.ident)
    (hspec : e.spec = d.spec) : r'.register e = ((r.register d).1, r') := by
  have hname := nameFor_of_extends h hident hspec
  obtain ⟨f, hfind, -⟩ := r.find?_register d
  have hheld : r'.find? (r'.nameFor e) = some f := by
    rw [hname]
    exact h.find? hfind
  rw [register_of_find? hheld, hname]

/-- A name that was given to a shape is given to no other one. -/
theorem spec_eq_of_register_eq (h : (r.register d).2.Extends r')
    (hname : (r'.register e).1 = (r.register d).1) : e.spec = d.spec := by
  obtain ⟨f, hfind, hf⟩ := r.find?_register d
  obtain ⟨g, hfind', hg⟩ := r'.find?_register e
  rw [hname, (r'.extends_register e).find? (h.find? hfind)] at hfind'
  cases hfind'
  rw [← hg, hf]

/-! ## The law of registration -/

/-- The name is not reserved, and it is not registered or only with this shape. -/
def Admits (r : Registry) (spec : TypeSpec) (name : String) : Prop :=
  name ∉ r.reserved ∧ ∀ e ∈ r.decls, e.ident = name → e.spec = spec

theorem Sound.serves_iff_admits (h : r.Sound) {spec : TypeSpec} :
    r.serves spec name = true ↔ r.Admits spec name := by
  rw [serves_iff]
  constructor
  · rintro ⟨hres, hheld⟩
    refine ⟨hres, fun e he hident => hheld e ?_⟩
    rw [← hident]
    exact declared?_of_mem h.distinct he
  · rintro ⟨hres, hheld⟩
    refine ⟨hres, fun e he => ?_⟩
    obtain ⟨hmem, hident⟩ := declared?_eq_some he
    exact hheld e hmem hident

/-- What registering `d` gives, and the registry it leaves. -/
structure Registers (r : Registry) (d : TypeDecl) (name : String) (r' : Registry) : Prop where
  /-- The search ends, after no more tests than there are names to avoid, and one. -/
  ends : ∃ tests ≤ r.reserved.dedup.length + r.decls.length + 1,
    ∀ tests' name', Search r d 0 tests' name' ↔ tests' = tests ∧ name' = name
  /-- The first candidate that the shape may have. -/
  first : ∃ k, name = candidate d.ident k ∧ r.Admits d.spec name ∧
    ∀ j < k, ¬ r.Admits d.spec (candidate d.ident j)
  held : ∃ e ∈ r'.decls, e.ident = name ∧ e.spec = d.spec
  reserved : r'.reserved = r.reserved
  /-- Earlier declarations stay as they are, in their order. -/
  grows : r'.decls = r.decls ∨ r'.decls = r.decls ++ [{ d with ident := name }]

theorem Sound.registers (h : r.Sound) (d : TypeDecl) :
    r.Registers d (r.register d).1 (r.register d).2 := by
  refine ⟨r.search_register d, ?first, ?held, (r.extends_register d).reserved, ?grows⟩
  case first =>
    obtain ⟨k, hk, hs, hbefore⟩ := r.nameFor_spec d
    rw [register_fst, hk]
    refine ⟨k, rfl, h.serves_iff_admits.mp hs, fun j hj hadmits => ?_⟩
    rw [← h.serves_iff_admits, hbefore j hj] at hadmits
    cases hadmits
  case held =>
    obtain ⟨e, hfind, hspec⟩ := r.find?_register d
    obtain ⟨he, hident⟩ := declared?_eq_some hfind
    exact ⟨e, he, hident, hspec⟩
  case grows =>
    rcases r.register_grows d with heq | heq
    · exact .inl (by rw [heq])
    · exact .inr (by rw [heq]; rfl)

/-- After any registrations all names are distinct and none is reserved. Registering `d` then gives
it the first name it may have. After any further ones, its shape gets the same name and leaves the
registry as it is, and whatever gets that name has its shape. -/
theorem registration_law (reserved : List String) (calls : List TypeDecl) :
    let r := (empty reserved).registerAll calls
    r.reserved = reserved ∧ r.Sound ∧
      ∀ d, r.Registers d (r.register d).1 (r.register d).2 ∧
        ∀ more, let r' := (r.register d).2.registerAll more
          (∀ docs, r'.register { d with docs := docs } = ((r.register d).1, r')) ∧
          ∀ e, (r'.register e).1 = (r.register d).1 → e.spec = d.spec := by
  intro r
  have hsound : r.Sound := Sound.registerAll (.empty reserved) calls
  refine ⟨((empty reserved).extends_registerAll calls).reserved, hsound, fun d => ?_⟩
  refine ⟨hsound.registers d, fun more => ?_⟩
  have hmore := (r.register d).2.extends_registerAll more
  exact ⟨fun docs => register_again hmore rfl rfl, fun e => spec_eq_of_register_eq hmore⟩

/-- A text, a number and a flag that all ask for names like `Edit`. -/
def editText : TypeDecl := ⟨"Edit", {}, .union [⟨"String", some (.primitive .string)⟩]⟩
def editNumber : TypeDecl := ⟨"Edit3", {}, .union [⟨"Integer", some (.primitive .int32)⟩]⟩
def editFlag : TypeDecl := ⟨"Edit", {}, .union [⟨"Boolean", some (.primitive .bool)⟩]⟩

/-- The second form of the name is reserved, and the third one was asked for by itself. -/
theorem edit_registered :
    let r := (empty ["Edit2"]).registerAll [editText, editNumber]
    r.Registers editFlag "Edit4" (r.register editFlag).2 ∧
      let r' := (r.register editFlag).2.registerAll [{ editText with ident := "Edit4" }]
      r'.register { editFlag with docs := { text := "A flag." } } = ("Edit4", r') := by
  intro r
  obtain ⟨-, -, hlaw⟩ := registration_law ["Edit2"] [editText, editNumber]
  obtain ⟨hregisters, hmore⟩ := hlaw editFlag
  have hname : (r.register editFlag).1 = "Edit4" := by decide +kernel
  rw [hname] at hregisters hmore
  exact ⟨hregisters, (hmore [{ editText with ident := "Edit4" }]).1 _⟩

end Registry
end ProtocolTypes
