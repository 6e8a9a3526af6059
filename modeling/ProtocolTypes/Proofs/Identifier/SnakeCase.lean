import ProtocolTypes.Proofs.Identifier.Casing

/-!
# ProtocolTypes.Proofs.Identifier.SnakeCase

Snake case for names of ASCII characters. `Adds` says what one character does to the name so far,
and each law is what one character keeps (`Adds.isSnakeChar`, `Adds.letters`, `Adds.tidy`) carried
along the name. Main result: `snakeCased_snake`. No letter and no digit is lost, a name in snake
case stays as it is, and the underscores that are put in stand one by one between other
characters.
-/

namespace ProtocolTypes
namespace Identifier

open Text

/-- Lowercase letters, digits and the underscore. -/
def IsSnakeChar (c : Char) : Prop :=
  ('a' ≤ c ∧ c ≤ 'z') ∨ ('0' ≤ c ∧ c ≤ '9') ∨ c = '_'

instance (c : Char) : Decidable (IsSnakeChar c) :=
  inferInstanceAs (Decidable (_ ∨ _ ∨ _))

/-! ## One character -/

/-- The name so far, last character first, after one more character. -/
def snakeStep (out : List Char) (prev : Option Char) (c : Char) (next : Option Char) : List Char :=
  if isUppercase c then
    (toLower c).reverse ++ (if opensWord prev next then separate out else out)
  else if isAlphanumeric c || c = '_' then c :: out
  else if out.isEmpty then out
  else separate out

theorem snakeFrom_cons (out : List Char) (prev : Option Char) (c : Char) (rest : List Char) :
    snakeFrom out prev (c :: rest) =
      snakeFrom (snakeStep out prev c rest.head?) (some c) rest :=
  rfl

/-- What an ASCII character that follows `prev` makes of the name so far. -/
inductive Adds (out : List Char) (prev : Option Char) (c : Char) : List Char → Prop where
  | capital : c.isUpper = true → Adds out prev c (c.toLower :: out)
  | opening {p : Char} : c.isUpper = true → prev = some p → p.isAlphanum = true →
      Adds out prev c (c.toLower :: separate out)
  | kept : IsSnakeChar c → Adds out prev c (c :: out)
  | leading : c.isAlphanum = false → out = [] → Adds out prev c []
  | separator : c.isAlphanum = false → out ≠ [] → Adds out prev c (separate out)

/-- For ASCII characters the tables agree with the built-in classes. -/
theorem isUppercase_eq {c : Char} (hc : isAscii c = true) : isUppercase c = c.isUpper :=
  forall_isAscii (P := fun c => isUppercase c = c.isUpper) (by decide) hc

theorem toLower_eq {c : Char} (hc : isAscii c = true) : toLower c = [c.toLower] :=
  forall_isAscii (P := fun c => toLower c = [c.toLower]) (by decide) hc

theorem isSnakeChar_or_separates {c : Char} (hc : isAscii c = true) (hupper : c.isUpper = false) :
    (isAlphanumeric c || decide (c = '_')) = true ∧ IsSnakeChar c ∨
      (isAlphanumeric c || decide (c = '_')) = false ∧ c.isAlphanum = false :=
  forall_isAscii (P := fun c => c.isUpper = false →
    (isAlphanumeric c || decide (c = '_')) = true ∧ IsSnakeChar c ∨
      (isAlphanumeric c || decide (c = '_')) = false ∧ c.isAlphanum = false) (by decide) hc hupper

theorem isAlphanum_of_opensWord {prev next : Option Char}
    (hprev : ∀ p, prev = some p → isAscii p = true) (h : opensWord prev next = true) :
    ∃ p, prev = some p ∧ p.isAlphanum = true := by
  cases prev with
  | none => cases h
  | some p =>
    refine ⟨p, rfl, ?_⟩
    have hclasses : isLowercase p = true ∨ isAsciiDigit p = true ∨ isUppercase p = true := by
      rw [opensWord] at h
      split at h
      · rename_i hlower
        rcases Bool.or_eq_true_iff.mp hlower with hlower | hdigit
        · exact .inl hlower
        · exact .inr (.inl hdigit)
      · exact .inr (.inr (Bool.and_eq_true_iff.mp h).1)
    exact forall_isAscii (P := fun p => isLowercase p = true ∨ isAsciiDigit p = true ∨
      isUppercase p = true → p.isAlphanum = true) (by decide) (hprev p rfl) hclasses

theorem adds_snakeStep {out : List Char} {prev : Option Char} {c : Char} (next : Option Char)
    (hc : isAscii c = true) (hprev : ∀ p, prev = some p → isAscii p = true) :
    Adds out prev c (snakeStep out prev c next) := by
  rw [snakeStep, isUppercase_eq hc, toLower_eq hc]
  by_cases hupper : c.isUpper = true
  · rw [if_pos hupper]
    split
    · rename_i hopens
      obtain ⟨p, hp, halphanum⟩ := isAlphanum_of_opensWord hprev hopens
      exact .opening hupper hp halphanum
    · exact .capital hupper
  · rw [if_neg hupper]
    rcases isSnakeChar_or_separates hc (by simpa using hupper) with ⟨hkept, hsnake⟩ | ⟨hnot, hother⟩
    · rw [if_pos hkept]
      exact .kept hsnake
    · rw [hnot, if_neg Bool.false_ne_true]
      cases out with
      | nil => exact .leading hother rfl
      | cons d out => exact .separator hother (List.cons_ne_nil d out)

/-! ## What one character keeps -/

theorem toLower_of_isUpper {c : Char} (hc : isAscii c = true) (h : c.isUpper = true) :
    IsSnakeChar c.toLower ∧ c.toLower ≠ '_' ∧ c.toLower.isAlphanum = true :=
  forall_isAscii (P := fun c => c.isUpper = true →
    IsSnakeChar c.toLower ∧ c.toLower ≠ '_' ∧ c.toLower.isAlphanum = true) (by decide) hc h

theorem toLower_of_isSnakeChar {c : Char} (hc : isAscii c = true) (h : IsSnakeChar c) :
    c.toLower = c ∧ c.isAlphanum = decide (c ≠ '_') :=
  forall_isAscii (P := fun c => IsSnakeChar c →
    c.toLower = c ∧ c.isAlphanum = decide (c ≠ '_')) (by decide) hc h

theorem isAlphanum_toLower {c : Char} (hc : isAscii c = true) :
    c.toLower.isAlphanum = c.isAlphanum :=
  forall_isAscii (P := fun c => c.toLower.isAlphanum = c.isAlphanum) (by decide) hc

theorem mem_separate {out : List Char} {d : Char} (h : d ∈ separate out) : d = '_' ∨ d ∈ out := by
  rw [separate] at h
  split at h
  · exact .inr h
  · exact List.mem_cons.mp h

theorem filter_separate (out : List Char) :
    (separate out).filter (fun d => d ≠ '_') = out.filter fun d => d ≠ '_' := by
  rw [separate]
  split
  · rfl
  · exact List.filter_cons_of_neg (by decide)

/-- No underscore in front, which is where the last character stands, and no two in a row. -/
structure Tidy (out : List Char) : Prop where
  first : out.getLast? ≠ some '_'
  single : ¬ ['_', '_'] <:+: out

theorem Tidy.cons {out : List Char} (h : Tidy out) {d : Char} (hd : d ≠ '_') : Tidy (d :: out) where
  first := by
    cases out with
    | nil => simpa using hd
    | cons e out => exact h.first
  single hinfix := by
    rcases List.infix_cons_iff.mp hinfix with hfront | hinfix
    · exact hd (List.cons_prefix_cons.mp hfront).1.symm
    · exact h.single hinfix

theorem Tidy.separate {out : List Char} (h : Tidy out) (hne : out ≠ []) : Tidy (separate out) := by
  rw [Identifier.separate]
  split
  · exact h
  · rename_i hhead
    cases out with
    | nil => exact absurd rfl hne
    | cons e out =>
      refine ⟨h.first, fun hinfix => ?_⟩
      rcases List.infix_cons_iff.mp hinfix with hfront | hinfix
      · have hsecond := (List.cons_prefix_cons.mp hfront).2
        exact hhead (congrArg some (List.cons_prefix_cons.mp hsecond).1.symm)
      · exact h.single hinfix

namespace Adds

variable {out out' : List Char} {prev : Option Char} {c : Char}

theorem isSnakeChar (h : Adds out prev c out') (hc : isAscii c = true)
    (hout : ∀ d ∈ out, IsSnakeChar d) : ∀ d ∈ out', IsSnakeChar d := by
  have hseparate : ∀ d ∈ separate out, IsSnakeChar d := by
    intro d hd
    rcases mem_separate hd with rfl | hd
    · decide
    · exact hout d hd
  cases h with
  | capital hupper => exact List.forall_mem_cons.mpr ⟨(toLower_of_isUpper hc hupper).1, hout⟩
  | opening hupper =>
    exact List.forall_mem_cons.mpr ⟨(toLower_of_isUpper hc hupper).1, hseparate⟩
  | kept hsnake => exact List.forall_mem_cons.mpr ⟨hsnake, hout⟩
  | leading => exact fun d hd => absurd hd List.not_mem_nil
  | separator => exact hseparate

/-- A letter or digit is added in lowercase, and of anything else at most an underscore remains. -/
theorem letters (h : Adds out prev c out') (hc : isAscii c = true) :
    out'.filter (fun d => d ≠ '_') =
      if c.isAlphanum then c.toLower :: out.filter (fun d => d ≠ '_')
      else out.filter fun d => d ≠ '_' := by
  rw [← isAlphanum_toLower hc]
  cases h with
  | capital hupper =>
    obtain ⟨-, hne, halphanum⟩ := toLower_of_isUpper hc hupper
    rw [if_pos halphanum, List.filter_cons_of_pos (by simpa using hne)]
  | opening hupper =>
    obtain ⟨-, hne, halphanum⟩ := toLower_of_isUpper hc hupper
    rw [if_pos halphanum, List.filter_cons_of_pos (by simpa using hne), filter_separate]
  | kept hsnake =>
    obtain ⟨hlower, halphanum⟩ := toLower_of_isSnakeChar hc hsnake
    rw [hlower, halphanum, List.filter_cons]
  | leading hother hnil =>
    rw [isAlphanum_toLower hc, hother, hnil]
    rfl
  | separator hother =>
    rw [isAlphanum_toLower hc, hother, filter_separate, if_neg Bool.false_ne_true]

theorem ne_nil (h : Adds out prev c out') (halphanum : c.isAlphanum = true) : out' ≠ [] := by
  cases h with
  | capital | opening | kept => exact List.cons_ne_nil _ _
  | leading hother | separator hother => simp [hother] at halphanum

/-- An underscore is put in only behind something: behind a letter or digit, and those are kept. -/
theorem tidy (h : Adds out prev c out') (hc : isAscii c = true) (hne : c ≠ '_')
    (hprev : ∀ p, prev = some p → p.isAlphanum = true → out ≠ []) (hout : Tidy out) :
    Tidy out' := by
  cases h with
  | capital hupper => exact hout.cons (toLower_of_isUpper hc hupper).2.1
  | opening hupper hp halphanum =>
    exact (hout.separate (hprev _ hp halphanum)).cons (toLower_of_isUpper hc hupper).2.1
  | kept => exact hout.cons hne
  | leading => exact ⟨by simp, by simp⟩
  | separator _ hnil => exact hout.separate hnil

end Adds

/-! ## Whole names -/

/-- What each character keeps, given what was read and what was made of it, holds in the end. -/
theorem snakeFrom_induct {P : List Char → Option Char → Prop} {cs : List Char}
    (hcs : ∀ c ∈ cs, isAscii c = true)
    (step : ∀ c ∈ cs, ∀ out out' prev, Adds out prev c out' → P out prev → P out' (some c))
    (out : List Char) (prev : Option Char) (hprev : ∀ p, prev = some p → isAscii p = true)
    (h : P out prev) : ∃ last, P (snakeFrom out prev cs) last := by
  induction cs generalizing out prev with
  | nil => exact ⟨prev, h⟩
  | cons c rest ih =>
    obtain ⟨hc, hrest⟩ := List.forall_mem_cons.mp hcs
    rw [snakeFrom_cons]
    refine ih hrest (fun d hd => step d (List.mem_cons_of_mem c hd)) _ _ ?_ ?_
    · exact fun p hp => Option.some.inj hp ▸ hc
    · exact step c List.mem_cons_self out _ prev (adds_snakeStep rest.head? hc hprev) h

/-- The letters and digits of the name, in lowercase, stand behind those of the output so far. -/
theorem filter_snakeFrom {cs : List Char} (hcs : ∀ c ∈ cs, isAscii c = true) {out : List Char}
    {prev : Option Char} (hprev : ∀ p, prev = some p → isAscii p = true) :
    (snakeFrom out prev cs).filter (fun d => d ≠ '_') =
      ((cs.map Char.toLower).filter Char.isAlphanum).reverse ++
        out.filter fun d => d ≠ '_' := by
  induction cs generalizing out prev with
  | nil => rfl
  | cons c rest ih =>
    obtain ⟨hc, hrest⟩ := List.forall_mem_cons.mp hcs
    rw [snakeFrom_cons, ih hrest fun p hp => Option.some.inj hp ▸ hc,
      (adds_snakeStep rest.head? hc hprev).letters hc, List.map_cons, List.filter_cons,
      isAlphanum_toLower hc]
    split
    · rw [List.reverse_cons, List.append_assoc, List.singleton_append]
    · rfl

theorem snakeStep_of_isSnakeChar {c : Char} (h : IsSnakeChar c) (out : List Char)
    (prev next : Option Char) : snakeStep out prev c next = c :: out := by
  have hword : isWordChar c = true := by
    rw [isWordChar, isAsciiLower, isAsciiDigit]
    rcases h with ⟨hlo, hhi⟩ | ⟨hlo, hhi⟩ | rfl
    · simp [hlo, hhi]
    · simp [hlo, hhi]
    · rfl
  have hc := isAscii_of_isWordChar hword
  have hupper : isUppercase c = false :=
    forall_isAscii (P := fun c => IsSnakeChar c → isUppercase c = false) (by decide) hc h
  rw [snakeStep, hupper, if_neg Bool.false_ne_true, if_pos]
  rwa [isAlphanumeric_or_underscore hc]

/-- In snake case nothing changes. -/
theorem snakeFrom_of_isSnakeChar {cs : List Char} (hcs : ∀ c ∈ cs, IsSnakeChar c)
    (out : List Char) (prev : Option Char) : snakeFrom out prev cs = cs.reverse ++ out := by
  induction cs generalizing out prev with
  | nil => rfl
  | cons c rest ih =>
    obtain ⟨hc, hrest⟩ := List.forall_mem_cons.mp hcs
    rw [snakeFrom_cons, snakeStep_of_isSnakeChar hc, ih hrest, List.reverse_cons,
      List.append_assoc, List.singleton_append]

/-- `t` is `s` in snake case. -/
structure SnakeCased (s t : String) : Prop where
  chars : ∀ c ∈ t.toList, IsSnakeChar c
  /-- But for the underscores it is the name in lowercase without other characters. -/
  letters : t.toList.filter (fun c => c ≠ '_') =
    (s.toList.map Char.toLower).filter Char.isAlphanum
  stable : snake t = t
  /-- The underscores that the name did not have. -/
  tidy : '_' ∉ s.toList → t.toList.head? ≠ some '_' ∧ ¬ ['_', '_'] <:+: t.toList

theorem toList_snake (s : String) : (snake s).toList = (snakeFrom [] none s.toList).reverse := by
  rw [snake, String.toList_ofList]

theorem snakeCased_snake {s : String} (h : IsAscii s) : SnakeCased s (snake s) := by
  have hchars : ∀ c ∈ (snake s).toList, IsSnakeChar c := by
    obtain ⟨_, hout⟩ := snakeFrom_induct (P := fun out _ => ∀ d ∈ out, IsSnakeChar d) h
      (fun c hc _ _ _ hadds hout => hadds.isSnakeChar (h c hc) hout) [] none (by simp) (by simp)
    intro c hc
    rw [toList_snake, List.mem_reverse] at hc
    exact hout c hc
  refine ⟨hchars, ?letters, ?stable, fun hname => ?tidy⟩
  case letters =>
    rw [toList_snake, List.filter_reverse, filter_snakeFrom h (by simp), List.filter_nil,
      List.append_nil, List.reverse_reverse]
  case stable =>
    rw [← String.toList_inj, toList_snake, snakeFrom_of_isSnakeChar hchars, List.append_nil,
      List.reverse_reverse]
  case tidy =>
    obtain ⟨_, htidy, -⟩ := snakeFrom_induct
      (P := fun out prev => Tidy out ∧ ∀ p, prev = some p → p.isAlphanum = true → out ≠ []) h
      (fun c hc _ _ _ hadds hout => by
        have hne : c ≠ '_' := fun heq => hname (heq ▸ hc)
        refine ⟨hadds.tidy (h c hc) hne hout.2 hout.1, fun p hp halphanum => ?_⟩
        exact hadds.ne_nil (Option.some.inj hp ▸ halphanum))
      [] none (by simp) ⟨⟨by simp, by simp⟩, by simp⟩
    rw [toList_snake]
    refine ⟨by rw [List.head?_reverse]; exact htidy.first, fun hinfix => htidy.single ?_⟩
    exact List.reverse_infix.mp hinfix

/-- A run of capitals, digits, and characters that only separate. -/
theorem snakeCased_schema : IsAscii "$schemaURIPart-2.x" ∧ '_' ∉ "$schemaURIPart-2.x".toList ∧
    snake "$schemaURIPart-2.x" = "schema_uri_part_2_x" ∧
    SnakeCased "$schemaURIPart-2.x" "schema_uri_part_2_x" := by
  have hascii : IsAscii "$schemaURIPart-2.x" := by decide
  have hsnake : snake "$schemaURIPart-2.x" = "schema_uri_part_2_x" := by decide
  exact ⟨hascii, by decide, hsnake, hsnake ▸ snakeCased_snake hascii⟩

end Identifier
end ProtocolTypes
