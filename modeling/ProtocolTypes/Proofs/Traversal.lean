import Mathlib.Data.List.Forall2
import Mathlib.Data.List.Nodup

/-!
# ProtocolTypes.Proofs.Traversal

Lists read item by item, and what a computation that may fail did when it succeeded (`bind_eq_ok`).
A traversal succeeds with the results of its items, in order (`mapM_eq_some_iff`, `mapM_eq_ok_iff`).
-/

namespace ProtocolTypes

section Forall₂

variable {α β γ : Type} {R : α → β → Prop} {xs : List α} {ys : List β}

theorem exists_of_forall₂ (h : List.Forall₂ R xs ys) {x : α} (hx : x ∈ xs) : ∃ y ∈ ys, R x y := by
  induction h with
  | nil => cases hx
  | cons hxy _ ih =>
    rcases List.mem_cons.mp hx with rfl | hx
    · exact ⟨_, List.mem_cons_self, hxy⟩
    · obtain ⟨y, hy, hR⟩ := ih hx
      exact ⟨y, List.mem_cons_of_mem _ hy, hR⟩

theorem exists_of_forall₂_right (h : List.Forall₂ R xs ys) {y : β} (hy : y ∈ ys) :
    ∃ x ∈ xs, R x y :=
  exists_of_forall₂ h.flip hy

/-- A property that goes with the relation holds of an item on one side as on the other. -/
theorem exists_iff_of_forall₂ {P : α → Prop} {Q : β → Prop} (h : List.Forall₂ R xs ys)
    (hPQ : ∀ x ∈ xs, ∀ y, R x y → (P x ↔ Q y)) : (∃ x ∈ xs, P x) ↔ ∃ y ∈ ys, Q y := by
  constructor
  · rintro ⟨x, hx, hP⟩
    obtain ⟨y, hy, hR⟩ := exists_of_forall₂ h hx
    exact ⟨y, hy, (hPQ x hx y hR).mp hP⟩
  · rintro ⟨y, hy, hQ⟩
    obtain ⟨x, hx, hR⟩ := exists_of_forall₂_right h hy
    exact ⟨x, hx, (hPQ x hx y hR).mpr hQ⟩

theorem forall₂_congr_mem {S : α → β → Prop} (h : ∀ x ∈ xs, ∀ y, R x y ↔ S x y) :
    List.Forall₂ R xs ys ↔ List.Forall₂ S xs ys := by
  induction xs generalizing ys with
  | nil => rw [List.forall₂_nil_left_iff, List.forall₂_nil_left_iff]
  | cons x xs ih =>
    have htail := fun zs => @ih zs fun z hz => h z (List.mem_cons_of_mem _ hz)
    simp only [List.forall₂_cons_left_iff, h x List.mem_cons_self, htail]

/-- Where the relation says what becomes of an item, it says what becomes of a list. -/
theorem forall₂_iff_map {f : α → β} (h : ∀ x ∈ xs, ∀ y, R x y ↔ f x = y) :
    List.Forall₂ R xs ys ↔ xs.map f = ys := by
  rw [forall₂_congr_mem h, ← List.forall₂_map_left_iff, List.forall₂_eq_eq_eq]

theorem map_eq_map_of_forall₂ {f : α → γ} {g : β → γ} (h : List.Forall₂ R xs ys)
    (hfg : ∀ x y, R x y → f x = g y) : xs.map f = ys.map g := by
  have heq : List.Forall₂ (· = ·) (xs.map f) (ys.map g) := by
    rw [List.forall₂_map_left_iff, List.forall₂_map_right_iff]
    exact h.imp hfg
  rwa [List.forall₂_eq_eq_eq] at heq

/-- Related items stay related when each pair is joined with one more item. -/
theorem forall₂_zipWith {δ ε : Type} {S : δ → ε → Prop} {f : γ → α → δ} {g : γ → β → ε}
    (h : List.Forall₂ R xs ys) (hfg : ∀ z x y, R x y → S (f z x) (g z y)) (zs : List γ) :
    List.Forall₂ S (List.zipWith f zs xs) (List.zipWith g zs ys) := by
  induction h generalizing zs with
  | nil => simp
  | cons hxy _ ih =>
    cases zs with
    | nil => exact .nil
    | cons z zs => exact .cons (hfg z _ _ hxy) (ih zs)

theorem forall₂_zipIdx (k : Nat) :
    List.Forall₂ (fun (x : α × Nat) y => R x.1 y) (xs.zipIdx k) ys ↔ List.Forall₂ R xs ys := by
  induction xs generalizing ys k with
  | nil => rw [List.zipIdx_nil, List.forall₂_nil_left_iff, List.forall₂_nil_left_iff]
  | cons x xs ih => simp only [List.zipIdx_cons, List.forall₂_cons_left_iff, ih]

end Forall₂

/-- Of items with distinct keys only one has the key. -/
theorem filter_key_eq {α κ : Type} [DecidableEq κ] {key : α → κ} {xs : List α}
    (h : (xs.map key).Nodup) {x : α} (hx : x ∈ xs) : xs.filter (fun y => key y = key x) = [x] := by
  induction xs with
  | nil => cases hx
  | cons z xs ih =>
    obtain ⟨hz, hxs⟩ := List.nodup_cons.mp h
    rcases List.mem_cons.mp hx with rfl | hx
    · rw [List.filter_cons_of_pos (by simp), List.cons_eq_cons, List.filter_eq_nil_iff]
      refine ⟨rfl, fun y hy hkey => hz ?_⟩
      exact List.mem_map.mpr ⟨y, hy, by simpa using hkey⟩
    · rw [List.filter_cons_of_neg, ih hxs hx]
      have hne : key z ≠ key x := fun heq => hz (heq ▸ List.mem_map_of_mem hx)
      simpa using hne

section Monad

variable {α β γ δ : Type} {n : Type → Type} [Monad n] [LawfulMonad n]

theorem mapM_congr_mem {f g : α → n β} {xs : List α} (h : ∀ x ∈ xs, f x = g x) :
    xs.mapM f = xs.mapM g := by
  induction xs with
  | nil => rfl
  | cons x xs ih =>
    rw [List.mapM_cons, List.mapM_cons, h x List.mem_cons_self,
      ih fun y hy => h y (List.mem_cons_of_mem _ hy)]

/-- Items that are read by a part of them give their results along with the rest of them. -/
theorem mapM_map_eq_zipWith {f : β → n γ} (g : α → β) (k : α → γ → δ) (xs : List α) :
    xs.mapM (fun x => k x <$> f (g x)) = (xs.map g).mapM f >>= fun ys =>
      pure (List.zipWith k xs ys) := by
  induction xs with
  | nil => simp
  | cons x xs ih =>
    rw [List.mapM_cons, List.map_cons, List.mapM_cons, ih]
    simp only [map_eq_pure_bind, bind_assoc, pure_bind, List.zipWith_cons_cons]

end Monad

/-! ## Traversals that may have no result -/

section Option

variable {α β : Type} {f g : α → Option β} {xs : List α} {ys : List β}

theorem mapM_eq_some_iff : xs.mapM f = some ys ↔ List.Forall₂ (fun x y => f x = some y) xs ys := by
  induction xs generalizing ys with
  | nil => simp [List.forall₂_nil_left_iff, eq_comm]
  | cons x xs ih =>
    simp only [List.mapM_cons, Option.pure_def, Option.bind_eq_bind, Option.bind_eq_some_iff,
      List.forall₂_cons_left_iff, ih]
    constructor
    · rintro ⟨y, hy, zs, hzs, h⟩
      cases h
      exact ⟨y, zs, hy, hzs, rfl⟩
    · rintro ⟨y, zs, hy, hzs, rfl⟩
      exact ⟨y, hy, zs, hzs, rfl⟩

theorem mapM_mono (h : ∀ x ∈ xs, ∀ y, f x = some y → g x = some y) (hf : xs.mapM f = some ys) :
    xs.mapM g = some ys := by
  rw [mapM_eq_some_iff] at hf ⊢
  induction hf with
  | nil => exact .nil
  | cons hxy _ ih =>
    exact .cons (h _ List.mem_cons_self _ hxy) (ih fun x hx => h x (List.mem_cons_of_mem _ hx))

theorem exists_of_mapM (h : xs.mapM f = some ys) {x : α} (hx : x ∈ xs) : ∃ y, f x = some y := by
  obtain ⟨y, _, hy⟩ := exists_of_forall₂ (mapM_eq_some_iff.mp h) hx
  exact ⟨y, hy⟩

theorem mapM_map_eq {g : α → α} (h : ∀ x, f (g x) = f x) (xs : List α) :
    (xs.map g).mapM f = xs.mapM f := by
  rw [List.mapM_map]
  exact congrArg (List.mapM · xs) (funext h)

end Option

/-! ## Results -/

section Except

variable {ε ε' α β : Type} {x : Except ε α}

@[simp] theorem pure_eq_ok {a b : α} : (pure a : Except ε α) = .ok b ↔ a = b :=
  Except.ok.injEq a b ▸ Iff.rfl

@[simp] theorem bind_eq_ok {f : α → Except ε β} {b : β} :
    (x >>= f) = .ok b ↔ ∃ a, x = .ok a ∧ f a = .ok b := by
  cases x with
  | error e => simp [bind, Except.bind]
  | ok a => simp [bind, Except.bind]

@[simp] theorem map_eq_ok {f : α → β} {b : β} :
    f <$> x = .ok b ↔ ∃ a, x = .ok a ∧ f a = b := by
  cases x with
  | error e => simp [Functor.map, Except.map]
  | ok a => simp [Functor.map, Except.map]

@[simp] theorem mapError_eq_ok {f : ε → ε'} {a : α} : x.mapError f = .ok a ↔ x = .ok a := by
  cases x <;> simp [Except.mapError]

theorem bind_eq_error {f : α → Except ε β} {e : ε} :
    (x >>= f) = .error e ↔ x = .error e ∨ ∃ a, x = .ok a ∧ f a = .error e := by
  cases x with
  | error e => simp [bind, Except.bind]
  | ok a => simp [bind, Except.bind]

theorem map_eq_error {f : α → β} {e : ε} : f <$> x = .error e ↔ x = .error e := by
  cases x with
  | error e => simp [Functor.map, Except.map]
  | ok a => simp [Functor.map, Except.map]

theorem mapError_eq_error {f : ε → ε'} {e : ε'} :
    x.mapError f = .error e ↔ ∃ e', x = .error e' ∧ f e' = e := by
  cases x <;> simp [Except.mapError]

theorem toOption_eq_some {a : α} : x.toOption = some a ↔ x = .ok a := by
  cases x <;> simp [Except.toOption]

/-! ## Traversals that may fail -/

theorem mapM_eq_ok_iff {f : α → Except ε β} {xs : List α} {ys : List β} :
    xs.mapM f = .ok ys ↔ List.Forall₂ (fun x y => f x = .ok y) xs ys := by
  induction xs generalizing ys with
  | nil => rw [List.mapM_nil, pure_eq_ok, List.forall₂_nil_left_iff, eq_comm]
  | cons x xs ih =>
    simp only [List.mapM_cons, bind_eq_ok, pure_eq_ok, List.forall₂_cons_left_iff, ih]
    constructor
    · rintro ⟨y, hy, zs, hzs, rfl⟩
      exact ⟨y, zs, hy, hzs, rfl⟩
    · rintro ⟨y, zs, hy, hzs, rfl⟩
      exact ⟨y, hy, zs, hzs, rfl⟩

theorem exists_mapM_eq_ok_iff {f : α → Except ε β} {xs : List α} :
    (∃ ys, xs.mapM f = .ok ys) ↔ ∀ x ∈ xs, ∃ y, f x = .ok y := by
  induction xs with
  | nil => simp
  | cons x xs ih =>
    rw [List.forall_mem_cons, ← ih]
    simp only [List.mapM_cons, bind_eq_ok, pure_eq_ok]
    constructor
    · rintro ⟨_, y, hy, ys, hys, rfl⟩
      exact ⟨⟨y, hy⟩, ys, hys⟩
    · rintro ⟨⟨y, hy⟩, ys, hys⟩
      exact ⟨y :: ys, y, hy, ys, hys, rfl⟩

/-- A traversal fails as one of its items does. -/
theorem exists_of_mapM_eq_error {f : α → Except ε β} {xs : List α} {e : ε}
    (h : xs.mapM f = .error e) : ∃ x ∈ xs, f x = .error e := by
  induction xs with
  | nil => cases h
  | cons x xs ih =>
    simp only [List.mapM_cons, bind_eq_error] at h
    obtain h | ⟨y, _, h | ⟨ys, _, h⟩⟩ := h
    · exact ⟨x, List.mem_cons_self, h⟩
    · obtain ⟨z, hz, he⟩ := ih h
      exact ⟨z, List.mem_cons_of_mem _ hz, he⟩
    · cases h

/-- Other items, read otherwise, whose results differ by `h`. -/
theorem mapM_map_eq_map {γ δ : Type} {f : α → Except ε γ} {f' : β → Except ε δ} {g : α → β}
    {h : γ → δ} (hf : ∀ x, f' (g x) = h <$> f x) (xs : List α) :
    (xs.map g).mapM f' = List.map h <$> xs.mapM f := by
  induction xs with
  | nil => rfl
  | cons x xs ih =>
    rw [List.map_cons, List.mapM_cons, List.mapM_cons, hf, ih]
    cases f x with
    | error e => rfl
    | ok y => cases xs.mapM f <;> rfl

end Except

end ProtocolTypes
