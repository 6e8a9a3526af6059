import Mathlib.Logic.Relation
import ProtocolTypes.Files.Tree
import ProtocolTypes.Proofs.Traversal

/-!
# ProtocolTypes.Proofs.Files.Changes

What the operations on a tree of files change and what they leave as it was. Creating directories
adds directories where nothing stood, each of them above the path or the path itself
(`createDirectories_onlyCreates`), also where it fails on the way. Writing changes one entry, and
the path then leads to the content (`write_changes`).
-/

namespace ProtocolTypes

namespace Path

/-! ## Segments -/

theorem split_ne_nil {cs : List Char} : ∀ piece, split piece cs ≠ [] := by
  induction cs with
  | nil => simp [split]
  | cons c rest ih =>
    intro piece
    rw [split]
    split
    · simp
    · exact ih (c :: piece)

/-- Only a slash at the end opens an empty piece there. -/
theorem getLast?_split {cs : List Char} (hne : cs ≠ []) (hslash : cs.getLast? ≠ some '/') :
    ∀ piece, (split piece cs).getLast? ≠ some "" := by
  induction cs with
  | nil => exact absurd rfl hne
  | cons c rest ih =>
    intro piece
    rw [split]
    cases rest with
    | nil =>
      have hc : c ≠ '/' := by simpa using hslash
      rw [if_neg hc, split, List.getLast?_singleton]
      simp [← String.toList_inj]
    | cons d rest =>
      rw [List.getLast?_cons_cons] at hslash
      split
      · rw [List.getLast?_cons_of_ne_nil (split_ne_nil [])]
        exact ih (by simp) hslash []
      · exact ih (by simp) hslash (c :: piece)

/-- A path with a last segment ends in it, or in a slash and then in empty segments behind it. -/
theorem segments_of_last? {p : Path} {front : List String} {last : String}
    (h : p.last? = some (front, last)) :
    last ≠ "" ∧ ∃ blanks, p.segments = front ++ last :: blanks ∧ ∀ b ∈ blanks, b = "" := by
  rw [last?] at h
  have hsplit := List.takeWhile_append_dropWhile (p := String.isEmpty) (l := p.segments.reverse)
  split at h
  · cases h
  · rename_i l fs hdrop
    simp only [Option.some.injEq, Prod.mk.injEq] at h
    obtain ⟨rfl, rfl⟩ := h
    rw [hdrop] at hsplit
    refine ⟨?_, (p.segments.reverse.takeWhile String.isEmpty).reverse, ?_, ?_⟩
    · have hhead := List.head?_dropWhile_not String.isEmpty p.segments.reverse
      simpa [hdrop] using hhead
    · have hreverse := congrArg List.reverse hsplit
      simpa using hreverse.symm
    · intro b hb
      have hempty := List.all_takeWhile (p := String.isEmpty) (l := p.segments.reverse)
      simpa using List.all_eq_true.mp hempty b (List.mem_reverse.mp hb)

theorem getLast?_segments {p : Path} (hempty : p.isEmpty = false) (hslash : p.endsInSlash = false) :
    p.segments.getLast? ≠ some "" := by
  have hne : p.text.toList ≠ [] := by
    simpa [isEmpty] using hempty
  have hlast : p.text.toList.getLast? ≠ some '/' := by
    simpa [endsInSlash] using hslash
  exact getLast?_split hne hlast []

/-! ## Ancestors -/

/-- The parent of a path, the parent of that, and so on. -/
def IsAncestor (p ancestor : Path) : Prop :=
  Relation.TransGen (fun p q => p.parent? = some q) p ancestor

def IsAncestorOrSelf (p ancestor : Path) : Prop :=
  Relation.ReflTransGen (fun p q => p.parent? = some q) p ancestor

end Path

namespace FileTree

variable {t t' t'' : FileTree}

/-! ## Entries -/

theorem entry?_put {l : Location} (hl : l ≠ []) (e : FileEntry) (k : Location) :
    FileTree.entry? (t.put l e) k = if k = l then some e else t.entry? k := by
  rw [FileTree.entry?, put]
  by_cases hk : k = l
  · subst hk
    simp [hl]
  · have hfind : (List.filter (fun x => decide (x.1 ≠ l)) t.entries).find? (fun x => x.1 = k) =
        t.entries.find? (fun x => x.1 = k) := by
      rw [List.find?_filter]
      congr 1
      funext x
      by_cases hx : x.1 = k
      · simp [hx, hk]
      · simp [hx]
    rw [if_neg hk, FileTree.entry?, List.find?_cons_of_neg (by simpa [eq_comm] using hk), hfind]

theorem isDirectoryAt_iff {l : Location} :
    t.isDirectoryAt l = true ↔ t.entry? l = some .directory := by
  simp [isDirectoryAt]

/-- Where one segment leads. -/
def enter (l : Location) (s : String) : Location :=
  if s.isEmpty || s = "." then l else if s = ".." then l.dropLast else l ++ [s]

theorem walk_cons_eq_ok {l k : Location} {s : String} {rest : List String} :
    t.walk l (s :: rest) = .ok k ↔ t.isDirectoryAt l = true ∧
      ((t.entry? (enter l s)).isSome ∨ enter l s ≠ l ++ [s]) ∧ t.walk (enter l s) rest = .ok k := by
  rw [walk]
  by_cases hdirectory : t.isDirectoryAt l = true
  · rw [hdirectory]
    simp only [Bool.not_true, Bool.false_eq_true, if_false, true_and, enter]
    split
    · simp
    · split
      · have hne : l.dropLast ≠ l ++ [s] := by
          intro heq
          have hlength := congrArg List.length heq
          rw [List.length_dropLast, List.length_append, List.length_singleton] at hlength
          omega
        simp [hne]
      · cases t.entry? (l ++ [s]) <;> simp
  · simp [hdirectory]

theorem walk_append_eq_ok {l k : Location} {xs ys : List String} :
    t.walk l (xs ++ ys) = .ok k ↔ ∃ m, t.walk l xs = .ok m ∧ t.walk m ys = .ok k := by
  induction xs generalizing l with
  | nil => simp [walk]
  | cons s rest ih =>
    simp only [List.cons_append, walk_cons_eq_ok, ih]
    constructor
    · rintro ⟨hdirectory, hentry, m, hm, hk⟩
      exact ⟨m, ⟨hdirectory, hentry, hm⟩, hk⟩
    · rintro ⟨m, ⟨hdirectory, hentry, hm⟩, hk⟩
      exact ⟨hdirectory, hentry, m, hm, hk⟩

/-- What leads to an entry of one tree leads there in the other. -/
structure Keeps (t t' : FileTree) : Prop where
  workingDirectory : t'.workingDirectory = t.workingDirectory
  directories : ∀ l, t.isDirectoryAt l = true → t'.isDirectoryAt l = true
  entries : ∀ l, (t.entry? l).isSome → (t'.entry? l).isSome

theorem walk_of_keeps (h : Keeps t t') {l k : Location} {ss : List String}
    (hwalk : t.walk l ss = .ok k) : t'.walk l ss = .ok k := by
  induction ss generalizing l with
  | nil => exact hwalk
  | cons s rest ih =>
    rw [walk_cons_eq_ok] at hwalk ⊢
    obtain ⟨hdirectory, hentry, hrest⟩ := hwalk
    exact ⟨h.directories l hdirectory, hentry.imp_left (h.entries _), ih hrest⟩

theorem start_of_keeps (h : Keeps t t') (p : Path) : t'.start p = t.start p := by
  rw [start, start, h.workingDirectory]

theorem find_of_keeps (h : Keeps t t') {p : Path} {l : Location} (hfind : t.find p = .ok l) :
    t'.find p = .ok l := by
  simp only [find, bind_eq_ok, start_of_keeps h] at hfind ⊢
  obtain ⟨u, hcheck, hwalk⟩ := hfind
  exact ⟨u, hcheck, walk_of_keeps h hwalk⟩

/-- A directory that stands is only replaced by a directory. -/
theorem keeps_put {l : Location} (hl : l ≠ []) {e : FileEntry}
    (h : t.isDirectoryAt l = true → e = .directory) : Keeps t (t.put l e) where
  workingDirectory := rfl
  directories k hk := by
    rw [isDirectoryAt_iff, entry?_put hl]
    split
    · rename_i heq
      rw [h (heq ▸ hk)]
    · exact isDirectoryAt_iff.mp hk
  entries k hk := by
    rw [entry?_put hl]
    split
    · rfl
    · exact hk

theorem walk_blanks {l : Location} {blanks : List String} (h : t.isDirectoryAt l = true)
    (hblanks : ∀ b ∈ blanks, b = "") : t.walk l blanks = .ok l := by
  induction blanks with
  | nil => rfl
  | cons b rest ih =>
    have henter : enter l b = l := by simp [enter, hblanks b List.mem_cons_self]
    have hrest := ih fun b' hb' => hblanks b' (List.mem_cons_of_mem b hb')
    rw [walk_cons_eq_ok, henter]
    exact ⟨h, by simp [isDirectoryAt_iff.mp h], hrest⟩

/-! ## An entry under a path -/

theorem isEmpty_of_checkPath {p : Path} (h : checkPath p = .ok ()) : p.isEmpty = false := by
  rw [checkPath] at h
  split at h
  · cases h
  · split at h
    · cases h
    · simpa using ‹¬p.isEmpty = true›

theorem findParent_eq_ok {p : Path} {front : List String} {l : Location} :
    t.findParent p front = .ok l ↔ t.walk (t.start p) front = .ok l ∧ t.isDirectoryAt l = true := by
  simp only [findParent, bind_eq_ok]
  constructor
  · rintro ⟨k, hwalk, h⟩
    split at h
    · cases h
      exact ⟨hwalk, ‹_›⟩
    · cases h
  · rintro ⟨hwalk, hdirectory⟩
    refine ⟨l, hwalk, ?_⟩
    rw [if_pos hdirectory]
    rfl

/-- Once something stands under the last name of a path, the path leads to it; a slash behind the
name asks for a directory. -/
theorem find_put {p : Path} {front : List String} {last : String} {l : Location} {e : FileEntry}
    (hcheck : checkPath p = .ok ()) (hp : p.last? = some (front, last))
    (hparent : t.findParent p front = .ok l) (hdots : isDots last = false)
    (hfree : t.isDirectoryAt (l ++ [last]) = false)
    (he : e = .directory ∨ p.endsInSlash = false) :
    (t.put (l ++ [last]) e).find p = .ok (l ++ [last]) := by
  obtain ⟨hwalk, hdirectory⟩ := findParent_eq_ok.mp hparent
  obtain ⟨hlast, blanks, hsegments, hblanks⟩ := Path.segments_of_last? hp
  have hkeeps : Keeps t (t.put (l ++ [last]) e) := keeps_put (by simp) (by simp [hfree])
  have henter : enter l last = l ++ [last] := by
    simp only [isDots, Bool.or_eq_false_iff, decide_eq_false_iff_not] at hdots
    simp [enter, hdots, hlast]
  have hput : FileTree.entry? (t.put (l ++ [last]) e) (l ++ [last]) = some e := by
    rw [entry?_put (by simp), if_pos rfl]
  have htail : (t.put (l ++ [last]) e).walk (l ++ [last]) blanks = .ok (l ++ [last]) := by
    rcases he with rfl | hslash
    · exact walk_blanks (isDirectoryAt_iff.mpr hput) hblanks
    · have hend : p.segments.getLast? ≠ some "" :=
        Path.getLast?_segments (isEmpty_of_checkPath hcheck) hslash
      rcases List.eq_nil_or_concat blanks with rfl | ⟨init, b, rfl⟩
      · rfl
      · rw [hsegments, hblanks b (by simp), List.concat_eq_append, ← List.cons_append,
          ← List.append_assoc, List.getLast?_concat] at hend
        exact absurd rfl hend
  rw [find, hcheck]
  change walk _ _ _ = _
  rw [hsegments, walk_append_eq_ok]
  refine ⟨l, ?_, walk_cons_eq_ok.mpr ⟨hkeeps.directories l hdirectory, ?_, ?_⟩⟩
  · rw [start_of_keeps hkeeps]
    exact walk_of_keeps hkeeps hwalk
  · rw [henter, hput]
    exact .inl rfl
  · rw [henter]
    exact htail

/-- Whoever puts an entry at a path finds the directory above it and the place there free. -/
theorem inParent_eq_ok {p : Path} {noParent refused : FileError}
    {taken : Location → String → Bool} {e : FileEntry} :
    (do
      checkPath p
      match p.last? with
      | none => .error noParent
      | some (front, last) =>
        let l ← t.findParent p front
        if taken l last then .error refused else return t.put (l ++ [last]) e) = .ok t' ↔
      checkPath p = .ok () ∧ ∃ front last l, p.last? = some (front, last) ∧
        t.findParent p front = .ok l ∧ taken l last = false ∧ t' = t.put (l ++ [last]) e := by
  simp only [bind_eq_ok]
  constructor
  · rintro ⟨u, hcheck, h⟩
    refine ⟨hcheck, ?_⟩
    cases hp : p.last? with
    | none => simp [hp] at h
    | some q =>
      obtain ⟨front, last⟩ := q
      simp only [hp, bind_eq_ok] at h
      obtain ⟨l, hparent, h⟩ := h
      split at h
      · cases h
      · cases h
        exact ⟨front, last, l, rfl, hparent, Bool.eq_false_iff.mpr ‹_›, rfl⟩
  · rintro ⟨hcheck, front, last, l, hp, hparent, hfree, rfl⟩
    refine ⟨(), hcheck, ?_⟩
    simp only [hp, bind_eq_ok]
    exact ⟨l, hparent, if_neg (Bool.eq_false_iff.mp hfree)⟩

/-! ## Creating directories -/

theorem createDirectory_eq_ok {p : Path} : t.createDirectory p = .ok t' ↔
    checkPath p = .ok () ∧ ∃ front last l, p.last? = some (front, last) ∧
      t.findParent p front = .ok l ∧ isDots last = false ∧ t.entry? (l ++ [last]) = none ∧
      t' = t.put (l ++ [last]) .directory := by
  refine inParent_eq_ok.trans ?_
  simp [and_assoc]

/-- All that is new are directories at the places that certain paths lead to. -/
structure OnlyCreates (paths : Path → Prop) (t t' : FileTree) : Prop where
  workingDirectory : t'.workingDirectory = t.workingDirectory
  entries : ∀ l, t'.entry? l = t.entry? l ∨
    t.entry? l = none ∧ t'.entry? l = some .directory ∧ ∃ p, paths p ∧ t'.find p = .ok l

namespace OnlyCreates

variable {paths : Path → Prop}

theorem refl (paths : Path → Prop) (t : FileTree) : OnlyCreates paths t t where
  workingDirectory := rfl
  entries _ := .inl rfl

theorem keeps (h : OnlyCreates paths t t') : Keeps t t' where
  workingDirectory := h.workingDirectory
  directories l hl := by
    rw [isDirectoryAt_iff] at hl ⊢
    rcases h.entries l with heq | ⟨-, heq, -⟩
    · rw [heq, hl]
    · exact heq
  entries l hl := by
    rcases h.entries l with heq | ⟨-, heq, -⟩
    · rw [heq]
      exact hl
    · rw [heq]
      rfl

theorem trans (h : OnlyCreates paths t t') (h' : OnlyCreates paths t' t'') :
    OnlyCreates paths t t'' where
  workingDirectory := h'.workingDirectory.trans h.workingDirectory
  entries l := by
    rcases h.entries l with heq | ⟨hnone, hnew, p, hp, hfind⟩
    · rw [← heq]
      exact h'.entries l
    · refine .inr ⟨hnone, ?_, p, hp, find_of_keeps h'.keeps hfind⟩
      exact isDirectoryAt_iff.mp (h'.keeps.directories l (isDirectoryAt_iff.mpr hnew))

theorem mono {more : Path → Prop} (h : OnlyCreates paths t t') (hsub : ∀ p, paths p → more p) :
    OnlyCreates more t t' where
  workingDirectory := h.workingDirectory
  entries l := by
    rcases h.entries l with heq | ⟨hnone, hnew, p, hp, hfind⟩
    · exact .inl heq
    · exact .inr ⟨hnone, hnew, p, hsub p hp, hfind⟩

end OnlyCreates

theorem createDirectory_onlyCreates {p : Path} (h : t.createDirectory p = .ok t') :
    OnlyCreates (· = p) t t' := by
  obtain ⟨hcheck, front, last, l, hp, hparent, hdots, hnone, rfl⟩ := createDirectory_eq_ok.mp h
  refine ⟨rfl, fun k => ?_⟩
  rw [entry?_put (by simp)]
  split
  · rename_i heq
    subst heq
    refine .inr ⟨hnone, rfl, p, rfl, ?_⟩
    exact find_put hcheck hp hparent hdots (by simp [isDirectoryAt, hnone]) (.inl rfl)
  · exact .inl rfl

theorem ensureDirectory_onlyCreates (t : FileTree) (p : Path) :
    OnlyCreates (· = p) t (t.ensureDirectory p).2 := by
  rw [ensureDirectory]
  split
  · exact createDirectory_onlyCreates ‹_›
  · exact .refl _ t

/-- The parents that are missing come first, each of them an ancestor. -/
theorem createDirectories_onlyCreates (fuel : Nat) (t : FileTree) (p : Path) :
    OnlyCreates p.IsAncestorOrSelf t (createDirectories fuel t p).2 := by
  have hself : ∀ (t : FileTree) p, OnlyCreates p.IsAncestorOrSelf t (t.ensureDirectory p).2 := by
    intro t p
    refine (ensureDirectory_onlyCreates t p).mono ?_
    rintro _ rfl
    exact .refl
  fun_induction createDirectories fuel t p with
  | case1 => exact .refl _ _
  | case2 p _ _ parent hparent _ _ t' hrec ih =>
    rw [hrec] at ih
    exact (ih.mono fun q hq => .head hparent hq).trans (hself t' p)
  | case3 p _ _ parent hparent _ e t' hrec ih =>
    rw [hrec] at ih
    exact ih.mono fun q hq => .head hparent hq
  | case4 => exact hself _ _

/-! ## Writing -/

theorem write_eq_ok {p : Path} {content : List UInt8} : t.write p content = .ok t' ↔
    checkPath p = .ok () ∧ ∃ front last l, p.last? = some (front, last) ∧
      t.findParent p front = .ok l ∧ isDots last = false ∧ p.endsInSlash = false ∧
      t.isDirectoryAt (l ++ [last]) = false ∧ t' = t.put (l ++ [last]) (.file content) := by
  refine inParent_eq_ok.trans ?_
  simp [and_assoc]

/-- The path leads to the content afterwards, and nothing else is touched. -/
theorem write_changes {p : Path} {content : List UInt8} (h : t.write p content = .ok t') :
    t'.read p = .ok content ∧ Keeps t t' ∧ ∀ k, t'.find p ≠ .ok k → t'.entry? k = t.entry? k := by
  obtain ⟨hcheck, front, last, l, hp, hparent, hdots, hslash, hfree, rfl⟩ := write_eq_ok.mp h
  have hfind : (t.put (l ++ [last]) (.file content)).find p = .ok (l ++ [last]) :=
    find_put hcheck hp hparent hdots hfree (.inr hslash)
  refine ⟨?_, keeps_put (by simp) (by simp [hfree]), fun k hk => ?_⟩
  · simp only [read, bind_eq_ok]
    refine ⟨l ++ [last], hfind, ?_⟩
    rw [entry?_put (by simp), if_pos rfl]
  · rw [entry?_put (by simp), if_neg]
    rintro rfl
    exact hk hfind

end FileTree
end ProtocolTypes
