import ProtocolTypes.Proofs.Traversal
import ProtocolTypes.Source.Render

/-!
# ProtocolTypes.Proofs.Source.Header

The head of a generated file. The lines of the header option are made comments one by one, and the
version stands as it is in the first line; so the head consists of comments exactly when the version
brings no further line, or only lines that are comments themselves (`file_headed_iff`).
-/

namespace ProtocolTypes

namespace Text

/-! ## Lines -/

theorem newline_not_mem_of_mem_linesFrom {cs : List Char} :
    ∀ {line l : List Char}, '\n' ∉ line → l ∈ linesFrom line cs → '\n' ∉ l := by
  induction cs with
  | nil =>
    intro line l hline hl
    rw [linesFrom] at hl
    split at hl
    · simp at hl
    · rw [List.mem_singleton.mp hl, List.mem_reverse]
      exact hline
  | cons c rest ih =>
    intro line l hline hl
    rw [linesFrom] at hl
    by_cases hc : c = '\n'
    · rw [if_pos hc] at hl
      rcases List.mem_cons.mp hl with rfl | hl
      · rw [List.mem_reverse]
        split
        · exact fun hmem => hline (List.mem_of_mem_tail hmem)
        · exact hline
      · exact ih (by simp) hl
    · rw [if_neg hc] at hl
      have hcons : '\n' ∉ c :: line := by
        intro hmem
        rcases List.mem_cons.mp hmem with heq | hmem
        · exact hc heq.symm
        · exact hline hmem
      exact ih hcons hl

theorem newline_not_mem_of_mem_lines {s line : String} (h : line ∈ lines s) :
    '\n' ∉ line.toList := by
  rw [lines, List.mem_map] at h
  obtain ⟨l, hl, rfl⟩ := h
  rw [String.toList_ofList]
  exact newline_not_mem_of_mem_linesFrom (by simp) hl

/-- A text is one line, or a first line with its line feed before a further text. -/
theorem induction_on_lines {motive : List Char → Prop} (text : List Char)
    (single : ∀ line, '\n' ∉ line → motive line)
    (more : ∀ line rest, '\n' ∉ line → motive rest → motive (line ++ '\n' :: rest)) :
    motive text := by
  induction hn : text.length using Nat.strongRecOn generalizing text with
  | ind n ih =>
    by_cases h : '\n' ∈ text
    · obtain ⟨line, rest, rfl, hline⟩ := List.eq_append_cons_of_mem h
      have hlt : rest.length < n := by
        rw [List.length_append, List.length_cons] at hn
        omega
      exact more line rest hline (ih rest.length hlt rest rfl)
    · exact single text h

theorem newline_not_mem_of_mem_splitOn (text : List Char) :
    ∀ line ∈ text.splitOn '\n', '\n' ∉ line := by
  induction text using induction_on_lines with
  | single line hline =>
    rw [List.splitOn_eq_singleton hline]
    simpa using hline
  | more line rest hline ih =>
    rw [List.splitOn_append_cons_self_of_not_mem hline]
    simpa using ⟨hline, ih⟩

/-- Lines with their line feeds. -/
def ended (lines : List (List Char)) : List Char :=
  lines.flatMap (· ++ ['\n'])

theorem ended_cons (line : List Char) (lines : List (List Char)) :
    ended (line :: lines) = line ++ '\n' :: ended lines := by
  simp [ended]

theorem ended_append (xs ys : List (List Char)) : ended (xs ++ ys) = ended xs ++ ended ys :=
  List.flatMap_append

theorem ended_splitOn (text : List Char) : ended (text.splitOn '\n') = text ++ ['\n'] := by
  induction text using induction_on_lines with
  | single line hline => rw [List.splitOn_eq_singleton hline, ended_cons, ended, List.flatMap_nil]
  | more line rest hline ih =>
    rw [List.splitOn_append_cons_self_of_not_mem hline, ended_cons, ih]
    simp

theorem splitOn_ended {lines : List (List Char)} (h : ∀ line ∈ lines, '\n' ∉ line) :
    (ended lines).splitOn '\n' = lines ++ [[]] := by
  induction lines with
  | nil => rfl
  | cons line rest ih =>
    have hrest : ∀ l ∈ rest, '\n' ∉ l := fun l hl => h l (List.mem_cons_of_mem line hl)
    rw [ended_cons, List.splitOn_append_cons_self_of_not_mem (h line List.mem_cons_self), ih hrest,
      List.cons_append]

theorem newline_not_mem_of_mem_flatMap_splitOn (texts : List (List Char)) :
    ∀ line ∈ texts.flatMap (·.splitOn '\n'), '\n' ∉ line := by
  intro line hline
  obtain ⟨text, -, hmem⟩ := List.mem_flatMap.mp hline
  exact newline_not_mem_of_mem_splitOn text line hmem

theorem ended_flatMap_splitOn (texts : List (List Char)) :
    ended (texts.flatMap (·.splitOn '\n')) = ended texts := by
  induction texts with
  | nil => rfl
  | cons text rest ih =>
    rw [List.flatMap_cons, ended_append, ended_splitOn, ih, ended_cons, List.append_assoc]
    rfl

/-- There is one way to read ended texts as lines. -/
theorem eq_flatMap_splitOn_of_ended_eq {texts lines : List (List Char)}
    (hlines : ∀ line ∈ lines, '\n' ∉ line) (h : ended texts = ended lines) :
    lines = texts.flatMap (·.splitOn '\n') := by
  have hsplit := splitOn_ended (newline_not_mem_of_mem_flatMap_splitOn texts)
  rw [ended_flatMap_splitOn, h, splitOn_ended hlines] at hsplit
  exact List.append_cancel_right hsplit

end Text

namespace Source

open Target

/-! ## Comments -/

def IsComment (line : List Char) : Prop :=
  ['/', '/'] <+: line

instance (line : List Char) : Decidable (IsComment line) :=
  inferInstanceAs (Decidable (['/', '/'] <+: line))

theorem isComment_append {line : List Char} (h : IsComment line) (rest : List Char) :
    IsComment (line ++ rest) :=
  h.trans (List.prefix_append line rest)

theorem isComment_append_stop {line : List Char} : IsComment (line ++ ['.']) ↔ IsComment line := by
  constructor
  · intro h
    rcases List.prefix_concat_iff.mp h with heq | h
    · have hlast : '.' ∈ ['/', '/'] := by
        rw [heq]
        simp
      simp at hlast
    · exact h
  · exact fun h => isComment_append h ['.']

theorem isComment_splitOn_append_stop {text : List Char} :
    (∀ line ∈ (text ++ ['.']).splitOn '\n', IsComment line) ↔
      ∀ line ∈ text.splitOn '\n', IsComment line := by
  induction text using Text.induction_on_lines with
  | single line hline =>
    have hmem : '\n' ∉ line ++ ['.'] := by simp [hline]
    rw [List.splitOn_eq_singleton hmem, List.splitOn_eq_singleton hline]
    simpa using isComment_append_stop
  | more line rest hline ih =>
    rw [List.append_assoc, List.cons_append, List.splitOn_append_cons_self_of_not_mem hline,
      List.splitOn_append_cons_self_of_not_mem hline, List.forall_mem_cons, List.forall_mem_cons,
      ih]

/-- A sentence that begins in a comment is one where the further lines of what it quotes are. -/
theorem isComment_splitOn_sentence {opening text : List Char} (hline : '\n' ∉ opening)
    (h : IsComment opening) :
    (∀ line ∈ (opening ++ text ++ ['.']).splitOn '\n', IsComment line) ↔
      ∀ line ∈ (text.splitOn '\n').tail, IsComment line := by
  rw [isComment_splitOn_append_stop]
  induction text using Text.induction_on_lines with
  | single first hfirst =>
    have hmem : '\n' ∉ opening ++ first := by simp [hline, hfirst]
    rw [List.splitOn_eq_singleton hmem, List.splitOn_eq_singleton hfirst]
    simpa using isComment_append h first
  | more first rest hfirst _ =>
    have hmem : '\n' ∉ opening ++ first := by simp [hline, hfirst]
    rw [← List.append_assoc, List.splitOn_append_cons_self_of_not_mem hmem,
      List.splitOn_append_cons_self_of_not_mem hfirst, List.forall_mem_cons, List.tail_cons]
    exact and_iff_right (isComment_append h first)

/-! ## Header lines -/

theorem toList_unlines (ls : List String) :
    (unlines ls).toList = Text.ended (ls.map String.toList) := by
  rw [unlines, String.toList_join, Text.ended]
  simp [List.flatMap_def, List.map_map, Function.comp_def]

/-- The lines of the header option are comments, whatever they are. -/
theorem isComment_of_mem_header {header : Option String} {line : String}
    (h : line ∈ ((header.map Text.lines).getD []).map fun line =>
      if line.isEmpty then "//" else "// " ++ line) :
    '\n' ∉ line.toList ∧ IsComment line.toList := by
  obtain ⟨l, hl, rfl⟩ := List.mem_map.mp h
  have hfeed : '\n' ∉ l.toList := by
    cases header with
    | none => simp at hl
    | some s => exact Text.newline_not_mem_of_mem_lines hl
  split
  · exact by decide
  · rw [String.toList_append]
    refine ⟨?_, isComment_append (by decide) l.toList⟩
    simpa using hfeed

theorem isComment_headerLines (version : String) (header : Option String) :
    (∀ line ∈ ((headerLines version header).map String.toList).flatMap (·.splitOn '\n'),
      IsComment line) ↔ ∀ line ∈ (version.toList.splitOn '\n').tail, IsComment line := by
  have hedit : ∀ line ∈ "// Do not edit manually.".toList.splitOn '\n', IsComment line := by
    rw [List.splitOn_eq_singleton (by decide)]
    decide
  have hrest : ∀ line ∈ ((((header.map Text.lines).getD []).map fun line =>
      if line.isEmpty then "//" else "// " ++ line).map String.toList).flatMap (·.splitOn '\n'),
      IsComment line := by
    intro line hline
    obtain ⟨_, htext, hmem⟩ := List.mem_flatMap.mp hline
    obtain ⟨s, hs, rfl⟩ := List.mem_map.mp htext
    obtain ⟨hfeed, hcomment⟩ := isComment_of_mem_header hs
    rw [List.splitOn_eq_singleton hfeed, List.mem_singleton] at hmem
    rw [hmem]
    exact hcomment
  rw [headerLines, List.map_append, List.flatMap_append, List.forall_mem_append]
  simp only [List.map_cons, List.map_nil, List.flatMap_cons, List.flatMap_nil, List.append_nil,
    List.forall_mem_append]
  rw [and_iff_left hrest, and_iff_left hedit, String.toList_append, String.toList_append]
  refine (isComment_splitOn_sentence (by decide) (by decide)).trans ?_
  by_cases hempty : version = ""
  · subst hempty
    simp [List.splitOn_eq_singleton]
  · rw [if_neg (by simpa using hempty)]

/-! ## The head of a file -/

/-- What a file holds below its head. -/
def formatted (ds : List Decl) : Rendered String := do
  let items ← items ds
  return unlines preamble ++ String.join (items.map Item.render)

theorem file_eq_ok {version : String} {header : Option String} {ds : List Decl} {code : String} :
    file version header ds = .ok code ↔ ∃ body, formatted ds = .ok body ∧
      code = unlines (headerLines version header ++ [""]) ++ body := by
  have hjoin : ∀ xs ys, unlines (xs ++ ys) = unlines xs ++ unlines ys := by
    intro xs ys
    simp [unlines]
  simp only [file, formatted, bind_eq_ok, pure_eq_ok, hjoin, String.append_assoc]
  constructor
  · rintro ⟨is, his, rfl⟩
    exact ⟨_, ⟨is, his, rfl⟩, rfl⟩
  · rintro ⟨_, ⟨is, his, rfl⟩, rfl⟩
    exact ⟨is, his, rfl⟩

/-- Lines of comments and an empty line stand before the code. -/
def Headed (code body : String) : Prop :=
  ∃ lines : List (List Char), code.toList = Text.ended lines ++ '\n' :: body.toList ∧
    ∀ line ∈ lines, '\n' ∉ line ∧ IsComment line

theorem headed_iff {version : String} {header : Option String} {body : String} :
    Headed (unlines (headerLines version header ++ [""]) ++ body) body ↔
      ∀ line ∈ (version.toList.splitOn '\n').tail, IsComment line := by
  let texts := (headerLines version header).map String.toList
  have hcode : (unlines (headerLines version header ++ [""]) ++ body).toList =
      Text.ended texts ++ '\n' :: body.toList := by
    rw [String.toList_append, toList_unlines, List.map_append, Text.ended_append, List.append_assoc]
    rfl
  rw [← isComment_headerLines version header]
  constructor
  · rintro ⟨lines, hlines, hcomments⟩
    rw [hcode] at hlines
    have heq : lines = texts.flatMap (·.splitOn '\n') :=
      Text.eq_flatMap_splitOn_of_ended_eq (fun line hline => (hcomments line hline).1)
        (List.append_cancel_right hlines)
    intro line hline
    rw [← heq] at hline
    exact (hcomments line hline).2
  · intro hcomments
    refine ⟨texts.flatMap (·.splitOn '\n'), ?_, ?_⟩
    · rw [hcode, Text.ended_flatMap_splitOn]
    · intro line hline
      exact ⟨Text.newline_not_mem_of_mem_flatMap_splitOn texts line hline, hcomments line hline⟩

/-- A file is its code below a head of comments exactly when the version brings no line of its own
that is no comment; the header option may hold any text. -/
theorem file_headed_iff {version : String} {header : Option String} {ds : List Decl}
    {code : String} (h : file version header ds = .ok code) :
    ∃ body, formatted ds = .ok body ∧
      (Headed code body ↔ ∀ line ∈ (version.toList.splitOn '\n').tail, IsComment line) := by
  obtain ⟨body, hbody, rfl⟩ := file_eq_ok.mp h
  exact ⟨body, hbody, headed_iff⟩

theorem file_headed_draft : ∃ code body,
    file "3.17\n// of the draft" (some "Checked.\n\nTwice.") [.type ⟨"Uri", {}, .newtype .string⟩] =
      .ok code ∧ formatted [.type ⟨"Uri", {}, .newtype .string⟩] = .ok body ∧ Headed code body := by
  have hfile : file "3.17\n// of the draft" (some "Checked.\n\nTwice.")
      [.type ⟨"Uri", {}, .newtype .string⟩] = .ok _ := rfl
  obtain ⟨body, hbody, hiff⟩ := file_headed_iff hfile
  exact ⟨_, body, hfile, hbody, hiff.mpr (by decide)⟩

/-- A second line of the version is code. -/
theorem not_file_headed : ¬ ∀ version header ds code, file version header ds = .ok code →
    ∃ body, formatted ds = .ok body ∧ Headed code body := by
  intro hall
  obtain ⟨code, hcode⟩ : ∃ code, file "3.17\nfn main() \x7b\x7d" none [] = .ok code := ⟨_, rfl⟩
  obtain ⟨body, hbody, hheaded⟩ := hall _ _ _ code hcode
  obtain ⟨body', hbody', rfl⟩ := file_eq_ok.mp hcode
  obtain rfl : body = body' := Except.ok.inj (hbody.symm.trans hbody')
  exact absurd (headed_iff.mp hheaded) (by decide)

end Source
end ProtocolTypes
