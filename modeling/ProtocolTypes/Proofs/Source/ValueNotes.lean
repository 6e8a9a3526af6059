import ProtocolTypes.Proofs.Mapping.Optionality
import ProtocolTypes.Proofs.Mapping.SymbolTable
import ProtocolTypes.Proofs.Source.Header

/-!
# ProtocolTypes.Proofs.Source.ValueNotes

Which values of constrained types a source file lists. A constrained type is written as its
primitive, so only comments tell its values. The comment of a field has a line that lists them all,
in order, where the type of the field is constrained or an option of such a type (`IsLimited`).
Below a list, a map or a tuple they are not listed, and the comments of synonyms list no values at
all (`generate_valueNotes`, `values_not_listed`).
-/

namespace ProtocolTypes

/-! ## Texts of one line -/

namespace Text

/-- The text stands somewhere in the other one. -/
def Within (part whole : String) : Prop :=
  ∃ before after, whole = before ++ part ++ after

theorem Within.refl (s : String) : Within s s :=
  ⟨"", "", by simp⟩

theorem Within.trans {r s t : String} (h : Within r s) (h' : Within s t) : Within r t := by
  obtain ⟨b, a, rfl⟩ := h
  obtain ⟨b', a', rfl⟩ := h'
  exact ⟨b' ++ b, a ++ a', by simp only [String.append_assoc]⟩

theorem Within.append_left {s t : String} (h : Within s t) (u : String) : Within s (u ++ t) :=
  h.trans ⟨u, "", by simp⟩

theorem Within.append_right {s t : String} (h : Within s t) (u : String) : Within s (t ++ u) :=
  h.trans ⟨"", u, by simp⟩

theorem within_join {xs : List String} {x : String} (hx : x ∈ xs) : Within x (String.join xs) := by
  induction xs with
  | nil => cases hx
  | cons y ys ih =>
    rw [String.join_cons]
    rcases List.mem_cons.mp hx with rfl | hx
    · exact (Within.refl x).append_right _
    · exact (ih hx).append_left y

def IsOneLine (s : String) : Prop :=
  '\n' ∉ s.toList

instance (s : String) : Decidable (IsOneLine s) :=
  inferInstanceAs (Decidable ('\n' ∉ s.toList))

theorem IsOneLine.append {s t : String} (hs : IsOneLine s) (ht : IsOneLine t) :
    IsOneLine (s ++ t) := by
  rw [IsOneLine, String.toList_append, List.mem_append, not_or]
  exact ⟨hs, ht⟩

theorem isOneLine_intercalate {separator : String} (hseparator : IsOneLine separator)
    {ss : List String} (hss : ∀ s ∈ ss, IsOneLine s) : IsOneLine (separator.intercalate ss) := by
  induction ss with
  | nil =>
    rw [String.intercalate_nil]
    exact List.not_mem_nil
  | cons s rest ih =>
    obtain ⟨hs, hrest⟩ := List.forall_mem_cons.mp hss
    by_cases hnil : rest = []
    · rw [hnil, String.intercalate_singleton]
      exact hs
    · rw [String.intercalate_cons_of_ne_nil hnil]
      exact (hs.append hseparator).append (ih hrest)

/-- What follows a line feed is read from the beginning of a line. -/
theorem exists_linesFrom_append (cs rest line : List Char) :
    ∃ before, linesFrom line (cs ++ '\n' :: rest) = before ++ linesFrom [] rest := by
  induction cs generalizing line with
  | nil =>
    rw [List.nil_append, linesFrom, if_pos rfl]
    exact ⟨[_], rfl⟩
  | cons c cs ih =>
    rw [List.cons_append, linesFrom]
    split
    · obtain ⟨before, h⟩ := ih []
      rw [h]
      exact ⟨_ :: before, rfl⟩
    · exact ih (c :: line)

theorem linesFrom_of_isOneLine {cs : List Char} (h : '\n' ∉ cs) (line : List Char) :
    linesFrom line cs = if (cs.reverse ++ line).isEmpty then [] else [line.reverse ++ cs] := by
  induction cs generalizing line with
  | nil => simp [linesFrom]
  | cons c cs ih =>
    rw [List.mem_cons, not_or] at h
    rw [linesFrom, if_neg (Ne.symm h.1), ih h.2]
    simp

theorem lines_of_isOneLine {s : String} (h : IsOneLine s) (hne : s ≠ "") : lines s = [s] := by
  rw [lines, linesFrom_of_isOneLine h]
  simp [hne]

/-- A last paragraph of one line is a line of the text. -/
theorem mem_lines_append {s : String} (h : IsOneLine s) (hne : s ≠ "") (text : String) :
    s ∈ lines (text ++ "\n\n" ++ s) := by
  have hfeeds : (text ++ "\n\n" ++ s).toList = (text.toList ++ ['\n']) ++ '\n' :: s.toList := by
    simp
  obtain ⟨before, hlines⟩ := exists_linesFrom_append (text.toList ++ ['\n']) s.toList []
  rw [lines, hfeeds, hlines, List.map_append, ← lines, lines_of_isOneLine h hne]
  exact List.mem_append_right _ (List.mem_singleton_self s)

/-! ## Escaped texts -/

theorem newline_not_mem_toDigits (n : Nat) : '\n' ∉ Nat.toDigits 16 n := by
  induction n using Nat.strongRecOn with
  | ind n ih =>
    rw [Nat.toDigits_eq_if (by decide)]
    have hdigit (d : Nat) : '\n' ≠ d.digitChar := (Nat.digitChar_ne '\n' (by decide)).symm
    split
    · exact mt List.mem_singleton.mp (hdigit n)
    · rename_i hle
      rw [List.mem_append, List.mem_singleton, not_or]
      exact ⟨ih (n / 16) (Nat.div_lt_self (by omega) (by decide)), hdigit (n % 16)⟩

theorem newline_not_mem_escapeChar (c : Char) : '\n' ∉ Quoted.escapeChar c := by
  rw [Quoted.escapeChar]
  split
  · rename_i e he
    rw [Quoted.shortEscape?.eq_def] at he
    split at he <;> cases he <;> decide
  · rename_i hnone
    split
    · simpa [Quoted.codePoint] using newline_not_mem_toDigits c.toNat
    · intro hmem
      obtain rfl := List.mem_singleton.mp hmem
      cases hnone

theorem isOneLine_display (s : String) : IsOneLine (Quoted.display s) := by
  have hescaped : '\n' ∉ Quoted.escape s.toList := by
    intro hmem
    obtain ⟨c, -, hc⟩ := List.mem_flatMap.mp hmem
    exact newline_not_mem_escapeChar c hc
  simpa [IsOneLine, Quoted.display, Quoted.quote] using hescaped

theorem isOneLine_repr (n : Nat) : IsOneLine n.repr := by
  intro hmem
  exact absurd ((isDigits_repr n).2 _ hmem) (by decide)

end Text

namespace Target

theorem LiteralValue.isOneLine_describe (v : LiteralValue) : Text.IsOneLine v.describe := by
  cases v with
  | text s => exact Text.isOneLine_display s
  | integer i =>
    rw [describe, Int.toString_eq_repr]
    cases i.toInt with
    | ofNat n => exact Text.isOneLine_repr n
    | negSucc n =>
      exact Text.IsOneLine.append (show Text.IsOneLine "-" by decide) (Text.isOneLine_repr _)
  | boolean b => cases b <;> decide

/-! ## Limited types -/

namespace TargetType

/-- The type is constrained, or an option of a limited type. -/
inductive IsLimited : TargetType → Prop where
  | constrained {p : Primitive} {vs : List LiteralValue} : IsLimited (.constrained p vs)
  | option {t : TargetType} : IsLimited t → IsLimited (.option t)

/-- The only constrained type in a limited type is the one that limits it. -/
theorem IsLimited.constraint? {t : TargetType} (h : t.IsLimited) {p : Primitive}
    {vs : List LiteralValue} (hpart : Part (.constrained p vs) t) : t.constraint? = some vs := by
  induction h with
  | constrained =>
    cases hpart with
    | self => rfl
    | child hc _ => cases hc
  | option _ ih =>
    cases hpart with
    | child hc hpart =>
      obtain rfl := List.mem_singleton.mp hc
      exact ih hpart

theorem constraint?_eq_none {t : TargetType} (h : ¬ t.IsLimited) : t.constraint? = none := by
  induction t with
  | constrained p vs => exact absurd .constrained h
  | option t ih => exact ih fun ht => h (.option ht)
  | primitive | symbol | list | map | tuple | boxed => rfl

end TargetType

/-! ## Lines of documentation -/

namespace Docs

variable {line : String} {lines : List String}

theorem mem_addParagraph (h : line ∈ lines) (paragraph : String) :
    line ∈ addParagraph lines paragraph :=
  List.mem_append_left _ h

theorem mem_addSince (h : line ∈ lines) (since : Option String) : line ∈ addSince since lines := by
  cases since with
  | none => exact h
  | some version =>
    rw [addSince]
    split
    · exact h
    · exact mem_addParagraph h _

theorem mem_addProposed (h : line ∈ lines) (proposed : Bool) :
    line ∈ addProposed proposed lines := by
  rw [addProposed]
  split
  · exact mem_addParagraph h _
  · exact h

/-- The version and the proposal mark follow the lines of the text. -/
theorem mem_lines {d : Docs} {text : String} (htext : d.text = some text)
    (h : line ∈ Text.lines text) : line ∈ d.lines := by
  rw [Docs.lines, htext]
  exact mem_addProposed (mem_addSince h _) _

end Docs
end Target

namespace Source

open Target Text

/-! ## The note -/

/-- A value as a literal: a text between quotes with its special characters escaped, an integer by
its digits, and a truth value by its name. -/
def shown : LiteralValue → String
  | .text s => "\"" ++ String.ofList (Quoted.escape s.toList) ++ "\""
  | .integer i => toString i.toInt
  | .boolean true => "true"
  | .boolean false => "false"

/-- The values in the order they are permitted in, as a note spells them. -/
def listed (vs : List LiteralValue) : String :=
  ", ".intercalate (vs.map fun v => "\x60" ++ shown v ++ "\x60")

theorem describe_eq_shown (v : LiteralValue) : v.describe = shown v := by
  cases v with
  | text s =>
    rw [LiteralValue.describe, Quoted.display, Quoted.quote, shown, ← String.toList_inj]
    simp
  | integer i => rfl
  | boolean b => cases b <;> rfl

theorem valuesNote_eq (vs : List LiteralValue) :
    valuesNote vs = (if vs.length = 1 then "Always " else "One of ") ++ listed vs ++ "." := by
  rcases vs with _ | ⟨v, _ | ⟨w, vs⟩⟩
  · rfl
  · simp [valuesNote, listed, describe_eq_shown]
  · rw [if_neg (by simp), listed, ← funext describe_eq_shown]
    rfl

theorem isOneLine_listed (vs : List LiteralValue) : IsOneLine (listed vs) := by
  have hmark : IsOneLine "\x60" := by decide
  refine isOneLine_intercalate (by decide) fun s hs => ?_
  obtain ⟨v, -, rfl⟩ := List.mem_map.mp hs
  exact (hmark.append (describe_eq_shown v ▸ v.isOneLine_describe)).append hmark

theorem isOneLine_valuesNote (vs : List LiteralValue) : IsOneLine (valuesNote vs) := by
  rw [valuesNote_eq]
  refine IsOneLine.append (IsOneLine.append ?_ (isOneLine_listed vs)) (by decide)
  split <;> decide

theorem valuesNote_ne_empty (vs : List LiteralValue) : valuesNote vs ≠ "" := by
  rw [valuesNote_eq]
  simp

theorem note_mem_lines (vs : List LiteralValue) (d : Docs) :
    valuesNote vs ∈ (addNote (valuesNote vs) d).lines := by
  refine Docs.mem_lines rfl ?_
  cases d.text with
  | none =>
    dsimp only
    rw [lines_of_isOneLine (isOneLine_valuesNote vs) (valuesNote_ne_empty vs)]
    exact List.mem_singleton_self _
  | some text => exact mem_lines_append (isOneLine_valuesNote vs) (valuesNote_ne_empty vs) text

/-! ## Comments -/

theorem trimBlanks_append_stop (s : String) : trimBlanks (s ++ ".") = s ++ "." := by
  have hstop : ".".toList = ['.'] := rfl
  rw [trimBlanks, String.toList_append, hstop, List.reverse_append, List.reverse_singleton,
    List.singleton_append, List.dropWhile_cons_of_neg (by decide), List.reverse_cons,
    List.reverse_reverse, ← hstop, ← String.toList_append, String.ofList_toList]

/-- A note is a line of its own, one blank behind its mark. -/
theorem render_valuesNote (indent : Nat) (vs : List LiteralValue) :
    (docAttribute (valuesNote vs)).render indent =
      Layout.spaces indent ++ "/// " ++ valuesNote vs ++ "\n" := by
  have hline : '\n' ∉ (" " ++ valuesNote vs).toList :=
    IsOneLine.append (by decide : IsOneLine " ") (isOneLine_valuesNote vs)
  have hblank : "///" ++ (" " ++ valuesNote vs) = "/// " ++ valuesNote vs := by
    rw [← String.append_assoc]
    rfl
  have htrim : trimBlanks ("/// " ++ valuesNote vs) = "/// " ++ valuesNote vs := by
    rw [valuesNote_eq, ← String.append_assoc, trimBlanks_append_stop]
  rw [docAttribute, if_neg (by simpa using valuesNote_ne_empty vs), Attribute.render,
    Attribute.layout, Attribute.docText, if_pos (by simpa using hline), hblank, htrim,
    Layout.render, Layout.write]
  simp only [String.append_assoc]

/-- The lines of documentation are comments, and the other attributes are not. -/
def Attribute.isDoc : Attribute → Bool
  | .doc _ => true
  | .list _ _ => false

/-- Lines of documentation, as they are written. -/
def comment (indent : Nat) (lines : List String) : String :=
  renderAttributes indent (lines.map docAttribute)

theorem renderAttributes_append (indent : Nat) (as bs : List Attribute) :
    renderAttributes indent (as ++ bs) =
      renderAttributes indent as ++ renderAttributes indent bs := by
  simp [renderAttributes]

theorem within_comment (indent : Nat) {lines : List String} {line : String} (h : line ∈ lines) :
    Within ((docAttribute line).render indent) (comment indent lines) :=
  within_join (List.mem_map_of_mem (List.mem_map_of_mem h))

namespace Member

/-- The comment of a member. -/
def comment (m : Member) : String :=
  renderAttributes Layout.indentStep (m.attributes.filter Attribute.isDoc)

/-- The member without its comment. -/
def bare (m : Member) : Member :=
  { m with attributes := m.attributes.filter fun a => !a.isDoc }

end Member

namespace Item

/-- The comment of an item. -/
def comment : Item → String
  | .braced attributes _ _ | .statement attributes _ =>
    renderAttributes 0 (attributes.filter Attribute.isDoc)

/-- The item without its comment. -/
def bare : Item → Item
  | .braced attributes head members =>
    .braced (attributes.filter fun a => !a.isDoc) head members
  | .statement attributes layout => .statement (attributes.filter fun a => !a.isDoc) layout

end Item

/-- Attributes are the lines of a comment with others behind them. -/
def Documented (lines : List String) (attributes : List Attribute) : Prop :=
  ∃ others, attributes = lines.map docAttribute ++ others ∧ ∀ a ∈ others, a.isDoc = false

theorem documented_documentation (d : Docs) (others : List Attribute)
    (h : ∀ a ∈ others, a.isDoc = false) : Documented d.lines (documentation d ++ others) := by
  rw [documentation, List.append_assoc]
  refine ⟨_, rfl, List.forall_mem_append.mpr ⟨fun a ha => ?_, h⟩⟩
  split at ha
  · rw [List.mem_singleton.mp ha]
    rfl
  · cases ha

section Documented

variable {lines : List String} {attributes : List Attribute}

theorem Documented.filter_isDoc (h : Documented lines attributes) :
    attributes.filter Attribute.isDoc = lines.map docAttribute := by
  obtain ⟨others, rfl, hothers⟩ := h
  have hnone : others.filter Attribute.isDoc = [] := by
    simpa [List.filter_eq_nil_iff] using hothers
  have hall : (lines.map docAttribute).filter Attribute.isDoc = lines.map docAttribute := by
    simp [List.filter_eq_self, docAttribute, Attribute.isDoc]
  rw [List.filter_append, hnone, hall, List.append_nil]

theorem Documented.eq_append (h : Documented lines attributes) :
    attributes = lines.map docAttribute ++ attributes.filter fun a => !a.isDoc := by
  obtain ⟨others, rfl, hothers⟩ := h
  have hall : (others.filter fun a => !a.isDoc) = others := by
    simpa [List.filter_eq_self] using hothers
  have hnone : ((lines.map docAttribute).filter fun a => !a.isDoc) = [] := by
    simp [List.filter_eq_nil_iff, docAttribute, Attribute.isDoc]
  rw [List.filter_append, hnone, hall, List.nil_append]

theorem Documented.render (h : Documented lines attributes) (indent : Nat) :
    renderAttributes indent attributes =
      comment indent lines ++ renderAttributes indent (attributes.filter fun a => !a.isDoc) := by
  rw [comment, ← renderAttributes_append, ← h.eq_append]

theorem Documented.comment_member {layout : Layout} (h : Documented lines attributes) :
    (Member.mk attributes layout).comment = comment Layout.indentStep lines := by
  rw [Member.comment, h.filter_isDoc, comment]

/-- The comment of a member stands right above it. -/
theorem Documented.render_member {layout : Layout} (h : Documented lines attributes) :
    (Member.mk attributes layout).render =
      (Member.mk attributes layout).comment ++ (Member.mk attributes layout).bare.render := by
  rw [h.comment_member, Member.render, h.render, Member.render, Member.bare]
  simp only [String.append_assoc]

end Documented

theorem documented_field {f : Field} {member : Member} (h : field f = .ok member) :
    Documented (fieldDocs f).lines member.attributes := by
  rw [field] at h
  obtain ⟨name, -, h⟩ := bind_eq_ok.mp h
  obtain ⟨t, -, h⟩ := bind_eq_ok.mp h
  cases h
  refine documented_documentation _ _ (List.forall_mem_cons.mpr ⟨rfl, fun a ha => ?_⟩)
  rw [absence] at ha
  split at ha
  · rw [List.mem_singleton.mp ha]
    rfl
  · cases ha

/-- A synonym has the comment of its own documentation. -/
theorem item_of_synonym {t : TypeDecl} {u : TargetType} (hspec : t.spec = .synonym u) {item : Item}
    (h : typeItem t = .ok item) :
    item.comment = comment 0 t.docs.lines ∧ item.render = item.comment ++ item.bare.render := by
  have hdocs : Documented t.docs.lines (documentation t.docs) := by
    have hnone := documented_documentation t.docs [] fun a ha => absurd ha List.not_mem_nil
    rwa [List.append_nil] at hnone
  rw [typeItem] at h
  obtain ⟨name, -, h⟩ := bind_eq_ok.mp h
  rw [hspec] at h
  obtain ⟨layout, -, h⟩ := bind_eq_ok.mp h
  cases h
  have hcomment : (Item.statement (documentation t.docs)
      (.text ("pub type " ++ name ++ " = ") ++ layout)).comment = comment 0 t.docs.lines := by
    rw [Item.comment, hdocs.filter_isDoc, comment]
  refine ⟨hcomment, ?_⟩
  rw [hcomment, Item.render, hdocs.render, Item.bare, Item.render]
  simp only [String.append_assoc]

/-! ## Places in a file -/

/-- Each type is an item of the file. -/
theorem exists_item_of_file {version : String} {header : Option String} {ds : List Decl}
    {code : String} (h : file version header ds = .ok code) {t : TypeDecl} (ht : .type t ∈ ds) :
    ∃ item, typeItem t = .ok item ∧ Within item.render code := by
  obtain ⟨body, hbody, rfl⟩ := file_eq_ok.mp h
  simp only [formatted, items, bind_eq_ok, map_eq_ok, pure_eq_ok] at hbody
  obtain ⟨is, ⟨iss, hiss, rfl⟩, rfl⟩ := hbody
  obtain ⟨items, hitems, hdecl⟩ := exists_of_forall₂ (mapM_eq_ok_iff.mp hiss) ht
  obtain ⟨item, hitem, heq⟩ := bind_eq_ok.mp hdecl
  cases heq
  refine ⟨item, hitem, ?_⟩
  have hmem : item ∈ iss.flatten := List.mem_flatten.mpr ⟨_, hitems, List.mem_singleton_self _⟩
  exact ((within_join (List.mem_map_of_mem hmem)).append_left _).append_left _

/-- Each field is a member of the item of its record. -/
theorem exists_member_of_item {t : TypeDecl} {bases : List Base} {fields : List Field}
    (hspec : t.spec = .record bases fields) {item : Item} (h : typeItem t = .ok item) {f : Field}
    (hf : f ∈ fields) : ∃ member, field f = .ok member ∧ Within member.render item.render := by
  obtain ⟨attributes, head, inherited, members, rfl, hmembers⟩ := members_of_typeItem hspec h
  obtain ⟨member, hmember, hfield⟩ := exists_of_forall₂ hmembers hf
  refine ⟨member, hfield, ?_⟩
  have hmem : member ∈ inherited ++ members := List.mem_append_right _ hmember
  have hwithin := within_join (List.mem_map_of_mem (f := Member.render) hmem)
  rw [Item.render, if_neg (by simpa using List.ne_nil_of_mem hmem)]
  exact ((hwithin.append_left "\n").append_left _).append_right _

/-! ## Listed values -/

/-- What the comments of a file say of the values of constrained types. -/
structure ValueNotes (code : String) (ds : List Decl) : Prop where
  /-- A field stands below its comment. Where its type is limited to values, a line of the comment
  lists them, and otherwise the comment is the documentation of the field. -/
  field : ∀ t, .type t ∈ ds → ∀ bases fields, t.spec = .record bases fields → ∀ f ∈ fields,
    ∃ member, Source.field f = .ok member ∧
      Within (member.comment ++ member.bare.render) code ∧
      (f.type.IsLimited → ∀ p vs, TargetType.Part (.constrained p vs) f.type →
        Within ("    /// " ++ (if vs.length = 1 then "Always " else "One of ") ++ listed vs ++
          ".\n") member.comment) ∧
      (¬ f.type.IsLimited → member.comment = comment Layout.indentStep f.docs.lines)
  /-- The comment of a synonym is its documentation, whatever it stands for. -/
  synonym : ∀ t, .type t ∈ ds → ∀ u, t.spec = .synonym u →
    ∃ item, typeItem t = .ok item ∧ Within (item.comment ++ item.bare.render) code ∧
      item.comment = comment 0 t.docs.lines

theorem file_valueNotes {version : String} {header : Option String} {ds : List Decl}
    {code : String} (h : file version header ds = .ok code) : ValueNotes code ds := by
  constructor
  case field =>
    intro t ht bases fields hspec f hf
    obtain ⟨item, hitem, hcode⟩ := exists_item_of_file h ht
    obtain ⟨member, hmember, hwithin⟩ := exists_member_of_item hspec hitem hf
    have hdocs := documented_field hmember
    have hcomment : member.comment = comment Layout.indentStep (fieldDocs f).lines :=
      hdocs.comment_member
    refine ⟨member, hmember, ?_, fun hlimited p vs hpart => ?_, fun hfree => ?_⟩
    · rw [← show member.render = _ from hdocs.render_member]
      exact hwithin.trans hcode
    · have hnote : valuesNote vs ∈ (fieldDocs f).lines := by
        rw [fieldDocs, hlimited.constraint? hpart]
        exact note_mem_lines vs f.docs
      have hline := within_comment Layout.indentStep hnote
      have hmark : Layout.spaces Layout.indentStep ++ "/// " = "    /// " := rfl
      have hend : ".\n" = "." ++ "\n" := rfl
      rw [render_valuesNote, valuesNote_eq, ← hcomment, hmark] at hline
      rw [hend]
      simpa only [String.append_assoc] using hline
    · rw [hcomment, fieldDocs, TargetType.constraint?_eq_none hfree]
  case synonym =>
    intro t ht u hspec
    obtain ⟨item, hitem, hcode⟩ := exists_item_of_file h ht
    obtain ⟨hcomment, hrender⟩ := item_of_synonym hspec hitem
    exact ⟨item, hitem, hrender ▸ hcode, hcomment⟩

end Source

namespace MetaModel

open Source Target Text

variable {m : MetaModel} {o : Options} {code : String}

/-- The values of a constrained type are listed in the comment of a field just where the type of
the field is limited to them. -/
theorem generate_valueNotes (h : m.generate o = .ok code) :
    ∃ ds, m.targetDecls o.toMappingOptions = .ok ds ∧ ValueNotes code ds := by
  obtain ⟨ds, hds, hfile⟩ := generate_eq_ok_iff.mp h
  exact ⟨ds, hds, file_valueNotes hfile⟩

/-- A panel with one mode or none, several of them, and a name for them. -/
def panels : MetaModel where
  version := "1"
  requests := []
  notifications := []
  structures := [⟨"Panel", [
    ⟨"kind", .stringLiteral "panel", false, {}⟩,
    ⟨"mode", .or [.stringLiteral "off", .stringLiteral "on", .base "null"], true,
      { documentation := some "How it is shown." }⟩,
    ⟨"modes", .array (.or [.stringLiteral "off", .stringLiteral "on"]), false, {}⟩], [], [], {}⟩]
  enumerations := []
  typeAliases := [⟨"PanelMode", .or [.stringLiteral "off", .stringLiteral "on"], {}⟩]

def modeType : TargetType := .constrained .string [.text "off", .text "on"]

def panelDecl : TypeDecl := ⟨"Panel", {}, .record [] [
  ⟨"kind", "kind", .constrained .string [.text "panel"], false, {}⟩,
  ⟨"mode", "mode", .option modeType, true, { text := some "How it is shown." }⟩,
  ⟨"modes", "modes", .list modeType, false, {}⟩]⟩

def panelModeDecl : TypeDecl := ⟨"PanelMode", {}, .synonym modeType⟩

theorem targetDecls_panels :
    panels.targetDecls {} = .ok [.type panelDecl, .type panelModeDecl] :=
  targetDecls_of_collect (by decide +kernel)

def panelsCode : String :=
  "\n".intercalate [
    "// This code was automatically generated by metagen from LSP meta model version 1.",
    "// Do not edit manually.",
    "",
    "#![allow(",
    "    non_camel_case_types,",
    "    non_snake_case,",
    "    non_upper_case_globals,",
    "    deprecated,",
    "    clippy::all",
    ")]",
    "use serde::\x7bDeserialize, Serialize\x7d;",
    "#[derive(Debug, Clone, PartialEq, Serialize, Deserialize)]",
    "pub struct Panel \x7b",
    "    /// Always \x60\"panel\"\x60.",
    "    #[serde(rename = \"kind\")]",
    "    pub kind: String,",
    "    /// How it is shown.",
    "    ///",
    "    /// One of \x60\"off\"\x60, \x60\"on\"\x60.",
    "    #[serde(rename = \"mode\")]",
    "    #[serde(default, skip_serializing_if = \"Option::is_none\")]",
    "    pub mode: Option<String>,",
    "    #[serde(rename = \"modes\")]",
    "    pub modes: Vec<String>,",
    "\x7d",
    "pub type PanelMode = String;",
    ""]

theorem generate_panels : panels.generate {} = .ok panelsCode := by
  have hfile : file "1" none [.type panelDecl, .type panelModeDecl] = .ok panelsCode := by
    decide +kernel
  exact generate_eq_ok_iff.mpr ⟨_, targetDecls_panels, hfile⟩

theorem panels_valueNotes : panels.generate {} = .ok panelsCode ∧
    ∃ ds, panels.targetDecls {} = .ok ds ∧ ValueNotes panelsCode ds :=
  ⟨generate_panels, generate_valueNotes generate_panels⟩

/-- Neither a field with a list of constrained values nor a synonym for a constrained type has a
comment that lists the values. -/
theorem values_not_listed :
    (¬ ∀ (m : MetaModel) (o : Options) (code : String) (ds : List Decl), o.documented = true →
      m.generate o = .ok code → m.targetDecls o.toMappingOptions = .ok ds →
      ∀ t, .type t ∈ ds → ∀ bases fields, t.spec = .record bases fields → ∀ f ∈ fields,
        ∀ p vs, TargetType.Part (.constrained p vs) f.type →
          ∃ member, Source.field f = .ok member ∧ Within (listed vs) member.comment) ∧
    ¬ ∀ (m : MetaModel) (o : Options) (code : String) (ds : List Decl), o.documented = true →
      m.generate o = .ok code → m.targetDecls o.toMappingOptions = .ok ds →
      ∀ t, .type t ∈ ds → ∀ u, t.spec = .synonym u →
        ∀ p vs, TargetType.Part (.constrained p vs) u →
          ∃ item, typeItem t = .ok item ∧ Within (listed vs) item.comment := by
  have hnothing : ¬ Within (listed [.text "off", .text "on"]) "" := by
    rintro ⟨before, after, heq⟩
    have hempty : listed [.text "off", .text "on"] = "" := by
      simp only [eq_comm (a := ""), String.append_eq_empty_iff] at heq
      exact heq.1.2
    exact absurd hempty (by decide)
  constructor
  · intro h
    obtain ⟨member, hmember, hwithin⟩ := h _ _ _ _ rfl generate_panels targetDecls_panels panelDecl
      List.mem_cons_self _ _ rfl ⟨"modes", "modes", .list modeType, false, {}⟩ (by simp) .string _
      (.child List.mem_cons_self .self)
    cases hmember
    exact hnothing hwithin
  · intro h
    obtain ⟨item, hitem, hwithin⟩ := h _ _ _ _ rfl generate_panels targetDecls_panels panelModeDecl
      (by simp) _ rfl .string _ .self
    cases hitem
    exact hnothing hwithin

end MetaModel
end ProtocolTypes
