import ProtocolTypes.Proofs.Json.Scanning

/-!
# ProtocolTypes.Proofs.Json.Compact

The spelling of a document without blanks. It has one for every document that is whole: nothing is
left out and the numbers are integers of at most 64 bits (`writtenAs_compact`).
-/

namespace ProtocolTypes
namespace Json

open Cursor

/-! ## Strings -/

def escape (c : Char) : List Char :=
  if c < ' ' then ['\\', 'u', '0', '0', Nat.digitChar (c.toNat / 16), Nat.digitChar (c.toNat % 16)]
  else if c = '"' ∨ c = '\\' then ['\\', c]
  else [c]

def quote (s : String) : List Char :=
  '"' :: (s.toList.flatMap escape ++ ['"'])

theorem hexValue?_control {n : Nat} (hn : n < 32) :
    hexValue? ['0', '0', Nat.digitChar (n / 16), Nat.digitChar (n % 16)] = some n := by
  revert n
  decide

theorem not_surrogate {n : Nat} (hn : n < 32) :
    StringScan.isLeadingSurrogate n = false ∧ StringScan.isTrailingSurrogate n = false := by
  simp only [StringScan.isLeadingSurrogate, StringScan.isTrailingSurrogate, Bool.and_eq_false_iff,
    decide_eq_false_iff_not]
  omega

theorem charSpelling_escape (c : Char) : CharSpelling c (escape c) := by
  unfold escape
  split_ifs with hcontrol hspecial
  · have hn : c.toNat < 32 := hcontrol
    obtain ⟨hlead, htrail⟩ := not_surrogate hn
    simpa using CharSpelling.codePoint (hexValue?_control hn) hlead htrail
  · obtain rfl | rfl := hspecial <;> exact .letter rfl
  · rw [not_or] at hspecial
    exact .plain hcontrol hspecial.1 hspecial.2

theorem textSpelling_escape : ∀ cs : List Char, TextSpelling cs (cs.flatMap escape)
  | [] => .nil
  | c :: cs => .cons (charSpelling_escape c) (textSpelling_escape cs)

theorem quotes_quote (s : String) : Quotes s (quote s) :=
  ⟨_, textSpelling_escape s.toList, rfl⟩

/-! ## Integers -/

theorem eq_zero_of_head?_toDigits {n : Nat} (h : (Nat.toDigits 10 n).head? = some '0') : n = 0 := by
  induction n using Nat.strongRecOn with
  | ind n ih =>
    by_cases hn : n < 10
    · rw [Nat.toDigits_of_lt_base hn] at h
      have hall : ∀ m < 10, [Nat.digitChar m].head? = some '0' → m = 0 := by decide
      exact hall n hn h
    · have hlow : n / 10 < n := by omega
      rw [Nat.toDigits_of_base_le (by decide) (by omega),
        List.head?_append_of_ne_nil _ Nat.toDigits_ne_nil] at h
      have := ih (n / 10) hlow h
      omega

namespace DigitRun

/-- The decimal digits of a number. -/
def ofNat (n : Nat) : DigitRun where
  chars := Nat.toDigits 10 n
  nonempty := Nat.toDigits_ne_nil
  digits c hc := by
    have hdigit := Nat.isDigit_of_mem_toDigits (by decide) (by decide) hc
    rw [Char.isDigit, Bool.and_eq_true, decide_eq_true_eq, decide_eq_true_eq] at hdigit
    rw [isDigit, Bool.and_eq_true, decide_eq_true_eq, decide_eq_true_eq]
    exact hdigit

end DigitRun

namespace Numeral

/-- An integer in decimal digits. -/
def ofInt (i : Int) : Numeral where
  negative := i < 0
  whole := .ofNat i.natAbs
  fraction := none
  exponent := none
  noLeadingZero h := by
    have hzero : i.natAbs = 0 := eq_zero_of_head?_toDigits h
    rw [hzero]
    rfl

end Numeral

namespace NumberScan

theorem le_foldl_digits (n : Nat) (ds : List Nat) : n ≤ ds.foldl (fun m d => m * 10 + d) n := by
  induction ds generalizing n with
  | nil => exact Nat.le_refl n
  | cons d ds ih => exact Nat.le_trans (by omega) (ih (n * 10 + d))

/-- Digits are absorbed to the end as long as the number they write keeps within the limit. -/
theorem absorb_eq {limit n : Nat} {ds : List Nat}
    (h : ds.foldl (fun m d => m * 10 + d) n ≤ limit) :
    absorb limit n ds = (ds.foldl (fun m d => m * 10 + d) n, ds.length) := by
  induction ds generalizing n with
  | nil => rfl
  | cons d ds ih =>
    have hd : ¬ limit < n * 10 + d := by
      have := le_foldl_digits (n * 10 + d) ds
      rw [List.foldl_cons] at h
      omega
    rw [absorb, if_neg hd, ih h]
    rfl

theorem foldl_values_ofNat (n : Nat) :
    (DigitRun.ofNat n).values.foldl (fun m d => m * 10 + d) 0 = n := by
  have h : Nat.ofDigitChars 10 (Nat.toDigits 10 n) 0 = n :=
    Nat.ofDigitChars_toDigits (by decide) (by decide)
  rw [DigitRun.values, List.foldl_map]
  simp only [Nat.ofDigitChars, Nat.mul_comm 10] at h
  exact h

end NumberScan

open NumberScan in
/-- An integer of at most 64 bits is read from its digits. -/
theorem Numeral.value?_ofInt {i : Int} (lo : Int64.minValue.toInt ≤ i) (hi : i < UInt64.size) :
    (Numeral.ofInt i).value? = some (.integer i) := by
  have hmin : Int64.minValue.toInt = -9223372036854775808 := rfl
  have hsize : UInt64.size = 18446744073709551616 := rfl
  have hat : At (.ofSymbols ((Numeral.ofInt i).unsigned.map .char))
      ((Numeral.ofInt i).unsigned ++ []) := by
    rw [List.append_nil]
    rfl
  have hends : NumberEnds [] := nofun
  obtain ⟨after, hat, hscan⟩ := scan_at (Numeral.ofInt i) hends hat
  have habsorb : absorb significandLimit 0 (DigitRun.ofNat i.natAbs).values =
      (i.natAbs, (DigitRun.ofNat i.natAbs).values.length) := by
    have hfold := foldl_values_ofNat i.natAbs
    rw [absorb_eq] <;> rw [hfold]
    rw [significandLimit]
    omega
  have hwhole : NumberScan.whole (decide (i < 0)) i.natAbs = JsonNumber.integer i := by
    rw [NumberScan.whole]
    by_cases hi : i < 0
    · have hfits : ¬ (i.natAbs = 0 ∨ 1 <<< 63 < i.natAbs) := by
        rw [show 1 <<< 63 = 9223372036854775808 from rfl]
        omega
      simp only [hi, decide_true, if_true, Bool.or_eq_true, decide_eq_true_eq, if_neg hfits]
      rw [show -(i.natAbs : Int) = i by omega]
    · simp only [hi, decide_false, Bool.false_eq_true, if_false]
      rw [show (i.natAbs : Int) = i by omega]
  have hrest : scanRest (decide (i < 0)) (DigitRun.ofNat i.natAbs).values after =
      .ok (.integer i, after) := by
    rw [scanRest, habsorb]
    simp only [Nat.sub_self, At.next?_nil hat]
    rw [hwhole]
    rfl
  rw [Numeral.value?, hscan]
  exact congrArg (fun s : Scan JsonNumber => s.toOption.map (·.1)) hrest

/-! ## Documents -/

namespace Document

/-- Nothing is left out, and every number is an integer of at most 64 bits. -/
inductive Whole : Document → Prop
  | null : Whole .null
  | bool (b : Bool) : Whole (.bool b)
  | string (s : String) : Whole (.string s)
  | integer {i : Int} (lo : Int64.minValue.toInt ≤ i) (hi : i < UInt64.size) : Whole (.number (some (.integer i)))
  | array {ds : List Document} (items : ∀ d ∈ ds, Whole d) : Whole (.array ds)
  | object {ms : List (String × Document)} (members : ∀ m ∈ ms, Whole m.2) : Whole (.object ms)

def comma (first : Bool) : List Char :=
  if first then [] else [',']

mutual

/-- A spelling without blanks. What is not whole is written as null. -/
def compact : Document → List Char
  | .bool true => ['t', 'r', 'u', 'e']
  | .bool false => ['f', 'a', 'l', 's', 'e']
  | .number (some (.integer i)) => (Numeral.ofInt i).text
  | .string s => quote s
  | .array ds => '[' :: compactItems true ds
  | .object ms => '\x7b' :: compactMembers true ms
  | _ => ['n', 'u', 'l', 'l']

def compactItems (first : Bool) : List Document → List Char
  | [] => [']']
  | d :: ds => comma first ++ (d.compact ++ compactItems false ds)

def compactMembers (first : Bool) : List (String × Document) → List Char
  | [] => ['\x7d']
  | (key, d) :: ms => comma first ++ (quote key ++ ':' :: (d.compact ++ compactMembers false ms))

end

theorem gap_comma (first : Bool) : Gap first (comma first) := by
  cases first with
  | true => exact blank_nil
  | false => exact ⟨[], [], blank_nil, blank_nil, rfl⟩

theorem Whole.items {ds : List Document} (h : Whole (.array ds)) : ∀ d ∈ ds, Whole d := by
  cases h with
  | array items => exact items

theorem Whole.members {ms : List (String × Document)} (h : Whole (.object ms)) :
    ∀ m ∈ ms, Whole m.2 := by
  cases h with
  | object members => exact members

mutual

theorem spells_compact : ∀ {d : Document}, d.Whole → d.Spells d.compact
  | .null, _ | .bool true, _ | .bool false, _ => rfl
  | .number (some (.integer i)), h => by
    cases h with
    | integer lo hi => exact ⟨.ofInt i, Numeral.value?_ofInt lo hi, rfl⟩
  | .string s, _ => quotes_quote s
  | .array ds, h => ⟨_, spells_compactItems true h.items, rfl⟩
  | .object ms, h => ⟨_, spells_compactMembers true h.members, rfl⟩

theorem spells_compactItems (first : Bool) : ∀ {ds : List Document}, (∀ d ∈ ds, d.Whole) →
    SpellsElements first ds (compactItems first ds)
  | [], _ => ⟨[], blank_nil, rfl⟩
  | d :: ds, h => by
    obtain ⟨hd, hds⟩ := List.forall_mem_cons.mp h
    exact ⟨comma first, _, _, gap_comma first, spells_compact hd, spells_compactItems false hds,
      rfl⟩

theorem spells_compactMembers (first : Bool) : ∀ {ms : List (String × Document)},
    (∀ m ∈ ms, m.2.Whole) → SpellsMembers first ms (compactMembers first ms)
  | [], _ => ⟨[], blank_nil, rfl⟩
  | (key, d) :: ms, h => by
    obtain ⟨hd, hms⟩ := List.forall_mem_cons.mp h
    exact ⟨comma first, _, [], [], _, _, gap_comma first, quotes_quote key, blank_nil, blank_nil,
      spells_compact hd, spells_compactMembers false hms, rfl⟩

end

theorem writtenAs_compact {d : Document} (h : d.Whole) : d.WrittenAs (.ofList d.compact) :=
  ⟨[], d.compact, [], blank_nil, spells_compact h, blank_nil, by simp⟩

/-! ## Nesting -/

mutual

/-- How many arrays and objects stand inside one another. -/
def depth : Document → Nat
  | .array ds => itemsDepth ds + 1
  | .object ms => membersDepth ms + 1
  | _ => 0

def itemsDepth : List Document → Nat
  | [] => 0
  | d :: ds => max d.depth (itemsDepth ds)

def membersDepth : List (String × Document) → Nat
  | [] => 0
  | (_, d) :: ms => max d.depth (membersDepth ms)

end

mutual

/-- A whole document is read where there is room for its levels. -/
theorem isSome_read {room : Nat} (shape : Shape) : ∀ {d : Document}, d.Whole → d.depth ≤ room →
    (d.read room shape).isSome
  | .null, _, _ | .bool _, _, _ | .string _, _, _ | .number (some _), _, _ => rfl
  | .array ds, h, hdepth => by
    rw [depth] at hdepth
    obtain ⟨room, rfl⟩ := Nat.exists_eq_add_one.mpr (Nat.lt_of_lt_of_le (Nat.succ_pos _) hdepth)
    rw [read_array_succ, Option.isSome_map]
    exact isSome_readItems shape.elements h.items (Nat.le_of_succ_le_succ hdepth)
  | .object ms, h, hdepth => by
    rw [depth] at hdepth
    obtain ⟨room, rfl⟩ := Nat.exists_eq_add_one.mpr (Nat.lt_of_lt_of_le (Nat.succ_pos _) hdepth)
    rw [read_object_succ, Option.isSome_map]
    exact isSome_readMembers shape h.members (Nat.le_of_succ_le_succ hdepth)

theorem isSome_readItems {room : Nat} (shapes : List Shape) : ∀ {ds : List Document},
    (∀ d ∈ ds, d.Whole) → itemsDepth ds ≤ room → (readItems room shapes ds).isSome
  | [], _, _ => rfl
  | d :: ds, h, hdepth => by
    obtain ⟨hd, hds⟩ := List.forall_mem_cons.mp h
    rw [itemsDepth, Nat.max_le] at hdepth
    obtain ⟨e, he⟩ := Option.isSome_iff_exists.mp
      (isSome_read (shapes.head?.getD .anything) hd hdepth.1)
    rw [readItems, he, Option.bind_some, Option.isSome_map]
    exact isSome_readItems (shapes.drop 1) hds hdepth.2

theorem isSome_readMembers {room : Nat} (shape : Shape) : ∀ {ms : List (String × Document)},
    (∀ m ∈ ms, m.2.Whole) → membersDepth ms ≤ room → (readMembers room shape ms).isSome
  | [], _, _ => rfl
  | (key, d) :: ms, h, hdepth => by
    obtain ⟨hd, hms⟩ := List.forall_mem_cons.mp h
    rw [membersDepth, Nat.max_le] at hdepth
    have hrest : (readMembers room shape ms).isSome := isSome_readMembers shape hms hdepth.2
    rw [readMembers]
    cases shape.member? key with
    | none => simpa using hrest
    | some s =>
      obtain ⟨e, he⟩ := Option.isSome_iff_exists.mp (isSome_read s hd hdepth.1)
      simpa [he] using hrest

end

end Document
end Json
end ProtocolTypes
