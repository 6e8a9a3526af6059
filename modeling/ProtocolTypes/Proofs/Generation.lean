import ProtocolTypes.Generation
import ProtocolTypes.Proofs.Decoding.RoundTrip
import ProtocolTypes.Proofs.Mapping.SymbolTable
import ProtocolTypes.Proofs.Mapping.WrittenNames

/-!
# ProtocolTypes.Proofs.Generation

From a document to a source file. What can be mapped can also be written, where the names of the
model are ASCII: no document brings a name or a number that rendering refuses
(`generate_of_targetDecls`).
-/

namespace ProtocolTypes

open Target

namespace MetaModel

variable {m : MetaModel} {o : Options} {ds : List Decl}

/-- The declarations of a decoded model can be rendered, whatever the document and the options:
each name in them is written as an identifier of the generated language, and each constant is
finite. -/
theorem generate_of_targetDecls {input : List Json.Symbol} (hparse : parse input = .ok m)
    (hm : m.AsciiTexts) (hds : m.targetDecls o.toMappingOptions = .ok ds) :
    (∃ code, m.generate o = .ok code) ∧
      ∀ d ∈ ds,
        (∀ n, d.Writes n → ∃ text, Source.ident n = .ok text ∧ Identifier.Valid text) ∧
          d.HasFiniteConstants := by
  obtain ⟨set, ps, r, dss, hg⟩ := generated_of_targetDecls hds
  have hnames : ∀ d ∈ ds, ∀ n, d.Writes n →
      ∃ text, Source.ident n = .ok text ∧ Identifier.Valid text :=
    fun d hd n hn => Identifier.ident_valid (hg.isAscii_of_writes hm hd hn)
  have hconstants : ∀ d ∈ ds, d.HasFiniteConstants :=
    fun d hd => hg.hasFiniteConstants (hasFiniteNumbers_of_parse hparse) hd
  refine ⟨?_, fun d hd => ⟨hnames d hd, hconstants d hd⟩⟩
  have hfile : Source.Succeeds (Source.file m.version o.header ds) := by
    refine Source.succeeds_file_iff.mpr fun d hd => ⟨fun n hn => ?_, hconstants d hd⟩
    obtain ⟨text, htext, _⟩ := hnames d hd n hn
    exact ⟨text, htext⟩
  obtain ⟨code, hcode⟩ := hfile
  exact ⟨code, generate_eq_ok_iff.mpr ⟨ds, hds, hcode⟩⟩

namespace Sample

/-- A structure with a keyword for a member and one for a variant, and a numeric constant. -/
def ratios : MetaModel where
  version := ""
  requests := []
  notifications := []
  structures := [⟨"item",
    [⟨"type", .or [.reference "itemRatio", .stringLiteral "Self"], false, {}⟩], [], [], {}⟩]
  enumerations := [⟨"itemRatio", .base "number", [⟨"2", .number (.ofInt 2), {}⟩], false, {}⟩]
  typeAliases := []

def ratiosDecls : List Decl := [
  .type ⟨"item", {}, .record [] [⟨"type", "type", .symbol "itemType", false, {}⟩]⟩,
  .type ⟨"itemRatio", {}, .newtype .float64⟩,
  .constants ⟨"itemRatio", [⟨"itemRatio2", .float (.ofInt 2), {}⟩]⟩,
  .type ⟨"itemType", {}, .union [⟨"itemRatio", some (.symbol "itemRatio")⟩,
    ⟨"Self", some (.constrained .string [.text "Self"])⟩]⟩]

def ratiosCode : String :=
  "\n".intercalate [
    "// This code was automatically generated by metagen from LSP meta model version unknown.",
    "// Do not edit manually.",
    "",
    "#![allow(",
    "    non_camel_case_types,",
    "    non_snake_case,",
    "    non_upper_case_globals,",
    "    deprecated,",
    "    clippy::all",
    ")]",
    "use serde::\x7bDeserialize, Serialize\x7d;",
    "#[derive(Debug, Clone, PartialEq, Serialize, Deserialize)]",
    "pub struct item \x7b",
    "    #[serde(rename = \"type\")]",
    "    pub r#type: itemType,",
    "\x7d",
    "#[derive(Debug, Clone, PartialEq, Serialize, Deserialize)]",
    "#[serde(transparent)]",
    "pub struct itemRatio(pub f64);",
    "pub const itemRatio2: itemRatio = itemRatio(2.0);",
    "#[derive(Debug, Clone, PartialEq, Serialize, Deserialize)]",
    "#[serde(untagged)]",
    "pub enum itemType \x7b",
    "    itemRatio(itemRatio),",
    "    Self_(String),",
    "\x7d",
    ""]

theorem asciiTexts_ratios : ratios.AsciiTexts where
  declared := by decide
  properties s hs p hp := by
    obtain rfl := List.mem_singleton.mp hs
    obtain rfl := List.mem_singleton.mp hp
    refine ⟨by decide, TypeExpr.asciiProperties_of_children (fun l hl => by cases hl) ?_⟩
    intro c hc
    refine TypeExpr.asciiProperties_of_isAtomic ?_
    revert c
    decide
  aliases a ha := absurd ha List.not_mem_nil
  entries := by decide
  propertyLiterals s hs p hp := by
    obtain rfl := List.mem_singleton.mp hs
    obtain rfl := List.mem_singleton.mp hp
    intro text htext
    obtain heq | ⟨c, hc, hpart⟩ := TypeExpr.part_iff.mp htext
    · cases heq
    · have hchildren : c = .reference "itemRatio" ∨ c = .stringLiteral "Self" := by
        simpa [TypeExpr.children] using hc
      obtain rfl | rfl := hchildren
      · cases hpart with
        | child hc _ => cases hc
      · cases hpart with
        | self => decide
        | child hc _ => cases hc
  aliasLiterals a ha := absurd ha List.not_mem_nil

theorem generate_ratios : parseText (.ofList ratios.document.compact) = .ok ratios ∧
    ratios.AsciiTexts ∧ ratios.targetDecls {} = .ok ratiosDecls ∧
    ratios.generate {} = .ok ratiosCode ∧
    ∀ d ∈ ratiosDecls,
      (∀ n, d.Writes n → ∃ text, Source.ident n = .ok text ∧ Identifier.Valid text) ∧
        d.HasFiniteConstants := by
  have hexact : ∀ e ∈ ratios.enumerations, ∀ v ∈ e.values, v.value.IsExact := by
    decide +kernel
  have hdecls : ratios.targetDecls {} = .ok ratiosDecls :=
    targetDecls_of_collect (by decide +kernel)
  have hparse := parseText_of_writtenAs hexact (by decide +kernel)
    (Json.Document.writtenAs_compact (whole_document hexact))
  have hcode : Source.file "" none ratiosDecls = .ok ratiosCode := by decide +kernel
  exact ⟨hparse, asciiTexts_ratios, hdecls, generate_eq_ok_iff.mpr ⟨_, hdecls, hcode⟩,
    (generate_of_targetDecls (o := {}) hparse asciiTexts_ratios hdecls).2⟩

end Sample
end MetaModel
end ProtocolTypes
