import ProtocolTypes.CommandLine.Run
import ProtocolTypes.Proofs.Files.Changes

/-!
# ProtocolTypes.Proofs.CommandLine.Effects

What running the command does to the files. The source file is made without touching any of them;
storing it adds the directories above the output that are missing and the output itself
(`run_changes`).
-/

namespace ProtocolTypes

open FileTree

/-- The output holds the content, and all else is as before but for directories above it that were
missing. -/
structure Stored (t t' : FileTree) (output : Path) (content : List UInt8) : Prop where
  workingDirectory : t'.workingDirectory = t.workingDirectory
  holds : t'.read output = .ok content
  others : ∀ l, t'.find output ≠ .ok l → t'.entry? l = t.entry? l ∨
    t.entry? l = none ∧ t'.entry? l = some .directory ∧
      ∃ a, output.IsAncestor a ∧ t'.find a = .ok l

theorem stored_of_write {t t' t'' : FileTree} {output : Path} {content : List UInt8}
    (hdirectories : OnlyCreates output.IsAncestor t t')
    (hwrite : t'.write output content = .ok t'') : Stored t t'' output content := by
  obtain ⟨hread, hkeeps, hrest⟩ := write_changes hwrite
  refine ⟨hkeeps.workingDirectory.trans hdirectories.workingDirectory, hread, fun l hl => ?_⟩
  rw [hrest l hl]
  rcases hdirectories.entries l with heq | ⟨hnone, hnew, a, ha, hfind⟩
  · exact .inl heq
  · exact .inr ⟨hnone, hnew, a, ha, find_of_keeps hkeeps hfind⟩

/-! ## Computations on a tree -/

theorem FileTree.bind_run {α β : Type} (x : StateM FileTree α) (f : α → StateM FileTree β)
    (t : FileTree) : (x >>= f) t = f (x t).1 (x t).2 := rfl

theorem FileTree.pure_run {α : Type} (a : α) (t : FileTree) :
    (pure a : StateM FileTree α) t = (a, t) := rfl

theorem FileTree.access_createDirectories (p : Path) (t : FileTree) :
    access.createDirectories p t = t.createDirectories p.text.length p := rfl

/-- Whether the failure came before anything was to be stored. -/
def RunError.isOfSource : RunError → Prop
  | .loading .. | .generating _ => True
  | .creating .. | .writing .. => False

namespace Command

/-! ## Steps -/

theorem source_access (c : Command) (t : FileTree) : (c.source access t).2 = t := by
  have hload : (MetaModel.load access c.input t).2 = t := by
    simp only [MetaModel.load, access, bind_run]
    cases t.read c.input <;> rfl
  simp only [source, bind_run]
  cases hmodel : (MetaModel.load access c.input t).1 with
  | error e => exact hload
  | ok model => exact hload

theorem isAncestor_of_outputDirectory? {output directory p : Path}
    (h : outputDirectory? output = some directory) (hp : directory.IsAncestorOrSelf p) :
    output.IsAncestor p := by
  rw [outputDirectory?, Option.filter_eq_some_iff] at h
  exact .head' h.1 hp

/-- The directories for an output come first, and then the output is written. -/
theorem store_access {output : Path} {code : String} {t t'' : FileTree} {result}
    (h : store access output code t = (result, t'')) :
    ∃ t', OnlyCreates output.IsAncestor t t' ∧
      ((∃ e, result = .error e ∧ ¬ e.isOfSource) ∧ t'' = t' ∨
        result = .ok () ∧ t'.write output code.toUTF8.data.toList = .ok t'') := by
  have hwrite : ∀ t', (access.write output code.toUTF8.data.toList >>= fun r =>
      pure (r.mapError (RunError.writing output))) t' = (result, t'') →
      (∃ e, result = .error e ∧ ¬ e.isOfSource) ∧ t'' = t' ∨
        result = .ok () ∧ t'.write output code.toUTF8.data.toList = .ok t'' := by
    intro t' h
    rw [bind_run, pure_run, Prod.mk.injEq] at h
    obtain ⟨rfl, rfl⟩ := h
    simp only [access]
    cases t'.write output code.toUTF8.data.toList with
    | error e => exact .inl ⟨⟨.writing output e, rfl, id⟩, rfl⟩
    | ok t'' => exact .inr ⟨rfl, rfl⟩
  rw [store] at h
  cases hdirectory : outputDirectory? output with
  | none =>
    simp only [hdirectory] at h
    exact ⟨t, .refl _ t, hwrite t h⟩
  | some directory =>
    have hnew := (createDirectories_onlyCreates directory.text.length t directory).mono fun p hp =>
      isAncestor_of_outputDirectory? hdirectory hp
    refine ⟨_, hnew, ?_⟩
    simp only [hdirectory, bind_run, access_createDirectories] at h
    cases hmade : (createDirectories directory.text.length t directory).1 with
    | error e =>
      simp only [hmade, pure_run] at h
      obtain ⟨rfl, rfl⟩ := Prod.mk.inj h
      exact .inl ⟨⟨.creating directory e, rfl, id⟩, rfl⟩
    | ok _ =>
      rw [hmade] at h
      exact hwrite _ h

/-! ## Runs -/

theorem run_access_none {c : Command} (h : c.output = none) (t : FileTree) :
    c.run access t = ((c.source access t).1.map some, t) := by
  simp only [run, bind_run, source_access, h]
  cases (c.source access t).1 <;> rfl

/-- A run changes files only once the source is complete and has an output to go to; then all that
the tree has gained is the output, with the text that the same command prints without one, and the
directories above it. -/
theorem run_changes {c : Command} {t t' : FileTree} {result}
    (h : c.run access t = (result, t')) :
    ((∃ e, result = .error e ∧ e.isOfSource) ∨ c.output = none → t' = t) ∧
    ∀ output, c.output = some output → ∀ printed, result = .ok printed →
      ∃ code, Command.run access { c with output := none } t = (.ok (some code), t) ∧
        Stored t t' output code.toUTF8.data.toList := by
  cases houtput : c.output with
  | none =>
    rw [run_access_none houtput, Prod.mk.injEq] at h
    exact ⟨fun _ => h.2.symm, by simp⟩
  | some output =>
    simp only [run, bind_run, source_access, houtput] at h
    cases hsource : (c.source access t).1 with
    | error e =>
      simp only [hsource, pure_run] at h
      obtain ⟨rfl, rfl⟩ := Prod.mk.inj h
      exact ⟨fun _ => rfl, by simp⟩
    | ok code =>
      simp only [hsource, bind_run, pure_run] at h
      obtain ⟨rfl, rfl⟩ := Prod.mk.inj h
      obtain ⟨t₁, hdirectories, ⟨⟨e, herror, hstoring⟩, -⟩ | ⟨hok, hwrite⟩⟩ :=
        store_access (Prod.eta (store access output code t)).symm
      · rw [herror]
        refine ⟨?_, fun _ _ _ hr => by cases hr⟩
        rintro (⟨e', heq, hsource⟩ | hnone)
        · cases heq
          exact absurd hsource hstoring
        · cases hnone
      · rw [hok]
        refine ⟨?_, ?_⟩
        · rintro (⟨e', heq, -⟩ | hnone)
          · cases heq
          · cases hnone
        · intro output' houtput' printed _
          cases houtput'
          refine ⟨code, ?_, stored_of_write hdirectories hwrite⟩
          rw [run_access_none rfl]
          change ((c.source access t).1.map some, t) = _
          rw [hsource]
          rfl

/-- An empty meta model and no directory for what is made of it. -/
def minimalFiles : FileTree :=
  ⟨[(["m.json"], .file "\x7b\x7d".toUTF8.data.toList)], []⟩

theorem run_changes_minimal :
    (Command.run access { input := ⟨"m.json"⟩ } minimalFiles).2 = minimalFiles ∧
    ∃ printed t', ∃ code : String,
      Command.run access { input := ⟨"m.json"⟩, output := some ⟨"out/types.rs"⟩ } minimalFiles =
        (.ok printed, t') ∧
      Stored minimalFiles t' ⟨"out/types.rs"⟩ code.toUTF8.data.toList := by
  constructor
  · exact (run_changes (Prod.eta _).symm).1 (.inr rfl)
  · have hok : (Command.run access { input := ⟨"m.json"⟩, output := some ⟨"out/types.rs"⟩ }
        minimalFiles).1.isOk = true := by decide +kernel
    cases hrun : Command.run access { input := ⟨"m.json"⟩, output := some ⟨"out/types.rs"⟩ }
      minimalFiles with
    | mk result t' =>
      rw [hrun] at hok
      cases result with
      | error e => cases hok
      | ok printed =>
        obtain ⟨code, -, hstored⟩ := (run_changes hrun).2 ⟨"out/types.rs"⟩ rfl printed rfl
        exact ⟨printed, t', code, rfl, hstored⟩

end Command
end ProtocolTypes
