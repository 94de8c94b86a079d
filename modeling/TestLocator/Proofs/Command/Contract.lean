import TestLocator.Command.Run
import TestLocator.Proofs.Batch.Ending
import TestLocator.Proofs.Command.Variable

/-!
# What a command line does

* `LocateEnding`, `BatchEnding`, `InitEnding` — how the runs of the three commands end;
* **`run_contract`** — the ending of every command line that is understood.
-/

namespace TestLocator.Command

open TestLocator.Batch TestLocator.Config TestLocator.Files TestLocator.Locating TestLocator.Text

variable {rootVariable : Option String} {d : Disk} {settings : Settings} {sink : ByteSink}

/-! ## Searches -/

/-- How the run of a search ends: it tells the outcome, and nothing is changed. -/
structure LocateEnding (ending : Ending) (d : Disk) (format : Format) (outcome : Outcome) :
    Prop where
  output_eq : ending.output = render outcome format ++ "\n"
  code_eq_zero_iff : ending.code = 0 ↔ ∃ b, outcome = .ok b
  code_eq_one_iff : ending.code = 1 ↔ ∃ e, outcome = .error e
  disk_eq : ending.disk = d

theorem locateEnding_runLocate (d : Disk) (settings : Settings) (r : LocateRequest) :
    LocateEnding (runLocate d settings r) d r.format
      (locate d.view r.file r.line (r.marker.getD settings.marker)) := by
  unfold runLocate effectiveMarker
  generalize locate d.view r.file r.line (r.marker.getD settings.marker) = outcome
  cases outcome with
  | ok b =>
    simp only [Except.isOk, Except.toBool, if_true]
    exact ⟨rfl, by simp, by simp, rfl⟩
  | error e =>
    simp only [Except.isOk, Except.toBool]
    exact ⟨rfl, by simp, by simp, rfl⟩

/-! ## Batches -/

/-- How the run of a batch ends that has come to a disk and a result. -/
structure BatchEnding (ending : Ending) (output : Path)
    (outcome : Disk × Except BatchFailure BatchSummary) : Prop where
  disk_eq : ending.disk = outcome.1
  code_eq_zero_iff : ending.code = 0 ↔ ∃ summary, outcome.2 = .ok summary
  output_eq : ending.output =
    if ending.code = 0 then "Results written to " ++ output.text ++ "\n" else ""

theorem batchOptions_eq {r : BatchRequest} {root : Path}
    (h : (r.projectRoot <|> settings.projectRoot) = some root) :
    batchOptions r settings = .ok {
      projectRoot := root
      marker := r.marker.getD settings.marker
      parallel := settings.parallel && !r.noParallel
      showProgress := true } := by
  simp only [batchOptions, h]
  rfl

theorem batchEnding_runBatchRequest {r : BatchRequest} {options : BatchOptions}
    (h : batchOptions r settings = .ok options) :
    BatchEnding (runBatchRequest d settings r sink) r.output
      (runBatch d r.input r.output options sink) := by
  unfold runBatchRequest
  simp only [h]
  rcases runBatch d r.input r.output options sink with ⟨d', e | summary⟩
  · exact ⟨rfl, by simp, rfl⟩
  · exact ⟨rfl, by simp, rfl⟩

theorem runBatchRequest_of_none {r : BatchRequest}
    (h : (r.projectRoot <|> settings.projectRoot) = none) :
    runBatchRequest d settings r sink =
      { code := 1, complaint := complaint (chain .missingProjectRoot), disk := d } := by
  simp only [runBatchRequest, batchOptions, h]

/-- The empty path is refused before the run. No directory has it, so the batch would fail too. -/
theorem batchEnding_refused {options : BatchOptions} (h : options.projectRoot = ⟨""⟩)
    (input output : Path) :
    BatchEnding (usageEnding d rootVariable .invalidValue) output
      (runBatch d input output options sink) := by
  have hroot : d.isDirectory options.projectRoot = false := by
    rw [h]
    rfl
  obtain ⟨e, hrun⟩ : ∃ e, runBatch d input output options sink = (d, .error e) :=
    runBatch_of_noRoot hroot
  rw [hrun]
  exact ⟨rfl, by simp [usageEnding], rfl⟩

/-! ## Configuration files -/

/-- How the run ends that writes a text to a path, also in the place of what is there if `force` is
set. -/
structure InitEnding (ending : Ending) (d : Disk) (p : Path) (text : Bytes) (force : Bool) :
    Prop where
  code_eq_zero_iff : ending.code = 0 ↔
    (force = true ∨ d.isThere p = false) ∧ ∃ target, d.resolveNew p = .ok target
  written : ending.code = 0 → ending.disk.read p = .ok text ∧
    ∃ target, d.resolveNew p = .ok target ∧ ending.disk = d.put target (.file text)
  refused : ending.code ≠ 0 → ending.code = 1 ∧ ending.disk = d

theorem initEnding_runInit (d : Disk) (force : Bool) :
    InitEnding (runInit d force) d (configPath ⟨"."⟩) (encode defaultText.toList) force := by
  unfold runInit initSettings
  generalize configPath ⟨"."⟩ = p
  have hkept : (d.isThere p = true ∧ (!force) = true) ↔ ¬ (force = true ∨ d.isThere p = false) := by
    cases force <;> simp
  simp only [hkept]
  by_cases h : force = true ∨ d.isThere p = false
  · simp only [h, not_true, if_false]
    cases hcreate : d.resolveNew p with
    | error cause =>
      simp only [Disk.write_of_resolveNew_error hcreate]
      exact ⟨by simp [hcreate], by simp, by simp⟩
    | ok target =>
      simp only [Disk.write_of_resolveNew hcreate]
      refine ⟨by simp [h, hcreate], fun _ => ?_, by simp⟩
      exact ⟨Disk.read_put hcreate _, target, hcreate, rfl⟩
  · simp only [h, not_false_eq_true, if_true]
    exact ⟨by simp [h], by simp, by simp⟩

/-! ## Command lines -/

/-- What becomes of a request that words ask for, with the value of the variable. -/
def runRequest (d : Disk) (rootVariable : Option String) (i : Invocation) (sink : ByteSink) :
    Ending :=
  match withVariable rootVariable i.request with
  | .error e => usageEnding d rootVariable e
  | .ok request => runInvocation d ⟨i.verbosity, request⟩ sink

theorem run_eq {words : List String} {i : Invocation} (h : Invocation.ofWords none words = .ok i) :
    run d rootVariable words sink = runRequest d rootVariable i sink := by
  rw [run, ofWords_eq h, runRequest]
  cases withVariable rootVariable i.request <;> rfl

theorem runRequest_of_none {verbosity : Nat} {r : BatchRequest}
    (h : ((r.projectRoot <|> rootVariable.map Files.Path.mk) <|>
      (loadSettings d d.workingPath).projectRoot) = none) :
    runRequest d rootVariable ⟨verbosity, .batch r⟩ sink =
      { code := 1, complaint := complaint (chain .missingProjectRoot), disk := d } := by
  rcases withVariable_batch rootVariable r with haccepted | ⟨hnone, hempty, -⟩
  · rw [runRequest, haccepted]
    exact runBatchRequest_of_none h
  · simp [hnone, hempty] at h

theorem batchEnding_runRequest {verbosity : Nat} {r : BatchRequest} {options : BatchOptions}
    (h : batchOptions { r with projectRoot := r.projectRoot <|> rootVariable.map Files.Path.mk }
      (loadSettings d d.workingPath) = .ok options) :
    BatchEnding (runRequest d rootVariable ⟨verbosity, .batch r⟩ sink) r.output
      (runBatch d r.input r.output options sink) := by
  rcases withVariable_batch rootVariable r with haccepted | ⟨hnone, hempty, hrefused⟩
  · rw [runRequest, haccepted]
    exact batchEnding_runBatchRequest h
  · simp only [hnone, hempty] at h
    rw [runRequest, hrefused]
    exact batchEnding_refused (by cases h; rfl) r.input r.output

/-- **What a command line does** that is understood, whatever the variable, the disk and the sink
are. -/
theorem run_contract {words : List String} {i : Invocation}
    (h : Invocation.ofWords none words = .ok i) (d : Disk) (rootVariable : Option String)
    (sink : ByteSink) :
    let settings := loadSettings d d.workingPath
    let ending := run d rootVariable words sink
    match i.request with
    | .locate r =>
      LocateEnding ending d r.format
        (locate d.view r.file r.line (r.marker.getD settings.marker))
    | .batch r =>
      match r.projectRoot <|> rootVariable.map Files.Path.mk <|> settings.projectRoot with
      | none =>
        ending = { code := 1, complaint := complaint (chain .missingProjectRoot), disk := d }
      | some root =>
        ∃ options,
          batchOptions { r with projectRoot := r.projectRoot <|> rootVariable.map Files.Path.mk }
            settings = .ok options ∧
          options.projectRoot = root ∧ options.marker = r.marker.getD settings.marker ∧
          (options.parallel = true ↔ settings.parallel = true ∧ r.noParallel = false) ∧
          BatchEnding ending r.output (runBatch d r.input r.output options sink)
    | .init force =>
      InitEnding ending d (configPath ⟨"."⟩) (encode defaultText.toList) force := by
  intro settings ending
  have hending : ending = runRequest d rootVariable i sink := run_eq h
  obtain ⟨verbosity, request⟩ := i
  rw [hending]
  cases request with
  | locate r => exact locateEnding_runLocate d settings r
  | init force => exact initEnding_runInit d force
  | batch r =>
    have hassoc : (r.projectRoot <|> rootVariable.map Files.Path.mk <|> settings.projectRoot) =
        ((r.projectRoot <|> rootVariable.map Files.Path.mk) <|> settings.projectRoot) := by
      cases r.projectRoot <;> rfl
    simp only [hassoc]
    cases hroot : (r.projectRoot <|> rootVariable.map Files.Path.mk) <|> settings.projectRoot with
    | none => exact runRequest_of_none hroot
    | some root =>
      have hoptions := batchOptions_eq
        (r := { r with projectRoot := r.projectRoot <|> rootVariable.map Files.Path.mk }) hroot
      exact ⟨_, hoptions, rfl, rfl, by simp, batchEnding_runRequest hoptions⟩

/-- The three commands, on a disk with an empty file and a project root. -/
theorem run_contract_sample :
    let d : Disk := { entries := [([['i']], .file []), ([['r']], .directory)] }
    (∃ e, locate d.view ⟨"/a.js"⟩ 1 defaultMarker = .error e) ∧
      (run d none ["locate", "/a.js", "1"]).code = 1 ∧
      (run d none ["batch", "/i", "/o"]).complaint = complaint (chain .missingProjectRoot) ∧
      (run d (some "/r") ["batch", "/i", "/o"]).output = "Results written to /o\n" ∧
      (run d (some "/r") ["batch", "/i", "/o"]).disk.read ⟨"/o"⟩ = .ok [] ∧
      (run d none ["init"]).disk.read (configPath ⟨"."⟩) = .ok (encode defaultText.toList) := by
  intro d
  have hsettings : loadSettings d d.workingPath = {} := by decide +kernel
  have hlocate : Invocation.ofWords none ["locate", "/a.js", "1"] =
      .ok ⟨0, .locate { file := ⟨"/a.js"⟩, line := 1 }⟩ := by decide +kernel
  have hbatch : Invocation.ofWords none ["batch", "/i", "/o"] =
      .ok ⟨0, .batch { input := ⟨"/i"⟩, output := ⟨"/o"⟩ }⟩ := by decide +kernel
  have hinit : Invocation.ofWords none ["init"] = .ok ⟨0, .init false⟩ := by decide +kernel
  have hfailed : locate d.view ⟨"/a.js"⟩ 1 defaultMarker = .error (.fileNotFound ⟨"/a.js"⟩) := rfl
  have hwritten : InitEnding (run d none ["init"]) d (configPath ⟨"."⟩) (encode defaultText.toList)
      false := run_contract hinit d none {}
  have hsearch := run_contract hlocate d none {}
  have hrootless := run_contract hbatch d none {}
  have hrun := run_contract hbatch d (some "/r") {}
  simp only [hsettings] at hsearch hrootless hrun
  obtain ⟨options, hoptions, -, -, -, hending⟩ := hrun
  have hplain : options = { projectRoot := ⟨"/r"⟩, showProgress := true } :=
    (Except.ok.inj hoptions).symm
  have hrows : HasRows d ⟨"/i"⟩ [] :=
    ⟨_, openInput_of_read (by decide +kernel), readRows_whole [] _⟩
  have hready : Ready d ⟨"/i"⟩ options [] [] := ⟨hrows, by rw [hplain]; decide +kernel, rfl⟩
  have hcreate : d.resolveNew ⟨"/o"⟩ = .ok [['o']] := by decide +kernel
  rw [(Batch.Ends.written hready hcreate (ByteSink.takes_of_none rfl _)).runBatch_eq] at hending
  refine ⟨⟨_, hfailed⟩, hsearch.code_eq_one_iff.mpr ⟨_, hfailed⟩,
    congrArg Ending.complaint hrootless, ?_, ?_, ?_⟩
  · rw [hending.output_eq, if_pos (hending.code_eq_zero_iff.mpr ⟨_, rfl⟩)]
    rfl
  · rw [hending.disk_eq]
    exact Disk.read_put hcreate _
  · exact (hwritten.written (hwritten.code_eq_zero_iff.mpr ⟨by decide +kernel, _, rfl⟩)).1

end TestLocator.Command
