import TestRig.Proofs.YamlOverlay
import TestRig.Proofs.HclOverlay
import TestRig.ProjectFile.Load

/-!
Project files are layered over the defaults. Loading reads the files one after another, each
over the model the files before it made, starting from the built-in defaults, and records each
file read. `Layered read m files m'` says that reading `files` that way over `m`, each with
`read`, gives `m'`; `loadYamlFiles_iff` and `loadHclFiles_iff` say that the loaders succeed
exactly on such readings. With the frame laws of one file (`applyYaml_overlays`,
`applyHclBody_overlays`), the layering law says what a stack of files gives: what no file
names keeps its default, and what some file names holds what the last file naming it gave.
-/

namespace TestRig.ProjectFile

open TestRig.Config TestRig.Files

/-- Reading `files` in order over `m`, each with `read` and then recorded among the files the
model was read from, gives `m'`. -/
inductive Layered (read : Model → String → Model → Prop) : Model → List String → Model → Prop
  | nil (m : Model) : Layered read m [] m
  | cons {m m₁ m₂ : Model} {file : String} {files : List String} :
      read m file m₁ → Layered read { m₁ with files := m₁.files ++ [file] } files m₂ →
        Layered read m (file :: files) m₂

/-- A fold whose steps read a file and record it succeeds exactly on the layered readings. -/
theorem foldlM_eq_ok_iff_layered {read : Model → String → Model → Prop}
    {step : Model → String → Except Fault Model}
    (hstep : ∀ m file m'', step m file = .ok m'' ↔
      ∃ m', read m file m' ∧ m'' = { m' with files := m'.files ++ [file] }) :
    ∀ (files : List String) (m m' : Model), files.foldlM step m = .ok m' ↔ Layered read m files m'
  | [], m, m' => ⟨fun h => by cases h; exact .nil m, fun h => by cases h; rfl⟩
  | file :: files, m, m' => by
    rw [List.foldlM_cons, bind_eq_ok]
    constructor
    · rintro ⟨m₁, h₁, hrest⟩
      obtain ⟨m₀, hread, rfl⟩ := (hstep m file m₁).mp h₁
      exact .cons hread ((foldlM_eq_ok_iff_layered hstep files _ m').mp hrest)
    · intro h
      cases h with
      | cons hread hrest =>
        exact ⟨_, (hstep m file _).mpr ⟨_, hread, rfl⟩,
          (foldlM_eq_ok_iff_layered hstep files _ m').mpr hrest⟩

/-- What every file read keeps, and recording the file keeps, a stack of files keeps. -/
theorem Layered.keeps {read : Model → String → Model → Prop} {β : Type} (view : Model → β)
    {m m' : Model} {files : List String} (h : Layered read m files m')
    (hread : ∀ m file m', file ∈ files → read m file m' → view m' = view m)
    (hrecord : ∀ (m : Model) file, view { m with files := m.files ++ [file] } = view m) :
    view m' = view m := by
  induction h with
  | nil => rfl
  | @cons m m₁ m₂ file files hfile _ ih =>
    rw [ih (fun m f m' hf hr => hread m f m' (List.mem_cons_of_mem file hf) hr), hrecord,
      hread m file m₁ List.mem_cons_self hfile]

/-! ### YAML files -/

/-- Reading the YAML project file at `path` over `m` gives `m'`. -/
def yamlRead (fs : Tree) (m : Model) (path : String) (m' : Model) : Prop :=
  ∃ text, readYaml fs path = .ok text ∧ applyYaml m path text = .ok m'

/-- Loading YAML files succeeds exactly when reading them in turn over the defaults does. -/
theorem loadYamlFiles_iff (fs : Tree) (paths : List String) (m : Model) :
    loadYamlFiles fs paths = .ok m ↔ Layered (yamlRead fs) {} paths m := by
  refine foldlM_eq_ok_iff_layered (fun m path m'' => ?_) paths {} m
  simp only [bind_eq_ok, yamlRead]
  constructor
  · rintro ⟨text, htext, m', happly, h⟩
    cases h
    exact ⟨m', ⟨text, htext, happly⟩, rfl⟩
  · rintro ⟨m', ⟨text, htext, happly⟩, rfl⟩
    exact ⟨text, htext, m', happly, rfl⟩

/-- Over a stack of YAML files, the environment grows by the entries of the files' documents,
in the order of the files. -/
theorem Layered.yaml_environment {fs : Tree} {m m' : Model} {paths : List String}
    (h : Layered (yamlRead fs) m paths m') :
    ∃ ds, List.Forall₂ (fun path d => ∃ text, readYaml fs path = .ok text ∧
        yamlDocument path text = .ok d) paths ds ∧
      m'.environment = m.environment ++ ds.flatMap (·.environment) := by
  induction h with
  | nil m => exact ⟨[], .nil, by simp⟩
  | @cons m m₁ m₂ path paths hread _ ih =>
    obtain ⟨text, htext, happly⟩ := hread
    obtain ⟨d, hd, hover⟩ := applyYaml_overlays happly
    obtain ⟨ds, hds, henv⟩ := ih
    refine ⟨d :: ds, .cons ⟨text, htext, hd⟩ hds, ?_⟩
    rw [henv, List.flatMap_cons, ← List.append_assoc]
    exact congrArg (· ++ _) hover.environment

/-- Over a stack of YAML files, a project setting that no file's project section names keeps
its value. -/
theorem Layered.yaml_project_setting {fs : Tree} {m m' : Model} {paths : List String}
    (h : Layered (yamlRead fs) m paths m') (k : String)
    (hk : ∀ path ∈ paths, ∀ text d, readYaml fs path = .ok text → yamlDocument path text = .ok d →
      k ∉ sectionNames d.project) :
    m'.project.setting k = m.project.setting k := by
  refine h.keeps (fun m => m.project.setting k) (fun m path m' hpath hread => ?_) fun _ _ => rfl
  obtain ⟨text, htext, happly⟩ := hread
  obtain ⟨d, hd, hover⟩ := applyYaml_overlays happly
  exact hover.project k (hk path hpath text d htext hd)

/-! ### Files in the configuration language -/

/-- Reading the file `file` in the configuration language over `m` gives `m'`: it parses
without problems, and its body applies. An unreadable file reads as empty. -/
def hclRead (fs : Tree) (m : Model) (file : String) (m' : Model) : Prop :=
  ∃ body, Hcl.parseConfig file ((fs.readText file).toOption.getD "") = (body, []) ∧
    applyHclBody m body = .ok m'

/-- Loading files in the configuration language succeeds exactly when the paths name files and
reading those in turn over the defaults does. -/
theorem loadHclFiles_iff (fs : Tree) (paths : List String) (m : Model) :
    loadHclFiles fs paths = .ok m ↔
      ∃ files, hclFiles fs paths = .ok files ∧ Layered (hclRead fs) {} files m := by
  unfold loadHclFiles
  rw [bind_eq_ok]
  refine exists_congr fun files => and_congr_right fun _ =>
    foldlM_eq_ok_iff_layered (fun m file m'' => ?_) files {} m
  dsimp only
  unfold hclRead
  generalize Hcl.parseConfig file ((fs.readText file).toOption.getD "") = parsed
  obtain ⟨body, ds⟩ := parsed
  cases ds with
  | cons d ds =>
    -- a file with problems is never applied
    simp only [List.isEmpty_cons, Bool.not_false, if_true]
    constructor
    · intro h
      cases h
    · rintro ⟨_, ⟨_, hparse, -⟩, -⟩
      cases hparse
  | nil =>
    simp only [List.isEmpty_nil, Bool.not_true, Bool.false_eq_true, if_false, bind_eq_ok,
      mapError_eq_ok]
    constructor
    · rintro ⟨m', happly, h⟩
      cases h
      exact ⟨m', ⟨body, rfl, happly⟩, rfl⟩
    · rintro ⟨m', ⟨body', hparse, happly⟩, rfl⟩
      cases hparse
      exact ⟨m', happly, rfl⟩

/-- Over a stack of files in the configuration language, the environment grows by the entries
of the files' environment blocks, in the order of the files. -/
theorem Layered.hcl_environment {fs : Tree} {m m' : Model} {files : List String}
    (h : Layered (hclRead fs) m files m') :
    ∃ ess, List.Forall₂ (fun file es => ∃ body,
        Hcl.parseConfig file ((fs.readText file).toOption.getD "") = (body, []) ∧
        (readRoot body).1.environment.mapM EnvBlock.toEntry = .ok es) files ess ∧
      m'.environment = m.environment ++ ess.flatten := by
  induction h with
  | nil m => exact ⟨[], .nil, by simp⟩
  | @cons m m₁ m₂ file files hread _ ih =>
    obtain ⟨body, hparse, happly⟩ := hread
    obtain ⟨es, hes, henv₁⟩ := (applyHclBody_overlays happly).environment
    obtain ⟨ess, hess, henv⟩ := ih
    refine ⟨es :: ess, .cons ⟨body, hparse, hes⟩ hess, ?_⟩
    rw [henv, List.flatten_cons, ← List.append_assoc]
    exact congrArg (· ++ _) henv₁

/-! ### Layering -/

/-- Project files are layered over the defaults, and each changes only what it names: loading
YAML files succeeds exactly when reading them in turn over the defaults does, and likewise the
files in the configuration language that the paths name; reading one YAML file changes only
what its document names, and one file in the configuration language only what its blocks
name. -/
theorem project_files_layer_over_defaults :
    (∀ (fs : Tree) (paths : List String) (m : Model),
      loadYamlFiles fs paths = .ok m ↔ Layered (yamlRead fs) {} paths m) ∧
    (∀ (m m' : Model) (path text : String), applyYaml m path text = .ok m' →
      ∃ d, yamlDocument path text = .ok d ∧ d.Overlays m m') ∧
    (∀ (fs : Tree) (paths : List String) (m : Model),
      loadHclFiles fs paths = .ok m ↔
        ∃ files, hclFiles fs paths = .ok files ∧ Layered (hclRead fs) {} files m) ∧
    (∀ (m m' : Model) (body : Hcl.Body), applyHclBody m body = .ok m' →
      (readRoot body).1.Overlays m m') :=
  ⟨loadYamlFiles_iff, fun _ _ _ _ => applyYaml_overlays, loadHclFiles_iff,
    fun _ _ _ => applyHclBody_overlays⟩

end TestRig.ProjectFile
