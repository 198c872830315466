import TestRig.Proofs.Sections
import TestRig.Proofs.DecodeFrame
import TestRig.ProjectFile.Yaml

/-!
What reading a YAML project file over a model changes. A file holds a document; applying it
reads each settings section over the current settings, sets the tools, rule tables and
variables it names, appends its environment entries and replaces the libraries and plugins
when it gives them. `Document.Overlays d m m'` lists what this leaves of `m` in `m'`:

* every setting of a section that the section does not name keeps its value (the names a
  section can set are `Node.setNames`, so a section that is absent or null names none);
* a tool, flag table, define table, matcher or variable takes the value of the document's
  entry of that name, and keeps its value when the document has none;
* the environment grows by the document's entries, in order;
* the libraries and plugins change only when the document gives them, and the files read do
  not change.

`Document.apply_overlays` proves it of every reading that succeeds, and `applyYaml_overlays`
of every file, through the document the file holds (`yamlDocument`).
-/

namespace TestRig.ProjectFile

open TestRig.Yaml TestRig.Config TestRig.Rules TestRig.Text

/-! ### Settings sections -/

/-- The names a settings section of a document sets; an absent section sets none. -/
def sectionNames : Option Node → List String
  | some n => n.setNames
  | none => []

/-- A settings section read over the current settings keeps every setting it does not name,
when each field of its record changes its own setting only. -/
theorem decodeSection_keeps {α : Type} {view : α → String → Option Setting} {name : String}
    {zero : α} {fields : List (Yaml.Field α)} (hloc : ∀ f ∈ fields, f.Local view)
    {place path : String} {node : Option Node} {cur r : α}
    (h : decodeSection place path (.record name zero fields) node cur = .ok r) :
    ∀ k ∉ sectionNames node, view r k = view cur k := by
  intro k hk
  unfold decodeSection at h
  split at h
  · next n =>
    split at h
    · cases h
      rfl
    · cases hd : decodeNode (.record name zero fields) n cur with
      | error e => rw [hd] at h; cases h
      | ok r' =>
        rw [hd] at h
        cases h
        exact decodeNode_keeps hloc hd k hk
  · cases h
    rfl

theorem projectTarget_keeps {place path : String} {node : Option Node} {cur r : Project}
    (h : decodeSection place path projectTarget node cur = .ok r) :
    ∀ k ∉ sectionNames node, r.setting k = cur.setting k := by
  refine decodeSection_keeps ?_ h
  simp only [List.forall_mem_cons, List.not_mem_nil, IsEmpty.forall_iff, implies_true, and_true]
  and_intros
  all_goals exact Field.local_of fun r v k hk => by simp only [Project.setting, lookup_cons_eq, if_neg hk]

theorem pathsTarget_keeps {place path : String} {node : Option Node} {cur r : Paths}
    (h : decodeSection place path pathsTarget node cur = .ok r) :
    ∀ k ∉ sectionNames node, r.setting k = cur.setting k := by
  refine decodeSection_keeps ?_ h
  simp only [List.forall_mem_cons, List.not_mem_nil, IsEmpty.forall_iff, implies_true, and_true]
  and_intros
  all_goals exact Field.local_of fun r v k hk => by simp only [Paths.setting, lookup_cons_eq, if_neg hk]

theorem extensionsTarget_keeps {place path : String} {node : Option Node} {cur r : Extensions}
    (h : decodeSection place path extensionsTarget node cur = .ok r) :
    ∀ k ∉ sectionNames node, r.setting k = cur.setting k := by
  refine decodeSection_keeps ?_ h
  simp only [List.forall_mem_cons, List.not_mem_nil, IsEmpty.forall_iff, implies_true, and_true]
  and_intros
  all_goals exact Field.local_of fun r v k hk => by simp only [Extensions.setting, lookup_cons_eq, if_neg hk]

theorem vendorTarget_keeps {place path : String} {node : Option Node} {cur r : Vendor}
    (h : decodeSection place path vendorTarget node cur = .ok r) :
    ∀ k ∉ sectionNames node, r.setting k = cur.setting k := by
  refine decodeSection_keeps ?_ h
  simp only [List.forall_mem_cons, List.not_mem_nil, IsEmpty.forall_iff, implies_true, and_true]
  and_intros
  all_goals exact Field.local_of fun r v k hk => by simp only [Vendor.setting, lookup_cons_eq, if_neg hk]

/-! ### A document over a model -/

/-- What reading document `d` over model `m` leaves of it in `m'`. -/
structure Document.Overlays (d : Document) (m m' : Model) : Prop where
  project : ∀ k ∉ sectionNames d.project, m'.project.setting k = m.project.setting k
  paths : ∀ k ∉ sectionNames d.paths, m'.paths.setting k = m.paths.setting k
  extensions : ∀ k ∉ sectionNames d.extension, m'.extensions.setting k = m.extensions.setting k
  vendor : ∀ k ∉ sectionNames d.vendor, m'.vendor.setting k = m.vendor.setting k
  /-- A tool's first entry in the document gives the tool. -/
  tools : ∀ k, m'.tool k = (d.tools.lookup k).elim (m.tool k) fun t => t.map (·.tool k)
  /-- The last entry of a context that names an operation gives its flag table. -/
  flags : ∀ ctx op, m'.flagTable ctx op =
    (d.flags.reverse.findSome? fun e => if ctx = e.1 then e.2.reverse.lookup op else none).elim
      (m.flagTable ctx op) fun rules =>
        some { name := "flags." ++ ctx ++ "." ++ op, mode := .firstMatch, rules }
  /-- The last entry of a context gives its define table. -/
  defines : ∀ k, m'.defineTable k = (d.defines.reverse.lookup k).elim (m.defineTable k)
    fun rules => some { name := "defines." ++ k, mode := .firstMatch, rules }
  /-- The last entry of a name gives its matcher. -/
  matchers : ∀ k, m'.matcher k = (d.matchers.reverse.lookup k).elim (m.matcher k)
    fun rules => some { name := "matchers." ++ k, mode := .union, rules }
  /-- A variable's first entry in the document gives its value. -/
  vars : ∀ k, m'.vars.lookup k =
    (d.vars.lookup k).elim (m.vars.lookup k) fun raw => (looseValue raw).toOption
  environment : m'.environment = m.environment ++ d.environment
  libraries : m'.libraries = d.libraries.getD m.libraries
  plugins : m'.plugins = d.plugins.getD m.plugins
  files : m'.files = m.files

/-- Applying a document changes only what it names. -/
theorem Document.apply_overlays {d : Document} {m m' : Model} {path : String}
    (h : d.apply m path = .ok m') : d.Overlays m m' := by
  unfold Document.apply at h
  simp only [bind_eq_ok] at h
  obtain ⟨project, hproject, paths, hpaths, extensions, hextensions, vendor, hvendor, tools, htools,
    vars, hvars, h⟩ := h
  cases h
  refine { project := projectTarget_keeps hproject, paths := pathsTarget_keeps hpaths,
           extensions := extensionsTarget_keeps hextensions, vendor := vendorTarget_keeps hvendor,
           tools := fun k => ?tools, flags := fun ctx op => ?flags, defines := fun k => ?defines,
           matchers := fun k => ?matchers, vars := fun k => ?vars, environment := rfl,
           libraries := rfl, plugins := rfl, files := rfl }
  case tools =>
    -- a tool without settings stops the reading, so every step sets the entry of its tool
    refine lookup_foldlM_sortedEntries (fun name t => t.map (·.tool name))
      (fun s x s' hx => ?_) htools k
    obtain ⟨name, t⟩ := x
    cases t with
    | none => cases hx
    | some t =>
      cases hx
      exact ⟨_, rfl, rfl⟩
  case flags =>
    exact lookup_bind_foldl_setEntry
      (fun ctx op rules => ({ name := "flags." ++ ctx ++ "." ++ op, mode := .firstMatch, rules } : Table))
      (fun _ _ => rfl) _ _ ctx op
  case defines =>
    exact lookup_foldl_setEntry
      (fun ctx rules => ({ name := "defines." ++ ctx, mode := .firstMatch, rules } : Table))
      (fun _ _ => rfl) _ _ k
  case matchers =>
    exact lookup_foldl_setEntry
      (fun name rules => ({ name := "matchers." ++ name, mode := .union, rules } : Table))
      (fun _ _ => rfl) _ _ k
  case vars =>
    -- a value that has no configuration value stops the reading
    refine lookup_foldlM_sortedEntries (fun _ raw => (looseValue raw).toOption)
      (fun s x s' hx => ?_) hvars k
    simp only [bind_eq_ok, mapError_eq_ok] at hx
    obtain ⟨v, hv, hx⟩ := hx
    cases hx
    exact ⟨v, by simp [hv, Except.toOption], rfl⟩

/-! ### A file over a model -/

/-- The document a YAML project file holds; a file with no document holds the empty one. -/
def yamlDocument (path text : String) : Except Fault Document := do
  let root ← (composeWith true text).mapError fun e => .config (Path.base path) ("invalid YAML: " ++ e)
  match root with
  | none => return {}
  | some root => (decodeWith documentTarget root {}).mapError fun e => .config (Path.base path) e

/-- The empty document changes nothing. -/
theorem Document.apply_empty (m : Model) (path : String) : ({} : Document).apply m path = .ok m := by
  simp only [Document.apply, decodeSection, sortedEntries, sortedNames, List.map_nil,
    List.foldl_nil, List.filterMap_nil, List.foldlM_nil, List.append_nil,
    Option.getD_none]
  rfl

/-- Reading a YAML project file is applying the document it holds. -/
theorem applyYaml_eq (m : Model) (path text : String) :
    applyYaml m path text = yamlDocument path text >>= fun d => d.apply m path := by
  unfold applyYaml yamlDocument
  cases composeWith true text with
  | error e => rfl
  | ok root =>
    cases root with
    | none => exact (Document.apply_empty m path).symm
    | some root => cases decodeWith documentTarget root {} <;> rfl

/-- Reading a YAML project file changes only what its document names. -/
theorem applyYaml_overlays {m m' : Model} {path text : String} (h : applyYaml m path text = .ok m') :
    ∃ d, yamlDocument path text = .ok d ∧ d.Overlays m m' := by
  rw [applyYaml_eq, bind_eq_ok] at h
  obtain ⟨d, hd, happly⟩ := h
  exact ⟨d, hd, Document.apply_overlays happly⟩

end TestRig.ProjectFile
