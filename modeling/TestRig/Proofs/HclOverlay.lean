import TestRig.Proofs.Sections
import TestRig.ProjectFile.Hcl

/-!
What reading a project file in the configuration language over a model changes. A file is a
body of blocks that `readRoot` sorts by type; applying them reads each settings block over the
current settings, sets the tools, rule tables and variables its blocks name, appends its
environment entries and replaces the libraries and plugins when it gives them.
`FileRoot.Overlays root m m'` lists what this leaves of `m` in `m'`:

* every setting that the block of its section does not set keeps its value (a setting is set
  by an attribute of its name, and an absent block sets none);
* a tool, flag table, define table or matcher takes the value of the last block of that name,
  and a variable the value of the last vars block that sets it; each keeps its value when no
  block names it;
* the environment grows by the entries of the file's environment blocks, in order;
* the libraries and plugins change only when the file gives them, and the files read do not
  change.

`applyHclBody_overlays` proves it of every reading that succeeds.
-/

namespace TestRig.ProjectFile

open TestRig.Hcl TestRig.Config TestRig.Rules

/-! ### Settings blocks -/

/-- What every step keeps, a fold keeps. -/
theorem foldl_invariant {σ γ : Type} {P : σ → Prop} {f : σ → γ → σ} (hf : ∀ s x, P s → P (f s x)) :
    ∀ (xs : List γ) (s : σ), P s → P (xs.foldl f s)
  | [], _, hs => hs
  | x :: xs, s, hs => foldl_invariant hf xs (f s x) (hf s x hs)

/-- The content of a body under a schema holds attributes of the body only. -/
theorem content_attributes_mem {b : Body} {s : Schema} {a : Attribute}
    (h : a ∈ (b.content s).1.attributes) : a ∈ b.attributes := by
  unfold Body.content Body.partialContent at h
  dsimp only at h
  -- the content's attributes are found among the body's, one schema name at a time
  refine @foldl_invariant (List Attribute × Diags) (String × Bool)
    (fun acc => ∀ x ∈ acc.1, x ∈ b.attributes) _ ?_ s.attributes ([], [])
    (fun _ hx => by cases hx) a h
  intro acc e hacc
  split
  · next found hfound =>
    intro x hx
    rcases List.mem_append.mp hx with hx | hx
    · exact hacc x hx
    · rw [List.mem_singleton.mp hx]
      exact List.mem_of_find?_eq_some hfound
  · split <;> exact hacc

/-- An attribute the body lacks is absent from its content under every schema. -/
theorem content_attribute?_of_absent {b : Body} {s : Schema} {k : String}
    (hk : k ∉ b.attributes.map (·.name)) : (b.content s).1.attribute? k = none := by
  unfold Content.attribute?
  rw [List.find?_eq_none]
  intro a ha hak
  exact hk (List.mem_map.mpr ⟨a, content_attributes_mem ha, by simpa using hak⟩)

/-- A field whose attribute the body lacks keeps its value and reports nothing. -/
theorem decodeField_of_absent {β : Type} {b : Body} {s : Schema} {k : String}
    (hk : k ∉ b.attributes.map (·.name)) (read : Expr → Option β × Diags) (cur : β) :
    decodeField (b.content s).1 k read cur = (cur, []) := by
  simp [decodeField, content_attribute?_of_absent hk]

/-- A worker budget whose attribute the body lacks keeps its value: the expression standing
for it is empty. -/
theorem applyBudget_of_absent {b : Body} {s : Schema} {k : String}
    (hk : k ∉ b.attributes.map (·.name)) (path : String) (cur : Budget) :
    applyBudget path ((b.content s).1.expression b k) cur = .ok cur := by
  simp [applyBudget, Content.expression, content_attribute?_of_absent hk, Expr.isWritten,
    Expr.range, Body.missingItemRange, Range.atStart, Range.nonEmpty]

/-- A project block keeps every setting it has no attribute for. -/
theorem applyProject_keeps {b : Body} {p p' : Project} (h : applyProject b p = .ok p') :
    ∀ k ∉ b.attributes.map (·.name), p'.setting k = p.setting k := by
  intro k hk
  unfold applyProject at h
  dsimp only at h
  simp only [bind_eq_ok] at h
  obtain ⟨_, -, compileThreads, hcompile, testThreads, htest, h⟩ := h
  cases h
  refine lookup_eq_of_forall₂ ?_
  simp only [List.forall₂_cons, List.Forall₂.nil, true_and, and_true]
  and_intros
  all_goals rintro rfl
  all_goals first
    | simp only [decodeField_of_absent hk]
    | (rw [applyBudget_of_absent hk] at hcompile; cases hcompile; rfl)
    | (rw [applyBudget_of_absent hk] at htest; cases htest; rfl)

/-- A paths block keeps every path spec it has no attribute for. -/
theorem applyPaths_keeps {b : Body} {p p' : Paths} (h : applyPaths b p = .ok p') :
    ∀ k ∉ b.attributes.map (·.name), p'.setting k = p.setting k := by
  intro k hk
  unfold applyPaths at h
  dsimp only at h
  simp only [bind_eq_ok] at h
  obtain ⟨_, -, h⟩ := h
  cases h
  refine lookup_eq_of_forall₂ ?_
  simp only [List.forall₂_cons, List.Forall₂.nil, true_and, and_true]
  and_intros
  all_goals rintro rfl; simp only [decodeField_of_absent hk, Option.getD_some]

/-- An extension block keeps every extension it has no attribute for. -/
theorem applyExtensions_keeps {b : Body} {e e' : Extensions} (h : applyExtensions b e = .ok e') :
    ∀ k ∉ b.attributes.map (·.name), e'.setting k = e.setting k := by
  intro k hk
  unfold applyExtensions at h
  dsimp only at h
  simp only [bind_eq_ok] at h
  obtain ⟨_, -, h⟩ := h
  cases h
  refine lookup_eq_of_forall₂ ?_
  simp only [List.forall₂_cons, List.Forall₂.nil, true_and, and_true]
  and_intros
  all_goals rintro rfl; simp only [decodeField_of_absent hk]

/-- A vendor block keeps every directory it has no attribute for. -/
theorem applyVendor_keeps {b : Body} {v v' : Vendor} (h : applyVendor b v = .ok v') :
    ∀ k ∉ b.attributes.map (·.name), v'.setting k = v.setting k := by
  intro k hk
  unfold applyVendor at h
  dsimp only at h
  simp only [bind_eq_ok] at h
  obtain ⟨_, -, h⟩ := h
  cases h
  refine lookup_eq_of_forall₂ ?_
  simp only [List.forall₂_cons, List.Forall₂.nil, true_and, and_true]
  and_intros
  all_goals rintro rfl; simp only [decodeField_of_absent hk]

/-- The names of the attributes a settings block sets; an absent block sets none. -/
def blockNames : Option Body → List String
  | some b => b.attributes.map (·.name)
  | none => []

/-- A settings section keeps every setting its block, if any, has no attribute for. -/
theorem applyBlock_keeps {σ : Type} {view : σ → String → Option Setting}
    {apply : Body → σ → Except Fault σ}
    (hkeep : ∀ {b s s'}, apply b s = .ok s' → ∀ k ∉ b.attributes.map (·.name), view s' k = view s k)
    {o : Option Body} {s s' : σ} (h : applyBlock apply o s = .ok s') :
    ∀ k ∉ blockNames o, view s' k = view s k := by
  cases o with
  | some b => exact hkeep h
  | none =>
    cases h
    exact fun _ _ => rfl

/-! ### Tools and variables -/

/-- The tool of a tool block carries the block's name. -/
theorem ToolBlock.toTool_name {t : ToolBlock} {tool : Tool} (h : t.toTool = .ok tool) :
    tool.name = t.name := by
  unfold ToolBlock.toTool at h
  dsimp only at h
  split at h
  · cases h
    rfl
  · simp only [bind_eq_ok] at h
    obtain ⟨_, -, h⟩ := h
    split at h
    · cases h
      rfl
    all_goals
      simp only [bind_eq_ok] at h
      obtain ⟨_, _, _, -, h⟩ := h
      cases h
      rfl

theorem mem_insertSorted {x y : String} {l : List String} :
    x ∈ insertSorted y l ↔ x = y ∨ x ∈ l := by
  induction l with
  | nil => simp [insertSorted]
  | cons z l ih =>
    unfold insertSorted
    split
    · simp
    · simp only [List.mem_cons, ih]
      exact or_left_comm

/-- Sorting names keeps every name. -/
theorem mem_sortNames {xs : List String} {k : String} : k ∈ sortNames xs ↔ k ∈ xs := by
  unfold sortNames
  rw [mem_foldl_insert fun _ _ _ => mem_insertSorted]
  simp

theorem justAttributes_fst (b : Body) : b.justAttributes.1 = b.attributes := by
  unfold Body.justAttributes
  split <;> rfl

/-- A vars block sets each variable it names to the value of its first attribute of that
name, and keeps the others. -/
theorem applyVars_lookup {b : Body} {vars vars' : List (String × Value)}
    (h : applyVars b vars = .ok vars') (k : String) :
    vars'.lookup k = ((b.attributes.find? (·.name == k)).map fun a => some a.expr.value.1).getD
      (vars.lookup k) := by
  unfold applyVars at h
  dsimp only at h
  simp only [bind_eq_ok, justAttributes_fst] at h
  obtain ⟨_, -, h⟩ := h
  rw [view_foldlM (fun s k => List.lookup k s) (fun name k => if k = name then
      (b.attributes.find? (·.name == name)).map fun a => some a.expr.value.1 else none)
    (fun s name s' k hx => ?_) _ _ _ h k, findSome?_eq_of_mem]
  · split
    · rfl
    · next hk =>
      have hnone : b.attributes.find? (·.name == k) = none := by
        refine List.find?_eq_none.mpr fun a ha hak => hk ?_
        rw [List.mem_reverse, mem_sortNames]
        exact List.mem_map.mpr ⟨a, ha, by simpa using hak⟩
      rw [hnone]
      rfl
  · split at hx
    · next hnone =>
      cases hx
      by_cases hk : k = name
      · subst hk
        simp [hnone]
      · simp [hk]
    · next a ha =>
      simp only [bind_eq_ok] at hx
      obtain ⟨_, -, hx⟩ := hx
      cases hx
      rw [lookup_setEntry]
      by_cases hk : k = name
      · subst hk
        simp [ha]
      · simp [hk]

/-! ### A file over a model -/

/-- What reading the blocks `root` of a file over model `m` leaves of it in `m'`. -/
structure FileRoot.Overlays (root : FileRoot) (m m' : Model) : Prop where
  project : ∀ k ∉ blockNames root.project, m'.project.setting k = m.project.setting k
  paths : ∀ k ∉ blockNames root.paths, m'.paths.setting k = m.paths.setting k
  extensions : ∀ k ∉ blockNames root.extension, m'.extensions.setting k = m.extensions.setting k
  vendor : ∀ k ∉ blockNames root.vendor, m'.vendor.setting k = m.vendor.setting k
  /-- The last block of a name gives the tool. -/
  tools : ∀ k, m'.tool k =
    (root.tools.reverse.find? (·.name == k)).elim (m.tool k) fun t => t.toTool.toOption
  /-- The last block labelled with a context and an operation gives their flag table. -/
  flags : ∀ ctx op, m'.flagTable ctx op =
    (root.flags.reverse.find? fun f => (f.labels.headD "", f.labels.getD 1 "") == (ctx, op)).elim
      (m.flagTable ctx op) fun f => (f.toTable ("flags." ++ ctx ++ "." ++ op) .firstMatch).toOption
  /-- The last block of a context gives its define table. -/
  defines : ∀ k, m'.defineTable k = (root.defines.reverse.find? (·.labels.headD "" == k)).elim
    (m.defineTable k) fun t => (t.toTable ("defines." ++ k) .firstMatch).toOption
  /-- The last block of a name gives its matcher. -/
  matchers : ∀ k, m'.matcher k = (root.matchers.reverse.find? (·.labels.headD "" == k)).elim
    (m.matcher k) fun t => (t.toTable ("matchers." ++ k) .union).toOption
  /-- The last vars block that sets a variable gives its value. -/
  vars : ∀ k, m'.vars.lookup k =
    (root.vars.reverse.findSome? fun b => b.attributes.find? (·.name == k)).elim
      (m.vars.lookup k) fun a => some a.expr.value.1
  environment : ∃ es, root.environment.mapM EnvBlock.toEntry = .ok es ∧
    m'.environment = m.environment ++ es
  libraries : m'.libraries = root.libraries.getD m.libraries
  plugins : m'.plugins = root.plugins.getD m.plugins
  files : m'.files = m.files

/-- Applying the body of a file changes only what its blocks name. -/
theorem applyHclBody_overlays {m m' : Model} {b : Body} (h : applyHclBody m b = .ok m') :
    (readRoot b).1.Overlays m m' := by
  unfold applyHclBody at h
  dsimp only at h
  split at h
  · cases h
  simp only [bind_eq_ok] at h
  obtain ⟨project, hproject, paths, hpaths, extensions, hextensions, vendor, hvendor, tools, htools,
    flags, hflags, defines, hdefines, matchers, hmatchers, environment, henvironment, vars, hvars,
    h⟩ := h
  cases h
  refine { project := applyBlock_keeps applyProject_keeps hproject,
           paths := applyBlock_keeps applyPaths_keeps hpaths,
           extensions := applyBlock_keeps applyExtensions_keeps hextensions,
           vendor := applyBlock_keeps applyVendor_keeps hvendor,
           tools := fun k => ?tools, flags := fun ctx op => ?flags, defines := fun k => ?defines,
           matchers := fun k => ?matchers, vars := fun k => ?vars,
           environment := foldlM_append _ _ _ henvironment,
           libraries := rfl, plugins := rfl, files := rfl }
  case tools =>
    -- a block is named by its label, and the tool it gives carries that name
    refine lookup_foldlM_setEntry ToolBlock.name (fun _ t => t.toTool.toOption)
      (fun s t s' hx => ?_) htools k
    simp only [bind_eq_ok] at hx
    obtain ⟨tool, htool, hx⟩ := hx
    cases hx
    rw [ToolBlock.toTool_name htool]
    exact ⟨tool, by simp only [htool, Except.toOption], rfl⟩
  case flags =>
    refine lookup_bind_foldlM_setEntry (fun f => (f.labels.headD "", f.labels.getD 1 ""))
      (fun co f => (f.toTable ("flags." ++ co.1 ++ "." ++ co.2) .firstMatch).toOption)
      (fun s f s' hx => ?_) hflags ctx op
    simp only [bind_eq_ok] at hx
    obtain ⟨table, htable, hx⟩ := hx
    cases hx
    exact ⟨table, by simp only [htable, Except.toOption], rfl⟩
  case defines =>
    refine lookup_foldlM_setEntry (·.labels.headD "")
      (fun k t => (t.toTable ("defines." ++ k) .firstMatch).toOption) (fun s t s' hx => ?_) hdefines k
    simp only [bind_eq_ok] at hx
    obtain ⟨table, htable, hx⟩ := hx
    cases hx
    exact ⟨table, by simp only [htable, Except.toOption], rfl⟩
  case matchers =>
    refine lookup_foldlM_setEntry (·.labels.headD "")
      (fun k t => (t.toTable ("matchers." ++ k) .union).toOption) (fun s t s' hx => ?_) hmatchers k
    simp only [bind_eq_ok] at hx
    obtain ⟨table, htable, hx⟩ := hx
    cases hx
    exact ⟨table, by simp only [htable, Except.toOption], rfl⟩
  case vars =>
    rw [view_foldlM (fun s k => List.lookup k s)
      (fun b k => (b.attributes.find? (·.name == k)).map fun a => some a.expr.value.1)
      (fun s b s' k hx => applyVars_lookup hx k) _ _ _ hvars k, findSome?_map, getD_map_eq_elim]

end TestRig.ProjectFile
