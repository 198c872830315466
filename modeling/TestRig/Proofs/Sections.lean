import TestRig.Config.Model
import Mathlib

/-!
Named sections and settings as a reader sees them. A named section of the model is an
association list that `setEntry` updates in place, and what the rest of the program observes of
it is the lookup of a name. This module says what setting an entry, folding many updates and
sorting a section do to lookups, and gives each settings record a view by the names project
files use for its settings, so that "a setting the file does not name keeps its value" is one
statement for every record.

* `lookup_setEntry`: setting an entry changes the lookup of its own name only;
* `view_foldl`, `view_foldlM`: after a fold of steps that each write some keys, a key shows
  what the last step that wrote it wrote, or what it showed before the fold;
* `findSome?_sortedEntries`: the entries of a sorted section, searched from either end, give
  a name the value of its first entry in the section;
* `Project.setting` and its kin: the settings records by name; `lookup_eq_of_forall₂` compares
  two such views entry by entry.
-/

namespace TestRig.Config

/-! ### Looking up names -/

section Lookup

variable {α ω : Type}

theorem lookup_cons_eq (a k : String) (b : α) (xs : List (String × α)) :
    ((a, b) :: xs).lookup k = if k = a then some b else xs.lookup k := by
  by_cases h : k = a
  · simp [h]
  · have hne : (k == a) = false := by simpa using h
    simp only [List.lookup_cons, hne, h, if_false]

theorem lookup_eq_none_iff_not_mem (xs : List (String × α)) (k : String) :
    xs.lookup k = none ↔ k ∉ xs.map (·.1) := by
  induction xs with
  | nil => simp
  | cons e xs ih =>
    obtain ⟨a, b⟩ := e
    rw [lookup_cons_eq]
    by_cases hk : k = a
    · simp [hk]
    · simp [hk, ih]

/-- Replacing every entry of a name in place. -/
theorem lookup_map_set (xs : List (String × α)) (k k' : String) (v : α) :
    (xs.map fun p => if p.1 == k then (k, v) else p).lookup k' =
      if k' = k ∧ xs.any (·.1 == k) then some v else xs.lookup k' := by
  induction xs with
  | nil => simp
  | cons p xs ih =>
    obtain ⟨a, b⟩ := p
    by_cases ha : a = k
    · subst ha
      rw [List.map_cons, beq_self_eq_true, if_pos rfl, lookup_cons_eq, lookup_cons_eq, ih]
      by_cases hk : k' = a <;> simp [hk]
    · have hne : (a == k) = false := by simpa using ha
      rw [List.map_cons, hne, if_neg Bool.false_ne_true, lookup_cons_eq, lookup_cons_eq, ih,
        List.any_cons, hne, Bool.false_or]
      by_cases hk : k' = a <;> simp [hk, ha]

/-- Setting a name's entry changes what that name looks up, and nothing else. -/
@[simp] theorem lookup_setEntry (xs : List (String × α)) (k k' : String) (v : α) :
    (setEntry xs k v).lookup k' = if k' = k then some v else xs.lookup k' := by
  unfold setEntry
  split
  · next hany => rw [lookup_map_set]; simp [hany]
  · next hany =>
    rw [List.lookup_append, lookup_cons_eq]
    by_cases hk : k' = k
    · subst hk
      have hnone : xs.lookup k' = none := by
        rw [lookup_eq_none_iff_not_mem]
        simpa using hany
      simp [hnone]
    · simp [hk]

/-- A section that may be missing looks up nothing. -/
theorem lookup_getD_nil (o : Option (List (String × α))) (k : String) :
    (o.getD []).lookup k = o.bind (·.lookup k) := by
  cases o <;> rfl

/-- Searching a section for an entry of a name is looking the name up. -/
theorem findSome?_eq_lookup_map (xs : List (String × α)) (g : String → α → ω) (k : String) :
    (xs.findSome? fun e => if k = e.1 then some (g e.1 e.2) else none) =
      (xs.lookup k).map (g k) := by
  induction xs with
  | nil => rfl
  | cons e xs ih =>
    obtain ⟨a, b⟩ := e
    rw [List.findSome?_cons, lookup_cons_eq]
    by_cases hk : k = a
    · subst hk
      simp
    · simp [hk, ih]

/-- Searching for the first item with a key is finding it. -/
theorem findSome?_eq_find?_map {γ κ : Type} [DecidableEq κ] [BEq κ] [LawfulBEq κ] (xs : List γ)
    (key : γ → κ) (g : γ → ω) (k : κ) :
    (xs.findSome? fun x => if k = key x then some (g x) else none) =
      (xs.find? (key · == k)).map g := by
  induction xs with
  | nil => rfl
  | cons x xs ih =>
    rw [List.findSome?_cons, List.find?_cons]
    by_cases hk : k = key x
    · simp [hk]
    · have hk' : (key x == k) = false := by simpa using Ne.symm hk
      simp [hk, hk', ih]

/-- Searching a list of names for one name. -/
theorem findSome?_eq_of_mem (xs : List String) (f : String → Option ω) (k : String) :
    (xs.findSome? fun x => if k = x then f x else none) = if k ∈ xs then f k else none := by
  induction xs with
  | nil => simp
  | cons x xs ih =>
    rw [List.findSome?_cons]
    by_cases hk : k = x
    · subst hk
      rw [ih]
      cases f k <;> simp
    · simp [hk, ih]

theorem findSome?_map {γ : Type} (xs : List γ) (f : γ → Option α) (g : α → ω) :
    (xs.findSome? fun x => (f x).map g) = (xs.findSome? f).map g := by
  induction xs with
  | nil => rfl
  | cons x xs ih =>
    rw [List.findSome?_cons, List.findSome?_cons]
    cases f x <;> simp [ih]

theorem getD_map_eq_elim {γ : Type} (o : Option γ) (f : γ → ω) (d : ω) :
    (o.map f).getD d = o.elim d f := by
  cases o <;> rfl

end Lookup

/-! ### Sorted sections -/

section Sorted

variable {α ω : Type}

theorem mem_insertName {x y : String} {l : List String} : x ∈ insertName y l ↔ x = y ∨ x ∈ l := by
  induction l with
  | nil => simp [insertName]
  | cons z l ih =>
    unfold insertName
    split
    · simp
    · simp only [List.mem_cons, ih]
      exact or_left_comm

/-- Inserting names one after another keeps every name inserted. -/
theorem mem_foldl_insert {ins : String → List String → List String}
    (hins : ∀ x y l, x ∈ ins y l ↔ x = y ∨ x ∈ l) :
    ∀ (ys acc : List String) (x : String), x ∈ ys.foldl (fun acc k => ins k acc) acc ↔ x ∈ ys ∨ x ∈ acc
  | [], _, _ => by simp
  | y :: ys, acc, x => by
    rw [List.foldl_cons, mem_foldl_insert hins ys, hins, List.mem_cons]
    exact or_left_comm.trans or_assoc.symm

theorem mem_sortedNames {xs : List (String × α)} {k : String} :
    k ∈ sortedNames xs ↔ k ∈ xs.map (·.1) := by
  unfold sortedNames
  rw [mem_foldl_insert fun _ _ _ => mem_insertName]
  simp

theorem lookup_of_mem_sortedEntries {xs : List (String × α)} {e : String × α}
    (h : e ∈ sortedEntries xs) : xs.lookup e.1 = some e.2 := by
  unfold sortedEntries at h
  obtain ⟨k, -, hk⟩ := List.mem_filterMap.mp h
  cases hl : xs.lookup k with
  | none => simp [hl] at hk
  | some v =>
    simp only [hl, Option.map_some, Option.some.injEq] at hk
    subst hk
    exact hl

theorem mem_keys_sortedEntries {xs : List (String × α)} {k : String} :
    k ∈ (sortedEntries xs).map (·.1) ↔ k ∈ xs.map (·.1) := by
  constructor
  · intro hk
    obtain ⟨e, he, rfl⟩ := List.mem_map.mp hk
    have hl := lookup_of_mem_sortedEntries he
    by_contra hn
    rw [← lookup_eq_none_iff_not_mem] at hn
    rw [hn] at hl
    cases hl
  · intro hk
    cases hl : xs.lookup k with
    | none => exact absurd hk ((lookup_eq_none_iff_not_mem xs k).mp hl)
    | some v =>
      refine List.mem_map.mpr ⟨(k, v), ?_, rfl⟩
      unfold sortedEntries
      exact List.mem_filterMap.mpr ⟨k, mem_sortedNames.mpr hk, by simp [hl]⟩

/-- A list of entries that agree with a section and name the same names gives each name the
value the section looks up for it. -/
theorem findSome?_of_agrees {l xs : List (String × α)}
    (hval : ∀ e ∈ l, xs.lookup e.1 = some e.2) (hkey : ∀ k, k ∈ l.map (·.1) ↔ k ∈ xs.map (·.1))
    (g : String → α → ω) (k : String) :
    (l.findSome? fun e => if k = e.1 then some (g e.1 e.2) else none) = (xs.lookup k).map (g k) := by
  cases hx : xs.lookup k with
  | none =>
    refine List.findSome?_eq_none_iff.mpr fun e he => if_neg fun hk => ?_
    have hmem : k ∈ xs.map (·.1) := (hkey k).mp (List.mem_map.mpr ⟨e, he, hk.symm⟩)
    exact (lookup_eq_none_iff_not_mem xs k).mp hx hmem
  | some v =>
    have hmem : k ∈ l.map (·.1) := by
      refine (hkey k).mpr (Classical.byContradiction fun hn => ?_)
      rw [(lookup_eq_none_iff_not_mem xs k).mpr hn] at hx
      cases hx
    obtain ⟨e, he, rfl⟩ := List.mem_map.mp hmem
    cases hf : l.findSome? fun e' => if e.1 = e'.1 then some (g e'.1 e'.2) else none with
    | none =>
      have := List.findSome?_eq_none_iff.mp hf e he
      simp at this
    | some w =>
      obtain ⟨e', he', hw⟩ := List.exists_of_findSome?_eq_some hf
      split at hw
      · next hk =>
        cases hw
        have hv : xs.lookup e'.1 = some e'.2 := hval e' he'
        rw [← hk, hx] at hv
        cases hv
        rw [hk]
        rfl
      · cases hw

/-- Looking a name up in a sorted section, from either end, finds its first entry. -/
theorem findSome?_sortedEntries (xs : List (String × α)) (g : String → α → ω) (k : String) :
    ((sortedEntries xs).reverse.findSome? fun e => if k = e.1 then some (g e.1 e.2) else none) =
      (xs.lookup k).map (g k) :=
  findSome?_of_agrees (fun e he => lookup_of_mem_sortedEntries (List.mem_reverse.mp he))
    (fun k => by rw [List.map_reverse, List.mem_reverse, mem_keys_sortedEntries]) g k

end Sorted

/-! ### Folds of writes -/

section LastWrite

variable {σ γ κ ω ε : Type} (view : σ → κ → ω) (write : γ → κ → Option ω)

/-- Folding steps that each write some keys: a key shows what the last step that wrote it
wrote, or what it showed before. -/
theorem view_foldl {step : σ → γ → σ}
    (hstep : ∀ s x k, view (step s x) k = (write x k).getD (view s k)) :
    ∀ (xs : List γ) (s : σ) (k : κ),
      view (xs.foldl step s) k = (xs.reverse.findSome? (write · k)).getD (view s k)
  | [], _, _ => rfl
  | x :: xs, s, k => by
    rw [List.foldl_cons, view_foldl hstep xs, hstep, List.reverse_cons, List.findSome?_append,
      Option.getD_or, List.findSome?_singleton]

/-- The same for steps that may fail: when the whole fold succeeds, every step did. -/
theorem view_foldlM {step : σ → γ → Except ε σ}
    (hstep : ∀ s x s' k, step s x = .ok s' → view s' k = (write x k).getD (view s k)) :
    ∀ (xs : List γ) (s s' : σ), xs.foldlM step s = .ok s' →
      ∀ k, view s' k = (xs.reverse.findSome? (write · k)).getD (view s k)
  | [], s, s', h, k => by
    cases h
    rfl
  | x :: xs, s, s', h, k => by
    rw [List.foldlM_cons] at h
    cases hx : step s x with
    | error e => rw [hx] at h; cases h
    | ok s₁ =>
      rw [hx] at h
      rw [view_foldlM hstep xs s₁ s' h, hstep s x s₁ k hx, List.reverse_cons,
        List.findSome?_append, Option.getD_or, List.findSome?_singleton]

end LastWrite

/-! ### Folds of entries -/

section Entries

variable {α β γ ε : Type}

/-- Setting the entries of items one after another: a name looks up the value of the last item
that sets it, or what it looked up before. -/
theorem lookup_foldl_setEntry (g : String → β → α)
    {step : List (String × α) → String × β → List (String × α)}
    (hstep : ∀ s x, step s x = setEntry s x.1 (g x.1 x.2)) (xs : List (String × β))
    (cur : List (String × α)) (k : String) :
    (xs.foldl step cur).lookup k = (xs.reverse.lookup k).elim (cur.lookup k) fun v => some (g k v) := by
  rw [view_foldl (fun s k => List.lookup k s) (fun x k => if k = x.1 then some (some (g x.1 x.2))
    else none) (fun s x k => ?_) xs cur k, findSome?_eq_lookup_map _ fun a v => some (g a v),
    getD_map_eq_elim]
  rw [hstep, lookup_setEntry]
  by_cases hk : k = x.1 <;> simp [hk]

/-- The same for steps that may fail, over items with names of their own: when the fold
succeeds, a name looks up the value of the last item named so. -/
theorem lookup_foldlM_setEntry (key : γ → String) (g : String → γ → Option α)
    {step : List (String × α) → γ → Except ε (List (String × α))}
    (hstep : ∀ s x s', step s x = .ok s' → ∃ v, g (key x) x = some v ∧ s' = setEntry s (key x) v)
    {xs : List γ} {cur out : List (String × α)} (h : xs.foldlM step cur = .ok out) (k : String) :
    out.lookup k = (xs.reverse.find? (key · == k)).elim (cur.lookup k) (g k) := by
  rw [view_foldlM (fun s k => List.lookup k s) (fun x k => if k = key x then some (g k x) else none)
    (fun s x s' k hx => ?_) xs cur out h k, findSome?_eq_find?_map _ key (g k), getD_map_eq_elim]
  obtain ⟨v, hv, rfl⟩ := hstep s x s' hx
  rw [lookup_setEntry]
  by_cases hk : k = key x
  · subst hk
    simp [hv]
  · simp [hk]

/-- Setting the entries of a sorted section one by one, each step setting its own name or
failing: when the fold succeeds, a name looks up the value its first entry gives. -/
theorem lookup_foldlM_sortedEntries (g : String → β → Option α)
    {step : List (String × α) → String × β → Except ε (List (String × α))}
    (hstep : ∀ s x s', step s x = .ok s' → ∃ v, g x.1 x.2 = some v ∧ s' = setEntry s x.1 v)
    {xs : List (String × β)} {cur out : List (String × α)}
    (h : (sortedEntries xs).foldlM step cur = .ok out) (k : String) :
    out.lookup k = (xs.lookup k).elim (cur.lookup k) (g k) := by
  rw [view_foldlM (fun s k => List.lookup k s) (fun x k => if k = x.1 then some (g x.1 x.2) else none)
    (fun s x s' k hx => ?_) _ cur out h k, findSome?_sortedEntries _ g, getD_map_eq_elim]
  obtain ⟨v, hv, rfl⟩ := hstep s x s' hx
  rw [lookup_setEntry]
  by_cases hk : k = x.1 <;> simp [hk, hv]

/-- Tables keyed by a context and then an operation, set entry by entry, each entry a context
with operations one after another: an operation of a context looks up the value of the last
entry that names both. -/
theorem lookup_bind_foldl_setEntry (g : String → String → β → α)
    {step : List (String × List (String × α)) → String × List (String × β) →
      List (String × List (String × α))}
    (hstep : ∀ s x, step s x = setEntry s x.1
      (x.2.foldl (fun acc y => setEntry acc y.1 (g x.1 y.1 y.2)) ((s.lookup x.1).getD [])))
    (xs : List (String × List (String × β))) (cur : List (String × List (String × α)))
    (ctx op : String) :
    ((xs.foldl step cur).lookup ctx).bind (·.lookup op) =
      (xs.reverse.findSome? fun e => if ctx = e.1 then e.2.reverse.lookup op else none).elim
        ((cur.lookup ctx).bind (·.lookup op)) fun v => some (g ctx op v) := by
  have hrun := @view_foldl _ _ _ _ (fun s (co : String × String) => (s.lookup co.1).bind (·.lookup co.2))
    (fun x co => (if co.1 = x.1 then x.2.reverse.lookup co.2 else none).map
      fun v => some (g co.1 co.2 v))
    step (fun s x co => ?_) xs cur (ctx, op)
  · dsimp only at hrun
    rw [hrun, findSome?_map, getD_map_eq_elim]
  · -- the step sets the table of its own context, each of its operations in turn
    rw [hstep, lookup_setEntry]
    by_cases hc : co.1 = x.1
    · rw [if_pos hc, if_pos hc, Option.bind_some, lookup_foldl_setEntry (g x.1) (fun _ _ => rfl),
        lookup_getD_nil, getD_map_eq_elim, hc]
    · rw [if_neg hc, if_neg hc]
      rfl

/-- The same for steps that may fail, each item naming its context and operation: when the
fold succeeds, an operation of a context looks up the value of the last item naming both. -/
theorem lookup_bind_foldlM_setEntry (key : γ → String × String)
    (g : String × String → γ → Option α)
    {step : List (String × List (String × α)) → γ → Except ε (List (String × List (String × α)))}
    (hstep : ∀ s x s', step s x = .ok s' → ∃ v, g (key x) x = some v ∧
      s' = setEntry s (key x).1 (setEntry ((s.lookup (key x).1).getD []) (key x).2 v))
    {xs : List γ} {cur out : List (String × List (String × α))} (h : xs.foldlM step cur = .ok out)
    (ctx op : String) :
    (out.lookup ctx).bind (·.lookup op) =
      (xs.reverse.find? (key · == (ctx, op))).elim ((cur.lookup ctx).bind (·.lookup op)) (g (ctx, op)) := by
  have hrun := view_foldlM (fun s (co : String × String) => (s.lookup co.1).bind (·.lookup co.2))
    (fun x co => if co = key x then some (g co x) else none) (fun s x s' co hx => ?_) xs cur out h (ctx, op)
  · dsimp only at hrun
    rw [hrun, findSome?_eq_find?_map _ key (g (ctx, op)), getD_map_eq_elim]
  · obtain ⟨v, hv, rfl⟩ := hstep s x s' hx
    obtain ⟨c, o⟩ := co
    rw [lookup_setEntry]
    by_cases hk : (c, o) = key x
    · rw [← hk] at hv ⊢
      simp [hv]
    · rw [if_neg hk]
      by_cases hc : c = (key x).1
      · have ho : o ≠ (key x).2 := fun ho => hk (Prod.ext hc ho)
        simp [hc, ho, lookup_getD_nil]
      · simp [hc]

/-- Appending the value of each item: when the fold succeeds, it appended the values of all. -/
theorem foldlM_append {f : γ → Except ε β} :
    ∀ (xs : List γ) (cur out : List β),
      xs.foldlM (fun acc x => f x >>= fun y => pure (acc ++ [y])) cur = .ok out →
        ∃ ys, xs.mapM f = .ok ys ∧ out = cur ++ ys
  | [], cur, out, h => by
    cases h
    exact ⟨[], rfl, (List.append_nil cur).symm⟩
  | x :: xs, cur, out, h => by
    rw [List.foldlM_cons] at h
    cases hx : f x with
    | error e => rw [hx] at h; cases h
    | ok y =>
      rw [hx] at h
      obtain ⟨ys, hys, rfl⟩ := foldlM_append xs (cur ++ [y]) out h
      refine ⟨y :: ys, ?_, by simp⟩
      rw [List.mapM_cons, hx, hys]
      rfl

end Entries

theorem bind_eq_ok {ε α β : Type} {x : Except ε α} {f : α → Except ε β} {b : β} :
    (x >>= f) = .ok b ↔ ∃ a, x = .ok a ∧ f a = .ok b := by
  cases x with
  | error e => exact ⟨fun h => (by cases h), fun ⟨_, h, _⟩ => (by cases h)⟩
  | ok a => exact ⟨fun h => ⟨a, rfl, h⟩, fun ⟨_, h, hf⟩ => (by cases h; exact hf)⟩

theorem mapError_eq_ok {ε ε' α : Type} {x : Except ε α} {f : ε → ε'} {a : α} :
    x.mapError f = .ok a ↔ x = .ok a := by
  cases x <;> simp [Except.mapError]

/-! ### Settings by name -/

/-- The value of a setting, whatever its type. -/
inductive Setting where
  | text (s : String)
  | flag (b : Bool)
  | budget (b : Budget)
  | texts (xs : List String)
  deriving Repr

/-- The project's settings, by the names project files give them. -/
def Project.setting (p : Project) (k : String) : Option Setting :=
  [("name", .text p.name), ("build_root", .text p.buildRoot),
   ("test_file_prefix", .text p.testFilePrefix), ("mock_prefix", .text p.mockPrefix),
   ("use_mocks", .flag p.useMocks), ("use_test_preprocessor", .flag p.useTestPreprocessor),
   ("use_exceptions", .flag p.useExceptions), ("use_assembly", .flag p.useAssembly),
   ("clean_on_config_change", .flag p.cleanOnConfigChange),
   ("compile_threads", .budget p.compileThreads), ("test_threads", .budget p.testThreads)].lookup k

/-- The path specs, by the names project files give them. -/
def Paths.setting (p : Paths) (k : String) : Option Setting :=
  [("test", .texts p.test), ("source", .texts p.source), ("include", .texts p.includes),
   ("support", .texts p.support), ("libraries", .texts p.libraries)].lookup k

/-- The extensions, by the names project files give them. -/
def Extensions.setting (e : Extensions) (k : String) : Option Setting :=
  [("source", .text e.source), ("header", .text e.header), ("assembly", .text e.assembly),
   ("object", .text e.object), ("executable", .text e.executable),
   ("dependencies", .text e.dependencies), ("testpass", .text e.testPass),
   ("testfail", .text e.testFail)].lookup k

/-- The framework directories, by the names project files give them. -/
def Vendor.setting (v : Vendor) (k : String) : Option Setting :=
  [("unity", .text v.unity), ("cmock", .text v.cmock), ("c_exception", .text v.cexception)].lookup k

/-- Two views with the same names agree at `k` when their entries named `k` do. -/
theorem lookup_eq_of_forall₂ {β : Type} {xs ys : List (String × β)} {k : String}
    (h : List.Forall₂ (fun e f => e.1 = f.1 ∧ (e.1 = k → e.2 = f.2)) xs ys) :
    xs.lookup k = ys.lookup k := by
  induction h with
  | nil => rfl
  | @cons e f _ _ hef _ ih =>
    obtain ⟨a, v⟩ := e
    obtain ⟨b, w⟩ := f
    obtain ⟨rfl, hv⟩ := hef
    rw [lookup_cons_eq, lookup_cons_eq, ih]
    by_cases hk : k = a
    · rw [if_pos hk, if_pos hk]
      exact congrArg some (hv hk.symm)
    · rw [if_neg hk, if_neg hk]

end TestRig.Config
