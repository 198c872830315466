import TestRig.App.Run
import TestRig.Proofs.Sections

/-!
# Setting the build environment

The environment module sets its entries in order: each entry's values are expanded with the
values of the entries before it visible under `env`, and joined by spaces, and the variable is
set to the result. `SetsInOrder` states this for a run of calls, entry by entry, and
`setEntries_cases` says a run sets every entry so, or stops at the first entry that fails.

* `lookup_overlay`, `nodup_overlay`: the variables set bind each name to its last value;
* `apply_sets_entries_once`: the first application sets the entries in order and returns the
  variables set or the first failure; every later application and hook repeats that result and
  sets nothing.
-/

namespace TestRig.App

open TestRig.Config TestRig.Expression

/-! ## The variables a run of calls sets -/

/-- The variables set by `calls` after the variables `applied`: each name bound to its last
value. -/
def overlay (applied calls : List (String × String)) : List (String × String) :=
  calls.foldl (fun s p => setEntry s p.1 p.2) applied

@[simp] lemma overlay_cons (applied : List (String × String)) (p : String × String)
    (calls : List (String × String)) :
    overlay applied (p :: calls) = overlay (setEntry applied p.1 p.2) calls := rfl

/-- A name is bound to the value of its last call. -/
theorem lookup_overlay (calls : List (String × String)) (x : String) :
    (overlay [] calls).lookup x = calls.reverse.lookup x := by
  rw [overlay, lookup_foldl_setEntry (fun _ v => v) (fun _ _ => rfl)]
  cases calls.reverse.lookup x <;> rfl

lemma nodup_setEntry {xs : List (String × String)} (h : (xs.map Prod.fst).Nodup) (k v : String) :
    ((setEntry xs k v).map Prod.fst).Nodup := by
  unfold setEntry
  split
  · -- the name is there: its entry changes in place
    rw [List.map_map]
    convert h using 1
    exact List.map_congr_left fun p _ => by by_cases hp : p.1 = k <;> simp [hp]
  · next hany =>
    simp only [List.map_append, List.map_cons, List.map_nil]
    refine List.nodup_append.2 ⟨h, List.nodup_singleton k, ?_⟩
    simp only [List.mem_singleton, List.mem_map]
    rintro _ ⟨p, hp, rfl⟩ _ rfl hpk
    exact hany (List.any_eq_true.2 ⟨p, hp, by simp [hpk]⟩)

/-- The variables set are a map: no name is bound twice. -/
theorem nodup_overlay {applied : List (String × String)} (h : (applied.map Prod.fst).Nodup)
    (calls : List (String × String)) : ((overlay applied calls).map Prod.fst).Nodup := by
  induction calls generalizing applied with
  | nil => exact h
  | cons p calls ih => exact ih (nodup_setEntry h p.1 p.2)

/-! ## The value of an entry -/

lemma mapM_mapError_eq_ok {ε ε' α β : Type} (f : α → Except ε β) (g : ε → ε') :
    ∀ (xs : List α) (ys : List β),
      xs.mapM (fun x => (f x).mapError g) = .ok ys ↔ xs.mapM f = .ok ys
  | [], ys => by simp [pure, Except.pure]
  | x :: xs, ys => by
    simp only [List.mapM_cons, bind_eq_ok, mapError_eq_ok, mapM_mapError_eq_ok f g xs, pure,
      Except.pure, Except.ok.injEq]

/-- An entry's value is the space-join of the unescaped strings its values expand to, with the
markers read against the snapshot whose environment has the variables `applied` over it. -/
theorem entryValue_eq_ok_iff (snap : Snapshot) (applied : List (String × String)) (e : EnvVar)
    (v : String) :
    entryValue snap applied e = .ok v ↔
      ∃ parts, e.values.mapM (Evaluator.ofSnapshot (snap.withEnv applied)).expand = .ok parts ∧
        v = " ".intercalate (parts.flatten.map unescapeMarkers) := by
  simp only [entryValue, bind_eq_ok, mapM_mapError_eq_ok]
  exact exists_congr fun parts => and_congr_right fun _ => by
    simp [pure, Except.pure, eq_comm]

/-! ## Setting entries in order -/

section Setting

variable (snap : Snapshot) (setenv : String → String → Except String Unit)

/-- The calls `calls` set the first entries of `es` in order, after the variables `applied`: the
`k`-th call sets the `k`-th entry's name, successfully, to the space-join of the unescaped
strings the entry's values expand to with the variables of the calls before it visible. -/
def SetsInOrder (applied : List (String × String)) (es : List EnvVar)
    (calls : List (String × String)) : Prop :=
  calls.length ≤ es.length ∧ ∀ (k : Nat) (e : EnvVar) (p : String × String), es[k]? = some e → calls[k]? = some p →
    p.1 = e.name ∧ setenv p.1 p.2 = .ok () ∧
    ∃ parts, e.values.mapM
        (Evaluator.ofSnapshot (snap.withEnv (overlay applied (calls.take k)))).expand = .ok parts ∧
      p.2 = " ".intercalate (parts.flatten.map unescapeMarkers)

/-- Entry `e` cannot be set after the variables `applied`: its value fails with `f` and nothing
is tried; or setting its variable to the value fails, which `f` reports, after one try. -/
def StopsAt (applied : List (String × String)) (e : EnvVar) (f : Fault)
    (tried : List (String × String)) : Prop :=
  (entryValue snap applied e = .error f ∧ tried = []) ∨
  ∃ v why, entryValue snap applied e = .ok v ∧ setenv e.name v = .error why ∧
    f = .plain ("failed to set environment '" ++ e.name ++ "': " ++ why) ∧ tried = [(e.name, v)]

lemma setsInOrder_nil (applied : List (String × String)) (es : List EnvVar) :
    SetsInOrder snap setenv applied es [] := by
  simp [SetsInOrder]

lemma setsInOrder_cons {applied : List (String × String)} {e : EnvVar} {es : List EnvVar}
    {v : String} {calls : List (String × String)} (hv : entryValue snap applied e = .ok v)
    (hset : setenv e.name v = .ok ())
    (h : SetsInOrder snap setenv (setEntry applied e.name v) es calls) :
    SetsInOrder snap setenv applied (e :: es) ((e.name, v) :: calls) := by
  refine ⟨by simpa using h.1, ?_⟩
  rintro (_ | k) e' p he hp
  · obtain ⟨rfl, rfl⟩ : e = e' ∧ (e.name, v) = p := ⟨by simpa using he, by simpa using hp⟩
    exact ⟨rfl, hset, (entryValue_eq_ok_iff snap applied e v).1 hv⟩
  · simpa using h.2 k e' p (by simpa using he) (by simpa using hp)

/-- **A run of `setEntries`**: it sets every entry in order and returns the variables set, or it
sets the entries before one in order and stops at that one. -/
theorem setEntries_cases (applied : List (String × String)) (es : List EnvVar) :
    (∃ calls, calls.length = es.length ∧ SetsInOrder snap setenv applied es calls ∧
      setEntries snap setenv applied es = (.ok (overlay applied calls), calls)) ∨
    ∃ done e f tried, SetsInOrder snap setenv applied es done ∧ es[done.length]? = some e ∧
      StopsAt snap setenv (overlay applied done) e f tried ∧
      setEntries snap setenv applied es = (.error f, done ++ tried) := by
  induction es generalizing applied with
  | nil => exact .inl ⟨[], rfl, setsInOrder_nil .., rfl⟩
  | cons e es ih =>
    cases hv : entryValue snap applied e with
    | error f =>
      exact .inr ⟨[], e, f, [], setsInOrder_nil .., rfl, .inl ⟨hv, rfl⟩, by simp [setEntries, hv]⟩
    | ok v =>
      cases hset : setenv e.name v with
      | error why =>
        exact .inr ⟨[], e, _, _, setsInOrder_nil .., rfl, .inr ⟨v, why, hv, hset, rfl, rfl⟩,
          by simp [setEntries, hv, hset]⟩
      | ok u =>
        -- the first entry is set: the rest runs after it, each call behind the first
        have hrun : ∀ r calls, setEntries snap setenv (setEntry applied e.name v) es = (r, calls) →
            setEntries snap setenv applied (e :: es) = (r, (e.name, v) :: calls) := by
          intro r calls h
          simp [setEntries, hv, hset, h]
        have hset' : setenv e.name v = .ok () := hset
        rcases ih (setEntry applied e.name v) with ⟨calls, hlen, hsets, hcalls⟩ |
          ⟨done, e', f, tried, hsets, he', hstop, hdone⟩
        · exact .inl ⟨(e.name, v) :: calls, by simpa using hlen,
            setsInOrder_cons snap setenv hv hset' hsets, hrun _ _ hcalls⟩
        · exact .inr ⟨(e.name, v) :: done, e', f, tried, setsInOrder_cons snap setenv hv hset' hsets,
            by simpa using he', hstop, hrun _ _ hdone⟩

end Setting

/-! ## Applying once -/

namespace EnvironmentModule

lemma apply_of_result {m : EnvironmentModule} {r : Except Fault (List (String × String))}
    (h : m.result = some r) : m.apply = (r, m) := by
  simp [apply, h]

lemma apply_of_fresh {m : EnvironmentModule} (h : m.result = none) :
    m.apply.1 = (setEntries m.snapshot m.setenv [] m.entries).1 ∧
      m.apply.2.calls = m.calls ++ (setEntries m.snapshot m.setenv [] m.entries).2 ∧
      m.apply.2.result = some m.apply.1 := by
  simp [apply, h]

/-- Applying again gives the result of the first application and changes nothing. -/
theorem apply_apply (m : EnvironmentModule) : m.apply.2.apply = m.apply := by
  cases h : m.result with
  | none => exact apply_of_result (apply_of_fresh h).2.2
  | some r => rw [apply_of_result h, apply_of_result h]

lemma preBuild_eq (m : EnvironmentModule) : m.preBuild = (m.apply.1.map fun _ => (), m.apply.2) :=
  rfl

/-- **Applying the environment.** A module not yet applied sets its entries in order, each to the
space-join of the unescaped strings its values expand to with the entries before it visible,
and returns the variables set, each name bound to the value of its last entry; or it stops at
the first entry that fails and returns that failure. Every later application, and the hook
before the build, gives that result again and sets nothing. -/
theorem apply_sets_entries_once (m : EnvironmentModule) (hfresh : m.result = none) :
    ((∃ calls, calls.length = m.entries.length ∧
        SetsInOrder m.snapshot m.setenv [] m.entries calls ∧
        m.apply.2.calls = m.calls ++ calls ∧
        ∃ applied, m.apply.1 = .ok applied ∧ (applied.map Prod.fst).Nodup ∧
          ∀ x, applied.lookup x = calls.reverse.lookup x) ∨
      ∃ done e f tried, SetsInOrder m.snapshot m.setenv [] m.entries done ∧
        m.entries[done.length]? = some e ∧
        StopsAt m.snapshot m.setenv (overlay [] done) e f tried ∧
        m.apply.2.calls = m.calls ++ (done ++ tried) ∧ m.apply.1 = .error f) ∧
    m.apply.2.apply = m.apply ∧
    m.apply.2.preBuild = (m.apply.1.map fun _ => (), m.apply.2) ∧
    m.preBuild = (m.apply.1.map fun _ => (), m.apply.2) := by
  obtain ⟨hr, hcalls, -⟩ := apply_of_fresh hfresh
  refine ⟨?_, apply_apply m, by rw [preBuild_eq, apply_apply], preBuild_eq m⟩
  rcases setEntries_cases m.snapshot m.setenv [] m.entries with
    ⟨calls, hlen, hsets, hrun⟩ | ⟨done, e, f, tried, hsets, he, hstop, hrun⟩
  · rw [hrun] at hr hcalls
    exact .inl ⟨calls, hlen, hsets, hcalls, _, hr, nodup_overlay (by simp) calls,
      lookup_overlay calls⟩
  · rw [hrun] at hr hcalls
    exact .inr ⟨done, e, f, tried, hsets, he, hstop, hcalls, hr⟩

/-- A module that sets one variable applies once. -/
theorem one_entry_applies_once :
    ({ entries := [⟨"GREETING", ["hello"]⟩], snapshot := default, setenv := fun _ _ => .ok () } :
      EnvironmentModule).result = none ∧
    ({ entries := [⟨"GREETING", ["hello"]⟩], snapshot := default, setenv := fun _ _ => .ok () } :
      EnvironmentModule).apply.2.apply =
    ({ entries := [⟨"GREETING", ["hello"]⟩], snapshot := default, setenv := fun _ _ => .ok () } :
      EnvironmentModule).apply :=
  ⟨rfl, (apply_sets_entries_once _ rfl).2.1⟩

end EnvironmentModule

end TestRig.App
