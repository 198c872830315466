import TestRig.Files.Locate
import TestRig.Proofs.Sections
import Mathlib

/-!
# Locating a file by name

An index files every path it is given once, under its base name. A name stands for the indexed
paths under its own base name that are the cleaned name or end with it after a slash; with
several, the one whose directory shares the most leading directory names with the reference
wins, and a tie for the most is ambiguous.

* `bucket_ofLists`: the paths filed under a base name are the indexed paths with that base name,
  in the order given, each once;
* `mem_candidates`, `nodup_candidates`: the candidates of a name are the indexed paths it may
  stand for, each once;
* `Leads`, `leads_foldl`: the search for the best candidate keeps the first candidate with the
  highest score and notes whether another one reached it;
* `locate_picks_unique_best`: locating a name gives the only candidate with the most shared
  directory names, and fails naming the test and the name when there is no candidate or the
  most is shared; an optional reference gives the same path or none.
-/

namespace TestRig.Files

open TestRig.Config (lookup_cons_eq lookup_map_set)

/-! ### Shared directory names -/

/-- How many leading directory names a path's directory shares with the reference's. -/
def sharedDirs (reference c : String) : Nat :=
  commonPrefixLength (segments (Path.dir c)) (segments (Path.dir reference))

/-! ### The index -/

/-- The paths of some lists, each once, in the order in which they first appear. -/
def indexedFiles (lists : List (List String)) : List String :=
  lists.flatten.foldl (fun acc p => if acc.contains p then acc else acc ++ [p]) []

/-- Files a path under its base name, after the paths filed there before it. -/
def fileUnder (acc : List (String × List String)) (p : String) : List (String × List String) :=
  match acc.lookup (Path.base p) with
  | some ps => acc.map fun (k, v) => if k == Path.base p then (k, ps ++ [p]) else (k, v)
  | none => acc ++ [(Path.base p, [p])]

lemma ofLists_byBase (lists : List (List String)) :
    (FileIndex.ofLists lists).byBase = (indexedFiles lists).foldl fileUnder [] := rfl

/-- The paths filed under a base name. -/
def bucket (acc : List (String × List String)) (b : String) : List String := (acc.lookup b).getD []

lemma nodup_foldl_addNew (xs acc : List String) (h : acc.Nodup) :
    (xs.foldl (fun acc p => if acc.contains p then acc else acc ++ [p]) acc).Nodup := by
  induction xs generalizing acc with
  | nil => exact h
  | cons x xs ih =>
    rw [List.foldl_cons]
    apply ih
    split
    · exact h
    · next hx =>
      have hx : x ∉ acc := by simpa using hx
      refine List.nodup_append.mpr ⟨h, by simp, ?_⟩
      intro a ha b hb
      rw [List.mem_singleton] at hb
      subst hb
      exact fun he => hx (he ▸ ha)

lemma mem_foldl_addNew (xs acc : List String) (p : String) :
    p ∈ xs.foldl (fun acc p => if acc.contains p then acc else acc ++ [p]) acc ↔ p ∈ acc ∨ p ∈ xs := by
  induction xs generalizing acc with
  | nil => simp
  | cons x xs ih =>
    rw [List.foldl_cons, ih]
    split
    · next hx =>
      have hx : x ∈ acc := by simpa using hx
      constructor
      · rintro (h | h)
        · exact .inl h
        · exact .inr (List.mem_cons_of_mem x h)
      · rintro (h | h)
        · exact .inl h
        · rcases List.mem_cons.mp h with rfl | h
          · exact .inl hx
          · exact .inr h
    · simp [or_assoc]

lemma nodup_indexedFiles (lists : List (List String)) : (indexedFiles lists).Nodup :=
  nodup_foldl_addNew _ [] List.nodup_nil

lemma mem_indexedFiles (lists : List (List String)) (p : String) :
    p ∈ indexedFiles lists ↔ p ∈ lists.flatten := by
  rw [indexedFiles, mem_foldl_addNew]
  simp

lemma bucket_fileUnder (acc : List (String × List String)) (p b : String) :
    bucket (fileUnder acc p) b = bucket acc b ++ (if Path.base p = b then [p] else []) := by
  unfold fileUnder
  split
  · next ps hps =>
    have hmap : (acc.map fun (k, v) => if k == Path.base p then (k, ps ++ [p]) else (k, v)) =
        acc.map fun e => if e.1 == Path.base p then (Path.base p, ps ++ [p]) else e := by
      apply List.map_congr_left
      rintro ⟨k, v⟩ -
      by_cases hk : k = Path.base p <;> simp [hk]
    have hany : acc.any (·.1 == Path.base p) = true := by
      have hmem : Path.base p ∈ acc.map (·.1) := by
        by_contra hn
        rw [← TestRig.Config.lookup_eq_none_iff_not_mem] at hn
        simp [hn] at hps
      simpa using hmem
    simp only [bucket, hmap, lookup_map_set, hany, and_true]
    by_cases hb : b = Path.base p
    · subst hb
      simp [hps]
    · simp [hb, Ne.symm hb]
  · next hnone =>
    simp only [bucket, List.lookup_append]
    by_cases hb : Path.base p = b
    · subst hb
      simp [hnone]
    · simp [hb, lookup_cons_eq, Ne.symm hb]

lemma bucket_foldl_fileUnder (files : List String) (acc : List (String × List String)) (b : String) :
    bucket (files.foldl fileUnder acc) b = bucket acc b ++ files.filter (Path.base · = b) := by
  induction files generalizing acc with
  | nil => simp
  | cons p files ih =>
    rw [List.foldl_cons, ih, bucket_fileUnder, List.filter_cons]
    by_cases hb : Path.base p = b <;> simp [hb]

/-- The paths filed under a base name are the indexed paths with that base name, in the order
given. -/
theorem bucket_ofLists (lists : List (List String)) (b : String) :
    ((FileIndex.ofLists lists).byBase.lookup b).getD [] =
      (indexedFiles lists).filter (Path.base · = b) := by
  rw [ofLists_byBase]
  exact (bucket_foldl_fileUnder _ [] b).trans (by simp [bucket])

/-! ### The candidates of a name -/

/-- The indexed paths a name may stand for: those with its base name that are the cleaned name
or end with it after a slash. -/
def Candidate (lists : List (List String)) (name c : String) : Prop :=
  c ∈ lists.flatten ∧ Path.base c = Path.base name ∧
    (c = Path.clean name ∨ c.endsWith ("/" ++ Path.clean name) = true)

lemma candidates_ofLists (lists : List (List String)) (name : String) :
    (FileIndex.ofLists lists).candidates name =
      ((indexedFiles lists).filter (Path.base · = Path.base name)).filter fun c =>
        c == Path.clean name || c.endsWith ("/" ++ Path.clean name) := by
  rw [FileIndex.candidates, bucket_ofLists]

theorem mem_candidates (lists : List (List String)) (name c : String) :
    c ∈ (FileIndex.ofLists lists).candidates name ↔ Candidate lists name c := by
  rw [candidates_ofLists, List.mem_filter, List.mem_filter, mem_indexedFiles]
  simp [Candidate, and_assoc]

theorem nodup_candidates (lists : List (List String)) (name : String) :
    ((FileIndex.ofLists lists).candidates name).Nodup := by
  rw [candidates_ofLists]
  exact ((nodup_indexedFiles lists).filter _).filter _

/-! ### The best candidate -/

section Best

variable (sc : String → Nat)

/-- `p` is the only candidate with the highest score. -/
def IsUniqueBest (M : String → Prop) (p : String) : Prop :=
  M p ∧ ∀ q, M q → q ≠ p → sc q < sc p

/-- Two candidates share the highest score. -/
def SharedBest (M : String → Prop) : Prop :=
  ∃ p q, M p ∧ M q ∧ p ≠ q ∧ sc p = sc q ∧ ∀ r, M r → sc r ≤ sc p

/-- One step of the search for the best candidate: a higher score takes the lead and clears the
tie, an equal one marks a tie. -/
def leadStep : String × Int × Bool → String → String × Int × Bool
  | (best, score, tie), cand =>
    let s : Int := sc cand
    if s > score then (cand, s, false)
    else if s == score then (best, score, true)
    else (best, score, tie)

lemma bestCandidate_eq (refDir cands : List String) :
    bestCandidate refDir cands =
      let r := cands.foldl (leadStep fun c => commonPrefixLength (segments (Path.dir c)) refDir)
        ("", -1, false)
      (r.1, r.2.2) := rfl

/-- The state of the search after the candidates `xs`: the first of them with the highest
score, that score, and whether another one reached it too. -/
structure Leads (xs : List String) (st : String × Int × Bool) : Prop where
  mem : st.1 ∈ xs
  score_eq : st.2.1 = sc st.1
  le_score : ∀ q ∈ xs, (sc q : Int) ≤ st.2.1
  tie_iff : st.2.2 = true ↔ ∃ q ∈ xs, q ≠ st.1 ∧ (sc q : Int) = st.2.1

variable {sc}

lemma leads_first (c : String) : Leads sc [c] (leadStep sc ("", -1, false) c) := by
  have hpos : (sc c : Int) > -1 := by omega
  simp only [leadStep, hpos, if_true]
  exact ⟨by simp, rfl, by simp, by simp⟩

lemma Leads.step {xs : List String} {st : String × Int × Bool} {c : String}
    (h : Leads sc xs st) (hc : c ∉ xs) : Leads sc (xs ++ [c]) (leadStep sc st c) := by
  obtain ⟨best, score, tie⟩ := st
  obtain ⟨hmem, hscore, hle, htie⟩ := h
  simp only at hmem hscore hle htie
  have hne : c ≠ best := fun h => hc (h ▸ hmem)
  simp only [leadStep]
  split
  · next hgt =>
    -- `c` takes the lead alone
    refine ⟨by simp, rfl, fun q hq => ?_, ?_⟩
    · rcases List.mem_append.mp hq with hq | hq
      · have := hle q hq
        dsimp only
        omega
      · simp_all
    · simp only [Bool.false_eq_true, false_iff, not_exists, not_and]
      intro q hq hqc hsc
      rcases List.mem_append.mp hq with hq | hq
      · have := hle q hq; omega
      · simp_all
  · split
    · next hle' heq =>
      -- `c` reaches the lead: a tie
      have heq : (sc c : Int) = score := by simpa using heq
      refine ⟨by simp [hmem], hscore, fun q hq => ?_, ?_⟩
      · rcases List.mem_append.mp hq with hq | hq
        · exact hle q hq
        · simp_all
      · simp only [true_iff]
        exact ⟨c, by simp, hne, heq⟩
    · next hle' hneq =>
      -- `c` stays behind
      have hlt : (sc c : Int) < score := by
        have : (sc c : Int) ≠ score := by simpa using hneq
        omega
      refine ⟨by simp [hmem], hscore, fun q hq => ?_, ?_⟩
      · rcases List.mem_append.mp hq with hq | hq
        · exact hle q hq
        · simp only [List.mem_singleton] at hq; subst hq; dsimp only; omega
      · simp only at htie ⊢
        rw [htie]
        constructor
        · rintro ⟨q, hq, hqb, hsc⟩
          exact ⟨q, List.mem_append_left _ hq, hqb, hsc⟩
        · rintro ⟨q, hq, hqb, hsc⟩
          rcases List.mem_append.mp hq with hq | hq
          · exact ⟨q, hq, hqb, hsc⟩
          · simp only [List.mem_singleton] at hq; subst hq; omega

lemma leads_foldl {xs ys : List String} {st : String × Int × Bool} (h : Leads sc xs st)
    (hnd : (xs ++ ys).Nodup) : Leads sc (xs ++ ys) (ys.foldl (leadStep sc) st) := by
  induction ys generalizing xs st with
  | nil => simpa using h
  | cons y ys ih =>
    have hy : y ∉ xs := fun hy => (List.nodup_append.mp hnd).2.2 y hy y (by simp) rfl
    have := ih (h.step hy) (by simpa using hnd)
    simpa using this

/-- The search over distinct candidates ends in the state they lead to. -/
theorem leads_search {c : String} {cs : List String} (hnd : (c :: cs).Nodup) :
    Leads sc (c :: cs) ((c :: cs).foldl (leadStep sc) ("", -1, false)) := by
  rw [List.foldl_cons]
  exact leads_foldl (leads_first c) (by simpa using hnd)

lemma Leads.isUniqueBest {xs : List String} {st : String × Int × Bool} (h : Leads sc xs st)
    (ht : st.2.2 = false) : IsUniqueBest sc (· ∈ xs) st.1 := by
  refine ⟨h.mem, fun q hq hqb => ?_⟩
  have hle := h.le_score q hq
  have hne : (sc q : Int) ≠ st.2.1 := fun heq => by
    have := h.tie_iff.mpr ⟨q, hq, hqb, heq⟩
    simp_all
  have := h.score_eq
  omega

lemma Leads.sharedBest {xs : List String} {st : String × Int × Bool} (h : Leads sc xs st)
    (ht : st.2.2 = true) : SharedBest sc (· ∈ xs) := by
  obtain ⟨q, hq, hqb, hsc⟩ := h.tie_iff.mp ht
  have hscore := h.score_eq
  refine ⟨st.1, q, h.mem, hq, Ne.symm hqb, by omega, fun r hr => ?_⟩
  have := h.le_score r hr
  omega

lemma not_isUniqueBest_of_sharedBest {M : String → Prop} (h : SharedBest sc M) (p : String) :
    ¬IsUniqueBest sc M p := by
  obtain ⟨a, b, ha, hb, hab, hsc, hmax⟩ := h
  rintro ⟨hp, hbest⟩
  by_cases hap : a = p
  · subst hap
    have := hbest b hb (Ne.symm hab)
    omega
  · have := hbest a ha hap
    have := hmax p hp
    omega

lemma isUniqueBest_unique {M : String → Prop} {p q : String} (hp : IsUniqueBest sc M p)
    (hq : IsUniqueBest sc M q) : p = q := by
  by_contra hpq
  have h1 := hp.2 q hq.1 (Ne.symm hpq)
  have h2 := hq.2 p hp.1 hpq
  omega

end Best

/-! ### Locating -/

/-- **Locating a name among distinct candidates**, by the cases of the candidate list. -/
theorem FileIndex.locate_spec (x : FileIndex) (owner name reference : String)
    (hnd : (x.candidates name).Nodup) :
    (∀ p, x.locate owner name reference .error = .ok p ↔
        IsUniqueBest (sharedDirs reference) (· ∈ x.candidates name) p) ∧
    (x.candidates name = [] →
      x.locate owner name reference .error = .error (.graph owner name "file not found")) ∧
    (SharedBest (sharedDirs reference) (· ∈ x.candidates name) →
      x.locate owner name reference .error = .error
        (.graph owner name ("ambiguous, candidates: " ++ ", ".intercalate (x.candidates name)))) ∧
    x.locate owner name reference .ignore =
      .ok ((x.locate owner name reference .error).toOption.getD "") := by
  rcases hc : x.candidates name with _ | ⟨c, _ | ⟨d, rest⟩⟩
  · -- no candidate
    simp [FileIndex.locate, hc, IsUniqueBest, SharedBest, Except.toOption]
  · -- a single candidate is the best alone
    refine ⟨fun p => ?_, by simp, fun ⟨a, b, ha, hb, hab, _⟩ => ?_, ?_⟩
    · simp only [FileIndex.locate, hc, Except.ok.injEq, IsUniqueBest, List.mem_singleton]
      constructor
      · rintro rfl
        exact ⟨rfl, fun q hq hqp => absurd hq hqp⟩
      · rintro ⟨rfl, -⟩
        rfl
    · simp only [List.mem_singleton] at ha hb
      exact absurd (ha.trans hb.symm) hab
    · simp [FileIndex.locate, hc, Except.toOption]
  · -- several candidates: the search decides
    rw [hc] at hnd
    have hl := @leads_search (sharedDirs reference) _ _ hnd
    generalize hr : (c :: d :: rest).foldl (leadStep (sharedDirs reference)) ("", -1, false) = r
      at hl
    have hloc : ∀ policy, x.locate owner name reference policy =
        if !r.2.2 then .ok r.1 else if policy == .ignore then .ok ""
        else .error (.graph owner name ("ambiguous, candidates: " ++
          ", ".intercalate (c :: d :: rest))) := by
      intro policy
      simp only [FileIndex.locate, hc, bestCandidate_eq]
      rw [show (c :: d :: rest).foldl (leadStep fun c =>
          commonPrefixLength (segments (Path.dir c)) (segments (Path.dir reference)))
          ("", -1, false) = r from hr]
    cases ht : r.2.2
    · -- no tie: the leader is the only best
      have hbest := hl.isUniqueBest ht
      refine ⟨fun p => ?_, by simp, fun hs => absurd hbest (not_isUniqueBest_of_sharedBest hs _), ?_⟩
      · simp only [hloc, ht, Bool.not_false, if_true, Except.ok.injEq]
        exact ⟨fun h => h ▸ hbest, fun h => isUniqueBest_unique hbest h⟩
      · simp [hloc, ht, Except.toOption]
    · -- a tie: the most is shared
      have hshared := hl.sharedBest ht
      refine ⟨fun p => ?_, by simp, fun _ => by simp [hloc, ht], by simp [hloc, ht, Except.toOption]⟩
      have hpolicy : (Policy.error == Policy.ignore) = false := rfl
      simp only [hloc, ht, hpolicy, Bool.not_true, Bool.false_eq_true, if_false, reduceCtorEq,
        false_iff]
      exact not_isUniqueBest_of_sharedBest hshared p

/-- **Locating a file among indexed paths.** Locating a name gives `p` exactly when `p` is the
only candidate of the name whose directory shares the most leading names with the reference's;
it fails as not found, or as ambiguous when the most is shared, naming the test and the name;
an optional reference gives the same path, or none. -/
theorem locate_picks_unique_best (lists : List (List String)) (owner name reference : String) :
    (∀ p, (FileIndex.ofLists lists).locate owner name reference .error = .ok p ↔
        IsUniqueBest (sharedDirs reference) (Candidate lists name) p) ∧
    ((∀ c, ¬Candidate lists name c) →
      (FileIndex.ofLists lists).locate owner name reference .error =
        .error (.graph owner name "file not found")) ∧
    (SharedBest (sharedDirs reference) (Candidate lists name) →
      ∃ cands, cands.Nodup ∧ (∀ c, c ∈ cands ↔ Candidate lists name c) ∧
        (FileIndex.ofLists lists).locate owner name reference .error =
          .error (.graph owner name ("ambiguous, candidates: " ++ ", ".intercalate cands))) ∧
    (FileIndex.ofLists lists).locate owner name reference .ignore =
      .ok (((FileIndex.ofLists lists).locate owner name reference .error).toOption.getD "") := by
  have hM : (· ∈ (FileIndex.ofLists lists).candidates name) = Candidate lists name :=
    funext fun c => propext (mem_candidates lists name c)
  obtain ⟨hok, hnone, hshared, hignore⟩ :=
    (FileIndex.ofLists lists).locate_spec owner name reference (nodup_candidates lists name)
  rw [hM] at hok hshared
  refine ⟨hok, fun hno => hnone ?_, fun hs => ⟨_, nodup_candidates lists name,
    mem_candidates lists name, hshared hs⟩, hignore⟩
  exact List.eq_nil_iff_forall_not_mem.mpr fun c hc => hno c ((mem_candidates lists name c).mp hc)

end TestRig.Files
