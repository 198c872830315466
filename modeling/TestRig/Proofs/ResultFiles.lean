import TestRig.Results.File
import TestRig.Proofs.TextScan
import Mathlib

/-!
# Result files: one verdict on disk

A result is written at the test's pass path or fail path, by whether it passed, and the file at
the other path is removed, a missing one being no failure. When the two paths name different
files, a write that succeeds leaves exactly the current verdict
(`write_keeps_one_result_file`): the path written is the pass path exactly when the result
passed, the file there holds the result's text and reads back as the result whenever its text
decodes to it, and the other path does not exist. With one path for both, the removal deletes
the result just written (`write_same_paths_removes_result`).

The argument rests on the shape of resolved paths. From a rooted working directory a path
resolves to the root and non-empty elements without slashes (`resolve_eq_root_intercalate`),
so each proper ancestor is a prefix of it ended by a slash
(`resolve_eq_append_of_mem_ancestors`). Writing a file then leaves its ancestors as they were,
and removing a directory above a file fails as not empty (`write_then_remove`).
-/

namespace TestRig.Path

open TestRig.Text

lemma mem_resolveElems {rooted : Bool} {l acc : List (List Char)} {e : List Char}
    (he : e ∈ resolveElems rooted l acc) : e ∈ acc ∨ (e ∈ l ∧ e ≠ []) := by
  -- every element comes from the accumulator or is a non-empty element of the input
  fun_induction resolveElems rooted l acc with
  | case1 acc => exact .inl (List.mem_reverse.1 he)
  | case2 _ _ _ _ ih | case3 _ _ _ _ _ _ _ ih | case4 _ _ _ _ _ _ _ ih | case5 _ _ _ _ _ ih
  | case6 _ _ _ _ _ ih | case7 _ _ _ _ _ ih =>
    have := ih he
    grind

lemma cleanChars_of_rooted {p : List Char} (hp : p.head? = some '/') :
    ∃ E : List (List Char), (∀ e ∈ E, e ≠ [] ∧ '/' ∉ e) ∧
      cleanChars p = '/' :: ['/'].intercalate E := by
  refine ⟨resolveElems true (splitOn p ['/']) [], fun e he => ?_, ?_⟩
  · rcases mem_resolveElems he with h | ⟨h, hne⟩
    · simp at h
    · rw [splitOn_single] at h
      exact ⟨hne, not_mem_of_mem_splitOn h⟩
  · simp [cleanChars, hp, joinWith_eq_intercalate]

end TestRig.Path

namespace TestRig.Files

open TestRig.Text

lemma string_rooted_of_chars {E : List (List Char)} (hE : ∀ e ∈ E, e ≠ [] ∧ '/' ∉ e) :
    ∃ E' : List String, (∀ e ∈ E', e ≠ "" ∧ '/' ∉ e.toList) ∧
      String.ofList ('/' :: ['/'].intercalate E) = "/" ++ "/".intercalate E' := by
  refine ⟨E.map String.ofList, by simpa using hE, ?_⟩
  rw [← String.toList_inj]
  simp [String.toList_intercalate]

namespace Tree

lemma ancestors_root_intercalate {E : List String} (hE : ∀ e ∈ E, e ≠ "" ∧ '/' ∉ e.toList) :
    ancestors ("/" ++ "/".intercalate E) =
      (List.range (E.length - 1)).map fun i => "/" ++ "/".intercalate (E.take (i + 1)) := by
  by_cases hne : E = []
  · subst hne
    rfl
  have hchars : ("/" ++ "/".intercalate E).toList = ['/'].intercalate ([] :: E.map String.toList) := by
    rw [List.intercalate_cons_of_ne_nil (by simpa using hne)]
    simp [String.toList_intercalate]
  have hsplit : splitOn ("/" ++ "/".intercalate E).toList ['/'] = [] :: E.map String.toList := by
    rw [splitOn_single, hchars, List.splitOn_intercalate]
    · simpa using fun e he => (hE e he).2
    · simp
  have hparts : ((splitOn ("/" ++ "/".intercalate E).toList ['/']).map String.ofList).filter (· ≠ "") = E := by
    rw [hsplit]
    simpa using fun e he => (hE e he).1
  simp only [ancestors, hparts]

lemma eq_append_of_mem_ancestors {E : List String} (hE : ∀ e ∈ E, e ≠ "" ∧ '/' ∉ e.toList)
    {a : String} (ha : a ∈ ancestors ("/" ++ "/".intercalate E)) :
    ∃ rest, "/" ++ "/".intercalate E = a ++ "/" ++ rest := by
  rw [ancestors_root_intercalate hE] at ha
  obtain ⟨i, hi, rfl⟩ := List.mem_map.1 ha
  simp only [List.mem_range] at hi
  refine ⟨"/".intercalate (E.drop (i + 1)), ?_⟩
  conv_lhs => rw [← List.take_append_drop (i + 1) E]
  rw [String.intercalate_append_of_ne_nil (List.ne_nil_of_length_pos (by simp; omega))
    (List.ne_nil_of_length_pos (by simp; omega))]
  simp only [String.append_assoc]

lemma resolve_eq_root_intercalate {t : Tree} (hcwd : Path.isAbs t.cwd = true) (p : String) :
    ∃ E : List String, (∀ e ∈ E, e ≠ "" ∧ '/' ∉ e.toList) ∧ t.resolve p = "/" ++ "/".intercalate E := by
  have hhead : ∀ q : String, Path.isAbs q = true → q.toList.head? = some '/' := by
    intro q hq
    unfold Path.isAbs at hq
    cases h : q.toList with
    | nil => simp [h, startsWith] at hq
    | cons c r => simp_all [startsWith]
  have hclean : ∀ q : String, q.toList.head? = some '/' →
      ∃ E : List String, (∀ e ∈ E, e ≠ "" ∧ '/' ∉ e.toList) ∧ Path.clean q = "/" ++ "/".intercalate E := by
    intro q hq
    obtain ⟨E, hE, hc⟩ := Path.cleanChars_of_rooted hq
    rw [Path.clean, hc]
    exact string_rooted_of_chars hE
  unfold resolve
  split
  · exact hclean p (hhead p ‹_›)
  · exact hclean _ (by simp [List.head?_append, hhead _ hcwd])

variable {t : Tree}

lemma resolve_eq_append_of_mem_ancestors (hcwd : Path.isAbs t.cwd = true) {p a : String}
    (ha : a ∈ ancestors (t.resolve p)) : ∃ rest, t.resolve p = a ++ "/" ++ rest := by
  obtain ⟨E, hE, he⟩ := resolve_eq_root_intercalate hcwd p
  rw [he] at ha ⊢
  exact eq_append_of_mem_ancestors hE ha

lemma ne_of_mem_ancestors_resolve (hcwd : Path.isAbs t.cwd = true) {p a : String}
    (ha : a ∈ ancestors (t.resolve p)) : a ≠ t.resolve p := by
  obtain ⟨rest, he⟩ := resolve_eq_append_of_mem_ancestors hcwd ha
  intro hap
  have hlen := congrArg String.length he
  have hslash : "/".length = 1 := rfl
  simp only [String.length_append, ← hap] at hlen
  omega

lemma isUnder_of_mem_ancestors_resolve (hcwd : Path.isAbs t.cwd = true) {p a : String}
    (ha : a ∈ ancestors (t.resolve p)) : isUnder a (t.resolve p) = true := by
  obtain ⟨rest, he⟩ := resolve_eq_append_of_mem_ancestors hcwd ha
  have hpre : ∃ x, (t.resolve p).toList = (if a == "/" then "/" else a ++ "/").toList ++ x := by
    split
    · next hroot => exact ⟨("/" ++ rest).toList, by simp [he, beq_iff_eq.1 hroot]⟩
    · exact ⟨rest.toList, by simp [he]⟩
  obtain ⟨x, hx⟩ := hpre
  simp [isUnder, hx, startsWith_append]

lemma isUnder_root_resolve (hcwd : Path.isAbs t.cwd = true) (p : String) :
    isUnder "/" (t.resolve p) = true := by
  obtain ⟨E, hE, he⟩ := resolve_eq_root_intercalate hcwd p
  simp [isUnder, he, startsWith]

@[simp] lemma nodeAt_root : t.nodeAt "/" = some .dir := rfl

lemma find?_filter_path_ne {abs q : String} (h : q ≠ abs) (l : List (String × Node)) :
    (l.filter (·.1 != abs)).find? (·.1 == q) = l.find? (·.1 == q) := by
  induction l with
  | nil => rfl
  | cons x l ih =>
    obtain ⟨k, v⟩ := x
    by_cases hk : k = abs
    · subst hk
      simp [ih, Ne.symm h]
    · by_cases hq : k = q
      · subst hq
        simp [hk]
      · simp [hk, hq, ih]

lemma nodeAt_setNode_self {abs : String} (h : abs ≠ "/") (n : Node) :
    (t.setNode abs n).nodeAt abs = some n := by
  simp [nodeAt, setNode, h]

lemma nodeAt_setNode_of_ne {abs q : String} (h : q ≠ abs) (n : Node) :
    (t.setNode abs n).nodeAt q = t.nodeAt q := by
  simp [nodeAt, setNode, find?_filter_path_ne h, Ne.symm h]

lemma nodeAt_drop_self {abs : String} (h : abs ≠ "/") :
    ({ t with nodes := t.nodes.filter (·.1 != abs) } : Tree).nodeAt abs = none := by
  simp [nodeAt, h]

lemma nodeAt_drop_of_ne {abs q : String} (h : q ≠ abs) :
    ({ t with nodes := t.nodes.filter (·.1 != abs) } : Tree).nodeAt q = t.nodeAt q := by
  simp only [nodeAt, find?_filter_path_ne h]

lemma blockedAncestor_eq_none_iff {abs : String} :
    t.blockedAncestor abs = none ↔ ∀ a ∈ ancestors abs, t.nodeAt a = some .dir := by
  unfold blockedAncestor
  rw [List.findSome?_eq_none_iff]
  refine forall₂_congr fun a _ => ?_
  split <;> simp_all


/-! ### Steps of the file operations -/

lemma resolve_of_cwd {t' : Tree} (h : t'.cwd = t.cwd) (p : String) : t'.resolve p = t.resolve p := by
  simp [resolve, h]

lemma cwd_of_foldlM {f : Tree → String → Except IoError Tree}
    (hf : ∀ t a t', f t a = .ok t' → t'.cwd = t.cwd) (l : List String) {t t' : Tree}
    (h : l.foldlM f t = .ok t') : t'.cwd = t.cwd := by
  induction l generalizing t with
  | nil =>
    cases h
    rfl
  | cons a l ih =>
    rw [List.foldlM_cons] at h
    cases hfa : f t a with
    | error e =>
      rw [hfa] at h
      cases h
    | ok t1 =>
      rw [hfa] at h
      exact (ih h).trans (hf _ _ _ hfa)

lemma cwd_of_mkdirAll {p : String} {t' : Tree} (h : t.mkdirAll p = .ok t') : t'.cwd = t.cwd := by
  refine cwd_of_foldlM (fun t a t' hs => ?_) _ h
  split at hs <;> cases hs <;> rfl

lemma writeFile_eq_ok {p : String} {d : ByteArray} {t' : Tree} (h : t.writeFile p d = .ok t') :
    t.blockedAncestor (t.resolve p) = none ∧ t.resolve p ≠ "/" ∧
      t' = t.setNode (t.resolve p) (.file d) := by
  simp only [writeFile] at h
  split at h
  · cases h
  · next hb =>
    split at h
    · cases h
    · next hnd =>
      cases h
      -- the root is a directory, so a write that got through is not at the root
      exact ⟨hb, fun hr => hnd (hr ▸ nodeAt_root), rfl⟩

lemma remove_eq_ok {p : String} {t' : Tree} (h : t.remove p = .ok t') :
    t.blockedAncestor (t.resolve p) = none ∧
      t' = { t with nodes := t.nodes.filter (·.1 != t.resolve p) } ∧
      ((∃ d, t.nodeAt (t.resolve p) = some (.file d)) ∨
        (t.nodeAt (t.resolve p) = some .dir ∧
          ∀ q ∈ t.nodes, q.1 ≠ t.resolve p → isUnder (t.resolve p) q.1 = false)) := by
  simp only [remove] at h
  split at h
  · cases h
  · next hb =>
    split at h
    · cases h
    · next hfile =>
      cases h
      exact ⟨hb, rfl, .inl ⟨_, hfile⟩⟩
    · next hdir =>
      split at h
      · cases h
      · next hempty =>
        cases h
        refine ⟨hb, rfl, .inr ⟨hdir, fun q hq hne => ?_⟩⟩
        simp only [List.any_eq_true, not_exists, not_and, Bool.and_eq_true, bne_iff_ne] at hempty
        simpa using hempty q hq hne

lemma stat_of_remove_notExist {p : String} {e : IoError} (h : t.remove p = .error e)
    (he : e.errno = .notExist) : t.stat p = .error ⟨"stat", p, .notExist⟩ := by
  simp only [remove] at h
  simp only [stat]
  split at h
  · cases h
    simp_all
  · split at h
    · next hn => simp [hn]
    · cases h
    · split at h
      · cases h
        simp at he
      · cases h

lemma stat_of_missing {p abs : String} (hp : t.resolve p = abs) (hb : t.blockedAncestor abs = none)
    (hn : t.nodeAt abs = none) : t.stat p = .error ⟨"stat", p, .notExist⟩ := by
  simp [stat, hp, hb, hn]

lemma fromUTF8?_toByteArray (s : String) : String.fromUTF8? s.toByteArray = some s := by
  simp [String.fromUTF8?, s.isValidUTF8, String.fromUTF8]

lemma readFile_of_found {p abs : String} {d : ByteArray} (hp : t.resolve p = abs)
    (hb : ∀ a ∈ ancestors abs, t.nodeAt a = some .dir)
    (hn : t.nodeAt abs = some (.file d)) : t.readFile p = .ok d := by
  simp [readFile, hp, blockedAncestor_eq_none_iff.2 hb, hn]

lemma readText_of_readFile {p s : String} (h : t.readFile p = .ok s.toUTF8) :
    t.readText p = .ok s := by
  simp [readText, h, Except.map, fromUTF8?_toByteArray]

lemma write_then_remove (hcwd : Path.isAbs t.cwd = true) {p other : String} {d : ByteArray}
    {t1 t' : Tree} (hne : t.resolve other ≠ t.resolve p) (hwr : t.writeFile p d = .ok t1)
    (hrm : t1.remove other = .ok t' ∨ ∃ e, t1.remove other = .error e ∧ e.errno = .notExist ∧ t' = t1) :
    t'.readFile p = .ok d ∧ t'.stat other = .error ⟨"stat", other, .notExist⟩ := by
  obtain ⟨hb0, hroot, rfl⟩ := writeFile_eq_ok hwr
  -- after the write: the file at its path, every ancestor of it a directory
  have hres : ∀ q, (t.setNode (t.resolve p) (.file d)).resolve q = t.resolve q := fun q => rfl
  have hfile1 : (t.setNode (t.resolve p) (.file d)).nodeAt (t.resolve p) = some (.file d) :=
    nodeAt_setNode_self hroot _
  have hanc1 : ∀ a ∈ ancestors (t.resolve p), (t.setNode (t.resolve p) (.file d)).nodeAt a = some .dir := by
    intro a ha
    rw [nodeAt_setNode_of_ne (ne_of_mem_ancestors_resolve hcwd ha)]
    exact blockedAncestor_eq_none_iff.1 hb0 a ha
  rcases hrm with hrm | ⟨e, hrm, he, rfl⟩
  · obtain ⟨hbO, ht', hkind⟩ := remove_eq_ok hrm
    simp only [hres] at hbO hkind ht'
    -- the path removed is neither the root nor an ancestor of the file written
    have hkept : ∀ a, (a = "/" ∨ a ∈ ancestors (t.resolve p)) → a ≠ t.resolve other := by
      intro a ha hao
      rw [← hao] at hkind
      rcases hkind with ⟨d', hf⟩ | ⟨_, hempty⟩
      · rcases ha with ha | ha
        · rw [ha, nodeAt_root] at hf
          cases hf
        · rw [hanc1 a ha] at hf
          cases hf
      · -- a directory above the file written is not empty
        have hunder := hempty _ List.mem_cons_self (hao ▸ Ne.symm hne)
        rcases ha with ha | ha
        · rw [ha, isUnder_root_resolve hcwd] at hunder
          cases hunder
        · rw [isUnder_of_mem_ancestors_resolve hcwd ha] at hunder
          cases hunder
    -- after the removal: the same tree everywhere but at the path removed
    have hres' : ∀ q, t'.resolve q = t.resolve q := fun q => by rw [ht']; rfl
    have hsame : ∀ q, q ≠ t.resolve other →
        t'.nodeAt q = (t.setNode (t.resolve p) (.file d)).nodeAt q := fun q hq => by
      rw [ht']
      exact nodeAt_drop_of_ne hq
    refine ⟨readFile_of_found (hres' p) (fun a ha => ?_) ?_, stat_of_missing (hres' other) ?_ ?_⟩
    · rw [hsame a (hkept a (.inr ha))]
      exact hanc1 a ha
    · rw [hsame _ (Ne.symm hne)]
      exact hfile1
    · refine blockedAncestor_eq_none_iff.2 fun a ha => ?_
      rw [hsame a (ne_of_mem_ancestors_resolve hcwd ha)]
      exact blockedAncestor_eq_none_iff.1 hbO a ha
    · rw [ht']
      exact nodeAt_drop_self (hkept "/" (.inl rfl)).symm
  · exact ⟨readFile_of_found rfl hanc1 hfile1, stat_of_remove_notExist hrm he⟩

end Tree

end TestRig.Files

namespace TestRig.Results

open TestRig.Files TestRig.Files.Tree

lemma write_eq_ok {r : Result} {passPath failPath path : String} {t t' : Tree}
    (h : r.write passPath failPath t = .ok (path, t')) :
    path = r.pathFor passPath failPath ∧ ∃ t0 t1, t.mkdirAll (Path.dir path) = .ok t0 ∧
      t0.writeText path r.fileText = .ok t1 ∧
      (t1.remove (if path == failPath then passPath else failPath) = .ok t' ∨
        ∃ e, t1.remove (if path == failPath then passPath else failPath) = .error e ∧
          e.errno = .notExist ∧ t' = t1) := by
  unfold Result.write at h
  rcases hs : r.store passPath failPath t with ⟨_ | path', t''⟩
  · rw [hs] at h
    cases h
  · rw [hs] at h
    simp only [Except.ok.injEq, Prod.mk.injEq] at h
    obtain ⟨h1, h2⟩ := h
    subst h1
    subst h2
    unfold Result.store at hs
    dsimp only at hs
    split at hs
    · cases hs
    · next t0 hmk =>
      split at hs
      · cases hs
      · next t1 hwr =>
        split at hs
        · next t2 hrm =>
          simp only [Prod.mk.injEq, Except.ok.injEq] at hs
          obtain ⟨h1, h2⟩ := hs
          subst h1 h2
          exact ⟨rfl, t0, t1, hmk, hwr, .inl hrm⟩
        · next e hrm =>
          split at hs
          · next hmissing =>
            simp only [Prod.mk.injEq, Except.ok.injEq] at hs
            obtain ⟨h1, h2⟩ := hs
            subst h1 h2
            exact ⟨rfl, t0, t1, hmk, hwr, .inr ⟨e, hrm, by simpa using hmissing, rfl⟩⟩
          · simp at hs

/-- When the pass path and the fail path name different files, a write that succeeds leaves
exactly the current verdict: the result's text at the path for its verdict, nothing at the
other path. -/
theorem write_keeps_one_result_file (r : Result) (passPath failPath : String) (t : Tree)
    (hcwd : Path.isAbs t.cwd = true) (hdistinct : t.resolve passPath ≠ t.resolve failPath)
    {path : String} {t' : Tree} (h : r.write passPath failPath t = .ok (path, t')) :
    (path = passPath ↔ r.passed = true) ∧ t'.readText path = .ok r.fileText ∧
      (Result.ofText r.fileText = .ok r → Result.read path t' = .ok r) ∧
      t'.stat (if r.passed then failPath else passPath) =
        .error ⟨"stat", if r.passed then failPath else passPath, .notExist⟩ := by
  obtain ⟨hpath, t0, t1, hmk, hwr, hrm⟩ := write_eq_ok h
  have hstr : passPath ≠ failPath := fun he => hdistinct (he ▸ rfl)
  have hpass : path = passPath ↔ r.passed = true := by
    cases hp : r.passed <;> simp [hpath, Result.pathFor, hp, Ne.symm hstr]
  have hother : (if path == failPath then passPath else failPath) =
      if r.passed then failPath else passPath := by
    cases hp : r.passed <;> simp [hpath, Result.pathFor, hp, hstr]
  have hne : t.resolve (if r.passed then failPath else passPath) ≠ t.resolve path := by
    cases hp : r.passed <;> simp [hpath, Result.pathFor, hp, hdistinct, Ne.symm hdistinct]
  rw [hother] at hrm
  generalize (if r.passed then failPath else passPath) = other at hrm hne ⊢
  -- making the directory keeps the working directory, so paths resolve as before
  have hres0 : ∀ q, t0.resolve q = t.resolve q := resolve_of_cwd (cwd_of_mkdirAll hmk)
  obtain ⟨hread, hstat⟩ := write_then_remove (cwd_of_mkdirAll hmk ▸ hcwd)
    (by rw [hres0, hres0]; exact hne) hwr hrm
  have htext := readText_of_readFile hread
  refine ⟨hpass, htext, fun hdec => ?_, hstat⟩
  simp [Result.read, hread, Yaml.textOf, fromUTF8?_toByteArray, Except.mapError, bind, Except.bind, hdec]

lemma exists_of_write_path {r : Result} {passPath failPath path : String} {t : Tree}
    (h : (r.write passPath failPath t).toOption.map Prod.fst = some path) :
    ∃ t', r.write passPath failPath t = .ok (path, t') := by
  rcases hw : r.write passPath failPath t with e | ⟨p, t'⟩ <;> simp_all [Except.toOption]

theorem write_passing_result_in_results_dir :
    let r : Result := { test := "t", source := "t.c", total := 1 }
    let t := Tree.empty "/w"
    ∃ t', r.write "results/t.pass" "results/t.fail" t = .ok ("results/t.pass", t') ∧
      ("results/t.pass" = "results/t.pass" ↔ r.passed = true) ∧
      t'.readText "results/t.pass" = .ok r.fileText ∧
      (Result.ofText r.fileText = .ok r → Result.read "results/t.pass" t' = .ok r) ∧
      t'.stat (if r.passed then "results/t.fail" else "results/t.pass") =
        .error ⟨"stat", if r.passed then "results/t.fail" else "results/t.pass", .notExist⟩ := by
  intro r t
  have hw : (r.write "results/t.pass" "results/t.fail" t).toOption.map Prod.fst =
      some "results/t.pass" := by decide
  obtain ⟨t', h⟩ := exists_of_write_path hw
  exact ⟨t', h, write_keeps_one_result_file r _ _ t (by decide) (by decide) h⟩

/-- With one path for both verdicts, the stale-file removal deletes the result just written. -/
theorem write_same_paths_removes_result :
    let r : Result := { test := "t", source := "t.c", total := 1 }
    (r.write "r" "r" (Tree.empty "/w")).toOption.map (fun (path, t') => (path, t'.exists_ "r")) =
      some ("r", false) := by
  decide

end TestRig.Results
