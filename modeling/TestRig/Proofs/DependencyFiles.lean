import TestRig.Build.ObjectState
import TestRig.Proofs.FileIndex
import TestRig.Proofs.TextScan
import Mathlib

/-!
# Reading dependency files

A compiler's dependency file lists rules `target: prerequisite ...`, where a rule goes on over
lines that end in a backslash. It is read by joining continued lines, cutting each line at its
first `: `, taking the blank-separated words after the cut, each once, and sorting them.

Dependency files are modelled as a compiler writes them (`DepRule`, `depFileText`): the
prerequisites of a rule set off by spaces or by continued lines, lines ending in LF or CR LF.

* `depFileText_lines`: once continued lines are joined, the file has one line per rule;
* `DepRule.lineDeps_joined`: the line of a rule is read into its prerequisites;
* `parseDepFile_depFileText`: a file whose paths need no escape is read into the prerequisites
  of its rules, in increasing order, each once.

Escapes are not undone: a backslash before a space stays in the path, and the space splits it
(`parseDepFile_splits_escaped_space`).
-/

namespace TestRig.Build

open TestRig.Text

/-! ### Joining continued lines -/

/-- A line continued by a backslash before its CR LF or LF ending is joined to the next by a
space, as a dependency file is read. -/
def joinContinued (cs : List Char) : List Char :=
  replaceAll (replaceAll cs ['\\', '\r', '\n'] [' ']) ['\\', '\n'] [' ']

lemma joinContinued_plain_append {xs : List Char} (hx : '\\' ∉ xs) (ys : List Char) :
    joinContinued (xs ++ ys) = xs ++ joinContinued ys := by
  simp only [joinContinued, replaceAll_append_of_not_mem _ hx]

/-- A line ending: CR LF or LF. -/
def lineEnd : Bool → List Char
  | true => ['\r', '\n']
  | false => ['\n']

lemma joinContinued_break_append (crlf : Bool) (ys : List Char) :
    joinContinued ('\\' :: lineEnd crlf ++ ys) = ' ' :: joinContinued ys := by
  cases crlf
  · -- an LF break survives the CR LF pass and goes in the LF pass
    have hnone : dropPrefix? ('\\' :: '\n' :: ys) ['\\', '\r', '\n'] = none := by
      simp [dropPrefix?]
    simp only [joinContinued, lineEnd, List.cons_append, List.nil_append]
    rw [replaceAll_cons_of_none _ (by simp) hnone,
      replaceAll_cons_of_ne ['\r', '\n'] ys [' '] (by decide : '\n' ≠ '\\'),
      show '\\' :: '\n' :: replaceAll ys ['\\', '\r', '\n'] [' '] =
        ['\\', '\n'] ++ replaceAll ys ['\\', '\r', '\n'] [' '] from rfl]
    exact replaceAll_old_append ['\\', '\n'] [' '] _ (by simp)
  · simp only [joinContinued, lineEnd, List.cons_append, List.nil_append]
    rw [show '\\' :: '\r' :: '\n' :: ys = ['\\', '\r', '\n'] ++ ys from rfl,
      replaceAll_old_append _ _ _ (by simp), List.singleton_append]
    exact replaceAll_cons_of_ne _ _ _ (by decide)

lemma joinContinued_nil : joinContinued [] = [] := rfl

lemma joinContinued_flatMap {α : Type} (f g : α → List Char) (xs : List α)
    (h : ∀ x ∈ xs, ∀ rest, joinContinued (f x ++ rest) = g x ++ joinContinued rest) (rest : List Char) :
    joinContinued (xs.flatMap f ++ rest) = xs.flatMap g ++ joinContinued rest := by
  induction xs with
  | nil => rfl
  | cons x xs ih =>
    rw [List.flatMap_cons, List.flatMap_cons, List.append_assoc, h x List.mem_cons_self,
      ih (fun y hy => h y (List.mem_cons_of_mem x hy)), List.append_assoc]

/-! ### Dependency files as a compiler writes them -/

/-- How a prerequisite is set off from what comes before it: by a space, or by a space and a
backslash that continue the rule on the next line, then the indent of that line. -/
inductive Gap where
  | space
  | wrap (crlf : Bool) (indent : Nat)

/-- The text of a gap. -/
def Gap.text : Gap → List Char
  | .space => [' ']
  | .wrap crlf indent => ' ' :: '\\' :: lineEnd crlf ++ List.replicate indent ' '

/-- A gap once continued lines are joined: blanks only, a space first. -/
def Gap.joined : Gap → List Char
  | .space => [' ']
  | .wrap _ indent => ' ' :: ' ' :: List.replicate indent ' '

/-- A rule: its target, each prerequisite with the gap before it, and how its line ends. -/
structure DepRule where
  target : String
  prereqs : List (Gap × String)
  crlf : Bool

/-- The text of a rule. -/
def DepRule.text (r : DepRule) : List Char :=
  r.target.toList ++ ':' :: (r.prereqs.flatMap fun gp => gp.1.text ++ gp.2.toList) ++ lineEnd r.crlf

/-- A dependency file: its rules one after another. -/
def depFileText (rules : List DepRule) : String := String.ofList (rules.flatMap DepRule.text)

/-- A path written as it stands: not empty, with no blank and none of the characters that make
escapes (a backslash, `#` and `$`). -/
def plainPath (p : String) : Bool :=
  !p.isEmpty && p.toList.all fun c => !isBlank c && c != '\\' && c != '#' && c != '$'

/-- A rule whose target and prerequisites are all written as they stand. -/
def DepRule.plain (r : DepRule) : Bool := plainPath r.target && r.prereqs.all fun gp => plainPath gp.2

/-- The line of a rule once continued lines are joined, without its line feed. -/
def DepRule.joined (r : DepRule) : List Char :=
  r.target.toList ++ ':' :: (r.prereqs.flatMap fun gp => gp.1.joined ++ gp.2.toList) ++
    (if r.crlf then ['\r'] else [])

lemma Gap.eq_space_of_mem_joined {g : Gap} {c : Char} (h : c ∈ g.joined) : c = ' ' := by
  cases g with
  | space => simpa [Gap.joined] using h
  | wrap crlf indent =>
    simp only [Gap.joined, List.mem_cons] at h
    rcases h with h | h | h
    · exact h
    · exact h
    · exact List.eq_of_mem_replicate h

lemma plainPath_spec {p : String} (h : plainPath p = true) :
    p.toList ≠ [] ∧ ∀ c ∈ p.toList, isBlank c = false ∧ c ≠ '\\' := by
  unfold plainPath at h
  rw [Bool.and_eq_true, Bool.not_eq_true', List.all_eq_true] at h
  refine ⟨fun hnil => ?_, fun c hc => ?_⟩
  · have : p = "" := String.toList_inj.mp (by simpa using hnil)
    subst this
    exact absurd h.1 (by decide)
  · have := h.2 c hc
    simp only [Bool.and_eq_true, Bool.not_eq_true', bne_iff_ne, ne_eq] at this
    exact ⟨this.1.1.1, this.1.1.2⟩

lemma not_mem_of_plainPath {p : String} (h : plainPath p = true) {c : Char}
    (hc : isBlank c = true ∨ c = '\\') : c ∉ p.toList := fun hm => by
  obtain ⟨hb, hs⟩ := (plainPath_spec h).2 c hm
  rcases hc with hc | rfl
  · rw [hb] at hc
    cases hc
  · exact hs rfl

lemma Gap.joinContinued_text_append (g : Gap) (rest : List Char) :
    joinContinued (g.text ++ rest) = g.joined ++ joinContinued rest := by
  cases g with
  | space => exact joinContinued_plain_append (show '\\' ∉ [' '] by decide) rest
  | wrap crlf indent =>
    have hsp : '\\' ∉ List.replicate indent ' ' := fun h => absurd (List.eq_of_mem_replicate h) (by decide)
    simp only [Gap.text, Gap.joined, List.cons_append, List.append_assoc]
    rw [show ' ' :: '\\' :: (lineEnd crlf ++ (List.replicate indent ' ' ++ rest)) =
        [' '] ++ ('\\' :: lineEnd crlf ++ (List.replicate indent ' ' ++ rest)) from rfl,
      joinContinued_plain_append (by simp), joinContinued_break_append,
      joinContinued_plain_append hsp]
    rfl

lemma DepRule.joinContinued_text_append (r : DepRule) (hr : r.plain = true) (rest : List Char) :
    joinContinued (r.text ++ rest) = (r.joined ++ ['\n']) ++ joinContinued rest := by
  simp only [DepRule.plain, Bool.and_eq_true, List.all_eq_true] at hr
  have htarget : '\\' ∉ r.target.toList := not_mem_of_plainPath hr.1 (.inr rfl)
  have hprereqs : ∀ gp ∈ r.prereqs, ∀ rest,
      joinContinued ((gp.1.text ++ gp.2.toList) ++ rest) = (gp.1.joined ++ gp.2.toList) ++ joinContinued rest := by
    intro gp hgp rest
    have hp : '\\' ∉ gp.2.toList := not_mem_of_plainPath (hr.2 gp hgp) (.inr rfl)
    rw [List.append_assoc, Gap.joinContinued_text_append, joinContinued_plain_append hp, List.append_assoc]
  simp only [DepRule.text, DepRule.joined, List.append_assoc, List.cons_append]
  rw [joinContinued_plain_append htarget, show ':' :: (List.flatMap (fun gp => gp.1.text ++ gp.2.toList) r.prereqs ++
      (lineEnd r.crlf ++ rest)) = [':'] ++ (List.flatMap (fun gp => gp.1.text ++ gp.2.toList) r.prereqs ++
      (lineEnd r.crlf ++ rest)) from rfl, joinContinued_plain_append (by simp),
    joinContinued_flatMap _ _ _ hprereqs]
  have hend : joinContinued (lineEnd r.crlf ++ rest) =
      (if r.crlf then ['\r'] else []) ++ '\n' :: joinContinued rest := by
    cases r.crlf
    · exact joinContinued_plain_append (show '\\' ∉ ['\n'] by simp) rest
    · exact joinContinued_plain_append (show '\\' ∉ ['\r', '\n'] by simp) rest
  rw [hend]
  simp

lemma joinContinued_depFileText (rules : List DepRule) (h : ∀ r ∈ rules, r.plain = true) :
    joinContinued (depFileText rules).toList = rules.flatMap fun r => r.joined ++ ['\n'] := by
  have := joinContinued_flatMap DepRule.text (fun r => r.joined ++ ['\n']) rules
    (fun r hr rest => r.joinContinued_text_append (h r hr) rest) []
  simpa [depFileText, joinContinued_nil] using this

lemma DepRule.newline_not_mem_joined (r : DepRule) (hr : r.plain = true) : '\n' ∉ r.joined := by
  simp only [DepRule.plain, Bool.and_eq_true, List.all_eq_true] at hr
  have hblank : ∀ p, plainPath p = true → '\n' ∉ p.toList := fun p hp =>
    not_mem_of_plainPath hp (.inl rfl)
  simp only [DepRule.joined, List.mem_append, List.mem_cons, List.mem_flatMap, not_or]
  refine ⟨⟨hblank _ hr.1, by decide, ?_⟩, ?_⟩
  · rintro ⟨gp, hgp, hn⟩
    rcases hn with hn | hn
    · exact absurd (Gap.eq_space_of_mem_joined hn) (by decide)
    · exact hblank _ (hr.2 gp hgp) hn
  · cases r.crlf <;> simp

lemma depFileText_lines (rules : List DepRule) (h : ∀ r ∈ rules, r.plain = true) :
    (joinContinued (depFileText rules).toList).splitOn '\n' = rules.map DepRule.joined ++ [[]] := by
  rw [joinContinued_depFileText rules h]
  induction rules with
  | nil => rfl
  | cons r rules ih =>
    rw [List.flatMap_cons, List.append_assoc, List.singleton_append,
      List.splitOn_append_cons_self_of_not_mem (r.newline_not_mem_joined (h r List.mem_cons_self)),
      ih (fun r' hr' => h r' (List.mem_cons_of_mem r hr'))]
    rfl

/-! ### Reading the lines -/

/-- The words after the first `:` and space of a line; none when it has no such cut. -/
def lineDeps (line : List Char) : List String :=
  match cut? line [':', ' '] with
  | some (_, rest) => (fieldsOf rest).map String.ofList
  | none => []

/-- The words after the cut of each line, each once, in the order they first appear. -/
def depsOfLines (lines : List (List Char)) : List String :=
  lines.foldl (fun acc line =>
    match cut? line [':', ' '] with
    | some (_, rest) => (fieldsOf rest).foldl (fun acc d =>
        let d := String.ofList d
        if acc.contains d then acc else acc ++ [d]) acc
    | none => acc) []

lemma parseDepFile_eq (text : String) :
    parseDepFile text =
      (depsOfLines ((joinContinued text.toList).splitOn '\n')).mergeSort fun a b => decide (a ≤ b) := by
  rw [← splitOn_single]
  rfl

lemma depsStep_eq (acc : List String) (line : List Char) :
    (match cut? line [':', ' '] with
      | some (_, rest) => (fieldsOf rest).foldl (fun acc d =>
          let d := String.ofList d
          if acc.contains d then acc else acc ++ [d]) acc
      | none => acc) =
    (lineDeps line).foldl (fun acc p => if acc.contains p then acc else acc ++ [p]) acc := by
  unfold lineDeps
  split
  · rw [List.foldl_map]
  · rfl

lemma mem_foldl_depsStep (lines : List (List Char)) (acc : List String) (x : String) :
    x ∈ lines.foldl (fun acc line =>
      match cut? line [':', ' '] with
      | some (_, rest) => (fieldsOf rest).foldl (fun acc d =>
          let d := String.ofList d
          if acc.contains d then acc else acc ++ [d]) acc
      | none => acc) acc ↔ x ∈ acc ∨ ∃ line ∈ lines, x ∈ lineDeps line := by
  induction lines generalizing acc with
  | nil => simp
  | cons l ls ih =>
    rw [List.foldl_cons, ih, depsStep_eq, Files.mem_foldl_addNew]
    simp [or_assoc]

lemma nodup_foldl_depsStep (lines : List (List Char)) (acc : List String) (h : acc.Nodup) :
    (lines.foldl (fun acc line =>
      match cut? line [':', ' '] with
      | some (_, rest) => (fieldsOf rest).foldl (fun acc d =>
          let d := String.ofList d
          if acc.contains d then acc else acc ++ [d]) acc
      | none => acc) acc).Nodup := by
  induction lines generalizing acc with
  | nil => exact h
  | cons l ls ih =>
    rw [List.foldl_cons]
    apply ih
    rw [depsStep_eq]
    exact Files.nodup_foldl_addNew _ _ h

lemma mem_parseDepFile (text : String) (x : String) :
    x ∈ parseDepFile text ↔ ∃ line ∈ (joinContinued text.toList).splitOn '\n', x ∈ lineDeps line := by
  rw [parseDepFile_eq, List.mem_mergeSort, depsOfLines, mem_foldl_depsStep]
  simp

lemma parseDepFile_sorted (text : String) : (parseDepFile text).Pairwise (· < ·) := by
  rw [parseDepFile_eq]
  have hdeps : (depsOfLines ((joinContinued text.toList).splitOn '\n')).Nodup :=
    nodup_foldl_depsStep _ [] List.nodup_nil
  have hnodup := ((List.mergeSort_perm _ fun a b : String => decide (a ≤ b)).nodup_iff).mpr hdeps
  have hle : ((depsOfLines ((joinContinued text.toList).splitOn '\n')).mergeSort
      fun a b => decide (a ≤ b)).Pairwise fun a b => decide (a ≤ b) :=
    List.pairwise_mergeSort (fun a b c hab hbc => by simp only [decide_eq_true_eq] at *; exact le_trans hab hbc)
      (fun a b => by simpa using le_total a b) _
  exact (hle.and hnodup).imp fun ⟨h1, h2⟩ => lt_of_le_of_ne (by simpa using h1) h2

lemma Gap.joined_eq_cons (g : Gap) : g.joined = ' ' :: g.joined.tail := by
  cases g <;> rfl

lemma Gap.joined_ne_nil (g : Gap) : g.joined ≠ [] := by
  cases g <;> simp [Gap.joined]

lemma DepRule.lineDeps_joined (r : DepRule) (hr : r.plain = true) :
    lineDeps r.joined = r.prereqs.map (·.2) := by
  simp only [DepRule.plain, Bool.and_eq_true, List.all_eq_true] at hr
  have hcr : ∀ c ∈ (if r.crlf then ['\r'] else []), isBlank c = true := by
    cases r.crlf <;> simp [isBlank]
  have htarget : ' ' ∉ r.target.toList := not_mem_of_plainPath hr.1 (.inl rfl)
  rcases hps : r.prereqs with _ | ⟨⟨g, p⟩, more⟩
  · -- no prerequisite: the line has no space to cut at
    have hno : ' ' ∉ r.joined := by
      simp only [DepRule.joined, hps, List.flatMap_nil, List.mem_append, List.mem_cons,
        not_or]
      refine ⟨⟨htarget, by decide, by simp⟩, ?_⟩
      cases r.crlf <;> simp
    simp [lineDeps, cut?_colon_space_none _ hno]
  · -- the first gap starts with the space of the cut; the words are the prerequisites
    have hwords := fieldsOf_gaps_words (((g, p) :: more).map fun gp => (gp.1.joined, gp.2.toList))
      (if r.crlf then ['\r'] else []) (by
        simp only [List.mem_map]
        rintro _ ⟨gp, hgp, rfl⟩
        have hplain := plainPath_spec (hr.2 gp (hps ▸ hgp))
        refine ⟨gp.1.joined_ne_nil, fun c hc => ?_, hplain.1, fun c hc => (hplain.2 c hc).1⟩
        rw [Gap.eq_space_of_mem_joined hc]
        rfl) hcr
    obtain ⟨t, ht⟩ : ∃ t, g.joined = ' ' :: t := ⟨g.joined.tail, Gap.joined_eq_cons g⟩
    have hjoined : r.joined = r.target.toList ++ ':' :: ' ' ::
        (t ++ p.toList ++ (more.flatMap fun gp => gp.1.joined ++ gp.2.toList) ++
          (if r.crlf then ['\r'] else [])) := by
      simp [DepRule.joined, hps, ht]
    have hrest : fieldsOf (t ++ p.toList ++ (more.flatMap fun gp => gp.1.joined ++ gp.2.toList) ++
        (if r.crlf then ['\r'] else [])) = fieldsOf (((g.joined ++ p.toList) ++
        (more.flatMap fun gp => gp.1.joined ++ gp.2.toList)) ++ (if r.crlf then ['\r'] else [])) := by
      rw [← fieldsOf_blanks_append (g := [' ']) (by simp [isBlank])]
      congr 1
      simp [ht]
    simp only [List.flatMap_map, List.map_map, List.flatMap_cons] at hwords
    rw [lineDeps, hjoined, cut?_colon_space _ _ htarget]
    simp only
    rw [hrest, hwords]
    simp

/-- **A dependency file is read into its prerequisites.** For every file of rules as a
compiler writes them, with prerequisites set off by spaces or by continued lines and lines
ending in LF or CR LF, whose paths need no escape, the dependencies read are in increasing
order, each once, and are exactly the prerequisites of its rules. -/
theorem parseDepFile_depFileText (rules : List DepRule) (h : rules.all DepRule.plain = true) :
    (parseDepFile (depFileText rules)).Pairwise (· < ·) ∧
      ∀ x, x ∈ parseDepFile (depFileText rules) ↔ ∃ r ∈ rules, x ∈ r.prereqs.map (·.2) := by
  rw [List.all_eq_true] at h
  refine ⟨parseDepFile_sorted _, fun x => ?_⟩
  rw [mem_parseDepFile, depFileText_lines rules h]
  constructor
  · rintro ⟨line, hline, hx⟩
    simp only [List.mem_append, List.mem_map, List.mem_singleton] at hline
    rcases hline with ⟨r, hr, rfl⟩ | rfl
    · exact ⟨r, hr, by rwa [← r.lineDeps_joined (h r hr)]⟩
    · simp [lineDeps, cut?, indexOf?, indexOf?.go] at hx
  · rintro ⟨r, hr, hx⟩
    exact ⟨r.joined, List.mem_append_left _ (List.mem_map_of_mem hr), by rwa [r.lineDeps_joined (h r hr)]⟩

/-- A rule continued on a second line, CR LF endings, and a rule of its own for a header. -/
theorem parseDepFile_wrapped_rules :
    let rules : List DepRule :=
      [⟨"obj/a.o", [(.space, "src/a.c"), (.wrap true 2, "inc/b.h")], true⟩, ⟨"inc/b.h", [], true⟩]
    rules.all DepRule.plain = true ∧ (parseDepFile (depFileText rules)).Pairwise (· < ·) ∧
      ∀ x, x ∈ parseDepFile (depFileText rules) ↔ ∃ r ∈ rules, x ∈ r.prereqs.map (·.2) :=
  ⟨by decide, parseDepFile_depFileText _ (by decide)⟩

/-- Escapes are not undone: a space escaped by a backslash splits the path there, and the
backslash stays. -/
theorem parseDepFile_splits_escaped_space : parseDepFile "a.o: x\\ y.h\n" = ["x\\", "y.h"] := by
  rw [parseDepFile_eq, show depsOfLines ((joinContinued "a.o: x\\ y.h\n".toList).splitOn '\n') =
    ["x\\", "y.h"] by decide]
  simp [List.mergeSort]

end TestRig.Build
