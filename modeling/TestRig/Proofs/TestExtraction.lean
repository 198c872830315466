import TestRig.CSource.Extract
import TestRig.Proofs.CommentBlanking

/-!
# Reading a test source line by line

`contextOf` reads the comment-blanked text of a test source one line at a time. A line that
includes a file adds it, once, in order of first appearance; any other line that declares a
test function registers it, at the line's number. Every declaring line registers, so a test
declared on two lines (a forward declaration and the definition) is registered twice. Blanking
keeps every line, so a line's number is its number in the source as written.

* `contextStep_foldl`: the fold is a filter over the numbered lines;
* `Blanked.lines`: blanking keeps the lines, one for one;
* `context_registers_each_test_line`: the main theorem.
-/

namespace TestRig.CSource

/-- The test a numbered line registers: a line that declares a test function and includes no
file, at its number counted from one. -/
def lineCase? : String × Nat → Option TestCase
  | (line, i) =>
    if (includeOf? line).isSome then none else (testNameOf? line).map (⟨·, ((i + 1 : Nat) : Int)⟩)

/-- Appending each new name keeps the first of each, in order. -/
theorem foldl_appendUnique (xs acc : List String) :
    xs.foldl appendUnique acc = acc ++ (xs.removeAll acc).eraseDups := by
  induction xs generalizing acc with
  | nil => simp [List.removeAll]
  | cons x xs ih =>
    rw [List.foldl_cons, ih]
    by_cases hx : x ∈ acc
    · simp [appendUnique, hx, List.removeAll]
    · -- a new name goes last, and its later copies are dropped with those of `acc`
      simp only [appendUnique, hx, decide_false, Bool.false_eq_true, if_false, List.removeAll,
        List.elem_eq_mem, List.mem_append, List.mem_singleton, List.filter_cons, Bool.not_false,
        if_true, List.eraseDups_cons, List.filter_filter, List.append_assoc, List.singleton_append]
      congr 2
      refine congrArg List.eraseDups (List.filter_congr fun y _ => ?_)
      by_cases hy : y = x <;> simp [hy]

/-- One line registers the test `lineCase?` reads off it and adds the file it includes. -/
theorem contextStep_eq (c : TestContext) (x : String × Nat) :
    (contextStep c x).testCases = c.testCases ++ (lineCase? x).toList ∧
    (contextStep c x).includes = (includeOf? x.1).toList.foldl appendUnique c.includes := by
  obtain ⟨line, i⟩ := x
  unfold contextStep lineCase?
  -- the three kinds of line: include, test, other
  cases hinc : includeOf? line with
  | some inc => simp [hinc]
  | none =>
    cases htest : testNameOf? line with
    | some name => simp [hinc, htest]
    | none => simp [hinc, htest]

/-- Reading numbered lines registers the tests of the lines in order and adds the includes of
the lines, each new one once. -/
theorem contextStep_foldl (xs : List (String × Nat)) (c : TestContext) :
    (xs.foldl contextStep c).testCases = c.testCases ++ xs.filterMap lineCase? ∧
    (xs.foldl contextStep c).includes =
      (xs.filterMap (includeOf? ·.1)).foldl appendUnique c.includes := by
  induction xs generalizing c with
  | nil => simp
  | cons x xs ih =>
    obtain ⟨htests, hincludes⟩ := contextStep_eq c x
    rw [List.foldl_cons, (ih _).1, (ih _).2, htests, hincludes]
    constructor
    · cases h : lineCase? x <;> simp [h]
    · cases h : includeOf? x.1 <;> simp [h]

/-! ### Blanking keeps the lines -/

/-- Characters other than newlines only lengthen the first line. -/
theorem splitOnP_newline_append {xs ys : List Char} (h : '\n' ∉ xs) :
    (xs ++ ys).splitOnP (· == '\n') = ((ys.splitOnP (· == '\n')).modifyHead (xs ++ ·)) := by
  induction xs with
  | nil =>
    simp only [List.nil_append]
    cases ys.splitOnP (· == '\n') <;> rfl
  | cons x xs ih =>
    have hx : x ≠ '\n' := fun hx => h (hx ▸ List.mem_cons_self)
    rw [List.cons_append, List.splitOnP_cons_eq_if_modifyHead, if_neg (by simpa using hx),
      ih (fun h' => h (List.mem_cons_of_mem _ h'))]
    cases ys.splitOnP (· == '\n') <;> simp

/-- Lines that correspond one for one still do after their first lines are lengthened alike. -/
theorem Forall₂.modifyHead {R : List Char → List Char → Prop} {L M : List (List Char)}
    {f g : List Char → List Char} (h : List.Forall₂ R L M) (hfg : ∀ a b, R a b → R (f a) (g b)) :
    List.Forall₂ R (L.modifyHead f) (M.modifyHead g) := by
  cases h with
  | nil => exact .nil
  | cons hab hrest => exact .cons (hfg _ _ hab) hrest

/-- A blanked text has the lines of the text it blanks, one for one, each blanked. -/
theorem Blanked.lines {s o : List Char} (h : Blanked s o) :
    List.Forall₂ Blanked (s.splitOnP (· == '\n')) (o.splitOnP (· == '\n')) := by
  induction h with
  | nil => exact .cons .nil .nil
  | keep c _ ih =>
    rw [List.splitOnP_cons_eq_if_modifyHead, List.splitOnP_cons_eq_if_modifyHead]
    split
    · exact .cons .nil ih
    · exact Forall₂.modifyHead ih fun _ _ hab => .keep c hab
  | @blank c _ _ hc _ ih =>
    -- the spaces standing for `c` lengthen the same line that `c` does
    have hsp : '\n' ∉ blankOf c := by simp [blankOf]
    rw [List.splitOnP_cons_eq_if_modifyHead, if_neg (by simpa using hc),
      splitOnP_newline_append hsp]
    exact Forall₂.modifyHead ih fun _ _ hab => .blank hc hab

/-! ### The main theorem -/

/-- Reading a test source registers one test for each of its lines that declares a test
function and includes no file, in the order of the lines and at the line's number counted from
one, so a test declared on two lines is registered twice; and it adds the files included, each
once, in order of first appearance. The numbers are those of the source as written: blanking
its comments keeps its lines, one for one. -/
theorem context_registers_each_test_line (src : String) :
    (contextOf (stripComments src)).testCases =
        ((stripComments src).splitToList (· == '\n')).zipIdx.filterMap lineCase? ∧
      (contextOf (stripComments src)).includes =
        (((stripComments src).splitToList (· == '\n')).filterMap includeOf?).eraseDups ∧
      List.Forall₂ (fun a b => Blanked a.toList b.toList) (src.splitToList (· == '\n'))
        ((stripComments src).splitToList (· == '\n')) := by
  obtain ⟨htests, hincludes⟩ := contextStep_foldl
    (((stripComments src).splitToList (· == '\n')).zipIdx) {}
  refine ⟨by simpa [contextOf] using htests, ?_, ?_⟩
  · rw [contextOf, hincludes, foldl_appendUnique]
    -- the includes are read off the lines, whatever their numbers
    have hfst : ((stripComments src).splitToList (· == '\n')).zipIdx.filterMap (includeOf? ·.1) =
        ((stripComments src).splitToList (· == '\n')).filterMap includeOf? := by
      conv_rhs => rw [← List.zipIdx_map_fst 0 ((stripComments src).splitToList (· == '\n')),
        List.filterMap_map, Function.comp_def]
    simp [List.removeAll, hfst]
  · have hlines := (stripFrom_blanked .code src.toList).lines
    rw [stripComments, String.splitToList_of_valid, String.splitToList_of_valid,
      String.toList_ofList]
    simpa [List.forall₂_map_left_iff, List.forall₂_map_right_iff] using hlines

/-- A test declared ahead of its definition is registered at both lines. -/
example : ((contextOf (stripComments "void test_a(void);\nvoid test_a(void) {}\n")).testCases.map
    fun c => (c.name, c.line)) = [("test_a", 1), ("test_a", 2)] := by
  decide +kernel

end TestRig.CSource
