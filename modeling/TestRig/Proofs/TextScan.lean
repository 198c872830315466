import TestRig.Text.Chars
import TestRig.Text.Blank
import Mathlib

/-!
# Scanning text: splitting, replacing, fields and cuts

The text functions scan with fuel or with accumulators. Here they are related to the library's
list functions, so that what a reader of lines or words gets can be computed piece by piece.

* `splitOn_single`: splitting at one character is `List.splitOn`, whose pieces hold no
  separator (`not_mem_of_mem_splitOn`);
* `replaceAll_append_of_not_mem`, `replaceAll_old_append`: replacing leaves text without the
  first character of the pattern alone, and replaces a leading occurrence;
* `fieldsOf_eq`, `fieldsOf_gaps_words`: the fields are the non-empty pieces between blanks, and
  words set off by gaps of blanks are the fields of their text;
* `cut?_colon_space`: a text with no space before its first `: ` is cut right there;
* `two_mul_length_filter_splitOn_le`: a text has at most half as many non-empty pieces,
  rounded up, as characters.
-/

namespace TestRig.Text

/-! ### Splitting at one character -/

lemma dropPrefix?_single (d c : Char) (r : List Char) :
    dropPrefix? (d :: r) [c] = if d = c then some r else none := by
  by_cases h : d = c <;> simp [dropPrefix?, h]

lemma splitOn_go_single (c : Char) (s acc : List Char) (n : Nat) (h : s.length < n) :
    splitOn.go [c] s acc n = List.splitOnPPrepend (· == c) s acc := by
  induction s generalizing acc n with
  | nil =>
    obtain ⟨n, rfl⟩ : ∃ m, n = m + 1 := ⟨n - 1, by simp at h; omega⟩
    rfl
  | cons d r ih =>
    obtain ⟨n, rfl⟩ : ∃ m, n = m + 1 := ⟨n - 1, by simp at h; omega⟩
    have hr : r.length < n := by simpa using h
    rw [splitOn.go, dropPrefix?_single, List.splitOnPPrepend_cons_eq_if]
    by_cases hd : d = c
    · simp [hd, ih [] n hr]
    · simp [hd, ih _ n hr]

/-- Splitting at a one-character separator is the library's `List.splitOn`. -/
theorem splitOn_single (s : List Char) (c : Char) : splitOn s [c] = s.splitOn c :=
  splitOn_go_single c s [] _ (Nat.lt_succ_self _)

lemma not_mem_of_mem_splitOn {c : Char} {s e : List Char} (he : e ∈ s.splitOn c) : c ∉ e := by
  induction s generalizing e with
  | nil => simp_all
  | cons d s ih =>
    rw [List.splitOn_cons_eq_if_modifyHead] at he
    split at he
    · rcases List.mem_cons.1 he with rfl | he
      · simp
      · exact ih he
    · next hd =>
      -- the character joins the first piece of the rest
      obtain ⟨f, fs, hfs⟩ := List.exists_cons_of_ne_nil (List.splitOn_ne_nil c s)
      rw [hfs, List.modifyHead_cons] at he
      rcases List.mem_cons.1 he with rfl | he
      · have hf := ih (hfs ▸ List.mem_cons_self)
        simp only [List.mem_cons, not_or]
        exact ⟨fun h => hd (by simp [h]), hf⟩
      · exact ih (hfs ▸ List.mem_cons_of_mem _ he)

lemma joinWith_eq_intercalate (sep : List Char) (l : List (List Char)) :
    joinWith sep l = sep.intercalate l := by
  fun_induction joinWith sep l with
  | case1 => rfl
  | case2 x => simp
  | case3 x y r ih => rw [ih, List.intercalate_cons_cons]

lemma sum_length_splitOnPPrepend {α : Type} (p : α → Bool) (s acc : List α) :
    ((List.splitOnPPrepend p s acc).map (·.length + 1)).sum = acc.length + s.length + 1 := by
  induction s generalizing acc with
  | nil => simp
  | cons c r ih =>
    rw [List.splitOnPPrepend_cons_eq_if]
    split
    · rw [List.map_cons, List.sum_cons, List.splitOnP, ih]
      simp
      omega
    · rw [ih]
      simp
      omega

lemma sum_length_splitOn (s : List Char) (c : Char) :
    ((s.splitOn c).map (·.length + 1)).sum = s.length + 1 := by
  rw [List.splitOn_eq_splitOnP, List.splitOnP, sum_length_splitOnPPrepend]
  simp

lemma two_mul_length_filter_le_sum (ls : List (List Char)) :
    2 * (ls.filter (· ≠ [])).length ≤ (ls.map (·.length + 1)).sum := by
  induction ls with
  | nil => simp
  | cons l ls ih =>
    rw [List.map_cons, List.sum_cons, List.filter_cons]
    by_cases hl : l = []
    · rw [if_neg (by simpa using hl)]
      omega
    · have : 1 ≤ l.length := List.length_pos_iff.mpr hl
      rw [if_pos (by simpa using hl), List.length_cons]
      omega

lemma two_mul_length_filter_splitOn_le (s : List Char) (c : Char) :
    2 * ((s.splitOn c).filter (· ≠ [])).length ≤ s.length + 1 :=
  sum_length_splitOn s c ▸ two_mul_length_filter_le_sum _

/-! ### Replacing -/

lemma length_of_dropPrefix? {s p rest : List Char} (h : dropPrefix? s p = some rest) :
    rest.length + p.length = s.length := by
  induction p generalizing s with
  | nil =>
    simp [dropPrefix?] at h
    simp [h]
  | cons d p ih =>
    cases s with
    | nil => simp [dropPrefix?] at h
    | cons c s =>
      simp only [dropPrefix?] at h
      split at h
      · have := ih h
        simp only [List.length_cons]
        omega
      · simp at h

lemma replaceAll_go_fuel (new old : List Char) (hold : old ≠ []) (s : List Char) (n m : Nat)
    (hn : s.length < n) (hm : s.length < m) :
    replaceAll.go new old s n = replaceAll.go new old s m := by
  induction n generalizing s m with
  | zero => simp at hn
  | succ n ih =>
    obtain ⟨m, rfl⟩ : ∃ k, m = k + 1 := ⟨m - 1, by omega⟩
    cases s with
    | nil => rfl
    | cons c r =>
      simp only [List.length_cons] at hn hm
      simp only [replaceAll.go]
      split
      · next rest hrest =>
        have hlen := length_of_dropPrefix? hrest
        have hpos : old.length ≠ 0 := by simpa using hold
        simp only [List.length_cons] at hlen
        rw [ih rest m (by omega) (by omega)]
      · rw [ih r m (by omega) (by omega)]

lemma replaceAll_eq_go (s old new : List Char) (hold : old ≠ []) (n : Nat) (h : s.length < n) :
    replaceAll s old new = replaceAll.go new old s n := by
  obtain ⟨o, os, rfl⟩ := List.exists_cons_of_ne_nil hold
  exact replaceAll_go_fuel new _ hold s _ n (Nat.lt_succ_self _) h

@[simp] lemma replaceAll_nil (old new : List Char) : replaceAll [] old new = [] := by
  cases old <;> rfl

lemma replaceAll_cons_of_none {c : Char} {s old : List Char} (new : List Char) (hold : old ≠ [])
    (h : dropPrefix? (c :: s) old = none) :
    replaceAll (c :: s) old new = c :: replaceAll s old new := by
  rw [replaceAll_eq_go _ _ _ hold (s.length + 2) (by simp),
    replaceAll_eq_go _ _ _ hold (s.length + 1) (by simp)]
  simp only [replaceAll.go, h]

lemma replaceAll_of_some {s old rest : List Char} (new : List Char) (hold : old ≠ [])
    (h : dropPrefix? s old = some rest) :
    replaceAll s old new = new ++ replaceAll rest old new := by
  have hlen := length_of_dropPrefix? h
  have hpos : old.length ≠ 0 := by simpa using hold
  cases s with
  | nil => cases old <;> simp_all [dropPrefix?]
  | cons c r =>
    rw [replaceAll_eq_go _ _ _ hold (r.length + 2) (by simp),
      replaceAll_eq_go rest _ _ hold (r.length + 1) (by simp at hlen; omega)]
    simp only [replaceAll.go, h]

lemma replaceAll_cons_of_ne {c o : Char} (os s new : List Char) (h : c ≠ o) :
    replaceAll (c :: s) (o :: os) new = c :: replaceAll s (o :: os) new :=
  replaceAll_cons_of_none new (by simp) (by simp [dropPrefix?, h])

lemma replaceAll_append_of_not_mem {o : Char} {os xs : List Char} (new : List Char) (hx : o ∉ xs)
    (ys : List Char) : replaceAll (xs ++ ys) (o :: os) new = xs ++ replaceAll ys (o :: os) new := by
  induction xs with
  | nil => rfl
  | cons c xs ih =>
    simp only [List.mem_cons, not_or] at hx
    rw [List.cons_append, replaceAll_cons_of_ne os _ new (Ne.symm hx.1), ih hx.2, List.cons_append]

lemma replaceAll_old_append (old new s : List Char) (hold : old ≠ []) :
    replaceAll (old ++ s) old new = new ++ replaceAll s old new :=
  replaceAll_of_some new hold (dropPrefix?_append s old)

/-! ### Fields -/

lemma fieldsOf_go_eq (cs acc : List Char) :
    fieldsOf.go cs acc = (List.splitOnPPrepend isBlank cs acc).filter (· ≠ []) := by
  induction cs generalizing acc with
  | nil => cases acc <;> simp [fieldsOf.go]
  | cons c r ih =>
    rw [List.splitOnPPrepend_cons_eq_if]
    by_cases hc : isBlank c = true
    · cases acc <;> simp [fieldsOf.go, hc, ih]
    · simp [fieldsOf.go, hc, ih]

/-- The fields are the non-empty pieces between blanks. -/
theorem fieldsOf_eq (cs : List Char) : fieldsOf cs = (cs.splitOnP isBlank).filter (· ≠ []) :=
  fieldsOf_go_eq cs []

@[simp] lemma fieldsOf_nil : fieldsOf [] = [] := rfl

lemma fieldsOf_blanks_append {g : List Char} (hg : ∀ c ∈ g, isBlank c = true) (s : List Char) :
    fieldsOf (g ++ s) = fieldsOf s := by
  induction g with
  | nil => rfl
  | cons b g ih =>
    simp only [List.mem_cons, forall_eq_or_imp] at hg
    rw [List.cons_append, fieldsOf_eq, List.splitOnP_cons_eq_if_modifyHead, if_pos hg.1,
      List.filter_cons_of_neg (by simp), ← fieldsOf_eq, ih hg.2]

lemma fieldsOf_word_append {w s : List Char} (hw : w ≠ []) (hnb : ∀ c ∈ w, isBlank c = false)
    (hs : ∀ b ∈ s.head?, isBlank b = true) : fieldsOf (w ++ s) = w :: fieldsOf s := by
  cases s with
  | nil => simp [fieldsOf_eq, List.splitOnP_eq_singleton hnb, hw]
  | cons b s =>
    have hb : isBlank b = true := hs b rfl
    rw [fieldsOf_eq, List.splitOnP_append_cons_of_forall_mem hnb b hb,
      List.filter_cons_of_pos (by simpa using hw), ← fieldsOf_eq,
      ← fieldsOf_blanks_append (g := [b]) (by simpa using hb)]
    rfl

lemma fieldsOf_gaps_words (ps : List (List Char × List Char)) (tail : List Char)
    (hps : ∀ gw ∈ ps, gw.1 ≠ [] ∧ (∀ c ∈ gw.1, isBlank c = true) ∧ gw.2 ≠ [] ∧
      ∀ c ∈ gw.2, isBlank c = false)
    (ht : ∀ c ∈ tail, isBlank c = true) :
    fieldsOf (ps.flatMap (fun gw => gw.1 ++ gw.2) ++ tail) = ps.map (·.2) := by
  induction ps with
  | nil => simpa using fieldsOf_blanks_append ht []
  | cons gw ps ih =>
    obtain ⟨hg, hgb, hw, hwb⟩ := hps gw List.mem_cons_self
    -- what follows the word starts with the next gap, or is the blank tail
    have hhead : ∀ b ∈ (ps.flatMap (fun gw => gw.1 ++ gw.2) ++ tail).head?, isBlank b = true := by
      intro b hb
      cases ps with
      | nil => exact ht b (List.mem_of_head? (by simpa using hb))
      | cons gw' ps' =>
        obtain ⟨hg', hgb', -⟩ := hps gw' (by simp)
        obtain ⟨c, cs, hc⟩ := List.exists_cons_of_ne_nil hg'
        rw [List.flatMap_cons, hc] at hb
        simp only [List.cons_append, List.head?_cons, Option.mem_def, Option.some.injEq] at hb
        exact hgb' b (by rw [hc, ← hb]; exact List.mem_cons_self)
    rw [List.flatMap_cons, List.append_assoc, List.append_assoc, fieldsOf_blanks_append hgb,
      fieldsOf_word_append hw hwb hhead,
      ih (fun gw h => hps gw (List.mem_cons_of_mem _ h)), List.map_cons]

/-! ### Cutting at a colon and a space -/

lemma startsWith_colon_space_of_ne {c : Char} {s : List Char} (h : ∀ d ∈ s.head?, d ≠ ' ') :
    startsWith (c :: s) [':', ' '] = false := by
  cases s with
  | nil => simp [startsWith]
  | cons d s =>
    simp only [startsWith, Bool.and_eq_false_iff, beq_eq_false_iff_ne]
    exact .inr (.inl (h d rfl))

lemma indexOf?_go_colon_space (xs rest : List Char) (hx : ' ' ∉ xs) (i : Nat) :
    indexOf?.go [':', ' '] (xs ++ ':' :: ' ' :: rest) i = some (i + xs.length) := by
  induction xs generalizing i with
  | nil => simp [indexOf?.go, startsWith]
  | cons c xs ih =>
    simp only [List.mem_cons, not_or] at hx
    have hnext : startsWith (c :: (xs ++ ':' :: ' ' :: rest)) [':', ' '] = false := by
      refine startsWith_colon_space_of_ne fun d hd => ?_
      cases xs with
      | nil => simp at hd; simp [← hd]
      | cons e xs =>
        simp only [List.cons_append, List.head?_cons, Option.mem_def, Option.some.injEq] at hd
        simp only [List.mem_cons, not_or] at hx
        exact hd ▸ Ne.symm hx.2.1
    rw [List.cons_append, indexOf?.go, hnext, if_neg (by simp), ih hx.2]
    congr 1
    simp only [List.length_cons]
    omega

lemma indexOf?_go_colon_space_none (s : List Char) (hs : ' ' ∉ s) (i : Nat) :
    indexOf?.go [':', ' '] s i = none := by
  induction s generalizing i with
  | nil => rfl
  | cons c s ih =>
    simp only [List.mem_cons, not_or] at hs
    have hno : startsWith (c :: s) [':', ' '] = false :=
      startsWith_colon_space_of_ne fun d hd => fun h => hs.2 (List.mem_of_head? (h ▸ hd))
    rw [indexOf?.go, hno, if_neg (by simp), ih hs.2]

lemma cut?_colon_space_none (s : List Char) (hs : ' ' ∉ s) : cut? s [':', ' '] = none := by
  simp [cut?, indexOf?, indexOf?_go_colon_space_none s hs 0]

/-- A text with no space before its first colon and space is cut right there. -/
theorem cut?_colon_space (xs rest : List Char) (hx : ' ' ∉ xs) :
    cut? (xs ++ ':' :: ' ' :: rest) [':', ' '] = some (xs, rest) := by
  simp [cut?, indexOf?, indexOf?_go_colon_space xs rest hx 0]

end TestRig.Text
