import TestRig.Proofs.MarkerScan

/-!
# Expanding the markers of a text

The markers that `findMarkers` finds cut a text into gaps: the text is the first gap, the first
marker's `#{...}`, the second gap, and so on, with each marker's offsets counting the bytes
before it. Expanding the text picks one string from each marker's list and puts the picks
between the gaps; it does so for every way of picking, the first marker's pick varying
slowest, so the expansion is a cartesian product laid out in lexicographic order.

* `findMarkers_splits`: the markers found in a text cut it into gaps, at the byte offsets they
  record;
* `expand_eq_woven`: expanding marker after marker, each time scanning the rest of the text
  anew, weaves the picks of the markers' lists into the gaps, or fails with the first marker
  whose strings cannot be had;
* `expand_cartesian_product`: the whole expansion, its failures included.
-/

namespace TestRig.Expression

/-! ### Picking one element of each list -/

section Choices

variable {α : Type}

/-- Every way to pick one element of each list, in lexicographic order: the pick from the first
list varies slowest. -/
def choices : List (List α) → List (List α)
  | [] => [[]]
  | l :: ls => l.flatMap fun x => (choices ls).map (x :: ·)

@[simp] lemma choices_nil : choices ([] : List (List α)) = [[]] := rfl

lemma choices_cons (l : List α) (ls : List (List α)) :
    choices (l :: ls) = l.flatMap fun x => (choices ls).map (x :: ·) := rfl

/-- There are as many picks as the product of the lists' lengths. -/
theorem length_choices (ls : List (List α)) : (choices ls).length = (ls.map List.length).prod := by
  induction ls with
  | nil => rfl
  | cons l ls ih =>
    rw [choices_cons, List.length_flatMap]
    simp [ih, List.map_const']

example : choices [[1, 2], [3, 4]] = [[1, 3], [1, 4], [2, 3], [2, 4]] := rfl

/-- There is no pick exactly when one of the lists is empty. -/
theorem choices_eq_nil_iff (ls : List (List α)) : choices ls = [] ↔ [] ∈ ls := by
  induction ls with
  | nil => simp
  | cons l ls ih =>
    rw [choices_cons, List.flatMap_eq_nil_iff, List.mem_cons, ← ih]
    cases l with
    | nil => simp
    | cons x l => simp +contextual

end Choices

/-- The rendering of a text from its gaps and one pick per marker: the first gap, the first
pick, the second gap, and so on up to the last gap. -/
def weave : List String → List String → String
  | g :: gs, x :: xs => g ++ x ++ weave gs xs
  | g :: _, [] => g
  | [], _ => ""

/-! ### Where the markers sit -/

lemma utf8ByteSize_ofList (cs : List Char) :
    (String.ofList cs).utf8ByteSize = (cs.map Char.utf8Size).sum := by
  induction cs with
  | nil => rfl
  | cons c cs ih => simp [String.ofList_cons, String.utf8ByteSize_append, ih]

/-- `Splits pos cs ms gaps`: the characters `cs`, which start at byte offset `pos` of a text,
are the gaps with the markers `ms` between them, each marker spelled `#{expr}` and recording the
byte offsets of its first character and of the character after it. -/
def Splits : Nat → List Char → List Marker → List String → Prop
  | _, cs, [], gaps => gaps = [String.ofList cs]
  | pos, cs, m :: ms, gaps => ∃ g rest gs, gaps = g :: gs ∧
      cs = g.toList ++ '#' :: '{' :: m.expr.toList ++ '}' :: rest ∧
      m.start = pos + g.utf8ByteSize ∧ m.stop = m.start + m.expr.utf8ByteSize + 3 ∧
      Splits m.stop rest ms gs

lemma Splits.cons {pos : Nat} {c : Char} {cs : List Char} {ms : List Marker} {gaps : List String}
    (h : Splits (pos + c.utf8Size) cs ms gaps) : ∃ gaps', Splits pos (c :: cs) ms gaps' := by
  cases ms with
  | nil => exact ⟨_, rfl⟩
  | cons m ms =>
    obtain ⟨g, rest, gs, rfl, hcs, hstart, hstop, hrest⟩ := h
    refine ⟨String.ofList (c :: g.toList) :: gs, _, rest, gs, rfl, ?_, ?_, hstop, hrest⟩
    · simp [hcs]
    · have hg : g.utf8ByteSize = (g.toList.map Char.utf8Size).sum := by
        rw [← utf8ByteSize_ofList, String.ofList_toList]
      simp [hstart, hg]
      omega

lemma closeMarker_eq_some {cs : List Char} {depth : Nat} {acc inner rest : List Char}
    (h : closeMarker cs depth acc = some (inner, rest)) :
    ∃ mid, cs = mid ++ '}' :: rest ∧ inner = acc.reverse ++ mid := by
  induction cs generalizing depth acc with
  | nil => simp [closeMarker] at h
  | cons c cs ih =>
    unfold closeMarker at h
    split at h
    · next hc =>
      split at h
      · simp only [Option.some.injEq, Prod.mk.injEq] at h
        obtain ⟨rfl, rfl⟩ := h
        exact ⟨[], by simp_all, by simp⟩
      · obtain ⟨mid, rfl, rfl⟩ := ih h
        exact ⟨c :: mid, rfl, by simp⟩
    · split at h <;>
      · obtain ⟨mid, rfl, rfl⟩ := ih h
        exact ⟨c :: mid, rfl, by simp⟩

lemma scanMarkers_splits {fuel pos : Nat} {cs : List Char} {prev : Option Char}
    {ms : List Marker} (h : scanMarkers fuel cs pos prev = some ms) :
    ∃ gaps, Splits pos cs ms gaps := by
  induction fuel generalizing cs pos prev ms with
  | zero => simp only [scanMarkers, Option.some.injEq] at h; subst h; exact ⟨_, rfl⟩
  | succ fuel ih =>
    cases cs with
    | nil => simp only [scanMarkers, Option.some.injEq] at h; subst h; exact ⟨_, rfl⟩
    | cons c r =>
      unfold scanMarkers at h
      split at h
      · next body =>
        split at h
        · -- an escaped `#{` is plain text
          obtain ⟨gaps, hs⟩ := ih h
          exact Splits.cons (c := '#') hs
        · split at h
          · simp at h
          · next inner rest hclose =>
            dsimp only at h
            split at h
            · next ms' hms =>
              simp only [Option.some.injEq] at h
              subst h
              obtain ⟨gaps, hs⟩ := ih hms
              obtain ⟨mid, rfl, rfl⟩ := closeMarker_eq_some hclose
              refine ⟨"" :: gaps, "", rest, gaps, rfl, by simp, by simp, ?_, hs⟩
              simp [byteSize_eq_sum, utf8ByteSize_ofList]
              omega
            · simp at h
      · obtain ⟨gaps, hs⟩ := ih h
        exact Splits.cons hs

/-- The markers found in a text cut it into gaps, at the byte offsets they record. -/
theorem findMarkers_splits {s : String} {ms : List Marker} (h : findMarkers s = .ok ms) :
    ∃ gaps, Splits 0 s.toList ms gaps := by
  unfold findMarkers at h
  split at h
  · next ms' hscan =>
    simp only [Except.ok.injEq] at h
    subst h
    exact scanMarkers_splits hscan
  · simp at h

/-! ### Cutting a text at byte offsets -/

lemma bytePrefix_go_append (a b : List Char) :
    bytePrefix.go (a ++ b) (a.map Char.utf8Size).sum = a := by
  induction a with
  | nil =>
    cases b with
    | nil => rfl
    | cons c b => simp [bytePrefix.go, Nat.pos_iff_ne_zero.mp c.utf8Size_pos]
  | cons c a ih => simp [bytePrefix.go, ih]

/-- Where the first marker of a split text sits: the text before it is the first gap. -/
lemma bytePrefix_first {s g : String} {m : Marker} {rest : List Char}
    (hcs : s.toList = g.toList ++ '#' :: '{' :: m.expr.toList ++ '}' :: rest)
    (hstart : m.start = 0 + g.utf8ByteSize) : bytePrefix s m.start = g := by
  have hcs' : s.toList = g.toList ++ ('#' :: '{' :: m.expr.toList ++ '}' :: rest) := by simp [hcs]
  rw [bytePrefix, hcs', hstart, zero_add, ← String.ofList_toList (s := g), utf8ByteSize_ofList,
    String.toList_ofList, bytePrefix_go_append, String.ofList_toList]

/-- The text after the first marker of a split text is the rest the split goes on with. -/
lemma byteSuffix_first {s g : String} {m : Marker} {rest : List Char}
    (hcs : s.toList = g.toList ++ '#' :: '{' :: m.expr.toList ++ '}' :: rest)
    (hstart : m.start = 0 + g.utf8ByteSize) (hstop : m.stop = m.start + m.expr.utf8ByteSize + 3) :
    (byteSuffix s m.stop).toList = rest := by
  have hsize : ((g.toList ++ '#' :: '{' :: m.expr.toList ++ ['}']).map Char.utf8Size).sum =
      m.stop := by
    have hascii : '#'.utf8Size = 1 ∧ '{'.utf8Size = 1 ∧ '}'.utf8Size = 1 := ⟨rfl, rfl, rfl⟩
    simp [hstop, hstart, ← utf8ByteSize_ofList, String.ofList_toList, hascii]
    omega
  have hcs' : s.toList = (g.toList ++ '#' :: '{' :: m.expr.toList ++ ['}']) ++ rest := by simp [hcs]
  rw [byteSuffix, String.toList_ofList, ← hsize, hcs', byteSuffix_go_append]

/-! ### Expanding -/

section Unfold

variable (ev : Evaluator) {s : String}

-- `expand` by what the scan of the text finds; the branches the scan rules out close by `cases`
lemma expand_of_error {e : Fault} (h : findMarkers s = .error e) : ev.expand s = .error e := by
  rw [Evaluator.expand]
  split <;> rename_i hfound <;> rw [h] at hfound <;> cases hfound
  rfl

lemma expand_of_nil (h : findMarkers s = .ok []) : ev.expand s = .ok [s] := by
  rw [Evaluator.expand]
  split <;> rename_i hfound <;> rw [h] at hfound <;> cases hfound

lemma expand_of_cons {m : Marker} {ms : List Marker} (h : findMarkers s = .ok (m :: ms)) :
    ev.expand s = (do
      let values ← ev.strings m.expr
      let rests ← ev.expand (byteSuffix s m.stop)
      return values.flatMap fun v => rests.map fun r => bytePrefix s m.start ++ v ++ r) := by
  rw [Evaluator.expand]
  split <;> rename_i hfound <;> rw [h] at hfound <;> cases hfound
  rfl

end Unfold

/-- Split text splits alike with its offsets counted from `k` bytes further on. -/
lemma Splits.shift {k : Nat} : ∀ {pos : Nat} {cs : List Char} {ms : List Marker}
    {gaps : List String}, Splits pos cs ms gaps → k ≤ pos →
      Splits (pos - k) cs (ms.map (Marker.after k)) gaps
  | _, _, [], _, h, _ => h
  | _, _, _ :: _, _, ⟨g, rest, gs, hgaps, hcs, hstart, hstop, hrest⟩, hk =>
    ⟨g, rest, gs, hgaps, hcs, by simp only [Marker.after]; omega,
      by simp only [Marker.after]; omega, Splits.shift hrest (by omega)⟩

/-- **Expanding a text, marker after marker.** When the markers of a text cut it into `gaps`,
its renderings are the picks of the markers' lists woven into the gaps, or the failure of the
first marker whose strings cannot be had: after each marker, expanding scans the rest of the
text anew and finds there the markers that follow (`findMarkers_after_first`). -/
theorem expand_eq_woven (ev : Evaluator) :
    ∀ (ms : List Marker) (s : String) (gaps : List String), findMarkers s = .ok ms →
      Splits 0 s.toList ms gaps →
      ev.expand s = (ms.mapM fun m => ev.strings m.expr).map fun ls => (choices ls).map (weave gaps)
  | [], s, gaps, hms, hsplit => by
    subst hsplit
    simp [expand_of_nil ev hms, weave, choices, String.ofList_toList, Except.map, pure, Except.pure]
  | m :: ms, s, _, hms, ⟨g, rest, gs, rfl, hcs, hstart, hstop, hrest⟩ => by
    -- the induction is on the markers; the rest of the text is split by the markers after `m`
    have ih := expand_eq_woven ev (ms.map (Marker.after m.stop)) (byteSuffix s m.stop) gs
      (findMarkers_after_first hms)
      (by simpa [byteSuffix_first hcs hstart hstop] using hrest.shift le_rfl)
    have hsame : ((fun m => ev.strings m.expr) ∘ Marker.after m.stop) =
        fun m => ev.strings m.expr := rfl
    rw [expand_of_cons ev hms, ih, bytePrefix_first hcs hstart, List.mapM_map, hsame,
      List.mapM_cons]
    cases ev.strings m.expr with
    | error e => rfl
    | ok values =>
      cases (ms.mapM fun m => ev.strings m.expr) with
      | error e => rfl
      | ok ls =>
        simp only [bind, Except.bind, Except.map, pure, Except.pure, choices_cons,
          List.map_flatMap, List.map_map]
        rfl

/-! ### Failures of a traversal -/

section MapM

variable {α β ε : Type} (f : α → Except ε β)

lemma mapM_eq_ok_of_forall₂ {xs : List α} {ys : List β}
    (h : List.Forall₂ (fun x y => f x = .ok y) xs ys) : xs.mapM f = .ok ys := by
  induction h with
  | nil => rfl
  | cons hxy _ ih => simp [List.mapM_cons, hxy, ih, bind, Except.bind, pure, Except.pure]

lemma mapM_eq_error_of_first {pre post : List α} {x : α} {e : ε}
    (hpre : ∀ y ∈ pre, ∃ b, f y = .ok b) (hx : f x = .error e) :
    (pre ++ x :: post).mapM f = .error e := by
  induction pre with
  | nil => simp [List.mapM_cons, hx, bind, Except.bind]
  | cons y pre ih =>
    obtain ⟨b, hb⟩ := hpre y (by simp)
    simp [List.mapM_cons, hb, ih (fun z hz => hpre z (by simp [hz])), bind, Except.bind]

end MapM

/-- **Marker expansion is a cartesian product.** A text whose markers cannot be found expands
to that failure. When its markers `m₁ … mₖ` are found, they cut it into gaps `g₀ … gₖ`; if
their expressions give the string lists `L₁ … Lₖ`, the text expands to
`g₀ ++ x₁ ++ g₁ ++ … ++ xₖ ++ gₖ` for every pick `(x₁, …, xₖ)` of `L₁ × … × Lₖ` in
lexicographic order, as many renderings as the product of the lists' lengths and none when a
list is empty; if a marker's expression fails after the ones before it evaluated, the text
expands to that failure. -/
theorem expand_cartesian_product (ev : Evaluator) (s : String) :
    (∀ e, findMarkers s = .error e → ev.expand s = .error e) ∧
    ∀ ms, findMarkers s = .ok ms →
      (∀ ls, List.Forall₂ (fun m l => ev.strings m.expr = .ok l) ms ls →
        ∃ gaps, Splits 0 s.toList ms gaps ∧
          ev.expand s = .ok ((choices ls).map (weave gaps)) ∧
          ((choices ls).map (weave gaps)).length = (ls.map List.length).prod ∧
          ((choices ls).map (weave gaps) = [] ↔ [] ∈ ls)) ∧
      (∀ pre m post e, ms = pre ++ m :: post →
        (∀ m' ∈ pre, ∃ l, ev.strings m'.expr = .ok l) → ev.strings m.expr = .error e →
        ev.expand s = .error e) := by
  refine ⟨fun e he => expand_of_error ev he, fun ms hms => ?_⟩
  obtain ⟨gaps, hsplit⟩ := findMarkers_splits hms
  have hexpand := expand_eq_woven ev ms s gaps hms hsplit
  refine ⟨fun ls hls => ⟨gaps, hsplit, ?_, ?_, ?_⟩, fun pre m post e hsplitms hpre he => ?_⟩
  · rw [hexpand, mapM_eq_ok_of_forall₂ _ hls]
    rfl
  · rw [List.length_map, length_choices]
  · rw [List.map_eq_nil_iff, choices_eq_nil_iff]
  · rw [hexpand, hsplitms, mapM_eq_error_of_first _ hpre he]
    rfl

end TestRig.Expression
