import TestRig.Expression.Eval
import Mathlib

/-!
# Scanning a text for markers

`findMarkers` reads a text once, left to right. A `#{` opens a marker unless a backslash stands
right before it; the marker closes at the first `}` at which every brace opened after `#{` is
closed, and the scan goes on after it. `Scanned` states this with one rule for a character of
plain text and one for a whole marker, and the scan follows it exactly (`scan_of_scanMarkers`,
`scanMarkers_of_scan`). From it, `findMarkers_scans`:

* the scan fails exactly when some unescaped `#{`, after text that scans, has no balancing `}`;
* otherwise its markers are in order and apart, each runs from an unescaped `#{` to the first
  `}` that balances it, and every unescaped `#{` starts one or lies inside one;
* the text after the first marker scans to the other markers, their offsets counted from there,
  so a scan started anew after the first marker finds the rest (`findMarkers_after_first`).
-/

namespace TestRig.Expression

lemma byteSize_eq_sum (cs : List Char) : byteSize cs = (cs.map Char.utf8Size).sum := by
  suffices h : ∀ n, cs.foldl (fun n c => n + c.utf8Size) n = n + (cs.map Char.utf8Size).sum by
    simpa [byteSize] using h 0
  induction cs with
  | nil => simp
  | cons c cs ih => intro n; simp [ih]; omega

lemma byteSuffix_go_append (a b : List Char) :
    byteSuffix.go (a ++ b) (a.map Char.utf8Size).sum = b := by
  induction a with
  | nil => cases b <;> rfl
  | cons c a ih =>
    have hc := c.utf8Size_pos
    simp only [List.cons_append, List.map_cons, List.sum_cons, byteSuffix.go]
    rw [if_neg (by omega), Nat.add_sub_cancel_left, ih]

/-! ## Braces -/

/-- Read with `depth` braces open, `body` closes them all at its end and at no `}` before: each
`}` of it closes a brace still open. -/
def Closes (depth : Nat) (body : List Char) : Prop :=
  body.count '}' = depth + body.count '{' ∧
    ∀ p q, body = p ++ '}' :: q → p.count '}' < depth + p.count '{'
lemma forall_cons_split (c : Char) (cs : List Char) (P : List Char → List Char → Prop) :
    (∀ p q, c :: cs = p ++ '}' :: q → P p q) ↔
      (c = '}' → P [] cs) ∧ ∀ p q, cs = p ++ '}' :: q → P (c :: p) q := by
  constructor
  · intro h
    exact ⟨fun hc => h [] cs (by rw [hc]; rfl), fun p q hp => h (c :: p) q (by rw [hp]; rfl)⟩
  · rintro ⟨h0, h1⟩ p q hpq
    rcases List.cons_eq_append_iff.1 hpq with ⟨rfl, hq⟩ | ⟨p', rfl, hp⟩
    · obtain ⟨rfl, rfl⟩ := List.cons.inj hq
      exact h0 rfl
    · exact h1 p' q hp

lemma exists_cons_split (c : Char) (cs rest : List Char) (P : List Char → Prop) :
    (∃ body, c :: cs = body ++ '}' :: rest ∧ P body) ↔
      (c = '}' ∧ cs = rest ∧ P []) ∨
        ∃ body, cs = body ++ '}' :: rest ∧ P (c :: body) := by
  constructor
  · rintro ⟨body, h, hp⟩
    rcases List.cons_eq_append_iff.1 h with ⟨rfl, hq⟩ | ⟨b, rfl, hb⟩
    · obtain ⟨rfl, rfl⟩ := List.cons.inj hq
      exact .inl ⟨rfl, rfl, hp⟩
    · exact .inr ⟨b, hb, hp⟩
  · rintro (⟨rfl, rfl, hp⟩ | ⟨b, rfl, hp⟩)
    · exact ⟨[], rfl, hp⟩
    · exact ⟨c :: b, rfl, hp⟩

lemma closes_nil (d : Nat) : Closes d [] ↔ d = 0 := by
  simp [Closes, eq_comm]

lemma closes_close (d : Nat) (cs : List Char) :
    Closes d ('}' :: cs) ↔ 0 < d ∧ Closes (d - 1) cs := by
  unfold Closes
  rw [forall_cons_split]
  simp only [List.count_cons_self, ne_eq, Char.reduceEq, not_false_eq_true, List.count_cons_of_ne,
    List.count_nil, add_zero, forall_const]
  constructor
  · rintro ⟨hcount, hd, hp⟩
    exact ⟨hd, by omega, fun p q h => by have := hp p q h; omega⟩
  · rintro ⟨hd, hcount, hp⟩
    exact ⟨by omega, hd, fun p q h => by have := hp p q h; omega⟩

lemma closes_open (d : Nat) (cs : List Char) : Closes d ('{' :: cs) ↔ Closes (d + 1) cs := by
  unfold Closes
  rw [forall_cons_split]
  simp only [ne_eq, Char.reduceEq, not_false_eq_true, List.count_cons_of_ne, List.count_cons_self,
    List.count_nil, add_zero, IsEmpty.forall_iff, true_and, ← Nat.add_assoc, Nat.add_right_comm d]

lemma closes_other {c : Char} (h1 : c ≠ '}') (h2 : c ≠ '{') (d : Nat) (cs : List Char) :
    Closes d (c :: cs) ↔ Closes d cs := by
  unfold Closes
  rw [forall_cons_split]
  simp only [ne_eq, h1, not_false_eq_true, List.count_cons_of_ne, h2, List.count_nil, add_zero,
    IsEmpty.forall_iff, true_and]

lemma closeMarker_eq_some_iff {cs : List Char} {d : Nat} {acc inner rest : List Char} :
    closeMarker cs d acc = some (inner, rest) ↔
      ∃ body, cs = body ++ '}' :: rest ∧ inner = acc.reverse ++ body ∧ Closes d body := by
  induction cs generalizing d acc with
  | nil => simp [closeMarker]
  | cons c cs ih =>
    rw [exists_cons_split c cs rest fun body => inner = acc.reverse ++ body ∧ Closes d body]
    by_cases hc : c = '}'
    · subst hc
      rcases Nat.eq_zero_or_pos d with rfl | hd
      · simp [closeMarker, closes_nil, closes_close, @eq_comm _ inner, and_comm]
      · simp [closeMarker, ih, closes_close, closes_nil, hd, Nat.pos_iff_ne_zero.1 hd]
    · by_cases ho : c = '{'
      · subst ho
        simp [closeMarker, ih, closes_open]
      · simp [closeMarker, ih, closes_other hc ho, hc, ho]

lemma closeMarker_eq_none_iff {cs : List Char} {d : Nat} {acc : List Char} :
    closeMarker cs d acc = none ↔
      ∀ body rest, cs = body ++ '}' :: rest → ¬ Closes d body := by
  rw [Option.eq_none_iff_forall_ne_some]
  constructor
  · rintro h body rest rfl hb
    exact h (acc.reverse ++ body, rest) (closeMarker_eq_some_iff.2 ⟨body, rfl, rfl, hb⟩)
  · rintro h ⟨inner, rest⟩ hsome
    obtain ⟨body, hcs, -, hb⟩ := closeMarker_eq_some_iff.1 hsome
    exact h body rest hcs hb

/-! ## The scan -/

/-- A marker opens at the start of `cs`, which follows the character `prev`: `cs` starts with
`#{` and `prev` is no backslash. -/
def Opens (prev : Option Char) (cs : List Char) : Prop :=
  (∃ r, cs = '#' :: '{' :: r) ∧ prev ≠ some '\\'

/-- The character before the text that follows `pre`, when `pre` follows `prev`. -/
def lastBefore (prev : Option Char) (pre : List Char) : Option Char := pre.getLast?.or prev

@[simp] lemma lastBefore_nil (prev : Option Char) : lastBefore prev [] = prev := rfl

@[simp] lemma lastBefore_append (prev : Option Char) (a b : List Char) :
    lastBefore prev (a ++ b) = lastBefore (lastBefore prev a) b := by
  simp [lastBefore, List.getLast?_append, Option.or_assoc]

@[simp] lemma lastBefore_cons (prev : Option Char) (c : Char) (cs : List Char) :
    lastBefore prev (c :: cs) = lastBefore (some c) cs := by
  rw [show c :: cs = [c] ++ cs from rfl, lastBefore_append]
  rfl

/-- `Scanned pos prev cs ms`: the text `cs`, at byte offset `pos` and after the character `prev`,
holds the markers `ms`. A character where no marker opens is plain text; where one opens, the
marker runs to the first `}` that closes every brace opened after its `#{`. -/
inductive Scanned : Nat → Option Char → List Char → List Marker → Prop
  | nil (pos : Nat) (prev : Option Char) : Scanned pos prev [] []
  | text {pos : Nat} {prev : Option Char} {c : Char} {cs : List Char} {ms : List Marker} :
      ¬ Opens prev (c :: cs) → Scanned (pos + c.utf8Size) (some c) cs ms →
      Scanned pos prev (c :: cs) ms
  | marker {pos : Nat} {prev : Option Char} {body rest : List Char} {ms : List Marker} :
      prev ≠ some '\\' → Closes 0 body →
      Scanned (pos + 2 + byteSize body + 1) (some '}') rest ms →
      Scanned pos prev ('#' :: '{' :: (body ++ '}' :: rest))
        (⟨pos, pos + 2 + byteSize body + 1, String.ofList body⟩ :: ms)

/-! ### One step of the scan -/

section Step

variable {fuel pos : Nat} {prev : Option Char}

lemma scanMarkers_text {c : Char} {cs : List Char} (h : ¬ Opens prev (c :: cs)) :
    scanMarkers (fuel + 1) (c :: cs) pos prev =
      scanMarkers fuel cs (pos + c.utf8Size) (some c) := by
  by_cases hopen : ∃ r, c :: cs = '#' :: '{' :: r
  · -- an escaped `#{`: the backslash before it keeps it plain
    obtain ⟨r, hr⟩ := hopen
    obtain ⟨rfl, rfl⟩ := List.cons.inj hr
    have hprev : prev = some '\\' := by
      by_contra hne
      exact h ⟨⟨r, rfl⟩, hne⟩
    simp [scanMarkers, hprev]
    rfl
  · rw [scanMarkers]
    rintro body rfl rfl
    exact hopen ⟨body, rfl⟩

lemma scanMarkers_unclosed {post : List Char} (hprev : prev ≠ some '\\')
    (hpost : closeMarker post 0 [] = none) :
    scanMarkers (fuel + 1) ('#' :: '{' :: post) pos prev = none := by
  simp [scanMarkers, hprev, hpost]

lemma scanMarkers_marker {body rest : List Char} (hprev : prev ≠ some '\\')
    (hbody : Closes 0 body) :
    scanMarkers (fuel + 1) ('#' :: '{' :: (body ++ '}' :: rest)) pos prev =
      (scanMarkers fuel rest (pos + 2 + byteSize body + 1) (some '}')).map
        (⟨pos, pos + 2 + byteSize body + 1, String.ofList body⟩ :: ·) := by
  have hclose : closeMarker (body ++ '}' :: rest) 0 [] = some (body, rest) :=
    closeMarker_eq_some_iff.2 ⟨body, rfl, by simp, hbody⟩
  simp only [scanMarkers, hclose]
  cases scanMarkers fuel rest (pos + 2 + byteSize body + 1) (some '}') <;> simp [hprev]

end Step

/-! ### The scan follows `Scanned` -/

lemma Opens.append {prev : Option Char} {cs : List Char} (h : Opens prev cs) (x : List Char) :
    Opens prev (cs ++ x) := by
  obtain ⟨⟨r, rfl⟩, hprev⟩ := h
  exact ⟨⟨r ++ x, rfl⟩, hprev⟩

lemma not_opens_append_opener {prev : Option Char} {c : Char} {cs post : List Char}
    (h : ¬ Opens prev (c :: cs)) : ¬ Opens prev (c :: (cs ++ '#' :: '{' :: post)) := by
  rintro ⟨⟨r, hr⟩, hprev⟩
  cases cs with
  | nil => simp at hr
  | cons d cs =>
    obtain ⟨rfl, rfl, -⟩ : c = '#' ∧ d = '{' ∧ _ := by simpa using hr
    exact h ⟨⟨cs, rfl⟩, hprev⟩

lemma scanMarkers_succ {fuel pos : Nat} {prev : Option Char} (cs : List Char) :
    (cs = [] ∧ scanMarkers (fuel + 1) cs pos prev = some []) ∨
    (∃ c r, cs = c :: r ∧ ¬ Opens prev cs ∧
      scanMarkers (fuel + 1) cs pos prev = scanMarkers fuel r (pos + c.utf8Size) (some c)) ∨
    (∃ post, cs = '#' :: '{' :: post ∧ prev ≠ some '\\' ∧ closeMarker post 0 [] = none ∧
      scanMarkers (fuel + 1) cs pos prev = none) ∨
    (∃ body rest, cs = '#' :: '{' :: (body ++ '}' :: rest) ∧ prev ≠ some '\\' ∧
      Closes 0 body ∧
      scanMarkers (fuel + 1) cs pos prev =
        (scanMarkers fuel rest (pos + 2 + byteSize body + 1) (some '}')).map
          (⟨pos, pos + 2 + byteSize body + 1, String.ofList body⟩ :: ·)) := by
  rcases cs with _ | ⟨c, r⟩
  · exact .inl ⟨rfl, rfl⟩
  by_cases hopen : Opens prev (c :: r)
  · obtain ⟨⟨post, hpost⟩, hprev⟩ := hopen
    obtain ⟨rfl, rfl⟩ := List.cons.inj hpost
    cases hclose : closeMarker post 0 [] with
    | none =>
      exact .inr (.inr (.inl ⟨post, rfl, hprev, hclose, scanMarkers_unclosed hprev hclose⟩))
    | some p =>
      obtain ⟨body, rfl, -, hbody⟩ := closeMarker_eq_some_iff.1 hclose
      exact .inr (.inr (.inr ⟨body, p.2, rfl, hprev, hbody, scanMarkers_marker hprev hbody⟩))
  · exact .inr (.inl ⟨c, r, rfl, hopen, scanMarkers_text hopen⟩)

lemma scan_of_scanMarkers {fuel pos : Nat} {prev : Option Char} {cs : List Char}
    {ms : List Marker} (h : scanMarkers fuel cs pos prev = some ms) (hfuel : cs.length < fuel) :
    Scanned pos prev cs ms := by
  induction fuel generalizing cs pos prev ms with
  | zero => omega
  | succ fuel ih =>
    rcases scanMarkers_succ cs with ⟨rfl, hstep⟩ | ⟨c, r, rfl, hopen, hstep⟩ |
      ⟨post, rfl, -, -, hstep⟩ | ⟨body, rest, rfl, hprev, hbody, hstep⟩ <;> rw [hstep] at h
    · obtain rfl := Option.some.inj h
      exact .nil pos prev
    · exact .text hopen (ih h (by simp at hfuel; omega))
    · cases h
    · obtain ⟨ms', hms', rfl⟩ := Option.map_eq_some_iff.1 h
      exact .marker hprev hbody (ih hms' (by simp at hfuel; omega))

lemma scanMarkers_of_scan {pos : Nat} {prev : Option Char} {cs : List Char} {ms : List Marker}
    (h : Scanned pos prev cs ms) :
    ∀ fuel, cs.length < fuel → scanMarkers fuel cs pos prev = some ms := by
  induction h with
  | nil => intro fuel hfuel; cases fuel with
    | zero => omega
    | succ fuel => rfl
  | text hopen _ ih => intro fuel hfuel; cases fuel with
    | zero => omega
    | succ fuel => rw [scanMarkers_text hopen, ih fuel (by simp at hfuel; omega)]
  | marker hprev hbody _ ih => intro fuel hfuel; cases fuel with
    | zero => omega
    | succ fuel => rw [scanMarkers_marker hprev hbody, ih fuel (by simp at hfuel; omega)]; rfl

lemma unclosed_of_scanMarkers {fuel pos : Nat} {prev : Option Char} {cs : List Char}
    (h : scanMarkers fuel cs pos prev = none) (hfuel : cs.length < fuel) :
    ∃ pre post ms, cs = pre ++ '#' :: '{' :: post ∧ Scanned pos prev pre ms ∧
      lastBefore prev pre ≠ some '\\' ∧ closeMarker post 0 [] = none := by
  induction fuel generalizing cs pos prev with
  | zero => omega
  | succ fuel ih =>
    rcases scanMarkers_succ cs with ⟨rfl, hstep⟩ | ⟨c, r, rfl, hopen, hstep⟩ |
      ⟨post, rfl, hprev, hclose, -⟩ | ⟨body, rest, rfl, hprev, hbody, hstep⟩
    · rw [hstep] at h; cases h
    · rw [hstep] at h
      obtain ⟨pre, post, ms, rfl, hscan, hlast, hunclosed⟩ := ih h (by simp at hfuel; omega)
      exact ⟨c :: pre, post, ms, rfl,
        .text (fun h' => hopen (h'.append _)) hscan, by simpa using hlast, hunclosed⟩
    · exact ⟨[], post, [], rfl, .nil pos prev, hprev, hclose⟩
    · rw [hstep] at h
      obtain ⟨pre, post, ms, rfl, hscan, hlast, hunclosed⟩ :=
        ih (Option.map_eq_none_iff.1 h) (by simp at hfuel; omega)
      exact ⟨'#' :: '{' :: (body ++ '}' :: pre), post, _, by simp,
        .marker hprev hbody hscan, by simpa using hlast, hunclosed⟩

lemma scanMarkers_unclosed_after {pos : Nat} {prev : Option Char} {pre post : List Char}
    {ms : List Marker} (h : Scanned pos prev pre ms) (hlast : lastBefore prev pre ≠ some '\\')
    (hpost : closeMarker post 0 [] = none) :
    ∀ fuel, (pre ++ '#' :: '{' :: post).length < fuel →
      scanMarkers fuel (pre ++ '#' :: '{' :: post) pos prev = none := by
  induction h with
  | nil => intro fuel hfuel; cases fuel with
    | zero => omega
    | succ fuel => exact scanMarkers_unclosed hlast hpost
  | text hopen _ ih => intro fuel hfuel; cases fuel with
    | zero => omega
    | succ fuel =>
      rw [List.cons_append, scanMarkers_text (not_opens_append_opener hopen)]
      exact ih (by simpa using hlast) fuel (by simp at hfuel ⊢; omega)
  | marker hprev hbody _ ih => intro fuel hfuel; cases fuel with
    | zero => omega
    | succ fuel =>
      rw [show ∀ b r x : List Char,
          '#' :: '{' :: (b ++ '}' :: r) ++ x = '#' :: '{' :: (b ++ '}' :: (r ++ x))
        from fun b r x => by simp, scanMarkers_marker hprev hbody,
        ih (by simpa using hlast) fuel (by simp at hfuel ⊢; omega)]
      rfl

/-! ### What `Scanned` says of the markers -/

lemma utf8Size_delims : '#'.utf8Size = 1 ∧ '{'.utf8Size = 1 ∧ '}'.utf8Size = 1 :=
  ⟨rfl, rfl, rfl⟩

section ScanFacts

variable {pos : Nat} {prev : Option Char} {cs : List Char} {ms : List Marker}

lemma Scanned.ordered (h : Scanned pos prev cs ms) :
    (∀ m ∈ ms, pos ≤ m.start ∧ m.start < m.stop) ∧
      ms.Pairwise (fun m m' => m.stop ≤ m'.start) := by
  induction h with
  | nil => simp
  | text _ _ ih =>
    exact ⟨fun m hm => ⟨by have := (ih.1 m hm).1; omega, (ih.1 m hm).2⟩, ih.2⟩
  | marker _ _ _ ih =>
    refine ⟨?_, List.pairwise_cons.2 ⟨fun m hm => (ih.1 m hm).1, ih.2⟩⟩
    rintro m (_ | ⟨_, hm⟩)
    · simp only; omega
    · exact ⟨by have := (ih.1 m hm).1; omega, (ih.1 m hm).2⟩

lemma Scanned.spans (h : Scanned pos prev cs ms) :
    ∀ m ∈ ms, ∃ pre body rest, cs = pre ++ '#' :: '{' :: (body ++ '}' :: rest) ∧
      lastBefore prev pre ≠ some '\\' ∧ Closes 0 body ∧
      m = ⟨pos + byteSize pre, pos + byteSize pre + 2 + byteSize body + 1,
        String.ofList body⟩ := by
  induction h with
  | nil => simp
  | text _ _ ih =>
    intro m hm
    obtain ⟨pre, body, rest, rfl, hlast, hbody, rfl⟩ := ih m hm
    refine ⟨_ :: pre, body, rest, rfl, by simpa using hlast, hbody, ?_⟩
    simp [byteSize_eq_sum]
    omega
  | @marker pos prev body rest ms hprev hbody _ ih =>
    rintro m (_ | ⟨_, hm⟩)
    · exact ⟨[], body, rest, rfl, hprev, hbody, by simp [byteSize]⟩
    · obtain ⟨pre, body', rest', hrest, hlast, hbody', rfl⟩ := ih m hm
      refine ⟨'#' :: '{' :: (body ++ '}' :: pre), body', rest', by simp [hrest],
        by simpa using hlast, hbody', ?_⟩
      simp [byteSize_eq_sum, utf8Size_delims]
      omega

lemma Scanned.covers (h : Scanned pos prev cs ms) :
    ∀ pre post, cs = pre ++ '#' :: '{' :: post → lastBefore prev pre ≠ some '\\' →
      ∃ m ∈ ms, m.start ≤ pos + byteSize pre ∧ pos + byteSize pre < m.stop := by
  induction h with
  | nil => intro pre post h; simp at h
  | @text pos prev c cs ms hopen _ ih =>
    rintro (_ | ⟨c', pre⟩) post hcs hlast
    · -- a `#{` right here would open a marker
      obtain ⟨rfl, rfl⟩ := List.cons.inj hcs
      exact absurd ⟨⟨post, rfl⟩, hlast⟩ hopen
    · obtain ⟨rfl, rfl⟩ := List.cons.inj hcs
      obtain ⟨m, hm, hstart, hstop⟩ := ih pre post rfl (by simpa using hlast)
      refine ⟨m, hm, ?_, ?_⟩ <;> simp [byteSize_eq_sum] at hstart hstop ⊢ <;> omega
  | @marker pos prev body rest ms hprev hbody _ ih =>
    intro pre post hcs hlast
    rw [show '#' :: '{' :: (body ++ '}' :: rest) = ('#' :: '{' :: (body ++ ['}'])) ++ rest by simp,
      List.append_eq_append_iff] at hcs
    rcases hcs with ⟨as, rfl, hrest⟩ | ⟨bs, hmarker, hpost⟩
    · -- the `#{` lies after this marker
      obtain ⟨m, hm, hstart, hstop⟩ := ih as post hrest (by simpa using hlast)
      refine ⟨m, List.mem_cons_of_mem _ hm, ?_, ?_⟩ <;>
        simp [byteSize_eq_sum, utf8Size_delims] at hstart hstop ⊢ <;> omega
    · cases bs with
      | nil =>
        -- the `#{` comes right after this marker
        obtain rfl : pre = '#' :: '{' :: (body ++ ['}']) := by simpa using hmarker.symm
        obtain ⟨m, hm, hstart, hstop⟩ := ih [] post (by simpa using hpost.symm) (by simp)
        refine ⟨m, List.mem_cons_of_mem _ hm, ?_, ?_⟩ <;>
          simp [byteSize_eq_sum, utf8Size_delims] at hstart hstop ⊢ <;> omega
      | cons b bs =>
        -- the `#{` starts inside this marker
        have hsize := congrArg (fun l => (l.map Char.utf8Size).sum) hmarker
        have hb := b.utf8Size_pos
        simp [utf8Size_delims] at hsize
        exact ⟨_, List.mem_cons_self, by simp, by simp [byteSize_eq_sum]; omega⟩

lemma Scanned.first {m : Marker} (h : Scanned pos prev cs (m :: ms)) :
    ∃ pre rest, cs = pre ++ rest ∧ m.stop = pos + byteSize pre ∧
      Scanned m.stop (some '}') rest ms := by
  generalize hms : m :: ms = l at h
  induction h generalizing m ms with
  | nil => cases hms
  | text _ _ ih =>
    obtain ⟨pre, rest, rfl, hstop, hrest⟩ := ih hms
    exact ⟨_ :: pre, rest, rfl, by simp [byteSize_eq_sum] at hstop ⊢; omega, hrest⟩
  | @marker pos prev body rest ms' _ _ hscan _ =>
    obtain ⟨rfl, rfl⟩ := List.cons.inj hms
    exact ⟨'#' :: '{' :: (body ++ ['}']), rest, by simp,
      by simp [byteSize_eq_sum, utf8Size_delims]; omega, hscan⟩

end ScanFacts

/-- A marker of the text after its first `k` bytes, with its offsets counted from there. -/
def Marker.after (k : Nat) (m : Marker) : Marker := ⟨m.start - k, m.stop - k, m.expr⟩

lemma Scanned.shift {pos : Nat} {prev : Option Char} {cs : List Char} {ms : List Marker}
    (h : Scanned pos prev cs ms) (k : Nat) :
    ∀ prev', (prev = some '\\' ↔ prev' = some '\\') → k ≤ pos →
      Scanned (pos - k) prev' cs (ms.map (Marker.after k)) := by
  induction h with
  | nil => intro prev' _ _; exact .nil _ _
  | @text pos prev c cs ms hopen _ ih =>
    intro prev' hprev hk
    have htail := ih (some c) Iff.rfl (by omega)
    rw [show pos + c.utf8Size - k = pos - k + c.utf8Size by omega] at htail
    exact .text (fun h' => hopen ⟨h'.1, fun hp => h'.2 (hprev.1 hp)⟩) htail
  | @marker pos prev body rest ms hp hbody _ ih =>
    intro prev' hprev hk
    have htail := ih (some '}') Iff.rfl (by omega)
    rw [show pos + 2 + byteSize body + 1 - k = pos - k + 2 + byteSize body + 1 by omega] at htail
    have hhead : Marker.after k ⟨pos, pos + 2 + byteSize body + 1, String.ofList body⟩ =
        ⟨pos - k, pos - k + 2 + byteSize body + 1, String.ofList body⟩ := by
      simp only [Marker.after, Marker.mk.injEq, true_and, and_true]; omega
    rw [List.map_cons, hhead]
    exact .marker (fun h' => hp (hprev.2 h')) hbody htail

/-! ## The markers of a text -/

lemma findMarkers_eq_ok_iff {s : String} {ms : List Marker} :
    findMarkers s = .ok ms ↔ Scanned 0 none s.toList ms := by
  have hfuel : s.toList.length < s.length + 1 := by rw [String.length_toList]; omega
  unfold findMarkers
  constructor
  · intro h
    split at h
    · next ms' hscan =>
      cases h
      exact scan_of_scanMarkers hscan hfuel
    · cases h
  · intro h
    rw [scanMarkers_of_scan h _ hfuel]

lemma findMarkers_eq_error_iff {s : String} :
    findMarkers s = .error (.config "expression" ("unterminated marker in '" ++ s ++ "'")) ↔
      ∃ pre post, s.toList = pre ++ '#' :: '{' :: post ∧ pre.getLast? ≠ some '\\' ∧
        (∃ ms, findMarkers (String.ofList pre) = .ok ms) ∧
        ∀ body rest, post = body ++ '}' :: rest → ¬ Closes 0 body := by
  have hfuel : s.toList.length < s.length + 1 := by rw [String.length_toList]; omega
  constructor
  · intro h
    unfold findMarkers at h
    split at h
    · cases h
    · next hscan =>
      obtain ⟨pre, post, ms, hcs, hscan, hlast, hpost⟩ := unclosed_of_scanMarkers hscan hfuel
      exact ⟨pre, post, hcs, by simpa [lastBefore] using hlast,
        ⟨ms, findMarkers_eq_ok_iff.2 (by simpa using hscan)⟩, closeMarker_eq_none_iff.1 hpost⟩
  · rintro ⟨pre, post, hcs, hlast, ⟨ms, hms⟩, hpost⟩
    have hscan := findMarkers_eq_ok_iff.1 hms
    rw [String.toList_ofList] at hscan
    have hnone := scanMarkers_unclosed_after hscan (by simpa [lastBefore] using hlast)
      (closeMarker_eq_none_iff.2 hpost) (s.length + 1) (hcs ▸ hfuel)
    rw [← hcs] at hnone
    simp [findMarkers, hnone]

/-- **The text after the first marker scans to the other markers**, their offsets counted from
the end of the first. -/
theorem findMarkers_after_first {s : String} {m : Marker} {rest : List Marker}
    (h : findMarkers s = .ok (m :: rest)) :
    findMarkers (byteSuffix s m.stop) = .ok (rest.map (Marker.after m.stop)) := by
  obtain ⟨pre, after, hcs, hstop, hafter⟩ := (findMarkers_eq_ok_iff.1 h).first
  -- the text after the marker starts at its `stop` offset
  have hsuffix : byteSuffix s m.stop = String.ofList after := by
    rw [byteSuffix, hcs, hstop, zero_add, byteSize_eq_sum, byteSuffix_go_append]
  rw [hsuffix, findMarkers_eq_ok_iff, String.toList_ofList]
  simpa using hafter.shift m.stop none (by simp) le_rfl

/-- **How `findMarkers` scans a text.** It fails, naming the text, exactly when some unescaped
`#{`, after text that scans, has no `}` that balances it. When it succeeds, its markers are in
order and apart; each spans an unescaped `#{`, its `expr` and the first `}` at which the braces
opened after `#{` balance, at the byte offsets where these stand; every unescaped `#{` starts
a marker or lies inside one; and the text after the first marker scans to the other markers,
their offsets counted from there. -/
theorem findMarkers_scans (s : String) :
    (findMarkers s = .error (.config "expression" ("unterminated marker in '" ++ s ++ "'")) ↔
      ∃ pre post, s.toList = pre ++ '#' :: '{' :: post ∧ pre.getLast? ≠ some '\\' ∧
        (∃ ms, findMarkers (String.ofList pre) = .ok ms) ∧
        ∀ body rest, post = body ++ '}' :: rest → ¬ Closes 0 body) ∧
    ∀ ms, findMarkers s = .ok ms →
      ms.Pairwise (fun m m' => m.stop ≤ m'.start) ∧
      (∀ m ∈ ms, ∃ pre rest,
        s.toList = pre ++ '#' :: '{' :: (m.expr.toList ++ '}' :: rest) ∧
        pre.getLast? ≠ some '\\' ∧ Closes 0 m.expr.toList ∧
        m.start = byteSize pre ∧ m.stop = m.start + byteSize m.expr.toList + 3) ∧
      (∀ pre post, s.toList = pre ++ '#' :: '{' :: post → pre.getLast? ≠ some '\\' →
        ∃ m ∈ ms, m.start ≤ byteSize pre ∧ byteSize pre < m.stop) ∧
      ∀ m rest, ms = m :: rest →
        findMarkers (byteSuffix s m.stop) = .ok (rest.map (Marker.after m.stop)) := by
  refine ⟨findMarkers_eq_error_iff, fun ms hms => ?_⟩
  have hscan := findMarkers_eq_ok_iff.1 hms
  refine ⟨hscan.ordered.2, fun m hm => ?_, fun pre post hcs hlast => ?_, fun m rest hrest => ?_⟩
  · obtain ⟨pre, body, rest, hcs, hlast, hbody, rfl⟩ := hscan.spans m hm
    exact ⟨pre, rest, by simpa using hcs, by simpa [lastBefore] using hlast, by simpa using hbody,
      by simp, by simp; omega⟩
  · simpa using hscan.covers pre post hcs (by simpa [lastBefore] using hlast)
  · subst hrest
    exact findMarkers_after_first hms

/-- Two markers around an escaped `#{`: the text after the first scans to the second alone. -/
theorem escaped_opener_between_markers :
    findMarkers "a#{x}\\#{y}#{z}" = .ok [⟨1, 5, "x"⟩, ⟨10, 14, "z"⟩] ∧
      findMarkers "\\#{y}#{z}" = .ok [⟨5, 9, "z"⟩] := by
  have h : findMarkers "a#{x}\\#{y}#{z}" = .ok [⟨1, 5, "x"⟩, ⟨10, 14, "z"⟩] := by rfl
  have hafter := ((findMarkers_scans _).2 _ h).2.2.2 _ _ rfl
  have hsuffix : byteSuffix "a#{x}\\#{y}#{z}" 5 = "\\#{y}#{z}" := by rfl
  exact ⟨h, by simpa [Marker.after, hsuffix] using hafter⟩

end TestRig.Expression
