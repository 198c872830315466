import TestRig.CSource.Prototype
import Mathlib

/-!
# The text prototypes are looked for in

Before prototypes are looked for, brace-delimited bodies are cut out of a header's text, a
closed body leaving a `;`. The cut is blind to what the braces are: any block at the outer
level goes, with everything written inside it.

* `stripBodies_balanced_append`: inside a body, balanced text is cut out and leaves the depth
  as it found it;
* `stripBodies_cuts_block`: at the outer level a closed block becomes a single `;`, so the
  declarations of a linkage block `extern "C" { ... }` are never seen.
-/

namespace TestRig.CSource

/-- Text whose braces pair up: plain characters, and blocks `{ ... }` of such text. -/
inductive Balanced : List Char → Prop
  | nil : Balanced []
  | plain {c : Char} {s : List Char} : c ≠ '{' → c ≠ '}' → Balanced s → Balanced (c :: s)
  | block {a b : List Char} : Balanced a → Balanced b → Balanced ('{' :: a ++ '}' :: b)

lemma Balanced.of_braceFree {s : List Char} (h : ∀ c ∈ s, c ≠ '{' ∧ c ≠ '}') : Balanced s := by
  induction s with
  | nil => exact .nil
  | cons c s ih =>
    exact .plain (h c List.mem_cons_self).1 (h c List.mem_cons_self).2
      (ih fun d hd => h d (List.mem_cons_of_mem c hd))

lemma stripBodies_balanced_append {b : List Char} (hb : Balanced b) (rest : List Char) {d : Nat}
    (hd : 0 < d) : stripBodies (b ++ rest) d = stripBodies rest d := by
  induction hb generalizing d rest with
  | nil => rfl
  | plain hc hc' _ ih =>
    have hd0 : (d == 0) = false := by simpa using Nat.pos_iff_ne_zero.1 hd
    simp [stripBodies, hc, hc', hd0, ih _ hd]
  | block _ _ iha ihb =>
    -- the opening brace goes one level down, the balanced inside returns to it, the closing
    -- brace comes back up without reaching the outer level
    simp only [List.cons_append, List.append_assoc]
    simp only [stripBodies, beq_self_eq_true, if_true]
    rw [iha _ (Nat.succ_pos d)]
    simp [stripBodies, Nat.pos_iff_ne_zero.1 hd, ihb _ hd]

/-- At the outer level, a closed block is cut out and leaves a single `;`: declarations written
inside braces, such as those of a linkage block, never reach the prototype search. -/
theorem stripBodies_cuts_block {pre body : List Char} (hpre : '{' ∉ pre ∧ '}' ∉ pre)
    (hbody : Balanced body) (rest : List Char) :
    stripBodies (pre ++ '{' :: body ++ '}' :: rest) 0 = pre ++ ';' :: stripBodies rest 0 := by
  induction pre with
  | nil =>
    simp only [List.nil_append, List.cons_append]
    simp only [stripBodies, beq_self_eq_true, if_true]
    rw [stripBodies_balanced_append hbody _ Nat.one_pos]
    simp [stripBodies]
  | cons c pre ih =>
    simp only [List.mem_cons, not_or] at hpre
    have hc : (c == '{') = false := by simpa using Ne.symm hpre.1.1
    have hc' : (c == '}') = false := by simpa using Ne.symm hpre.2.1
    simp only [List.cons_append, List.append_assoc] at ih ⊢
    simp [stripBodies, hc, hc', ih ⟨hpre.1.2, hpre.2.2⟩]

/-- The linkage block of a guarded header is cut whole, and the header yields no prototype. -/
theorem stripBodies_cuts_linkage_block :
    let pre := "extern \"C\" ".toList
    let body := " int uart_read(int fd); void uart_init(void); ".toList
    ('{' ∉ pre ∧ '}' ∉ pre) ∧ Balanced body ∧
      stripBodies (pre ++ '{' :: body ++ '}' :: []) 0 = pre ++ ';' :: stripBodies [] 0 ∧
      (parsePrototypes ("#ifdef __cplusplus\nextern \"C\" \x7b\n#endif\nint uart_read(int fd);\n" ++
        "void uart_init(void);\n#ifdef __cplusplus\n\x7d\n#endif\n")).toOption.map List.isEmpty =
        some true := by
  intro pre body
  have hpre : '{' ∉ pre ∧ '}' ∉ pre := by simp [pre]
  have hbody : Balanced body := Balanced.of_braceFree (by simp [body])
  -- the guarded header as a whole: its declarations sit in the cut block, so none is found
  exact ⟨hpre, hbody, stripBodies_cuts_block hpre hbody [], by decide +kernel⟩

end TestRig.CSource
