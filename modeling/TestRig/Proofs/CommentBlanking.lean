import TestRig.CSource.Comments
import Mathlib

/-!
# Blanking comments out of a C source

`stripComments` overwrites each comment with spaces and leaves every other byte where it was.

* `Blanked.bytes`, from `stripFrom_blanked`: the output has the source's bytes, some of them
  other than newlines replaced by spaces, so offsets and line numbers are kept;
* `stripFrom_literal`: a string or character literal the scanner meets in code is copied as it
  is, comment openers inside it included, and the scan goes on in code after it;
* `stripFrom_again`: a second pass changes nothing. A blanked comment reads as code, and a `/`
  kept as code is never followed by a `/` or `*` that would open a comment.
-/

namespace TestRig.CSource

/-! ### One step of the scanner -/

lemma stripFrom_code_step {c : Char} {r : List Char}
    (h : c = '/' → r.head? ≠ some '/' ∧ r.head? ≠ some '*') :
    stripFrom .code (c :: r) =
      c :: stripFrom (if c == '"' then .string else if c == '\'' then .char else .code) r := by
  rw [stripFrom]
  · split <;> [rfl; split <;> rfl]
  all_goals rintro r' rfl rfl; simp at h

lemma stripFrom_code_cons {c : Char} {r : List Char} (hq : c ≠ '"') (hq' : c ≠ '\'')
    (h : c = '/' → r.head? ≠ some '/' ∧ r.head? ≠ some '*') :
    stripFrom .code (c :: r) = c :: stripFrom .code r := by
  simp [stripFrom_code_step h, hq, hq']

lemma stripFrom_block_step {c : Char} {r : List Char} (h : c = '*' → r.head? ≠ some '/') :
    stripFrom .blockComment (c :: r) = if c == '\n' then c :: stripFrom .blockComment r
      else blankOf c ++ stripFrom .blockComment r := by
  rw [stripFrom]
  rintro r' rfl rfl; simp at h

lemma stripFrom_string_step {c : Char} {r : List Char} (h : c = '\\' → r = []) :
    stripFrom .string (c :: r) =
      c :: stripFrom (if c == '"' || c == '\n' then .code else .string) r := by
  rw [stripFrom]
  · split <;> rfl
  rintro d r' rfl rfl; simp at h

lemma stripFrom_char_step {c : Char} {r : List Char} (h : c = '\\' → r = []) :
    stripFrom .char (c :: r) =
      c :: stripFrom (if c == '\'' || c == '\n' then .code else .char) r := by
  rw [stripFrom]
  · split <;> rfl
  rintro d r' rfl rfl; simp at h

lemma stripFrom_code_blanks (n : Nat) (r : List Char) :
    stripFrom .code (List.replicate n ' ' ++ r) = List.replicate n ' ' ++ stripFrom .code r := by
  induction n with
  | zero => rfl
  | succ n ih =>
    rw [List.replicate_succ, List.cons_append, stripFrom_code_cons (by decide) (by decide)
      (absurd · (by decide)), ih]
    rfl

/-! ### Layout -/

/-- `o` is `s` with some characters other than newlines replaced by as many spaces as they
have bytes. -/
inductive Blanked : List Char → List Char → Prop
  | nil : Blanked [] []
  | keep (c : Char) {s o : List Char} : Blanked s o → Blanked (c :: s) (c :: o)
  | blank {c : Char} {s o : List Char} : c ≠ '\n' → Blanked s o → Blanked (c :: s) (blankOf c ++ o)

lemma Blanked.blank_ascii {c : Char} {s o : List Char} (hc : c.utf8Size = 1) (hn : c ≠ '\n')
    (h : Blanked s o) : Blanked (c :: s) (' ' :: o) := by
  simpa [blankOf, hc] using Blanked.blank hn h

theorem stripFrom_blanked (st : Scan) (s : List Char) : Blanked s (stripFrom st s) := by
  fun_induction stripFrom st s with
  | case1 => exact .nil
  | case2 _ ih | case3 _ ih | case9 _ ih =>
    exact .blank_ascii rfl (by decide) (.blank_ascii rfl (by decide) ih)
  | case8 c _ hc ih | case11 c _ _ hc ih => exact .blank (by simpa using hc) ih
  | case12 d _ ih | case15 d _ ih => exact .keep _ (.keep d ih)
  | _ => exact .keep _ ‹_›

lemma eq_newline_of_mem_utf8EncodeChar {c : Char} (h : '\n'.toUInt8 ∈ String.utf8EncodeChar c) :
    c = '\n' := by
  rw [show '\n'.toUInt8 = 10 from rfl, String.utf8EncodeChar] at h
  have hc : c.toNat = c.val.toNat := rfl
  split_ifs at h with h1 <;> simp [UInt8.ext_iff, UInt8.toNat_ofNat] at h
  · exact Char.toNat_inj.1 (by simp; omega)
  all_goals omega

/-- A byte of the stripped text is the source's byte, or a space standing for a byte other than
a newline. -/
def BlankedByte (a b : UInt8) : Prop := b = a ∨ b = ' '.toUInt8 ∧ a ≠ '\n'.toUInt8

lemma forall₂_blankedByte_replicate {l : List UInt8} (h : '\n'.toUInt8 ∉ l) :
    List.Forall₂ BlankedByte l (List.replicate l.length ' '.toUInt8) := by
  induction l with
  | nil => exact .nil
  | cons a l ih =>
    simp only [List.mem_cons, not_or] at h
    exact .cons (.inr ⟨rfl, Ne.symm h.1⟩) (ih h.2)

lemma flatMap_utf8EncodeChar_spaces (n : Nat) :
    (List.replicate n ' ').flatMap String.utf8EncodeChar = List.replicate n ' '.toUInt8 := by
  induction n with
  | zero => rfl
  | succ n ih => rw [List.replicate_succ, List.flatMap_cons, ih]; rfl

theorem Blanked.bytes {s o : List Char} (h : Blanked s o) :
    List.Forall₂ BlankedByte (s.flatMap String.utf8EncodeChar) (o.flatMap String.utf8EncodeChar) := by
  induction h with
  | nil => exact .nil
  | keep c _ ih => exact List.rel_append (List.forall₂_same.2 fun _ _ => .inl rfl) ih
  | @blank c _ _ hc _ ih =>
    rw [List.flatMap_cons, List.flatMap_append, blankOf, flatMap_utf8EncodeChar_spaces,
      ← String.length_utf8EncodeChar]
    exact List.rel_append (forall₂_blankedByte_replicate (hc ∘ eq_newline_of_mem_utf8EncodeChar)) ih

lemma toList_data_toByteArray (s : String) :
    s.toByteArray.data.toList = s.toList.flatMap String.utf8EncodeChar := by
  conv_lhs => rw [← String.ofList_toList (s := s)]
  rw [String.toByteArray_ofList, List.utf8Encode, List.toList_data_toByteArray]

/-! ### Literals -/

/-- The inside of a literal closed by the quote `q`: characters other than `q`, a backslash and
a newline, and escapes, a backslash with any character after it. -/
inductive LiteralBody (q : Char) : List Char → Prop
  | nil : LiteralBody q []
  | plain {c : Char} {s : List Char} :
      c ≠ q → c ≠ '\\' → c ≠ '\n' → LiteralBody q s → LiteralBody q (c :: s)
  | escape (d : Char) {s : List Char} : LiteralBody q s → LiteralBody q ('\\' :: d :: s)

/-- The state the inside of a literal opened by the quote `q` is read in. -/
def Scan.quoted (q : Char) : Scan := if q == '"' then .string else .char

@[simp] lemma Scan.quoted_double : Scan.quoted '"' = .string := rfl
@[simp] lemma Scan.quoted_single : Scan.quoted '\'' = .char := rfl

lemma stripFrom_quoted_step {q c : Char} {r : List Char} (hq : q = '"' ∨ q = '\'')
    (hc : c ≠ '\\') :
    stripFrom (Scan.quoted q) (c :: r) =
      c :: stripFrom (if c == q || c == '\n' then .code else Scan.quoted q) r := by
  rcases hq with rfl | rfl
  · exact stripFrom_string_step (absurd · hc)
  · exact stripFrom_char_step (absurd · hc)

lemma stripFrom_literalBody {q e : Char} {b : List Char} (hb : LiteralBody q b)
    (hq : q = '"' ∨ q = '\'') (he : e = q ∨ e = '\n') (r : List Char) :
    stripFrom (Scan.quoted q) (b ++ e :: r) = b ++ e :: stripFrom .code r := by
  induction hb with
  | nil =>
    have : e ≠ '\\' := by rcases he with rfl | rfl <;> rcases hq with rfl | rfl <;> decide
    simp [stripFrom_quoted_step hq this, he]
  | plain hcq hcb hcn _ ih => simp [stripFrom_quoted_step hq hcb, hcq, hcn, ih]
  | escape d _ ih =>
    rcases hq with rfl | rfl <;> simp only [Scan.quoted_double, Scan.quoted_single,
      List.cons_append] at ih ⊢ <;> rw [stripFrom, ih]

/-- The state the scanner is in after reading a whole text from `st`. -/
def Scan.after : Scan → List Char → Scan
  | st, [] => st
  | .code, '/' :: '/' :: r => after .lineComment r
  | .code, '/' :: '*' :: r => after .blockComment r
  | .code, c :: r => after (if c == '"' then .string else if c == '\'' then .char else .code) r
  | .lineComment, c :: r => after (if c == '\n' then .code else .lineComment) r
  | .blockComment, '*' :: '/' :: r => after .code r
  | .blockComment, _ :: r => after .blockComment r
  | .string, '\\' :: _ :: r => after .string r
  | .string, c :: r => after (if c == '"' || c == '\n' then .code else .string) r
  | .char, '\\' :: _ :: r => after .char r
  | .char, c :: r => after (if c == '\'' || c == '\n' then .code else .char) r

lemma stripFrom_append_quote {st : Scan} {p : List Char} (hp : Scan.after st p = .code)
    {q : Char} (hq : q = '"' ∨ q = '\'') (r : List Char) :
    stripFrom st (p ++ q :: r) = stripFrom st p ++ stripFrom .code (q :: r) := by
  have hq' : q ≠ '/' ∧ q ≠ '*' := by rcases hq with rfl | rfl <;> decide
  fun_induction Scan.after st p with
  | case1 st => subst hp; rfl
  | case2 p ih | case3 p ih | case6 p ih | case8 _ p ih | case10 _ p ih =>
    simp only [List.cons_append, stripFrom, ih hp]
  | case4 c p h1 h2 ih =>
    -- a `/` here opens nothing, with the quote after it or without
    have hy : c = '/' → p.head? ≠ some '/' ∧ p.head? ≠ some '*' := by
      rintro rfl; cases p <;> simp_all
    have hx : c = '/' → (p ++ q :: r).head? ≠ some '/' ∧ (p ++ q :: r).head? ≠ some '*' := by
      rintro rfl; cases p <;> simp_all
    rw [List.cons_append, stripFrom_code_step hx, stripFrom_code_step hy, ih hp]; rfl
  | case5 c p ih => simp only [List.cons_append, stripFrom]; split <;> simp_all
  | case7 c p h ih =>
    have hy : c = '*' → p.head? ≠ some '/' := by rintro rfl; cases p <;> simp_all
    have hx : c = '*' → (p ++ q :: r).head? ≠ some '/' := by rintro rfl; cases p <;> simp_all
    rw [List.cons_append, stripFrom_block_step hx, stripFrom_block_step hy]
    split <;> simp [ih hp]
  | case9 c p h ih =>
    -- a backslash at the very end would leave the scanner inside the string
    have hc : c ≠ '\\' := by
      rintro rfl; cases p with | nil => simp [Scan.after] at hp | cons d p => exact h d p rfl rfl
    rw [List.cons_append, stripFrom_string_step (absurd · hc), stripFrom_string_step (absurd · hc),
      ih hp]; rfl
  | case11 c p h ih =>
    have hc : c ≠ '\\' := by
      rintro rfl; cases p with | nil => simp [Scan.after] at hp | cons d p => exact h d p rfl rfl
    rw [List.cons_append, stripFrom_char_step (absurd · hc), stripFrom_char_step (absurd · hc),
      ih hp]; rfl

/-- A literal the scanner meets in code is copied as it is, and the scan goes on in code after
its closing quote, or after the newline that ends it unclosed. -/
theorem stripFrom_literal {p b r : List Char} {q e : Char} (hp : Scan.after .code p = .code)
    (hq : q = '"' ∨ q = '\'') (hb : LiteralBody q b) (he : e = q ∨ e = '\n') :
    stripFrom .code (p ++ q :: b ++ e :: r) =
      stripFrom .code p ++ q :: b ++ e :: stripFrom .code r := by
  have hopen : stripFrom .code (q :: (b ++ e :: r)) =
      q :: stripFrom (Scan.quoted q) (b ++ e :: r) := by
    rcases hq with rfl | rfl <;> rw [stripFrom_code_step (absurd · (by decide))] <;> rfl
  rw [List.append_assoc, List.cons_append, stripFrom_append_quote hp hq, hopen,
    stripFrom_literalBody hb hq he]
  simp

/-! ### A second pass -/

lemma stripFrom_code_head {c : Char} {r : List Char} (h : c ∈ (stripFrom .code r).head?)
    (hc : c ≠ ' ') : r.head? = some c := by
  match r with
  | [] => simp [stripFrom] at h
  | d :: r =>
    by_cases hop : d = '/' → r.head? ≠ some '/' ∧ r.head? ≠ some '*'
    · simpa [stripFrom_code_step hop] using h
    · -- an opener: the output starts with a blank
      obtain ⟨rfl, e, r, rfl, he⟩ : d = '/' ∧ ∃ e r', r = e :: r' ∧ (e = '/' ∨ e = '*') := by
        cases r <;> simp_all
        tauto
      rcases he with rfl | rfl <;> simp [stripFrom] at h <;> exact absurd h.symm hc

/-- The state a second pass is in where the first was in `st`: a blanked comment reads as code. -/
def Scan.again : Scan → Scan
  | .lineComment | .blockComment => .code
  | st => st

theorem stripFrom_again (st : Scan) (s : List Char) :
    stripFrom st.again (stripFrom st s) = stripFrom st s := by
  fun_induction stripFrom st s <;> simp only [Scan.again] at *
  case case1 st => cases st <;> rfl
  case case2 r ih | case3 r ih | case9 r ih =>
    exact (stripFrom_code_blanks 2 _).trans (congrArg _ ih)
  case case8 c r _ ih | case11 c r _ _ ih =>
    exact (stripFrom_code_blanks _ _).trans (congrArg _ ih)
  case case7 c r hc ih | case10 c r _ hc ih =>
    simp only [beq_iff_eq] at hc; subst hc
    exact (stripFrom_code_cons (by decide) (by decide) (absurd · (by decide))).trans (congrArg _ ih)
  case case4 c r _ _ hc ih | case5 c r _ _ _ hc ih =>
    simp only [beq_iff_eq] at hc; subst hc
    rw [stripFrom_code_step (absurd · (by decide))]
    simpa using ih
  case case6 c r h1 h2 hq hq' ih =>
    simp only [beq_iff_eq] at hq hq'
    refine (stripFrom_code_cons hq hq' fun hc => ?_).trans (congrArg _ ih)
    -- a `/` kept as code is followed by neither `/` nor `*`, in the output as in the source
    constructor <;> intro hh
    · obtain ⟨r', rfl⟩ := List.head?_eq_some_iff.1
        (stripFrom_code_head (r := r) (c := '/') (by simp [hh]) (by decide))
      exact h1 _ hc rfl
    · obtain ⟨r', rfl⟩ := List.head?_eq_some_iff.1
        (stripFrom_code_head (r := r) (c := '*') (by simp [hh]) (by decide))
      exact h2 _ hc rfl
  case case12 d r ih | case15 d r ih => rw [stripFrom, ih]
  case case13 c r _ hc ih =>
    have : c ≠ '\\' := by rintro rfl; simp at hc
    rw [stripFrom_string_step (absurd · this)]; simpa [hc] using ih
  case case16 c r _ hc ih =>
    have : c ≠ '\\' := by rintro rfl; simp at hc
    rw [stripFrom_char_step (absurd · this)]; simpa [hc] using ih
  case case14 c r hne hc ih =>
    -- a backslash here is the last character, with nothing after it to escape
    have hr : c = '\\' → stripFrom .string r = [] := by
      rintro rfl; cases r with | nil => rfl | cons d r => exact (hne d r rfl rfl).elim
    rw [stripFrom_string_step hr]; simpa [hc] using ih
  case case17 c r hne hc ih =>
    have hr : c = '\\' → stripFrom .char r = [] := by
      rintro rfl; cases r with | nil => rfl | cons d r => exact (hne d r rfl rfl).elim
    rw [stripFrom_char_step hr]; simpa [hc] using ih

/-! ### The stripped text -/

/-- Stripping keeps the layout, copies literals and is idempotent: the stripped text has the
source's bytes, each kept or replaced by a space where it was not a newline; a literal met in
code, `//` and `/*` inside it included, is copied; and stripping twice strips once. -/
theorem stripComments_layout_literals_idem :
    (∀ s : String, List.Forall₂ BlankedByte s.toByteArray.data.toList
      (stripComments s).toByteArray.data.toList) ∧
    (∀ (p b r : List Char) (q e : Char), Scan.after .code p = .code → (q = '"' ∨ q = '\'') →
      LiteralBody q b → (e = q ∨ e = '\n') →
      (stripComments (String.ofList (p ++ q :: b ++ e :: r))).toList =
        stripFrom .code p ++ q :: b ++ e :: stripFrom .code r) ∧
    ∀ s : String, stripComments (stripComments s) = stripComments s := by
  refine ⟨fun s => ?_, fun p b r q e hp hq hb he => ?_, fun s => ?_⟩
  · rw [toList_data_toByteArray, toList_data_toByteArray, stripComments, String.toList_ofList]
    exact (stripFrom_blanked .code s.toList).bytes
  · rw [stripComments, String.toList_ofList, String.toList_ofList, stripFrom_literal hp hq hb he]
  · rw [stripComments, stripComments, String.toList_ofList]
    exact congrArg String.ofList (stripFrom_again .code _)

example : stripComments "a = \"// not a comment\"; /* gone\n */ b; // gone\nc" =
    "a = \"// not a comment\";        \n    b;        \nc" := by decide

end TestRig.CSource
