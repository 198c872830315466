import TestRig.Build.ObjectState
import Mathlib

/-!
# What an object's digest is taken of

An object's digest is BLAKE3 of one byte string: the command line, the source, and for each
dependency its dependency file lists, the source apart, its path and its bytes, all joined by
zero bytes. A dependency that cannot be read adds its path and no bytes, just as an empty one.

* `objectDigest_eq_hash`: the digest is the hash of `digestInput`;
* `digestInput_eq_iff`: where no field holds a zero byte, the string gives back its fields, so
  two sets of inputs give the same string only when they agree;
* `digest_missing_dependency_as_empty`: a listed dependency that is missing and one that is
  there and empty give the same digest.
-/

namespace TestRig.Build

open TestRig.Files TestRig.Digest TestRig.Text

lemma ByteArray.toList_loop_eq (bs : ByteArray) (i : Nat) (r : List UInt8) :
    ByteArray.toList.loop bs i r = r.reverse ++ bs.data.toList.drop i := by
  fun_induction ByteArray.toList.loop bs i r with
  | case1 i r h ih =>
    have hi : i < bs.data.toList.length := by simpa using h
    rw [ih, List.drop_eq_getElem_cons hi]
    simp [ByteArray.get!, h]
  | case2 i r h =>
    simp [List.drop_eq_nil_of_le (by simpa using Nat.le_of_not_lt h : bs.data.toList.length ≤ i)]

lemma toUTF8_toList_inj {s t : String} (h : s.toUTF8.toList = t.toUTF8.toList) : s = t := by
  simp only [ByteArray.toList, ByteArray.toList_loop_eq, List.reverse_nil, List.nil_append,
    List.drop_zero, Array.toList_inj] at h
  exact String.toByteArray_inj.1 (ByteArray.ext h)

/-- What a dependency adds beside its path: its bytes, none when it cannot be read. -/
def contentsOf (fs : Tree) (d : String) : List UInt8 :=
  ((fs.readFile d).toOption.map (·.toList)).getD []

/-- The dependencies a digest covers, each with what it adds. -/
def prerequisites (fs : Tree) (source depFile : String) : List (String × List UInt8) :=
  ((depsOf fs depFile).filter fun d => Path.clean d != Path.clean source).map
    fun d => (d, contentsOf fs d)

/-- The fields a digest is taken of, in order. -/
def digestFields (line : String) (src : List UInt8) (deps : List (String × List UInt8)) :
    List (List UInt8) :=
  line.toUTF8.toList :: src :: deps.flatMap fun (d, c) => [d.toUTF8.toList, c]

/-- The byte string a digest is taken of: its fields joined by zero bytes. -/
def digestInput (line : String) (src : List UInt8) (deps : List (String × List UInt8)) :
    List UInt8 :=
  [0].intercalate (digestFields line src deps)

lemma intercalate_pairs (a : List UInt8) (deps : List (String × List UInt8)) :
    [0].intercalate (a :: deps.flatMap fun (d, c) => [d.toUTF8.toList, c]) =
      a ++ deps.flatMap fun (d, c) => [0] ++ d.toUTF8.toList ++ [0] ++ c := by
  induction deps generalizing a with
  | nil => simp
  | cons p deps ih =>
    obtain ⟨d, c⟩ := p
    simp only [List.flatMap_cons, List.cons_append, List.nil_append, List.intercalate_cons_cons]
    rw [ih]
    simp

theorem objectDigest_eq_hash {fs : Tree} {line source depFile : String} {src : ByteArray}
    (h : fs.readFile source = .ok src) :
    objectDigest fs line source depFile =
      .ok (hexText (blake3 (digestInput line src.toList (prerequisites fs source depFile)))) := by
  simp only [objectDigest, h, Except.mapError, bind, Except.bind, pure, Except.pure]
  refine congrArg (fun b => Except.ok (hexText (blake3 b))) ?_
  rw [digestInput, digestFields, List.intercalate_cons_cons, intercalate_pairs, prerequisites,
    List.flatMap_map]
  simp [contentsOf, List.append_assoc]

lemma flatMap_pairs_inj {d₁ d₂ : List (String × List UInt8)}
    (h : (d₁.flatMap fun (d, c) => [d.toUTF8.toList, c]) =
      d₂.flatMap fun (d, c) => [d.toUTF8.toList, c]) : d₁ = d₂ := by
  induction d₁ generalizing d₂ with
  | nil => cases d₂ <;> simp_all
  | cons p d₁ ih =>
    cases d₂ with
    | nil => simp at h
    | cons p' d₂ =>
      simp only [List.flatMap_cons, List.cons_append, List.nil_append, List.cons.injEq] at h
      obtain ⟨hd, hc, hr⟩ := h
      rw [Prod.ext (toUTF8_toList_inj hd) hc, ih hr]

/-- Where no field holds a zero byte, the string a digest is taken of gives back the command line,
the source and every dependency with its bytes. -/
theorem digestInput_eq_iff {l₁ l₂ : String} {s₁ s₂ : List UInt8}
    {d₁ d₂ : List (String × List UInt8)}
    (h₁ : ∀ f ∈ digestFields l₁ s₁ d₁, 0 ∉ f) (h₂ : ∀ f ∈ digestFields l₂ s₂ d₂, 0 ∉ f) :
    digestInput l₁ s₁ d₁ = digestInput l₂ s₂ d₂ ↔ l₁ = l₂ ∧ s₁ = s₂ ∧ d₁ = d₂ := by
  refine ⟨fun h => ?_, by rintro ⟨rfl, rfl, rfl⟩; rfl⟩
  -- splitting at the zero bytes gives back the fields
  have hf : digestFields l₁ s₁ d₁ = digestFields l₂ s₂ d₂ := by
    rw [← List.splitOn_intercalate 0 h₁ (List.cons_ne_nil _ _),
      ← List.splitOn_intercalate 0 h₂ (List.cons_ne_nil _ _)]
    exact congrArg _ h
  simp only [digestFields, List.cons.injEq] at hf
  exact ⟨toUTF8_toList_inj hf.1, hf.2.1, flatMap_pairs_inj hf.2.2⟩

/-- An object's digest is BLAKE3 of its command line, its source and its listed dependencies
with their bytes, a dependency that cannot be read counting as an empty one; where none of these
holds a zero byte, the string hashed determines them all. -/
theorem objectDigest_determines_inputs :
    (∀ (fs : Tree) (line source depFile : String) (src : ByteArray),
      fs.readFile source = .ok src →
      objectDigest fs line source depFile =
        .ok (hexText (blake3 (digestInput line src.toList (prerequisites fs source depFile))))) ∧
    ∀ (l₁ l₂ : String) (s₁ s₂ : List UInt8) (d₁ d₂ : List (String × List UInt8)),
      (∀ f ∈ digestFields l₁ s₁ d₁, 0 ∉ f) → (∀ f ∈ digestFields l₂ s₂ d₂, 0 ∉ f) →
      (digestInput l₁ s₁ d₁ = digestInput l₂ s₂ d₂ ↔ l₁ = l₂ ∧ s₁ = s₂ ∧ d₁ = d₂) :=
  ⟨fun _ _ _ _ _ h => objectDigest_eq_hash h, fun _ _ _ _ _ _ h₁ h₂ => digestInput_eq_iff h₁ h₂⟩

/-- The tree of a source `a.c` whose dependency file lists `b.h`, with or without `b.h`. -/
def depTree (header : Bool) : Tree :=
  { nodes := [("/a.c", .file ByteArray.empty), ("/a.d", .file "a.o: a.c b.h\n".toUTF8)] ++
      if header then [("/b.h", .file ByteArray.empty)] else [] }

/-- A listed dependency that is there and empty and one that is missing give the same digest. -/
theorem digest_missing_dependency_as_empty :
    ((depTree true).readFile "b.h").toOption = some ByteArray.empty ∧
    ((depTree false).readFile "b.h").toOption = none ∧
    prerequisites (depTree true) "a.c" "a.d" = prerequisites (depTree false) "a.c" "a.d" ∧
    objectDigest (depTree true) "cc" "a.c" "a.d" = objectDigest (depTree false) "cc" "a.c" "a.d" := by
  have hp : prerequisites (depTree true) "a.c" "a.d" = prerequisites (depTree false) "a.c" "a.d" := by
    cbv
  have h₁ : (depTree true).readFile "a.c" = .ok ByteArray.empty := rfl
  have h₂ : (depTree false).readFile "a.c" = .ok ByteArray.empty := rfl
  refine ⟨rfl, rfl, hp, ?_⟩
  rw [objectDigest_eq_hash h₁, objectDigest_eq_hash h₂, hp]

end TestRig.Build
