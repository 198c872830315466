import TestRig.Build.Toolchain
import Mathlib

/-!
# Peak concurrency of executions

`maxConcurrent` samples, at the start of each execution, how many executions are running. The
number running changes only at starts and stops and rises only at starts, so these samples
reach its maximum over all instants.

* `coverage_le_maxConcurrent`: no instant has more executions running;
* `exists_coverage_eq_maxConcurrent`: some instant has exactly that many;
* `maxConcurrent_is_peak`: it is the largest number of executions running at one instant, of
  executions sharing an instant, and of executions overlapping pairwise, and it is zero exactly
  when no execution stops after it starts.
-/

namespace TestRig.Build

/-! ## Running at an instant -/

namespace ExecutionRecord

/-- The execution is running at instant `t`. -/
def Runs (r : ExecutionRecord) (t : Int) : Prop := r.start ≤ t ∧ t < r.stop

@[simp] lemma runs_iff (r : ExecutionRecord) (t : Int) :
    (r.start ≤ t && t < r.stop) = true ↔ r.Runs t := by
  simp [Runs]

end ExecutionRecord

/-- How many of the executions are running at instant `t`. -/
def coverage (records : List ExecutionRecord) (t : Int) : Nat :=
  records.countP fun r => r.start ≤ t && t < r.stop

lemma exists_running_sublist (records : List ExecutionRecord) (t : Int) :
    ∃ S : List ExecutionRecord, S.Sublist records ∧ S.length = coverage records t ∧
      ∀ r ∈ S, r.Runs t :=
  ⟨_, List.filter_sublist, List.countP_eq_length_filter.symm,
    fun r hr => (ExecutionRecord.runs_iff r t).1 (List.mem_filter.1 hr).2⟩

lemma length_le_coverage {S records : List ExecutionRecord} (hS : S.Sublist records) {t : Int}
    (hrun : ∀ r ∈ S, r.Runs t) : S.length ≤ coverage records t := by
  have hall : S.countP (fun r => r.start ≤ t && t < r.stop) = S.length :=
    List.countP_eq_length.2 fun r hr => (ExecutionRecord.runs_iff r t).2 (hrun r hr)
  rw [← hall]
  exact hS.countP_le

lemma exists_last_start {S : List ExecutionRecord} (h : S ≠ []) :
    ∃ a ∈ S, ∀ r ∈ S, r.start ≤ a.start := by
  obtain ⟨a, ha, hmax⟩ := S.toFinset.exists_max_image (·.start) (by simpa using h)
  exact ⟨a, List.mem_toFinset.1 ha, fun r hr => hmax r (List.mem_toFinset.2 hr)⟩

lemma runs_at_last_start {S : List ExecutionRecord} {a : ExecutionRecord}
    (hlast : ∀ r ∈ S, r.start ≤ a.start) (hover : ∀ r ∈ S, ∃ u, a.Runs u ∧ r.Runs u) :
    ∀ r ∈ S, r.Runs a.start := by
  intro r hr
  obtain ⟨u, ⟨hau, -⟩, -, hur⟩ := hover r hr
  exact ⟨hlast r hr, lt_of_le_of_lt hau hur⟩

lemma coverage_le_at_start (records : List ExecutionRecord) (t : Int) :
    coverage records t = 0 ∨ ∃ a ∈ records, coverage records t ≤ coverage records a.start := by
  obtain ⟨S, hsub, hlen, hrun⟩ := exists_running_sublist records t
  rcases eq_or_ne S [] with rfl | hS
  · exact .inl hlen.symm
  · -- the executions running at `t` still run when the last of them starts
    obtain ⟨a, haS, hlast⟩ := exists_last_start hS
    have hS_at : ∀ r ∈ S, r.Runs a.start :=
      runs_at_last_start hlast fun r hr => ⟨t, hrun a haS, hrun r hr⟩
    exact .inr ⟨a, hsub.subset haS, hlen ▸ length_le_coverage hsub hS_at⟩

/-! ## The fold of samples -/

section FoldMax

variable {α : Type} (f : α → Nat)

lemma le_foldl_max (l : List α) (init : Nat) :
    init ≤ l.foldl (fun p a => max p (f a)) init ∧
      ∀ a ∈ l, f a ≤ l.foldl (fun p a => max p (f a)) init := by
  induction l generalizing init with
  | nil => simp
  | cons x l ih =>
    obtain ⟨h1, h2⟩ := ih (max init (f x))
    refine ⟨le_trans (le_max_left _ _) h1, ?_⟩
    rintro a (_ | ⟨_, ha⟩)
    · exact le_trans (le_max_right _ _) h1
    · exact h2 a ha

lemma foldl_max_mem (l : List α) (init : Nat) :
    l.foldl (fun p a => max p (f a)) init = init ∨
      ∃ a ∈ l, l.foldl (fun p a => max p (f a)) init = f a := by
  induction l generalizing init with
  | nil => simp
  | cons x l ih =>
    rcases ih (max init (f x)) with h | ⟨a, ha, h⟩
    · rw [List.foldl_cons, h]
      rcases max_choice init (f x) with hm | hm
      · exact .inl hm
      · exact .inr ⟨x, by simp, hm⟩
    · exact .inr ⟨a, by simp [ha], h⟩

end FoldMax

lemma maxConcurrent_eq (records : List ExecutionRecord) :
    maxConcurrent records = records.foldl (fun p a => max p (coverage records a.start)) 0 :=
  rfl

/-! ## The peak -/

lemma coverage_le_maxConcurrent (records : List ExecutionRecord) (t : Int) :
    coverage records t ≤ maxConcurrent records := by
  have hge := le_foldl_max (fun a => coverage records a.start) records 0
  rw [maxConcurrent_eq]
  rcases coverage_le_at_start records t with h | ⟨a, ha, h⟩
  · omega
  · exact le_trans h (hge.2 a ha)

lemma exists_coverage_eq_maxConcurrent (records : List ExecutionRecord) :
    ∃ t, coverage records t = maxConcurrent records := by
  rcases foldl_max_mem (fun a => coverage records a.start) records 0 with h | ⟨a, -, h⟩
  · refine ⟨0, le_antisymm (coverage_le_maxConcurrent records 0) ?_⟩
    rw [maxConcurrent_eq, h]
    exact Nat.zero_le _
  · exact ⟨a.start, by rw [maxConcurrent_eq, h]⟩

/-- **`maxConcurrent` is the peak concurrency.** It is the largest number of executions running
at one instant; the largest number of executions whose spans share an instant; and the largest
number of executions whose spans overlap pairwise, since such spans share an instant. It is zero
exactly when no execution stops after it starts. -/
theorem maxConcurrent_is_peak (records : List ExecutionRecord) :
    IsGreatest (Set.range (coverage records)) (maxConcurrent records) ∧
    IsGreatest {n | ∃ S : List ExecutionRecord, S.Sublist records ∧ S.length = n ∧
      ∃ t, ∀ r ∈ S, r.Runs t} (maxConcurrent records) ∧
    IsGreatest {n | ∃ S : List ExecutionRecord, S.Sublist records ∧ S.length = n ∧
      ∀ a ∈ S, ∀ b ∈ S, ∃ t, a.Runs t ∧ b.Runs t} (maxConcurrent records) ∧
    (maxConcurrent records = 0 ↔ ∀ r ∈ records, r.stop ≤ r.start) := by
  obtain ⟨t₀, ht₀⟩ := exists_coverage_eq_maxConcurrent records
  -- the executions running at `t₀` are a largest set of each kind
  obtain ⟨S₀, hsub₀, hlen₀, hrun₀⟩ := exists_running_sublist records t₀
  rw [ht₀] at hlen₀
  have hcommon : ∀ S : List ExecutionRecord, S.Sublist records → (∃ t, ∀ r ∈ S, r.Runs t) →
      S.length ≤ maxConcurrent records := fun S hS ⟨t, ht⟩ =>
    le_trans (length_le_coverage hS ht) (coverage_le_maxConcurrent records t)
  refine ⟨⟨⟨t₀, ht₀⟩, ?_⟩, ⟨⟨S₀, hsub₀, hlen₀, t₀, hrun₀⟩, ?_⟩,
    ⟨⟨S₀, hsub₀, hlen₀, fun a ha b hb => ⟨t₀, hrun₀ a ha, hrun₀ b hb⟩⟩, ?_⟩, ?_⟩
  · rintro _ ⟨t, rfl⟩
    exact coverage_le_maxConcurrent records t
  · rintro _ ⟨S, hS, rfl, ht⟩
    exact hcommon S hS ht
  · rintro _ ⟨S, hS, rfl, hover⟩
    rcases eq_or_ne S [] with rfl | hne
    · exact Nat.zero_le _
    · obtain ⟨a, ha, hlast⟩ := exists_last_start hne
      exact hcommon S hS ⟨a.start, runs_at_last_start hlast fun r hr => hover a ha r hr⟩
  · constructor
    · intro h r hr
      by_contra hlt
      have hpos : 0 < coverage records r.start :=
        List.countP_pos_iff.2 ⟨r, hr, (ExecutionRecord.runs_iff r r.start).2 ⟨le_rfl, by omega⟩⟩
      have hle := coverage_le_maxConcurrent records r.start
      omega
    · intro h
      rw [← ht₀, coverage, List.countP_eq_zero]
      intro r hr hrun
      have hspan := (ExecutionRecord.runs_iff r t₀).1 hrun
      exact absurd (lt_of_le_of_lt hspan.1 hspan.2) (not_lt.2 (h r hr))

end TestRig.Build
