import TestRig.Yaml.Decode
import Mathlib

/-!
Reading a mapping into a record leaves alone every field whose key the mapping does not name.
`Node.setNames` over-approximates the names a mapping can set: the strings its keys can read as,
and those of the mappings its merge keys name. `Yields x P` says that every value the reading
`x` can end with satisfies `P`; the lemmas below carry such facts through the binds of the
reader.

* `string_decode_keys`: a key reads as one of the strings the key node can stand for;
* `fill_keeps`: filling a value from the pairs of a mapping keeps an invariant that every pair
  with a name the mapping sets keeps;
* `record_decode_keeps`, `decodeNode_keeps`: a record read over a current value agrees with it
  on every key the node does not set, when each field changes the record at its own key only.
-/

namespace TestRig.Yaml

open TestRig.Text

/-! ### The names a node sets -/

namespace Node

/-- The strings a node read as a mapping key can stand for: a scalar's text, or the text of the
bytes its base64 stands for; an alias stands for what its target does. -/
def keyStrings : Node → List String
  | .scalar _ t _ => t :: ((decodeBase64 t).map fun b => utf8Lossy b "").toList
  | .aliasOf _ _ (some t) _ => t.keyStrings
  | _ => []

mutual
/-- The names a node read as a record can set: its keys' strings, and for a merge key the names
of what its value names. -/
def setNames : Node → List String
  | .map _ entries _ => entriesSetNames entries
  | .seq _ items _ => itemsSetNames items
  | .aliasOf _ _ (some t) _ => t.setNames
  | _ => []

/-- The names the pairs of a mapping can set. -/
def entriesSetNames : List (Node × Node) → List String
  | [] => []
  | (k, v) :: rest =>
    k.keyStrings ++ (if k.isMergeKey then v.setNames else []) ++ entriesSetNames rest

/-- The names the items of a merged sequence can set. -/
def itemsSetNames : List Node → List String
  | [] => []
  | n :: rest => n.setNames ++ itemsSetNames rest
end

theorem setNames_subset_items {i : Node} {items : List Node} (hi : i ∈ items) :
    i.setNames ⊆ itemsSetNames items := by
  induction items with
  | nil => cases hi
  | cons n rest ih =>
    simp only [itemsSetNames]
    rcases List.mem_cons.mp hi with rfl | hi
    · exact List.subset_append_left _ _
    · exact List.Subset.trans (ih hi) (List.subset_append_right _ _)

end Node

/-! ### Facts about every outcome of a reading -/

/-- Every value the reading `x` can end with satisfies `P`. -/
def Yields (x : DecodeM α) (P : α → Prop) : Prop :=
  ∀ st a st', x.run st = .ok (a, st') → P a

namespace Yields

variable {α β : Type} {x : DecodeM α} {P Q : α → Prop}

theorem trivial (x : DecodeM α) : Yields x fun _ => True := fun _ _ _ _ => True.intro

theorem pure {a : α} (h : P a) : Yields (Pure.pure a) P := by
  intro st a' st' hrun
  cases hrun
  exact h

theorem bind {f : α → DecodeM β} {R : β → Prop} (hx : Yields x Q)
    (hf : ∀ a, Q a → Yields (f a) R) : Yields (x >>= f) R := by
  intro st b st' hrun
  rw [StateT.run_bind] at hrun
  cases hxr : x.run st with
  | error e =>
    rw [hxr] at hrun
    cases hrun
  | ok p =>
    rw [hxr] at hrun
    exact hf p.1 (hx st p.1 p.2 hxr) p.2 b st' hrun

theorem mono (h : Yields x Q) (hqp : ∀ a, Q a → P a) : Yields x P :=
  fun st a st' hrun => hqp a (h st a st' hrun)

theorem fail (msg : String) : Yields (decodeFail msg : DecodeM α) P := by
  intro st a st' hrun
  cases hrun

theorem inAlias (h : Yields x P) : Yields (TestRig.Yaml.inAlias x) P :=
  bind (trivial _) fun _ _ => bind h fun _ ha => bind (trivial _) fun _ _ => pure ha

theorem foldlM {γ : Type} {f : α → γ → DecodeM α} {l : List γ} {init : α}
    (hf : ∀ a c, c ∈ l → P a → Yields (f a c) P) (hinit : P init) :
    Yields (l.foldlM f init) P := by
  induction l generalizing init with
  | nil => exact pure hinit
  | cons c rest ih =>
    rw [List.foldlM_cons]
    exact bind (hf init c List.mem_cons_self hinit) fun a ha =>
      ih (fun a c hc => hf a c (List.mem_cons_of_mem _ hc)) ha

end Yields

/-- A kind mismatch is reported and reads nothing. -/
theorem kindMismatch_none {α : Type} (n : Node) (target : String) :
    Yields (kindMismatch n target : DecodeM (Option α)) fun o => o = none := by
  unfold kindMismatch
  dsimp only
  cases n with
  | seq => exact Yields.bind (Yields.trivial _) fun _ _ => Yields.pure rfl
  | map _ entries _ =>
    refine Yields.bind (Yields.trivial _) fun b _ => ?_
    split
    · exact Yields.bind (Yields.trivial _) fun _ _ => Yields.pure rfl
    · exact Yields.pure rfl
  | scalar =>
    refine Yields.bind (Yields.trivial _) fun res _ => ?_
    obtain ⟨tag, r⟩ := res
    exact Yields.bind (Yields.trivial _) fun _ _ => Yields.pure rfl
  | aliasOf => exact Yields.pure rfl

/-- A scalar resolved as binary stands for the text of the bytes its base64 gives. -/
theorem resolveNode_binary (n : Node) :
    Yields (resolveNode n) fun res => res.1 = "!!binary" → ∀ s, res.2 = .str s →
      ∃ b, decodeBase64 n.text = some b ∧ s = utf8Lossy b "" := by
  unfold resolveNode
  split
  · exact Yields.pure (by simp)
  · split
    · split
      · next bytes hb => exact Yields.pure fun _ s hs => ⟨bytes, hb, by cases hs; rfl⟩
      · exact Yields.fail _
    · next r hne _ =>
      refine Yields.pure fun htag s _ => ?_
      obtain ⟨tag, v⟩ := r
      simp only at htag
      subst htag
      exact (hne v rfl).elim
    · exact Yields.fail _

/-- A key reads as one of the strings its node stands for. -/
theorem string_decode_keys (name : String) :
    ∀ fuel kn, Yields ((Target.string name).decode fuel kn "") fun o =>
      ∀ key, o = some key → key ∈ kn.keyStrings
  | 0, _ => Yields.fail _
  | fuel + 1, kn => by
    have hraw : (Target.string name).raw = false := rfl
    unfold Target.decode
    simp only [hraw, Bool.false_eq_true, if_false]
    refine Yields.bind (Yields.trivial _) fun _ _ => ?_
    cases kn with
    | aliasOf info aname target tag =>
      cases target with
      | some tn => exact Yields.inAlias (string_decode_keys name fuel tn)
      | none => exact Yields.fail _
    | scalar info text style =>
      refine Yields.bind (Yields.trivial _) fun res _ => ?_
      obtain ⟨_, r⟩ := res
      split
      · exact Yields.pure fun _ h => by cases h
      · simp only [Target.string]
        refine Yields.bind (resolveNode_binary _) fun res hbin => ?_
        split
        · next _ s =>
          refine Yields.pure fun key hkey => ?_
          cases hkey
          obtain ⟨b, hb, rfl⟩ := hbin rfl s rfl
          simp only [Node.text] at hb
          simp [Node.keyStrings, hb]
        · exact Yields.pure fun key hkey => by cases hkey; simp [Node.keyStrings]
    | seq info items flow =>
      simp only [Target.string]
      refine (kindMismatch_none _ _).mono fun o ho key hk => ?_
      subst ho
      cases hk
    | map info entries flow =>
      simp only [Target.string]
      refine (kindMismatch_none _ _).mono fun o ho key hk => ?_
      subst ho
      cases hk

/-! ### Filling a value from the pairs of a mapping -/

/-- A node that stands for a mapping sets what that mapping's pairs set. -/
theorem Node.entriesSetNames_subset_of_deref {m : Node} {info : NodeInfo} {es : List (Node × Node)}
    {flow : Bool} (h : m.deref = .map info es flow) : Node.entriesSetNames es ⊆ m.setNames := by
  cases m with
  | map =>
    cases h
    simp [Node.setNames]
  | aliasOf _ _ target _ =>
    cases target with
    | some t =>
      simp only [Node.deref] at h
      subst h
      simp [Node.setNames]
    | none => cases h
  | scalar | seq => cases h

/-- What a merge key's value names sets only names the value sets. -/
theorem setNames_subset_of_mem_mergeSources {v m : Node} (h : some m ∈ mergeSources v) :
    m.setNames ⊆ v.setNames := by
  unfold mergeSources at h
  cases v with
  | map =>
    simp only [List.mem_singleton, Option.some.injEq] at h
    subst h
    exact List.Subset.refl _
  | aliasOf _ _ target _ =>
    simp only [List.mem_singleton] at h
    cases target with
    | none =>
      simp only [mergeSources.source, Option.some.injEq] at h
      subst h
      exact List.Subset.refl _
    | some t =>
      cases t <;> simp only [mergeSources.source, Option.some.injEq, reduceCtorEq] at h
      subst h
      exact List.Subset.refl _
  | seq _ items _ =>
    obtain ⟨i, hi, hmi⟩ := List.mem_map.mp h
    refine List.Subset.trans ?_ (Node.setNames_subset_items hi)
    cases i with
    | map =>
      simp only [Option.some.injEq] at hmi
      subst hmi
      exact List.Subset.refl _
    | aliasOf _ _ target _ =>
      cases target with
      | none =>
        simp only [mergeSources.source, Option.some.injEq] at hmi
        subst hmi
        exact List.Subset.refl _
      | some t =>
        cases t <;> simp only [mergeSources.source, Option.some.injEq, reduceCtorEq] at hmi
        subst hmi
        exact List.Subset.refl _
    | scalar | seq => cases hmi
  | scalar => simp at h

section Fill

variable {σ : Type} (s : MapSink σ String) {Inv : σ → Prop} {N : List String}

/-- Putting the pairs of a mapping in keeps `Inv` when every pair whose key is a name the
mapping sets keeps it; the merge key kept for later names only what the mapping sets. -/
theorem pairsInto_keeps
    (hkey : ∀ kn, Yields (s.key kn) fun o => ∀ key, o = some key → key ∈ kn.keyStrings)
    (hput : ∀ kn key v done acc, key ∈ N → Inv acc → Yields (s.put kn key v done acc) Inv) :
    ∀ (entries : List (Node × Node)) keep acc done (mergeNode : Option Node),
      Node.entriesSetNames entries ⊆ N → Inv acc →
      (∀ mv, mergeNode = some mv → mv.setNames ⊆ N) →
      Yields (MapSink.fill.pairsInto s entries keep acc done mergeNode)
        fun r => Inv r.1 ∧ ∀ mv, r.2.2 = some mv → mv.setNames ⊆ N
  | [], _, _, _, _, _, hacc, hmerge => by
    rw [MapSink.fill.pairsInto]
    exact Yields.pure ⟨hacc, hmerge⟩
  | (k, v) :: rest, keep, acc, done, mergeNode, hnames, hacc, hmerge => by
    simp only [Node.entriesSetNames, List.append_subset] at hnames
    obtain ⟨⟨hk, hv⟩, hrest⟩ := hnames
    rw [MapSink.fill.pairsInto]
    split
    · next hmk =>
      refine pairsInto_keeps hkey hput rest keep acc done (some v) hrest hacc fun mv hmv => ?_
      cases hmv
      simpa [hmk] using hv
    · refine Yields.bind (hkey k) fun o ho => ?_
      cases o with
      | none => exact pairsInto_keeps hkey hput rest keep acc done mergeNode hrest hacc hmerge
      | some key =>
        have hkN : key ∈ N := hk (ho key rfl)
        dsimp only
        cases keep with
        | some ks =>
          dsimp only
          split
          · exact pairsInto_keeps hkey hput rest _ acc done mergeNode hrest hacc hmerge
          · exact Yields.bind (hput k key v done acc hkN hacc) fun acc' hacc' =>
              pairsInto_keeps hkey hput rest _ acc' _ mergeNode hrest hacc' hmerge
        | none =>
          exact Yields.bind (hput k key v done acc hkN hacc) fun acc' hacc' =>
            pairsInto_keeps hkey hput rest _ acc' _ mergeNode hrest hacc' hmerge

/-- Filling a value from the pairs of a mapping, and from the mappings its merge key names,
keeps `Inv` when every pair whose key is a name the mapping sets keeps it. -/
theorem fill_keeps
    (hkey : ∀ kn, Yields (s.key kn) fun o => ∀ key, o = some key → key ∈ kn.keyStrings)
    (hput : ∀ kn key v done acc, key ∈ N → Inv acc → Yields (s.put kn key v done acc) Inv) :
    ∀ fuel entries acc, Node.entriesSetNames entries ⊆ N → Inv acc →
      Yields (s.fill fuel entries acc) Inv
  | 0, _, _, _, _ => by
    rw [MapSink.fill]
    exact Yields.fail _
  | fuel + 1, entries, acc, hnames, hacc => by
    rw [MapSink.fill]
    refine Yields.bind (Yields.trivial _) fun _ _ => ?_
    refine Yields.bind (Yields.trivial _) fun _ _ => ?_
    refine Yields.bind (pairsInto_keeps s hkey hput entries _ acc [] none hnames hacc
      (by simp)) fun res hres => ?_
    obtain ⟨acc', keep, mergeNode⟩ := res
    obtain ⟨hacc', hmn⟩ := hres
    refine Yields.bind (Yields.trivial _) fun _ _ => ?_
    cases mergeNode with
    | none => exact Yields.pure hacc'
    | some mv =>
      have hmv := hmn mv rfl
      dsimp only
      -- the keys kept while merging come from the state or from this mapping; either way
      -- the same steps follow
      cases keep
      all_goals
        refine Yields.bind (Yields.trivial _) fun keys _ => ?_
        refine Yields.bind (Yields.trivial _) fun _ _ => ?_
        refine Yields.bind (Yields.foldlM (fun a c hc ha => ?_) hacc') fun acc'' hacc'' => ?_
        · cases c with
          | none => exact Yields.fail _
          | some m =>
            dsimp only
            refine Yields.bind (Yields.trivial _) fun _ _ => ?_
            -- the node named, read through an alias if it is one
            generalize hd : m.deref = d
            cases m
            on_goal 4 => refine Yields.inAlias (Yields.bind (Yields.trivial _) fun _ _ => ?_)
            -- each mapping the merge key names is filled over the value so far, with less fuel
            all_goals
              cases d with
              | map info es flow =>
                refine Yields.bind (Yields.trivial _) fun b _ => ?_
                split
                · exact Yields.pure ha
                · exact fill_keeps hkey hput fuel es a
                    (List.Subset.trans (Node.entriesSetNames_subset_of_deref hd)
                      (List.Subset.trans (setNames_subset_of_mem_mergeSources hc) hmv)) ha
              | _ => exact Yields.fail _
        · split
          · exact Yields.bind (Yields.trivial _) fun _ _ => Yields.pure hacc''
          · exact Yields.pure hacc''

end Fill

/-! ### Records -/

section Record

variable {α β : Type} {view : α → String → β}

/-- A field's update changes the view of a record at the field's own key only. -/
def Field.Local (view : α → String → β) (f : Field α) : Prop :=
  ∀ fuel n r, Yields (f.update fuel n r) fun r' => ∀ k, k ≠ f.key → view r' k = view r k

/-- A field read through a getter and a setter is local when the setter is. -/
theorem Field.local_of {γ : Type} {key : String} {t : Target γ} {get : α → γ}
    {put : α → γ → α} (hput : ∀ r v k, k ≠ key → view (put r v) k = view r k) :
    (Field.of key t get put).Local view := by
  intro fuel n r
  refine Yields.bind (Yields.trivial _) fun o _ => ?_
  cases o with
  | some v => exact Yields.pure fun k hk => hput r v k hk
  | none => exact Yields.pure fun _ _ => rfl

/-- Reading a mapping into a record keeps the view of the record at every key the mapping
does not set, when each field changes the record at its own key only. -/
theorem record_decode_keeps {name : String} {zero : α} {fields : List (Field α)}
    (hloc : ∀ f ∈ fields, f.Local view) :
    ∀ fuel n cur, Yields ((Target.record name zero fields).decode fuel n cur) fun o =>
      ∀ r, o = some r → ∀ k ∉ n.setNames, view r k = view cur k
  | 0, _, _ => Yields.fail _
  | fuel + 1, n, cur => by
    have hraw : (Target.record name zero fields).raw = false := rfl
    unfold Target.decode
    simp only [hraw, Bool.false_eq_true, if_false]
    refine Yields.bind (Yields.trivial _) fun _ _ => ?_
    cases n with
    | aliasOf info aname target tag =>
      cases target with
      | some tn => exact Yields.inAlias (record_decode_keeps hloc fuel tn cur)
      | none => exact Yields.fail _
    | scalar info text style =>
      refine Yields.bind (Yields.trivial _) fun res _ => ?_
      obtain ⟨_, r⟩ := res
      split
      · exact Yields.pure fun _ h => by cases h
      · simp only [Target.record]
        refine (kindMismatch_none _ _).mono fun o ho r hr => ?_
        subst ho
        cases hr
    | seq info items flow =>
      simp only [Target.record]
      refine (kindMismatch_none _ _).mono fun o ho r hr => ?_
      subst ho
      cases hr
    | map info entries flow =>
      simp only [Target.record]
      refine Yields.bind (Yields.trivial _) fun b _ => ?_
      split
      · exact Yields.pure fun _ h => by cases h
      · -- every pair whose key the mapping sets changes the record at that key only
        let N := Node.setNames (.map info entries flow)
        refine Yields.bind (@fill_keeps _ _ (fun r => ∀ k ∉ N, view r k = view cur k) N
          (fun kn => string_decode_keys _ fuel kn) ?_ fuel entries cur
          (by simp [N, Node.setNames]) fun _ _ => rfl) fun r hr => Yields.pure fun r' h => ?_
        · intro kn key v done acc hkey hacc
          dsimp only
          split
          · exact Yields.pure hacc
          · next f hf =>
            have hfk : f.key = key := by simpa using List.find?_some hf
            split
            · exact Yields.bind (Yields.trivial _) fun _ _ => Yields.pure hacc
            · refine (hloc f (List.mem_of_find?_eq_some hf) fuel v acc).mono fun r' hr' k hk => ?_
              rw [hr' k (by rintro rfl; exact hk (hfk ▸ hkey)), hacc k hk]
        · cases h
          exact hr

/-- Reading a node on its own into a record over a current value keeps the view at every key
the node does not set. -/
theorem decodeNode_keeps {name : String} {zero : α} {fields : List (Field α)}
    (hloc : ∀ f ∈ fields, f.Local view) {n : Node} {cur r : α}
    (h : decodeNode (.record name zero fields) n cur = .ok r) :
    ∀ k ∉ n.setNames, view r k = view cur k := by
  unfold decodeNode decodeFrom at h
  split at h
  · cases h
  · next o st hrun =>
    split at h
    · cases h
      cases o with
      | none => exact fun _ _ => rfl
      | some r => exact record_decode_keeps hloc 100000 n cur _ _ _ hrun r rfl
    · cases h

end Record

end TestRig.Yaml
