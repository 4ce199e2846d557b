import CiteSync.Command.Run
import CiteSync.Proofs.Lists
import Mathlib.Data.List.Perm.Subperm
import Mathlib.Logic.Relation

/-!
# The outline of a library

The loop that prints the collections goes down the links to parents, and these may lead anywhere:
to nothing that is known, to the collection itself or round in a circle.  Where the keys are
distinct the loop ends all the same.  A collection has a line if its chain of parents ends, and then
one, as deep as the chain is long; those inside it come right after it, and siblings in their order.
-/

namespace CiteSync.Library

open Relation

variable {specs siblings above path : List Spec} {rows inner : List Row} {s p : Spec} {depth : Nat}

/-! ## 1. Parents -/

/-- The first collection is right inside the second one. -/
structure RightInside (specs : List Spec) (s p : Spec) : Prop where
  mem : s ∈ specs
  parent_mem : p ∈ specs
  link : s.parentKey = some p.key

/-- The chain of parents of a collection, the nearest first.  It ends at a collection that is in
none of the list. -/
inductive Lineage (specs : List Spec) : Spec → List Spec → Prop
  | top {s : Spec} (hs : s ∈ specs) (hnone : ∀ p ∈ specs, s.parentKey ≠ some p.key) :
      Lineage specs s []
  | inside {s p : Spec} {above : List Spec} (hs : RightInside specs s p)
      (hp : Lineage specs p above) : Lineage specs s (p :: above)

theorem mem_rightBelow_none :
    s ∈ rightBelow specs none ↔ s ∈ specs ∧ ∀ p ∈ specs, s.parentKey ≠ some p.key := by
  have hunknown : knownParent? specs s = none ↔ ∀ p ∈ specs, s.parentKey ≠ some p.key := by
    unfold knownParent?
    rw [Option.filter_eq_none_iff]
    simp only [List.any_eq_true, beq_iff_eq, not_exists, not_and]
    constructor
    · exact fun h p hp hlink => h _ hlink p hp rfl
    · exact fun h key hlink p hp hkey => h p hp (hkey ▸ hlink)
  unfold rightBelow
  rw [List.mem_filter, beq_iff_eq, hunknown]

theorem mem_rightBelow_some (hp : p ∈ specs) :
    s ∈ rightBelow specs (some p.key) ↔ RightInside specs s p := by
  have hknown : (specs.any fun q => q.key == p.key) = true := by
    simpa using ⟨p, hp, rfl⟩
  have hlink : knownParent? specs s = some p.key ↔ s.parentKey = some p.key := by
    unfold knownParent?
    rw [Option.filter_eq_some_iff]
    exact ⟨fun h => h.1, fun h => ⟨h, hknown⟩⟩
  unfold rightBelow
  rw [List.mem_filter, beq_iff_eq, hlink]
  exact ⟨fun h => ⟨h.1, hp, h.2⟩, fun h => ⟨h.mem, h.link⟩⟩

namespace Lineage

theorem mem (h : Lineage specs s above) : s ∈ specs := by
  cases h with
  | top hs _ => exact hs
  | inside hs _ => exact hs.mem

theorem ofRightBelow (h : Lineage specs p above) :
    ∀ s ∈ rightBelow specs (some p.key), Lineage specs s (p :: above) :=
  fun _ hs => .inside ((mem_rightBelow_some h.mem).1 hs) h

theorem subset (h : Lineage specs s above) : s :: above ⊆ specs := by
  induction h with
  | top hs _ => exact List.cons_subset.2 ⟨hs, List.nil_subset _⟩
  | inside hs _ ih => exact List.cons_subset.2 ⟨hs.mem, ih⟩

/-- Those on a chain have a shorter one. -/
theorem of_mem (h : Lineage specs s above) (hp : p ∈ above) :
    ∃ higher, Lineage specs p higher ∧ higher.length < above.length := by
  induction h with
  | top => cases hp
  | @inside s q above hs hq ih =>
    rcases List.mem_cons.1 hp with rfl | hp
    · exact ⟨above, hq, Nat.lt_succ_self _⟩
    · obtain ⟨higher, hhigher, hshorter⟩ := ih hp
      exact ⟨higher, hhigher, Nat.lt_succ_of_lt hshorter⟩

end Lineage

section Distinct

variable (hkeys : (specs.map (·.key)).Nodup)

include hkeys

theorem RightInside.unique {q : Spec} (hp : RightInside specs s p) (hq : RightInside specs s q) :
    p = q := by
  have hkey : p.key = q.key := Option.some.inj (hp.link.symm.trans hq.link)
  exact List.inj_on_of_nodup_map hkeys hp.parent_mem hq.parent_mem hkey

theorem Lineage.unique (h : Lineage specs s above) (h' : Lineage specs s path) : above = path := by
  induction h generalizing path with
  | top hs hnone =>
    cases h' with
    | top => rfl
    | inside hs' _ => exact absurd hs'.link (hnone _ hs'.parent_mem)
  | inside hs hp ih =>
    cases h' with
    | top _ hnone => exact absurd hs.link (hnone _ hs.parent_mem)
    | inside hs' hp' =>
      obtain rfl := hs.unique hkeys hs'
      rw [ih hp']

/-- A chain of parents that ends does not come round. -/
theorem Lineage.nodup (h : Lineage specs s above) : (s :: above).Nodup := by
  induction h with
  | top => exact List.nodup_singleton _
  | @inside s p above hs hp ih =>
    apply List.nodup_cons.2
    constructor
    · -- further up the collection would have a shorter chain, but it has only one
      intro hround
      have hwhole : Lineage specs s (p :: above) := .inside hs hp
      obtain ⟨higher, hhigher, hshorter⟩ := hwhole.of_mem hround
      rw [hwhole.unique hkeys hhigher] at hshorter
      exact Nat.lt_irrefl _ hshorter
    · exact ih

/-- On the chain are all collections that one is inside of, however far up. -/
theorem Lineage.mem_iff (h : Lineage specs s above) :
    p ∈ above ↔ TransGen (RightInside specs) s p := by
  induction h with
  | @top s _ hnone =>
    constructor
    · intro hp
      cases hp
    · intro hinside
      obtain ⟨q, hq, -⟩ := TransGen.head'_iff.1 hinside
      exact absurd hq.link (hnone q hq.parent_mem)
  | @inside s q above hs hq ih =>
    rw [List.mem_cons, ih]
    constructor
    · rintro (rfl | hp)
      · exact .single hs
      · exact .head hs hp
    · intro hinside
      obtain ⟨r, hr, hrest⟩ := TransGen.head'_iff.1 hinside
      obtain rfl := hs.unique hkeys hr
      rcases reflTransGen_iff_eq_or_transGen.1 hrest with rfl | hp
      · exact .inl rfl
      · exact .inr hp

theorem Lineage.length_lt (h : Lineage specs s above) : above.length < specs.length :=
  (List.Nodup.subperm (h.nodup hkeys) h.subset).length_le

end Distinct

/-! ## 2. The loop -/

/-- The loop over collections at a depth: each has its line, and then come the lines of those right
below it.  A run of the loop that comes to an end is one of these. -/
inductive Prints (specs : List Spec) : (depth : Nat) → List Spec → List Row → Prop
  | done {depth : Nat} : Prints specs depth [] []
  | line {depth : Nat} {s : Spec} {rest : List Spec} {inner rows : List Row}
      (hinner : Prints specs (depth + 1) (rightBelow specs (some s.key)) inner)
      (hrest : Prints specs depth rest rows) :
      Prints specs depth (s :: rest) (⟨s, depth⟩ :: (inner ++ rows))

namespace Prints

theorem flatMap {lines : Spec → List Row}
    (h : ∀ s ∈ siblings, Prints specs (depth + 1) (rightBelow specs (some s.key)) (lines s)) :
    Prints specs depth siblings (siblings.flatMap fun s => ⟨s, depth⟩ :: lines s) := by
  induction siblings with
  | nil => exact .done
  | cons s rest ih =>
    have hinner := h s List.mem_cons_self
    have hrest := ih fun t ht => h t (List.mem_cons_of_mem s ht)
    exact .line hinner hrest

theorem of_endsWithin {levels : Nat} {key : Option String}
    (h : endsWithin specs (levels + 1) key = true) :
    Prints specs depth (rightBelow specs key) (rowsBelow specs levels depth key) := by
  induction levels generalizing depth key with
  | zero =>
    have hnone : rightBelow specs key = [] := by
      cases hbelow : rightBelow specs key with
      | nil => rfl
      | cons s rest => simp [endsWithin, hbelow] at h
    rw [hnone]
    exact .done
  | succ levels ih =>
    have hinner : ∀ s ∈ rightBelow specs key, endsWithin specs (levels + 1) (some s.key) = true :=
      List.all_eq_true.1 h
    exact .flatMap fun s hs => ih (hinner s hs)

theorem mem_of_sibling (h : Prints specs depth siblings rows) (hs : s ∈ siblings) :
    ⟨s, depth⟩ ∈ rows := by
  induction h with
  | done => cases hs
  | @line depth t rest inner rows _ _ _ ih =>
    rcases List.mem_cons.1 hs with rfl | hs
    · exact List.mem_cons_self
    · exact List.mem_cons_of_mem _ (List.mem_append_right inner (ih hs))

/-- Those right below a collection that has a line have lines too. -/
theorem mem_of_below {r : Row} (h : Prints specs depth siblings rows) (hr : r ∈ rows)
    (hs : s ∈ rightBelow specs (some r.spec.key)) : ⟨s, r.depth + 1⟩ ∈ rows := by
  induction h with
  | done => cases hr
  | @line depth t rest inner rows hinner _ ihinner ihrest =>
    rw [List.mem_cons, List.mem_append] at hr
    apply List.mem_cons_of_mem
    rcases hr with rfl | hr | hr
    · exact List.mem_append_left rows (hinner.mem_of_sibling hs)
    · exact List.mem_append_left rows (ihinner hr)
    · exact List.mem_append_right inner (ihrest hr)

theorem depth_le (h : Prints specs depth siblings rows) : ∀ r ∈ rows, depth ≤ r.depth := by
  induction h with
  | done => simp
  | line _ _ ihinner ihrest =>
    intro r hr
    rw [List.mem_cons, List.mem_append] at hr
    rcases hr with rfl | hr | hr
    · exact Nat.le_refl _
    · exact Nat.le_of_succ_le (ihinner r hr)
    · exact ihrest r hr

/-- The lines at the depth of the loop are those of its collections, in their order. -/
theorem siblings_eq (h : Prints specs depth siblings rows) :
    (rows.filter fun r => r.depth == depth).map (·.spec) = siblings := by
  induction h with
  | done => rfl
  | @line depth s rest inner rows hinner _ _ ih =>
    -- those inside the first collection are deeper
    have hdeeper : (inner.filter fun r => r.depth == depth) = [] := by
      apply List.filter_eq_nil_iff.2
      intro r hr
      have hle := hinner.depth_le r hr
      simp only [beq_iff_eq]
      omega
    simp [List.filter_append, hdeeper, ih]

/-- Right after a line come the lines of the loop over those below it. -/
theorem split {r : Row} {before after : List Row} (h : Prints specs depth siblings rows)
    (hcut : rows = before ++ r :: after) :
    ∃ inner rest, after = inner ++ rest ∧
      Prints specs (r.depth + 1) (rightBelow specs (some r.spec.key)) inner := by
  induction h generalizing before after with
  | done => simp at hcut
  | @line depth s rest inner rows hinner hrest ihinner ihrest =>
    cases before with
    | nil =>
      obtain ⟨rfl, rfl⟩ := List.cons.inj hcut
      exact ⟨inner, rows, rfl, hinner⟩
    | cons first before =>
      obtain ⟨-, hcut⟩ := List.cons.inj hcut
      -- the line is one of those inside the first collection, or of those after them
      rcases List.append_eq_append_iff.1 hcut with ⟨gap, rfl, hrows⟩ | ⟨gap, hgap, hafter⟩
      · exact ihrest hrows
      · rcases List.cons_eq_append_iff.1 hafter with ⟨rfl, hrows⟩ | ⟨gap', rfl, rfl⟩
        · have hfirst : rows = [] ++ r :: after := hrows
          exact ihrest hfirst
        · obtain ⟨deeper, gap, rfl, hdeeper⟩ := ihinner hgap
          exact ⟨deeper, gap ++ rows, List.append_assoc .., hdeeper⟩

end Prints

/-! ## 3. What has a line -/

/-- A line is about a collection as deep as its chain of parents is long, and on the chain is one of
the collections of the loop. -/
theorem Prints.lineage {r : Row} (h : Prints specs depth siblings rows)
    (hdepth : above.length = depth) (hsiblings : ∀ s ∈ siblings, Lineage specs s above)
    (hr : r ∈ rows) :
    ∃ path, Lineage specs r.spec path ∧ path.length = r.depth ∧
      ∃ s ∈ siblings, s :: above <:+ r.spec :: path := by
  induction h generalizing above with
  | done => cases hr
  | @line depth s rest inner rows _ _ ihinner ihrest =>
    have hs : Lineage specs s above := hsiblings s List.mem_cons_self
    rw [List.mem_cons, List.mem_append] at hr
    rcases hr with rfl | hr | hr
    · exact ⟨above, hs, hdepth, s, List.mem_cons_self, List.suffix_refl _⟩
    · have hlength : (s :: above).length = depth + 1 := congrArg (· + 1) hdepth
      obtain ⟨path, hpath, hdeep, c, -, hsuffix⟩ := ihinner hlength hs.ofRightBelow hr
      have hhigher : s :: above <:+ r.spec :: path := (List.suffix_cons c _).trans hsuffix
      exact ⟨path, hpath, hdeep, s, List.mem_cons_self, hhigher⟩
    · have hrest : ∀ t ∈ rest, Lineage specs t above :=
        fun t ht => hsiblings t (List.mem_cons_of_mem s ht)
      obtain ⟨path, hpath, hdeep, t, ht, hsuffix⟩ := ihrest hdepth hrest hr
      exact ⟨path, hpath, hdeep, t, List.mem_cons_of_mem s ht, hsuffix⟩

theorem lineage_top : ∀ s ∈ rightBelow specs none, Lineage specs s [] := by
  intro s hs
  obtain ⟨hmem, hnone⟩ := mem_rightBelow_none.1 hs
  exact .top hmem hnone

/-- Where the loop has not ended after some levels, there is a chain of as many parents more. -/
theorem exists_long_lineage {levels : Nat} (h : Lineage specs s above)
    (hnot : endsWithin specs levels (some s.key) = false) :
    ∃ t path, Lineage specs t path ∧ path.length = above.length + levels := by
  -- each level that has not ended has one right below that goes on
  induction levels generalizing s above with
  | zero => exact ⟨s, above, h, rfl⟩
  | succ levels ih =>
    obtain ⟨c, hc, hcnot⟩ := List.all_eq_false.1 hnot
    obtain ⟨t, path, hpath, hlength⟩ := ih (h.ofRightBelow c hc) (Bool.eq_false_iff.2 hcnot)
    rw [List.length_cons] at hlength
    exact ⟨t, path, hpath, by omega⟩

/-- A collection has a line exactly if its chain of parents ends, and at the depth of this chain. -/
theorem Prints.mem_iff (h : Prints specs 0 (rightBelow specs none) rows) :
    ⟨s, depth⟩ ∈ rows ↔ ∃ above, Lineage specs s above ∧ above.length = depth := by
  constructor
  · intro hr
    obtain ⟨path, hpath, hlength, -⟩ := h.lineage rfl lineage_top hr
    exact ⟨path, hpath, hlength⟩
  · rintro ⟨above, hlineage, rfl⟩
    induction hlineage with
    | top hs hnone => exact h.mem_of_sibling (mem_rightBelow_none.2 ⟨hs, hnone⟩)
    | inside hs hp ih => exact h.mem_of_below ih ((mem_rightBelow_some hp.mem).2 hs)

section Distinct

variable (hkeys : (specs.map (·.key)).Nodup)

include hkeys

theorem hasOutline_of_nodup : hasOutline specs = true := by
  apply Bool.of_not_eq_false
  intro hnot
  obtain ⟨s, hs, hsnot⟩ := List.all_eq_false.1 hnot
  -- there would be a chain of as many parents as there are collections
  obtain ⟨t, path, hpath, hlength⟩ :=
    exists_long_lineage (lineage_top s hs) (Bool.eq_false_iff.2 hsnot)
  have hshort := hpath.length_lt hkeys
  rw [List.length_nil] at hlength
  omega

theorem outline_prints : Prints specs 0 (rightBelow specs none) (outline specs) :=
  .of_endsWithin (hasOutline_of_nodup hkeys)

/-- What is on the chain of a line at the depth of the loop is a collection of the loop. -/
theorem Prints.mem_of_suffix {r : Row} (h : Prints specs depth siblings rows)
    (hdepth : above.length = depth) (hsiblings : ∀ s ∈ siblings, Lineage specs s above)
    (hr : r ∈ rows) (hpath : Lineage specs r.spec path) (hsuffix : s :: above <:+ r.spec :: path) :
    s ∈ siblings := by
  obtain ⟨path', hpath', -, t, ht, hsuffix'⟩ := h.lineage hdepth hsiblings hr
  obtain rfl := hpath.unique hkeys hpath'
  have hends : s :: above <:+ t :: above :=
    List.suffix_of_suffix_length_le hsuffix hsuffix' (Nat.le_refl _)
  have hsame : s :: above = t :: above := hends.eq_of_length rfl
  rw [(List.cons.inj hsame).1]
  exact ht

theorem Prints.nodup (h : Prints specs depth siblings rows) (hdepth : above.length = depth)
    (hsiblings : ∀ s ∈ siblings, Lineage specs s above) (hdistinct : siblings.Nodup) :
    (rows.map (·.spec)).Nodup := by
  induction h generalizing above with
  | done => exact List.nodup_nil
  | @line depth s rest inner rows hinner hrest ihinner ihrest =>
    have hs : Lineage specs s above := hsiblings s List.mem_cons_self
    have hlater : ∀ t ∈ rest, Lineage specs t above :=
      fun t ht => hsiblings t (List.mem_cons_of_mem s ht)
    have hlength : (s :: above).length = depth + 1 := congrArg (· + 1) hdepth
    obtain ⟨hfirst, hdistinct⟩ := List.nodup_cons.1 hdistinct
    have hspecs : specs.Nodup := .of_map _ hkeys
    -- the first collection is on the chain of each line of the first two parts, and on no other
    have hon : ∀ r ∈ rows, ∀ path, Lineage specs r.spec path → ¬ s :: above <:+ r.spec :: path :=
      fun r hr path hpath hsuffix =>
        hfirst (hrest.mem_of_suffix hkeys hdepth hlater hr hpath hsuffix)
    rw [List.map_cons, List.map_append, List.nodup_cons, List.nodup_append]
    have hinnerNodup := ihinner hlength hs.ofRightBelow (hspecs.filter _)
    refine ⟨?_, hinnerNodup, ihrest hdepth hlater hdistinct, ?_⟩
    · rw [List.mem_append, List.mem_map, List.mem_map]
      rintro (⟨r, hr, rfl⟩ | ⟨r, hr, rfl⟩)
      · obtain ⟨path, hpath, hdeep, -⟩ := hinner.lineage hlength hs.ofRightBelow hr
        have hle := hinner.depth_le r hr
        rw [hpath.unique hkeys hs] at hdeep
        omega
      · exact hon r hr above hs (List.suffix_refl _)
    · intro t ht u hu htu
      obtain ⟨r, hr, rfl⟩ := List.mem_map.1 ht
      obtain ⟨r', hr', rfl⟩ := List.mem_map.1 hu
      obtain ⟨path, hpath, -, c, -, hsuffix⟩ := hinner.lineage hlength hs.ofRightBelow hr
      have hhigher : s :: above <:+ r.spec :: path := (List.suffix_cons c _).trans hsuffix
      rw [htu] at hpath hhigher
      exact hon r' hr' path hpath hhigher

/-- The lines between a collection and the next one that is not inside it are those inside it. -/
theorem Prints.mem_inside (h : Prints specs depth (rightBelow specs (some p.key)) inner)
    (hp : Lineage specs p above) (hdepth : (p :: above).length = depth) :
    s ∈ inner.map (·.spec) ↔ TransGen (RightInside specs) s p := by
  constructor
  · intro hs
    obtain ⟨r, hr, rfl⟩ := List.mem_map.1 hs
    obtain ⟨path, hpath, -, c, -, hsuffix⟩ := h.lineage hdepth hp.ofRightBelow hr
    apply (hpath.mem_iff hkeys).1
    -- the chain of the line ends in the chain of one of the collections right below
    rcases List.suffix_cons_iff.1 hsuffix with heq | hinner
    · rw [← (List.cons.inj heq).2]
      exact List.mem_cons_self
    · exact hinner.subset (List.mem_cons_of_mem c List.mem_cons_self)
  · intro hinside
    induction hinside using TransGen.head_induction_on with
    | single hs =>
      have hrow := h.mem_of_sibling ((mem_rightBelow_some hp.mem).2 hs)
      exact List.mem_map_of_mem hrow
    | head hs _ ih =>
      obtain ⟨r, hr, rfl⟩ := List.mem_map.1 ih
      have hrow := h.mem_of_below hr ((mem_rightBelow_some hs.parent_mem).2 hs)
      exact List.mem_map_of_mem hrow

end Distinct

/-- The collections of one parent have their lines in the order of the list, wherever the loop over
them is part of the lines. -/
theorem Prints.filter_eq {parent : Option String}
    (h : Prints specs depth (rightBelow specs parent) inner) (hpart : inner.Sublist rows)
    (hnodup : (rows.map (·.spec)).Nodup) (hmem : ∀ r ∈ rows, r.spec ∈ specs) :
    (rows.map (·.spec)).filter (fun s => knownParent? specs s == parent) =
      rightBelow specs parent := by
  -- the loop has them in their order, and there are no more of them among the lines
  have hsub : (rightBelow specs parent).Sublist
      ((rows.map (·.spec)).filter fun s => knownParent? specs s == parent) := by
    have hsiblings : (rightBelow specs parent).Sublist (rows.map (·.spec)) := by
      rw [← h.siblings_eq]
      exact (List.filter_sublist.trans hpart).map _
    have hkept := hsiblings.filter fun s => knownParent? specs s == parent
    rwa [show (rightBelow specs parent).filter (fun s => knownParent? specs s == parent) =
      rightBelow specs parent by simp [rightBelow]] at hkept
  symm
  apply hsub.eq_of_length_le
  apply List.Subperm.length_le
  apply List.Nodup.subperm (hnodup.filter _)
  intro s hs
  obtain ⟨hrow, hparent⟩ := List.mem_filter.1 hs
  obtain ⟨r, hr, rfl⟩ := List.mem_map.1 hrow
  exact List.mem_filter.2 ⟨hmem r hr, hparent⟩

/-! ## 4. The printed tree -/

/-- What the rows of an outline are. -/
structure IsOutline (specs : List Spec) (rows : List Row) : Prop where
  once : (rows.map (·.spec.key)).Nodup
  /-- There is a row for each collection whose chain of parents ends. -/
  mem_iff : ∀ s, s ∈ rows.map (·.spec) ↔ ∃ above, Lineage specs s above
  /-- It is as deep as there are collections around this one. -/
  depth : ∀ r ∈ rows, ∃ above : List Spec, above.Nodup ∧ above.length = r.depth ∧
    ∀ p, p ∈ above ↔ TransGen (RightInside specs) r.spec p
  /-- The rows right after it are those of the collections inside this one. -/
  inside : ∀ before r after, rows = before ++ r :: after → ∃ inner rest, after = inner ++ rest ∧
    ∀ s, s ∈ inner.map (·.spec) ↔ TransGen (RightInside specs) s r.spec
  /-- Those right below one collection, and those at the top, are in the order of the list. -/
  siblings : ∀ parent, (parent = none ∨ ∃ r ∈ rows, parent = some r.spec.key) →
    (rows.map (·.spec)).filter (fun s => knownParent? specs s == parent) =
      specs.filter fun s => knownParent? specs s == parent

theorem Prints.isOutline (h : Prints specs 0 (rightBelow specs none) rows)
    (hkeys : (specs.map (·.key)).Nodup) : IsOutline specs rows := by
  have hspecs : specs.Nodup := .of_map _ hkeys
  have hnodup : (rows.map (·.spec)).Nodup := h.nodup hkeys rfl lineage_top (hspecs.filter _)
  -- every row stands below the collections on its chain, and what follows it starts inside it
  have hrow : ∀ r ∈ rows, ∃ above, Lineage specs r.spec above ∧ above.length = r.depth :=
    fun r hr => h.mem_iff.1 hr
  have hmem : ∀ r ∈ rows, r.spec ∈ specs := by
    intro r hr
    obtain ⟨above, hlineage, -⟩ := hrow r hr
    exact hlineage.mem
  have hcut : ∀ before r after, rows = before ++ r :: after → ∃ inner rest, after = inner ++ rest ∧
      Prints specs (r.depth + 1) (rightBelow specs (some r.spec.key)) inner :=
    fun _ _ _ => h.split
  constructor
  case once =>
    have hkey : (rows.map (·.spec)).map (·.key) = rows.map (·.spec.key) := List.map_map
    rw [← hkey]
    apply hnodup.map_on
    intro s hs t ht hsame
    obtain ⟨r, hr, rfl⟩ := List.mem_map.1 hs
    obtain ⟨r', hr', rfl⟩ := List.mem_map.1 ht
    exact List.inj_on_of_nodup_map hkeys (hmem r hr) (hmem r' hr') hsame
  case mem_iff =>
    intro s
    constructor
    · intro hs
      obtain ⟨r, hr, rfl⟩ := List.mem_map.1 hs
      obtain ⟨above, hlineage, -⟩ := hrow r hr
      exact ⟨above, hlineage⟩
    · rintro ⟨above, hlineage⟩
      have hr := h.mem_iff.2 ⟨above, hlineage, rfl⟩
      exact List.mem_map_of_mem hr
  case depth =>
    intro r hr
    obtain ⟨above, hlineage, hlength⟩ := hrow r hr
    exact ⟨above, (hlineage.nodup hkeys).of_cons, hlength, fun p => hlineage.mem_iff hkeys⟩
  case inside =>
    intro before r after hrows
    obtain ⟨inner, rest, hafter, hinner⟩ := hcut before r after hrows
    have hr : r ∈ rows := hrows ▸ List.mem_append_right before List.mem_cons_self
    obtain ⟨above, hlineage, hlength⟩ := hrow r hr
    exact ⟨inner, rest, hafter,
      fun s => hinner.mem_inside hkeys hlineage (congrArg (· + 1) hlength)⟩
  case siblings =>
    rintro parent (rfl | ⟨r, hr, rfl⟩)
    · exact h.filter_eq (List.Sublist.refl rows) hnodup hmem
    · obtain ⟨before, after, hrows⟩ := List.append_of_mem hr
      obtain ⟨inner, rest, rfl, hinner⟩ := hcut before r after hrows
      have hpart : inner.Sublist rows := by
        rw [hrows]
        exact ((List.sublist_append_left inner rest).cons r).trans
          (List.sublist_append_right before _)
      exact hinner.filter_eq hpart hnodup hmem

end CiteSync.Library

namespace CiteSync.Command

open Library

/-- Where the keys are distinct the loop that prints the collections ends, wherever the links to
parents lead, and the lines are the rows of an outline. -/
theorem tree_is_printed_once (s : Session) (hkeys : (s.specs.map (·.key)).Nodup) :
    ∃ rows, Prints s.specs 0 (rightBelow s.specs none) rows ∧ IsOutline s.specs rows ∧
      treeLines s = .ok (rows.map fun r => r.line (s.worksIn (some r.spec.key)).length) := by
  have hprints := outline_prints hkeys
  refine ⟨outline s.specs, hprints, hprints.isOutline hkeys, ?_⟩
  unfold treeLines
  rw [hasOutline_of_nodup hkeys, if_pos rfl]

/-- A thesis with two chapters, the first with a section; reading that is in a shelf which is not
there; a box in itself; and a bag and a purse that are in each other, with a coin in the purse. -/
def cluttered : Session where
  specs := [{ key := "S", name := "Section", parentKey := some "C" },
    { key := "D", name := "Discussion", parentKey := some "T" },
    { key := "B", name := "Box", parentKey := some "B" },
    { key := "R", name := "Reading", parentKey := some "X" },
    { key := "P", name := "Purse", parentKey := some "G" },
    { key := "C", name := "Chapter", parentKey := some "T" },
    { key := "O", name := "Coin", parentKey := some "P" },
    { key := "T", name := "Thesis" },
    { key := "G", name := "Bag", parentKey := some "P" }]

/-- The box, the bag, the purse and the coin have no line. -/
theorem tree_is_printed_once_cluttered :
    (∃ rows, IsOutline cluttered.specs rows ∧
      treeLines cluttered =
        .ok (rows.map fun r => r.line (cluttered.worksIn (some r.spec.key)).length)) ∧
      treeLines cluttered = .ok ["Reading [R] (0 items)", "Thesis [T] (0 items)",
        "  Discussion [D] (0 items)", "  Chapter [C] (0 items)", "    Section [S] (0 items)"] := by
  have hkeys : (cluttered.specs.map (·.key)).Nodup := by decide
  obtain ⟨rows, -, houtline, hlines⟩ := tree_is_printed_once cluttered hkeys
  exact ⟨⟨rows, houtline, hlines⟩, by decide +kernel⟩

end CiteSync.Command
