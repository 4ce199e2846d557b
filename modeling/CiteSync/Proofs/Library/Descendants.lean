import CiteSync.Library.Closure
import Mathlib.Logic.Relation
import Mathlib.Order.Bounds.Basic

/-!
# What lies below

The collections that belong to a document are those of its names and all below them: their keys are
the least set that holds the keys of the names and that no parent link leads out of.  The level by
level descent finds this set, and so does any other search that looks below one key after the other,
in whatever order the keys are taken up.  No search goes on for ever, although the links may run in
circles.
-/

namespace CiteSync.Library

variable {specs : List Spec} {names : List String}

/-! ## 1. Sets that no parent link leads out of -/

/-- The keys of the collections of those names are in the set, and with a key those right below. -/
structure Encloses (specs : List Spec) (names : List String) (keys : Set String) : Prop where
  roots : ∀ s ∈ specs, s.name ∈ names → s.key ∈ keys
  below : ∀ s ∈ specs, ∀ p ∈ keys, p ≠ "" → s.parentKey = some p → s.key ∈ keys

theorem Spec.parent?_eq_some {s : Spec} {p : String} :
    s.parent? = some p ↔ s.parentKey = some p ∧ p ≠ "" := by
  unfold Spec.parent? filled?
  rw [Option.filter_eq_some_iff]
  simp

theorem mem_rootKeys {key : String} :
    key ∈ rootKeys specs names ↔ ∃ s ∈ specs, s.name ∈ names ∧ s.key = key := by
  simp [rootKeys, and_assoc]

theorem mem_nextKeys {keys : List String} {key : String} :
    key ∈ nextKeys specs keys ↔
      ∃ s ∈ specs, (∃ p ∈ keys, s.parent? = some p) ∧ s.key ∉ keys ∧ s.key = key := by
  have hbelow : ∀ s : Spec, s.isBelow keys = true ↔ ∃ p ∈ keys, s.parent? = some p := by
    intro s
    unfold Spec.isBelow
    cases s.parent? <;> simp
  simp [nextKeys, hbelow, and_assoc]

/-! ## 2. The descent -/

/-- The collections that no key of a list belongs to. -/
def outside (specs : List Spec) (keys : List String) : List Spec :=
  specs.filter fun s => !keys.contains s.key

/-- A collection that is selected is outside no longer. -/
theorem outside_length_lt {keys more : List String} {s : Spec} (hs : s ∈ specs)
    (hkey : s.key ∉ keys) (hmore : s.key ∈ more) (hkept : keys ⊆ more) :
    (outside specs more).length < (outside specs keys).length := by
  have hpart : outside specs more = (outside specs keys).filter fun t => !more.contains t.key := by
    unfold outside
    rw [List.filter_filter]
    refine List.filter_congr fun t _ => ?_
    have hboth : t.key ∈ keys → t.key ∈ more := fun h => hkept h
    by_cases hk : t.key ∈ keys <;> by_cases hm : t.key ∈ more <;> simp_all
  rw [hpart, List.length_filter_lt_length_iff_exists]
  exact ⟨s, by simp [outside, hs, hkey], by simp [hmore]⟩

theorem subset_descend (left : Nat) (keys : List String) : keys ⊆ descend specs left keys := by
  induction left generalizing keys with
  | zero => exact List.Subset.refl keys
  | succ left ih =>
    unfold descend
    split
    next => exact List.Subset.refl keys
    next => exact List.Subset.trans (List.subset_append_left keys _) (ih _)

/-- A descent never leads out of a set that no parent link leads out of. -/
theorem descend_enclosed {enclosing : Set String} (h : Encloses specs names enclosing) (left : Nat)
    {keys : List String} (hkeys : ∀ key ∈ keys, key ∈ enclosing) :
    ∀ key ∈ descend specs left keys, key ∈ enclosing := by
  induction left generalizing keys with
  | zero => exact hkeys
  | succ left ih =>
    unfold descend
    split
    next => exact hkeys
    next =>
      refine ih fun key hkey => ?_
      rcases List.mem_append.1 hkey with hold | hnew
      · exact hkeys key hold
      · obtain ⟨s, hs, ⟨p, hp, hparent⟩, -, rfl⟩ := mem_nextKeys.1 hnew
        obtain ⟨hlink, hfilled⟩ := Spec.parent?_eq_some.1 hparent
        exact h.below s hs p (hkeys p hp) hfilled hlink

/-- A descent with a level for each collection outside ends where nothing more is below. -/
theorem nextKeys_descend {left : Nat} {keys : List String}
    (henough : (outside specs keys).length ≤ left) :
    nextKeys specs (descend specs left keys) = [] := by
  -- every level but the last takes a collection from those outside
  induction left generalizing keys with
  | zero =>
    refine List.eq_nil_iff_forall_not_mem.2 fun key hkey => ?_
    obtain ⟨s, hs, -, hnot, -⟩ := mem_nextKeys.1 hkey
    have hout : s.key ∉ keys := hnot
    have hmem : s ∈ outside specs keys := by simp [outside, hs, hout]
    rw [List.length_eq_zero_iff.1 (Nat.le_zero.1 henough)] at hmem
    exact List.not_mem_nil hmem
  | succ left ih =>
    unfold descend
    split
    next hnone => exact hnone
    next hsome =>
      obtain ⟨key, hkey⟩ := List.exists_mem_of_ne_nil _ hsome
      obtain ⟨s, hs, -, hnot, rfl⟩ := mem_nextKeys.1 hkey
      have hfewer := outside_length_lt hs hnot (List.mem_append_right keys hkey)
        (List.subset_append_left keys _)
      exact ih (by omega)

/-- The keys that the descent finds are the least set that holds the keys of the names and that no
parent link leads out of. -/
theorem closureKeys_isLeast (specs : List Spec) (names : List String) :
    IsLeast {keys | Encloses specs names keys} {key | key ∈ closureKeys specs names} := by
  have hdone : nextKeys specs (closureKeys specs names) = [] :=
    nextKeys_descend (List.length_filter_le _ _)
  constructor
  · constructor
    · intro s hs hname
      exact subset_descend _ _ (mem_rootKeys.2 ⟨s, hs, hname, rfl⟩)
    · intro s hs p hp hfilled hlink
      refine Classical.byContradiction fun hnot => ?_
      have hnext : s.key ∈ nextKeys specs (closureKeys specs names) :=
        mem_nextKeys.2 ⟨s, hs, ⟨p, hp, Spec.parent?_eq_some.2 ⟨hlink, hfilled⟩⟩, hnot, rfl⟩
      rw [hdone] at hnext
      exact List.not_mem_nil hnext
  · intro enclosing h
    refine descend_enclosed h _ fun key hkey => ?_
    obtain ⟨s, hs, hname, rfl⟩ := mem_rootKeys.1 hkey
    exact h.roots s hs hname

/-! ## 3. What is selected -/

theorem closure_of_names (h : names ≠ []) :
    closure specs names = specs.filter fun s => s.key ∈ closureKeys specs names := by
  have hsome : names.isEmpty = false := by simpa using h
  unfold closure
  rw [hsome]
  simp only [Bool.false_eq_true, if_false]
  exact List.filter_congr fun s _ => List.contains_eq_mem s.key _

/-- Two lists of keys with the same enclosing sets select the same collections. -/
theorem mem_closureKeys_congr {other : List Spec} {others : List String}
    (h : ∀ keys, Encloses specs names keys ↔ Encloses other others keys) {key : String} :
    key ∈ closureKeys specs names ↔ key ∈ closureKeys other others := by
  have hsame : {keys | Encloses specs names keys} = {keys | Encloses other others keys} :=
    Set.ext h
  have hleast := closureKeys_isLeast specs names
  rw [hsame] at hleast
  have hkeys := hleast.unique (closureKeys_isLeast other others)
  exact Set.ext_iff.1 hkeys key

/-- What was selected encloses itself: among the selected collections the same keys are found. -/
theorem closureKeys_closure (h : names ≠ []) {key : String} (hkey : key ∈ closureKeys specs names) :
    key ∈ closureKeys (closure specs names) names := by
  obtain ⟨hencloses, hleast⟩ := closureKeys_isLeast specs names
  have hinner := (closureKeys_isLeast (closure specs names) names).1
  have hselected : ∀ {s : Spec}, s ∈ specs → s.key ∈ closureKeys specs names →
      s ∈ closure specs names := by
    intro s hs hsel
    rw [closure_of_names h]
    exact List.mem_filter.2 ⟨hs, decide_eq_true hsel⟩
  -- the keys of both encloses all that the first one does
  have hboth : Encloses specs names
      {key | key ∈ closureKeys specs names ∧ key ∈ closureKeys (closure specs names) names} := by
    constructor
    · intro s hs hname
      have hsel := hencloses.roots s hs hname
      exact ⟨hsel, hinner.roots s (hselected hs hsel) hname⟩
    · intro s hs p hp hfilled hlink
      have hsel := hencloses.below s hs p hp.1 hfilled hlink
      exact ⟨hsel, hinner.below s (hselected hs hsel) p hp.2 hfilled hlink⟩
  exact (hleast hboth hkey).2

theorem closure_closure (h : names ≠ []) :
    closure (closure specs names) names = closure specs names := by
  have hagain : closure (closure specs names) names = (closure specs names).filter
      fun s => s.key ∈ closureKeys (closure specs names) names := closure_of_names h
  rw [hagain, List.filter_eq_self]
  intro s hs
  rw [closure_of_names h, List.mem_filter] at hs
  exact decide_eq_true (closureKeys_closure h (of_decide_eq_true hs.2))

theorem closure_congr {others : List String} (h : names ≠ [])
    (hsame : ∀ name, name ∈ others ↔ name ∈ names) :
    closure specs others = closure specs names := by
  have hothers : others ≠ [] := by
    obtain ⟨name, hname⟩ := List.exists_mem_of_ne_nil _ h
    exact List.ne_nil_of_mem ((hsame name).2 hname)
  have hencloses : ∀ keys, Encloses specs others keys ↔ Encloses specs names keys := fun keys =>
    ⟨fun he => ⟨fun s hs hname => he.roots s hs ((hsame _).2 hname), he.below⟩,
      fun he => ⟨fun s hs hname => he.roots s hs ((hsame _).1 hname), he.below⟩⟩
  rw [closure_of_names h, closure_of_names hothers]
  exact List.filter_congr fun s _ => decide_eq_decide.2 (mem_closureKeys_congr hencloses)

/-! ## 4. Searches in any order -/

/-- A search for what is below: the keys that are selected, and those of them that were not looked
below so far. -/
structure Sweep where
  selected : List String
  pending : List String

namespace Sweep

/-- Selects a key, to look below it, unless it is selected. -/
def select (w : Sweep) (key : String) : Sweep :=
  if key ∈ w.selected then w else ⟨key :: w.selected, key :: w.pending⟩

/-- The keys right below a key. -/
def keysBelow (specs : List Spec) (key : String) : List String :=
  (specs.filter fun s => s.parent? == some key).map (·.key)

/-- A search looks below one of the pending keys, whichever it is. -/
inductive Step (specs : List Spec) : Sweep → Sweep → Prop
  | look {w : Sweep} {key : String} {rest : List String} (hkey : w.pending.Perm (key :: rest)) :
    Step specs w ((keysBelow specs key).foldl select ⟨w.selected, rest⟩)

variable {w w' : Sweep}

theorem mem_keysBelow {p key : String} :
    key ∈ keysBelow specs p ↔ ∃ s ∈ specs, s.parent? = some p ∧ s.key = key := by
  simp [keysBelow, and_assoc]

theorem mem_selected_foldl {found : List String} {key : String} :
    key ∈ (found.foldl select w).selected ↔ key ∈ w.selected ∨ key ∈ found := by
  induction found generalizing w with
  | nil => simp
  | cons first found ih =>
    rw [List.foldl_cons, ih]
    unfold select
    split <;> grind

theorem mem_pending_foldl {found : List String} {key : String} :
    key ∈ (found.foldl select w).pending ↔
      key ∈ w.pending ∨ key ∈ found ∧ key ∉ w.selected := by
  induction found generalizing w with
  | nil => simp
  | cons first found ih =>
    rw [List.foldl_cons, ih]
    unfold select
    split <;> grind

/-- What holds all through a search that starts from the keys of the names. -/
structure Holds (specs : List Spec) (names : List String) (w : Sweep) : Prop where
  roots : ∀ key ∈ rootKeys specs names, key ∈ w.selected
  enclosed : ∀ keys, Encloses specs names keys → ∀ key ∈ w.selected, key ∈ keys
  pending : ∀ key ∈ w.pending, key ∈ w.selected
  /-- What is right below a key that was looked below is selected. -/
  looked : ∀ p ∈ w.selected, p ∉ w.pending → ∀ key ∈ keysBelow specs p, key ∈ w.selected

theorem Holds.start {start : List String} (h : ∀ key, key ∈ start ↔ key ∈ rootKeys specs names) :
    Holds specs names ⟨start, start⟩ where
  roots key hkey := (h key).2 hkey
  enclosed keys hkeys key hkey := by
    obtain ⟨s, hs, hname, rfl⟩ := mem_rootKeys.1 ((h key).1 hkey)
    exact hkeys.roots s hs hname
  pending _ hkey := hkey
  looked _ hselected hpending := absurd hselected hpending

theorem Holds.step (h : Holds specs names w) (hstep : Step specs w w') : Holds specs names w' := by
  cases hstep with
  | @look p rest hp =>
    have hpselected : p ∈ w.selected := h.pending p (hp.mem_iff.2 List.mem_cons_self)
    constructor
    case roots => exact fun key hkey => mem_selected_foldl.2 (.inl (h.roots key hkey))
    case enclosed =>
      intro keys hkeys key hkey
      rcases mem_selected_foldl.1 hkey with hold | hnew
      · exact h.enclosed keys hkeys key hold
      · obtain ⟨s, hs, hparent, rfl⟩ := mem_keysBelow.1 hnew
        obtain ⟨hlink, hfilled⟩ := Spec.parent?_eq_some.1 hparent
        exact hkeys.below s hs p (h.enclosed keys hkeys p hpselected) hfilled hlink
    case pending =>
      intro key hkey
      rcases mem_pending_foldl.1 hkey with hold | hnew
      · exact mem_selected_foldl.2
          (.inl (h.pending key (hp.mem_iff.2 (List.mem_cons_of_mem p hold))))
      · exact mem_selected_foldl.2 (.inr hnew.1)
    case looked =>
      intro q hq hqpending key hkey
      rw [mem_pending_foldl] at hqpending
      -- a key that is selected just now is pending, so this one was selected before
      have hqold : q ∈ w.selected := by
        rcases mem_selected_foldl.1 hq with hold | hnew
        · exact hold
        · exact Classical.byContradiction fun hnot => hqpending (.inr ⟨hnew, hnot⟩)
      by_cases hqp : q = p
      · exact mem_selected_foldl.2 (.inr (hqp ▸ hkey))
      · have hqlooked : q ∉ w.pending := by
          rw [hp.mem_iff, List.mem_cons]
          exact fun hmem => hqpending (.inl (hmem.resolve_left hqp))
        exact mem_selected_foldl.2 (.inl (h.looked q hqold hqlooked key hkey))

/-- The keys that a search can still select count twice, the pending ones once. -/
def effort (specs : List Spec) (w : Sweep) : Nat :=
  2 * (outside specs w.selected).length + w.pending.length

theorem effort_foldl_le {found : List String} (h : ∀ key ∈ found, ∃ s ∈ specs, s.key = key) :
    effort specs (found.foldl select w) ≤ effort specs w := by
  induction found generalizing w with
  | nil => exact Nat.le_refl _
  | cons key found ih =>
    refine Nat.le_trans (ih fun k hk => h k (List.mem_cons_of_mem key hk)) ?_
    unfold select
    split
    next => exact Nat.le_refl _
    next hnot =>
      obtain ⟨s, hs, rfl⟩ := h key List.mem_cons_self
      have hfewer : (outside specs (s.key :: w.selected)).length <
          (outside specs w.selected).length :=
        outside_length_lt hs hnot List.mem_cons_self (List.subset_cons_self _ _)
      simp only [effort, List.length_cons]
      omega

theorem Step.effort_lt (h : Step specs w w') : effort specs w' < effort specs w := by
  cases h with
  | @look key rest hkey =>
    have hle : effort specs ((keysBelow specs key).foldl select ⟨w.selected, rest⟩) ≤
        effort specs ⟨w.selected, rest⟩ :=
      effort_foldl_le fun k hk => by
        obtain ⟨s, hs, -, rfl⟩ := mem_keysBelow.1 hk
        exact ⟨s, hs, rfl⟩
    have hlength := hkey.length_eq
    simp only [List.length_cons] at hlength
    simp only [effort] at hle ⊢
    omega

/-- No search goes on for ever. -/
theorem wellFounded (specs : List Spec) :
    WellFounded fun after before => Step specs before after :=
  Subrelation.wf (fun h => Step.effort_lt h) (measure (effort specs)).wf

/-- A search that cannot go on has selected the keys that the descent finds. -/
theorem Holds.mem_selected (h : Holds specs names w) (hended : ∀ next, ¬ Step specs w next)
    {key : String} : key ∈ w.selected ↔ key ∈ closureKeys specs names := by
  have hnothing : w.pending = [] := by
    cases hpending : w.pending with
    | nil => rfl
    | cons p rest => exact (hended _ (.look (.of_eq hpending))).elim
  have hleast : IsLeast {keys | Encloses specs names keys} {key | key ∈ w.selected} := by
    refine ⟨⟨fun s hs hname => ?_, fun s hs p hp hfilled hlink => ?_⟩, h.enclosed⟩
    · exact h.roots _ (mem_rootKeys.2 ⟨s, hs, hname, rfl⟩)
    · have hlooked : p ∉ w.pending := by
        rw [hnothing]
        exact List.not_mem_nil
      exact h.looked p hp hlooked _
        (mem_keysBelow.2 ⟨s, hs, Spec.parent?_eq_some.2 ⟨hlink, hfilled⟩, rfl⟩)
  exact Set.ext_iff.1 (hleast.unique (closureKeys_isLeast specs names)) key

end Sweep

/-- The collections of some names and all below them, in the order of the library and as often as
they are there, are those whose keys are in the least set that holds the keys of the names and that
no parent link leads out of.  Neither the order nor the repetition of the names matters, and to
select among the selected ones changes nothing.  Every search that starts from the keys of the names
ends, in whatever order keys are taken up, and selects these collections. -/
theorem closure_is_what_lies_below (specs : List Spec) {names : List String} (h : names ≠ []) :
    (∃ keys : List String, IsLeast {keys | Encloses specs names keys} {key | key ∈ keys} ∧
      closure specs names = specs.filter fun s => s.key ∈ keys) ∧
    (∀ others, (∀ name, name ∈ others ↔ name ∈ names) →
      closure specs others = closure specs names) ∧
    closure (closure specs names) names = closure specs names ∧
    WellFounded (fun after before => Sweep.Step specs before after) ∧
    ∀ start last, (∀ key, key ∈ start ↔ key ∈ rootKeys specs names) →
      Relation.ReflTransGen (Sweep.Step specs) ⟨start, start⟩ last →
      (∀ next, ¬ Sweep.Step specs last next) →
      (specs.filter fun s => s.key ∈ last.selected) = closure specs names := by
  refine ⟨⟨_, closureKeys_isLeast specs names, closure_of_names h⟩,
    fun others => closure_congr h, closure_closure h, Sweep.wellFounded specs,
    fun start last hstart hrun hended => ?_⟩
  have hholds : Sweep.Holds specs names last := by
    clear hended
    induction hrun with
    | refl => exact .start hstart
    | tail _ hstep ih => exact ih.step hstep
  rw [closure_of_names h]
  exact List.filter_congr fun s _ => decide_eq_decide.2 (hholds.mem_selected hended)

/-- A thesis and a chapter that are below each other, twice the same section, which is below the
chapter and below itself, and reading below a shelf that is not there. -/
def knotted : List Spec :=
  [{ key := "S", name := "Section", parentKey := some "C" },
    { key := "T", name := "Thesis", parentKey := some "C" },
    { key := "R", name := "Reading", parentKey := some "X" },
    { key := "C", name := "Chapter", parentKey := some "T" },
    { key := "S", name := "Section", parentKey := some "S" }]

/-- All that is below the thesis is selected in the order of the library, with both sections. -/
theorem closure_is_what_lies_below_thesis :
    closure knotted ["Thesis", "Absent", "Thesis"] = closure knotted ["Absent", "Thesis"] ∧
      (closure knotted ["Absent", "Thesis"]).map (·.key) = ["S", "T", "C", "S"] := by
  have hnames : ["Absent", "Thesis"] ≠ [] := by decide
  obtain ⟨-, hsame, -⟩ := closure_is_what_lies_below knotted hnames
  exact ⟨hsame _ (by simp), by decide⟩

end CiteSync.Library
