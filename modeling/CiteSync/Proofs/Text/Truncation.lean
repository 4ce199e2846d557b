import CiteSync.Text.Truncated
import Mathlib.Data.List.Infix
import Mathlib.Tactic.IntervalCases

/-!
# What a limit leaves of a text

A text that fits into a limit stays as it is.  Of a longer one a start is kept, with the mark behind
it; where there is room for the mark at most, only a start of the mark is left.  What is left fits
into the limit, and a wider limit leaves no less.

Limits are compared by the places where they cut a text.  The last blank in a room can lie anywhere
in front of the end of that room, but in a wider room the last blank is the same or a later one.
-/

namespace CiteSync.Text

variable {cs : List Char} {room room' place place' : Nat}

/-! ## 1. The last blank -/

theorem find?_reverse_range_eq_some {p : Nat → Bool} {n i : Nat} :
    (List.range n).reverse.find? p = some i ↔
      i < n ∧ p i = true ∧ ∀ j, i < j → j < n → p j = false := by
  induction n with
  | zero => simp
  | succ n ih =>
    rw [List.range_succ, List.reverse_append, List.reverse_singleton, List.singleton_append,
      List.find?_cons]
    -- the search begins at the end, so a hit at `n` is the answer whatever comes before it
    cases hn : p n with
    | true =>
      show some n = some i ↔ _
      rw [Option.some_inj]
      constructor
      · rintro rfl
        exact ⟨by omega, hn, fun j hj hlt => by omega⟩
      · rintro ⟨hi, -, hlast⟩
        by_contra hne
        rw [hlast n (by omega) (by omega)] at hn
        cases hn
    | false =>
      show (List.range n).reverse.find? p = some i ↔ _
      rw [ih]
      constructor
      · rintro ⟨hi, hp, hlast⟩
        refine ⟨by omega, hp, fun j hj hlt => ?_⟩
        rcases Nat.lt_succ_iff_lt_or_eq.1 hlt with hlt | rfl
        · exact hlast j hj hlt
        · exact hn
      · rintro ⟨hi, hp, hlast⟩
        have hne : i ≠ n := by
          rintro rfl
          rw [hp] at hn
          cases hn
        exact ⟨by omega, hp, fun j hj hlt => hlast j hj (by omega)⟩

theorem lastSpace?_eq_some (h : lastSpace? cs = some place) :
    0 < place ∧ cs[place]? = some ' ' ∧ ∀ i, place < i → cs[i]? ≠ some ' ' := by
  obtain ⟨hfound, hinside⟩ := Option.filter_eq_some_iff.1 h
  obtain ⟨-, hblank, hlast⟩ := find?_reverse_range_eq_some.1 hfound
  refine ⟨by simpa using hinside, by simpa using hblank, fun i hi hblank' => ?_⟩
  have hlt : i < cs.length := (List.getElem?_eq_some_iff.1 hblank').1
  have hno := hlast i hi hlt
  rw [hblank'] at hno
  cases hno

theorem lastSpace?_eq_none (h : lastSpace? cs = none) {i : Nat} (hi : 0 < i) :
    cs[i]? ≠ some ' ' := by
  intro hblank
  have hlt : i < cs.length := (List.getElem?_eq_some_iff.1 hblank).1
  cases hfind : (List.range cs.length).reverse.find? fun i => cs[i]? == some ' ' with
  | none =>
    have hno := List.find?_eq_none.1 hfind i (by simpa using hlt)
    simp [hblank] at hno
  | some last =>
    -- a blank was found that does not count, so it is the one at the start, and none is behind it
    have hstart : last = 0 := by
      unfold lastSpace? at h
      rw [hfind] at h
      simpa using h
    obtain ⟨-, -, hlast⟩ := find?_reverse_range_eq_some.1 hfind
    have hno := hlast i (by omega) hlt
    rw [hblank] at hno
    cases hno

/-! ## 2. Where a text is cut -/

/-- Where a text is cut that has room for `room` characters: at the last blank in that room, or at
its end where there is none.  A blank at the very start of the text does not count. -/
inductive CutAt (cs : List Char) (room : Nat) : Nat → Prop
  | blank {place : Nat} (inside : 0 < place) (fits : place < room)
      (here : cs[place]? = some ' ')
      (last : ∀ i, place < i → i < room → cs[i]? ≠ some ' ') : CutAt cs room place
  | full (whole : ∀ i, 0 < i → i < room → cs[i]? ≠ some ' ') : CutAt cs room room

theorem CutAt.le (h : CutAt cs room place) : place ≤ room := by
  cases h with
  | blank _ fits => omega
  | full => exact Nat.le_refl room

/-- In a wider room a text is not cut earlier. -/
theorem CutAt.mono (h : CutAt cs room place) (h' : CutAt cs room' place')
    (hroom : room ≤ room') : place ≤ place' := by
  by_contra hearlier
  cases h' with
  | full => exact hearlier (Nat.le_trans h.le hroom)
  | blank inside' _ here' last' =>
    cases h with
    -- the blank at `place` is in the wider room too, behind the one that is the last in it
    | blank _ fits here => exact last' place (by omega) (by omega) here
    -- the blank at `place'` is in front of the end of the narrower room, which has none
    | full whole => exact whole place' inside' (by omega) here'

theorem exists_cutAt (cs : List Char) (room : Nat) :
    ∃ place, CutAt cs room place ∧ keptChars cs room = cs.take place := by
  unfold keptChars
  cases h : lastSpace? (cs.take room) with
  | none =>
    refine ⟨room, .full fun i hi hlt => ?_, rfl⟩
    rw [← List.getElem?_take_of_lt hlt]
    exact lastSpace?_eq_none h hi
  | some place =>
    obtain ⟨hinside, hblank, hlast⟩ := lastSpace?_eq_some h
    have hfits : place < room := by
      have hlt : place < (cs.take room).length := (List.getElem?_eq_some_iff.1 hblank).1
      rw [List.length_take] at hlt
      omega
    refine ⟨place, .blank hinside hfits ?_ fun i hi hlt => ?_, rfl⟩
    · rw [← List.getElem?_take_of_lt hfits]
      exact hblank
    · rw [← List.getElem?_take_of_lt hlt]
      exact hlast i hi

/-! ## 3. What is left -/

/-- What is kept of a text within a limit, and all that is left, the mark included.  `whole` is a
text that fits, `marked` a start of a longer one with the mark behind it, and `onlyMark` the start
of the mark where nothing of the text has room beside it. -/
inductive Leaves (s mark : String) (limit : Int) : List Char → String → Prop
  | whole (fits : (s.length : Int) ≤ limit) : Leaves s mark limit s.toList s
  | marked {kept : List Char} (long : limit < s.length) (wide : (mark.length : Int) < limit)
      (start : kept <+: s.toList)
      (cut : CutAt s.toList (limit.toNat - mark.length) kept.length) :
      Leaves s mark limit kept (String.ofList kept ++ mark)
  | onlyMark {left : String} (long : limit < s.length) (narrow : limit ≤ mark.length)
      (start : left.toList <+: mark.toList) (full : (left.length : Int) = max limit 0) :
      Leaves s mark limit [] left

variable {s mark left left' : String} {limit limit' : Int} {kept kept' : List Char}

theorem leaves_truncate (s mark : String) (limit : Int) :
    ∃ kept, Leaves s mark limit kept (truncate s limit mark) := by
  unfold truncate truncateChars
  simp only [String.length_toList]
  by_cases hfits : (s.length : Int) ≤ limit
  · rw [if_pos hfits, String.ofList_toList]
    exact ⟨s.toList, .whole hfits⟩
  · rw [if_neg hfits]
    by_cases hnarrow : limit ≤ mark.length
    · -- no room for anything but a part of the mark
      rw [if_pos hnarrow]
      refine ⟨[], .onlyMark (by omega) hnarrow ?_ ?_⟩
      · rw [String.toList_ofList]
        exact List.take_prefix _ _
      · rw [String.length_ofList, List.length_take, String.length_toList]
        omega
    · rw [if_neg hnarrow]
      obtain ⟨place, hcut, hkept⟩ := exists_cutAt s.toList (limit.toNat - mark.length)
      have hlength : (s.toList.take place).length = place := by
        have hle := hcut.le
        rw [List.length_take, String.length_toList]
        omega
      rw [hkept, String.ofList_append, String.ofList_toList]
      refine ⟨_, .marked (by omega) (by omega) (List.take_prefix _ _) ?_⟩
      rw [hlength]
      exact hcut

theorem Leaves.length_le (h : Leaves s mark limit kept left) :
    (left.length : Int) ≤ max limit 0 := by
  cases h with
  | whole fits => omega
  | marked _ wide _ cut =>
    have hle := cut.le
    rw [String.length_append, String.length_ofList]
    omega
  | onlyMark _ _ _ full => omega

theorem Leaves.kept_prefix (h : Leaves s mark limit kept left) : kept <+: s.toList := by
  cases h with
  | whole => exact List.prefix_refl _
  | marked _ _ start => exact start
  | onlyMark => exact List.nil_prefix

/-- Within a wider limit no less of the text is kept. -/
theorem Leaves.kept_mono (h : Leaves s mark limit kept left)
    (h' : Leaves s mark limit' kept' left') (hlimit : limit ≤ limit') : kept <+: kept' := by
  cases h' with
  | whole => exact h.kept_prefix
  | onlyMark long' narrow' =>
    cases h with
    | whole fits => omega
    | marked _ wide => omega
    | onlyMark => exact List.prefix_refl _
  | marked long' _ start' cut' =>
    cases h with
    | whole fits => omega
    | onlyMark => exact List.nil_prefix
    | marked _ _ start cut =>
      apply List.prefix_of_prefix_length_le start start'
      exact cut.mono cut' (by omega)

/-- Within a wider limit no less is left. -/
theorem Leaves.length_mono (h : Leaves s mark limit kept left)
    (h' : Leaves s mark limit' kept' left') (hlimit : limit ≤ limit') :
    left.length ≤ left'.length := by
  have hkept : kept.length ≤ kept'.length := (h.kept_mono h' hlimit).length_le
  have hfits : (left.length : Int) ≤ max limit 0 := h.length_le
  cases h' with
  | whole fits' =>
    cases h with
    | whole => exact Nat.le_refl _
    -- a text that was cut is longer than the limit that cut it
    | marked long => omega
    | onlyMark long => omega
  | marked long' wide' =>
    rw [String.length_append, String.length_ofList]
    cases h with
    | whole fits => omega
    | marked =>
      rw [String.length_append, String.length_ofList]
      omega
    | onlyMark _ narrow => omega
  | onlyMark _ _ _ full' => omega

/-! ## 4. The law of truncation -/

/-- What a limit leaves of a text is no longer than the limit: the text itself, a start of it with
the mark behind it, or a start of the mark.  A wider limit leaves no less, and what is kept of the
text within a limit is a start of what is kept within a wider one. -/
theorem wider_limit_leaves_no_less (s mark : String) (limit : Int) :
    ((truncate s limit mark).length : Int) ≤ max limit 0 ∧
    (∃ kept, Leaves s mark limit kept (truncate s limit mark)) ∧
    ∀ limit', limit ≤ limit' →
      (truncate s limit mark).length ≤ (truncate s limit' mark).length ∧
      ∀ kept kept', Leaves s mark limit kept (truncate s limit mark) →
        Leaves s mark limit' kept' (truncate s limit' mark) → kept <+: kept' := by
  obtain ⟨kept, h⟩ := leaves_truncate s mark limit
  refine ⟨h.length_le, ⟨kept, h⟩, fun limit' hlimit => ?_⟩
  obtain ⟨kept', h'⟩ := leaves_truncate s mark limit'
  exact ⟨h.length_mono h' hlimit, fun _ _ hkept hkept' => hkept.kept_mono hkept' hlimit⟩

/-- A text with four blanks. -/
def threeNames : String := "Smith and Doe and Roe"

theorem cutAt_threeNames : CutAt threeNames.toList 12 9 ∧ CutAt threeNames.toList 15 13 := by
  constructor
  · refine .blank (by decide) (by decide) (by decide) fun i hi hlt => ?_
    interval_cases i <;> decide
  · refine .blank (by decide) (by decide) (by decide) fun i hi hlt => ?_
    interval_cases i
    decide

/-- Three characters more leave room for one more name. -/
theorem wider_limit_leaves_no_less_names :
    (15 : Int) ≤ 18 ∧
      Leaves threeNames "..." 15 "Smith and".toList (truncate threeNames 15 "...") ∧
      Leaves threeNames "..." 18 "Smith and Doe".toList (truncate threeNames 18 "...") ∧
      "Smith and".toList <+: "Smith and Doe".toList := by
  have hleaves : Leaves threeNames "..." 15 "Smith and".toList (truncate threeNames 15 "...") := by
    rw [show truncate threeNames 15 "..." = String.ofList "Smith and".toList ++ "..." by decide]
    exact .marked (by decide) (by decide) (by decide) cutAt_threeNames.1
  have hleaves' : Leaves threeNames "..." 18 "Smith and Doe".toList
      (truncate threeNames 18 "...") := by
    rw [show truncate threeNames 18 "..." = String.ofList "Smith and Doe".toList ++ "..."
      by decide]
    exact .marked (by decide) (by decide) (by decide) cutAt_threeNames.2
  obtain ⟨-, -, hwider⟩ := wider_limit_leaves_no_less threeNames "..." 15
  obtain ⟨-, hkept⟩ := hwider 18 (by decide)
  exact ⟨by decide, hleaves, hleaves', hkept _ _ hleaves hleaves'⟩

example : truncate threeNames 2 "..." = ".." := by decide

end CiteSync.Text
