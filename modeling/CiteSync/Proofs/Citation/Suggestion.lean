import CiteSync.Citation.Key
import Mathlib.Data.List.Dedup
import Mathlib.Data.List.Perm.Subperm

/-!
# Suggested citation keys

A key that is suggested is free, as long as there are fewer keys in use than letters to put behind
one.  It is the work's own key, or that with a letter, and every letter before that one is taken.
-/

namespace CiteSync.Citation

open Library

/-! ## 1. Letters -/

/-- How many letters follow one another from `a` on, before code points that are no characters. -/
def letterCount : Nat := 0xD800 - 97

theorem toNat_letter {n : Nat} (hn : n < letterCount) : (Char.ofNat (97 + n)).toNat = 97 + n := by
  unfold letterCount at hn
  have hvalid : (97 + n).isValidChar := .inl (by omega)
  unfold Char.ofNat
  rw [dif_pos hvalid]
  rfl

theorem lettered_inj {base : String} {m n : Nat} (hm : m < letterCount) (hn : n < letterCount)
    (h : lettered base m = lettered base n) : m = n := by
  have hchar : Char.ofNat (97 + m) = Char.ofNat (97 + n) := (String.push_inj.1 h).2
  have hnat := congrArg Char.toNat hchar
  rw [toNat_letter hm, toNat_letter hn] at hnat
  omega

/-- Among one more letters than there are keys in use, one makes the key free. -/
theorem exists_free_letter (base : String) {taken : List String}
    (few : taken.dedup.length < letterCount) :
    ∃ n, n ≤ taken.dedup.length ∧ lettered base n ∉ taken := by
  by_contra hnone
  push Not at hnone
  -- the keys with those letters differ, so there are too many of them to be in use
  have hdistinct : ((List.range (taken.dedup.length + 1)).map (lettered base)).Nodup := by
    refine List.nodup_range.map_on fun m hm n hn h => ?_
    rw [List.mem_range] at hm hn
    exact lettered_inj (by omega) (by omega) h
  have hsub : (List.range (taken.dedup.length + 1)).map (lettered base) ⊆ taken.dedup := by
    intro key hkey
    obtain ⟨n, hn, rfl⟩ := List.mem_map.1 hkey
    rw [List.mem_range] at hn
    exact List.mem_dedup.2 (hnone n (by omega))
  have hlength := (List.subperm_of_subset hdistinct hsub).length_le
  rw [List.length_map, List.length_range] at hlength
  omega

/-! ## 2. Free keys -/

variable {base : String} {taken : List String}

theorem freeKey_of_not_mem (h : base ∉ taken) : freeKey base taken = base := by
  unfold freeKey
  rw [if_neg (by simpa using h)]

/-- The number of the letter that is found. -/
def freeLetter? (base : String) (taken : List String) : Option Nat :=
  (List.range (taken.length + 1)).find? fun n => !taken.contains (lettered base n)

theorem freeKey_of_mem (h : base ∈ taken) :
    freeKey base taken = ((freeLetter? base taken).map (lettered base)).getD base := by
  unfold freeKey
  rw [if_pos (by simpa using h)]
  show _ = ((freeLetter? base taken).map (lettered base)).getD base
  unfold freeLetter?
  cases (List.range (taken.length + 1)).find? fun n => !taken.contains (lettered base n) <;> rfl

/-- The letter that is found is the first one that makes the key free. -/
theorem freeLetter?_eq_some {n : Nat} :
    freeLetter? base taken = some n ↔ n ≤ taken.length ∧ lettered base n ∉ taken ∧
      ∀ m, m < n → lettered base m ∈ taken := by
  unfold freeLetter?
  rw [List.find?_range_eq_some, List.mem_range, Nat.lt_succ_iff]
  simp only [Bool.not_eq_true', List.contains_eq_mem, decide_eq_false_iff_not, Bool.not_not,
    decide_eq_true_eq]
  constructor
  · rintro ⟨hfree, hn, hfirst⟩
    exact ⟨hn, hfree, hfirst⟩
  · rintro ⟨hn, hfree, hfirst⟩
    exact ⟨hfree, hn, hfirst⟩

/-- The search finds a letter after no more than there are keys in use. -/
theorem exists_freeLetter? (base : String) (few : taken.dedup.length < letterCount) :
    ∃ n, n ≤ taken.dedup.length ∧ freeLetter? base taken = some n := by
  obtain ⟨k, hk, hfree⟩ := exists_free_letter base few
  have hlength : taken.dedup.length ≤ taken.length := taken.dedup_sublist.length_le
  cases hfind : freeLetter? base taken with
  | none =>
    unfold freeLetter? at hfind
    have htaken := List.find?_range_eq_none.1 hfind k (by omega)
    exact absurd (by simpa using htaken) hfree
  | some n =>
    obtain ⟨-, -, hfirst⟩ := freeLetter?_eq_some.1 hfind
    refine ⟨n, ?_, rfl⟩
    -- a letter beyond that one would not be the first
    by_contra hn
    exact hfree (hfirst k (by omega))

theorem freeKey_not_mem (few : taken.dedup.length < letterCount) : freeKey base taken ∉ taken := by
  by_cases hbase : base ∈ taken
  · obtain ⟨n, -, hfind⟩ := exists_freeLetter? base few
    rw [freeKey_of_mem hbase, hfind]
    exact (freeLetter?_eq_some.1 hfind).2.1
  · rw [freeKey_of_not_mem hbase]
    exact hbase

/-! ## 3. What a work can be given -/

/-- A key that may be suggested for a work: its own, or that with a letter. -/
def MayGet (w : Source) (key : String) : Prop :=
  key = baseKey w ∨ ∃ n, key = lettered (baseKey w) n

theorem mayGet_suggestKey (w : Source) (taken : List String) : MayGet w (suggestKey w taken) := by
  unfold suggestKey
  by_cases hbase : baseKey w ∈ taken
  · rw [freeKey_of_mem hbase]
    cases freeLetter? (baseKey w) taken with
    | none => exact .inl rfl
    | some n => exact .inr ⟨n, rfl⟩
  · exact .inl (freeKey_of_not_mem hbase)

theorem stem_ne_nil (w : Source) : stem w ≠ [] := by
  have hnamed : ∀ named : List Char, (if named ≠ [] then named else nameless) ≠ [] := by
    intro named
    split
    next h => exact h
    next => decide
  exact hnamed _

theorem MayGet.ne_empty {w : Source} {key : String} (h : MayGet w key) : key ≠ "" := by
  intro hempty
  rcases h with rfl | ⟨n, rfl⟩
  · have hnil := String.ofList_eq_empty_iff.1 hempty
    exact stem_ne_nil w (List.append_eq_nil_iff.1 hnil).1
  · have hlist := congrArg String.toList hempty
    rw [lettered, String.toList_push] at hlist
    simp at hlist

/-- A key that is suggested is suggested again when more keys have come into use, as long as it is
not one of them. -/
theorem suggestKey_of_grown {w : Source} {more : List String}
    (hfree : suggestKey w taken ∉ more ++ taken) :
    suggestKey w (more ++ taken) = suggestKey w taken := by
  unfold suggestKey at hfree ⊢
  by_cases hbase : baseKey w ∈ taken
  · have hbase' : baseKey w ∈ more ++ taken := List.mem_append_right _ hbase
    rw [freeKey_of_mem hbase] at hfree ⊢
    rw [freeKey_of_mem hbase']
    cases hfind : freeLetter? (baseKey w) taken with
    | none =>
      rw [hfind] at hfree
      exact absurd hbase' hfree
    | some n =>
      rw [hfind] at hfree
      obtain ⟨hn, -, hfirst⟩ := freeLetter?_eq_some.1 hfind
      -- the letters before that one are still taken
      have hagain : freeLetter? (baseKey w) (more ++ taken) = some n := by
        refine freeLetter?_eq_some.2 ⟨?_, hfree, fun m hm => ?_⟩
        · rw [List.length_append]
          omega
        · exact List.mem_append_right _ (hfirst m hm)
      rw [hagain]
  · rw [freeKey_of_not_mem hbase] at hfree ⊢
    exact freeKey_of_not_mem hfree

end CiteSync.Citation
