import CiteSync.Completion.Query

/-!
# Merging what providers offer

Candidates are made distinct once for each provider that was refreshed and again over all of them.
That is the same as making them distinct once, so a merged list says which candidates each provider
offers, in the order of the providers, and nothing else.
-/

namespace CiteSync.Completion

/-! ## 1. Distinct candidates -/

/-- Candidates that are dropped for an identity that is dropped anyway make no difference. -/
theorem unseen_unseen_append {before seen : List (String × String)} (h : before ⊆ seen)
    (cs rest : List Candidate) :
    unseen seen (unseen before cs ++ rest) = unseen seen (cs ++ rest) := by
  -- both lists of identities grow with every candidate that is kept
  induction cs generalizing before seen with
  | nil => rfl
  | cons c cs ih =>
    by_cases hbefore : c.identity ∈ before
    · have hseen : c.identity ∈ seen := h hbefore
      simp only [unseen, List.contains_iff_mem, hbefore, if_true, List.cons_append, hseen]
      exact ih h
    · simp only [unseen, List.contains_iff_mem, hbefore, if_false, List.cons_append]
      by_cases hseen : c.identity ∈ seen
      · simp only [hseen, if_true]
        exact ih (List.cons_subset.2 ⟨hseen, h⟩)
      · simp only [hseen, if_false]
        rw [ih (List.cons_subset_cons _ h)]

theorem unseen_append_congr {cs rest rest' : List Candidate}
    (h : ∀ seen, unseen seen rest = unseen seen rest') (seen : List (String × String)) :
    unseen seen (cs ++ rest) = unseen seen (cs ++ rest') := by
  -- what is kept of the first part changes the identities that the rest meets
  induction cs generalizing seen with
  | nil => exact h seen
  | cons c cs ih =>
    simp only [List.cons_append, unseen]
    split
    · exact ih seen
    · rw [ih]

theorem unseen_flatMap_dedupe (groups : List (List Candidate)) (seen : List (String × String)) :
    unseen seen (groups.flatMap dedupe) = unseen seen groups.flatten := by
  induction groups generalizing seen with
  | nil => rfl
  | cons group groups ih =>
    rw [List.flatMap_cons, List.flatten_cons, dedupe,
      unseen_unseen_append (List.nil_subset seen)]
    exact unseen_append_congr ih seen

theorem dedupe_dedupe (cs : List Candidate) : dedupe (dedupe cs) = dedupe cs := by
  have h := unseen_unseen_append (List.nil_subset []) cs []
  rwa [List.append_nil, List.append_nil] at h

/-! ## 2. Merged lists -/

/-- What a group offers, each candidate once. -/
def offered (group : Option (List Candidate)) : List Candidate := dedupe (group.getD [])

/-- A merged list depends only on what each group offers. -/
theorem merge_eq (groups : List (Option (List Candidate))) :
    merge groups = sorted (groups.flatMap offered) := by
  have hflat : groups.flatMap offered = (groups.map (·.getD [])).flatMap dedupe := by
    rw [List.flatMap_map]
    rfl
  have hjoin : groups.flatMap (·.getD []) = (groups.map (·.getD [])).flatten := rfl
  rw [merge, sorted, sorted, hflat, hjoin, dedupe, dedupe, unseen_flatMap_dedupe]

theorem merge_congr {groups groups' : List (Option (List Candidate))}
    (h : groups.map offered = groups'.map offered) : merge groups = merge groups' := by
  rw [merge_eq, merge_eq, List.flatMap_def, List.flatMap_def, h]

/-- Groups that are not there offer nothing. -/
theorem merge_filterMap {α : Type} (group : α → Option (List Candidate)) (xs : List α) :
    merge ((xs.filterMap group).map some) = merge (xs.map group) := by
  unfold merge
  congr 1
  induction xs with
  | nil => rfl
  | cons x xs ih =>
    cases hx : group x with
    | none => simpa [hx] using ih
    | some found => simpa [hx] using ih

/-! ## 3. What is shown while refreshes arrive -/

/-- What was brought back, and what is loaded where nothing was brought back. -/
def upToDate (found current : List (Option (List Candidate))) : List (Option (List Candidate)) :=
  found.zipWith (fun fresh loaded => fresh <|> loaded) current

/-- The refreshed list of a query: nothing before anything was brought back. -/
def refined (found current : List (Option (List Candidate))) : Option (List Candidate) :=
  if found.all Option.isNone then none else some (merge (upToDate found current))

/-- There is a refreshed list exactly if something was brought back. -/
theorem refined_eq_none {found current : List (Option (List Candidate))} :
    refined found current = none ↔ ∀ fresh ∈ found, fresh = none := by
  unfold refined
  split
  next h => simpa using h
  next h => simpa using h

/-- What each provider has contributed to a query. -/
def contributed (found current : List (Option (List Candidate))) : List (List Candidate) :=
  found.zipWith (fun fresh loaded => (fresh.map dedupe).getD (loaded.getD [])) current

/-- What was contributed is merged as what was brought back. -/
theorem merge_contributed (found current : List (Option (List Candidate))) :
    merge ((contributed found current).map some) = merge (upToDate found current) := by
  apply merge_congr
  unfold contributed upToDate
  rw [List.map_map, List.map_zipWith, List.map_zipWith]
  congr 1
  funext fresh loaded
  cases fresh with
  | none => rfl
  | some cs => exact dedupe_dedupe cs

theorem contributed_none (current : List (Option (List Candidate))) :
    contributed (List.replicate current.length none) current = current.map (·.getD []) := by
  unfold contributed
  induction current with
  | nil => rfl
  | cons loaded current ih =>
    rw [List.length_cons, List.replicate_succ, List.zipWith_cons_cons, List.map_cons, ih]
    rfl

theorem contributed_set {found current : List (Option (List Candidate))} {i : Nat}
    (hi : i < current.length) (fresh : List Candidate) :
    contributed (found.set i (some fresh)) current =
      (contributed found current).set i (dedupe fresh) := by
  unfold contributed
  apply List.ext_getElem?
  intro j
  rw [List.getElem?_zipWith, List.getElem?_set', List.getElem?_set', List.getElem?_zipWith]
  by_cases hij : i = j
  · subst hij
    rw [List.getElem?_eq_getElem hi]
    cases found[i]? with
    | none => simp
    | some old => simp
  · simp only [hij, if_false]

theorem refined_of_all {found current : List (Option (List Candidate))}
    (hlength : found.length = current.length) (hsome : current ≠ [])
    (hall : ∀ fresh ∈ found, fresh.isSome) : refined found current = some (merge found) := by
  -- there is a provider, so something was brought back
  have hnot : ¬found.all Option.isNone = true := by
    cases found with
    | nil => exact absurd (List.length_eq_zero_iff.1 hlength.symm) hsome
    | cons fresh found =>
      obtain ⟨cs, rfl⟩ := Option.isSome_iff_exists.1 (hall fresh (List.mem_cons_self ..))
      simp
  have hsame : upToDate found current = found := by
    unfold upToDate
    apply List.ext_getElem?
    intro i
    rw [List.getElem?_zipWith]
    by_cases hi : i < found.length
    · obtain ⟨cs, hcs⟩ := Option.isSome_iff_exists.1 (hall _ (List.getElem_mem hi))
      rw [List.getElem?_eq_getElem hi, List.getElem?_eq_getElem (hlength ▸ hi), hcs]
      rfl
    · rw [List.getElem?_eq_none (Nat.le_of_not_lt hi)]
  rw [refined, if_neg hnot, hsame]

end CiteSync.Completion
