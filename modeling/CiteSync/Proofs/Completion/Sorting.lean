import CiteSync.Proofs.Completion.Merging
import Mathlib.Data.List.Nodup

/-!
# The order of candidates

Candidates are put in the order of their ids, and those of one id stay in the order they were in.
So a list in the order of the ids is known as soon as it is known for each id which candidates have
it, and in which order.  What each provider finds of its candidates may therefore come in any order:
sorted together, it is the sorted list of all candidates without the ones that were not found.
-/

namespace CiteSync.Completion

variable {cs : List Candidate} {c : Candidate}

/-! ## 1. Candidates of one id -/

/-- The candidates of an id. -/
def ofId (id : String) (cs : List Candidate) : List Candidate := cs.filter (·.id == id)

/-- The ids of a list do not descend. -/
def Ascending (cs : List Candidate) : Prop := cs.Pairwise fun a b => a.id ≤ b.id

theorem ofId_cons_self (c : Candidate) (cs : List Candidate) :
    ofId c.id (c :: cs) = c :: ofId c.id cs :=
  List.filter_cons_of_pos (by simp)

/-- The first id of a list in the order of the ids is the least. -/
theorem Ascending.head_le (h : Ascending (c :: cs)) {other : Candidate} (hmem : other ∈ c :: cs) :
    c.id ≤ other.id := by
  rcases List.mem_cons.1 hmem with rfl | hmem
  · exact String.le_refl _
  · exact (List.pairwise_cons.1 h).1 other hmem

theorem mem_of_ofId_eq {ds : List Candidate} (h : ofId c.id ds = ofId c.id (c :: cs)) : c ∈ ds := by
  have hmem : c ∈ ofId c.id ds := by
    rw [h, ofId_cons_self]
    exact List.mem_cons_self
  exact (List.mem_filter.1 hmem).1

/-- Two lists in the order of the ids are equal if they have the same candidates of each id. -/
theorem eq_of_ofId {ds : List Candidate} (hcs : Ascending cs) (hds : Ascending ds)
    (h : ∀ id, ofId id cs = ofId id ds) : cs = ds := by
  induction cs generalizing ds with
  | nil =>
    cases ds with
    | nil => rfl
    | cons d ds => exact absurd (mem_of_ofId_eq (h d.id)) List.not_mem_nil
  | cons c cs ih =>
    cases ds with
    | nil => exact absurd (mem_of_ofId_eq (h c.id).symm) List.not_mem_nil
    | cons d ds =>
      -- each of the first ids is the least one of both lists
      have hid : c.id = d.id := String.le_antisymm
        (hcs.head_le (mem_of_ofId_eq (h d.id))) (hds.head_le (mem_of_ofId_eq (h c.id).symm))
      have hfirst := h c.id
      rw [ofId_cons_self, hid, ofId_cons_self] at hfirst
      obtain rfl : c = d := (List.cons.inj hfirst).1
      have hrest : ∀ id, ofId id cs = ofId id ds := by
        intro id
        have hboth := h id
        by_cases hc : c.id = id
        · subst hc
          exact (List.cons.inj hfirst).2
        · rwa [ofId, ofId, List.filter_cons_of_neg (by simpa using hc),
            List.filter_cons_of_neg (by simpa using hc)] at hboth
      rw [ih (List.pairwise_cons.1 hcs).2 (List.pairwise_cons.1 hds).2 hrest]

/-! ## 2. Sorted candidates -/

theorem id_le_trans (a b c : Candidate) (hab : decide (a.id ≤ b.id) = true)
    (hbc : decide (b.id ≤ c.id) = true) : decide (a.id ≤ c.id) = true :=
  decide_eq_true (String.le_trans (of_decide_eq_true hab) (of_decide_eq_true hbc))

theorem id_le_total (a b : Candidate) : (decide (a.id ≤ b.id) || decide (b.id ≤ a.id)) = true := by
  rw [Bool.or_eq_true, decide_eq_true_eq, decide_eq_true_eq]
  exact String.le_total a.id b.id

theorem sorted_ascending (cs : List Candidate) : Ascending (sorted cs) :=
  (List.pairwise_mergeSort id_le_trans id_le_total (dedupe cs)).imp of_decide_eq_true

/-- The candidates of an id stay in their order. -/
theorem ofId_sorted (id : String) (cs : List Candidate) :
    ofId id (sorted cs) = ofId id (dedupe cs) := by
  have htied : (ofId id (dedupe cs)).Pairwise fun a b => decide (a.id ≤ b.id) = true := by
    refine List.pairwise_of_forall_mem_list fun a ha b hb => ?_
    have ha' : a.id = id := by simpa using (List.mem_filter.1 ha).2
    have hb' : b.id = id := by simpa using (List.mem_filter.1 hb).2
    rw [ha', hb']
    exact decide_eq_true (String.le_refl id)
  have hkept : (ofId id (dedupe cs)).Sublist (sorted cs) :=
    List.sublist_mergeSort id_le_trans id_le_total htied List.filter_sublist
  have hofId : ofId id (ofId id (dedupe cs)) = ofId id (dedupe cs) := by
    rw [ofId, ofId, List.filter_filter]
    simp only [Bool.and_self]
  have hsub : (ofId id (dedupe cs)).Sublist (ofId id (sorted cs)) := by
    have hboth := hkept.filter (·.id == id)
    rwa [← ofId, hofId] at hboth
  have hlength : (ofId id (sorted cs)).length = (ofId id (dedupe cs)).length :=
    ((List.mergeSort_perm (dedupe cs) _).filter _).length_eq
  exact (hsub.eq_of_length hlength.symm).symm

theorem unseen_of_nodup {seen : List (String × String)} (h : (cs.map Candidate.identity).Nodup)
    (hnew : ∀ c ∈ cs, c.identity ∉ seen) : unseen seen cs = cs := by
  induction cs generalizing seen with
  | nil => rfl
  | cons c rest ih =>
    rw [List.map_cons, List.nodup_cons] at h
    have hseen : seen.contains c.identity = false := by
      simpa using hnew c List.mem_cons_self
    rw [unseen, hseen]
    simp only [Bool.false_eq_true, if_false]
    rw [ih h.2 fun d hd hmem => ?_]
    rcases List.mem_cons.1 hmem with hsame | hmem
    · exact h.1 (hsame ▸ List.mem_map_of_mem hd)
    · exact hnew d (List.mem_cons_of_mem c hd) hmem

theorem dedupe_of_nodup (h : (cs.map Candidate.identity).Nodup) : dedupe cs = cs :=
  unseen_of_nodup h fun _ _ => List.not_mem_nil

/-! ## 3. What was found of sorted candidates -/

/-- A provider has found those of its candidates that match, each id of which is distinct. -/
structure Finds (matched : Candidate → Bool) (found offers : List Candidate) : Prop where
  ids : (offers.map Candidate.id).Nodup
  perm : found.Perm (offers.filter matched)

theorem length_ofId_le (h : (cs.map Candidate.id).Nodup) (id : String) :
    (ofId id cs).length ≤ 1 := by
  have hcount : (ofId id cs).length = (cs.map Candidate.id).count id := by
    rw [ofId, ← List.countP_eq_length_filter, List.count, List.countP_map]
    rfl
  rw [hcount]
  exact List.nodup_iff_count_le_one.1 h id

theorem Finds.ofId_eq {matched : Candidate → Bool} {found offers : List Candidate}
    (h : Finds matched found offers) (id : String) :
    ofId id found = ofId id (offers.filter matched) := by
  have hperm : (ofId id found).Perm (ofId id (offers.filter matched)) := h.perm.filter _
  have hids : ((offers.filter matched).map Candidate.id).Nodup :=
    h.ids.sublist (List.filter_sublist.map _)
  -- at most one candidate has the id
  have hlength := length_ofId_le hids id
  rcases hoffers : ofId id (offers.filter matched) with _ | ⟨only, _ | ⟨other, rest⟩⟩
  · rw [hoffers] at hperm
    exact hperm.eq_nil
  · rw [hoffers] at hperm
    exact List.perm_singleton.1 hperm
  · rw [hoffers, List.length_cons, List.length_cons] at hlength
    omega

variable {matched : Candidate → Bool} {found offers : List (List Candidate)}

theorem flatten_perm_of_finds (h : List.Forall₂ (Finds matched) found offers) :
    found.flatten.Perm (offers.flatten.filter matched) := by
  induction h with
  | nil => exact .refl _
  | cons hfirst _ ih =>
    rw [List.flatten_cons, List.flatten_cons, List.filter_append]
    exact hfirst.perm.append ih

theorem ofId_flatten_of_finds (h : List.Forall₂ (Finds matched) found offers) (id : String) :
    ofId id found.flatten = ofId id (offers.flatten.filter matched) := by
  induction h with
  | nil => rfl
  | cons hfirst _ ih =>
    have hsplit := hfirst.ofId_eq id
    rw [List.flatten_cons, List.flatten_cons, List.filter_append]
    unfold ofId at ih hsplit ⊢
    rw [List.filter_append, List.filter_append, hsplit, ih]

/-- What all providers find of distinct candidates, sorted, is what was found of the sorted
candidates. -/
theorem sorted_of_finds (h : List.Forall₂ (Finds matched) found offers)
    (hdistinct : (offers.flatten.map Candidate.identity).Nodup) :
    sorted found.flatten = (sorted offers.flatten).filter matched := by
  have hfound : (found.flatten.map Candidate.identity).Nodup :=
    (((flatten_perm_of_finds h).map _).nodup_iff).2
      (hdistinct.sublist (List.filter_sublist.map _))
  refine eq_of_ofId (sorted_ascending _)
    (List.Pairwise.sublist List.filter_sublist (sorted_ascending _)) fun id => ?_
  have hswap : ofId id ((sorted offers.flatten).filter matched) =
      (ofId id (sorted offers.flatten)).filter matched := List.filter_comm ..
  rw [ofId_sorted, dedupe_of_nodup hfound, hswap, ofId_sorted, dedupe_of_nodup hdistinct,
    ofId_flatten_of_finds h]
  exact List.filter_comm ..

end CiteSync.Completion
