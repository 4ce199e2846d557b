import CiteSync.Proofs.Completion.Merging
import CiteSync.Proofs.Completion.Sorting
import CiteSync.Proofs.Firsts

/-!
# Merging in any groups

A merged list has the first candidate of each identity, in the order of the ids, and where ids are
the same in the order of the first places.  So it does not matter whether candidates that are next
to each other were merged before: merging reorders candidates, but never those of one id.
-/

namespace CiteSync.Completion

variable {cs : List Candidate} {groups : List (Option (List Candidate))}

/-! ## 1. One id -/

theorem ofId_append (id : String) (cs ds : List Candidate) :
    ofId id (cs ++ ds) = ofId id cs ++ ofId id ds := List.filter_append ..

/-- The candidates of an id are made distinct apart from the others. -/
theorem ofId_dedupe (id : String) (cs : List Candidate) :
    ofId id (dedupe cs) = dedupe (ofId id cs) := by
  rw [dedupe_eq_firstsBy, dedupe_eq_firstsBy]
  refine filter_firstsBy fun c d hsame => ?_
  have hid : c.id = d.id := congrArg Prod.fst (Option.some.inj hsame)
  rw [hid]

theorem filter_identity_ofId (id kind : String) (cs : List Candidate) :
    (ofId id cs).filter (·.identity == (id, kind)) = cs.filter (·.identity == (id, kind)) := by
  rw [ofId, List.filter_filter]
  refine List.filter_congr fun c _ => ?_
  rw [Bool.and_eq_left_iff_imp]
  intro h
  exact beq_iff_eq.2 (congrArg Prod.fst (beq_iff_eq.1 h))

/-- Of the candidates of an identity the first one is kept. -/
theorem filter_identity_sorted (identity : String × String) (cs : List Candidate) :
    (sorted cs).filter (·.identity == identity) =
      (cs.find? (·.identity == identity)).toList := by
  obtain ⟨id, kind⟩ := identity
  rw [← filter_identity_ofId, ofId_sorted, filter_identity_ofId, filter_identity_dedupe]

/-! ## 2. The order of ties -/

/-- A list in the order of the ids is also in another order where ids are the same, if the
candidates of each id are. -/
theorem Ascending.pairwise {R : Candidate → Candidate → Prop} (h : Ascending cs)
    (hties : ∀ id, (ofId id cs).Pairwise R) :
    cs.Pairwise fun c d => c.id < d.id ∨ c.id = d.id ∧ R c d := by
  induction cs with
  | nil => exact .nil
  | cons c cs ih =>
    obtain ⟨hfirst, hrest⟩ := List.pairwise_cons.1 h
    refine List.pairwise_cons.2 ⟨fun d hd => ?_, ih hrest fun id => ?_⟩
    · by_cases heq : c.id = d.id
      · have hboth := hties c.id
        rw [ofId_cons_self] at hboth
        have hmem : d ∈ ofId c.id cs := List.mem_filter.2 ⟨hd, by simp [heq]⟩
        exact .inr ⟨heq, (List.pairwise_cons.1 hboth).1 d hmem⟩
      · exact .inl (String.not_le.1 fun hge => heq (String.le_antisymm (hfirst d hd) hge))
    · exact (hties id).sublist ((List.sublist_cons_self c cs).filter _)

theorem sorted_pairwise (cs : List Candidate) :
    (sorted cs).Pairwise fun c d => c.id < d.id ∨
      c.id = d.id ∧ firstPlace Candidate.identity cs c < firstPlace Candidate.identity cs d := by
  refine (sorted_ascending cs).pairwise fun id => ?_
  rw [ofId_sorted]
  exact (dedupe_pairwise cs).sublist List.filter_sublist

/-! ## 3. Groups -/

/-- What was made distinct before is made distinct among the others as it was. -/
theorem dedupe_append_dedupe (before cs behind : List Candidate) :
    dedupe (before ++ (dedupe cs ++ behind)) = dedupe (before ++ (cs ++ behind)) :=
  unseen_append_congr (fun seen => unseen_unseen_append (List.nil_subset seen) cs behind) []

theorem sorted_append_dedupe (before cs behind : List Candidate) :
    sorted (before ++ (dedupe cs ++ behind)) = sorted (before ++ (cs ++ behind)) := by
  rw [sorted, sorted, dedupe_append_dedupe]

/-- Sorting what is next to each other beforehand makes no difference. -/
theorem sorted_append_sorted (before cs behind : List Candidate) :
    sorted (before ++ (sorted cs ++ behind)) = sorted (before ++ (cs ++ behind)) := by
  refine eq_of_ofId (sorted_ascending _) (sorted_ascending _) fun id => ?_
  rw [ofId_sorted, ofId_sorted, ofId_dedupe, ofId_dedupe]
  simp only [ofId_append, ofId_sorted, ofId_dedupe]
  exact dedupe_append_dedupe ..

/-- A merged list has of each identity the first candidate and no other, in the order of the ids,
and of those with one id in the order of their first places.  Groups that follow each other may be
merged beforehand, and any group may be made distinct beforehand. -/
theorem merging_keeps_first_of_each (groups : List (Option (List Candidate))) :
    (∀ identity, (merge groups).filter (·.identity == identity) =
      ((groups.flatMap (·.getD [])).find? (·.identity == identity)).toList) ∧
    ((merge groups).Pairwise fun c d => c.id < d.id ∨ c.id = d.id ∧
      firstPlace Candidate.identity (groups.flatMap (·.getD [])) c <
        firstPlace Candidate.identity (groups.flatMap (·.getD [])) d) ∧
    (∀ before behind, merge (before ++ some (merge groups) :: behind) =
      merge (before ++ (groups ++ behind))) ∧
    ∀ before group behind, merge (before ++ some (dedupe group) :: behind) =
      merge (before ++ some group :: behind) := by
  refine ⟨fun identity => filter_identity_sorted identity _, sorted_pairwise _, ?_, ?_⟩
  · intro before behind
    unfold merge
    simp only [List.flatMap_append, List.flatMap_cons, Option.getD_some]
    exact sorted_append_sorted ..
  · intro before group behind
    unfold merge
    simp only [List.flatMap_append, List.flatMap_cons, Option.getD_some]
    exact sorted_append_dedupe ..

end CiteSync.Completion
