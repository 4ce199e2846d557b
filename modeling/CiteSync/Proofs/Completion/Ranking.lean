import CiteSync.Proofs.Completion.Narrowing
import CiteSync.Proofs.Firsts
import Mathlib.Data.List.Infix
import Mathlib.Data.List.Sort

/-!
# The best matches

The works that match what was typed are in one order, by their ranks and within a rank by their
first places in the library, and a search takes as many of them as there is room for.  So what is
left out is never better than what is found, and more room only adds works behind those that were
found.
-/

namespace CiteSync.Completion

open Library

variable {typed token : String} {works found : List Source} {v w : Source} {rank : Nat}

/-! ## 1. Ranks -/

/-- How well a work matches what was typed, in lower case. -/
inductive Ranked (typed : String) (w : Source) : Nat → Prop
  | start : typed.toList <+: (Text.lower (w.id.getD "")).toList → Ranked typed w 0
  | part : ¬typed.toList <+: (Text.lower (w.id.getD "")).toList →
      typed.toList <:+: (Text.lower (w.id.getD "")).toList → Ranked typed w 1
  | written : ¬typed.toList <:+: (Text.lower (w.id.getD "")).toList →
      typed.toList <:+: (Text.lower (spaced [w.title.getD "", creatorLine w.creators,
        w.year.getD "", w.container.getD ""])).toList → Ranked typed w 2

theorem rank?_eq_some : rank? typed w = some rank ↔ Ranked typed w rank := by
  unfold rank?
  simp only [startsWith_iff, contains_iff]
  constructor
  · intro h
    split at h
    next hstart => exact Option.some.inj h ▸ .start hstart
    next hstart =>
      split at h
      next hpart => exact Option.some.inj h ▸ .part hstart hpart
      next hpart =>
        split at h
        next hwritten => exact Option.some.inj h ▸ .written hpart hwritten
        next => cases h
  · intro h
    cases h with
    | start hstart => rw [if_pos hstart]
    | part hstart hpart => rw [if_neg hstart, if_pos hpart]
    | written hpart hwritten =>
      have hstart : ¬typed.toList <+: (Text.lower (w.id.getD "")).toList :=
        fun h => hpart h.isInfix
      rw [if_neg hstart, if_neg hpart]
      exact if_pos hwritten

theorem Ranked.unique {rank' : Nat} (h : Ranked typed w rank) (h' : Ranked typed w rank') :
    rank = rank' :=
  Option.some.inj ((rank?_eq_some.2 h).symm.trans (rank?_eq_some.2 h'))

theorem mem_ofRank : w ∈ ofRank typed rank works ↔ w ∈ works ∧ Ranked typed w rank := by
  rw [ofRank, List.mem_filter, beq_iff_eq, rank?_eq_some]

/-! ## 2. The order of the matches -/

/-- A work comes before another: it has a better rank, or the same and an earlier first place. -/
def Precedes (works : List Source) (typed : String) (v w : Source) : Prop :=
  ∃ rank rank', Ranked typed v rank ∧ Ranked typed w rank' ∧
    (rank < rank' ∨
      rank = rank' ∧ firstPlace Source.id works v < firstPlace Source.id works w)

theorem Precedes.asymm (h : Precedes works typed v w) : ¬Precedes works typed w v := by
  rintro ⟨rankW, rankV, hw, hv, hback⟩
  obtain ⟨rank, rank', hv', hw', hforth⟩ := h
  obtain rfl := hv.unique hv'
  obtain rfl := hw.unique hw'
  omega

instance : Std.Irrefl (Precedes works typed) := ⟨fun _ h => h.asymm h⟩

instance : Std.Antisymm (Precedes works typed) := ⟨fun _ _ h h' => absurd h' h.asymm⟩

/-- The works that match what was typed, in lower case, each citation key once and best first. -/
structure Matches (works : List Source) (typed : String) (found : List Source) : Prop where
  mem : ∀ w, w ∈ found ↔ IsFirst works w ∧ ∃ rank, Ranked typed w rank
  order : found.Pairwise (Precedes works typed)

/-- The order leaves no choice. -/
theorem Matches.unique {found' : List Source} (h : Matches works typed found)
    (h' : Matches works typed found') : found' = found :=
  h'.order.eq_of_mem_iff h.order fun w => (h'.mem w).trans (h.mem w).symm

theorem Matches.ids (h : Matches works typed found) : found.Pairwise fun v w => v.id ≠ w.id := by
  refine h.order.imp_of_mem fun hv hw hbefore hid => ?_
  obtain rfl := ((h.mem _).1 hv).1.eq_of_id ((h.mem _).1 hw).1 hid
  exact hbefore.asymm hbefore

theorem ofRank_pairwise (rank : Nat) (works : List Source) :
    (ofRank typed rank (distinctWorks works)).Pairwise (Precedes works typed) := by
  refine ((distinctWorks_pairwise works).filter _).imp_of_mem fun hv hw hlt => ?_
  exact ⟨rank, rank, (mem_ofRank.1 hv).2, (mem_ofRank.1 hw).2, .inr ⟨rfl, hlt⟩⟩

theorem matching_matches (works : List Source) (token : String) :
    Matches works (Text.lower token) (matching works token) := by
  unfold matching
  refine ⟨fun w => ?_, ?_⟩
  · simp only [List.mem_append, mem_ofRank, mem_distinctWorks_iff, ← and_or_left]
    refine and_congr_right fun _ => ⟨?_, ?_⟩
    · rintro ((h | h) | h)
      · exact ⟨0, h⟩
      · exact ⟨1, h⟩
      · exact ⟨2, h⟩
    · rintro ⟨rank, h⟩
      cases h with
      | start hstart => exact .inl (.inl (.start hstart))
      | part hstart hpart => exact .inl (.inr (.part hstart hpart))
      | written hpart hwritten => exact .inr (.written hpart hwritten)
  · -- a work of an earlier part has a better rank than one of a later part
    have hacross : ∀ {rank rank' : Nat}, rank < rank' →
        ∀ v ∈ ofRank (Text.lower token) rank (distinctWorks works),
        ∀ w ∈ ofRank (Text.lower token) rank' (distinctWorks works),
          Precedes works (Text.lower token) v w :=
      fun hlt v hv w hw => ⟨_, _, (mem_ofRank.1 hv).2, (mem_ofRank.1 hw).2, .inl hlt⟩
    refine List.pairwise_append.2 ⟨List.pairwise_append.2 ⟨ofRank_pairwise 0 works,
      ofRank_pairwise 1 works, hacross (by omega)⟩, ofRank_pairwise 2 works, ?_⟩
    intro v hv
    rcases List.mem_append.1 hv with hv | hv
    · exact hacross (by omega) v hv
    · exact hacross (by omega) v hv

/-! ## 3. As many as there is room for -/

theorem firstOf_natCast {α : Type} (n : Nat) (xs : List α) : firstOf n xs = xs.take n :=
  if_pos (Int.natCast_nonneg n)

theorem search_eq_take (s : Session) (token : String) (n : Nat) :
    s.search token n = ((matching s.works token).take n).map workCandidate := by
  rw [Session.search, firstOf_natCast]

/-- What is behind has no better rank. -/
theorem Matches.le_of_left_out (h : Matches works typed found) {n : Nat} (hv : v ∈ found.take n)
    (hw : w ∈ found) (hout : w ∉ found.take n) {rank' : Nat} (hvrank : Ranked typed v rank)
    (hwrank : Ranked typed w rank') : rank ≤ rank' := by
  -- what is left out is behind the cut, where everything comes after what is found
  have hparts : w ∈ found.take n ++ found.drop n := by rwa [List.take_append_drop]
  have hbehind : w ∈ found.drop n := (List.mem_append.1 hparts).resolve_left hout
  have hsplit : (found.take n ++ found.drop n).Pairwise (Precedes works typed) := by
    rw [List.take_append_drop]
    exact h.order
  obtain ⟨rankV, rankW, hv', hw', hbefore⟩ := (List.pairwise_append.1 hsplit).2.2 v hv w hbehind
  obtain rfl := hvrank.unique hv'
  obtain rfl := hwrank.unique hw'
  omega

theorem Matches.candidate_ids (h : Matches works typed found) :
    (found.map fun w => (workCandidate w).id).Nodup := by
  refine List.pairwise_map.2 (h.ids.imp_of_mem fun hv hw hids hsame => hids ?_)
  rw [((h.mem _).1 hv).1.eq_of_id_getD ((h.mem _).1 hw).1 hsame]

/-- There is one list of the works that match, and a search gives its first works: as many as there
is room for, each id once, none with a worse rank than one that is left out, and more room only adds
works at the end. -/
theorem search_offers_best_matches (s : Session) (token : String) :
    ∃ found, Matches s.works (Text.lower token) found ∧
      (∀ other, Matches s.works (Text.lower token) other → other = found) ∧
      ∀ n : Nat,
        s.search token n = (found.take n).map workCandidate ∧
        (s.search token n).length = min n found.length ∧
        ((s.search token n).map Candidate.id).Nodup ∧
        (∀ v ∈ found.take n, ∀ w ∈ found, w ∉ found.take n → ∀ rank rank',
          Ranked (Text.lower token) v rank → Ranked (Text.lower token) w rank' → rank ≤ rank') ∧
        s.search token n <+: s.search token ↑(n + 1) := by
  have hfound := matching_matches s.works token
  refine ⟨_, hfound, fun _ => hfound.unique, fun n => ?_⟩
  rw [search_eq_take, search_eq_take]
  refine ⟨rfl, ?_, ?_, ?_, ?_⟩
  · rw [List.length_map, List.length_take]
  · rw [List.map_map]
    exact hfound.candidate_ids.sublist ((List.take_sublist _ _).map _)
  · intro v hv w hw hout rank rank' hvrank hwrank
    exact hfound.le_of_left_out hv hw hout hvrank hwrank
  · exact (List.take_isPrefix_take.2 (.inl (by omega))).map workCandidate

end CiteSync.Completion
