import CiteSync.Proofs.Completion.Ranking
import CiteSync.Proofs.Text.Case

/-!
# Typing a citation key

Who types the start of a citation key finds its work, unless what was typed ends inside a word with
a capital sigma.  Then its lower case ends in another letter than that of the key has there, and the
work is found only by another place where the lower case occurs.
-/

namespace CiteSync.Completion

open Library

variable {works : List Source} {v w first : Source} {id typed : String}

/-! ## 1. Works by their keys -/

/-- There is a first work with the key of a work. -/
theorem exists_isFirst (hw : w ∈ works) (hid : w.id = some id) (hne : id ≠ "") :
    ∃ first, IsFirst works first ∧ first.id = some id := by
  have hsome : (works.find? fun v => v.id == some id).isSome := by
    rw [List.find?_isSome]
    exact ⟨w, hw, by simp [hid]⟩
  obtain ⟨first, hfirst⟩ := Option.isSome_iff_exists.1 hsome
  have hfirstId : first.id = some id := by simpa using List.find?_some hfirst
  exact ⟨first, ⟨id, hfirstId, hne, hfirst⟩, hfirstId⟩

/-! ## 2. Searches with room for all -/

theorem mem_matching {token : String} :
    w ∈ matching works token ↔
      IsFirst works w ∧ (workCandidate w).mentions (Text.lower token) = true := by
  rw [(matching_perm works token).mem_iff, List.mem_filter, mem_distinctWorks_iff]

theorem search_of_room (s : Session) (token : String) {limit : Int}
    (hroom : (s.works.length : Int) ≤ limit) :
    s.search token limit = (matching s.works token).map workCandidate := by
  have hmatching := (matching_perm s.works token).length_eq
  have hfilter := List.length_filter_le
    (fun w => (workCandidate w).mentions (Text.lower token)) (distinctWorks s.works)
  have hdistinct : (distinctWorks s.works).length ≤ s.works.length := by
    rw [distinctWorks_eq_firstsBy]
    exact firstsBy_sublist.length_le
  unfold Session.search
  rw [firstOf_of_length_le (by omega)]

/-- A search with room for all works finds a key exactly if its first work mentions what was
typed. -/
theorem found_iff (s : Session) (token : String) {limit : Int}
    (hroom : (s.works.length : Int) ≤ limit) (hfirst : IsFirst s.works first)
    (hid : first.id = some id) :
    (∃ c ∈ s.search token limit, c.id = id) ↔
      (Text.lower token).toList <:+: (Text.lower id).toList ∨
        (Text.lower token).toList <:+: (description first).toList := by
  have hmentions : (workCandidate first).mentions (Text.lower token) = true ↔
      (Text.lower token).toList <:+: (Text.lower id).toList ∨
        (Text.lower token).toList <:+: (description first).toList := by
    have hkey : (workCandidate first).id = id := by
      show first.id.getD "" = id
      rw [hid, Option.getD_some]
    unfold Candidate.mentions
    rw [Bool.or_eq_true, contains_iff, contains_iff, hkey]
    exact Iff.rfl
  rw [← hmentions, search_of_room s token hroom]
  constructor
  · -- of the works with one key only the first is offered
    rintro ⟨c, hc, hcid⟩
    obtain ⟨v, hv, rfl⟩ := List.mem_map.1 hc
    obtain ⟨hvfirst, hvmentions⟩ := mem_matching.1 hv
    have hsame : v.id.getD "" = first.id.getD "" := by
      rw [hid, Option.getD_some]
      exact hcid
    rwa [hvfirst.eq_of_id_getD hfirst hsame] at hvmentions
  · intro hfound
    refine ⟨workCandidate first, List.mem_map_of_mem (mem_matching.2 ⟨hfirst, hfound⟩), ?_⟩
    show first.id.getD "" = id
    rw [hid, Option.getD_some]

/-! ## 3. Starts of keys -/

/-- Where the start of a citation key was typed, a search with room for all works finds the key
unless the start is cut off at a capital sigma.  If it is, the key is found only where the lower
case of what was typed occurs elsewhere in that of the key, or in what is written about its first
work. -/
theorem typed_start_is_found_iff (s : Session) (hw : w ∈ s.works) (hid : w.id = some id)
    (hstart : typed.toList <+: id.toList) (htyped : typed ≠ "") {limit : Int}
    (hroom : (s.works.length : Int) ≤ limit) :
    ∃ first, IsFirst s.works first ∧ first.id = some id ∧
      ((∃ c ∈ s.search typed limit, c.id = id) ↔
        ¬Text.CutAtSigma [] typed.toList (id.toList.drop typed.length) ∨
          (Text.lower typed).toList <:+: (Text.lower id).toList ∨
          (Text.lower typed).toList <:+: (description first).toList) := by
  have hne : id ≠ "" := by
    rintro rfl
    exact htyped (String.toList_eq_nil_iff.1 (List.prefix_nil.1 hstart))
  obtain ⟨first, hfirst, hfirstId⟩ := exists_isFirst hw hid hne
  refine ⟨first, hfirst, hfirstId, ?_⟩
  rw [found_iff s typed hroom hfirst hfirstId]
  constructor
  · exact .inr
  · rintro (hwhole | hfound)
    · exact .inl ((Text.lower_prefix_iff hstart).2 hwhole).isInfix
    · exact hfound

/-- A session with a work that has this key. -/
def oneWork (id : String) : Session where
  store := ⟨[{ key := "A", name := "Epics", items := some [{ id := some id }] }]⟩

/-- Two letters more, and what was typed does not end in a sigma. -/
theorem typed_start_is_found_iff_odyssey :
    ∃ c ∈ (oneWork "ΟΔΥΣΣΕΙΑ2020").search "ΟΔΥΣΣΕ" 1, c.id = "ΟΔΥΣΣΕΙΑ2020" := by
  have hstart : "ΟΔΥΣΣΕ".toList <+: "ΟΔΥΣΣΕΙΑ2020".toList := ⟨"ΙΑ2020".toList, by decide⟩
  obtain ⟨first, -, -, hfound⟩ := typed_start_is_found_iff (oneWork "ΟΔΥΣΣΕΙΑ2020") (.head _) rfl
    hstart (by decide) (Int.le_refl 1)
  apply hfound.2
  left
  rw [← Text.lower_prefix_iff hstart]
  decide +kernel

/-- With a sigma at its end the start of a key is not found. -/
theorem sigma_loses_key :
    (∃ w ∈ (oneWork "ΟΔΥΣΣΕΙΑ2020").works, w.id = some "ΟΔΥΣΣΕΙΑ2020") ∧
      "ΟΔΥΣ".toList <+: "ΟΔΥΣΣΕΙΑ2020".toList ∧
      ((oneWork "ΟΔΥΣΣΕΙΑ2020").search "ΟΔΥΣ" 1).map (·.id) = [] :=
  ⟨⟨_, .head _, rfl⟩, ⟨"ΣΕΙΑ2020".toList, by decide⟩, by decide +kernel⟩

end CiteSync.Completion
