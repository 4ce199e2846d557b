import CiteSync.Proofs.Firsts
import CiteSync.Proofs.Session.Whole

/-!
# What a session offers

The works of a session are offered once for each citation key, in the order in which the keys first
occur.  As every stored work has a key, none is left out but for a key that is there already, and
the keys that are known are the ones on offer.
-/

namespace CiteSync.Completion

open Library Session

/-! ## 1. Distinct works -/

variable {works : List Source} {seen : List String} {w : Source}

/-- The works of a list have citation keys. -/
def Keyed (works : List Source) : Prop := ∀ w ∈ works, ∃ id, w.id = some id ∧ id ≠ ""

theorem Keyed.tail {rest : List Source} (h : Keyed (w :: rest)) : Keyed rest :=
  fun v hv => h v (List.mem_cons_of_mem w hv)

theorem unseenWorks_cons {id : String} (hid : w.id = some id) (hne : id ≠ "") (rest : List Source) :
    unseenWorks seen (w :: rest) =
      if id ∈ seen then unseenWorks seen rest else w :: unseenWorks (id :: seen) rest := by
  have hfilled : filled? w.id = some id := filled?_eq_some.2 ⟨hid, hne⟩
  rw [unseenWorks, hfilled]
  simp only [List.contains_iff_mem]

/-- The keys that are kept are those that none before is, each at its first place. -/
theorem unseenWorks_ids (keyed : Keyed works) (seen : List String) :
    (unseenWorks seen works).map (·.id) =
      ((works.map (·.id)).filter fun id => !(seen.map some).contains id).eraseDups := by
  induction works generalizing seen with
  | nil => rfl
  | cons w rest ih =>
    obtain ⟨id, hid, hne⟩ := keyed w List.mem_cons_self
    rw [unseenWorks_cons hid hne, List.map_cons, hid]
    by_cases hseen : id ∈ seen
    · have hdrop : (!(seen.map some).contains (some id)) = false := by simp [hseen]
      rw [if_pos hseen, List.filter_cons_of_neg (by simp [hseen]), ih keyed.tail]
    · rw [if_neg hseen, List.filter_cons_of_pos (by simp [hseen]), List.eraseDups_cons,
        List.map_cons, hid, ih keyed.tail, List.filter_filter]
      congr 3
      funext other
      simp only [List.map_cons, List.contains_cons, Bool.not_or]

theorem distinctWorks_ids (keyed : Keyed works) :
    (distinctWorks works).map (·.id) = (works.map (·.id)).eraseDups := by
  rw [distinctWorks, unseenWorks_ids keyed]
  simp

end CiteSync.Completion

namespace CiteSync.Session

open Library Completion

/-! ## 2. Candidates -/

variable {s : Session}

theorem Store.Whole.keyed (h : s.store.Whole) : Keyed s.works :=
  fun _ hw => (h.presentable hw).id

theorem Presentable.workCandidate_id {w : Source} (h : Presentable w) :
    some (workCandidate w).id = w.id := by
  obtain ⟨id, hid, -⟩ := h.id
  show some (w.id.getD "") = w.id
  rw [hid]
  rfl

theorem mem_distinctWorks {w : Source} (h : s.store.Whole) (hw : w ∈ distinctWorks s.works) :
    s.works.find? (·.id == w.id) = some w ∧ some (workCandidate w).id = w.id := by
  obtain ⟨id, hid, -, hfind⟩ := mem_distinctWorks_iff.1 hw
  have hstored : w ∈ s.works := List.mem_of_find?_eq_some hfind
  exact ⟨hid ▸ hfind, (h.presentable hstored).workCandidate_id⟩

theorem candidates_ids (h : s.store.Whole) :
    s.candidates.map (fun c => some c.id) = (s.works.map (·.id)).eraseDups := by
  rw [← distinctWorks_ids h.keyed, candidates, List.map_map]
  exact List.map_congr_left fun w hw => (mem_distinctWorks h hw).2

theorem find?_of_mem_candidates (h : s.store.Whole) {c : Candidate} (hc : c ∈ s.candidates) :
    ∃ w, s.works.find? (·.id == some c.id) = some w ∧ c = workCandidate w := by
  obtain ⟨w, hw, rfl⟩ := List.mem_map.1 hc
  obtain ⟨hfind, hid⟩ := mem_distinctWorks h hw
  exact ⟨w, by rw [hid]; exact hfind, rfl⟩

theorem knows_iff (h : s.store.Whole) (typed : String) :
    s.knows typed = true ↔ ∃ c ∈ s.candidates, c.id = typed := by
  have hstored : s.knows typed = true ↔ some typed ∈ s.works.map (·.id) := by
    simp [knows]
  have hoffered : some typed ∈ s.candidates.map (fun c => some c.id) ↔
      ∃ c ∈ s.candidates, c.id = typed := by
    simp
  rw [hstored, ← List.mem_eraseDups, ← candidates_ids h, hoffered]

/-- Whatever happens to a document, every stored collection has its works, and each of these has a
citation key, the provider's name and a collection.  Once a cycle has ended, the works are offered
once for each key, in the order of the first works that have it, and the keys that are known are the
ones on offer. -/
theorem every_key_is_offered_once (path : Option String) (occurrences : List Occurrence) :
    (∀ c ∈ (lived path occurrences).store.collections, Complete c) ∧
    ((lived path occurrences).hasLoaded = true →
      ∃ offers, (lived path occurrences).currentCandidates = some offers ∧
        offers.map (fun c => some c.id) =
          ((lived path occurrences).works.map (·.id)).eraseDups ∧
        (∀ c ∈ offers, ∃ w,
          (lived path occurrences).works.find? (·.id == some c.id) = some w ∧
            c = workCandidate w) ∧
        ∀ typed, (lived path occurrences).knows typed = true ↔ ∃ c ∈ offers, c.id = typed) := by
  have hwhole := lived_whole path occurrences
  refine ⟨hwhole, fun hloaded => ⟨_, if_pos hloaded, candidates_ids hwhole, ?_, knows_iff hwhole⟩⟩
  exact fun c hc => find?_of_mem_candidates hwhole hc

/-- A load, and another one during which the collections are forgotten, and whose answer leaves out
a body that the first one brought. -/
def forgetting : List Occurrence :=
  [.event (.load {} (some .all)),
    .event (.tree 0 0 { result := .ok (.success [] none) }),
    .event (.collections 0 0 { result := .ok (.success
      [{ key := "A", name := "A", version := 1
         items := some [smith none (some "I1"), smith none none] }] none) }),
    .event (.load {} (some .all)), .reset,
    .event (.tree 1 0 { result := .ok (.success [] none) }),
    .event (.collections 1 0 { result := .ok (.success
      [{ key := "A", name := "A", version := 1 },
        { key := "B", name := "B", version := 2
          items := some [smith none (some "I1"), smith (some "own") none] }] none) })]

/-- The work that is in both collections is offered once. -/
theorem every_key_is_offered_once_forgetting :
    ∃ offers, (lived none forgetting).currentCandidates = some offers ∧
      offers.map (fun c => some c.id) = [some "smith2020", some "smith2020a", some "own"] := by
  obtain ⟨-, hoffers⟩ := every_key_is_offered_once none forgetting
  obtain ⟨offers, hcurrent, hids, -, -⟩ := hoffers (by decide)
  have hkeys : (lived none forgetting).works.map (·.id) =
      [some "smith2020", some "smith2020a", some "smith2020", some "own"] := by decide
  exact ⟨offers, hcurrent, by rw [hids, hkeys]; decide⟩

end CiteSync.Session
