import CiteSync.Proofs.Session.Belonging
import Mathlib.Data.List.Perm.Subperm

/-!
# Loads that report no change

A load that says that nothing has changed leaves the works as they were, whatever it heard.  Where
it committed an answer, each collection of the answer was found in the store by its name; names that
differ find different collections, and as many were stored as were sent, so that none was dropped
and none was taken twice.
-/

namespace CiteSync.Session

open Library Remote FrontMatter

/-! ## 1. Answers that tell of no change -/

/-- Two collections of one name at one version with the same works. -/
structure SameContents (a b : Collection) : Prop where
  name : a.name = b.name
  version : a.version = b.version
  items : a.items = b.items

variable {useCache : Bool} {store previous : Store} {sent : List Collection} {c : Collection}

theorem mergeOne_of_not_changed (h : (mergeOne useCache store previous c).changed = false) :
    ∃ known, unchanged? useCache store c = some known ∧
      mergeOne useCache store previous c = ⟨{ c with items := known.items }, false, false⟩ := by
  unfold mergeOne at h ⊢
  cases hknown : unchanged? useCache store c with
  | some known => exact ⟨known, rfl, rfl⟩
  | none =>
    simp only [hknown] at h
    split at h <;> cases h

/-- The stored collection that a sent one is unchanged from, if there is any. -/
def matched (useCache : Bool) (store : Store) (c : Collection) : Collection :=
  (unchanged? useCache store c).getD c

/-- Without a change every collection that is kept is a stored one but for its key, its parent and
its count. -/
theorem settle_of_not_changed
    (h : (mergeAll useCache store previous sent).any (·.changed) = false) :
    List.Forall₂ SameContents (settle (mergeAll useCache store previous sent))
        (sent.map (matched useCache store)) ∧
      ∀ c ∈ sent, matched useCache store c ∈ store.collections ∧
        (matched useCache store c).name = c.name := by
  have hall : ∀ c ∈ sent, (mergeOne useCache store previous c).changed = false := by
    intro c hc
    have hnot := List.any_eq_false.1 h _ (List.mem_map.2 ⟨c, hc, rfl⟩)
    simpa using hnot
  have hfresh : ∀ m ∈ mergeAll useCache store previous sent, m.fresh = false := by
    intro m hm
    obtain ⟨c, hc, rfl⟩ := List.mem_map.1 hm
    obtain ⟨known, -, hmerged⟩ := mergeOne_of_not_changed (hall c hc)
    rw [hmerged]
  constructor
  · -- nothing is fresh, so the merged collections are kept as they are
    rw [settle_of_not_fresh hfresh, mergeAll, List.map_map, List.forall₂_map_left_iff,
      List.forall₂_map_right_iff, List.forall₂_same]
    intro c hc
    obtain ⟨known, hknown, hmerged⟩ := mergeOne_of_not_changed (hall c hc)
    obtain ⟨-, -, hname, hversion⟩ := unchanged?_some hknown
    rw [Function.comp, hmerged, matched, hknown]
    exact ⟨hname.symm, hversion.symm, rfl⟩
  · intro c hc
    obtain ⟨known, hknown, -⟩ := mergeOne_of_not_changed (hall c hc)
    obtain ⟨-, hmem, hname, -⟩ := unchanged?_some hknown
    rw [matched, hknown]
    exact ⟨hmem, hname⟩

/-- As many stored collections as are found by distinct names are all that are stored. -/
theorem matched_perm (hnames : (sent.map (·.name)).Nodup) (hlength : sent.length = store.size)
    (hmatched : ∀ c ∈ sent, matched useCache store c ∈ store.collections ∧
      (matched useCache store c).name = c.name) :
    (sent.map (matched useCache store)).Perm store.collections := by
  have hsame : (sent.map (matched useCache store)).map (·.name) = sent.map (·.name) := by
    rw [List.map_map]
    exact List.map_congr_left fun c hc => (hmatched c hc).2
  have hdistinct : (sent.map (matched useCache store)).Nodup := by
    apply List.Nodup.of_map (·.name)
    rw [hsame]
    exact hnames
  have hsub : sent.map (matched useCache store) ⊆ store.collections := by
    intro known hknown
    obtain ⟨c, hc, rfl⟩ := List.mem_map.1 hknown
    exact (hmatched c hc).1
  refine (List.subperm_of_subset hdistinct hsub).perm_of_length_le ?_
  rw [List.length_map, hlength]
  exact Nat.le_refl _

/-! ## 2. Loads that tell of no change -/

theorem conclude_of_false (s : Session) (document : Document) (elapsed : Float) (r : Request)
    (arrival : Arrival (Reply (List Collection)))
    (hresult : (s.conclude document elapsed r arrival).result = .ok false)
    (hopen : (s.atArrival arrival).closed = false) {sent : List Collection}
    (hsent : arrival.sent? = some sent) :
    (mergeAll r.useCache (s.atArrival arrival).store r.previous sent).any (·.changed) = false ∧
      sent.length = r.previous.size := by
  unfold Arrival.sent? at hsent
  unfold conclude at hresult
  cases harrival : arrival.result with
  | error cause =>
    rw [harrival] at hsent
    cases hsent
  | ok answer =>
    simp only [harrival] at hresult hsent
    unfold Reply.sent? at hsent
    cases hok : answer.ok with
    | false =>
      rw [hok] at hsent
      cases hsent
    | true =>
      rw [hok, if_pos rfl] at hsent
      unfold takeCollections at hresult
      simp only [hok, hsent, hopen, Bool.false_eq_true, if_false] at hresult
      have hchanged := Except.ok.inj hresult
      simpa [commit, mergeAll] using hchanged

namespace Visit

variable {σ : Type} (library : RemoteLibrary σ) (s : Session) (v : Visit σ)

/-- A load that reports no change, and during which the document was not closed, leaves the store as
it was or commits an answer that tells of no change. -/
theorem run_of_false (hresult : (v.run library s).1.result = .ok false)
    (hopen : (v.run library s).1.session.closed = false) :
    (v.run library s).1.session.store = s.store ∨
      ∃ sent, v.sent? library s = some sent ∧
        (v.run library s).1.session.store =
          ⟨settle (mergeAll s.trustsCache s.store s.store sent)⟩ ∧
        (mergeAll s.trustsCache s.store s.store sent).any (·.changed) = false ∧
        sent.length = s.store.size := by
  unfold sent?
  cases v.course library s with
  | refused hwanted hrun hhears =>
    rw [hrun] at hresult
    cases hresult
  | disabled hwanted hrun hhears =>
    rw [hrun] at hresult ⊢
    -- there was nothing to forget
    have hnothing : s.holdsAnything = false := Except.ok.inj hresult
    unfold holdsAnything Store.isEmpty at hnothing
    have hnone : s.store.collections = [] := by simp at hnothing; exact hnothing.1
    refine .inl ?_
    show Store.empty = s.store
    rw [show s.store = ⟨s.store.collections⟩ from rfl, hnone]
    rfl
  | @gaveUp scope result hwanted hscope hheard hrun hhears =>
    rw [hrun] at hopen ⊢
    rcases v.heardTree_cases library s scope (s.wanted_open hwanted).1 with ⟨-, hs⟩ | ⟨hc, -⟩
    · exact .inl hs
    · rw [hc] at hopen
      cases hopen
  | @concluded scope last hwanted hscope hheard hlast hrun hhears =>
    have hend : (v.run library s).1.session = last.session ∧
        (v.run library s).1.result = last.result := by rw [hrun]; exact ⟨rfl, rfl⟩
    rw [hend.1, hlast] at hopen ⊢
    rw [hend.2, hlast] at hresult
    obtain ⟨hclosed, hstore⟩ := (v.heardTree library s scope).session.conclude_store v.document
      v.elapsed (request s scope) (v.answer library s scope).1
    rw [hclosed] at hopen
    rw [hstore, hopen, hhears]
    -- while the document stays open the store is the one that the load began with
    have hsame : ((v.heardTree library s scope).session.atArrival
        (v.answer library s scope).1).store = s.store := by
      rcases v.heardTree_cases library s scope (s.wanted_open hwanted).1 with ⟨-, hs⟩ | ⟨hc, -⟩
      · rcases atArrival_cases (v.heardTree library s scope).session (v.answer library s scope).1
          with ha | ha
        · rw [ha, hs]
        · rw [ha, close_closed] at hopen
          cases hopen
      · rw [atArrival_of_closed hc, hc] at hopen
        cases hopen
    cases hsent : (v.answer library s scope).1.sent? with
    | none => exact .inl hsame
    | some sent =>
      have hnone := conclude_of_false _ _ _ _ _ hresult hopen hsent
      rw [hsame] at hnone ⊢
      exact .inr ⟨sent, hsent, rfl, hnone⟩

end Visit

/-- A load that reports no change leaves all works as they were, up to the order of the collections,
and every stored collection has the name, version and works of one that was stored before. -/
theorem unchanged_load_keeps_works {σ : Type} (library : RemoteLibrary σ) (s : Session)
    (v : Visit σ) (hresult : (v.run library s).1.result = .ok false)
    (hopen : (v.run library s).1.session.closed = false)
    (hnames : ∀ sent, v.sent? library s = some sent → (sent.map (·.name)).Nodup) :
    ∃ before : List Collection, before.Perm s.store.collections ∧
      List.Forall₂ SameContents (v.run library s).1.session.store.collections before ∧
      (v.run library s).1.session.works = before.flatMap Collection.works := by
  have hworks : ∀ {as bs : List Collection}, List.Forall₂ SameContents as bs →
      as.flatMap Collection.works = bs.flatMap Collection.works := by
    intro as bs h
    rw [List.flatMap_def, List.flatMap_def, forall₂_map_eq h fun a b hab => ?_]
    rw [Collection.works, Collection.works, hab.items]
  rcases v.run_of_false library s hresult hopen with hsame | ⟨sent, hsent, hstore, hnone, hlength⟩
  · refine ⟨s.store.collections, .refl _, ?_, ?_⟩
    · rw [hsame, List.forall₂_same]
      exact fun _ _ => ⟨rfl, rfl, rfl⟩
    · rw [works, hsame]
      rfl
  · obtain ⟨hkept, hmatched⟩ := settle_of_not_changed hnone
    refine ⟨sent.map (matched s.trustsCache s.store), ?_, ?_, ?_⟩
    · exact matched_perm (hnames sent hsent) hlength hmatched
    · rw [hstore]
      exact hkept
    · rw [works, hstore]
      exact hworks hkept

/-! ## 3. Collections the other way round -/

/-- A collection of that name at its first version. -/
def volume (name : String) (items : Option (List Source)) : Collection :=
  { key := name, name, version := 1, items }

/-- The session after two collections were sent, one with a work that has a citation key and one
with a work that has none. -/
def volumesStored : Session :=
  ((sending [volume "Letters" (some [{ id := some "mann1924" }]),
    volume "Diaries" (some [{ title := some "Diary" }])]).run Script.library
      (.opened none)).1.session

def volumesTurned : Visit Script := sending [volume "Diaries" none, volume "Letters" none]

/-- The works are turned round with their collections; each keeps its key. -/
theorem unchanged_load_keeps_works_turned :
    (volumesTurned.run Script.library volumesStored).1.session.works.map (·.id) =
        [some "diary", some "mann1924"] ∧
      ∃ before : List Collection, before.Perm volumesStored.store.collections ∧
        List.Forall₂ SameContents
          (volumesTurned.run Script.library volumesStored).1.session.store.collections before ∧
        (volumesTurned.run Script.library volumesStored).1.session.works =
          before.flatMap Collection.works := by
  have hnames : ∀ sent, volumesTurned.sent? Script.library volumesStored = some sent →
      (sent.map (·.name)).Nodup := by
    intro sent hsent
    cases hsent
    decide
  exact ⟨by decide, unchanged_load_keeps_works Script.library volumesStored volumesTurned
    (by decide) rfl hnames⟩

end CiteSync.Session
