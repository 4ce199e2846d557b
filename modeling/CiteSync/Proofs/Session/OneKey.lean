import CiteSync.Proofs.Session.Remembrance
import CiteSync.Proofs.Session.Whole

/-!
# One item, one citation key

An item may be in several collections, of which some are fetched again in a load and some carried
over.  Its copies keep one citation key as long as no fetched copy brings a key of its own while
another one is carried over with a different key: a copy that brings none takes over the key of a
carried one, but a carried copy never takes over the key of a fetched one.
-/

namespace CiteSync.Session

open Library Remote FrontMatter Citation

/-! ## 1. Items in a merge -/

/-- All works of an item have one citation key. -/
def OneKey (item : String) (works : List Source) : Prop :=
  ∀ w ∈ works, ∀ w' ∈ works, filled? w.key = some item → filled? w'.key = some item → w.id = w'.id

/-- All works that are sent of an item come with one citation key, or all of them without. -/
def Agree (item : String) (sent : List Collection) : Prop :=
  ∀ c ∈ sent, ∀ w ∈ c.works, ∀ c' ∈ sent, ∀ w' ∈ c'.works, filled? w.key = some item →
    filled? w'.key = some item → filled? w.id = filled? w'.id

/-- All works that are sent of an item come with that citation key, or without if there is none. -/
def Brings (item : String) (key : Option String) (sent : List Collection) : Prop :=
  ∀ c ∈ sent, ∀ w ∈ c.works, filled? w.key = some item → filled? w.id = key

/-- A fetched work of an item has a citation key of its own, and a work of the item that is carried
over has another one. -/
def Overruled (item : String) (ms : List Merged) : Prop :=
  ∃ e ∈ entries ms, ∃ b ∈ entries ms, e.item? = some item ∧ b.item? = some item ∧
    e.merged.fresh = true ∧ b.merged.fresh = false ∧ ∃ id, e.own? = some id ∧ b.own? ≠ some id

variable {item : String} {useCache : Bool} {store : Store} {sent : List Collection}

theorem OneKey.id_eq {works : List Source} (h : OneKey item works) (hitem : item ≠ "")
    (id id' : Option String) (hid : (some item, id) ∈ works.map fun w => (w.key, w.id))
    (hid' : (some item, id') ∈ works.map fun w => (w.key, w.id)) : id = id' := by
  obtain ⟨w, hw, hpair⟩ := List.mem_map.1 hid
  obtain ⟨w', hw', hpair'⟩ := List.mem_map.1 hid'
  obtain ⟨hkey, rfl⟩ := Prod.mk.inj hpair
  obtain ⟨hkey', rfl⟩ := Prod.mk.inj hpair'
  exact h w hw w' hw' (filled?_eq_some.2 ⟨hkey, hitem⟩) (filled?_eq_some.2 ⟨hkey', hitem⟩)

theorem OneKey.not_overruled {ms : List Merged}
    (h : OneKey item (Store.works ⟨settle ms⟩)) : ¬ Overruled item ms := by
  rintro ⟨e, he, b, hb, hitem, hitem', -, hcarried, id, hown, hother⟩
  obtain ⟨p, hp, rfl⟩ := Ledger.exists_of_mem (.ofMerged ms) he
  obtain ⟨q, hq, rfl⟩ := Ledger.exists_of_mem (.ofMerged ms) hb
  have hmem : ∀ r ∈ (Ledger.ofMerged ms).resolve (entries ms),
      r.2 ∈ Store.works ⟨settle ms⟩ := fun r hr => by
    rw [works_settle]
    exact List.mem_map.2 ⟨r, hr, rfl⟩
  have hsame := h p.2 (hmem p hp) q.2 (hmem q hq) ((Ledger.item?_of_resolve hp).trans hitem)
    ((Ledger.item?_of_resolve hq).trans hitem')
  -- the fetched work keeps its key, and the carried one is as it was
  have hkey := Ledger.id_of_own hp hown
  rw [hsame, Ledger.work_of_carried hq hcarried] at hkey
  exact hother hkey

theorem stored_of_sent {e : Entry} (he : e ∈ entries (mergeAll useCache store store sent))
    (hfresh : e.merged.fresh = true) : ∃ c ∈ sent, e.work ∈ c.works := by
  have horigin := entry_origin he
  rwa [if_pos hfresh] at horigin

/-- The copies of an item that are carried over have one key between them, which the others look
up. -/
theorem carriedKey?_of_oneKey (whole : store.Whole) (oneKey : OneKey item store.works) {b : Entry}
    (hb : b ∈ entries (mergeAll useCache store store sent)) (hcarried : b.merged.fresh = false)
    (hitem : b.item? = some item) :
    carriedKey? (mergeAll useCache store store sent) item = b.work.id := by
  obtain ⟨id, hid, hne⟩ := (whole.presentable (stored_of_carried hb hcarried)).id
  have bears : Bears item id store.works := fun w hw hkey =>
    (oneKey w hw b.work (stored_of_carried hb hcarried) hkey hitem).trans hid
  rw [bears.carriedKey? hne hb hcarried hitem, hid]

theorem id_of_fetched (whole : store.Whole) (oneKey : OneKey item store.works)
    (calm : ¬ Overruled item (mergeAll useCache store store sent)) {p : Entry × Source} {b : Entry}
    (hp : p ∈ (Ledger.ofMerged (mergeAll useCache store store sent)).resolve
      (entries (mergeAll useCache store store sent)))
    (hfresh : p.1.merged.fresh = true) (hitem : p.1.item? = some item)
    (hb : b ∈ entries (mergeAll useCache store store sent)) (hcarried : b.merged.fresh = false)
    (hitem' : b.item? = some item) : p.2.id = b.work.id := by
  -- with a key of its own it is one that is not overruled, else it looks up that of the carried one
  cases hown : p.1.own? with
  | some id =>
    have hsame : b.own? = some id := by
      by_contra hother
      exact calm ⟨p.1, Ledger.fst_mem_of_resolve hp, b, hb, hitem, hitem', hfresh, hcarried, id,
        hown, hother⟩
    exact (filled?_eq_some.1 (Ledger.id_of_own hp hown)).1.trans (filled?_eq_some.1 hsame).1.symm
  | none =>
    obtain ⟨id, hid, -⟩ := (whole.presentable (stored_of_carried hb hcarried)).id
    have hknown := carriedKey?_of_oneKey whole oneKey hb hcarried hitem'
    rw [hid] at hknown ⊢
    exact Ledger.id_of_found hp ⟨hfresh, hown⟩ hitem (by rw [ofMerged_find?, hknown])

theorem id_of_agree (agree : Agree item sent) {p q : Entry × Source}
    (hp : p ∈ (Ledger.ofMerged (mergeAll useCache store store sent)).resolve
      (entries (mergeAll useCache store store sent)))
    (hq : q ∈ (Ledger.ofMerged (mergeAll useCache store store sent)).resolve
      (entries (mergeAll useCache store store sent)))
    (hfresh : p.1.merged.fresh = true) (hfresh' : q.1.merged.fresh = true)
    (hitem : p.1.item? = some item) (hitem' : q.1.item? = some item) : p.2.id = q.2.id := by
  obtain ⟨c, hc, hw⟩ := stored_of_sent (Ledger.fst_mem_of_resolve hp) hfresh
  obtain ⟨c', hc', hw'⟩ := stored_of_sent (Ledger.fst_mem_of_resolve hq) hfresh'
  have halike : p.1.own? = q.1.own? := agree c hc _ hw c' hc' _ hw' hitem hitem'
  cases hown : p.1.own? with
  | some id =>
    rw [hown] at halike
    exact (filled?_eq_some.1 (Ledger.id_of_own hp hown)).1.trans
      (filled?_eq_some.1 (Ledger.id_of_own hq halike.symm)).1.symm
  | none =>
    rw [hown] at halike
    exact Ledger.id_of_sameItem hp hq ⟨hfresh, hown⟩ ⟨hfresh', halike.symm⟩
      ⟨item, hitem, hitem'⟩

/-- A merge leaves an item with one key exactly if no fetched work of it is overruled. -/
theorem oneKey_settle_iff (whole : store.Whole) (oneKey : OneKey item store.works)
    (agree : Agree item sent) :
    OneKey item (Store.works ⟨settle (mergeAll useCache store store sent)⟩) ↔
      ¬ Overruled item (mergeAll useCache store store sent) := by
  refine ⟨OneKey.not_overruled, fun calm w hw w' hw' hkey hkey' => ?_⟩
  obtain ⟨p, hp, rfl, he, hitem⟩ := mem_works_settle hw
  obtain ⟨q, hq, rfl, he', hitem'⟩ := mem_works_settle hw'
  rw [hkey] at hitem
  rw [hkey'] at hitem'
  -- two carried works had one key before, two fetched ones came alike; only one of each is
  -- what an overruled item is about
  cases hfresh : p.1.merged.fresh <;> cases hfresh' : q.1.merged.fresh
  case false.false =>
    rw [Ledger.work_of_carried hp hfresh, Ledger.work_of_carried hq hfresh']
    exact oneKey _ (stored_of_carried he hfresh) _ (stored_of_carried he' hfresh') hitem.symm
      hitem'.symm
  case false.true =>
    rw [Ledger.work_of_carried hp hfresh]
    exact (id_of_fetched whole oneKey calm hq hfresh' hitem'.symm he hfresh hitem.symm).symm
  case true.false =>
    rw [Ledger.work_of_carried hq hfresh']
    exact id_of_fetched whole oneKey calm hp hfresh hitem.symm he' hfresh' hitem'.symm
  case true.true => exact id_of_agree agree hp hq hfresh hfresh' hitem.symm hitem'.symm

/-! ## 2. Loads -/

namespace Visit

variable {σ : Type} {library : RemoteLibrary σ} {path : Option String} {vs : List (Visit σ)}

theorem after_concat (library : RemoteLibrary σ) (s : Session) (first : List (Visit σ))
    (v : Visit σ) :
    after library s (first ++ [v]) = (v.run library (after library s first)).1.session :=
  List.foldl_append

theorem run_whole (library : RemoteLibrary σ) {s : Session} (v : Visit σ) (h : s.store.Whole) :
    (v.run library s).1.session.store.Whole := by
  rcases v.run_store library s with ⟨sent, -, -, hstore⟩ | ⟨-, hstore⟩ | ⟨-, hstore⟩
  · exact hstore ▸ settle_whole h h
  · exact hstore ▸ h
  · exact hstore ▸ .empty

theorem after_whole (library : RemoteLibrary σ) (path : Option String) (vs : List (Visit σ)) :
    (after library (.opened path) vs).store.Whole := by
  induction vs using List.reverseRecOn with
  | nil => exact .empty
  | append_singleton first v ih =>
    rw [after_concat]
    exact v.run_whole library ih

/-- A load without an answer about the collections leaves the works as they are, or none. -/
theorem run_works_of_unsent (library : RemoteLibrary σ) {s : Session} (v : Visit σ)
    {P : List Source → Prop} (empty : P []) (h : P s.works) (hnone : v.sent? library s = none) :
    P (v.run library s).1.session.works := by
  rcases v.run_store library s with ⟨sent, hsent, -⟩ | ⟨-, hstore⟩ | ⟨-, hstore⟩
  · rw [hnone] at hsent
    cases hsent
  · rw [works, hstore]
    exact h
  · rw [works, hstore]
    exact empty

/-- Among loads of a document, the one after `first` is sent `sent` about the collections. -/
def Sends (library : RemoteLibrary σ) (path : Option String) (vs first : List (Visit σ))
    (sent : List Collection) : Prop :=
  ∃ v, first ++ [v] <+: vs ∧ v.sent? library (after library (.opened path) first) = some sent

/-- The collections that the load after `first` merges with those of its answer. -/
def merged (library : RemoteLibrary σ) (path : Option String) (first : List (Visit σ))
    (sent : List Collection) : List Merged :=
  mergeAll (after library (.opened path) first).trustsCache
    (after library (.opened path) first).store (after library (.opened path) first).store sent

theorem works_of_sends (quiet : Quiet library) {first : List (Visit σ)} {v : Visit σ}
    {sent : List Collection}
    (hsent : v.sent? library (after library (.opened path) first) = some sent) :
    (after library (.opened path) (first ++ [v])).works =
      Store.works ⟨settle (merged library path first sent)⟩ := by
  rw [after_concat, works, v.run_store_of_sent library _ quiet hsent]
  rfl

/-- An item has one citation key after each of the loads exactly if it is overruled in none of
them. -/
theorem oneKey_after_iff (quiet : Quiet library)
    (agree : ∀ first sent, Sends library path vs first sent → Agree item sent) :
    (∀ first, first <+: vs → OneKey item (after library (.opened path) first).works) ↔
      ∀ first sent, Sends library path vs first sent →
        ¬ Overruled item (merged library path first sent) := by
  constructor
  · rintro oneKey first sent ⟨v, hinitial, hsent⟩
    have hafter := oneKey _ hinitial
    rw [works_of_sends quiet hsent] at hafter
    exact hafter.not_overruled
  · intro calm first
    induction first using List.reverseRecOn with
    | nil => exact fun _ _ hw => (List.not_mem_nil hw).elim
    | append_singleton first v ih =>
      intro hinitial
      have hbefore := ih ((List.prefix_append first [v]).trans hinitial)
      -- only a load that is sent something changes the works
      cases hsent : v.sent? library (after library (.opened path) first) with
      | none =>
        rw [after_concat]
        exact v.run_works_of_unsent library (fun _ hw => (List.not_mem_nil hw).elim) hbefore hsent
      | some sent =>
        have hsends : Sends library path vs first sent := ⟨v, hinitial, hsent⟩
        rw [works_of_sends quiet hsent]
        exact (oneKey_settle_iff (after_whole library path first) hbefore
          (agree first sent hsends)).2 (calm first sent hsends)

end Visit

/-! ## 3. Items that always come alike -/

theorem Brings.agree {key : Option String} (h : Brings item key sent) : Agree item sent :=
  fun c hc w hw c' hc' w' hw' hkey hkey' => (h c hc w hw hkey).trans (h c' hc' w' hw' hkey').symm

theorem Brings.own? {key : Option String} (h : Brings item key sent) {e : Entry}
    (he : e ∈ entries (mergeAll useCache store store sent)) (hfresh : e.merged.fresh = true)
    (hitem : e.item? = some item) : e.own? = key := by
  obtain ⟨c, hc, hw⟩ := stored_of_sent he hfresh
  exact h c hc e.work hw hitem

theorem Brings.bears {key : String} (h : Brings item (some key) sent)
    (bears : Bears item key store.works) :
    Bears item key (Store.works ⟨settle (mergeAll useCache store store sent)⟩) := by
  intro w hw hkey
  obtain ⟨p, hp, rfl, he, hitem⟩ := mem_works_settle hw
  rw [hkey] at hitem
  cases hfresh : p.1.merged.fresh with
  | true => exact (filled?_eq_some.1 (Ledger.id_of_own hp (h.own? he hfresh hitem.symm))).1
  | false =>
    rw [Ledger.work_of_carried hp hfresh]
    exact bears _ (stored_of_carried he hfresh) hitem.symm

theorem Brings.not_overruled {key : Option String} (h : Brings item key sent)
    (bears : ∀ id, key = some id → Bears item id store.works) :
    ¬ Overruled item (mergeAll useCache store store sent) := by
  rintro ⟨e, he, b, hb, hitem, hitem', hfresh, hcarried, id, hown, hother⟩
  have hkey : key = some id := (h.own? he hfresh hitem).symm.trans hown
  have hne : id ≠ "" := (filled?_eq_some.1 hown).2
  exact hother ((bears id hkey).own? hne hb hcarried hitem')

namespace Visit

variable {σ : Type} {library : RemoteLibrary σ} {path : Option String} {vs : List (Visit σ)}

/-- An item that always comes with the same citation key bears it after each load. -/
theorem bears_after (quiet : Quiet library) {key : String}
    (brings : ∀ first sent, Sends library path vs first sent → Brings item (some key) sent)
    {first : List (Visit σ)} (hinitial : first <+: vs) :
    Bears item key (after library (.opened path) first).works := by
  induction first using List.reverseRecOn with
  | nil => exact fun _ hw => (List.not_mem_nil hw).elim
  | append_singleton first v ih =>
    have hbefore := ih ((List.prefix_append first [v]).trans hinitial)
    cases hsent : v.sent? library (after library (.opened path) first) with
    | some sent =>
      rw [works_of_sends quiet hsent]
      exact (brings first sent ⟨v, hinitial, hsent⟩).bears hbefore
    | none =>
      rw [after_concat]
      exact v.run_works_of_unsent library (fun _ hw => (List.not_mem_nil hw).elim) hbefore hsent

/-- An item that always comes with the same citation key, or always without, is never overruled. -/
theorem not_overruled_of_brings (quiet : Quiet library) {key : Option String}
    (brings : ∀ first sent, Sends library path vs first sent → Brings item key sent)
    {first : List (Visit σ)} {sent : List Collection} (hsends : Sends library path vs first sent) :
    ¬ Overruled item (merged library path first sent) := by
  obtain ⟨v, hinitial, -⟩ := id hsends
  refine (brings first sent hsends).not_overruled fun id hid => ?_
  subst hid
  exact bears_after quiet brings ((List.prefix_append first [v]).trans hinitial)

end Visit

end CiteSync.Session
