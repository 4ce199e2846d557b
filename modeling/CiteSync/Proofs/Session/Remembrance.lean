import CiteSync.Proofs.Session.Belonging
import CiteSync.Proofs.Session.Resolution
import Mathlib.Data.List.Pairwise

/-!
# Citation keys over many cycles

Made-up citation keys are carried over with the works that have them.  An item of which a work is
carried over keeps its key; one whose works were all fetched again gets the key that is suggested
then, given the keys that the cycle comes with and those made up before it in library order, and
keeps its own only if that is the same.  While it does, no other item without a citation key of its
own bears it.
-/

namespace CiteSync.Session

open Library Remote Citation

/-! ## 1. Items and their keys -/

/-- Works of these items come without a citation key. -/
def Unnamed (nameless : String → Prop) (sent : List Collection) : Prop :=
  ∀ c ∈ sent, ∀ w ∈ c.works, ∀ item, filled? w.key = some item → nameless item →
    filled? w.id = none

/-- Every work of an item has that citation key. -/
def Bears (item id : String) (works : List Source) : Prop :=
  ∀ w ∈ works, filled? w.key = some item → w.id = some id

/-- No other item of these has that citation key. -/
def Alone (nameless : String → Prop) (item id : String) (works : List Source) : Prop :=
  ∀ w ∈ works, ∀ other, filled? w.key = some other → nameless other → other ≠ item →
    w.id ≠ some id

def Present (item : String) (ms : List Merged) : Prop := ∃ e ∈ entries ms, e.item? = some item

/-- What it takes for an item to keep its citation key in a cycle. -/
inductive Remembered (item id : String) (ms : List Merged) : Prop
  /-- A work of it is carried over. -/
  | carried {e : Entry} (mem : e ∈ entries ms) (kept : e.merged.fresh = false)
      (of : e.item? = some item)
  /-- Where it gets a new key, the same one is suggested again. -/
  | suggested {before : List Entry} {e : Entry}
      (minted : (Ledger.ofMerged ms).MintedAt (entries ms) before e) (of : e.item? = some item)
      (again : suggestKey e.work ((Ledger.ofMerged ms).after before).taken = id)

/-! ## 2. One cycle -/

variable {useCache : Bool} {store : Store} {sent : List Collection} {nameless : String → Prop}
variable {item id : String} {e : Entry} {w : Source}

/-- The works of an answer are carried over from the store, or they were sent. -/
theorem entry_origin (he : e ∈ entries (mergeAll useCache store store sent)) :
    if e.merged.fresh then ∃ c ∈ sent, e.work ∈ c.works else e.work ∈ store.works := by
  simpa only [or_self] using merged_origin he

theorem stored_of_carried (he : e ∈ entries (mergeAll useCache store store sent))
    (hcarried : e.merged.fresh = false) : e.work ∈ store.works := by
  simpa [hcarried] using entry_origin he

theorem Unnamed.asks (unnamed : Unnamed nameless sent) (hitem : nameless item)
    (he : e ∈ entries (mergeAll useCache store store sent)) (hfresh : e.merged.fresh = true)
    (of : e.item? = some item) : e.Asks := by
  have horigin := entry_origin he
  rw [if_pos hfresh] at horigin
  obtain ⟨c, hc, hw⟩ := horigin
  exact ⟨hfresh, unnamed c hc e.work hw item of hitem⟩

theorem Ledger.item?_of_resolve {l : Ledger} {es : List Entry} {p : Entry × Source}
    (hp : p ∈ l.resolve es) : filled? p.2.key = p.1.item? := by
  obtain ⟨e, w⟩ := p
  obtain ⟨l₁, l₂, -, hplaces⟩ := exists_places hp
  change l₁.Places e w l₂ at hplaces
  cases hplaces <;> rfl

theorem mem_works_settle {ms : List Merged} (hw : w ∈ Store.works ⟨settle ms⟩) :
    ∃ p ∈ (Ledger.ofMerged ms).resolve (entries ms), p.2 = w ∧ p.1 ∈ entries ms ∧
      filled? w.key = p.1.item? := by
  rw [works_settle] at hw
  obtain ⟨p, hp, rfl⟩ := List.mem_map.1 hw
  exact ⟨p, hp, rfl, Ledger.fst_mem_of_resolve hp, Ledger.item?_of_resolve hp⟩

theorem Bears.own? (bears : Bears item id store.works) (hid : id ≠ "")
    (he : e ∈ entries (mergeAll useCache store store sent)) (hcarried : e.merged.fresh = false)
    (of : e.item? = some item) : e.own? = some id := by
  exact filled?_eq_some.2 ⟨bears e.work (stored_of_carried he hcarried) of, hid⟩

theorem Bears.carriedKey? (bears : Bears item id store.works) (hid : id ≠ "")
    (he : e ∈ entries (mergeAll useCache store store sent)) (hcarried : e.merged.fresh = false)
    (of : e.item? = some item) :
    carriedKey? (mergeAll useCache store store sent) item = some id := by
  cases hfind : Session.carriedKey? (mergeAll useCache store store sent) item with
  | none =>
    unfold Session.carriedKey? at hfind
    have hnone := List.findSome?_eq_none_iff.1 hfind e he
    rw [if_pos ⟨hcarried, of⟩, bears.own? hid he hcarried of] at hnone
    cases hnone
  | some id' =>
    obtain ⟨e', he', hcarried', of', hown⟩ := exists_of_carriedKey? hfind
    rw [bears.own? hid he' hcarried' of'] at hown
    exact hown.symm

/-- A work that asks for a key and gets none of its own gets that of a carried work. -/
theorem exists_carried_of_not_new {ms : List Merged} (asks : e.Asks) (of : e.item? = some item)
    (hnot : ¬ (Ledger.ofMerged ms).New e) :
    ∃ known, (Ledger.ofMerged ms).find? item = some known ∧ ∃ b ∈ entries ms,
      b.merged.fresh = false ∧ b.item? = some item ∧ b.own? = some known := by
  obtain ⟨item', known, of', hfind⟩ := Ledger.exists_of_not_new asks hnot
  rw [of] at of'
  cases of'
  refine ⟨known, hfind, ?_⟩
  rw [ofMerged_find?] at hfind
  exact exists_of_carriedKey? hfind

theorem remembered_of_id {ms : List Merged} {p : Entry × Source}
    (hp : p ∈ (Ledger.ofMerged ms).resolve (entries ms)) (asks : p.1.Asks)
    (of : p.1.item? = some item) (hid : filled? p.2.id = some id) : Remembered item id ms := by
  by_cases hnew : (Ledger.ofMerged ms).New p.1
  · obtain ⟨before, e, hminted, hitem, hid'⟩ := Ledger.exists_mintedAt hp hnew
    rw [hid] at hid'
    exact .suggested hminted (hitem item of) (Option.some.inj hid').symm
  · obtain ⟨_, -, b, hb, hcarried, of', -⟩ := exists_carried_of_not_new asks of hnew
    exact .carried hb hcarried of'

/-- All works of an item that ask for a key get the one that is made up for the first of them. -/
theorem id_of_mintedAt {l : Ledger} {es before : List Entry} {p : Entry × Source}
    (hp : p ∈ l.resolve es) (asks : p.1.Asks) (hminted : l.MintedAt es before e)
    (same : p.1.SameItem e) : p.2.id = some (suggestKey e.work (l.after before).taken) := by
  obtain ⟨⟨post, rfl⟩, hnew⟩ := hminted
  have hfirst := l.mem_resolve_of_append before e post
  rw [Ledger.id_of_sameItem hp hfirst asks hnew.1 same]
  exact (filled?_eq_some.1 ((Ledger.place_places _ e).id_of_new hnew)).1

/-- An item keeps its citation key in a cycle exactly if it is remembered. -/
theorem keeps_iff_remembered (unnamed : Unnamed nameless sent) (hitem : nameless item)
    (bears : Bears item id store.works) (hid : id ≠ "")
    (hw : w ∈ Store.works ⟨settle (mergeAll useCache store store sent)⟩)
    (of : filled? w.key = some item) :
    w.id = some id ↔ Remembered item id (mergeAll useCache store store sent) := by
  obtain ⟨p, hp, rfl, he, hkey⟩ := mem_works_settle hw
  have of' : p.1.item? = some item := hkey.symm.trans of
  cases hfresh : p.1.merged.fresh with
  | false =>
    rw [Ledger.work_of_carried hp hfresh]
    exact ⟨fun _ => .carried he hfresh of', fun _ => bears _ (stored_of_carried he hfresh) of'⟩
  | true =>
    have asks := unnamed.asks hitem he hfresh of'
    constructor
    · exact fun hsame => remembered_of_id hp asks of' (filled?_eq_some.2 ⟨hsame, hid⟩)
    · intro hremembered
      cases hremembered with
      | carried he' hcarried of'' =>
        refine Ledger.id_of_found hp asks of' ?_
        rw [ofMerged_find?, bears.carriedKey? hid he' hcarried of'']
      | suggested hminted of'' again =>
        rw [id_of_mintedAt hp asks hminted ⟨item, of', of''⟩, again]

theorem Remembered.present {ms : List Merged} (h : Remembered item id ms) : Present item ms := by
  cases h with
  | carried mem _ of => exact ⟨_, mem, of⟩
  | @suggested before e minted of =>
    obtain ⟨⟨post, hsplit⟩, -⟩ := minted
    refine ⟨e, ?_, of⟩
    rw [hsplit]
    exact List.mem_append_right _ (List.mem_cons_self ..)

/-- A new key is on the works of one item only. -/
theorem Resolved.ne_of_mints {ms : List Merged} {pairs : List (Entry × Source)}
    (h : Resolved ms pairs) {p q : Entry × Source} (hp : p ∈ pairs) (hq : q ∈ pairs)
    (hmints : p.1.Mints ms ∨ q.1.Mints ms) {other : String} (of : p.1.item? = some other)
    (of' : q.1.item? = some item) (hne : other ≠ item) : p.2.id ≠ q.2.id := by
  intro hsame
  have hdiffer : p ≠ q := by
    rintro rfl
    rw [of] at of'
    exact hne (Option.some.inj of')
  have hsymm : Std.Symm fun p q : Entry × Source =>
      p.1.Mints ms ∨ q.1.Mints ms → p.2.id = q.2.id → p.1.SameItem q.1 :=
    ⟨fun p q hpq hmints hsame => (hpq hmints.symm hsame.symm).symm⟩
  obtain ⟨item', hp', hq'⟩ := h.apart.forall hp hq hdiffer hmints hsame
  rw [of] at hp'
  rw [of'] at hq'
  rw [← hp'] at hq'
  exact hne (Option.some.inj hq').symm

theorem Alone.next (unnamed : Unnamed nameless sent) (hitem : nameless item)
    (bears : Bears item id store.works) (hid : id ≠ "")
    (alone : Alone nameless item id store.works)
    (few : (Store.citationKeys ⟨settle (mergeAll useCache store store sent)⟩).dedup.length < 50000)
    (hremembered : Remembered item id (mergeAll useCache store store sent)) :
    Alone nameless item id (Store.works ⟨settle (mergeAll useCache store store sent)⟩) := by
  intro w hw other of hother hne hsame
  obtain ⟨p, hp, rfl, he, hkey⟩ := mem_works_settle hw
  have of' : p.1.item? = some other := hkey.symm.trans of
  cases hfresh : p.1.merged.fresh with
  | false =>
    rw [Ledger.work_of_carried hp hfresh] at hsame
    exact alone _ (stored_of_carried he hfresh) other of' hother hne hsame
  | true =>
    have asks := unnamed.asks hother he hfresh of'
    by_cases hnew : (Ledger.ofMerged (mergeAll useCache store store sent)).New p.1
    · -- a new key is not the one that the item bears in this very cycle
      obtain ⟨e, he', hitem'⟩ := hremembered.present
      obtain ⟨q, hq, rfl⟩ := Ledger.exists_of_mem (.ofMerged _) he'
      have hmem : q.2 ∈ Store.works ⟨settle (mergeAll useCache store store sent)⟩ := by
        rw [works_settle]
        exact List.mem_map.2 ⟨q, hq, rfl⟩
      have hbears := (keeps_iff_remembered unnamed hitem bears hid hmem
        ((Ledger.item?_of_resolve hq).trans hitem')).2 hremembered
      have hresolved := resolved few
      rw [zip_entries_works] at hresolved
      exact hresolved.ne_of_mints hp hq (.inl (new_ofMerged.1 hnew)) of' hitem' hne
        (hsame.trans hbears.symm)
    · -- a key that is known of the other item was on a stored work of it
      obtain ⟨known, hfind, b, hb, hcarried, hother', hown⟩ :=
        exists_carried_of_not_new asks of' hnew
      rw [Ledger.id_of_found hp asks of' hfind] at hsame
      cases hsame
      exact alone _ (stored_of_carried hb hcarried) other hother' hother hne
        (filled?_eq_some.1 hown).1

/-! ## 3. Suggestions that come out the same -/

theorem after_of_undisturbed {l : Ledger} {before : List Entry} (hnone : l.find? item = none)
    (hfree : id ∉ l.taken)
    (undisturbed : ∀ b ∈ before, b.Asks → b.item? ≠ some item ∧ ¬ MayGet b.work id) :
    (l.after before).find? item = none ∧ id ∉ (l.after before).taken := by
  induction before generalizing l with
  | nil => exact ⟨hnone, hfree⟩
  | cons b rest ih =>
    have hplaces := l.place_places b
    refine ih ?_ ?_ fun b hb => undisturbed b (List.mem_cons_of_mem _ hb)
    · refine Option.eq_none_iff_forall_ne_some.2 fun id' hfind => ?_
      obtain ⟨asks, of, -⟩ := hplaces.find?_learnt hnone hfind
      exact (undisturbed b (List.mem_cons_self ..) asks).1 of
    · intro htaken
      rcases hplaces.mem_taken_cases htaken with htaken | ⟨hnew, rfl⟩
      · exact hfree htaken
      · exact (undisturbed b (List.mem_cons_self ..) hnew.1).2 (mayGet_suggestKey ..)

/-- An item is remembered as well if its key is none that the answer comes with, a work of it
suggests the key next to those, and no work before that one could take the key away. -/
theorem remembered_of_undisturbed {ms : List Merged} (before post : List Entry)
    (hsplit : entries ms = before ++ e :: post) (asks : e.Asks) (of : e.item? = some item)
    (again : suggestKey e.work (Ledger.ofMerged ms).taken = id)
    (hfree : ∀ b ∈ entries ms, b.own? ≠ some id)
    (undisturbed : ∀ b ∈ before, b.Asks → b.item? ≠ some item ∧ ¬ MayGet b.work id) :
    Remembered item id ms := by
  have hfree' : id ∉ (Ledger.ofMerged ms).taken := by
    intro htaken
    obtain ⟨b, hb, hown⟩ := mem_ofMerged_taken.1 htaken
    exact hfree b hb hown
  cases hcarried : carriedKey? ms item with
  | some id' =>
    obtain ⟨b, hb, hkept, of', -⟩ := exists_of_carriedKey? hcarried
    exact .carried hb hkept of'
  | none =>
    rw [← ofMerged_find?] at hcarried
    obtain ⟨hnone, hfree''⟩ := after_of_undisturbed hcarried hfree' undisturbed
    refine .suggested ⟨⟨post, hsplit⟩, asks, fun item' of' => ?_⟩ of ?_
    · rw [of] at of'
      cases of'
      exact hnone
    · obtain ⟨more, hmore⟩ := ((Ledger.ofMerged ms).after_grows before).taken
      rw [hmore] at hfree'' ⊢
      rw [suggestKey_of_grown (by rw [again]; exact hfree''), again]

/-! ## 4. The cycle in which an item appears -/

/-- The store holds no work of an item. -/
def Absent (item : String) (store : Store) : Prop := ∀ w ∈ store.works, filled? w.key ≠ some item

theorem Absent.mints (absent : Absent item store) (unnamed : Unnamed nameless sent)
    (hitem : nameless item) (he : e ∈ entries (mergeAll useCache store store sent))
    (of : e.item? = some item) : e.Mints (mergeAll useCache store store sent) := by
  have hfresh : ∀ b ∈ entries (mergeAll useCache store store sent), b.item? = some item →
      b.merged.fresh = true := by
    intro b hb of'
    by_contra hnot
    exact absent b.work (stored_of_carried hb (by simpa using hnot)) of'
  refine ⟨unnamed.asks hitem he (hfresh e he of) of, fun item' of' => ?_⟩
  rw [of] at of'
  cases of'
  refine Option.eq_none_iff_forall_ne_some.2 fun id' hfind => ?_
  obtain ⟨b, hb, hcarried, of', -⟩ := exists_of_carriedKey? hfind
  rw [hfresh b hb of'] at hcarried
  cases hcarried

theorem Absent.bears (absent : Absent item store) (unnamed : Unnamed nameless sent)
    (hitem : nameless item)
    (hw : w ∈ Store.works ⟨settle (mergeAll useCache store store sent)⟩)
    (of : filled? w.key = some item) (has : w.id = some id) :
    id ≠ "" ∧ Bears item id (Store.works ⟨settle (mergeAll useCache store store sent)⟩) := by
  obtain ⟨p, hp, rfl, he, hkey⟩ := mem_works_settle hw
  rw [of] at hkey
  have hmints := absent.mints unnamed hitem he hkey.symm
  constructor
  · obtain ⟨_, _, -, -, hid⟩ := Ledger.exists_mintedAt hp (new_ofMerged.2 hmints)
    obtain ⟨hsame, hfilled⟩ := filled?_eq_some.1 hid
    rw [has] at hsame
    cases hsame
    exact hfilled
  · intro w' hw' of'
    obtain ⟨q, hq, rfl, he', hkey'⟩ := mem_works_settle hw'
    rw [of'] at hkey'
    have hmints' := absent.mints unnamed hitem he' hkey'.symm
    rw [← has]
    exact Ledger.id_of_sameItem hq hp hmints'.1 hmints.1 ⟨item, hkey'.symm, hkey.symm⟩

theorem Absent.alone (absent : Absent item store) (unnamed : Unnamed nameless sent)
    (hitem : nameless item)
    (few : (Store.citationKeys ⟨settle (mergeAll useCache store store sent)⟩).dedup.length < 50000)
    (hw : w ∈ Store.works ⟨settle (mergeAll useCache store store sent)⟩)
    (of : filled? w.key = some item) (has : w.id = some id) :
    Alone nameless item id (Store.works ⟨settle (mergeAll useCache store store sent)⟩) := by
  intro w' hw' other of' _ hne hsame
  obtain ⟨p, hp, rfl, he, hkey⟩ := mem_works_settle hw
  obtain ⟨q, hq, rfl, -, hkey'⟩ := mem_works_settle hw'
  rw [of] at hkey
  rw [of'] at hkey'
  have hresolved := resolved few
  rw [zip_entries_works] at hresolved
  exact hresolved.ne_of_mints hq hp (.inr (absent.mints unnamed hitem he hkey.symm)) hkey'.symm
    hkey.symm hne (hsame.trans has.symm)

/-! ## 5. Runs of cycles -/

/-- The sessions that loads lead to from the one in which an item appears, with the citation key
that it gets there and the stores since then, the last one first.  Each cycle keeps the rule. -/
inductive Followed {σ : Type} (library : RemoteLibrary σ) (nameless : String → Prop) (item : String)
    (rule : String → List Merged → Prop) : String → List Store → Session → Prop
  | appeared {s : Session} (v : Visit σ) {w : Source} {id : String} (absent : Absent item s.store)
      (unnamed : ∀ sent, v.sent? library s = some sent → Unnamed nameless sent)
      (mem : w ∈ (v.run library s).1.session.works) (of : filled? w.key = some item)
      (has : w.id = some id) :
      Followed library nameless item rule id [(v.run library s).1.session.store]
        (v.run library s).1.session
  | loaded {s : Session} {id : String} {stores : List Store} (v : Visit σ)
      (before : Followed library nameless item rule id stores s)
      (unnamed : ∀ sent, v.sent? library s = some sent → Unnamed nameless sent)
      (keeps : ∀ sent, v.sent? library s = some sent →
        (v.run library s).1.session.closed = false →
        rule id (mergeAll s.trustsCache s.store s.store sent)) :
      Followed library nameless item rule id ((v.run library s).1.session.store :: stores)
        (v.run library s).1.session

/-- A load stores an answer, resolved, or nothing that was not stored before. -/
theorem Visit.stored_cases {σ : Type} (library : RemoteLibrary σ) (s : Session) (v : Visit σ) :
    (∃ sent, v.sent? library s = some sent ∧ (v.run library s).1.session.closed = false ∧
      (v.run library s).1.session.store =
        ⟨settle (mergeAll s.trustsCache s.store s.store sent)⟩) ∨
    (v.run library s).1.session.store.works ⊆ s.store.works := by
  rcases v.run_store library s with hcommitted | ⟨-, hstore⟩ | ⟨-, hstore⟩
  · exact .inl hcommitted
  · rw [hstore]
    exact .inr (List.Subset.refl _)
  · rw [hstore]
    exact .inr (List.nil_subset _)

variable {σ : Type} {library : RemoteLibrary σ} {s : Session} {stores : List Store}

theorem Followed.bears (h : Followed library nameless item (Remembered item) id stores s)
    (hitem : nameless item) : id ≠ "" ∧ Bears item id s.store.works := by
  induction h with
  | @appeared s v w id absent unnamed mem of has =>
    rcases v.stored_cases library s with ⟨sent, hsent, -, hstore⟩ | hsub
    · rw [Session.works, hstore] at mem
      rw [hstore]
      exact absent.bears (unnamed sent hsent) hitem mem of has
    · exact absurd of (absent w (hsub mem))
  | @loaded s id stores v _ unnamed keeps ih =>
    -- a load that commits nothing leaves no work that was not there
    obtain ⟨hid, hbears⟩ := ih
    refine ⟨hid, ?_⟩
    rcases v.stored_cases library s with ⟨sent, hsent, hopen, hstore⟩ | hsub
    · rw [hstore]
      intro w hw of
      exact (keeps_iff_remembered (unnamed sent hsent) hitem hbears hid hw of).2
        (keeps sent hsent hopen)
    · exact fun w hw => hbears w (hsub hw)

theorem Followed.alone (h : Followed library nameless item (Remembered item) id stores s)
    (hitem : nameless item) (few : ∀ store ∈ stores, store.citationKeys.dedup.length < 50000) :
    Alone nameless item id s.store.works := by
  induction h with
  | @appeared s v w id absent unnamed mem of has =>
    rcases v.stored_cases library s with ⟨sent, hsent, -, hstore⟩ | hsub
    · have hfew := few _ (List.mem_cons_self ..)
      rw [hstore] at hfew ⊢
      rw [Session.works, hstore] at mem
      exact absent.alone (unnamed sent hsent) hitem hfew mem of has
    · exact absurd of (absent w (hsub mem))
  | @loaded s id stores v before unnamed keeps ih =>
    have halone := ih fun store hstore => few store (List.mem_cons_of_mem _ hstore)
    obtain ⟨hid, hbears⟩ := before.bears hitem
    rcases v.stored_cases library s with ⟨sent, hsent, hopen, hstore⟩ | hsub
    · have hfew := few _ (List.mem_cons_self ..)
      rw [hstore] at hfew ⊢
      exact halone.next (unnamed sent hsent) hitem hbears hid hfew (keeps sent hsent hopen)
    · exact fun w hw => halone w (hsub hw)

/-- An item that is remembered in every cycle keeps the citation key that was made up for it, in all
its works, and no other item without one of its own bears it.  A cycle in which it is not remembered
gives it another one. -/
theorem synthesized_keys_stay (hitem : nameless item)
    (h : Followed library nameless item (Remembered item) id stores s) :
    (∀ w ∈ s.works, filled? w.key = some item → w.id = some id) ∧
      ((∀ store ∈ stores, store.citationKeys.dedup.length < 50000) →
        ∀ w ∈ s.works, ∀ other, filled? w.key = some other → nameless other → other ≠ item →
          w.id ≠ some id) ∧
      ∀ (v : Visit σ) (sent : List Collection), v.sent? library s = some sent →
        (v.run library s).1.session.closed = false → Unnamed nameless sent →
        ∀ w ∈ (v.run library s).1.session.works, filled? w.key = some item →
          (w.id = some id ↔ Remembered item id (mergeAll s.trustsCache s.store s.store sent)) := by
  obtain ⟨hid, hbears⟩ := h.bears hitem
  refine ⟨hbears, h.alone hitem, ?_⟩
  intro v sent hsent hopen unnamed w hw of
  rcases v.run_store library s with ⟨sent', hsent', -, hstore⟩ | ⟨hnone, -⟩ | ⟨hnone | hshut, -⟩
  · rw [hsent] at hsent'
    cases hsent'
    rw [Session.works, hstore] at hw
    exact keeps_iff_remembered unnamed hitem hbears hid hw of
  · rw [hsent] at hnone
    cases hnone
  · rw [hsent] at hnone
    cases hnone
  · rw [hopen] at hshut
    cases hshut

/-! ## 6. Two books of one author and year -/

/-- A collection with books of these items, none of which has a citation key. -/
def books (key : String) (version : Int) (items : List String) : Collection where
  key := key
  name := key
  version := version
  items := some (items.map fun item => smith none (some item))

theorem sent_of_sending {sent sent' : List Collection}
    (h : (sending sent).sent? Script.library s = some sent') : sent' = sent := by
  obtain ⟨_, -, -, -, hanswer⟩ := (sending sent).asked_of_sent Script.library s h
  exact (Option.some.inj hanswer).symm

theorem unnamed_of_sending {sent : List Collection}
    (hnone : ∀ c ∈ sent, ∀ w ∈ c.works, w.id = none) :
    ∀ sent', (sending sent).sent? Script.library s = some sent' →
      Unnamed (fun _ => True) sent' := by
  intro sent' h c hc w hw _ _ _
  rw [sent_of_sending h] at hc
  rw [hnone c hc w hw]
  rfl

variable {rule : String → List Merged → Prop}

theorem followed_first {sent : List Collection} (hnone : ∀ c ∈ sent, ∀ w ∈ c.works, w.id = none)
    (hkey : ∃ w ∈ ((sending sent).run Script.library (.opened none)).1.session.works,
      filled? w.key = some item ∧ w.id = some id) :
    Followed Script.library (fun _ => True) item rule id
      [((sending sent).run Script.library (.opened none)).1.session.store]
      ((sending sent).run Script.library (.opened none)).1.session := by
  obtain ⟨w, hw, of, has⟩ := hkey
  exact .appeared _ (fun _ hnil => absurd hnil List.not_mem_nil) (unnamed_of_sending hnone) hw of
    has

theorem followed_next (h : Followed Script.library (fun _ => True) item rule id stores s)
    (sent : List Collection) (hnone : ∀ c ∈ sent, ∀ w ∈ c.works, w.id = none)
    (keeps : rule id (mergeAll s.trustsCache s.store s.store sent)) :
    Followed Script.library (fun _ => True) item rule id
      (((sending sent).run Script.library s).1.session.store :: stores)
      ((sending sent).run Script.library s).1.session := by
  refine .loaded _ h (unnamed_of_sending hnone) fun sent' hsent _ => ?_
  rw [sent_of_sending hsent]
  exact keeps

/-- The session after the books were sent in two collections. -/
def booksApart : Session :=
  ((sending [books "A" 1 ["I1"], books "B" 1 ["I2"]]).run Script.library (.opened none)).1.session

def booksJoined : List Collection :=
  [{ key := "A", name := "A", version := 1 }, books "B" 2 ["I2", "I1"]]

/-- The second book is fetched again, ahead of the first one, and still comes after it: the first
one has its key from the collection that is carried over. -/
theorem remembered_booksJoined : Remembered "I2" "smith2020a"
    (mergeAll booksApart.trustsCache booksApart.store booksApart.store booksJoined) := by
  refine remembered_of_undisturbed [_] [_] rfl ⟨rfl, rfl⟩ rfl (by decide) (by decide) ?_
  intro b hb asks
  rw [List.mem_singleton.1 hb] at asks
  exact absurd asks.1 Bool.false_ne_true

theorem synthesized_keys_stay_books :
    ((sending booksJoined).run Script.library booksApart).1.session.works.map
        (fun w => (w.key, w.id)) =
      [(some "I1", some "smith2020"), (some "I2", some "smith2020a"),
        (some "I1", some "smith2020")] ∧
    ∀ w ∈ ((sending booksJoined).run Script.library booksApart).1.session.works,
      (filled? w.key = some "I2" → w.id = some "smith2020a") ∧
      ∀ other, filled? w.key = some other → other ≠ "I2" → w.id ≠ some "smith2020a" := by
  have hfirst : Followed Script.library (fun _ => True) "I2" (Remembered "I2") "smith2020a"
      [booksApart.store] booksApart :=
    followed_first (by decide) ⟨_, List.mem_of_getElem? (i := 1) rfl, rfl, by decide⟩
  have hjoined := followed_next hfirst booksJoined (by decide) remembered_booksJoined
  obtain ⟨hkept, halone, -⟩ := synthesized_keys_stay trivial hjoined
  exact ⟨by decide, fun w hw =>
    ⟨hkept w hw, fun other of => halone (by decide) w hw other of trivial⟩⟩

/-! ## 7. Two books that change places -/

def booksStored : Session :=
  ((sending [books "A" 1 ["I1", "I2"]]).run Script.library (.opened none)).1.session

def booksTurned : List Collection := [books "A" 2 ["I2", "I1"]]

/-- Books that are fetched again the other way round change keys: for an item to be present in every
cycle is not enough. -/
theorem present_is_not_enough :
    ¬ ∀ (σ : Type) (library : RemoteLibrary σ) (nameless : String → Prop) (item id : String)
        (stores : List Store) (s : Session), nameless item →
      Followed library nameless item (fun _ => Present item) id stores s →
      ∀ w ∈ s.works, filled? w.key = some item → w.id = some id := by
  intro hall
  have hfirst : Followed Script.library (fun _ => True) "I2" (fun _ => Present "I2") "smith2020a"
      [booksStored.store] booksStored :=
    followed_first (by decide) ⟨_, List.mem_of_getElem? (i := 1) rfl, rfl, by decide⟩
  have hturned := followed_next hfirst booksTurned (by decide)
    ⟨_, List.mem_of_getElem? (i := 0) rfl, rfl⟩
  -- now the second book comes first and has the key that the first one had
  obtain ⟨w, hw, of, has⟩ :
      ∃ w ∈ ((sending booksTurned).run Script.library booksStored).1.session.works,
        filled? w.key = some "I2" ∧ w.id = some "smith2020" :=
    ⟨_, List.mem_of_getElem? (i := 0) rfl, rfl, by decide⟩
  have hkept := hall _ _ _ _ _ _ _ trivial hturned w hw of
  rw [has] at hkept
  exact absurd hkept (by decide)

end CiteSync.Session
