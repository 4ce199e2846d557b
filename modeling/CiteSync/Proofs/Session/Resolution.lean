import CiteSync.Proofs.Session.Ledger
import CiteSync.Proofs.Session.Merging

/-!
# Citation keys in one cycle

What a cycle makes of the works of an answer.  A work keeps the citation key that it comes with; the
works of an item that come without one share one key, that of a carried work of the item if there is
any; and a key that is made up belongs to nothing else in the cycle.
-/

namespace CiteSync.Session

open Library Citation

/-! ## 1. Works one after the other -/

namespace Ledger

/-- Entries with the works that are kept for them. -/
def resolve : Ledger → List Entry → List (Entry × Source)
  | _, [] => []
  | l, e :: rest => (e, (l.place e).1) :: (l.place e).2.resolve rest

/-- A ledger that has learnt more. -/
structure Grows (l later : Ledger) : Prop where
  taken : ∃ more, later.taken = more ++ l.taken
  find? : ∀ item id, l.find? item = some id → later.find? item = some id

theorem Grows.refl (l : Ledger) : l.Grows l := ⟨⟨[], rfl⟩, fun _ _ h => h⟩

theorem Grows.trans {l₁ l₂ l₃ : Ledger} (h : l₁.Grows l₂) (h' : l₂.Grows l₃) : l₁.Grows l₃ := by
  obtain ⟨more, hmore⟩ := h.taken
  obtain ⟨more', hmore'⟩ := h'.taken
  refine ⟨⟨more' ++ more, ?_⟩, fun item id hid => h'.find? item id (h.find? item id hid)⟩
  rw [hmore', hmore, List.append_assoc]

theorem Grows.mem {l later : Ledger} (h : l.Grows later) {id : String} (hid : id ∈ l.taken) :
    id ∈ later.taken := by
  obtain ⟨more, hmore⟩ := h.taken
  rw [hmore]
  exact List.mem_append_right _ hid

variable {l : Ledger} {e : Entry} {es : List Entry} {p : Entry × Source}

theorem place_grows (l : Ledger) (e : Entry) : l.Grows (l.place e).2 :=
  ⟨(l.place_places e).taken_grows, fun _ _ h => (l.place_places e).find?_stays h⟩

@[simp]
theorem resolve_fst (l : Ledger) (es : List Entry) : (l.resolve es).map Prod.fst = es := by
  induction es generalizing l with
  | nil => rfl
  | cons e rest ih => exact congrArg (e :: ·) (ih _)

theorem fst_mem_of_resolve (hp : p ∈ l.resolve es) : p.1 ∈ es := by
  rw [← resolve_fst l es]
  exact List.mem_map.2 ⟨p, hp, rfl⟩

theorem exists_of_mem (l : Ledger) (he : e ∈ es) : ∃ p ∈ l.resolve es, p.1 = e := by
  rw [← resolve_fst l es] at he
  exact List.mem_map.1 he

/-- Every work is dealt with by a ledger that has grown from the first one. -/
theorem exists_places (h : p ∈ l.resolve es) :
    ∃ l₁ l₂, l.Grows l₁ ∧ l₁.Places p.1 p.2 l₂ := by
  induction es generalizing l with
  | nil => cases h
  | cons e rest ih =>
    rcases List.mem_cons.1 h with rfl | h
    · exact ⟨l, _, .refl l, l.place_places e⟩
    · obtain ⟨l₁, l₂, hgrows, hplaces⟩ := ih h
      exact ⟨l₁, l₂, (l.place_grows e).trans hgrows, hplaces⟩

/-- A work that is carried over stays as it is. -/
theorem work_of_carried (h : p ∈ l.resolve es) (hcarried : p.1.merged.fresh = false) :
    p.2 = p.1.work := by
  obtain ⟨_, _, -, hplaces⟩ := exists_places h
  exact hplaces.eq_of_carried hcarried

theorem id_of_found (h : p ∈ l.resolve es) (asks : p.1.Asks) {item id : String}
    (of : p.1.item? = some item) (hid : l.find? item = some id) : p.2.id = some id := by
  obtain ⟨l₁, l₂, hgrows, hplaces⟩ := exists_places h
  exact hplaces.id_of_found asks of (hgrows.find? item id hid)

theorem id_of_sameItem_head (hp : p ∈ (l.place e).2.resolve es) (asks : e.Asks)
    (asks' : p.1.Asks) (same : e.SameItem p.1) : (l.place e).1.id = p.2.id := by
  obtain ⟨item, of, of'⟩ := same
  obtain ⟨id, hfind, hid⟩ := (l.place_places e).find?_of_asks asks of
  rw [hid, id_of_found hp asks' of' hfind]

/-- The works of an item that ask for a key all get the same one. -/
theorem id_of_sameItem (hp : p ∈ l.resolve es) {q : Entry × Source} (hq : q ∈ l.resolve es)
    (asks : p.1.Asks) (asks' : q.1.Asks) (same : p.1.SameItem q.1) : p.2.id = q.2.id := by
  induction es generalizing l with
  | nil => cases hp
  | cons e rest ih =>
    rcases List.mem_cons.1 hp with rfl | hp <;> rcases List.mem_cons.1 hq with rfl | hq
    · rfl
    · exact id_of_sameItem_head hq asks asks' same
    · exact (id_of_sameItem_head hp asks' asks same.symm).symm
    · exact ih hp hq

def after (l : Ledger) (es : List Entry) : Ledger := es.foldl (fun l e => (l.place e).2) l

theorem mem_resolve_of_append (l : Ledger) (pre : List Entry) (e : Entry) (post : List Entry) :
    (e, ((l.after pre).place e).1) ∈ l.resolve (pre ++ e :: post) := by
  induction pre generalizing l with
  | nil => exact List.mem_cons_self ..
  | cons b rest ih => exact List.mem_cons_of_mem _ (ih _)

/-! ## 2. New keys -/

/-- There are letters enough for all keys that come into use. -/
structure Roomy (ids : List String) (l : Ledger) (es : List Entry) : Prop where
  few : ids.dedup.length < letterCount
  taken : ∀ id ∈ l.taken, id ∈ ids
  kept : ∀ p ∈ l.resolve es, ∀ id, filled? p.2.id = some id → id ∈ ids

/-- The keys that works come with are taken. -/
def Covers (l : Ledger) (es : List Entry) : Prop :=
  ∀ e ∈ es, ∀ id, e.own? = some id → id ∈ l.taken

variable {ids : List String}

theorem Roomy.free (h : Roomy ids l es) (w : Source) : suggestKey w l.taken ∉ l.taken := by
  have hsub : l.taken.dedup ⊆ ids.dedup := fun id hid =>
    List.mem_dedup.2 (h.taken id (List.mem_dedup.1 hid))
  have hlength := (List.subperm_of_subset l.taken.nodup_dedup hsub).length_le
  have hfew := h.few
  exact freeKey_not_mem (by omega)

theorem Roomy.next (h : Roomy ids l (e :: es)) : Roomy ids (l.place e).2 es where
  few := h.few
  taken id hid := by
    rcases (l.place_places e).mem_taken_cases hid with hid | ⟨hnew, rfl⟩
    · exact h.taken id hid
    · exact h.kept (e, (l.place e).1) (List.mem_cons_self ..) _
        ((l.place_places e).id_of_new hnew)
  kept p hp := h.kept p (List.mem_cons_of_mem _ hp)

theorem Roomy.after {pre : List Entry} (h : Roomy ids l (pre ++ es)) :
    Roomy ids (l.after pre) es := by
  induction pre generalizing l with
  | nil => exact h
  | cons b rest ih => exact ih h.next

theorem Covers.next (h : l.Covers (e :: es)) : (l.place e).2.Covers es :=
  fun e' he' id hid => (l.place_grows e).mem (h e' (List.mem_cons_of_mem _ he') id hid)

theorem Covers.taken_of_not_asks (h : l.Covers es) (hp : p ∈ l.resolve es) (hnot : ¬ p.1.Asks)
    {id : String} (hid : filled? p.2.id = some id) : id ∈ l.taken := by
  obtain ⟨l₁, l₂, -, hplaces⟩ := exists_places hp
  rw [hplaces.id_of_not_asks hnot] at hid
  exact h p.1 (fst_mem_of_resolve hp) id hid

theorem id_of_own (hp : p ∈ l.resolve es) {id : String} (hown : p.1.own? = some id) :
    filled? p.2.id = some id := by
  obtain ⟨l₁, l₂, -, hplaces⟩ := exists_places hp
  rw [hplaces.id_of_not_asks fun asks => by rw [asks.2] at hown; cases hown]
  exact hown

theorem New.of_learnt (hnew : l.New p.1) {item id : String} (of : p.1.item? = some item)
    (hid : (l.place e).2.find? item = some id) : l.New e ∧ e.item? = some item := by
  obtain ⟨asks, of', -⟩ := (l.place_places e).find?_learnt (hnew.2 item of) hid
  refine ⟨⟨asks, fun item' h => ?_⟩, of'⟩
  rw [of'] at h
  cases h
  exact hnew.2 item of

/-- What is new to a ledger is new to the next one, or the work between is of the same item and was
new as well. -/
theorem New.next (hnew : l.New p.1) : (l.place e).2.New p.1 ∨ l.New e ∧ e.SameItem p.1 := by
  by_cases hnone : ∀ item, p.1.item? = some item → (l.place e).2.find? item = none
  · exact .inl ⟨hnew.1, hnone⟩
  · push Not at hnone
    obtain ⟨item, of, hsome⟩ := hnone
    obtain ⟨id, hid⟩ := Option.ne_none_iff_exists'.1 hsome
    obtain ⟨hnew', of'⟩ := hnew.of_learnt of hid
    exact .inr ⟨hnew', item, of', of⟩

/-- A work at which a new key is made up, with the works before it. -/
def MintedAt (l : Ledger) (es pre : List Entry) (e : Entry) : Prop :=
  (∃ post, es = pre ++ e :: post) ∧ (l.after pre).New e

/-- A new key is the one suggested for the first work of the item. -/
theorem exists_mintedAt (hp : p ∈ l.resolve es) (hnew : l.New p.1) :
    ∃ pre e, l.MintedAt es pre e ∧ (∀ item, p.1.item? = some item → e.item? = some item) ∧
      filled? p.2.id = some (suggestKey e.work (l.after pre).taken) := by
  induction es generalizing l with
  | nil => cases hp
  | cons b rest ih =>
    rcases List.mem_cons.1 hp with rfl | htail
    · exact ⟨[], b, ⟨⟨rest, rfl⟩, hnew⟩, fun _ of => of, (l.place_places b).id_of_new hnew⟩
    · rcases hnew.next (e := b) with hlater | ⟨hnew', hsame⟩
      · obtain ⟨pre, e, ⟨⟨post, hpost⟩, hminted⟩, hitem, hid⟩ := ih htail hlater
        exact ⟨b :: pre, e, ⟨⟨post, by rw [hpost, List.cons_append]⟩, hminted⟩, hitem, hid⟩
      · -- the item got its key from this very work
        refine ⟨[], b, ⟨⟨rest, rfl⟩, hnew'⟩, fun item of => ?_, ?_⟩
        · obtain ⟨item', hb, hp'⟩ := hsame
          rw [of] at hp'
          cases hp'
          exact hb
        · rw [← id_of_sameItem_head htail hnew'.1 hnew.1 hsame]
          exact (l.place_places b).id_of_new hnew'

theorem after_grows (l : Ledger) (es : List Entry) : l.Grows (l.after es) := by
  induction es generalizing l with
  | nil => exact .refl l
  | cons e rest ih => exact (l.place_grows e).trans (ih _)

theorem id_of_new (room : Roomy ids l es) (hp : p ∈ l.resolve es) (hnew : l.New p.1) :
    ∃ id, filled? p.2.id = some id ∧ id ∉ l.taken := by
  obtain ⟨pre, e, ⟨⟨post, rfl⟩, -⟩, -, hid⟩ := exists_mintedAt hp hnew
  refine ⟨_, hid, fun htaken => ?_⟩
  exact room.after.free e.work ((l.after_grows pre).mem htaken)

/-- A key that is new after a work is not the key of that work. -/
theorem ne_of_new_later (room : Roomy ids l (e :: es)) (closed : l.Closed)
    (covers : l.Covers (e :: es)) (hp : p ∈ (l.place e).2.resolve es)
    (hlater : (l.place e).2.New p.1) : (l.place e).1.id ≠ p.2.id := by
  intro hsame
  have hplaces := l.place_places e
  have hown : ∀ id, e.own? = some id → id ∈ l.taken := covers e (List.mem_cons_self ..)
  obtain ⟨id, hid, hfree⟩ := id_of_new room.next hp hlater
  rw [← hsame] at hid
  -- either way the key of the work is taken once the work is dealt with
  by_cases hnew : l.New e
  · rw [hplaces.id_of_new hnew] at hid
    cases hid
    exact hfree (hplaces.suggestKey_mem hnew)
  · exact hfree (hplaces.mem_taken (hplaces.mem_taken_of_not_new closed hown hnew hid))

/-- A work after one that gets a new key has the same key only as a work of the same item. -/
theorem sameItem_of_new_before (room : Roomy ids l (e :: es)) (closed : l.Closed)
    (covers : l.Covers (e :: es)) (hp : p ∈ (l.place e).2.resolve es) (hnew : l.New e)
    (hlater : ¬ (l.place e).2.New p.1) (hsame : (l.place e).1.id = p.2.id) : e.SameItem p.1 := by
  have hplaces := l.place_places e
  have hkey := hplaces.id_of_new hnew
  have hfree := room.free e.work
  rw [hsame] at hkey
  by_cases hasks : p.1.Asks
  · -- it got the key of its item, which the item did not have before
    obtain ⟨item, id, of, hfind⟩ := exists_of_not_new hasks hlater
    have hid := id_of_found hp hasks of hfind
    rw [(filled?_eq_some.1 hkey).1] at hid
    cases hid
    cases hbefore : l.find? item with
    | none => exact ⟨item, (hplaces.find?_learnt hbefore hfind).2.1, of⟩
    | some old =>
      rw [hplaces.find?_stays hbefore] at hfind
      cases hfind
      exact (hfree (closed item _ hbefore)).elim
  · exact (hfree (covers.taken_of_not_asks (List.mem_cons_of_mem _ hp) hasks hkey)).elim

theorem sameItem_of_new_head (room : Roomy ids l (e :: es)) (closed : l.Closed)
    (covers : l.Covers (e :: es)) (hp : p ∈ (l.place e).2.resolve es)
    (hnew : l.New e ∨ l.New p.1) (hsame : (l.place e).1.id = p.2.id) : e.SameItem p.1 := by
  by_cases hlater : (l.place e).2.New p.1
  · exact (ne_of_new_later room closed covers hp hlater hsame).elim
  · rcases hnew with hnew | hnew
    · exact sameItem_of_new_before room closed covers hp hnew hlater hsame
    · exact (hnew.next.resolve_left hlater).2

/-- A key that is new for one of two works is on both only if they are of one item. -/
theorem sameItem_of_new (room : Roomy ids l es) (closed : l.Closed) (covers : l.Covers es) :
    (l.resolve es).Pairwise fun p q => l.New p.1 ∨ l.New q.1 → p.2.id = q.2.id →
      p.1.SameItem q.1 := by
  induction es generalizing l with
  | nil => exact .nil
  | cons e rest ih =>
    -- what holds of the ledger holds of the next one, which the induction goes on with
    have hhead : ∀ q ∈ (l.place e).2.resolve rest, l.New e ∨ l.New q.1 →
        (l.place e).1.id = q.2.id → e.SameItem q.1 :=
      fun q hq => sameItem_of_new_head room closed covers hq
    refine .cons hhead ((ih room.next ((l.place_places e).closed closed) covers.next).imp_of_mem ?_)
    intro p q hp hq hrest hnew hsame
    -- where the first work was new too, both are compared with that one
    rcases hnew with hnew | hnew
    · rcases hnew.next (e := e) with hlater | ⟨hnew', hitem⟩
      · exact hrest (.inl hlater) hsame
      · have hkey := id_of_sameItem_head hp hnew'.1 hnew.1 hitem
        exact hitem.of_left (hhead q hq (.inl hnew') (hkey.trans hsame))
    · rcases hnew.next (e := e) with hlater | ⟨hnew', hitem⟩
      · exact hrest (.inr hlater) hsame
      · have hkey := id_of_sameItem_head hq hnew'.1 hnew.1 hitem
        exact (hhead p hp (.inl hnew') (hkey.trans hsame.symm)).of_left hitem

end Ledger

/-! ## 3. Whole answers -/

/-- The citation key that an item has among the carried works: that of its first work there that has
one. -/
def carriedKey? (ms : List Merged) (item : String) : Option String :=
  (entries ms).findSome? fun e =>
    if e.merged.fresh = false ∧ e.item? = some item then e.own? else none

theorem tagWorks_eq_resolve {m : Merged} (hfresh : m.fresh = true) (l : Ledger)
    (works : List Source) (rest : List Entry) :
    (l.resolve (works.map (Entry.mk m) ++ rest)).map Prod.snd =
      (tagWorks m.collection.key l works).1 ++
        ((tagWorks m.collection.key l works).2.resolve rest).map Prod.snd := by
  induction works generalizing l with
  | nil => rfl
  | cons w works ih =>
    have hplace : l.place ⟨m, w⟩ = (tagged (l.keyOf w).1 m.collection.key w, (l.keyOf w).2) := by
      unfold Ledger.place
      exact if_pos hfresh
    simp only [List.map_cons, List.cons_append, Ledger.resolve, hplace, ih, tagWorks]

theorem carried_eq_resolve {m : Merged} (hcarried : m.fresh = false) (l : Ledger)
    (works : List Source) (rest : List Entry) :
    (l.resolve (works.map (Entry.mk m) ++ rest)).map Prod.snd =
      works ++ (l.resolve rest).map Prod.snd := by
  induction works with
  | nil => rfl
  | cons w works ih =>
    have hplace : l.place ⟨m, w⟩ = (w, l) := by
      unfold Ledger.place
      exact if_neg (by simp [hcarried])
    simp only [List.map_cons, List.cons_append, Ledger.resolve, hplace, ih]

theorem works_tagFresh (l : Ledger) (ms : List Merged) :
    (tagFresh l ms).flatMap Collection.works = (l.resolve (entries ms)).map Prod.snd := by
  induction ms generalizing l with
  | nil => rfl
  | cons m rest ih =>
    unfold tagFresh entries
    rw [List.flatMap_cons]
    by_cases hfresh : m.fresh = true
    · rw [if_pos hfresh, tagWorks_eq_resolve hfresh, List.flatMap_cons, ih]
      rfl
    · have hcarried : m.fresh = false := by simpa using hfresh
      rw [if_neg hfresh, carried_eq_resolve hcarried, List.flatMap_cons, ih]
      rfl

theorem works_settle (ms : List Merged) :
    Store.works ⟨settle ms⟩ = ((Ledger.ofMerged ms).resolve (entries ms)).map Prod.snd :=
  works_tagFresh ..

/-- The entries of an answer side by side with the works that are kept. -/
theorem zip_entries_works (ms : List Merged) :
    (entries ms).zip (Store.works ⟨settle ms⟩) = (Ledger.ofMerged ms).resolve (entries ms) := by
  have hworks := works_settle ms
  have hentries := Ledger.resolve_fst (.ofMerged ms) (entries ms)
  generalize (Ledger.ofMerged ms).resolve (entries ms) = pairs at hworks hentries ⊢
  rw [hworks, ← hentries, List.zip_map']
  exact List.map_id _

/-! ## 4. What an answer comes with -/

/-- The works of an answer were sent, or they are carried over from what is known now or from what
was known when the remote was asked. -/
theorem merged_origin {useCache : Bool} {store previous : Store} {sent : List Collection}
    {e : Entry} (he : e ∈ entries (mergeAll useCache store previous sent)) :
    if e.merged.fresh then ∃ c ∈ sent, e.work ∈ c.works
    else e.work ∈ store.works ∨ e.work ∈ previous.works := by
  obtain ⟨m, hm, hmem⟩ := List.mem_flatMap.1 he
  obtain ⟨w, hw, rfl⟩ := List.mem_map.1 hmem
  obtain ⟨c, hc, rfl⟩ := List.mem_map.1 hm
  unfold mergeOne at hw ⊢
  split at hw
  next known hname =>
    obtain ⟨-, hknown, -⟩ := unchanged?_some hname
    exact .inl (Store.mem_works.2 ⟨known, hknown, hw⟩)
  next =>
    split at hw
    next known _ hkey => exact .inr (Store.mem_works.2 ⟨known, (Store.findByKey?_some hkey).1, hw⟩)
    next => exact ⟨c, hc, hw⟩

theorem ofMerged_eq_foldl (ms : List Merged) :
    Ledger.ofMerged ms =
      (entries ms).foldl (fun l e => l.noteWork (!e.merged.fresh) e.work) {} := by
  unfold Ledger.ofMerged entries
  rw [List.foldl_flatMap]
  simp only [List.foldl_map]

theorem noteWork_taken (l : Ledger) (carried : Bool) (w : Source) (id : String) :
    id ∈ (l.noteWork carried w).taken ↔ id ∈ l.taken ∨ filled? w.id = some id := by
  unfold Ledger.noteWork
  cases filled? w.id with
  | none => simp
  | some own =>
    rw [Ledger.note_taken, List.mem_cons, Option.some.injEq, eq_comm, or_comm]

theorem noteWork_find? (l : Ledger) (e : Entry) (item : String) :
    (l.noteWork (!e.merged.fresh) e.work).find? item =
      (l.find? item).or
        (if e.merged.fresh = false ∧ e.item? = some item then e.own? else none) := by
  unfold Ledger.noteWork Entry.own? Entry.item?
  cases hid : filled? e.work.id with
  | none => simp
  | some id =>
    rw [Ledger.note_find?]
    cases e.merged.fresh <;> simp

theorem mem_ofMerged_taken {ms : List Merged} {id : String} :
    id ∈ (Ledger.ofMerged ms).taken ↔ ∃ e ∈ entries ms, e.own? = some id := by
  rw [ofMerged_eq_foldl]
  -- over any ledger, since the fold carries one along
  have hfold : ∀ (es : List Entry) (l : Ledger),
      id ∈ (es.foldl (fun l e => l.noteWork (!e.merged.fresh) e.work) l).taken ↔
        id ∈ l.taken ∨ ∃ e ∈ es, e.own? = some id := by
    intro es
    induction es with
    | nil => simp
    | cons e rest ih =>
      intro l
      rw [List.foldl_cons, ih, noteWork_taken]
      simp [Entry.own?, or_assoc]
  simpa using hfold (entries ms) {}

theorem ofMerged_find? (ms : List Merged) (item : String) :
    (Ledger.ofMerged ms).find? item = carriedKey? ms item := by
  rw [ofMerged_eq_foldl]
  unfold carriedKey?
  have hfold : ∀ (es : List Entry) (l : Ledger),
      (es.foldl (fun l e => l.noteWork (!e.merged.fresh) e.work) l).find? item =
        (l.find? item).or (es.findSome? fun e =>
          if e.merged.fresh = false ∧ e.item? = some item then e.own? else none) := by
    intro es
    induction es with
    | nil => simp
    | cons e rest ih =>
      intro l
      rw [List.foldl_cons, ih, noteWork_find?, List.findSome?_cons, Option.or_assoc]
      cases (if e.merged.fresh = false ∧ e.item? = some item then e.own? else none) <;> rfl
  exact (hfold (entries ms) {}).trans (by simp [Ledger.find?])

theorem exists_of_carriedKey? {ms : List Merged} {item id : String}
    (h : carriedKey? ms item = some id) :
    ∃ e ∈ entries ms, e.merged.fresh = false ∧ e.item? = some item ∧ e.own? = some id := by
  obtain ⟨e, he, hkey⟩ := List.exists_of_findSome?_eq_some h
  split at hkey
  next hcarried => exact ⟨e, he, hcarried.1, hcarried.2, hkey⟩
  next => cases hkey

theorem ofMerged_closed (ms : List Merged) : (Ledger.ofMerged ms).Closed := by
  intro item id hid
  rw [ofMerged_find?] at hid
  obtain ⟨e, he, -, -, hown⟩ := exists_of_carriedKey? hid
  exact mem_ofMerged_taken.2 ⟨e, he, hown⟩

theorem ofMerged_covers (ms : List Merged) : (Ledger.ofMerged ms).Covers (entries ms) :=
  fun e he _ hown => mem_ofMerged_taken.2 ⟨e, he, hown⟩

/-! ## 5. Resolution -/

/-- The citation keys of the works of a store. -/
def Store.citationKeys (s : Store) : List String := s.works.filterMap fun w => filled? w.id

/-- A fresh work that comes without a citation key, of no item that has one among the carried
works. -/
def Entry.Mints (ms : List Merged) (e : Entry) : Prop :=
  e.Asks ∧ ∀ item, e.item? = some item → carriedKey? ms item = none

/-- What becomes of the works of a merged answer. -/
structure Resolved (ms : List Merged) (pairs : List (Entry × Source)) : Prop where
  /-- A carried work is left alone. -/
  carried : ∀ p ∈ pairs, p.1.merged.fresh = false → p.2 = p.1.work
  /-- A fresh work is tagged: all but its citation key, its provider and, where it comes without
  any, its collections stays. -/
  tagged : ∀ p ∈ pairs, p.1.merged.fresh = true →
    ∃ id, p.2 = tagged id p.1.merged.collection.key p.1.work
  /-- A citation key that a work comes with is kept. -/
  own : ∀ p ∈ pairs, ∀ id, p.1.own? = some id → p.2.id = some id
  /-- A work without one gets that of a carried work of its item. -/
  inherited : ∀ p ∈ pairs, p.1.Asks → ∀ item id, p.1.item? = some item →
    carriedKey? ms item = some id → p.2.id = some id
  /-- Works of one item that come without a citation key get the same one. -/
  shared : ∀ p ∈ pairs, ∀ q ∈ pairs, p.1.Asks → q.1.Asks → p.1.SameItem q.1 → p.2.id = q.2.id
  /-- A minted key is none that a work of the answer comes with. -/
  new : ∀ p ∈ pairs, p.1.Mints ms →
    ∃ id, filled? p.2.id = some id ∧ ∀ e ∈ entries ms, e.own? ≠ some id
  /-- Wherever two works stand, a minted key is on both of them only if they are of one item. -/
  apart : pairs.Pairwise fun p q => p.1.Mints ms ∨ q.1.Mints ms → p.2.id = q.2.id →
    p.1.SameItem q.1

theorem new_ofMerged {ms : List Merged} {e : Entry} :
    (Ledger.ofMerged ms).New e ↔ e.Mints ms := by
  unfold Ledger.New Entry.Mints
  simp only [ofMerged_find?]

theorem mem_citationKeys {ms : List Merged} {id : String} :
    id ∈ Store.citationKeys ⟨settle ms⟩ ↔
      ∃ p ∈ (Ledger.ofMerged ms).resolve (entries ms), filled? p.2.id = some id := by
  unfold Store.citationKeys
  rw [works_settle, List.mem_filterMap]
  simp only [List.mem_map]
  constructor
  · rintro ⟨w, ⟨p, hp, rfl⟩, hid⟩
    exact ⟨p, hp, hid⟩
  · rintro ⟨p, hp, hid⟩
    exact ⟨p.2, ⟨p, hp, rfl⟩, hid⟩

theorem ofMerged_roomy {ms : List Merged}
    (few : (Store.citationKeys ⟨settle ms⟩).dedup.length < 50000) :
    Ledger.Roomy (Store.citationKeys ⟨settle ms⟩) (.ofMerged ms) (entries ms) where
  few := Nat.lt_of_lt_of_le few (by decide)
  taken id hid := by
    -- a key that a work comes with is still there in the end
    obtain ⟨e, he, hown⟩ := mem_ofMerged_taken.1 hid
    obtain ⟨p, hp, rfl⟩ := (Ledger.ofMerged ms).exists_of_mem he
    exact mem_citationKeys.2 ⟨p, hp, Ledger.id_of_own hp hown⟩
  kept p hp id hid := mem_citationKeys.2 ⟨p, hp, hid⟩

theorem resolved {ms : List Merged}
    (few : (Store.citationKeys ⟨settle ms⟩).dedup.length < 50000) :
    Resolved ms ((entries ms).zip (Store.works ⟨settle ms⟩)) := by
  have hroomy := ofMerged_roomy few
  rw [zip_entries_works]
  refine ⟨?_, ?_, ?_, ?_, ?_, ?_, ?_⟩
  · exact fun p hp hcarried => Ledger.work_of_carried hp hcarried
  · intro p hp hfresh
    obtain ⟨_, _, -, hplaces⟩ := Ledger.exists_places hp
    exact hplaces.tagged_of_fresh hfresh
  · intro p hp id hown
    exact (filled?_eq_some.1 (Ledger.id_of_own hp hown)).1
  · intro p hp asks item id of hcarried
    exact Ledger.id_of_found hp asks of (by rw [ofMerged_find?, hcarried])
  · intro p hp q hq asks asks' same
    exact Ledger.id_of_sameItem hp hq asks asks' same
  · intro p hp hmints
    obtain ⟨id, hid, hfree⟩ := Ledger.id_of_new hroomy hp (new_ofMerged.2 hmints)
    exact ⟨id, hid, fun e he hown => hfree (mem_ofMerged_taken.2 ⟨e, he, hown⟩)⟩
  · refine (Ledger.sameItem_of_new hroomy (ofMerged_closed ms) (ofMerged_covers ms)).imp ?_
    intro p q hapart hmints hsame
    exact hapart (hmints.imp new_ofMerged.2 new_ofMerged.2) hsame

/-- In every cycle with fewer than 50000 citation keys the collections are kept in order, each with
the works of a known one or with those it was sent with; every work is resolved; and the search for
a free key ends with the first letter that is free. -/
theorem citation_keys_resolve (useCache : Bool) (store previous : Store) (sent : List Collection)
    (few : (Store.citationKeys ⟨settle (mergeAll useCache store previous sent)⟩).dedup.length <
      50000) :
    List.Forall₂ (Keeps useCache store previous) sent
        (settle (mergeAll useCache store previous sent)) ∧
      (entries (mergeAll useCache store previous sent)).length =
        (Store.works ⟨settle (mergeAll useCache store previous sent)⟩).length ∧
      Resolved (mergeAll useCache store previous sent)
        ((entries (mergeAll useCache store previous sent)).zip
          (Store.works ⟨settle (mergeAll useCache store previous sent)⟩)) ∧
      ∀ (base : String) (taken : List String), taken.dedup.length < 50000 →
        freeKey base taken ∉ taken ∧ (base ∉ taken → freeKey base taken = base) ∧
          (base ∈ taken → ∃ n, n ≤ taken.dedup.length ∧ freeKey base taken = lettered base n ∧
            ∀ m, m < n → lettered base m ∈ taken) := by
  refine ⟨settle_mergeAll .., ?_, resolved few, fun base taken hfew => ?_⟩
  · have hlength := congrArg List.length (Ledger.resolve_fst
      (.ofMerged (mergeAll useCache store previous sent))
      (entries (mergeAll useCache store previous sent)))
    rw [works_settle, List.length_map]
    rw [List.length_map] at hlength
    exact hlength.symm
  · have hfew' : taken.dedup.length < letterCount := Nat.lt_of_lt_of_le hfew (by decide)
    refine ⟨freeKey_not_mem hfew', freeKey_of_not_mem, fun hbase => ?_⟩
    obtain ⟨n, hn, hfind⟩ := exists_freeLetter? base hfew'
    refine ⟨n, hn, ?_, (freeLetter?_eq_some.1 hfind).2.2⟩
    rw [freeKey_of_mem hbase, hfind]
    rfl

/-! ## 6. Books of one author and year -/

def smith (id item : Option String) : Source where
  id := id
  key := item
  creators := [{ family := some "Smith" }]
  year := some "2020"

/-- A store with a collection that holds one of them. -/
def shelf : Store where
  collections := [{ key := "A", name := "A", version := 1
                    items := some [smith (some "smith2020") (some "I1")] }]

/-- An answer in which that collection is unchanged and another one is new. -/
def delivery : List Collection :=
  [{ key := "A", name := "A", version := 1 },
    { key := "B", name := "B", version := 1
      items := some [smith (some "own") none, smith none (some "I2"), smith none (some "I1"),
        smith none none] }]

/-- The book that is carried over lends its key to its copy, and the two others get new ones. -/
theorem citation_keys_resolve_delivery :
    (Store.works ⟨settle (mergeAll true shelf shelf delivery)⟩).map (·.id) =
        [some "smith2020", some "own", some "smith2020a", some "smith2020", some "smith2020b"] ∧
      Resolved (mergeAll true shelf shelf delivery)
        ((entries (mergeAll true shelf shelf delivery)).zip
          (Store.works ⟨settle (mergeAll true shelf shelf delivery)⟩)) := by
  have few : (Store.citationKeys
      ⟨settle (mergeAll true shelf shelf delivery)⟩).dedup.length < 50000 := by decide
  exact ⟨by decide, (citation_keys_resolve true shelf shelf delivery few).2.2.1⟩

end CiteSync.Session
