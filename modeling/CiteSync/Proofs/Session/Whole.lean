import CiteSync.Proofs.Session.Interleaving
import CiteSync.Proofs.Session.Resolution
import Mathlib.Data.List.Induction

/-!
# Whole stores

Whatever a remote answers, what is stored can be presented: every collection has its works, and
every work has a citation key, the provider's name and a collection.  Fresh works get all that when
they are settled.  Works that are carried over got it in an earlier cycle, which is why the stores
that the waiting cycles remember have to be whole as well.
-/

namespace CiteSync.Session

open Library Remote FrontMatter Citation

/-! ## 1. Stores -/

/-- A work as it is stored: with a citation key, the name of its provider and a collection. -/
structure Presentable (w : Source) : Prop where
  id : ∃ id, w.id = some id ∧ id ≠ ""
  provider : w.provider = some providerKey
  collections : w.collectionKeys ≠ []

/-- A collection with its works, all of which can be presented. -/
def Complete (c : Collection) : Prop := ∃ works, c.items = some works ∧ ∀ w ∈ works, Presentable w

def Store.Whole (s : Store) : Prop := ∀ c ∈ s.collections, Complete c

theorem Store.Whole.empty : Store.Whole .empty := fun _ hc => (List.not_mem_nil hc).elim

theorem Store.Whole.presentable {s : Store} (h : s.Whole) {w : Source} (hw : w ∈ s.works) :
    Presentable w := by
  obtain ⟨c, hc, hw⟩ := Store.mem_works.1 hw
  obtain ⟨works, hitems, hall⟩ := h c hc
  rw [Collection.works, hitems] at hw
  exact hall w hw

theorem Store.Whole.of_works {s : Store} (bodies : ∀ c ∈ s.collections, c.items ≠ none)
    (works : ∀ w ∈ s.works, Presentable w) : s.Whole := by
  intro c hc
  obtain ⟨body, hitems⟩ := Option.ne_none_iff_exists'.1 (bodies c hc)
  refine ⟨body, hitems, fun w hw => works w (Store.mem_works.2 ⟨c, hc, ?_⟩)⟩
  rw [Collection.works, hitems]
  exact hw

/-! ## 2. Citation keys that are not empty -/

namespace Ledger

variable {l l' : Ledger} {e : Entry} {es : List Entry} {w : Source}

def Solid (l : Ledger) : Prop := ∀ id ∈ l.taken, id ≠ ""

theorem Places.solid (h : l.Places e w l') (solid : l.Solid) : l'.Solid := by
  intro id hid
  rcases h.mem_taken_cases hid with hid | ⟨-, rfl⟩
  · exact solid id hid
  · exact (mayGet_suggestKey ..).ne_empty

theorem Places.filled (h : l.Places e w l') (closed : l.Closed) (solid : l.Solid)
    (hfresh : e.merged.fresh = true) : ∃ id, w.id = some id ∧ id ≠ "" := by
  cases h with
  | carried known =>
    rw [hfresh] at known
    cases known
  | own _ has => exact ⟨_, rfl, (filled?_eq_some.1 has).2⟩
  | found _ _ has => exact ⟨_, rfl, solid _ (closed _ _ has)⟩
  | minted => exact ⟨_, rfl, (mayGet_suggestKey ..).ne_empty⟩

theorem filled_of_resolve (closed : l.Closed) (solid : l.Solid) {p : Entry × Source}
    (hp : p ∈ l.resolve es) (hfresh : p.1.merged.fresh = true) :
    ∃ id, p.2.id = some id ∧ id ≠ "" := by
  induction es generalizing l with
  | nil => cases hp
  | cons e rest ih =>
    have hplaces := l.place_places e
    rcases List.mem_cons.1 hp with rfl | hp
    · exact hplaces.filled closed solid hfresh
    · exact ih (hplaces.closed closed) (hplaces.solid solid) hp

end Ledger

theorem ofMerged_solid (ms : List Merged) : (Ledger.ofMerged ms).Solid := by
  intro id hid
  obtain ⟨e, -, hown⟩ := mem_ofMerged_taken.1 hid
  exact (filled?_eq_some.1 hown).2

theorem tagged_presentable {id : String} (hid : id ≠ "") (collectionKey : String) (w : Source) :
    Presentable (tagged id collectionKey w) where
  id := ⟨id, rfl, hid⟩
  provider := rfl
  collections := by
    show (if w.collectionKeys.isEmpty then [collectionKey] else w.collectionKeys) ≠ []
    split
    next => exact List.cons_ne_nil _ _
    next hnot => exact fun hnil => hnot (List.isEmpty_iff.2 hnil)

theorem presentable_of_fresh {ms : List Merged} {p : Entry × Source}
    (hp : p ∈ (Ledger.ofMerged ms).resolve (entries ms)) (hfresh : p.1.merged.fresh = true) :
    Presentable p.2 := by
  obtain ⟨l₁, l₂, -, hplaces⟩ := Ledger.exists_places hp
  obtain ⟨id, hid, hne⟩ :=
    Ledger.filled_of_resolve (ofMerged_closed ms) (ofMerged_solid ms) hp hfresh
  obtain ⟨id', htagged⟩ := hplaces.tagged_of_fresh hfresh
  rw [htagged] at hid ⊢
  cases hid
  exact tagged_presentable hne ..

/-! ## 3. Merges -/

variable {useCache : Bool} {store previous : Store} {sent : List Collection}

theorem Keeps.items_ne_none (hstore : store.Whole) (hprevious : previous.Whole)
    {c kept : Collection} (h : Keeps useCache store previous c kept) : kept.items ≠ none := by
  cases h with
  | byName found =>
    obtain ⟨-, hknown, -⟩ := unchanged?_some found
    obtain ⟨works, hitems, -⟩ := hstore _ hknown
    simp [hitems]
  | byKey _ _ found =>
    obtain ⟨works, hitems, -⟩ := hprevious _ (Store.findByKey?_some found).1
    simp [hitems]
  | fresh => simp

/-- A merge of any answer with whole stores is whole. -/
theorem settle_whole (hstore : store.Whole) (hprevious : previous.Whole) :
    Store.Whole ⟨settle (mergeAll useCache store previous sent)⟩ := by
  refine Store.Whole.of_works ?_ ?_
  · intro kept hkept
    obtain ⟨c, -, hkeeps⟩ := forall₂_exists_left (settle_mergeAll ..) hkept
    exact hkeeps.items_ne_none hstore hprevious
  · intro w hw
    rw [works_settle] at hw
    obtain ⟨p, hp, rfl⟩ := List.mem_map.1 hw
    -- only the stores know that a carried work can be presented, as it is not looked at again
    cases hfresh : p.1.merged.fresh with
    | true => exact presentable_of_fresh hp hfresh
    | false =>
      rw [Ledger.work_of_carried hp hfresh]
      have horigin := merged_origin (Ledger.fst_mem_of_resolve hp)
      rw [if_neg (by simp [hfresh])] at horigin
      exact horigin.elim hstore.presentable hprevious.presentable

/-! ## 4. Histories -/

/-- What may happen to the session of a document: loads begin, answers arrive and the document is
closed, and the collections may be forgotten at any time. -/
inductive Occurrence
  | event (event : Event)
  | reset

namespace Traffic

variable {t : Traffic} {P : Store → Prop}

def meet (t : Traffic) : Occurrence → Traffic
  | .event event => t.step event
  | .reset => { t with session := t.session.reset }

def history (t : Traffic) (occurrences : List Occurrence) : Traffic := occurrences.foldl meet t

/-- The store has a property, and so has every store that a cycle remembers. -/
structure Holds (P : Store → Prop) (t : Traffic) : Prop where
  session : P t.session.store
  pending : ∀ cycle ∈ t.cycles, ∀ request, cycle.stage.request? = some request →
    P request.previous

theorem Holds.pending_set (h : t.Holds P) {number : Nat} {document : Document} {stage next : Stage}
    (hat : t.cycles[number]? = some ⟨document, stage⟩)
    (hnext : ∀ request, next.request? = some request → stage.request? = some request) :
    ∀ cycle ∈ t.cycles.set number ⟨document, next⟩, ∀ request,
      cycle.stage.request? = some request → P request.previous := by
  intro cycle hcycle request hrequest
  rcases List.mem_or_eq_of_mem_set hcycle with hold | rfl
  · exact h.pending cycle hold request hrequest
  · exact h.pending _ (List.mem_of_getElem? hat) request (hnext request hrequest)

theorem Holds.pending_append (h : t.Holds P) {document : Document} {stage : Stage}
    (hstage : ∀ request, stage.request? = some request → P request.previous) :
    ∀ cycle ∈ t.cycles ++ [⟨document, stage⟩], ∀ request,
      cycle.stage.request? = some request → P request.previous := by
  intro cycle hcycle request hrequest
  rcases List.mem_append.1 hcycle with hold | hnew
  · exact h.pending cycle hold request hrequest
  · rw [List.mem_singleton.1 hnew] at hrequest
    exact hstage request hrequest

/-- How a merge keeps a property of stores, whatever is sent. -/
def MergesKeep (P : Store → Prop) : Prop :=
  ∀ useCache store previous sent, P store → P previous →
    P ⟨settle (mergeAll useCache store previous sent)⟩

theorem atArrival_holds {s : Session} (empty : P .empty) (h : P s.store) {α : Type}
    (arrival : Arrival α) : P (s.atArrival arrival).store := by
  rcases s.atArrival_cases arrival with ha | ha
  · rw [ha]
    exact h
  · rw [ha, close_store]
    split
    · exact h
    · exact empty

theorem conclude_holds {s : Session} (empty : P .empty) (merges : MergesKeep P) (h : P s.store)
    (document : Document) (elapsed : Float) {request : Request} (hprevious : P request.previous)
    (arrival : Arrival (Reply (List Collection))) :
    P (s.conclude document elapsed request arrival).session.store := by
  have hstore := (s.conclude_store document elapsed request arrival).2
  have harrived := atArrival_holds empty h arrival
  rw [hstore]
  split
  · exact merges _ _ _ _ harrived hprevious
  · exact harrived

theorem Holds.load (empty : P .empty) (h : t.Holds P) (document : Document) (given : Option Scope) :
    (t.load document given).Holds P := by
  unfold Traffic.load
  split
  next => exact ⟨h.session, h.pending_append fun _ hnone => by cases hnone⟩
  next scope _ =>
    by_cases hscope : scope = .nothing
    · have hstart : t.session.start scope = (.disabled t.session.holdsAnything,
          ({ t.session with enabled := false }.reset).countCycle) := if_pos hscope
      rw [hstart]
      exact ⟨empty, h.pending_append fun _ hnone => by cases hnone⟩
    · rw [t.session.start_asking hscope]
      -- the cycle remembers the store as it is now
      refine ⟨h.session, h.pending_append fun request hrequest => ?_⟩
      cases hrequest
      exact h.session

theorem Holds.hearTree (empty : P .empty) (h : t.Holds P) (number : Nat) (elapsed : Float)
    (arrival : Arrival (Reply (List Spec))) : (t.hearTree number elapsed arrival).Holds P := by
  unfold Traffic.hearTree
  split
  next document request hat =>
    refine ⟨?_, h.pending_set hat fun next hnext => ?_⟩
    · show P (t.session.hearTree document elapsed arrival).session.store
      rw [(t.session.hearTree_store document elapsed arrival).1]
      exact atArrival_holds empty h.session arrival
    · split at hnext
      · exact hnext
      · cases hnext
  next => exact h

theorem Holds.hearCollections (empty : P .empty) (merges : MergesKeep P) (h : t.Holds P)
    (number : Nat) (elapsed : Float) (arrival : Arrival (Reply (List Collection))) :
    (t.hearCollections number elapsed arrival).Holds P := by
  unfold Traffic.hearCollections
  split
  next document request hat =>
    have hprevious : P request.previous := h.pending _ (List.mem_of_getElem? hat) request rfl
    exact ⟨conclude_holds empty merges h.session document elapsed hprevious arrival,
      h.pending_set hat fun _ hnone => by cases hnone⟩
  next => exact h

theorem Holds.meet (empty : P .empty) (merges : MergesKeep P) (h : t.Holds P)
    (occurrence : Occurrence) : (t.meet occurrence).Holds P := by
  cases occurrence with
  | reset => exact ⟨empty, h.pending⟩
  | event event =>
    cases event with
    | load document given => exact h.load empty document given
    | tree number elapsed arrival => exact h.hearTree empty number elapsed arrival
    | collections number elapsed arrival =>
      exact h.hearCollections empty merges number elapsed arrival
    | close =>
      refine ⟨?_, h.pending⟩
      show P t.session.close.store
      rw [close_store]
      split
      · exact h.session
      · exact empty

/-- A property of stores that every merge keeps holds throughout the history of a document. -/
theorem holds_history (empty : P .empty) (merges : MergesKeep P) (path : Option String)
    (occurrences : List Occurrence) : ((opened path).history occurrences).Holds P := by
  induction occurrences using List.reverseRecOn with
  | nil => exact ⟨empty, fun _ hcycle => (List.not_mem_nil hcycle).elim⟩
  | append_singleton first occurrence ih =>
    have hsnoc : (opened path).history (first ++ [occurrence]) =
        ((opened path).history first).meet occurrence := List.foldl_append
    rw [hsnoc]
    exact ih.meet empty merges occurrence

end Traffic

/-- The session of a document with this history. -/
def lived (path : Option String) (occurrences : List Occurrence) : Session :=
  ((Traffic.opened path).history occurrences).session

/-- Whatever happens to a document, its store is whole. -/
theorem lived_whole (path : Option String) (occurrences : List Occurrence) :
    (lived path occurrences).store.Whole :=
  (Traffic.holds_history .empty (fun _ _ _ _ hstore hprevious => settle_whole hstore hprevious) path
    occurrences).session

end CiteSync.Session
