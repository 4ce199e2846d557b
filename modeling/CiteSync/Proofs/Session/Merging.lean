import CiteSync.Proofs.Lists
import CiteSync.Session.Merge

/-!
# What a merge keeps

A merge keeps the collections of an answer in their order.  Each keeps the works of the known
collection of its name, or of its key, or the works it was sent with, tagged.
-/

namespace CiteSync.Session

open Library

/-! ## Tagged works -/

/-- A work is the one that was sent, tagged.  The citation key that it came with stays. -/
def TaggedFrom (collectionKey : String) (sent kept : Source) : Prop :=
  ∃ id, kept = tagged id collectionKey sent ∧ ∀ own, filled? sent.id = some own → id = own

/-- The works of a collection are the ones that were sent for it, tagged. -/
def KeptFrom (collectionKey : String) (sent : List Source) (kept : Option (List Source)) : Prop :=
  ∃ works, kept = some works ∧ List.Forall₂ (TaggedFrom collectionKey) sent works

theorem Ledger.keyOf_own {l : Ledger} {w : Source} {own : String} (h : filled? w.id = some own) :
    (l.keyOf w).1 = own := by
  unfold Ledger.keyOf
  rw [h]

theorem tagWorks_taggedFrom (collectionKey : String) (l : Ledger) (works : List Source) :
    List.Forall₂ (TaggedFrom collectionKey) works (tagWorks collectionKey l works).1 := by
  -- the ledger grows from work to work, but no tag depends on what is in it
  induction works generalizing l with
  | nil => exact .nil
  | cons w rest ih => exact .cons ⟨_, rfl, fun _ h => Ledger.keyOf_own h⟩ (ih _)

/-! ## Settling -/

/-- What becomes of a merged collection: fresh works are tagged, all else stays. -/
def Merged.Settles (m : Merged) (kept : Collection) : Prop :=
  if m.fresh then
    ∃ works, kept = { m.collection with items := some works } ∧
      List.Forall₂ (TaggedFrom m.collection.key) m.collection.works works
  else kept = m.collection

theorem tagFresh_settles (l : Ledger) (ms : List Merged) :
    List.Forall₂ Merged.Settles ms (tagFresh l ms) := by
  induction ms generalizing l with
  | nil => exact .nil
  | cons m rest ih =>
    unfold tagFresh
    split
    next hm =>
      refine .cons ?_ (ih _)
      unfold Merged.Settles
      rw [if_pos hm]
      exact ⟨_, rfl, tagWorks_taggedFrom ..⟩
    next hm =>
      refine .cons ?_ (ih _)
      unfold Merged.Settles
      rw [if_neg hm]

/-- Where nothing is fresh a merge keeps the collections as they are. -/
theorem settle_of_not_fresh {ms : List Merged} (h : ∀ m ∈ ms, m.fresh = false) :
    settle ms = ms.map (·.collection) := by
  unfold settle
  generalize Ledger.ofMerged ms = l
  induction ms generalizing l with
  | nil => rfl
  | cons m rest ih =>
    have hm : m.fresh = false := h m (List.mem_cons_self ..)
    simp only [tagFresh, hm, Bool.false_eq_true, if_false, List.map_cons]
    rw [ih (fun m hm => h m (List.mem_cons_of_mem _ hm))]

/-! ## Merging -/

/-- What a merge keeps of a collection that was sent. -/
inductive Keeps (useCache : Bool) (store previous : Store) (sent : Collection) : Collection → Prop
  /-- The works of the known collection of that name, which is at the same version. -/
  | byName {known : Collection} (found : unchanged? useCache store sent = some known) :
      Keeps useCache store previous sent { sent with items := known.items }
  /-- The works of the known collection of that key, for one that was sent without. -/
  | byKey {known : Collection} (differs : unchanged? useCache store sent = none)
      (omitted : sent.items = none) (found : previous.findByKey? sent.key = some known) :
      Keeps useCache store previous sent { sent with items := known.items }
  /-- The works that it was sent with, or none if it was sent without. -/
  | fresh {works : List Source} (differs : unchanged? useCache store sent = none)
      (sentOrNew : sent.items = none → previous.findByKey? sent.key = none)
      (tags : List.Forall₂ (TaggedFrom sent.key) sent.works works) :
      Keeps useCache store previous sent { sent with items := some works }

theorem keeps_of_settles {useCache : Bool} {store previous : Store} {sent kept : Collection}
    (h : (mergeOne useCache store previous sent).Settles kept) :
    Keeps useCache store previous sent kept := by
  unfold mergeOne at h
  split at h
  next known hname =>
    cases h
    exact .byName hname
  next hname =>
    -- without a match by name the works come from the known key, or else from the answer
    split at h
    next known homitted hkey =>
      cases h
      exact .byKey hname homitted hkey
    next hnot =>
      obtain ⟨works, rfl, htags⟩ := h
      refine .fresh hname (fun homitted => ?_) htags
      cases hkey : previous.findByKey? sent.key with
      | none => rfl
      | some known => exact (hnot known homitted hkey).elim

/-- A merge keeps every collection that was sent, in order. -/
theorem settle_mergeAll (useCache : Bool) (store previous : Store) (sent : List Collection) :
    List.Forall₂ (Keeps useCache store previous) sent
      (settle (mergeAll useCache store previous sent)) := by
  have hsettle := tagFresh_settles (.ofMerged (mergeAll useCache store previous sent))
    (mergeAll useCache store previous sent)
  have hmap : List.Forall₂ (fun c kept => (mergeOne useCache store previous c).Settles kept) sent
      (settle (mergeAll useCache store previous sent)) := List.forall₂_map_left_iff.1 hsettle
  exact hmap.imp fun _ _ => keeps_of_settles

namespace Keeps

variable {useCache : Bool} {store previous : Store} {sent kept : Collection}

/-- A merge changes nothing of a collection but its works. -/
theorem toSpec_eq (h : Keeps useCache store previous sent kept) : kept.toSpec = sent.toSpec := by
  cases h <;> rfl

theorem key_eq (h : Keeps useCache store previous sent kept) : kept.key = sent.key :=
  congrArg Spec.key h.toSpec_eq

theorem name_eq (h : Keeps useCache store previous sent kept) : kept.name = sent.name :=
  congrArg Spec.name h.toSpec_eq

theorem version_eq (h : Keeps useCache store previous sent kept) : kept.version = sent.version :=
  congrArg Spec.version h.toSpec_eq

end Keeps

/-- A merge keeps the keys of an answer. -/
theorem settle_keys (useCache : Bool) (store previous : Store) (sent : List Collection) :
    (settle (mergeAll useCache store previous sent)).map (·.key) = sent.map (·.key) := by
  have hmerge := settle_mergeAll useCache store previous sent
  exact (forall₂_map_eq hmerge fun _ _ hkeeps => hkeeps.key_eq.symm).symm

/-! ## Looking up what is known -/

namespace Store

variable {s : Store} {c : Collection}

theorem findByName?_some {name : String} (h : s.findByName? name = some c) :
    c ∈ s.collections ∧ c.name = name :=
  ⟨List.mem_of_find?_eq_some h, by simpa using List.find?_some h⟩

theorem findByKey?_some {key : String} (h : s.findByKey? key = some c) :
    c ∈ s.collections ∧ c.key = key :=
  ⟨List.mem_reverse.1 (List.mem_of_find?_eq_some h), by simpa using List.find?_some h⟩

/-- Where names are distinct, a stored collection is found by its name. -/
theorem findByName?_of_mem (hnames : (s.collections.map (·.name)).Nodup) (hc : c ∈ s.collections) :
    s.findByName? c.name = some c :=
  find?_of_nodup_map hnames hc

/-- Where keys are distinct, a stored collection is found by its key. -/
theorem findByKey?_of_mem (hkeys : (s.collections.map (·.key)).Nodup) (hc : c ∈ s.collections) :
    s.findByKey? c.key = some c := by
  have hreversed : (s.collections.reverse.map (·.key)).Nodup := by
    rw [List.map_reverse, List.nodup_reverse]
    exact hkeys
  exact find?_of_nodup_map hreversed (List.mem_reverse.2 hc)

/-- Where keys are distinct, a stored shape belongs to the collection that is found by its key. -/
theorem findByKey?_of_spec (hkeys : (s.collections.map (·.key)).Nodup) {spec : Spec}
    (hspec : spec ∈ s.specs) :
    ∃ known, s.findByKey? spec.key = some known ∧ known.version = spec.version := by
  obtain ⟨c, hc, rfl⟩ := List.mem_map.1 hspec
  exact ⟨c, findByKey?_of_mem hkeys hc, rfl⟩

end Store

/-- A known collection that a sent one is unchanged from has its name and its version, and the
cache is in use. -/
theorem unchanged?_some {useCache : Bool} {store : Store} {sent known : Collection}
    (h : unchanged? useCache store sent = some known) :
    useCache = true ∧ known ∈ store.collections ∧ known.name = sent.name ∧
      known.version = sent.version := by
  unfold unchanged? at h
  split at h
  next huse =>
    obtain ⟨hfind, hversion⟩ := Option.filter_eq_some_iff.1 h
    obtain ⟨hmem, hname⟩ := Store.findByName?_some hfind
    exact ⟨huse, hmem, hname, by simpa using hversion⟩
  next => cases h

end CiteSync.Session
