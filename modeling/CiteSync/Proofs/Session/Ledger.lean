import CiteSync.Proofs.Citation.Suggestion
import CiteSync.Session.Merge

/-!
# Ledgers

How the citation keys of a merged answer are found, work after work.  A ledger never forgets a key
nor which item has it; what it learns from a work is at most one new key, for the item of that work.
-/

namespace CiteSync.Session

open Library Citation

/-! ## 1. Works in their places -/

theorem filled?_eq_some {text : Option String} {t : String} :
    filled? text = some t ↔ text = some t ∧ t ≠ "" := by
  unfold filled?
  rw [Option.filter_eq_some_iff, decide_eq_true_iff]

/-- A work of a merged answer, with the collection that it is in. -/
structure Entry where
  merged : Merged
  work : Source

namespace Entry

def own? (e : Entry) : Option String := filled? e.work.id

def item? (e : Entry) : Option String := filled? e.work.key

/-- A fresh work that comes without a citation key. -/
def Asks (e : Entry) : Prop := e.merged.fresh = true ∧ e.own? = none

/-- Two works of one and the same item. -/
def SameItem (a b : Entry) : Prop := ∃ item, a.item? = some item ∧ b.item? = some item

theorem SameItem.symm {a b : Entry} (h : a.SameItem b) : b.SameItem a := by
  obtain ⟨item, ha, hb⟩ := h
  exact ⟨item, hb, ha⟩

theorem SameItem.of_left {e a b : Entry} (ha : e.SameItem a) (hb : e.SameItem b) :
    a.SameItem b := by
  obtain ⟨item, he, ha⟩ := ha
  obtain ⟨item', he', hb⟩ := hb
  rw [he] at he'
  cases he'
  exact ⟨item, ha, hb⟩

end Entry

/-- The works of a merged answer, in order. -/
def entries (ms : List Merged) : List Entry :=
  ms.flatMap fun m => m.collection.works.map (Entry.mk m)

/-! ## 2. One work -/

namespace Ledger

variable (l : Ledger)

@[simp]
theorem note_taken (item : Option String) (id : String) :
    (l.note item id).taken = id :: l.taken := by
  unfold note
  cases item with
  | none => rfl
  | some item =>
    show (if (l.find? item).isSome then { l with taken := id :: l.taken }
      else (⟨id :: l.taken, (item, id) :: l.assigned⟩ : Ledger)).taken = _
    split <;> rfl

theorem note_find? (item : Option String) (id known : String) :
    (l.note item id).find? known =
      (l.find? known).or (if item = some known then some id else none) := by
  unfold note
  cases item with
  | none => simp [find?]
  | some item =>
    show (if (l.find? item).isSome then { l with taken := id :: l.taken }
      else (⟨id :: l.taken, (item, id) :: l.assigned⟩ : Ledger)).find? known = _
    by_cases hfound : (l.find? item).isSome = true
    · -- the item keeps the key that it has
      rw [if_pos hfound]
      by_cases hitem : item = known
      · subst hitem
        obtain ⟨old, hold⟩ := Option.isSome_iff_exists.1 hfound
        show l.find? item = _
        rw [hold]
        rfl
      · rw [if_neg (by simpa using hitem), Option.or_none]
        rfl
    · rw [if_neg hfound]
      have hnone : l.find? item = none := by simpa using hfound
      by_cases hitem : item = known
      · subst hitem
        rw [hnone]
        simp [find?]
      · rw [if_neg (by simpa using hitem), Option.or_none]
        simp [find?, hitem]

def place (e : Entry) : Source × Ledger :=
  if e.merged.fresh then
    (tagged (l.keyOf e.work).1 e.merged.collection.key e.work, (l.keyOf e.work).2)
  else (e.work, l)

/-- The ways in which a work is dealt with. -/
inductive Places (e : Entry) : Source → Ledger → Prop
  /-- A carried work is left alone. -/
  | carried (known : e.merged.fresh = false) : Places e e.work l
  /-- A fresh work keeps the key that it comes with. -/
  | own {id : String} (fresh : e.merged.fresh = true) (has : e.own? = some id) :
      Places e (tagged id e.merged.collection.key e.work) l
  /-- Else it gets the key of its item. -/
  | found {item id : String} (asks : e.Asks) (of : e.item? = some item)
      (has : l.find? item = some id) : Places e (tagged id e.merged.collection.key e.work) l
  /-- Else it gets a new one. -/
  | minted (asks : e.Asks) (new : ∀ item, e.item? = some item → l.find? item = none) :
      Places e (tagged (suggestKey e.work l.taken) e.merged.collection.key e.work)
        (l.note e.item? (suggestKey e.work l.taken))

theorem mint_of_found {w : Source} {id : String} (h : (filled? w.key).bind l.find? = some id) :
    l.mint w = (id, l) := by
  unfold mint
  rw [h]

theorem mint_of_new {w : Source} (h : (filled? w.key).bind l.find? = none) :
    l.mint w =
      (suggestKey w l.taken, l.note (filled? w.key) (suggestKey w l.taken)) := by
  unfold mint
  rw [h]

theorem place_places (e : Entry) : l.Places e (l.place e).1 (l.place e).2 := by
  unfold place
  by_cases hfresh : e.merged.fresh = true
  · rw [if_pos hfresh]
    unfold keyOf
    cases hown : filled? e.work.id with
    | some id => exact .own hfresh hown
    | none =>
      show l.Places e (tagged (l.mint e.work).1 e.merged.collection.key e.work) (l.mint e.work).2
      cases hfind : (filled? e.work.key).bind l.find? with
      | some id =>
        rw [mint_of_found l hfind]
        obtain ⟨item, hitem, hid⟩ := Option.bind_eq_some_iff.1 hfind
        exact .found ⟨hfresh, hown⟩ hitem hid
      | none =>
        rw [mint_of_new l hfind]
        refine .minted ⟨hfresh, hown⟩ fun item hitem => ?_
        exact Option.bind_eq_none_iff.1 hfind item hitem
  · rw [if_neg hfresh]
    exact .carried (by simpa using hfresh)

/-! ## 3. What a ledger learns -/

/-- A ledger knows the keys of items only as keys that are taken. -/
def Closed : Prop := ∀ item id, l.find? item = some id → id ∈ l.taken

/-- A work gets a new key if it asks for one and none is known of its item. -/
def New (e : Entry) : Prop := e.Asks ∧ ∀ item, e.item? = some item → l.find? item = none

theorem exists_of_not_new {l : Ledger} {e : Entry} (asks : e.Asks) (hnot : ¬ l.New e) :
    ∃ item id, e.item? = some item ∧ l.find? item = some id := by
  by_contra hnone
  push Not at hnone
  exact hnot ⟨asks, fun item of => Option.eq_none_iff_forall_ne_some.2 fun id =>
    hnone item id of⟩

namespace Places

variable {l} {l' : Ledger} {e : Entry} {w : Source}

theorem eq_of_carried (h : l.Places e w l') (hcarried : e.merged.fresh = false) : w = e.work := by
  cases h with
  | carried => rfl
  | own fresh => rw [hcarried] at fresh; cases fresh
  | found asks => exact (Bool.false_ne_true (hcarried.symm.trans asks.1)).elim
  | minted asks => exact (Bool.false_ne_true (hcarried.symm.trans asks.1)).elim

theorem tagged_of_fresh (h : l.Places e w l') (hfresh : e.merged.fresh = true) :
    ∃ id, w = tagged id e.merged.collection.key e.work := by
  cases h with
  | carried known => rw [hfresh] at known; cases known
  | own => exact ⟨_, rfl⟩
  | found => exact ⟨_, rfl⟩
  | minted => exact ⟨_, rfl⟩

theorem id_of_found (h : l.Places e w l') (asks : e.Asks) {item id : String}
    (of : e.item? = some item) (hid : l.find? item = some id) : w.id = some id := by
  cases h with
  | carried known => rw [asks.1] at known; cases known
  | own _ has => rw [asks.2] at has; cases has
  | found _ of' has =>
    rw [of] at of'
    cases of'
    rw [hid] at has
    exact has.symm
  | minted _ new => rw [new item of] at hid; cases hid

theorem id_of_new (h : l.Places e w l') (new : l.New e) :
    filled? w.id = some (suggestKey e.work l.taken) := by
  cases h with
  | carried known => rw [new.1.1] at known; cases known
  | own _ has => rw [new.1.2] at has; cases has
  | found _ of has => rw [new.2 _ of] at has; cases has
  | minted => exact filled?_eq_some.2 ⟨rfl, (mayGet_suggestKey e.work l.taken).ne_empty⟩

theorem id_of_not_asks (h : l.Places e w l') (hnot : ¬ e.Asks) : filled? w.id = e.own? := by
  cases h with
  | carried => rfl
  | own _ has => exact (filled?_eq_some.2 ⟨rfl, (filled?_eq_some.1 has).2⟩).trans has.symm
  | found asks => exact (hnot asks).elim
  | minted asks => exact (hnot asks).elim

theorem taken_grows (h : l.Places e w l') : ∃ more, l'.taken = more ++ l.taken := by
  cases h with
  | minted => exact ⟨[_], note_taken ..⟩
  | carried => exact ⟨[], rfl⟩
  | own => exact ⟨[], rfl⟩
  | found => exact ⟨[], rfl⟩

theorem mem_taken (h : l.Places e w l') {id : String} (hid : id ∈ l.taken) : id ∈ l'.taken := by
  obtain ⟨more, hmore⟩ := h.taken_grows
  rw [hmore]
  exact List.mem_append_right _ hid

theorem find?_stays (h : l.Places e w l') {item id : String} (hid : l.find? item = some id) :
    l'.find? item = some id := by
  cases h with
  | minted =>
    rw [note_find?, hid]
    rfl
  | carried => exact hid
  | own => exact hid
  | found => exact hid

/-- A key that becomes known of an item is the one that a work of it has just got. -/
theorem find?_learnt (h : l.Places e w l') {item id : String} (hnone : l.find? item = none)
    (hid : l'.find? item = some id) : e.Asks ∧ e.item? = some item ∧ w.id = some id := by
  cases h with
  | minted asks _ =>
    rw [note_find?, hnone, Option.none_or] at hid
    split at hid
    next hitem => exact ⟨asks, hitem, hid⟩
    next => cases hid
  | carried => rw [hnone] at hid; cases hid
  | own => rw [hnone] at hid; cases hid
  | found => rw [hnone] at hid; cases hid

theorem find?_of_asks (h : l.Places e w l') (asks : e.Asks) {item : String}
    (of : e.item? = some item) : ∃ id, l'.find? item = some id ∧ w.id = some id := by
  cases h with
  | carried known => rw [asks.1] at known; cases known
  | own _ has => rw [asks.2] at has; cases has
  | found _ of' has =>
    rw [of] at of'
    cases of'
    exact ⟨_, has, rfl⟩
  | minted _ new =>
    refine ⟨_, ?_, rfl⟩
    rw [note_find?, new item of, of, if_pos rfl]
    rfl

/-- A key that comes into use is a new one, suggested for the work. -/
theorem mem_taken_cases (h : l.Places e w l') {id : String} (hid : id ∈ l'.taken) :
    id ∈ l.taken ∨ l.New e ∧ suggestKey e.work l.taken = id := by
  cases h with
  | minted asks new =>
    rw [note_taken] at hid
    rcases List.mem_cons.1 hid with rfl | hid
    · exact .inr ⟨⟨asks, new⟩, rfl⟩
    · exact .inl hid
  | carried => exact .inl hid
  | own => exact .inl hid
  | found => exact .inl hid

theorem suggestKey_mem (h : l.Places e w l') (new : l.New e) :
    suggestKey e.work l.taken ∈ l'.taken := by
  cases h with
  | carried known => rw [new.1.1] at known; cases known
  | own _ has => rw [new.1.2] at has; cases has
  | found _ of has => rw [new.2 _ of] at has; cases has
  | minted =>
    rw [note_taken]
    exact List.mem_cons_self ..

theorem mem_taken_of_not_new (h : l.Places e w l') (hclosed : l.Closed)
    (hown : ∀ id, e.own? = some id → id ∈ l.taken) (hnot : ¬ l.New e) {id : String}
    (hid : filled? w.id = some id) : id ∈ l.taken := by
  by_cases asks : e.Asks
  · -- it got the key of its item, which the ledger knew
    obtain ⟨item, known, of, hfind⟩ := exists_of_not_new asks hnot
    have hfound := h.id_of_found asks of hfind
    rw [(filled?_eq_some.1 hid).1] at hfound
    cases hfound
    exact hclosed item _ hfind
  · rw [h.id_of_not_asks asks] at hid
    exact hown id hid

theorem closed (h : l.Places e w l') (hclosed : l.Closed) : l'.Closed := by
  intro item id hid
  cases hold : l.find? item with
  | some old =>
    rw [h.find?_stays hold] at hid
    cases hid
    exact h.mem_taken (hclosed item _ hold)
  | none =>
    -- the key was learnt from this work, for which it was suggested
    obtain ⟨asks, of, hkey⟩ := h.find?_learnt hold hid
    have hnew : l.New e := by
      refine ⟨asks, fun item' of' => ?_⟩
      rw [of] at of'
      cases of'
      exact hold
    rw [(filled?_eq_some.1 (h.id_of_new hnew)).1] at hkey
    cases hkey
    exact h.suggestKey_mem hnew

end Places

end Ledger

end CiteSync.Session
