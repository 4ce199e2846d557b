import CiteSync.Proofs.Session.Ledger
import CiteSync.Proofs.Zotero.Catalogue

/-!
# Works from records

The citation key that a work comes with is in the record of its item, whatever collection the record
was fetched for.  So the works of an item come alike as long as its record is the same in every
collection that it is in.
-/

namespace CiteSync.Zotero

open Library Remote

/-! ## 1. Fields of a record -/

theorem also_eq_ok {α β : Type} {f : Check (α → β)} {x : Check α} {b : β}
    (h : Check.also f x = .ok b) : ∃ g a, f = .ok g ∧ x = .ok a ∧ g a = b := by
  cases f with
  | error e => cases x <;> cases h
  | ok g =>
    cases x with
    | error e => cases h
    | ok a => exact ⟨g, a, rfl, rfl, Except.ok.inj h⟩

/-- The citation key of a work is what stands in its own field. -/
theorem check_id {ms : Members} {w : Source} (h : Source.check (.obj ms) = .ok w) :
    field ms "id" "id" (checkOptional checkText) none = .ok w.id := by
  unfold Source.check record at h
  -- the citation key is the first of eleven parts
  iterate 10
    replace h := also_eq_ok h
    obtain ⟨_, _, h, -, rfl⟩ := h
  replace h := also_eq_ok h
  obtain ⟨_, _, hmk, hid, rfl⟩ := h
  cases hmk
  exact hid

theorem lookup_cons (m : String × Json) (ms : Members) (name : String) :
    Json.lookup (m :: ms) name =
      (Json.lookup ms name).or (if m.1 = name then some m.2 else none) := by
  unfold Json.lookup
  rw [List.reverse_cons, List.find?_append]
  cases ms.reverse.find? fun m => m.1 == name with
  | some found => rfl
  | none =>
    by_cases hname : m.1 = name <;> simp [hname]

/-- Among fields of distinct names, a name has the value that is given for it, if any. -/
theorem lookup_fields {fields : List (String × Option Json)} {name : String} {v : Option Json}
    (hdistinct : (fields.map (·.1)).Nodup) (hmem : (name, v) ∈ fields) :
    Json.lookup (fields.filterMap fun f => f.2.map (f.1, ·)) name = v := by
  -- a name that is not there has no value
  have hnone : ∀ rest : List (String × Option Json), name ∉ rest.map (·.1) →
      Json.lookup (rest.filterMap fun f => f.2.map (f.1, ·)) name = none := by
    intro rest hnot
    refine Option.map_eq_none_iff.2 (List.find?_eq_none.2 fun m hm hname => hnot ?_)
    obtain ⟨f, hf, hfm⟩ := List.mem_filterMap.1 (List.mem_reverse.1 hm)
    obtain ⟨_, -, rfl⟩ := Option.map_eq_some_iff.1 hfm
    exact List.mem_map.2 ⟨f, hf, by simpa using hname⟩
  induction fields with
  | nil => cases hmem
  | cons f rest ih =>
    obtain ⟨hnew, hrest⟩ := List.nodup_cons.1 hdistinct
    rcases List.mem_cons.1 hmem with rfl | hmem
    · cases v with
      | none => exact hnone rest hnew
      | some v =>
        show Json.lookup ((name, v) :: rest.filterMap _) name = some v
        rw [lookup_cons, hnone rest hnew, if_pos rfl]
        rfl
    · have hdiffer : f.1 ≠ name := by
        rintro rfl
        exact hnew (List.mem_map.2 ⟨_, hmem, rfl⟩)
      rw [← ih hrest hmem]
      cases hf : f.2 with
      | none => rw [List.filterMap_cons_none (by simp [hf])]
      | some u =>
        rw [List.filterMap_cons_some (b := (f.1, u)) (by simp [hf]), lookup_cons, if_neg hdiffer,
          Option.or_none]

/-! ## 2. The citation key in a record -/

theorem bind_eq_ok {α β : Type} {x : Except Fault α} {f : α → Except Fault β} {b : β}
    (h : x >>= f = .ok b) : ∃ a, x = .ok a ∧ f a = .ok b := by
  cases x with
  | error cause => cases h
  | ok a => exact ⟨a, rfl, h⟩

/-- The citation key of a work as it is read from what the record holds. -/
def checkId : Option Json → Check (Option String)
  | some v => (checkOptional checkText v).within "id"
  | none => .pass none

theorem id_of_checked {fields : List (String × Option Json)} {id : Option Json} {w : Source}
    (hdistinct : (fields.map (·.1)).Nodup) (hid : ("id", id) ∈ fields)
    (h : checked (Source.check (members fields)) = .ok w) : checkId id = .ok w.id := by
  have hcheck : Source.check (members fields) = .ok w := by
    cases hr : Source.check (members fields) with
    | error es =>
      rw [hr] at h
      cases h
    | ok v =>
      rw [hr] at h
      cases h
      rfl
  have hfield := check_id hcheck
  unfold field given? at hfield
  rw [lookup_fields hdistinct hid] at hfield
  cases id <;> exact hfield

/-- The citation key of a work is read from the data of the record, and from nothing else. -/
theorem readSource_id {item : Json} {collectionKey : String} {w : Source}
    (h : readSource item collectionKey = .ok w) :
    ∃ data id, dataOf item = .ok data ∧ itemId? data = .ok id ∧ checkId id = .ok w.id := by
  unfold readSource at h
  obtain ⟨data, hdata, h⟩ := bind_eq_ok h
  replace h := bind_eq_ok h
  -- six things are read before the citation key, which the check has no part in
  iterate 6
    obtain ⟨_, -, hnext⟩ := h
    replace h := bind_eq_ok hnext
    clear hnext
  obtain ⟨id, hid, h⟩ := h
  refine ⟨data, id, hdata, hid, ?_⟩
  obtain ⟨key, -, h⟩ := bind_eq_ok h
  -- the key of the item is asked for again where the data has none
  split at h
  all_goals
    obtain ⟨outer, -, h⟩ := bind_eq_ok h
    obtain ⟨kind, -, h⟩ := bind_eq_ok h
    obtain ⟨title, -, h⟩ := bind_eq_ok h
    obtain ⟨doi, -, h⟩ := bind_eq_ok h
    obtain ⟨collections, -, h⟩ := bind_eq_ok h
    obtain ⟨source, hsource, h⟩ := bind_eq_ok h
    cases h
    show checkId id = .ok source.id
    refine id_of_checked ?_ List.mem_cons_self hsource
    simp

/-- Works that are read from one record come with the same citation key. -/
theorem id_of_readSource {item : Json} {collectionKey collectionKey' : String} {w w' : Source}
    (h : readSource item collectionKey = .ok w) (h' : readSource item collectionKey' = .ok w') :
    w.id = w'.id := by
  obtain ⟨data, id, hdata, hid, hcheck⟩ := readSource_id h
  obtain ⟨data', id', hdata', hid', hcheck'⟩ := readSource_id h'
  rw [hdata] at hdata'
  cases hdata'
  rw [hid] at hid'
  cases hid'
  exact Except.ok.inj (hcheck.symm.trans hcheck')

/-! ## 3. The works of a library -/

theorem exists_of_mem_mapM {α β : Type} {f : α → Except Fault β} {xs : List α} {ys : List β}
    (h : xs.mapM f = .ok ys) {y : β} (hy : y ∈ ys) : ∃ x ∈ xs, f x = .ok y := by
  induction xs generalizing ys with
  | nil =>
    cases h
    cases hy
  | cons x xs ih =>
    rw [List.mapM_cons] at h
    obtain ⟨first, hfirst, h⟩ := bind_eq_ok h
    obtain ⟨rest, hrest, h⟩ := bind_eq_ok h
    cases h
    rcases List.mem_cons.1 hy with rfl | hy
    · exact ⟨x, List.mem_cons_self, hfirst⟩
    · obtain ⟨x', hx', hread⟩ := ih hrest hy
      exact ⟨x', List.mem_cons_of_mem x hx', hread⟩

theorem exists_of_mem_readWorks {key : String} {records : List Json} {works : List Source}
    (h : readWorks key (.arr records) = .ok works) {w : Source} (hw : w ∈ works) :
    ∃ record ∈ records, readSource record key = .ok w := by
  unfold readWorks at h
  obtain ⟨elems, helems, h⟩ := bind_eq_ok h
  cases helems
  obtain ⟨found, hfound, h⟩ := bind_eq_ok h
  cases h
  obtain ⟨kept, hkept, hsome⟩ := List.mem_filterMap.1 hw
  obtain ⟨record, hrecord, hread⟩ := exists_of_mem_mapM hfound hkept
  refine ⟨record, hrecord, ?_⟩
  -- an item that is not cited is not read
  obtain ⟨citable, -, hread⟩ := bind_eq_ok hread
  cases citable with
  | false =>
    cases hread
    cases hsome
  | true =>
    cases hsource : readSource record key with
    | error cause =>
      rw [hsource] at hread
      cases hread
    | ok v =>
      rw [hsource] at hread
      cases hread
      cases hsome
      rfl

namespace Catalogue

variable (L : Catalogue)

/-- Every item is one and the same record in all collections that it is in, and the record says
which item it is. -/
structure Itemized : Prop where
  record : ∀ spec ∈ L.specs, ∀ spec' ∈ L.specs, ∀ a ∈ L.items spec.key, ∀ b ∈ L.items spec'.key,
    a.key = b.key → a.record = b.record
  key : ∀ spec ∈ L.specs, ∀ a ∈ L.items spec.key, ∀ w, readSource a.record spec.key = .ok w →
    w.key = some a.key

variable {L}

/-- The works of an item come with one citation key in all collections, or without. -/
theorem Itemized.id_eq (h : L.Itemized) {spec spec' : Spec} (hspec : spec ∈ L.specs)
    (hspec' : spec' ∈ L.specs) {works works' : List Source} (hworks : L.works spec.key = .ok works)
    (hworks' : L.works spec'.key = .ok works') {w w' : Source} (hw : w ∈ works) (hw' : w' ∈ works')
    {item : String} (hitem : filled? w.key = some item) (hitem' : filled? w'.key = some item) :
    w.id = w'.id := by
  obtain ⟨record, hrecord, hread⟩ := exists_of_mem_readWorks hworks hw
  obtain ⟨record', hrecord', hread'⟩ := exists_of_mem_readWorks hworks' hw'
  obtain ⟨a, ha, rfl⟩ := List.mem_map.1 hrecord
  obtain ⟨b, hb, rfl⟩ := List.mem_map.1 hrecord'
  have hkey : a.key = b.key := by
    rw [h.key spec hspec a ha w hread] at hitem
    rw [h.key spec' hspec' b hb w' hread'] at hitem'
    rw [Session.filled?_eq_some] at hitem hitem'
    exact Option.some.inj (hitem.1.trans hitem'.1.symm)
  rw [h.record spec hspec spec' hspec' a ha b hb hkey] at hread
  exact id_of_readSource hread hread'

end Catalogue

end CiteSync.Zotero
