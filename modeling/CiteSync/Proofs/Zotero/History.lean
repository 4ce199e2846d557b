import CiteSync.Proofs.Zotero.Catalogue
import Mathlib.Data.List.Nodup

/-!
# Libraries over time

What can be relied on in a library at a moment, and between an earlier and a later moment.  A
collection whose contents are no newer than the library was at the earlier moment is the same
collection as then, and it has the same items unless it lost some.
-/

namespace CiteSync.Zotero

open Library

/-! ## At a moment -/

/-- Keys and names are distinct, the listed item versions are those of the items, and nothing is
newer than the library. -/
structure Catalogue.WellKept (L : Catalogue) : Prop where
  keys : (L.specs.map (·.key)).Nodup
  names : (L.specs.map (·.name)).Nodup
  itemKeys : ∀ spec ∈ L.specs, ((L.items spec.key).map Item.key).Nodup
  listed : ∀ spec ∈ L.specs,
    (L.listed spec.key).Perm ((L.items spec.key).map fun item => (item.key, item.version))
  own_le : ∀ spec ∈ L.specs, spec.version ≤ L.version
  item_le : ∀ spec ∈ L.specs, ∀ item ∈ L.items spec.key, item.version ≤ L.version

namespace Catalogue

variable {L : Catalogue} {spec : Spec}

theorem own_le_content : spec.version ≤ L.content spec := le_highest_own

namespace WellKept

theorem count_eq (h : L.WellKept) (hspec : spec ∈ L.specs) :
    L.count spec = (L.items spec.key).length := by
  unfold count
  rw [(h.listed spec hspec).length_eq, List.length_map]

theorem item_le_content (h : L.WellKept) (hspec : spec ∈ L.specs) {item : Item}
    (hitem : item ∈ L.items spec.key) : item.version ≤ L.content spec := by
  apply le_highest_of_mem
  have hmem : (item.key, item.version) ∈ L.listed spec.key :=
    (h.listed spec hspec).mem_iff.2 (List.mem_map.2 ⟨item, hitem, rfl⟩)
  exact List.mem_map.2 ⟨_, hmem, rfl⟩

theorem content_le (h : L.WellKept) (hspec : spec ∈ L.specs) : L.content spec ≤ L.version := by
  apply highest_le (h.own_le spec hspec)
  intro version hversion
  obtain ⟨pair, hpair, rfl⟩ := List.mem_map.1 hversion
  obtain ⟨item, hitem, rfl⟩ := List.mem_map.1 ((h.listed spec hspec).mem_iff.1 hpair)
  exact h.item_le spec hspec item hitem

theorem eq_of_key (h : L.WellKept) {a b : Spec} (ha : a ∈ L.specs) (hb : b ∈ L.specs)
    (hkey : a.key = b.key) : a = b :=
  List.inj_on_of_nodup_map h.keys ha hb hkey

theorem eq_of_name (h : L.WellKept) {a b : Spec} (ha : a ∈ L.specs) (hb : b ∈ L.specs)
    (hname : a.name = b.name) : a = b :=
  List.inj_on_of_nodup_map h.names ha hb hname

end WellKept

/-! ## Between two moments -/

/-- How a library at a later moment follows on the same library at an earlier one.  A collection
that is new or has other data is newer than the library was.  Where its items differ, it or one of
its items is newer than the library was, or it has another number of items and the library itself
has become newer. -/
structure Follows (later earlier : Catalogue) : Prop where
  version_le : earlier.version ≤ later.version
  restamped : ∀ spec ∈ later.specs,
    (¬ ∃ before ∈ earlier.specs, before.key = spec.key ∧ before.name = spec.name ∧
      before.parentKey = spec.parentKey) → earlier.version < spec.version
  refreshed : ∀ spec ∈ later.specs, later.items spec.key ≠ earlier.items spec.key →
    (∃ before ∈ earlier.specs, before.key = spec.key) →
    earlier.version < spec.version ∨
      (∃ item ∈ later.items spec.key, earlier.version < item.version) ∨
      ((later.items spec.key).length ≠ (earlier.items spec.key).length ∧
        earlier.version < later.version)

theorem Follows.refl (L : Catalogue) : L.Follows L where
  version_le := Int.le_refl _
  restamped spec hspec hnone := (hnone ⟨spec, hspec, rfl, rfl, rfl⟩).elim
  refreshed _ _ hitems := (hitems rfl).elim

namespace Follows

variable {later earlier : Catalogue}

/-- A collection that is no newer than the library was is one that it had. -/
theorem same_collection (h : later.Follows earlier) (hspec : spec ∈ later.specs)
    (hold : later.content spec ≤ earlier.version) :
    ∃ before ∈ earlier.specs, before.key = spec.key ∧ before.name = spec.name ∧
      before.parentKey = spec.parentKey := by
  by_contra hnone
  have hnew := h.restamped spec hspec hnone
  have hown : spec.version ≤ later.content spec := own_le_content
  omega

/-- A collection that is no newer than the library was, and whose items differ, has another number
of items, and the library has become newer. -/
theorem items_differ (h : later.Follows earlier) (hkept : later.WellKept)
    (hspec : spec ∈ later.specs) (hold : later.content spec ≤ earlier.version)
    (hitems : later.items spec.key ≠ earlier.items spec.key) :
    (later.items spec.key).length ≠ (earlier.items spec.key).length ∧
      earlier.version < later.version := by
  obtain ⟨before, hbefore, hkey, -⟩ := h.same_collection hspec hold
  rcases h.refreshed spec hspec hitems ⟨before, hbefore, hkey⟩ with hown | ⟨item, hitem, hnew⟩ | hr
  · have hle : spec.version ≤ later.content spec := own_le_content
    omega
  · have hle := hkept.item_le_content hspec hitem
    omega
  · exact hr

end Follows

end Catalogue

end CiteSync.Zotero
