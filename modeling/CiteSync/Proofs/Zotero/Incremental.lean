import CiteSync.Proofs.Lists
import CiteSync.Proofs.Zotero.History
import CiteSync.Proofs.Zotero.Verdicts

/-!
# Loads that fetch only what has changed

What a load through the client keeps when part of what is reported is left out.  The store that it
starts from is that of the library at some earlier moment, at versions that the library had reached
by then; the store that it leaves is that of the library as it is.
-/

namespace CiteSync.Zotero

open Library Session

/-! ## Stores of a library -/

namespace Catalogue

/-- A kept collection is as the library has it, up to its version and the citation keys of works
that came without. -/
structure Kept (L : Catalogue) (spec : Spec) (c : Collection) : Prop where
  key : c.key = spec.key
  name : c.name = spec.name
  parent : c.parentKey = spec.parentKey
  count : c.itemCount = some (L.items spec.key).length
  extra : c.extra = []
  works : ∃ sent, L.works spec.key = .ok sent ∧ KeptFrom spec.key sent c.items

/-- The store holds the collections of those names and all below them, as the library has them. -/
def Mirrors (L : Catalogue) (roots : List String) (store : Store) : Prop :=
  List.Forall₂ L.Kept (closure L.specs roots) store.collections

/-- Every collection of the store is as the library has it, at a version that it has reached. -/
structure Backs (L : Catalogue) (store : Store) : Prop where
  kept : ∀ c ∈ store.collections, ∃ spec ∈ L.specs, L.Kept spec c
  version_le : ∀ c ∈ store.collections, c.version ≤ L.version
  keys : (store.collections.map (·.key)).Nodup
  names : (store.collections.map (·.name)).Nodup

theorem Backs.empty (L : Catalogue) : L.Backs .empty where
  kept _ hc := (List.not_mem_nil hc).elim
  version_le _ hc := (List.not_mem_nil hc).elim
  keys := List.nodup_nil
  names := List.nodup_nil

end Catalogue

namespace Catalogue

variable {L L₀ : Catalogue} {store : Store} {useCache : Bool} {spec : Spec}

/-! ## One collection -/

/-- A known collection is the one that the library had under its key. -/
theorem Backs.kept_eq (hback : L₀.Backs store) (hkept₀ : L₀.WellKept) {c : Collection}
    (hc : c ∈ store.collections) {before : Spec} (hbefore : before ∈ L₀.specs)
    (hkey : c.key = before.key) : L₀.Kept before c := by
  obtain ⟨spec, hspec, hc⟩ := hback.kept c hc
  rw [hkept₀.eq_of_key hbefore hspec (hkey.symm.trans hc.key)]
  exact hc

/-- A known collection whose name has gone to another collection is older than that one. -/
theorem Backs.version_lt_of_name (hback : L₀.Backs store) (hfollows : L.Follows L₀)
    (hkept₀ : L₀.WellKept) (hspec : spec ∈ L.specs) {known : Collection}
    (hknown : known ∈ store.collections) (hname : known.name = spec.name)
    (hkey : known.key ≠ spec.key) : known.version < L.content spec := by
  -- otherwise the library had that collection then, and two collections had one name
  by_contra hold
  have hversion := hback.version_le known hknown
  obtain ⟨before, hbefore, hbkey, hbname, -⟩ := hfollows.same_collection hspec (by omega)
  obtain ⟨before', hbefore', hknown'⟩ := hback.kept known hknown
  have hsame : before' = before :=
    hkept₀.eq_of_name hbefore' hbefore (hknown'.name.symm.trans (hname.trans hbname.symm))
  exact hkey (hknown'.key.trans (hsame ▸ hbkey))

/-- A known collection of that name at that version is the one of that key. -/
theorem Backs.key_of_name (hback : L₀.Backs store) (hfollows : L.Follows L₀)
    (hkept₀ : L₀.WellKept) (hspec : spec ∈ L.specs) {known : Collection}
    (hknown : known ∈ store.collections) (hname : known.name = spec.name)
    (hversion : L.content spec ≤ known.version) : store.findByKey? spec.key = some known := by
  have hkey : known.key = spec.key := by
    by_contra hkey
    have hlt := hback.version_lt_of_name hfollows hkept₀ hspec hknown hname hkey
    omega
  rw [← hkey]
  exact Store.findByKey?_of_mem hback.keys hknown

/-- A collection in which nothing is newer than what is known of it is one that the library had. -/
theorem Backs.earlier_of_old (hback : L₀.Backs store) (hfollows : L.Follows L₀)
    (hkept₀ : L₀.WellKept) (hspec : spec ∈ L.specs) {known : Collection}
    (hfind : store.findByKey? spec.key = some known) (hold : L.content spec ≤ known.version) :
    L.content spec ≤ L₀.version ∧ ∃ before ∈ L₀.specs, before.key = spec.key ∧
      L₀.Kept before known := by
  obtain ⟨hknown, hkey⟩ := Store.findByKey?_some hfind
  have hversion := hback.version_le known hknown
  have hle : L.content spec ≤ L₀.version := by omega
  obtain ⟨before, hbefore, hbkey, -, -⟩ := hfollows.same_collection hspec hle
  exact ⟨hle, before, hbefore, hbkey,
    hback.kept_eq hkept₀ hknown hbefore (hkey.trans hbkey.symm)⟩

/-- The works that are known of a collection are its works, if it has as many items as are known and
nothing in it is newer. -/
theorem Backs.works_of_unchanged (hback : L₀.Backs store) (hfollows : L.Follows L₀)
    (hkept₀ : L₀.WellKept) (hkept : L.WellKept) (hspec : spec ∈ L.specs) {known : Collection}
    (hfind : store.findByKey? spec.key = some known) (hold : L.content spec ≤ known.version)
    (hsize : ∀ n, known.itemCount = some n → n = (L.count spec : Int)) :
    ∃ sent, L.works spec.key = .ok sent ∧ KeptFrom spec.key sent known.items := by
  obtain ⟨hle, before, -, hbkey, hknown₀⟩ :=
    hback.earlier_of_old hfollows hkept₀ hspec hfind hold
  have hitems : L.items spec.key = L₀.items spec.key := by
    by_contra hitems
    have hlength := (hfollows.items_differ hkept hspec hle hitems).1
    have hn := hsize _ hknown₀.count
    rw [hkept.count_eq hspec, hbkey] at hn
    exact hlength (by exact_mod_cast hn.symm)
  have hworks := hknown₀.works
  unfold Catalogue.works at hworks ⊢
  rw [hbkey] at hworks
  rw [hitems]
  exact hworks

/-- A library in which a collection has another number of items than is known, and nothing newer in
it, has grown. -/
theorem Backs.version_lt_of_shrunk (hback : L₀.Backs store) (hfollows : L.Follows L₀)
    (hkept₀ : L₀.WellKept) (hkept : L.WellKept) (hspec : spec ∈ L.specs) {known : Collection}
    {n : Int} (hfind : store.findByKey? spec.key = some known)
    (hold : L.content spec ≤ known.version) (hcounted : known.itemCount = some n)
    (hsize : n ≠ (L.count spec : Int)) : L₀.version < L.version := by
  obtain ⟨hle, before, -, hbkey, hknown₀⟩ :=
    hback.earlier_of_old hfollows hkept₀ hspec hfind hold
  -- the count differs, so the items do, and only a library that has grown may lose an item
  have hitems : L.items spec.key ≠ L₀.items spec.key := by
    intro hitems
    rw [hknown₀.count, hbkey] at hcounted
    cases hcounted
    apply hsize
    rw [hkept.count_eq hspec, hitems]
  exact (hfollows.items_differ hkept hspec hle hitems).2

/-- A collection reported without works takes those that are known under its key. -/
theorem Backs.kept_eq_known (hback : L₀.Backs store) (hfollows : L.Follows L₀)
    (hkept₀ : L₀.WellKept) (hspec : spec ∈ L.specs) {known kept : Collection}
    (hfind : store.findByKey? spec.key = some known) (hold : L.content spec ≤ known.version)
    (hkeeps : Keeps useCache store store (reported spec known.version (L.count spec) none) kept) :
    kept = { reported spec known.version (L.count spec) none with items := known.items } := by
  cases hkeeps with
  | @byName other hother =>
    obtain ⟨-, hmem, hname, hsame⟩ := unchanged?_some hother
    have hversion : other.version = known.version := hsame
    have heq := hback.key_of_name hfollows hkept₀ hspec hmem hname (by omega)
    rw [hfind] at heq
    cases heq
    rfl
  | @byKey other _ _ hother =>
    have heq : store.findByKey? spec.key = some other := hother
    rw [hfind] at heq
    cases heq
    rfl
  | fresh _ hnew _ =>
    have hnone : store.findByKey? spec.key = none := hnew rfl
    rw [hfind] at hnone
    cases hnone

/-- A collection reported without works keeps the ones that are known, and they are still its
works. -/
theorem kept_of_omitted (hback : L₀.Backs store) (hfollows : L.Follows L₀) (hkept₀ : L₀.WellKept)
    (hkept : L.WellKept) (hspec : spec ∈ L.specs) {known kept : Collection}
    (hfind : store.findByKey? spec.key = some known) (hold : L.content spec ≤ known.version)
    (hsize : ∀ n, known.itemCount = some n → n = (L.count spec : Int))
    (hkeeps : Keeps useCache store store (reported spec known.version (L.count spec) none) kept) :
    L.Kept spec kept ∧ kept.version ≤ L.version := by
  have hworks := hback.works_of_unchanged hfollows hkept₀ hkept hspec hfind hold hsize
  have hversion := hback.version_le known (Store.findByKey?_some hfind).1
  have hcount : (L.count spec : Int) = (L.items spec.key).length := by
    rw [hkept.count_eq hspec]
  rw [hback.kept_eq_known hfollows hkept₀ hspec hfind hold hkeeps]
  refine ⟨⟨rfl, rfl, rfl, congrArg some hcount, rfl, hworks⟩, ?_⟩
  exact Int.le_trans hversion hfollows.version_le

/-- A collection reported with its works, at a version above the one that is known, keeps the works
it was sent with. -/
theorem kept_of_sent (hback : L₀.Backs store) (hfollows : L.Follows L₀) (hkept₀ : L₀.WellKept)
    (hkept : L.WellKept) (hspec : spec ∈ L.specs) {version : Int} {works : List Source}
    {kept : Collection} (hread : L.works spec.key = .ok works) (hold : L.content spec ≤ version)
    (hnewer : ∀ known, useCache = true → store.findByKey? spec.key = some known →
      known.version < version)
    (hkeeps : Keeps useCache store store (reported spec version (L.count spec) (some works)) kept) :
    L.Kept spec kept ∧ kept.version = version := by
  have hdiffers : unchanged? useCache store (reported spec version (L.count spec) (some works)) =
      none := by
    by_contra hsome
    obtain ⟨other, hother⟩ := Option.ne_none_iff_exists'.1 hsome
    obtain ⟨htrusted, hmem, hname, hsame⟩ := unchanged?_some hother
    change other.version = version at hsame
    have hfind := hback.key_of_name hfollows hkept₀ hspec hmem hname (by omega)
    have hlt := hnewer other htrusted hfind
    omega
  cases hkeeps with
  | byName hother =>
    rw [hdiffers] at hother
    cases hother
  | byKey _ homitted _ => cases homitted
  | @fresh tags _ _ htags =>
    refine ⟨⟨rfl, rfl, rfl, ?_, rfl, works, hread, tags, rfl, htags⟩, rfl⟩
    exact congrArg some (by rw [hkept.count_eq hspec])

/-- What a merge keeps of a reported collection is as the library has it, at a version that it has
reached. -/
theorem kept_of_reports (hback : L₀.Backs store) (hfollows : L.Follows L₀) (hkept₀ : L₀.WellKept)
    (hkept : L.WellKept) (hspec : spec ∈ L.specs) {c kept : Collection}
    (hreports : L.Reports store.specs useCache spec c)
    (hkeeps : Keeps useCache store store c kept) :
    L.Kept spec kept ∧ kept.version ≤ L.version := by
  have hjudged : L.Judged store useCache spec (L.verdict store.specs useCache spec) :=
    judged_verdict
  cases hreports with
  | unchanged found =>
    rw [found] at hjudged
    cases hjudged with
    | unchanged hfind _ hold hsize =>
      exact kept_of_omitted hback hfollows hkept₀ hkept hspec hfind hold hsize hkeeps
  | changed found hread =>
    rw [found] at hjudged
    cases hjudged with
    | changed hnewer =>
      obtain ⟨hk, hversion⟩ := kept_of_sent hback hfollows hkept₀ hkept hspec hread
        (Int.le_refl _) hnewer hkeeps
      exact ⟨hk, hversion ▸ hkept.content_le hspec⟩
  | shrunk found hread =>
    rw [found] at hjudged
    cases hjudged with
    | @shrunk known n hfind _ hold hcounted hsize =>
      have hversion := hback.version_le known (Store.findByKey?_some hfind).1
      have hbound :=
        hback.version_lt_of_shrunk hfollows hkept₀ hkept hspec hfind hold hcounted hsize
      have hnewer : ∀ known', useCache = true → store.findByKey? spec.key = some known' →
          known'.version < max (known.version + 1) L.version := by
        intro known' _ hfind'
        rw [hfind] at hfind'
        cases hfind'
        omega
      obtain ⟨hk, hmax⟩ :=
        kept_of_sent hback hfollows hkept₀ hkept hspec hread (by omega) hnewer hkeeps
      exact ⟨hk, by omega⟩

/-! ## The whole store -/

/-- A store that mirrors a part of the library is backed by the library. -/
theorem Backs.of_mirrored (hkept : L.WellKept) {selected : List Spec} {cs : List Collection}
    (hselected : selected.Sublist L.specs)
    (h : List.Forall₂ (fun spec c => L.Kept spec c ∧ c.version ≤ L.version) selected cs) :
    L.Backs ⟨cs⟩ where
  kept c hc := by
    obtain ⟨spec, hspec, hk, -⟩ := forall₂_exists_left h hc
    exact ⟨spec, hselected.subset hspec, hk⟩
  version_le c hc := by
    obtain ⟨_, _, _, hversion⟩ := forall₂_exists_left h hc
    exact hversion
  keys := by
    show (cs.map (·.key)).Nodup
    rw [← forall₂_map_eq (f := Spec.key) h fun _ _ hk => hk.1.key.symm]
    exact hkept.keys.sublist (hselected.map _)
  names := by
    show (cs.map (·.name)).Nodup
    rw [← forall₂_map_eq (f := Spec.name) h fun _ _ hk => hk.1.name.symm]
    exact hkept.names.sublist (hselected.map _)

/-- What a merge keeps of an answer is the library as it is, at versions that it has reached. -/
theorem backs_of_reports (hback : L₀.Backs store) (hfollows : L.Follows L₀) (hkept₀ : L₀.WellKept)
    (hkept : L.WellKept) {roots : List String} {sent : List Collection}
    (hreports : List.Forall₂ (L.Reports store.specs useCache) (closure L.specs roots) sent) :
    L.Mirrors roots ⟨settle (mergeAll useCache store store sent)⟩ ∧
      L.Backs ⟨settle (mergeAll useCache store store sent)⟩ := by
  have hsub := closure_sublist L.specs roots
  have hboth := forall₂_trans hreports (settle_mergeAll useCache store store sent)
  have hall : List.Forall₂ (fun spec kept => L.Kept spec kept ∧ kept.version ≤ L.version)
      (closure L.specs roots) (settle (mergeAll useCache store store sent)) := by
    refine ((List.forall₂_and_left _ _).2 ⟨fun _ hspec => hsub.subset hspec, hboth⟩).imp ?_
    rintro spec kept ⟨hspec, c, hc, hkeeps⟩
    exact kept_of_reports hback hfollows hkept₀ hkept hspec hc hkeeps
  exact ⟨hall.imp fun _ _ h => h.1, .of_mirrored hkept hsub hall⟩

end Catalogue

end CiteSync.Zotero
