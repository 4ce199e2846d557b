import CiteSync.Proofs.Zotero.Shelves
import CiteSync.Proofs.Zotero.Verdicts

/-!
# Answers with and without the cache

While a library stays as it is, the client reports the same collections whether it may leave works
out or not.  It leaves out the works of known collections only, and the version tells of it: a
collection without its works has the version that is known, and every other known one has a newer
one.
-/

namespace CiteSync.Zotero

open Library Remote

/-! ## 1. One collection -/

/-- What a report of a collection that may leave its works out has to do with one that may not, and
with what is known. -/
structure Agrees (known : List Spec) (cached plain : Collection) : Prop where
  key : cached.key = plain.key
  name : cached.name = plain.name
  parentKey : cached.parentKey = plain.parentKey
  itemCount : cached.itemCount = plain.itemCount
  complete : plain.items ≠ none
  body : ∀ works, cached.items = some works → plain.items = some works
  /-- Works are left out exactly at the version that is known. -/
  omitted : ∀ spec, knownSpec? known cached.key = some spec →
    (cached.items = none ↔ cached.version = spec.version)
  /-- Works are sent at a newer version. -/
  newer : ∀ spec, knownSpec? known cached.key = some spec → cached.items ≠ none →
    spec.version < cached.version
  unknown : knownSpec? known cached.key = none → cached.items ≠ none
  version : plain.version ≤ cached.version

namespace Catalogue

variable {L : Catalogue} {known : List Spec} {spec : Spec} {c p : Collection}

theorem compares_of_verdict {useCache : Bool} {found : Verdict}
    (h : L.verdict known useCache spec = found) :
    Compares (knownSpec? known spec.key) useCache (L.content spec) (L.count spec) found := by
  rw [← h]
  exact compares_verdict ..

/-- Where no works may be left out, a collection is reported at the version of what it holds. -/
theorem reports_plain (h : L.Reports known false spec p) :
    ∃ works, L.works spec.key = .ok works ∧
      p = reported spec (L.content spec) (L.count spec) (some works) := by
  cases h with
  | unchanged found =>
    cases compares_of_verdict found with
    | unchanged _ trusted => cases trusted
  | shrunk found =>
    cases compares_of_verdict found with
    | shrunk _ trusted => cases trusted
  | changed found read =>
    cases compares_of_verdict found with
    | changed => exact ⟨_, read, rfl⟩

/-- A collection that is sent with its works agrees if its version is newer than what is known, and
not older than what it holds. -/
theorem agrees_of_sent {version : Int} (works : List Source)
    (newer : ∀ before, knownSpec? known spec.key = some before → before.version < version)
    (holds : L.content spec ≤ version) :
    Agrees known (reported spec version (L.count spec) (some works))
      (reported spec (L.content spec) (L.count spec) (some works)) where
  key := rfl
  name := rfl
  parentKey := rfl
  itemCount := rfl
  complete := Option.some_ne_none _
  body _ hworks := hworks
  omitted before hbefore := by
    have hnewer : before.version < version := newer before hbefore
    constructor
    · intro hnone
      cases hnone
    · intro hsame
      have hversion : version = before.version := hsame
      omega
  newer before hbefore _ := newer before hbefore
  unknown _ := Option.some_ne_none _
  version := holds

theorem agrees_of_reports (hc : L.Reports known true spec c) (hp : L.Reports known false spec p) :
    Agrees known c p := by
  obtain ⟨works, hworks, rfl⟩ := reports_plain hp
  cases hc with
  | unchanged found =>
    cases compares_of_verdict found with
    | @unchanged before hknown _ old _ =>
      refine ⟨rfl, rfl, rfl, rfl, Option.some_ne_none _, ?_, ?_, ?_, ?_, old⟩
      · intro works hnone
        cases hnone
      · intro again hagain
        rw [show knownSpec? known spec.key = some again from hagain] at hknown
        cases hknown
        exact ⟨fun _ => rfl, fun _ => rfl⟩
      · intro _ _ hsent
        exact absurd rfl hsent
      · intro hnone
        rw [show knownSpec? known spec.key = none from hnone] at hknown
        cases hknown
  | changed found read =>
    rw [hworks] at read
    cases read
    cases compares_of_verdict found with
    | changed newer =>
      exact agrees_of_sent works (fun before hbefore => newer before rfl hbefore) (Int.le_refl _)
  | @shrunk before _ found read =>
    rw [hworks] at read
    cases read
    cases compares_of_verdict found with
    | @shrunk before _ hknown _ old _ _ =>
      -- the version goes beyond the known one, which what is held did not exceed
      have hbeyond : before.version + 1 ≤ max (before.version + 1) L.version :=
        Int.le_max_left ..
      refine agrees_of_sent works (fun again hagain => ?_) (by omega)
      rw [hagain] at hknown
      cases hknown
      omega

end Catalogue

/-! ## 2. Whole answers -/

/-- What a listing tells a collection apart by. -/
def identity (s : Spec) : String × String × Option String := (s.key, s.name, s.parentKey)

variable {σ : Type} {c : Client} {services : Services σ} {L : Catalogue} {P : σ → Prop}
variable {roots : List String} {known : List Spec}

theorem identity_of_reports {useCache : Bool} {specs : List Spec} {answer : List Collection}
    (h : List.Forall₂ (L.Reports known useCache) specs answer) :
    answer.map (fun c => identity c.toSpec) = specs.map identity := by
  refine (forall₂_map_eq h fun spec c hc => ?_).symm
  cases hc <;> rfl

/-- Without faults each collection that is asked for is reported. -/
theorem Client.collections_of_calm (hkeys : c.keyService = none) (hattempts : 0 < c.attempts)
    (shows : Shows services.library L P fun _ => False)
    (readable : ∀ spec ∈ closure L.specs roots, ∃ works, L.works spec.key = .ok works)
    (known : List Spec) (useCache : Bool) {w : World σ} (here : P w.remote) :
    ∃ answer, ((c.collections services roots known useCache).perform w).1 =
        .ok (.success answer none) ∧
      List.Forall₂ (L.Reports known useCache) (closure L.specs roots) answer := by
  have hmeets : (c.collections services roots known useCache).Meets (Within P) (fun _ => False) _ :=
    c.collections_meets services hkeys shows.toShowsOutline (.of_none hattempts) roots
      fun spec hspec _ => .of_read services shows.toShowsBodies (readable spec hspec)
  obtain ⟨reply, hreply, hanswered⟩ := (hmeets w here).1.exists_ok
  obtain ⟨answer, rfl, hanswer⟩ := hanswered.of_no_fault
  exact ⟨answer, hreply, hanswer⟩

theorem Client.collectionSpecs_of_calm (hattempts : 0 < c.attempts)
    (shows : Shows services.library L P fun _ => False) {w : World σ} (here : P w.remote) :
    ((c.collectionSpecs services roots).perform w).1 =
      .ok (.success (closure L.specs roots) none) := by
  have hmeets := c.collectionSpecs_meets services shows.toShowsOutline (.of_none hattempts) roots
  obtain ⟨reply, hreply, hanswered⟩ := (hmeets w here).1.exists_ok
  obtain ⟨specs, rfl, rfl⟩ := hanswered.of_no_fault
  exact hreply

/-- While a library stays as it is and nothing fails, the answers with and without the cache list
the collections of the tree in its order, and agree on each of them. -/
theorem cached_fetch_agrees (hkeys : c.keyService = none) (hattempts : 0 < c.attempts)
    (shows : Shows services.library L P fun _ => False) (roots : List String) (known : List Spec)
    (readable : ∀ spec ∈ closure L.specs roots, ∃ works, L.works spec.key = .ok works)
    {w₁ w₂ w₃ : World σ} (here₁ : P w₁.remote) (here₂ : P w₂.remote) (here₃ : P w₃.remote) :
    ∃ (cached plain : List Collection) (tree : List Spec),
      ((c.collections services roots known true).perform w₁).1 = .ok (.success cached none) ∧
      ((c.collections services roots known false).perform w₂).1 = .ok (.success plain none) ∧
      ((c.collectionSpecs services roots).perform w₃).1 = .ok (.success tree none) ∧
      cached.map (fun c => identity c.toSpec) = tree.map identity ∧
      List.Forall₂ (Agrees known) cached plain := by
  obtain ⟨cached, hcached, hreports⟩ :=
    Client.collections_of_calm hkeys hattempts shows readable known true here₁
  obtain ⟨plain, hplain, hreports'⟩ :=
    Client.collections_of_calm hkeys hattempts shows readable known false here₂
  refine ⟨cached, plain, _, hcached, hplain, Client.collectionSpecs_of_calm hattempts shows here₃,
    identity_of_reports hreports, ?_⟩
  -- both report the same collections one after the other
  have hboth := forall₂_trans hreports.flip hreports'
  exact hboth.imp fun _ _ ⟨_, hc, hp⟩ => Catalogue.agrees_of_reports hc hp

/-! ## 3. A collection that lost a book -/

/-- What is known of a collection that held two books. -/
def twoBooks : List Spec := [{ key := "C", name := "Papers", version := 6, itemCount := some 2 }]

/-- Nothing in the collection is newer than what is known, but it has one book left. -/
theorem cached_fetch_agrees_after_removal :
    ∃ (cached plain : List Collection) (tree : List Spec),
      ((Holdings.reader.collections Holdings.services [] twoBooks true).perform
        { remote := .ofBooks [("A", 5)] 7 }).1 = .ok (.success cached none) ∧
      ((Holdings.reader.collections Holdings.services [] twoBooks false).perform
        { remote := .ofBooks [("A", 5)] 7 }).1 = .ok (.success plain none) ∧
      ((Holdings.reader.collectionSpecs Holdings.services []).perform
        { remote := .ofBooks [("A", 5)] 7 }).1 = .ok (.success tree none) ∧
      cached.map (fun c => identity c.toSpec) = tree.map identity ∧
      List.Forall₂ (Agrees twoBooks) cached plain := by
  have hone : Holdings.Holds (.ofBooks [("A", 5)] 7) (.ofBooks [("A", 5)] 7) :=
    Holdings.ofBooks_holds rfl
  have hread : ∀ spec ∈ closure (Catalogue.ofBooks [("A", 5)] 7).specs [],
      ∃ works, (Catalogue.ofBooks [("A", 5)] 7).works spec.key = .ok works := by
    intro spec hspec
    rw [Catalogue.mem_ofBooks hspec]
    exact ⟨_, rfl⟩
  exact cached_fetch_agrees rfl (by decide) Holdings.service_shows [] twoBooks hread hone hone hone

end CiteSync.Zotero
