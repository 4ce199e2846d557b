import CiteSync.Proofs.Library.Outline
import CiteSync.Proofs.Zotero.Keying
import Mathlib.Algebra.GroupWithZero.Nat

/-!
# How many items are printed

Beside each collection stands how many works of the whole session have its key among the keys of
their collections.  A work that is in several collections of the session is there once for each of
them.  So after a load without a fault the number beside a collection is the sum of what it shares
with every collection that was loaded, and this is how many items are stored for it only where it
shares none with the others.
-/

namespace CiteSync.Zotero

open Library Remote Session FrontMatter

variable {L : Catalogue} {spec other : Spec} {w : Source}

/-! ## 1. Items and the collections they are in -/

namespace Catalogue

/-- The citable works of a collection. -/
def citable (L : Catalogue) (key : String) : List Source := (L.works key).toOption.getD []

/-- Whether the item of a work is in a collection.  A collection with an empty key stands for the
whole library. -/
def holds (L : Catalogue) (spec : Spec) (w : Source) : Bool :=
  spec.key == "" || (L.items spec.key).any fun a => w.key == some a.key

/-- How many works the collections of a part of the library share with one, counted once for each
collection. -/
def copies (L : Catalogue) (roots : List String) (spec : Spec) : Nat :=
  ((closure L.specs roots).map fun other => (L.citable other.key).countP (L.holds spec)).sum

/-- Keys tell collections apart, and every item says which one it is and lists as its collections
those of the library that it is in. -/
structure Placed (L : Catalogue) : Prop where
  keys : (L.specs.map (·.key)).Nodup
  item : ∀ spec ∈ L.specs, ∀ a ∈ L.items spec.key, ∀ w, readSource a.record spec.key = .ok w →
    w.key = some a.key ∧ ∀ other ∈ L.specs, other.key ∈ w.collectionKeys ↔
      ∃ b ∈ L.items other.key, b.key = a.key

theorem exists_item (hw : w ∈ L.citable other.key) :
    ∃ a ∈ L.items other.key, readSource a.record other.key = .ok w := by
  unfold citable at hw
  cases hread : L.works other.key with
  | error cause => simp [hread, Except.toOption] at hw
  | ok works =>
    have hmem : w ∈ works := by simpa [hread, Except.toOption] using hw
    obtain ⟨record, hrecord, hsource⟩ := exists_of_mem_readWorks hread hmem
    obtain ⟨a, ha, rfl⟩ := List.mem_map.1 hrecord
    exact ⟨a, ha, hsource⟩

/-- Around a collection in a list with distinct keys are collections with other keys. -/
theorem key_ne_of_nodup {before after : List Spec}
    (hkeys : ((before ++ spec :: after).map (·.key)).Nodup) (hother : other ∈ before ++ after) :
    other.key ≠ spec.key := by
  rw [List.map_append, List.map_cons, List.nodup_middle, List.nodup_cons,
    ← List.map_append] at hkeys
  intro hsame
  exact hkeys.1 (hsame ▸ List.mem_map_of_mem hother)

namespace Placed

variable (h : L.Placed)

include h

/-- A work lists a collection exactly if its item is in it. -/
theorem contains_iff (hspec : spec ∈ L.specs) (hother : other ∈ L.specs)
    (hw : w ∈ L.citable other.key) :
    spec.key ∈ w.collectionKeys ↔ ∃ b ∈ L.items spec.key, w.key = some b.key := by
  obtain ⟨a, ha, hsource⟩ := exists_item hw
  obtain ⟨hkey, hplaces⟩ := h.item other hother a ha w hsource
  rw [hplaces spec hspec, hkey]
  constructor
  · rintro ⟨b, hb, hsame⟩
    exact ⟨b, hb, congrArg some hsame.symm⟩
  · rintro ⟨b, hb, hsame⟩
    exact ⟨b, hb, (Option.some.inj hsame).symm⟩

theorem own_mem (hspec : spec ∈ L.specs) (hw : w ∈ L.citable spec.key) :
    spec.key ∈ w.collectionKeys := by
  obtain ⟨a, ha, hsource⟩ := exists_item hw
  exact ((h.item spec hspec a ha w hsource).2 spec hspec).2 ⟨a, ha, rfl⟩

theorem holds_own (hspec : spec ∈ L.specs) (hw : w ∈ L.citable spec.key) :
    L.holds spec w = true := by
  obtain ⟨b, hb, hsame⟩ := (h.contains_iff hspec hspec hw).1 (h.own_mem hspec hw)
  simp only [holds, Bool.or_eq_true, List.any_eq_true]
  exact .inr ⟨b, hb, by simp [hsame]⟩

/-- A collection shares with all of them at least what it holds, and it shares no more exactly if
the other ones hold nothing of it. -/
theorem copies_eq_iff {roots : List String} (hspec : spec ∈ closure L.specs roots) :
    (L.citable spec.key).length ≤ L.copies roots spec ∧
      (L.copies roots spec = (L.citable spec.key).length ↔
        ∀ other ∈ closure L.specs roots, other.key ≠ spec.key →
          ∀ w ∈ L.citable other.key, L.holds spec w = false) := by
  have hsub := closure_sublist L.specs roots
  have hown : (L.citable spec.key).countP (L.holds spec) = (L.citable spec.key).length :=
    List.countP_eq_length.2 fun w hw => h.holds_own (hsub.subset hspec) hw
  have hkeys := h.keys.sublist (hsub.map Spec.key)
  -- the collection is in the list once, and all others have another key
  obtain ⟨before, after, hcut⟩ := List.append_of_mem hspec
  rw [hcut] at hkeys
  have hcopies : L.copies roots spec = (L.citable spec.key).length +
      ((before ++ after).map fun other => (L.citable other.key).countP (L.holds spec)).sum := by
    unfold copies
    rw [hcut, List.map_append, List.sum_append, List.map_cons, List.sum_cons, hown,
      List.map_append, List.sum_append]
    omega
  have hrest : ((before ++ after).map fun other =>
      (L.citable other.key).countP (L.holds spec)).sum = 0 ↔
      ∀ other ∈ before ++ after, ∀ w ∈ L.citable other.key, L.holds spec w = false := by
    rw [List.sum_eq_zero_iff_forall_eq_nat]
    simp only [List.forall_mem_map, List.countP_eq_zero, Bool.not_eq_true]
  have hmem : ∀ other, other ∈ closure L.specs roots ↔ other = spec ∨ other ∈ before ++ after := by
    intro other
    rw [hcut, List.mem_append, List.mem_cons, List.mem_append]
    exact or_left_comm
  refine ⟨by omega, ?_⟩
  calc L.copies roots spec = (L.citable spec.key).length
      ↔ ((before ++ after).map fun other =>
          (L.citable other.key).countP (L.holds spec)).sum = 0 := by omega
    _ ↔ ∀ other ∈ before ++ after, ∀ w ∈ L.citable other.key, L.holds spec w = false := hrest
    _ ↔ ∀ other ∈ closure L.specs roots, other.key ≠ spec.key →
          ∀ w ∈ L.citable other.key, L.holds spec w = false := by
        constructor
        · intro hnone other hother hkey
          rcases (hmem other).1 hother with rfl | hother
          · exact absurd rfl hkey
          · exact hnone other hother
        · intro hnone other hother
          exact hnone other ((hmem other).2 (.inr hother)) (key_ne_of_nodup hkeys hother)

end Placed

end Catalogue

/-! ## 2. What is stored -/

/-- A collection has the works of the library, each with the collections that it lists. -/
structure Catalogue.Stocks (L : Catalogue) (spec : Spec) (c : Collection) : Prop where
  key : c.key = spec.key
  places : c.works.map (·.collectionKeys) = (L.citable spec.key).map (·.collectionKeys)

namespace Catalogue.Stocks

variable {c kept : Collection} {useCache : Bool}

theorem length_eq (h : L.Stocks spec c) : c.works.length = (L.citable spec.key).length := by
  have hlength := congrArg List.length h.places
  rwa [List.length_map, List.length_map] at hlength

/-- Where nothing is known the works are always reported. -/
theorem of_reports (h : L.Reports [] useCache spec c) : L.Stocks spec c := by
  have hworks : ∀ {works : List Source}, L.works spec.key = .ok works →
      L.citable spec.key = works := by
    intro works hread
    simp [citable, hread, Except.toOption]
  cases h with
  | unchanged found => cases found
  | changed _ read => exact ⟨rfl, by rw [hworks read]; rfl⟩
  | shrunk found _ => cases found

theorem fillKeys (h : L.Stocks spec c) (found : List (String × Json)) :
    L.Stocks spec (fillKeys found c) where
  key := h.key
  places := by
    have hsame : ∀ w, (fillKey found w).collectionKeys = w.collectionKeys := by
      intro w
      unfold fillKey
      split <;> rfl
    rw [works_fillKeys, List.map_map, ← h.places]
    exact List.map_congr_left fun w _ => hsame w

/-- What is merged into an empty store is tagged, and works that list collections keep them. -/
theorem keeps (h : L.Stocks spec c) (placed : L.Placed) (hspec : spec ∈ L.specs)
    (hkeeps : Keeps useCache .empty .empty c kept) : L.Stocks spec kept := by
  have hlists : ∀ w ∈ c.works, w.collectionKeys ≠ [] := by
    intro w hw
    have hmem : w.collectionKeys ∈ (L.citable spec.key).map (·.collectionKeys) :=
      h.places ▸ List.mem_map_of_mem hw
    obtain ⟨w', hw', hsame⟩ := List.mem_map.1 hmem
    exact hsame ▸ List.ne_nil_of_mem (placed.own_mem hspec hw')
  -- nothing was there before that could have been kept
  cases hkeeps with
  | byName found => exact absurd (unchanged?_some found).2.1 List.not_mem_nil
  | byKey _ _ found => cases found
  | @fresh works _ _ tags =>
    refine ⟨h.key, ?_⟩
    rw [← h.places]
    have htagged := (List.forall₂_and_left _ _).2 ⟨hlists, tags⟩
    symm
    apply forall₂_map_eq htagged
    rintro w _ ⟨hlist, id, rfl, -⟩
    show w.collectionKeys = if w.collectionKeys.isEmpty then [c.key] else w.collectionKeys
    rw [if_neg (by simpa using hlist)]

end Catalogue.Stocks

/-! ## 3. Loads -/

section Loads

variable {σ : Type} {P : σ → Prop} (c : Client) (services : Services σ)

/-- The services show a library without a fault.  Requests for citation keys may fail, but they are
not cancelled. -/
structure ShowsPlaced (services : Services σ) (L : Catalogue) (P : σ → Prop) : Prop where
  shows : Shows services.library L P fun _ => False
  steady : ∀ request, (services.web.send request).Meets P (fun e => ∃ cause, e = .fault cause)
    fun _ => True
  placed : L.Placed

variable {services}

theorem ShowsPlaced.collections_meets (h : ShowsPlaced services L P) (hc : 0 < c.attempts)
    (roots : List String) (hread : ∀ spec ∈ closure L.specs roots, ∃ works,
      L.works spec.key = .ok works) {useCache : Bool} :
    (c.collections services roots [] useCache).Meets (Within P) (fun _ => False)
      (Answered (fun _ => False) (List.Forall₂ L.Stocks (closure L.specs roots))) := by
  have hbody : ∀ spec ∈ closure L.specs roots, ¬ L.Omits [] useCache spec →
      Fetches L services.library P (fun _ => False) spec :=
    fun spec hspec _ => .of_read services h.shows.toShowsBodies (hread spec hspec)
  have hfetch := (c.fetch_meets services h.shows.toShowsOutline (.of_none hc) roots hbody).caught
  refine .bind (hfetch.mono (fun _ he => he.1) fun _ hr => hr) ?_
  rintro (cause | collections) ⟨hok, herror⟩
  · exact (herror cause rfl).elim
  · have hstocks : List.Forall₂ L.Stocks (closure L.specs roots) collections :=
      (hok collections rfl).imp fun _ _ => .of_reports
    have hkeyed := c.withKeys_meets (fun cause => ⟨cause, rfl⟩) services h.steady collections
    -- what fails while keys are looked up is caught there, and the works stay without them
    refine .bind (hkeyed.mono ?_ fun _ hq => hq) ?_
    · rintro _ ⟨⟨cause, rfl⟩, note, hnote⟩
      cases hnote
    · rintro _ (rfl | ⟨found, rfl⟩)
      · exact .pure (.inl ⟨_, rfl, hstocks⟩)
      · have hfilled := hstocks.imp fun _ _ h => h.fillKeys found
        exact .pure (.inl ⟨_, rfl, List.forall₂_map_right_iff.2 hfilled⟩)

/-- A session has the collections of a part of the library, as the library has them. -/
structure Synced (L : Catalogue) (roots : List String) (s : Session) : Prop where
  enabled : s.enabled = true
  specs : s.specs = closure L.specs roots
  stocks : List.Forall₂ L.Stocks (closure L.specs roots) s.store.collections

theorem ShowsPlaced.synced (h : ShowsPlaced services L P) (hc : 0 < c.attempts)
    (v : Visit (World σ)) (here : P v.remote.remote) {scope : Scope} (hasked : v.scope? = .ok scope)
    (hscope : scope ≠ .nothing)
    (hread : ∀ spec ∈ closure L.specs scope.roots, ∃ works, L.works spec.key = .ok works)
    (path : Option String) :
    (∃ changed, (v.run (c.library services) (.opened path)).1.result = .ok changed) ∧
      Synced L scope.roots (v.run (c.library services) (.opened path)).1.session := by
  obtain ⟨sent, hstocks, hsession, hresult, -⟩ := c.run_of_meets services (.opened path) v hc
    h.shows.toShowsOutline here rfl hasked hscope (h.collections_meets c hc scope.roots hread)
  rw [hsession]
  refine ⟨⟨_, hresult⟩, rfl, rfl, ?_⟩
  -- from the library to what was sent, and from there to what is kept of it
  have hmerged := forall₂_trans hstocks (settle_mergeAll true .empty .empty sent)
  have hsub := closure_sublist L.specs scope.roots
  apply ((List.forall₂_and_left _ _).2 ⟨fun _ hspec => hsub.subset hspec, hmerged⟩).imp
  rintro spec kept ⟨hspec, sent, hstock, hkeeps⟩
  exact hstock.keeps h.placed hspec hkeeps

end Loads

/-! ## 4. What is counted -/

/-- Whether a work is among those of a key, by the collections that it lists. -/
def lists (key : String) (collectionKeys : List String) : Bool :=
  key == "" || collectionKeys.contains key

theorem worksIn_length (s : Session) (key : String) :
    (s.worksIn (some key)).length = s.works.countP fun w => lists key w.collectionKeys := by
  by_cases hkey : key = ""
  · subst hkey
    exact (congrFun List.countP_true s.works).symm
  · have hfilled : filled? (some key) = some key := by simp [filled?, hkey]
    have hbeq : (key == "") = false := beq_false_of_ne hkey
    unfold Session.worksIn
    rw [hfilled]
    simp only [lists, hbeq, Bool.false_or, List.countP_eq_length_filter]

namespace Catalogue.Placed

variable (h : L.Placed)

include h

theorem lists_eq_holds (hspec : spec ∈ L.specs) (hother : other ∈ L.specs)
    (hw : w ∈ L.citable other.key) : lists spec.key w.collectionKeys = L.holds spec w := by
  rw [Bool.eq_iff_iff]
  simp only [lists, holds, Bool.or_eq_true, List.contains_iff_mem, List.any_eq_true, beq_iff_eq,
    h.contains_iff hspec hother hw]

/-- Beside a collection stands how much the collections that were loaded share with it. -/
theorem worksIn_eq {s : Session} {roots : List String} (hsynced : Synced L roots s)
    (hspec : spec ∈ L.specs) : (s.worksIn (some spec.key)).length = L.copies roots spec := by
  have hsub := closure_sublist L.specs roots
  -- collection by collection, for both sides are sums over those that were loaded
  have hcounts : ∀ other c, other ∈ L.specs ∧ L.Stocks other c →
      (L.citable other.key).countP (L.holds spec) =
        c.works.countP fun w => lists spec.key w.collectionKeys := by
    rintro other c ⟨hother, hstock⟩
    have hplaces := congrArg (List.countP (lists spec.key)) hstock.places
    rw [List.countP_map, List.countP_map] at hplaces
    show _ = c.works.countP (lists spec.key ∘ fun w => w.collectionKeys)
    rw [hplaces]
    apply List.countP_congr
    intro w hw
    rw [← h.lists_eq_holds hspec hother hw]
    exact Iff.rfl
  have hknown := (List.forall₂_and_left _ _).2 ⟨fun _ hmem => hsub.subset hmem, hsynced.stocks⟩
  rw [worksIn_length]
  show List.countP _ (s.store.collections.flatMap Collection.works) = _
  rw [List.countP_flatMap]
  unfold copies
  rw [forall₂_map_eq hknown hcounts]
  rfl

end Catalogue.Placed

end CiteSync.Zotero

namespace CiteSync.Command

open Library Remote Session FrontMatter Zotero

variable {σ : Type} {P : σ → Prop} {L : Catalogue} {services : Services σ}

/-! ## 5. The printed numbers -/

theorem collectionLines_eq {s : Session} (hkeys : (s.specs.map (·.key)).Nodup)
    (henabled : s.enabled = true) :
    collectionLines s = .ok (if s.specs.isEmpty then ["No Zotero collections available."]
      else (outline s.specs).map fun r => r.line (s.worksIn (some r.spec.key)).length) := by
  unfold collectionLines treeLines Session.isActive
  rw [henabled, hasOutline_of_nodup hkeys]
  cases s.specs.isEmpty <;> rfl

/-- The lines after a load without a fault. -/
theorem collectionLines_of_synced {roots : List String} {s : Session} (placed : L.Placed)
    (h : Synced L roots s) :
    collectionLines s = .ok (if (closure L.specs roots).isEmpty then
        ["No Zotero collections available."]
      else (outline (closure L.specs roots)).map fun r => r.line (L.copies roots r.spec)) := by
  have hsub := closure_sublist L.specs roots
  have hkeys := placed.keys.sublist (hsub.map Spec.key)
  have hlines := collectionLines_eq (h.specs ▸ hkeys) h.enabled
  rw [h.specs] at hlines
  -- a row is about a collection of the library, so what stands there is what is shared with it
  have hcounts : ∀ r ∈ outline (closure L.specs roots),
      r.line (s.worksIn (some r.spec.key)).length = r.line (L.copies roots r.spec) := by
    intro r hr
    have houtline := (outline_prints hkeys).isOutline hkeys
    obtain ⟨above, hlineage⟩ := (houtline.mem_iff r.spec).1 (List.mem_map_of_mem hr)
    rw [placed.worksIn_eq h (hsub.subset hlineage.mem)]
  rwa [List.map_congr_left hcounts] at hlines

/-- The load of a command that shows collections. -/
def shownVisit (roots : List String) (remote : World σ) : Visit (World σ) where
  document := documentFor roots
  remote := remote

theorem showCollections_of_ok {library : RemoteLibrary (World σ)} {roots : List String}
    {remote : World σ} {s : Session} {lines : List String}
    (hs : ((shownVisit roots remote).run library (.opened (some documentPath))).1.session = s)
    (hresult : ∃ changed,
      ((shownVisit roots remote).run library (.opened (some documentPath))).1.result = .ok changed)
    (hlines : collectionLines s = .ok lines) :
    ∃ done, (showCollections library roots remote).1 = .ok done ∧ done.lines = lines ∧
      done.session = s := by
  obtain ⟨changed, hresult⟩ := hresult
  subst hs
  unfold showCollections
  have hrun : (Session.opened (some documentPath)).load library (documentFor roots) none 0 remote =
      (shownVisit roots remote).run library (.opened (some documentPath)) := rfl
  simp only [hrun, hresult, hlines]
  exact ⟨_, rfl, rfl, rfl⟩

/-- Where a library is shown without a fault, the number beside a collection is how many works the
collections that were loaded share with it.  This is the number of items that the collection holds,
and that are stored for it, exactly if none of its items is a citable one of another collection that
was loaded; otherwise it is too large. -/
theorem printed_count_is_right_iff (c : Client) (hc : 0 < c.attempts)
    (h : ShowsPlaced services L P) {roots : List String} {scope : Scope}
    (hasked : asked (documentFor roots) none = .ok scope) (hscope : scope ≠ .nothing)
    (hread : ∀ spec ∈ closure L.specs scope.roots, ∃ works, L.works spec.key = .ok works)
    {remote : World σ} (here : P remote.remote) :
    ∃ done, (showCollections (c.library services) roots remote).1 = .ok done ∧
      done.lines = (if (closure L.specs scope.roots).isEmpty then
          ["No Zotero collections available."]
        else (outline (closure L.specs scope.roots)).map fun r =>
          r.line (L.copies scope.roots r.spec)) ∧
      ∀ spec ∈ closure L.specs scope.roots,
        ∃ stored ∈ done.session.store.collections, stored.key = spec.key ∧
          stored.works.length = (L.citable spec.key).length ∧
          stored.works.length ≤ L.copies scope.roots spec ∧
          (L.copies scope.roots spec = stored.works.length ↔
            ∀ other ∈ closure L.specs scope.roots, other.key ≠ spec.key →
              ∀ w ∈ L.citable other.key, L.holds spec w = false) := by
  obtain ⟨hresult, hsynced⟩ := h.synced c hc (shownVisit roots remote) here hasked hscope
    hread (some documentPath)
  have hlines := collectionLines_of_synced h.placed hsynced
  obtain ⟨done, hdone, hshown, hsession⟩ := showCollections_of_ok rfl hresult hlines
  refine ⟨done, hdone, hshown, fun spec hspec => ?_⟩
  rw [hsession]
  obtain ⟨stored, hstored, hstock⟩ := forall₂_exists_right hsynced.stocks hspec
  obtain ⟨hle, hiff⟩ := h.placed.copies_eq_iff hspec
  rw [← hstock.length_eq] at hle hiff
  exact ⟨stored, hstored, hstock.key, hstock.length_eq, hle, hiff⟩

/-- A book that lists these collections. -/
def listedBook (key : String) (collections : List String) : Json :=
  .obj [("key", .str key), ("version", .int 5), ("data", .obj [("itemType", .str "book"),
    ("collections", .arr (collections.map Json.str))])]

/-- The books of a library with three collections: the first one is in two of them. -/
def shelved (key : String) : List Item :=
  if key = "C" then [⟨"I2", 5, listedBook "I2" ["C"]⟩]
  else [⟨"I1", 5, listedBook "I1" ["A", "B"]⟩]

def novels : Spec := { key := "A", name := "Novels", version := 3 }

def poems : Spec := { key := "C", name := "Poems", parentKey := some "A", version := 3 }

def shelvedLibrary : Catalogue where
  specs := [novels, { key := "B", name := "Letters", version := 3 }, poems]
  items := shelved
  listed key := (shelved key).map fun a => (a.key, a.version)
  version := 5

def shelvedHoldings : Holdings where
  collections := .arr [
    .obj [("key", .str "A"), ("version", .int 3), ("data", .obj [("name", .str "Novels")])],
    .obj [("key", .str "B"), ("version", .int 3), ("data", .obj [("name", .str "Letters")])],
    .obj [("key", .str "C"), ("version", .int 3), ("data", .obj [("name", .str "Poems"),
      ("parentCollection", .str "A")])]]
  items := ["A", "B", "C"].map fun key => (key, .arr ((shelved key).map Item.record))
  version := .int 5

theorem shelvedLibrary_keys :
    ∀ spec ∈ shelvedLibrary.specs, spec.key = "A" ∨ spec.key = "B" ∨ spec.key = "C" := by
  decide

theorem shelvedHoldings_holds : Holdings.Holds shelvedLibrary shelvedHoldings := by
  refine ⟨rfl, fun spec hspec => ?_, fun spec hspec => ?_, rfl, rfl⟩
  · rcases shelvedLibrary_keys spec hspec with hkey | hkey | hkey <;> rw [hkey] <;> rfl
  · rcases shelvedLibrary_keys spec hspec with hkey | hkey | hkey <;> rw [hkey] <;> rfl

theorem shelvedLibrary_placed : shelvedLibrary.Placed where
  keys := by decide
  item := by
    have hread : ∀ spec ∈ shelvedLibrary.specs, ∀ a ∈ shelvedLibrary.items spec.key,
        (readSource a.record spec.key).map (fun w => (w.key, w.collectionKeys)) =
          .ok (some a.key, if a.key = "I1" then ["A", "B"] else ["C"]) ∧
        ∀ other ∈ shelvedLibrary.specs, other.key ∈ (if a.key = "I1" then ["A", "B"] else ["C"]) ↔
          ∃ b ∈ shelvedLibrary.items other.key, b.key = a.key := by
      decide +kernel
    intro spec hspec a ha w hw
    obtain ⟨hplace, hiff⟩ := hread spec hspec a ha
    rw [hw] at hplace
    obtain ⟨hkey, hlist⟩ := Prod.mk.inj (Except.ok.inj hplace)
    rw [hlist]
    exact ⟨hkey, hiff⟩

theorem shelvedHoldings_shown :
    ShowsPlaced Holdings.services shelvedLibrary (Holdings.Holds shelvedLibrary) where
  shows := Holdings.service_shows
  steady _ _ hh := ⟨⟨_, rfl⟩, hh⟩
  placed := shelvedLibrary_placed

/-- What is printed for the three collections, with how many works are stored for each. -/
def shelvesShown : Except Trouble (List String × List (String × Nat)) :=
  (showCollections (Holdings.reader.library Holdings.services) []
    { remote := shelvedHoldings }).1.map fun done =>
      (done.lines, done.session.store.collections.map fun k => (k.key, k.works.length))

/-- The number beside the poems is right, the one beside the novels is too large. -/
theorem printed_count_is_right_iff_shelves :
    ∃ done, (showCollections (Holdings.reader.library Holdings.services) []
        { remote := shelvedHoldings }).1 = .ok done ∧
      (∃ stored ∈ done.session.store.collections, stored.key = "C" ∧
        shelvedLibrary.copies [] poems = stored.works.length) ∧
      ∃ stored ∈ done.session.store.collections, stored.key = "A" ∧
        stored.works.length < shelvedLibrary.copies [] novels := by
  let remote : World Holdings := { remote := shelvedHoldings }
  have here : Holdings.Holds shelvedLibrary remote.remote := shelvedHoldings_holds
  have hasked : asked (documentFor []) none = .ok .all := rfl
  have hread : ∀ spec ∈ closure shelvedLibrary.specs Scope.all.roots,
      ∃ works, shelvedLibrary.works spec.key = .ok works := by
    intro spec hspec
    have hknown := (closure_sublist shelvedLibrary.specs Scope.all.roots).subset hspec
    rcases shelvedLibrary_keys spec hknown with hkey | hkey | hkey <;> rw [hkey] <;> exact ⟨_, rfl⟩
  obtain ⟨done, hdone, -, hcounts⟩ := printed_count_is_right_iff Holdings.reader (by decide)
    shelvedHoldings_shown hasked (by decide) hread here
  obtain ⟨p, hp, hpkey, -, -, hpoems⟩ := hcounts poems (.tail _ (.tail _ (.head _)))
  obtain ⟨n, hn, hnkey, -, hle, hnovels⟩ := hcounts novels (.head _)
  have halone : ∀ other ∈ closure shelvedLibrary.specs [], other.key ≠ "C" →
      ∀ w ∈ shelvedLibrary.citable other.key, shelvedLibrary.holds poems w = false := by
    decide +kernel
  have hshared : ¬ ∀ other ∈ closure shelvedLibrary.specs [], other.key ≠ "A" →
      ∀ w ∈ shelvedLibrary.citable other.key, shelvedLibrary.holds novels w = false := by
    decide +kernel
  refine ⟨done, hdone, ⟨p, hp, hpkey, hpoems.2 halone⟩, n, hn, hnkey, ?_⟩
  apply Nat.lt_of_le_of_ne hle
  intro hsame
  exact hshared (hnovels.1 hsame.symm)

/-- The book that is in two collections is counted twice beside both, though each holds one item. -/
theorem shared_book_is_counted_twice :
    ShowsPlaced Holdings.services shelvedLibrary (Holdings.Holds shelvedLibrary) ∧
      Holdings.Holds shelvedLibrary shelvedHoldings ∧
      (shelvedLibrary.specs.map (·.name)).Nodup ∧
      shelvesShown = .ok (["Novels [A] (2 items)", "  Poems [C] (1 items)",
        "Letters [B] (2 items)"], [("A", 1), ("B", 1), ("C", 1)]) :=
  ⟨shelvedHoldings_shown, shelvedHoldings_holds, by decide, by decide +kernel⟩

end CiteSync.Command
