import CiteSync.Proofs.KeyService.Lookup
import CiteSync.Proofs.Zotero.Keying

/-!
# Filling in citation keys

What a client does with fetched collections that lack citation keys: it makes no request where none
is missing, and one request for all of them otherwise.  An answer fills in the missing keys, each
work with what is answered for its item, and touches nothing else; where there is no answer the
collections stay as they are.
-/

namespace CiteSync.Zotero

open Library Remote KeyService

variable {σ : Type} {item : String} {items : List String} {members : List (String × Json)}
variable {collections : List Collection} {known : String → Option String}

/-! ## 1. The items that are asked for -/

/-- A work of that item in one of the collections lacks a citation key. -/
def Missing (collections : List Collection) (item : String) : Prop :=
  ∃ c ∈ collections, ∃ w ∈ c.works, filled? w.id = none ∧ filled? w.key = some item

theorem lacksKey_iff {w : Source} :
    lacksKey w = true ↔ filled? w.id = none ∧ ∃ item, filled? w.key = some item := by
  simp [lacksKey, Option.isSome_iff_exists]

theorem mem_itemKeys {works : List Source} :
    item ∈ itemKeys works ↔ ∃ w ∈ works, filled? w.key = some item := by
  simp [itemKeys]

/-- What is asked for are the items for which a citation key is missing. -/
theorem mem_itemKeys_keyless :
    item ∈ itemKeys (keyless collections) ↔ Missing collections item := by
  rw [mem_itemKeys]
  constructor
  · rintro ⟨w, hw, hitem⟩
    obtain ⟨hmem, hlacks⟩ := List.mem_filter.1 hw
    obtain ⟨c, hc, hwc⟩ := List.mem_flatMap.1 hmem
    exact ⟨c, hc, w, hwc, (lacksKey_iff.1 hlacks).1, hitem⟩
  · rintro ⟨c, hc, w, hw, hid, hitem⟩
    have hlacks : lacksKey w = true := lacksKey_iff.2 ⟨hid, item, hitem⟩
    exact ⟨w, List.mem_filter.2 ⟨List.mem_flatMap.2 ⟨c, hc, hw⟩, hlacks⟩, hitem⟩

/-- Items are asked for in order, and none of them twice. -/
theorem itemKeys_pairwise (works : List Source) : (itemKeys works).Pairwise (· < ·) := by
  have hsorted : (itemKeys works).Pairwise (· ≤ ·) := by
    apply List.Pairwise.imp fun hle => of_decide_eq_true hle
    apply List.pairwise_mergeSort
    · intro a b c hab hbc
      simp only [decide_eq_true_eq] at hab hbc ⊢
      exact String.le_trans hab hbc
    · intro a b
      simp only [Bool.or_eq_true, decide_eq_true_eq]
      exact String.le_total a b
  have hdistinct : (itemKeys works).Nodup :=
    (List.mergeSort_perm _ _).nodup_iff.2 (nodup_eraseDups _)
  exact hsorted.imp₂ (fun a b hle hne => Std.lt_of_le_of_ne hle hne) hdistinct

/-! ## 2. Works with their keys -/

/-- What becomes of a work where citation keys of items are known.  One that has a citation key, or
no item, stays as it is; another gets the citation key of its item, or none, and keeps all else. -/
structure Supplied (known : String → Option String) (w w' : Source) : Prop where
  rest : { w' with id := w.id } = w
  own : filled? w.id ≠ none ∨ filled? w.key = none → w' = w
  named : ∀ item, filled? w.id = none → filled? w.key = some item → w'.id = known item

/-- What becomes of a collection: its works are supplied, each in its place. -/
structure SuppliedIn (known : String → Option String) (c c' : Collection) : Prop where
  shape : c'.toSpec = c.toSpec
  items : Option.Rel (List.Forall₂ (Supplied known)) c.items c'.items

theorem lookup_filterMap (f : String → Option Json) (items : List String) (item : String) :
    Json.lookup (items.filterMap fun key => (f key).map (key, ·)) item =
      if item ∈ items then f item else none := by
  induction items with
  | nil => rfl
  | cons key rest ih =>
    cases hf : f key with
    | none =>
      rw [List.filterMap_cons_none (by rw [hf]; rfl), ih]
      by_cases hkey : item = key
      · subst hkey
        simp [hf]
      · simp [hkey]
    | some v =>
      rw [List.filterMap_cons_some (b := (key, v)) (by rw [hf]; rfl), lookup_cons, ih]
      by_cases hkey : item = key
      · -- an item that comes again further on is answered alike there
        subst hkey
        by_cases hagain : item ∈ rest <;> simp [hf, hagain]
      · simp [hkey, Ne.symm hkey]

/-- The citation keys that are looked up are those that the answer names. -/
theorem foundKey?_keysIn (htexts : ∀ m ∈ members, ∃ text, m.2 = Json.str text)
    (hitem : item ∈ items) :
    foundKey? (keysIn members ownLibrary items) item = namedKey? members ownLibrary item := by
  unfold foundKey? keysIn
  rw [lookup_filterMap, if_pos hitem, answeredKey?_of_texts htexts, Option.map_map]
  cases namedKey? members ownLibrary item <;> rfl

theorem supplied_fillKey {found : List (String × Json)} {w : Source}
    (hfound : ∀ item, filled? w.id = none → filled? w.key = some item →
      foundKey? found item = known item) : Supplied known w (fillKey found w) := by
  unfold fillKey
  by_cases hlacks : lacksKey w = true
  · obtain ⟨hid, item, hitem⟩ := lacksKey_iff.1 hlacks
    rw [if_pos hlacks]
    refine ⟨rfl, ?_, ?_⟩
    · rintro (hown | hnone)
      · exact absurd hid hown
      · rw [hitem] at hnone
        cases hnone
    · intro item' _ hitem'
      have hkey : w.key.getD "" = item' := by
        rw [(Session.filled?_eq_some.1 hitem').1]
        rfl
      show foundKey? found (w.key.getD "") = known item'
      rw [hkey]
      exact hfound item' hid hitem'
  · rw [if_neg hlacks]
    refine ⟨rfl, fun _ => rfl, fun item hid hitem => ?_⟩
    exact absurd (lacksKey_iff.2 ⟨hid, item, hitem⟩) hlacks

theorem suppliedIn_fillKeys {found : List (String × Json)} {c : Collection}
    (hfound : ∀ w ∈ c.works, ∀ item, filled? w.id = none → filled? w.key = some item →
      foundKey? found item = known item) : SuppliedIn known c (fillKeys found c) := by
  refine ⟨rfl, ?_⟩
  unfold Collection.works at hfound
  unfold fillKeys
  cases hitems : c.items with
  | none => exact .none
  | some works =>
    rw [hitems] at hfound
    apply Option.Rel.some
    rw [List.forall₂_map_right_iff]
    exact List.forall₂_same.2 fun w hw => supplied_fillKey (hfound w hw)

/-- An answer in texts supplies the works of all collections alike. -/
theorem forall₂_suppliedIn (htexts : ∀ m ∈ members, ∃ text, m.2 = Json.str text) :
    List.Forall₂ (SuppliedIn (namedKey? members ownLibrary)) collections
      (collections.map
        (fillKeys (keysIn members ownLibrary (itemKeys (keyless collections))))) := by
  rw [List.forall₂_map_right_iff]
  apply List.forall₂_same.2
  intro c hc
  apply suppliedIn_fillKeys
  intro w hw item hid hitem
  exact foundKey?_keysIn htexts (mem_itemKeys_keyless.2 ⟨c, hc, w, hw, hid, hitem⟩)

/-! ## 3. One request at most -/

section Requests

variable (c : Client) (services : Services σ) (w : World σ)

/-- Where nothing is missing, or there is no key service, nothing is done. -/
theorem Client.withKeys_of_complete
    (h : c.keyService = none ∨ ∀ item, ¬ Missing collections item) :
    (c.withKeys services collections).perform w = (.ok collections, w) := by
  unfold Client.withKeys
  cases hservice : c.keyService with
  | none => rfl
  | some endpoint =>
    have hnone : ∀ item, ¬ Missing collections item := h.resolve_left (by simp [hservice])
    have hitems : itemKeys (keyless collections) = [] :=
      List.eq_nil_iff_forall_not_mem.2 fun item hitem => hnone item (mem_itemKeys_keyless.1 hitem)
    rw [hitems]
    rfl

/-- The request for the citation keys that are missing. -/
def missingRequest (endpoint : Endpoint) (collections : List Collection) : Request :=
  endpoint.keyRequest ownLibrary (itemKeys (keyless collections))

/-- What becomes of collections when the lookup of their missing citation keys ends so. -/
def settled (collections : List Collection) :
    Except Failure (List (String × Json)) → Except Failure (List Collection)
  | .ok found => .ok (collections.map (fillKeys found))
  | .error (.fault _) => .ok collections
  | .error (.cancelled note) => .error (.cancelled note)

/-- Where a citation key is missing there is one request, and its reply decides. -/
theorem Client.withKeys_of_missing {endpoint : Endpoint} (hservice : c.keyService = some endpoint)
    (hmissing : Missing collections item) :
    ((c.withKeys services collections).perform w).1 =
        settled collections (readReply ownLibrary (itemKeys (keyless collections))
          ((services.web.send (missingRequest endpoint collections)).perform w.remote).1) ∧
      ((c.withKeys services collections).perform w).2.remote =
        ((services.web.send (missingRequest endpoint collections)).perform w.remote).2 := by
  have hasked : itemKeys (keyless collections) ≠ [] :=
    List.ne_nil_of_mem (mem_itemKeys_keyless.2 hmissing)
  obtain ⟨key, rest, hitems⟩ := List.exists_cons_of_ne_nil hasked
  have hlookup := perform_citationKeys services.web endpoint (List.cons_ne_nil key rest) ownLibrary
    w.remote
  unfold Client.withKeys missingRequest
  rw [hservice, hitems]
  dsimp only
  rw [Call.perform_bind, Call.perform_caught, perform_once, hlookup]
  -- from here on only the outcome of the lookup counts
  generalize readReply ownLibrary (key :: rest) ((services.web.send
    (endpoint.keyRequest ownLibrary (key :: rest))).perform w.remote).1 = outcome
  rcases outcome with (note | cause) | found
  · exact ⟨rfl, rfl⟩
  · exact ⟨rfl, rfl⟩
  · exact ⟨rfl, rfl⟩

end Requests

/-! ## 4. Missing keys are filled in -/

/-- What is done about citation keys by way of a web of which nothing is known but the requests that
are made to it.  Where no key is missing there is no request and nothing changes.  Otherwise there
is one, for the items that lack a key, in order and each once.  If it is answered, each work that
lacks a key gets what the answer names for its item, and all else stays; if it is not, everything
stays.  Items whose keys have no colon are never named alike. -/
theorem missing_keys_are_filled_in (c : Client) (library : Service (σ × List Request))
    (web : Web σ) (collections : List Collection) (w w' : World (σ × List Request))
    (result : Except Failure (List Collection))
    (h : (c.withKeys ⟨library, web.journaled⟩ collections).perform w = (result, w')) :
    (c.keyService = none ∨ (∀ item, ¬ Missing collections item) →
      result = .ok collections ∧ w' = w) ∧
    (∀ endpoint item, c.keyService = some endpoint → Missing collections item →
      ∃ items request reply,
        items.Pairwise (· < ·) ∧ (∀ item, item ∈ items ↔ Missing collections item) ∧
        request = endpoint.keyRequest ownLibrary items ∧
        w'.remote.2 = w.remote.2 ++ [request] ∧
        reply = ((web.send request).perform w.remote.1).1 ∧
        (∀ members, Answers reply members → (∀ m ∈ members, ∃ text, m.2 = Json.str text) →
          ∃ keyed, result = .ok keyed ∧
            List.Forall₂ (SuppliedIn (namedKey? members ownLibrary)) collections keyed) ∧
        ((∀ members, ¬ Answers reply members) → (∀ note, reply ≠ .error (.cancelled note)) →
          result = .ok collections) ∧
        ∀ note, reply = .error (.cancelled note) → result = .error (.cancelled note)) ∧
    ∀ item other : String, ':' ∉ item.toList → ':' ∉ other.toList → item ≠ other →
      (itemNames ownLibrary item).Disjoint (itemNames ownLibrary other) := by
  refine ⟨?_, ?_, fun item other => itemNames_disjoint ownLibrary⟩
  · intro hcomplete
    rw [c.withKeys_of_complete _ w hcomplete] at h
    cases h
    exact ⟨rfl, rfl⟩
  · intro endpoint item hservice hmissing
    obtain ⟨hresult, hremote⟩ :=
      c.withKeys_of_missing ⟨library, web.journaled⟩ w hservice hmissing
    rw [h] at hresult hremote
    simp only [Web.perform_journaled] at hresult hremote
    refine ⟨itemKeys (keyless collections), missingRequest endpoint collections,
      ((web.send (missingRequest endpoint collections)).perform w.remote.1).1, itemKeys_pairwise _,
      fun item => mem_itemKeys_keyless, rfl, by rw [hremote], rfl, ?_, ?_, ?_⟩
    · intro members hanswers htexts
      rw [hresult, hanswers.readReply_eq]
      exact ⟨_, rfl, forall₂_suppliedIn htexts⟩
    · intro hnone hgoing
      obtain ⟨cause, hcause⟩ := readReply_of_unanswered hnone hgoing
      rw [hresult, hcause]
      rfl
    · intro note hnote
      rw [hresult, hnote]
      rfl

/-! ## 5. A novel on two shelves -/

/-- A web that gives every request the same reply. -/
def replying (reply : Except Failure Body) : Web Unit where
  send _ := ExceptT.mk (pure reply)

/-- A library that cannot be reached. -/
def unreachable : Service σ where
  connect _ s := s
  collections := Call.fault (.transport .connection "Connection refused")
  items _ := Call.fault (.transport .connection "Connection refused")
  itemVersions _ := Call.fault (.transport .connection "Connection refused")
  everything _ := Call.fault (.transport .connection "Connection refused")
  libraryVersion := Call.fault (.transport .connection "Connection refused")

/-- A novel without a citation key in two collections, beside a work that has one and a work that is
no item; of the third collection only the shape is there. -/
def unkeyedShelves : List Collection :=
  [{ key := "A", name := "Novels",
     items := some [{ key := some "I1" }, { id := some "mann1901", key := some "I2" }] },
   { key := "B", name := "Letters", items := some [{ key := some "I1" }, { id := some "" }] },
   { key := "C", name := "Drafts" }]

/-- Two citation keys for the novel, the second one under its plain key. -/
def novelKeys : List (String × Json) :=
  [("1:I1", .str "zauberberg"), ("I1", .str "mann1924")]

/-- What a client does about the two shelves when its request has that reply. -/
def fillShelves (reply : Except Failure Body) :
    Except Failure (List Collection) × World (Unit × List Request) :=
  (keyedReader.withKeys ⟨unreachable, (replying reply).journaled⟩ unkeyedShelves).perform
    { remote := ((), []) }

theorem unkeyedShelves_missing : Missing unkeyedShelves "I1" :=
  ⟨_, .head _, _, .head _, rfl, rfl⟩

/-- The novel gets the key under its qualified name on both shelves; it gets none where the reply
cannot be read or the request is cancelled.  Without shelves there is no request. -/
theorem missing_keys_are_filled_in_novel :
    (∃ keyed, (fillShelves (.ok (.json (.obj [("result", .obj novelKeys)])))).1 = .ok keyed ∧
      List.Forall₂ (SuppliedIn (namedKey? novelKeys ownLibrary)) unkeyedShelves keyed) ∧
    namedKey? novelKeys ownLibrary "I1" = some "zauberberg" ∧
    (∃ items, items.Pairwise (· < ·) ∧ "I1" ∈ items ∧
      (fillShelves (.ok .broken)).2.remote.2 = [Endpoint.keyRequest {} ownLibrary items]) ∧
    (fillShelves (.ok .broken)).1 = .ok unkeyedShelves ∧
    (fillShelves (.error (.cancelled ""))).1 = .error (.cancelled "") ∧
    (keyedReader.withKeys ⟨unreachable, (replying (.ok .broken)).journaled⟩ []).perform
      { remote := ((), []) } = (.ok [], { remote := ((), []) }) ∧
    (itemNames ownLibrary "I1").Disjoint (itemNames ownLibrary "I2") := by
  have hfill := fun reply => missing_keys_are_filled_in keyedReader unreachable (replying reply)
    unkeyedShelves { remote := ((), []) } (fillShelves reply).2 (fillShelves reply).1 rfl
  have hanswered : ∃ keyed,
      (fillShelves (.ok (.json (.obj [("result", .obj novelKeys)])))).1 = .ok keyed ∧
        List.Forall₂ (SuppliedIn (namedKey? novelKeys ownLibrary)) unkeyedShelves keyed := by
    obtain ⟨items, request, reply, -, -, -, -, rfl, hanswered, -, -⟩ :=
      (hfill (.ok (.json (.obj [("result", .obj novelKeys)])))).2.1 {} "I1" rfl
        unkeyedShelves_missing
    apply hanswered novelKeys (.members rfl rfl)
    intro m hm
    rcases List.mem_cons.1 hm with rfl | hm
    · exact ⟨_, rfl⟩
    · exact ⟨_, congrArg Prod.snd (List.mem_singleton.1 hm)⟩
  obtain ⟨items, request, reply, hordered, hitems, rfl, hjournal, rfl, -, hfailed, -⟩ :=
    (hfill (.ok .broken)).2.1 {} "I1" rfl unkeyedShelves_missing
  obtain ⟨_, _, _, -, -, -, -, rfl, -, -, hcancelled⟩ :=
    (hfill (.error (.cancelled ""))).2.1 {} "I1" rfl unkeyedShelves_missing
  have hcomplete := (missing_keys_are_filled_in keyedReader unreachable (replying (.ok .broken)) []
    { remote := ((), []) } _ _ rfl).1 (.inr fun item hmissing => by
      obtain ⟨c, hc, -⟩ := hmissing
      cases hc)
  refine ⟨hanswered, by decide, ⟨items, hordered, (hitems "I1").2 unkeyedShelves_missing, hjournal⟩,
    hfailed ?_ ?_, hcancelled "" rfl, Prod.ext hcomplete.1 hcomplete.2, ?_⟩
  · intro members hanswers
    cases hanswers
  · intro note hnote
    cases hnote
  · exact (hfill (.ok .broken)).2.2 "I1" "I2" (by decide) (by decide) (by decide)

end CiteSync.Zotero
