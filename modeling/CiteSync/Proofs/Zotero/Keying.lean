import CiteSync.Proofs.Session.OneKey
import CiteSync.Proofs.Zotero.Loads
import CiteSync.Proofs.Zotero.Records
import CiteSync.Proofs.Zotero.Shelves

/-!
# Citation keys from the key service

What a client with a key service reports: the collections as the library has them, with the keys
that the service answers for the works that lack one.  Whether and what the service answers may
differ from load to load, but within an answer it is the same for all works of an item.  So the
works of an item come alike in a load, and over many loads an item keeps one citation key exactly if
it is never overruled.
-/

namespace CiteSync.Zotero

open Library Remote Session FrontMatter

variable {σ : Type} {P : σ → Prop} {L : Catalogue} {known : List Spec} {useCache : Bool}
variable {item : String} {sent : List Collection}

/-! ## 1. Filling in keys -/

theorem fillKey_key (found : List (String × Json)) (w : Source) :
    (fillKey found w).key = w.key := by
  unfold fillKey
  split <;> rfl

/-- A work keeps its own citation key and gets that of its item otherwise. -/
theorem fillKey_id (found : List (String × Json)) {w : Source} (hitem : filled? w.key = some item) :
    filled? (fillKey found w).id = (filled? w.id).or (filled? (foundKey? found item)) := by
  have hkey : w.key.getD "" = item := by
    rw [(filled?_eq_some.1 hitem).1]
    rfl
  unfold fillKey lacksKey
  rw [hitem, hkey]
  cases hown : filled? w.id with
  | none => simp
  | some id => simp [hown]

theorem works_fillKeys (found : List (String × Json)) (c : Collection) :
    (fillKeys found c).works = c.works.map (fillKey found) := by
  unfold fillKeys Collection.works
  cases c.items <;> rfl

theorem agree_fillKeys (found : List (String × Json)) (agree : Agree item sent) :
    Agree item (sent.map (fillKeys found)) := by
  -- each work of an item goes back to one that was reported
  have hback : ∀ c ∈ sent.map (fillKeys found), ∀ w ∈ c.works, filled? w.key = some item →
      ∃ c' ∈ sent, ∃ w' ∈ c'.works, filled? w'.key = some item ∧ w = fillKey found w' := by
    intro c hc w hw hitem
    obtain ⟨c', hc', rfl⟩ := List.mem_map.1 hc
    rw [works_fillKeys] at hw
    obtain ⟨w', hw', rfl⟩ := List.mem_map.1 hw
    rw [fillKey_key] at hitem
    exact ⟨c', hc', w', hw', hitem, rfl⟩
  intro c hc w hw c' hc' w' hw' hitem hitem'
  obtain ⟨d, hd, v, hv, hvitem, rfl⟩ := hback c hc w hw hitem
  obtain ⟨d', hd', v', hv', hvitem', rfl⟩ := hback c' hc' w' hw' hitem'
  rw [fillKey_id found hvitem, fillKey_id found hvitem',
    agree d hd v hv d' hd' v' hv' hvitem hvitem']

/-- The works of an item come alike in what is reported of a library. -/
theorem agree_of_reports (itemized : L.Itemized) {specs : List Spec}
    (hspecs : ∀ spec ∈ specs, spec ∈ L.specs)
    (hreports : List.Forall₂ (L.Reports known useCache) specs sent) : Agree item sent := by
  have hread : ∀ c ∈ sent, ∀ w ∈ c.works, ∃ spec ∈ L.specs, ∃ works,
      L.works spec.key = .ok works ∧ w ∈ works := by
    intro c hc w hw
    obtain ⟨spec, hspec, hreport⟩ := forall₂_exists_left hreports hc
    cases hreport with
    | unchanged => exact (List.not_mem_nil hw).elim
    | changed _ read => exact ⟨spec, hspecs spec hspec, _, read, hw⟩
    | shrunk _ read => exact ⟨spec, hspecs spec hspec, _, read, hw⟩
  intro c hc w hw c' hc' w' hw' hitem hitem'
  obtain ⟨spec, hspec, works, hworks, hmem⟩ := hread c hc w hw
  obtain ⟨spec', hspec', works', hworks', hmem'⟩ := hread c' hc' w' hw'
  rw [itemized.id_eq hspec hspec' hworks hworks' hmem hmem' hitem hitem']

/-! ## 2. Calls -/

/-- Whatever comes of a request, the state of the web stays among those in `P`. -/
def Steady (P : σ → Prop) (web : KeyService.Web σ) : Prop :=
  ∀ request, (web.send request).Meets P (fun _ => True) fun _ => True

theorem perform_once {α : Type} (call : Call σ α) (w : World σ) :
    (once call).perform w =
      ((call.perform w.remote).1, { w with remote := (call.perform w.remote).2 }) := by
  unfold once
  simp only [Call.perform_bind, Call.perform_get, Call.perform_set]
  rcases (call.perform w.remote).1 with e | a <;> rfl

theorem once_meets {α : Type} {call : Call σ α} {E : Failure → Prop} {Q : α → Prop}
    (h : call.Meets P E Q) : (once call).Meets (Within P) E Q := by
  intro w hw
  rw [perform_once]
  exact h w.remote hw

section Faults

variable {E : Failure → Prop} (hE : ∀ cause, E (.fault cause))

include hE

theorem ofResult_meets {α : Type} (r : Except Fault α) :
    (Call.ofResult r : Call σ α).Meets P E fun _ => True :=
  .ofResult (fun _ _ => trivial) fun cause _ => hE cause

theorem citationKeys_meets {web : KeyService.Web σ}
    (steady : ∀ request, (web.send request).Meets P E fun _ => True)
    (endpoint : KeyService.Endpoint) (itemKeys : List String) (library : Int) :
    (KeyService.citationKeys web endpoint itemKeys library).Meets P E fun _ => True := by
  have hask : ∀ params, (KeyService.ask web endpoint "item.citationkey" params).Meets P
      E fun _ => True := by
    intro params
    unfold KeyService.ask
    have hsend := Call.Meets.bind (steady (endpoint.request "item.citationkey" params))
      fun body _ => ofResult_meets (P := P) hE body.json?
    refine .bind (hsend.caught.mono (fun _ he => he.1) fun _ hr => hr) ?_
    rintro (cause | answer) -
    · exact .throw (hE _)
    · exact ofResult_meets hE _
  unfold KeyService.citationKeys
  split
  · exact .pure trivial
  · exact .bind (hask _) fun _ _ => ofResult_meets hE _

variable (c : Client) (services : Services σ)

/-- Faults of the key service leave the collections without its keys. -/
theorem Client.withKeys_meets
    (steady : ∀ request, (services.web.send request).Meets P E fun _ => True)
    (collections : List Collection) :
    (c.withKeys services collections).Meets (Within P)
      (fun e => E e ∧ ∃ note, e = .cancelled note) fun keyed =>
        keyed = collections ∨ ∃ found, keyed = collections.map (fillKeys found) := by
  unfold Client.withKeys
  cases c.keyService with
  | none => exact .pure (.inl rfl)
  | some endpoint =>
    cases itemKeys (keyless collections) with
    | nil => exact .pure (.inl rfl)
    | cons key rest =>
      have hkeys :=
        (once_meets (citationKeys_meets hE steady endpoint (key :: rest) ownLibrary)).caught
      refine .bind (hkeys.mono (fun _ he => he) fun _ _ => trivial) ?_
      rintro (cause | found) -
      · exact .bind (Q := fun _ => True) (report_meets _ trivial) fun _ _ => .pure (.inl rfl)
      · exact .pure (.inr ⟨found, rfl⟩)

end Faults

variable (c : Client) (services : Services σ)

/-- In an answer about the collections the works of an item come alike. -/
theorem Client.collections_agree (h : Shows services.library L P fun _ => True)
    (steady : Steady P services.web) (itemized : L.Itemized) (roots : List String) :
    (c.collections services roots known useCache).Meets (Within P) (fun _ => True)
      (Answered (fun _ => True) fun sent => ∀ item, Agree item sent) := by
  have hbody : ∀ spec ∈ closure L.specs roots, ¬ L.Omits known useCache spec →
      Fetches L services.library P (fun _ => True) spec :=
    fun _ _ _ => ⟨h.toShowsBodies, fun _ _ => trivial⟩
  have hfetch :=
    (c.fetch_meets services h.toShowsOutline .of_any roots hbody).caught
  refine .bind (hfetch.mono (fun _ he => he.1) fun _ hr => hr) ?_
  rintro (cause | collections) ⟨hok, -⟩
  · exact failedReply_meets "get_collections" trivial
  · have agree : ∀ item, Agree item collections := fun item =>
      agree_of_reports itemized (fun _ hspec => (closure_sublist _ _).subset hspec)
        (hok collections rfl)
    have hkeyed := c.withKeys_meets (fun _ => trivial) services steady collections
    refine .bind (hkeyed.mono (fun _ _ => trivial) fun _ hq => hq) ?_
    rintro _ (rfl | ⟨found, rfl⟩)
    · exact .pure (.inl ⟨_, rfl, agree⟩)
    · exact .pure (.inl ⟨_, rfl, fun item => agree_fillKeys found (agree item)⟩)

/-! ## 3. Loads -/

/-- The services show a library in which every item is one record, and no call changes that. -/
structure ShowsItems (services : Services σ) (L : Catalogue) (P : σ → Prop) : Prop where
  shows : Shows services.library L P fun _ => True
  steady : Steady P services.web
  itemized : L.Itemized

theorem Client.sent_agree (h : ShowsItems services L P) (s : Session) (v : Visit (World σ))
    (here : P v.remote.remote) (hsent : v.sent? (c.library services) s = some sent) :
    Agree item sent := by
  obtain ⟨scope, -, -, -, hsent⟩ := v.asked_of_sent (c.library services) s hsent
  obtain ⟨-, hw⟩ := c.tree_fits services v h.shows.toShowsOutline .of_any here scope
  obtain ⟨hfits, -⟩ :=
    arrival_meets (c.collections_agree services h.shows h.steady h.itemized scope.roots) hw
  exact (Answered.of_sent hfits hsent).2 item

/-- However loads over the client alternate with changes of the library, and whatever the key
service answers in each of them, an item has one citation key in all collections after each load
exactly if no load fetches a copy of it with a key of its own while it carries another copy over
with a different one.  An item that always comes with the same key, or always without, has one. -/
theorem item_keeps_one_key_iff (path : Option String) (vs : List (Visit (World σ)))
    (shown : ∀ v ∈ vs, ∃ L P, ShowsItems services L P ∧ P v.remote.remote) (item : String) :
    ((∀ first, first <+: vs →
        OneKey item (Visit.after (c.library services) (.opened path) first).works) ↔
      ∀ first sent, Visit.Sends (c.library services) path vs first sent →
        ¬ Overruled item (Visit.merged (c.library services) path first sent)) ∧
    ∀ key, (∀ first sent, Visit.Sends (c.library services) path vs first sent →
        Brings item key sent) →
      ∀ first, first <+: vs →
        OneKey item (Visit.after (c.library services) (.opened path) first).works := by
  have quiet := c.library_quiet services
  have agree : ∀ first sent, Visit.Sends (c.library services) path vs first sent →
      Agree item sent := by
    rintro first sent ⟨v, hinitial, hsent⟩
    have hv : v ∈ vs := hinitial.subset (List.mem_append_right _ List.mem_cons_self)
    obtain ⟨L, P, hshows, here⟩ := shown v hv
    exact c.sent_agree services hshows _ v here hsent
  have hiff := Visit.oneKey_after_iff quiet agree
  exact ⟨hiff, fun key brings => hiff.2 fun _ _ hsends =>
    Visit.not_overruled_of_brings quiet brings hsends⟩

/-! ## 4. A novel on two shelves -/

def novel : Json :=
  .obj [("key", .str "I1"), ("version", .int 5), ("data", .obj [("itemType", .str "book"),
    ("creators", .arr [.obj [("lastName", .str "Mann")]]), ("date", .str "1924")])]

/-- The holdings of a library with two collections that a novel is in.  The first of them changes
with the library. -/
def Holdings.twoShelves (version : Int) : Holdings where
  collections := .arr [
    .obj [("key", .str "A"), ("version", .int version), ("data", .obj [("name", .str "Novels")])],
    .obj [("key", .str "B"), ("version", .int 3), ("data", .obj [("name", .str "Letters")])]]
  items := [("A", .arr [novel]), ("B", .arr [novel])]
  version := .int version

/-- The library that they are of. -/
def Catalogue.twoShelves (version : Int) : Catalogue where
  specs := [{ key := "A", name := "Novels", version },
    { key := "B", name := "Letters", version := 3 }]
  items _ := [⟨"I1", 5, novel⟩]
  listed _ := [("I1", 5)]
  version := version

/-- A key service that is reached only once the library has come to version 6. -/
def lateKeys : KeyService.Web Holdings where
  send _ := do
    match (← get).version with
    | .int 6 => return .json (.obj [("result", .obj [("1:I1", .str "zauberberg")])])
    | _ => Call.fault (.transport .connection "Connection refused")

def lateServices : Services Holdings where
  library := Holdings.service
  web := lateKeys

def keyedReader : Client where
  connection := { libraryId := "1" }
  keyService := some {}

/-- A load of the two collections while the library is at that version. -/
def shelfVisit (version : Int) : Visit (World Holdings) where
  given := some .all
  remote := { remote := .twoShelves version }

theorem lateKeys_steady (P : Holdings → Prop) : Steady P lateKeys := by
  intro request h hh
  unfold lateKeys
  simp only [Call.perform_bind, Call.perform_get]
  split
  · exact ⟨trivial, hh⟩
  · exact ⟨trivial, hh⟩

theorem Catalogue.twoShelves_itemized (version : Int) : (twoShelves version).Itemized where
  record := by
    intro spec _ spec' _ a ha b hb _
    rw [List.mem_singleton.1 ha, List.mem_singleton.1 hb]
  key := by
    intro spec hspec a ha w hread
    rw [List.mem_singleton.1 ha] at hread ⊢
    have hkey : (readSource novel spec.key).map (·.key) = .ok (some "I1") := by
      rcases List.mem_cons.1 hspec with rfl | hspec
      · rfl
      · rw [List.mem_singleton.1 hspec]
        rfl
    change readSource novel spec.key = .ok w at hread
    rw [hread] at hkey
    exact Except.ok.inj hkey

theorem Holdings.twoShelves_holds {version : Int} (h : version = 5 ∨ version = 6) :
    Holds (Catalogue.twoShelves version) (twoShelves version) := by
  rcases h with rfl | rfl
  all_goals
    refine ⟨rfl, fun spec hspec => ?_, fun spec hspec => ?_, rfl, rfl⟩
    · rcases List.mem_cons.1 hspec with rfl | hspec
      · rfl
      · rw [List.mem_singleton.1 hspec]
        rfl
    · rcases List.mem_cons.1 hspec with rfl | hspec
      · rfl
      · rw [List.mem_singleton.1 hspec]
        rfl

theorem shelfVisit_shown {version : Int} (h : version = 5 ∨ version = 6) :
    ∃ L P, ShowsItems lateServices L P ∧ P (shelfVisit version).remote.remote :=
  ⟨_, _, ⟨Holdings.service_shows.mono fun _ hnone => hnone.elim, lateKeys_steady _,
    Catalogue.twoShelves_itemized version⟩, Holdings.twoShelves_holds h⟩

def shelfLoads : List (Visit (World Holdings)) := [shelfVisit 5, shelfVisit 6]

theorem shelfLoads_works :
    ((Visit.after (keyedReader.library lateServices) (.opened none) shelfLoads).works.map
      fun w => (w.key, w.id)) =
      [(some "I1", some "zauberberg"), (some "I1", some "mann1924")] := by
  decide +kernel

theorem shelfLoads_shown :
    ∀ v ∈ shelfLoads, ∃ L P, ShowsItems lateServices L P ∧ P v.remote.remote := by
  intro v hv
  rcases List.mem_cons.1 hv with rfl | hv
  · exact shelfVisit_shown (.inl rfl)
  · rw [List.mem_singleton.1 hv]
    exact shelfVisit_shown (.inr rfl)

theorem shelfVisit_brings {first : List (Visit (World Holdings))} {sent : List Collection}
    (h : Visit.Sends (keyedReader.library lateServices) none [shelfVisit 5] first sent) :
    Brings "I1" none sent := by
  obtain ⟨v, hinitial, hsent⟩ := h
  have hnil : first = [] := by
    have hlength := hinitial.length_le
    rw [List.length_append, List.length_singleton, List.length_singleton] at hlength
    exact List.length_eq_zero_iff.1 (by omega)
  subst hnil
  obtain rfl : v = shelfVisit 5 := List.mem_singleton.1 (hinitial.subset List.mem_cons_self)
  have hids : (((shelfVisit 5).sent? (keyedReader.library lateServices) (.opened none)).map
      fun sent => (sent.flatMap Collection.works).map (·.id)) = some [none, none] := by
    decide +kernel
  obtain ⟨sent', hsent', hworks⟩ := Option.map_eq_some_iff.1 hids
  obtain rfl : sent = sent' := Option.some.inj (hsent.symm.trans hsent')
  intro c hc w hw _
  have hid : w.id ∈ (sent.flatMap Collection.works).map (·.id) :=
    List.mem_map.2 ⟨w, List.mem_flatMap.2 ⟨c, hc, hw⟩, rfl⟩
  rw [hworks] at hid
  have hnone : w.id = none := by simpa using hid
  rw [hnone]
  rfl

/-- After the first load the novel has one citation key.  In the second one the copy that is fetched
again is overruled. -/
theorem item_keeps_one_key_iff_shelves :
    OneKey "I1" (Visit.after (keyedReader.library lateServices) (.opened none)
      [shelfVisit 5]).works ∧
    ∃ first sent, Visit.Sends (keyedReader.library lateServices) none shelfLoads first sent ∧
      Overruled "I1" (Visit.merged (keyedReader.library lateServices) none first sent) := by
  constructor
  · have hone : ∀ v ∈ [shelfVisit 5], ∃ L P, ShowsItems lateServices L P ∧ P v.remote.remote :=
      fun v hv => shelfLoads_shown v (List.mem_cons.2 (.inl (List.mem_singleton.1 hv)))
    exact (item_keeps_one_key_iff keyedReader lateServices none [shelfVisit 5] hone "I1").2 none
      (fun _ _ => shelfVisit_brings) _ List.prefix_rfl
  · by_contra hnone
    have hall := (item_keeps_one_key_iff keyedReader lateServices none shelfLoads shelfLoads_shown
      "I1").1.2 fun first sent hsends hover => hnone ⟨first, sent, hsends, hover⟩
    have hsame := (hall _ List.prefix_rfl).id_eq (by decide) (some "zauberberg") (some "mann1924")
      (by simp [shelfLoads_works]) (by simp [shelfLoads_works])
    exact absurd hsame (by decide)

/-- The copy that is fetched again has the key of the service, the other one has the key that was
made up while the service could not be reached. -/
theorem late_keys_split_item :
    ¬ OneKey "I1" (Visit.after (keyedReader.library lateServices) (.opened none)
      shelfLoads).works := by
  intro oneKey
  have hsame := oneKey.id_eq (by decide) (some "zauberberg") (some "mann1924")
    (by simp [shelfLoads_works]) (by simp [shelfLoads_works])
  exact absurd hsame (by decide)

end CiteSync.Zotero
