import CiteSync.Proofs.Completion.Loaded
import CiteSync.Proofs.Completion.Offers
import CiteSync.Proofs.Completion.Sorting
import CiteSync.Remote.Script

/-!
# Narrowing what is shown

What is shown is the sorted list of all that the providers have loaded.  Narrowing it does not go
through that list: every provider ranks its own matches and cuts them off, and what they find is
sorted anew.  For a bibliography and the cross references of a document the result is all the same a
part of what is shown, in the same order: the candidates that mention what was typed.
-/

namespace CiteSync.Completion

open Library Remote Session

/-! ## 1. What a candidate mentions -/

/-- What is written about a candidate, in lower case. -/
def Candidate.described (c : Candidate) : String :=
  match c.origin with
  | .none => ""
  | .work w => description w
  | .reference r => Text.lower r.title

/-- Whether what was typed, in lower case, is a part of the id of a candidate or of what is written
about it. -/
def Candidate.mentions (typed : String) (c : Candidate) : Bool :=
  Text.contains (Text.lower c.id) typed || Text.contains c.described typed

theorem startsWith_iff {s needle : String} :
    Text.startsWith s needle = true ↔ needle.toList <+: s.toList :=
  List.isPrefixOf_iff_prefix

theorem contains_iff {s needle : String} :
    Text.contains s needle = true ↔ needle.toList <:+: s.toList := by
  rw [Text.contains, Text.containsChars_iff]
  exact exists_congr fun _ => exists_congr fun _ => eq_comm

theorem contains_of_startsWith {s needle : String} (h : Text.startsWith s needle = true) :
    Text.contains s needle = true :=
  contains_iff.2 (startsWith_iff.1 h).isInfix

theorem firstOf_of_length_le {α : Type} {count : Int} {xs : List α}
    (h : (xs.length : Int) ≤ count) : firstOf count xs = xs := by
  have hnonneg : 0 ≤ count := by omega
  rw [firstOf, if_pos hnonneg, List.take_of_length_le (by omega)]

theorem firstOf_nil {α : Type} (count : Int) : firstOf count ([] : List α) = [] := by
  unfold firstOf
  split <;> exact List.take_nil

/-! ## 2. Works -/

variable {typed token : String} {works : List Source}

theorem rank?_isSome (typed : String) (w : Source) :
    (rank? typed w).isSome = (workCandidate w).mentions typed := by
  have hstarts : Text.startsWith (Text.lower (w.id.getD "")) typed = true →
      Text.contains (Text.lower (w.id.getD "")) typed = true := contains_of_startsWith
  have hdescribed : (workCandidate w).described = description w := rfl
  unfold rank? Candidate.mentions
  rw [hdescribed]
  show _ = (Text.contains (Text.lower (w.id.getD "")) typed || Text.contains (description w) typed)
  grind

theorem rank?_cases (typed : String) (w : Source) :
    rank? typed w = some 0 ∨ rank? typed w = some 1 ∨ rank? typed w = some 2 ∨
      rank? typed w = none := by
  unfold rank?
  grind

/-- The works of all ranks are those that mention what was typed. -/
theorem ofRank_perm (typed : String) (works : List Source) :
    (ofRank typed 0 works ++ ofRank typed 1 works ++ ofRank typed 2 works).Perm
      (works.filter fun w => (workCandidate w).mentions typed) := by
  simp only [← rank?_isSome]
  induction works with
  | nil => exact .refl _
  | cons w works ih =>
    unfold ofRank at ih ⊢
    rcases rank?_cases typed w with hrank | hrank | hrank | hrank
    · simp only [List.filter_cons, hrank]
      exact ih.cons w
    · simp only [List.filter_cons, hrank]
      exact (List.perm_middle.append_right _).trans (ih.cons w)
    · simp only [List.filter_cons, hrank]
      exact List.perm_middle.trans (ih.cons w)
    · simp only [List.filter_cons, hrank]
      exact ih

theorem matching_perm (works : List Source) (token : String) :
    (matching works token).Perm
      ((distinctWorks works).filter fun w => (workCandidate w).mentions (Text.lower token)) :=
  ofRank_perm _ _

theorem candidates_ids_nodup {s : Session} (h : s.Sound) :
    (s.candidates.map Candidate.id).Nodup := by
  have hsome : ((s.candidates.map Candidate.id).map some).Nodup := by
    rw [List.map_map]
    have hids := candidates_ids h.whole
    exact hids ▸ nodup_eraseDups _
  exact hsome.of_map _

/-- A session finds those of its candidates that mention what was typed. -/
theorem search_finds {s : Session} (h : s.Sound) (token : String) {limit : Int}
    (hlimit : ∀ offers, s.currentCandidates = some offers → (offers.length : Int) ≤ limit) :
    Finds (Candidate.mentions (Text.lower token)) (s.search token limit)
      (s.currentCandidates.getD []) := by
  unfold currentCandidates at hlimit ⊢
  cases hloaded : s.hasLoaded with
  | true =>
    rw [hloaded] at hlimit
    have hroom : ((matching s.works token).length : Int) ≤ limit := by
      have hall : (s.candidates.length : Int) ≤ limit := hlimit _ rfl
      have hle := List.length_filter_le
        (fun w => (workCandidate w).mentions (Text.lower token)) (distinctWorks s.works)
      rw [Session.candidates, List.length_map] at hall
      rw [(matching_perm s.works token).length_eq]
      omega
    refine ⟨candidates_ids_nodup h, ?_⟩
    show ((firstOf limit (matching s.works token)).map workCandidate).Perm
      (((distinctWorks s.works).map workCandidate).filter _)
    rw [firstOf_of_length_le hroom, List.filter_map]
    exact (matching_perm s.works token).map workCandidate
  | false =>
    -- nothing is stored, so nothing is found
    have hempty : s.works = [] := by
      rw [Session.works, h.unloaded hloaded]
      rfl
    have hnothing : s.search token limit = [] := by
      unfold Session.search
      rw [hempty]
      exact congrArg (List.map workCandidate) (firstOf_nil limit)
    rw [hnothing]
    exact ⟨List.nodup_nil, .refl _⟩

/-! ## 3. References -/

variable {l : ReferenceList}

theorem matchingReferences_perm (rs : List Reference) (token : String) :
    (matchingReferences rs token).Perm
      (rs.filter fun r => r.candidate.mentions (Text.lower token)) := by
  have hstarts : ∀ r, startsKey (Text.lower token) r = true →
      describes (Text.lower token) r = true := by
    intro r h
    rw [describes, contains_of_startsWith h, Bool.true_or]
  have hsplit := List.filter_append_perm (startsKey (Text.lower token))
    (rs.filter (describes (Text.lower token)))
  rw [List.filter_filter, List.filter_filter] at hsplit
  refine List.Perm.trans (.of_eq ?_) hsplit
  unfold matchingReferences
  refine congrArg₂ (· ++ ·) (List.filter_congr fun r _ => ?_) rfl
  cases h : startsKey (Text.lower token) r with
  | false => rfl
  | true => rw [hstarts r h]; rfl

/-- The references that mention what was typed are found. -/
theorem references_find (hkeys : (l.references.map Reference.key).Nodup) (token : String)
    {limit : Int}
    (hlimit : ∀ offers, l.currentCandidates = some offers → (offers.length : Int) ≤ limit) :
    Finds (Candidate.mentions (Text.lower token)) (l.search token limit)
      (l.currentCandidates.getD []) := by
  have hoffers : l.currentCandidates.getD [] = l.references.map Reference.candidate := by
    unfold ReferenceList.currentCandidates ReferenceList.references
    cases l.known <;> rfl
  have hfirst : firstOf limit (matchingReferences l.references token) =
      matchingReferences l.references token := by
    cases hknown : l.known with
    | none =>
      rw [ReferenceList.references, hknown]
      exact firstOf_nil limit
    | some rs =>
      have hall : (rs.length : Int) ≤ limit := by
        have hle := hlimit (rs.map Reference.candidate) (by
          rw [ReferenceList.currentCandidates, hknown]
          rfl)
        rwa [List.length_map] at hle
      have hle := List.length_filter_le (fun r => r.candidate.mentions (Text.lower token)) rs
      refine firstOf_of_length_le ?_
      rw [ReferenceList.references, hknown, Option.getD_some,
        (matchingReferences_perm rs token).length_eq]
      omega
  rw [hoffers]
  constructor
  case ids => rwa [List.map_map]
  case perm =>
    unfold ReferenceList.search
    rw [hfirst, List.filter_map]
    exact (matchingReferences_perm l.references token).map Reference.candidate

/-! ## 4. Providers -/

namespace Provider

variable {σ : Type} {q : Provider σ} {providers : List (Provider σ)}

/-- What a provider has to offer right now. -/
def offers (q : Provider σ) : List Candidate := q.current.getD []

/-- A provider that does not know a key, finds what matches of its offers, and is none the worse
for being looked into. -/
structure Narrows (token : String) (limit : Int) (found : List Candidate) (q : Provider σ) : Prop
    where
  exact : q.exact (completeKey token) = (.ok false, q)
  search : q.search token limit = (.ok (some found), q)
  finds : Finds (Candidate.mentions (Text.lower token)) found q.offers

theorem anyExact_of_none {key : String} (h : ∀ q ∈ providers, q.exact key = (.ok false, q)) :
    anyExact key providers = (.ok false, providers) := by
  induction providers with
  | nil => rfl
  | cons q rest ih =>
    have hrest := ih fun q hq => h q (List.mem_cons_of_mem _ hq)
    rw [anyExact, h q List.mem_cons_self]
    simp only [hrest]

theorem searchAll_of_narrows {token : String} {limit : Int} {found : List (List Candidate)}
    (h : List.Forall₂ (Narrows token limit) found providers) :
    searchAll token limit providers = (.ok found.flatten, providers) := by
  induction h with
  | nil => rfl
  | cons hq _ ih =>
    rw [searchAll, hq.search]
    simp only [ih]
    rfl

/-- What providers of distinct candidates find is what is shown of them without what does not
match. -/
theorem narrow_of_narrows {token : String} {limit : Int} {found : List (List Candidate)}
    (h : List.Forall₂ (Narrows token limit) found providers) (hall : showsAll token = false)
    (hdistinct : (((providers.map offers).flatten).map Candidate.identity).Nodup) :
    narrow (merge (providers.map Provider.current)) token limit providers =
      (.ok ((merge (providers.map Provider.current)).filter
        (Candidate.mentions (Text.lower token))), providers, []) := by
  have hmerge : merge (providers.map Provider.current) = sorted (providers.map offers).flatten := by
    rw [merge, List.flatMap_map]
    rfl
  have hexact : anyExact (completeKey token) providers = (.ok false, providers) :=
    anyExact_of_none fun q hq => by
      obtain ⟨_, _, hnarrows⟩ := forall₂_exists_left h hq
      exact hnarrows.exact
  have hfinds : List.Forall₂ (Finds (Candidate.mentions (Text.lower token))) found
      (providers.map offers) := by
    rw [List.forall₂_map_right_iff]
    exact h.imp fun _ _ hnarrows => hnarrows.finds
  unfold narrow matches?
  rw [hall, hexact]
  simp only [Bool.false_eq_true, if_false, searchAll_of_narrows h]
  rw [hmerge, ← sorted_of_finds hfinds hdistinct]
  rfl

theorem bibliography_narrows {b : Bibliography σ} (h : b.session.Sound) (token : String)
    {limit : Int}
    (hlimit : ∀ offers, b.session.currentCandidates = some offers →
      (offers.length : Int) ≤ limit)
    (hknown : ∀ c ∈ b.session.currentCandidates.getD [], c.id ≠ completeKey token) :
    Narrows token limit (b.session.search token limit) (.bibliography b) where
  exact := by
    have hunknown : b.session.knows (completeKey token) = false := by
      rw [Bool.eq_false_iff, Ne, knows_iff h.whole]
      rintro ⟨c, hc, hid⟩
      refine hknown c ?_ hid
      unfold currentCandidates
      cases hloaded : b.session.hasLoaded with
      | true => exact hc
      | false =>
        rw [Session.candidates, Session.works, h.unloaded hloaded] at hc
        exact absurd hc List.not_mem_nil
    rw [Provider.exact, hunknown]
  search := rfl
  finds := search_finds h token hlimit

theorem references_narrow {l : ReferenceList} (hkeys : (l.references.map Reference.key).Nodup)
    (token : String) {limit : Int}
    (hlimit : ∀ offers, l.currentCandidates = some offers → (offers.length : Int) ≤ limit)
    (hknown : ∀ c ∈ l.currentCandidates.getD [], c.id ≠ completeKey token) :
    Narrows token limit (l.search token limit) (.references l : Provider σ) where
  exact := by
    have hunknown : l.knows (completeKey token) = false := by
      unfold ReferenceList.knows ReferenceList.references
      unfold ReferenceList.currentCandidates at hknown
      cases hl : l.known with
      | none => rfl
      | some rs =>
        rw [hl] at hknown
        refine List.any_eq_false.2 fun r hr hkey => ?_
        exact hknown r.candidate (List.mem_map_of_mem hr) (beq_iff_eq.1 hkey)
    rw [Provider.exact, hunknown]
  search := rfl
  finds := references_find hkeys token hlimit

end Provider

/-! ## 5. Panels -/

/-- Candidates of two kinds, whose ids are distinct within each kind, are distinct. -/
theorem identities_nodup {cs ds : List Candidate} {kind other : String}
    (hcs : (cs.map Candidate.id).Nodup) (hds : (ds.map Candidate.id).Nodup)
    (hkind : ∀ c ∈ cs, c.kind = kind) (hother : ∀ d ∈ ds, d.kind = other) (hne : kind ≠ other) :
    ((cs ++ ds).map Candidate.identity).Nodup := by
  have hids : ∀ {es : List Candidate}, (es.map Candidate.id).Nodup →
      (es.map Candidate.identity).Nodup := by
    intro es h
    refine List.Nodup.of_map Prod.fst ?_
    rwa [List.map_map]
  rw [List.map_append, List.nodup_append]
  refine ⟨hids hcs, hids hds, fun first hfirst second hsecond hsame => ?_⟩
  obtain ⟨c, hc, rfl⟩ := List.mem_map.1 hfirst
  obtain ⟨d, hd, rfl⟩ := List.mem_map.1 hsecond
  have hkinds : c.kind = d.kind := congrArg Prod.snd hsame
  rw [hkind c hc, hother d hd] at hkinds
  exact hne hkinds

namespace Panel

variable {σ : Type} {library : RemoteLibrary σ} {p : Panel σ} {b : Bibliography σ}
  {l : ReferenceList}

theorem kind_of_work {c : Candidate} (hc : c ∈ b.session.currentCandidates.getD []) :
    c.kind = bibliographyKind := by
  unfold currentCandidates Session.candidates at hc
  split at hc
  · obtain ⟨w, -, rfl⟩ := List.mem_map.1 hc
    rfl
  · exact absurd hc List.not_mem_nil

theorem kind_of_reference {c : Candidate} (hc : c ∈ l.currentCandidates.getD []) :
    c.kind = referenceKind := by
  unfold ReferenceList.currentCandidates at hc
  cases hknown : l.known with
  | none =>
    rw [hknown] at hc
    exact absurd hc List.not_mem_nil
  | some rs =>
    rw [hknown] at hc
    obtain ⟨r, -, rfl⟩ := List.mem_map.1 hc
    rfl

variable (library) in
/-- A sound bibliography and the cross references of a document, in either order. -/
inductive Pair : List (Provider σ) → Prop
  | worksFirst {b : Bibliography σ} (sound : b.Sound library) (l : ReferenceList) :
    Pair [.bibliography b, .references l]
  | referencesFirst (l : ReferenceList) {b : Bibliography σ} (sound : b.Sound library) :
    Pair [.references l, .bibliography b]

theorem Pair.turns {called warned : Prop} {providers providers' : List (Provider σ)}
    (h : Pair library providers)
    (hturns : List.Forall₂ (Provider.Turns library called warned) providers providers') :
    Pair library providers' := by
  cases h with
  | worksFirst sound l =>
    cases hturns with
    | cons hfirst hrest =>
      cases hrest with
      | cons hsecond hnone =>
        cases hnone
        obtain ⟨b', rfl⟩ := hfirst.bibliography
        obtain ⟨l', rfl⟩ := hsecond.references
        exact .worksFirst (hfirst.keeps (Provider.Sound library) Provider.Turn.sound sound) l'
  | referencesFirst l sound =>
    cases hturns with
    | cons hfirst hrest =>
      cases hrest with
      | cons hsecond hnone =>
        cases hnone
        obtain ⟨l', rfl⟩ := hfirst.references
        obtain ⟨b', rfl⟩ := hsecond.bibliography
        exact .referencesFirst l' (hsecond.keeps (Provider.Sound library) Provider.Turn.sound sound)

/-- A token that narrows the list of a panel, which has room for all that is loaded. -/
structure Narrowing (p : Panel σ) (token : String) : Prop where
  /-- It is not blank, and holds no identifier of a work. -/
  typed : Text.trim token.toList ≠ []
  free : Citation.hasDoi token = false
  /-- It is not a complete key, whatever mark is behind it. -/
  unknown : ∀ loaded ∈ p.current, ∀ c ∈ loaded.getD [], c.id ≠ completeKey token
  room : ∀ loaded ∈ p.current, ∀ offers ∈ loaded, (offers.length : Int) ≤ p.limit
  keys : ∀ l, .references l ∈ p.providers → (l.references.map Reference.key).Nodup

theorem Narrowing.showsAll {token : String} (h : p.Narrowing token) : showsAll token = false := by
  rw [Completion.showsAll, h.free, Bool.or_false]
  exact decide_eq_false h.typed

theorem Narrowing.bibliography {token : String} (h : p.Narrowing token) (sound : b.session.Sound)
    (hmem : .bibliography b ∈ p.providers) :
    Provider.Narrows token p.limit (b.session.search token p.limit) (.bibliography b) := by
  have hcurrent : b.session.currentCandidates ∈ p.current := List.mem_map_of_mem hmem
  exact Provider.bibliography_narrows sound token (h.room _ hcurrent) (h.unknown _ hcurrent)

theorem Narrowing.references {token : String} (h : p.Narrowing token)
    (hmem : .references l ∈ p.providers) :
    Provider.Narrows token p.limit (l.search token p.limit) (.references l : Provider σ) := by
  have hcurrent : l.currentCandidates ∈ p.current := List.mem_map_of_mem hmem
  exact Provider.references_narrow (h.keys l hmem) token (h.room _ hcurrent)
    (h.unknown _ hcurrent)

/-- Two providers of candidates of different kinds. -/
theorem narrowList_of_two {q r : Provider σ} {token kind other : String}
    {found found' : List Candidate} (hproviders : p.providers = [q, r])
    (hq : Provider.Narrows token p.limit found q) (hr : Provider.Narrows token p.limit found' r)
    (hall : showsAll token = false) (hkind : ∀ c ∈ q.offers, c.kind = kind)
    (hother : ∀ c ∈ r.offers, c.kind = other) (hne : kind ≠ other) :
    p.narrowList (merge p.current) token =
      (.ok ((merge p.current).filter (Candidate.mentions (Text.lower token))), p) := by
  have hnarrows : List.Forall₂ (Provider.Narrows token p.limit) [found, found'] p.providers := by
    rw [hproviders]
    exact .cons hq (.cons hr .nil)
  have hdistinct :
      (((p.providers.map Provider.offers).flatten).map Candidate.identity).Nodup := by
    rw [hproviders]
    show ((q.offers ++ (r.offers ++ [])).map Candidate.identity).Nodup
    rw [List.append_nil]
    exact identities_nodup hq.finds.ids hr.finds.ids hkind hother hne
  have hnarrow := Provider.narrow_of_narrows hnarrows hall hdistinct
  unfold narrowList
  rw [current, hnarrow]
  simp only [report, List.append_nil]

theorem Pair.narrowList (h : Pair library p.providers) {token : String}
    (hnarrowing : p.Narrowing token) :
    p.narrowList (merge p.current) token =
      (.ok ((merge p.current).filter (Candidate.mentions (Text.lower token))), p) := by
  have hall := hnarrowing.showsAll
  have hworks := fun (b : Bibliography σ) (sound : b.session.Sound) =>
    hnarrowing.bibliography sound
  have hreferences := fun l : ReferenceList => hnarrowing.references (l := l)
  have hkinds : bibliographyKind ≠ referenceKind := by decide
  generalize hproviders : p.providers = providers at h hworks hreferences
  cases h with
  | @worksFirst b sound l =>
    have hb := hworks b sound.session (List.mem_cons_self ..)
    have hl := hreferences l (List.mem_cons_of_mem _ (List.mem_cons_self ..))
    exact narrowList_of_two hproviders hb hl hall (fun _ => kind_of_work)
      (fun _ => kind_of_reference) hkinds
  | @referencesFirst l b sound =>
    have hl := hreferences l (List.mem_cons_self ..)
    have hb := hworks b sound.session (List.mem_cons_of_mem _ (List.mem_cons_self ..))
    exact narrowList_of_two hproviders hl hb hall (fun _ => kind_of_reference)
      (fun _ => kind_of_work) hkinds.symm

/-- Whatever was loaded and refreshed, what is shown is narrowed to the candidates that mention what
was typed, in the order in which they are shown. -/
theorem narrowing_keeps_what_mentions (library : RemoteLibrary σ) (path : Option String)
    (occurrences : List Occurrence) (remote : σ) (gated treeGated : Bool)
    (known : ReferenceList) (limit : Option Int) (providers : List (Provider σ))
    (hproviders :
      providers = [.bibliography { session := lived path occurrences, remote, gated, treeGated },
        .references known] ∨
      providers = [.references known,
        .bibliography { session := lived path occurrences, remote, gated, treeGated }])
    (moves : List Move) (token : String)
    (hnarrowing : ((ofProviders providers limit).course library moves).Narrowing token) :
    ((ofProviders providers limit).course library moves).narrowList
        (merge ((ofProviders providers limit).course library moves).current) token =
      (.ok ((merge ((ofProviders providers limit).course library moves).current).filter
          (Candidate.mentions (Text.lower token))),
        (ofProviders providers limit).course library moves) := by
  have sound : ({ session := lived path occurrences, remote, gated, treeGated } :
      Bibliography σ).Sound library :=
    ⟨_, _, .new library _ remote gated treeGated, (Traffic.Sound.opened path).history occurrences⟩
  have hpair : Pair library (ofProviders providers limit).providers := by
    rcases hproviders with rfl | rfl
    · exact .worksFirst sound known
    · exact .referencesFirst known sound
  exact (hpair.turns (course_turns library moves)).narrowList hnarrowing

/-- Two figures, one of which is about Smith. -/
def figures : ReferenceList where
  answers := [.ok [{ kind := "fig", name := "a", title := "Smith's apparatus" },
    { kind := "fig", name := "b" }]]

/-- The bibliography of a document with a history, and the figures. -/
def smithPanel : Panel Script :=
  (ofProviders [.bibliography { session := lived none forgetting, remote := {} },
    .references figures] none).course Script.library [.bringUpToDate 1 {}, .happen]

/-- Once the figures are known, the list is narrowed to works by Smith and a figure. -/
theorem narrowing_keeps_what_mentions_smith :
    smithPanel.narrowList (merge smithPanel.current) "smith" =
        (.ok ((merge smithPanel.current).filter (Candidate.mentions "smith")), smithPanel) ∧
      smithPanel.current.map (fun loaded => (loaded.getD []).map fun c =>
        (c.id, c.mentions "smith")) =
          [[("smith2020", true), ("smith2020a", true), ("own", true)],
            [("fig-a", true), ("fig-b", false)]] := by
  have htyped : smithPanel.Narrowing "smith" := by
    refine ⟨by decide, by decide, by decide, by decide, fun l hl => ?_⟩
    have hknown : l.references.map Reference.key = ["fig-a", "fig-b"] := by
      rcases List.mem_cons.1 hl with hfirst | hrest
      · cases hfirst
      · rcases List.mem_cons.1 hrest with hsecond | hnone
        · obtain rfl := Provider.references.inj hsecond
          rfl
        · cases hnone
    rw [hknown]
    decide
  have hlower : Text.lower "smith" = "smith" := by decide
  have hnarrowed := narrowing_keeps_what_mentions Script.library none forgetting {} false
    false figures none _ (.inl rfl) [.bringUpToDate 1 {}, .happen] "smith" htyped
  rw [hlower] at hnarrowed
  exact ⟨hnarrowed, by decide⟩

end Panel

end CiteSync.Completion
