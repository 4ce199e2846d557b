import CiteSync.Proofs.Session.Visit
import CiteSync.Remote.Script

/-!
# Whose works a collection holds

A stored collection holds the works that were last sent for its key, as long as no collection is
reported under the name and the version of a stored one that has another key.  Collections are
matched by name so that their works survive a change of keys; where two share a name and a version,
one takes the works of the other.
-/

namespace CiteSync.Session

open Library Remote FrontMatter

/-! ## 1. What was last sent -/

/-- The works that an answer sends for a key, if it sends any. -/
def sentBody? (sent : List Collection) (key : String) : Option (List Source) :=
  (sent.find? (·.key == key)).bind (·.items)

/-- The works that were last sent for a key, by the answers so far, the last one first. -/
def lastBody? (answers : List (List Collection)) (key : String) : Option (List Source) :=
  answers.findSome? (sentBody? · key)

variable {sent : List Collection} {answers : List (List Collection)} {c : Collection}

theorem sentBody?_of_mem (hkeys : (sent.map (·.key)).Nodup) (hc : c ∈ sent) :
    sentBody? sent c.key = c.items := by
  have hfind : sent.find? (·.key == c.key) = some c := find?_of_nodup_map hkeys hc
  unfold sentBody?
  rw [hfind]
  rfl

theorem lastBody?_of_sent (hkeys : (sent.map (·.key)).Nodup) (hc : c ∈ sent)
    {works : List Source} (hitems : c.items = some works) :
    lastBody? (sent :: answers) c.key = some works := by
  unfold lastBody?
  rw [List.findSome?_cons, sentBody?_of_mem hkeys hc, hitems]

theorem lastBody?_of_omitted (hkeys : (sent.map (·.key)).Nodup) (hc : c ∈ sent)
    (hitems : c.items = none) : lastBody? (sent :: answers) c.key = lastBody? answers c.key := by
  unfold lastBody?
  rw [List.findSome?_cons, sentBody?_of_mem hkeys hc, hitems]

/-! ## 2. Remotes -/

/-- What an answer has to be like, given the session that asked and the answers before. -/
abbrev Rule := Session → List (List Collection) → List Collection → Prop

/-- The sessions that loads lead to, one after the other, with their answers, the last one first. -/
inductive Heard {σ : Type} (library : RemoteLibrary σ) (rule : Rule) :
    Session → List (List Collection) → Prop
  | opened (path : Option String) : Heard library rule (.opened path) []
  | loaded {s : Session} {answers : List (List Collection)} (v : Visit σ)
      (before : Heard library rule s answers)
      (fair : ∀ sent, v.sent? library s = some sent → rule s answers sent) :
      Heard library rule (v.run library s).1.session ((v.sent? library s).toList ++ answers)

/-- An answer has distinct keys, keeps the names of collections, and leaves works out only of a
known collection at an unchanged version while the cache may be used. -/
structure Lawful (s : Session) (answers : List (List Collection)) (sent : List Collection) :
    Prop where
  keys : (sent.map (·.key)).Nodup
  names : ∀ earlier ∈ answers, ∀ d ∈ earlier, ∀ c ∈ sent, d.key = c.key → d.name = c.name
  omitted : ∀ c ∈ sent, c.items = none → s.trustsCache = true ∧
    ∃ spec ∈ s.store.specs, spec.key = c.key ∧ spec.version = c.version

/-- While the cache may be used, an answer moreover reports no collection under the name and the
version of a stored one that has another key. -/
structure Apart (s : Session) (answers : List (List Collection)) (sent : List Collection) : Prop
    extends Lawful s answers sent where
  apart : s.trustsCache = true → ∀ c ∈ sent, ∀ known ∈ s.store.collections,
    known.name = c.name → known.version = c.version → known.key = c.key

/-- While the cache may be used, an answer moreover sends no new works for a stored collection at
the version that it is stored at. -/
structure Distinct (s : Session) (answers : List (List Collection)) (sent : List Collection) : Prop
    extends Apart s answers sent where
  steady : s.trustsCache = true → ∀ c ∈ sent, ∀ works, c.items = some works →
    ∀ known ∈ s.store.collections, known.key = c.key → known.version = c.version →
      lastBody? answers c.key = some works

/-! ## 3. One load -/

/-- The works of a collection are those that were last sent for its key. -/
def HoldsLast (answers : List (List Collection)) (c : Collection) : Prop :=
  ∃ works, lastBody? answers c.key = some works ∧ KeptFrom c.key works c.items

/-- A store has distinct keys and holds what was last sent. -/
structure Store.Current (store : Store) (answers : List (List Collection)) : Prop where
  keys : (store.collections.map (·.key)).Nodup
  holds : ∀ c ∈ store.collections, HoldsLast answers c

theorem Store.Current.empty : Store.empty.Current answers where
  keys := List.nodup_nil
  holds _ hc := (List.not_mem_nil hc).elim

variable {s : Session}

theorem Distinct.holdsLast (h : Distinct s answers sent) (hstore : s.store.Current answers)
    (hc : c ∈ sent) {kept : Collection}
    (hkeeps : Keeps s.trustsCache s.store s.store c kept) : HoldsLast (sent :: answers) kept := by
  cases hkeeps with
  | @byName known found =>
    -- the name and the version are those of one stored collection, the one of this key
    obtain ⟨htrusted, hknown, hname, hversion⟩ := unchanged?_some found
    have hkey := h.apart htrusted c hc known hknown hname hversion
    obtain ⟨works, hlast, hkept⟩ := hstore.holds known hknown
    rw [hkey] at hlast hkept
    refine ⟨works, ?_, hkept⟩
    show lastBody? (sent :: answers) c.key = some works
    cases hitems : c.items with
    | none => rw [lastBody?_of_omitted h.keys hc hitems, hlast]
    | some again =>
      have hsteady := h.steady htrusted c hc again hitems known hknown hkey hversion
      rw [lastBody?_of_sent h.keys hc hitems, ← hsteady, hlast]
  | @byKey known _ homitted found =>
    obtain ⟨hknown, hkey⟩ := Store.findByKey?_some found
    obtain ⟨works, hlast, hkept⟩ := hstore.holds known hknown
    rw [hkey] at hlast hkept
    refine ⟨works, ?_, hkept⟩
    show lastBody? (sent :: answers) c.key = some works
    rw [lastBody?_of_omitted h.keys hc homitted, hlast]
  | @fresh tags _ sentOrNew htags =>
    cases hitems : c.items with
    | none =>
      obtain ⟨-, spec, hspec, hkey, -⟩ := h.omitted c hc hitems
      obtain ⟨known, hfound, -⟩ := Store.findByKey?_of_spec hstore.keys hspec
      rw [hkey, sentOrNew hitems] at hfound
      cases hfound
    | some works =>
      have hworks : c.works = works := by
        rw [Collection.works, hitems]
        rfl
      rw [hworks] at htags
      exact ⟨works, lastBody?_of_sent h.keys hc hitems, tags, rfl, htags⟩

theorem Distinct.current (h : Distinct s answers sent) (hstore : s.store.Current answers) :
    Store.Current ⟨settle (mergeAll s.trustsCache s.store s.store sent)⟩ (sent :: answers) := by
  have hmerge := settle_mergeAll s.trustsCache s.store s.store sent
  refine ⟨?_, fun kept hkept => ?_⟩
  · show ((settle _).map (·.key)).Nodup
    rw [settle_keys]
    exact h.keys
  · obtain ⟨c, hc, hkeeps⟩ := forall₂_exists_left hmerge hkept
    exact h.holdsLast hstore hc hkeeps

/-! ## 4. Runs of loads -/

theorem Heard.current {σ : Type} {library : RemoteLibrary σ}
    (h : Heard library Distinct s answers) :
    s.store.Current answers := by
  -- a load that commits nothing leaves the answers as they were, or the store empty
  induction h with
  | opened path => exact .empty
  | @loaded s answers v _ fair ih =>
    rcases v.run_store library s with ⟨sent, hsent, -, hstore⟩ | ⟨hnone, hstore⟩ | ⟨-, hstore⟩
    · rw [hstore, hsent]
      exact (fair sent hsent).current ih
    · rw [hstore, hnone]
      exact ih
    · rw [hstore]
      exact .empty

/-- After every run of loads of one session the works that are stored for a key are those that were
last sent for it. -/
theorem stored_works_are_last_sent {σ : Type} {library : RemoteLibrary σ}
    (h : Heard library Distinct s answers) (hc : c ∈ s.store.collections) :
    ∃ works, lastBody? answers c.key = some works ∧ KeptFrom c.key works c.items :=
  h.current.holds c hc

/-! ## 5. Two collections of one name -/

/-- Two collections of one name, at these versions and with these works. -/
def drafts (first second : Int) (one two : Option (List Source)) : List Collection :=
  [{ key := "K1", name := "Drafts", version := first, items := one },
    { key := "K2", name := "Drafts", version := second, items := two }]

/-- Their works. -/
def withBodies (first second : Int) : List Collection :=
  drafts first second (some [{ id := some "one" }]) (some [{ id := some "two" }])

/-- A load that is sent these collections. -/
def sending (sent : List Collection) : Visit Script where
  given := some .all
  remote := { coming := [{ collections := .ok (.success sent none) }] }

/-- The session after two collections of one name were sent with their works. -/
def draftsStored (first second : Int) : Session :=
  ((sending (withBodies first second)).run Script.library (.opened none)).1.session

/-- The session after the same collections were sent once more, without their works. -/
def draftsKept (first second : Int) : Session :=
  ((sending (drafts first second none none)).run Script.library
    (draftsStored first second)).1.session

theorem heard_drafts {rule : Rule} {first second : Int}
    (hstored : rule (.opened none) [] (withBodies first second))
    (hkept : rule (draftsStored first second) [withBodies first second]
      (drafts first second none none)) :
    Heard Script.library rule (draftsKept first second)
      [drafts first second none none, withBodies first second] := by
  have hfirst : Heard Script.library rule (draftsStored first second)
      [withBodies first second] :=
    .loaded (sending (withBodies first second)) (.opened none) fun sent hsent => by
      cases hsent
      exact hstored
  exact .loaded (sending (drafts first second none none)) hfirst fun sent hsent => by
    cases hsent
    exact hkept

theorem drafts_keys (first second : Int) (one two : Option (List Source)) :
    ((drafts first second one two).map (·.key)).Nodup := by
  show ["K1", "K2"].Nodup
  decide

theorem draftsStored_specs (first second : Int) :
    (draftsStored first second).store.specs =
      (drafts first second none none).map Collection.spec := rfl

/-- Both answers are as they should be. -/
theorem lawful_drafts (first second : Int) :
    Lawful (.opened none) [] (withBodies first second) ∧
      Lawful (draftsStored first second) [withBodies first second]
        (drafts first second none none) := by
  refine ⟨⟨drafts_keys .., ?_, ?_⟩, ⟨drafts_keys .., ?_, ?_⟩⟩
  · intro earlier hnone
    cases hnone
  · intro c hc homitted
    rcases List.mem_pair.1 hc with rfl | rfl <;> cases homitted
  · intro earlier hearlier d hd c hc _
    have hnames : ∀ one two, ∀ x ∈ drafts first second one two, x.name = "Drafts" := by
      intro one two x hx
      rcases List.mem_pair.1 hx with rfl | rfl <;> rfl
    rw [List.mem_singleton.1 hearlier] at hd
    rw [hnames _ _ d hd, hnames _ _ c hc]
  · intro c hc _
    refine ⟨rfl, c.spec, ?_, rfl, rfl⟩
    rw [draftsStored_specs]
    exact List.mem_map.2 ⟨c, hc, rfl⟩

/-- At versions of their own the two are told apart. -/
theorem distinct_drafts :
    Distinct (.opened none) [] (withBodies 1 2) ∧
      Distinct (draftsStored 1 2) [withBodies 1 2] (drafts 1 2 none none) := by
  obtain ⟨hstored, hkept⟩ := lawful_drafts 1 2
  refine ⟨⟨⟨hstored, ?_⟩, ?_⟩, ⟨⟨hkept, ?_⟩, ?_⟩⟩
  · intro _ _ _ known hnone
    cases hnone
  · intro _ _ _ _ _ known hnone
    cases hnone
  · intro _ c hc known hknown _ hversion
    have hspec : known.spec ∈ (drafts 1 2 none none).map Collection.spec := by
      rw [← draftsStored_specs]
      exact List.mem_map.2 ⟨known, hknown, rfl⟩
    have hpair : (known.key = "K1" ∧ known.version = 1) ∨
        (known.key = "K2" ∧ known.version = 2) := by
      rcases List.mem_pair.1 hspec with hs | hs
      · exact .inl ⟨congrArg (fun s : Spec => s.key) hs, congrArg (fun s : Spec => s.version) hs⟩
      · exact .inr ⟨congrArg (fun s : Spec => s.key) hs, congrArg (fun s : Spec => s.version) hs⟩
    -- of the four pairs the versions leave those of one key
    rcases List.mem_pair.1 hc with rfl | rfl <;> rcases hpair with ⟨hk, hv⟩ | ⟨hk, hv⟩
    · exact hk
    · exact absurd (hversion.symm.trans hv) (by decide)
    · exact absurd (hversion.symm.trans hv) (by decide)
    · exact hk
  · intro _ c hc works hworks
    rcases List.mem_pair.1 hc with rfl | rfl <;> cases hworks

/-- At versions of their own both collections keep their works, the second one too. -/
theorem stored_works_are_last_sent_namesakes :
    ∃ c ∈ (draftsKept 1 2).store.collections, c.key = "K2" ∧
      ∃ works, lastBody? [drafts 1 2 none none, withBodies 1 2] c.key = some works ∧
        KeptFrom c.key works c.items := by
  have hheard := heard_drafts distinct_drafts.1 distinct_drafts.2
  obtain ⟨c, hc, hkey⟩ : ∃ c ∈ (draftsKept 1 2).store.collections, c.key = "K2" :=
    ⟨_, List.mem_of_getElem? (i := 1) rfl, rfl⟩
  exact ⟨c, hc, hkey, stored_works_are_last_sent hheard hc⟩

theorem two_is_not_one {key : String} {kept : List Source}
    (htags : List.Forall₂ (TaggedFrom key) [{ id := some "two" }] kept)
    (hids : kept.map (·.id) = [some "one"]) : False := by
  cases htags with
  | cons htag hrest =>
    cases hrest
    obtain ⟨id, rfl, hown⟩ := htag
    have htwo : id = "two" := hown "two" rfl
    rw [htwo] at hids
    have habsurd : [some "two"] = [some "one"] := hids
    exact absurd habsurd (by decide)

/-- At one version the second collection takes the works of the first, although every answer is as
it should be: to keep to the law is not enough. -/
theorem lawful_is_not_enough :
    ¬ ∀ (σ : Type) (library : RemoteLibrary σ) (s : Session) (answers : List (List Collection)),
      Heard library Lawful s answers → ∀ c ∈ s.store.collections,
        ∃ works, lastBody? answers c.key = some works ∧ KeptFrom c.key works c.items := by
  intro hall
  obtain ⟨hstored, hkept⟩ := lawful_drafts 1 1
  have hheard := heard_drafts hstored hkept
  obtain ⟨c, hc, hkey, hid⟩ : ∃ c ∈ (draftsKept 1 1).store.collections, c.key = "K2" ∧
      ∀ works, c.items = some works → works.map (·.id) = [some "one"] := by
    refine ⟨_, List.mem_of_getElem? (i := 1) rfl, rfl, ?_⟩
    intro works hworks
    cases hworks
    rfl
  obtain ⟨works, hlast, kept, hitems, htags⟩ := hall _ _ _ _ hheard c hc
  rw [hkey] at hlast
  have hworks : works = [{ id := some "two" }] := (Option.some.inj hlast).symm
  rw [hworks] at htags
  exact two_is_not_one htags (hid kept hitems)

/-! ## 6. Works that are sent again -/

/-- A collection at its first version, with one work. -/
def draft (id : String) : List Collection :=
  [{ key := "K", name := "Drafts", version := 1, items := some [{ id := some id }] }]

/-- The session after a collection was sent with one work. -/
def draftStored : Session := ((sending (draft "one")).run Script.library (.opened none)).1.session

/-- The session after it was sent again with another. -/
def draftResent : Session := ((sending (draft "two")).run Script.library draftStored).1.session

theorem heard_draft : Heard Script.library Apart draftResent [draft "two", draft "one"] := by
  have hfirst : Heard Script.library Apart draftStored [draft "one"] :=
    .loaded (sending (draft "one")) (.opened none) fun sent hsent => by
      cases hsent
      refine ⟨⟨by decide, ?_, ?_⟩, ?_⟩
      · intro earlier hnone
        cases hnone
      · intro c hc homitted
        rw [List.mem_singleton.1 hc] at homitted
        cases homitted
      · intro _ c _ known hnone
        cases hnone
  exact .loaded (sending (draft "two")) hfirst fun sent hsent => by
    cases hsent
    refine ⟨⟨by decide, ?_, ?_⟩, ?_⟩
    · intro earlier hearlier d hd c hc _
      rw [List.mem_singleton.1 hearlier] at hd
      rw [List.mem_singleton.1 hd, List.mem_singleton.1 hc]
    · intro c hc homitted
      rw [List.mem_singleton.1 hc] at homitted
      cases homitted
    · intro _ c hc known hknown _ _
      rw [List.mem_singleton.1 hc, List.mem_singleton.1 hknown]
      rfl

/-- Other works that are sent at an unchanged version are not taken: to tell namesakes apart is not
enough either. -/
theorem apart_is_not_enough :
    ¬ ∀ (σ : Type) (library : RemoteLibrary σ) (s : Session) (answers : List (List Collection)),
      Heard library Apart s answers → ∀ c ∈ s.store.collections,
        ∃ works, lastBody? answers c.key = some works ∧ KeptFrom c.key works c.items := by
  intro hall
  obtain ⟨c, hc, hkey, hid⟩ : ∃ c ∈ draftResent.store.collections, c.key = "K" ∧
      ∀ works, c.items = some works → works.map (·.id) = [some "one"] := by
    refine ⟨_, List.mem_of_getElem? (i := 0) rfl, rfl, ?_⟩
    intro works hworks
    cases hworks
    rfl
  obtain ⟨works, hlast, kept, hitems, htags⟩ := hall _ _ _ _ heard_draft c hc
  rw [hkey] at hlast
  have hworks : works = [{ id := some "two" }] := (Option.some.inj hlast).symm
  rw [hworks] at htags
  exact two_is_not_one htags (hid kept hitems)

end CiteSync.Session
