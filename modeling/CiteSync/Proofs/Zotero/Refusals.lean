import CiteSync.Proofs.Zotero.Keying

/-!
# Failures as replies

Whatever the services answer, and however their calls fail, the client replies to a question about
the collections.  A question about the collection tree fails exactly if there is a listing and it
cannot be read; the same listing makes the reply about the collections one that failed.
-/

namespace CiteSync.Zotero

open Library Remote

variable {σ α β : Type} {P : σ → Prop}

/-! ## 1. Calls that are not cancelled -/

/-- A failure that is a fault. -/
def IsFault (e : Failure) : Prop := ∃ cause, e = .fault cause

/-- Started in `P` a call ends in `P`, with whatever value or fault; it is not cancelled. -/
def Uncancelled (P : σ → Prop) (call : Call σ α) : Prop := call.Meets P IsFault fun _ => True

/-- The calls on the services of a client are not cancelled. -/
structure Services.Uncancelled (services : Services σ) (P : σ → Prop) : Prop where
  connect : ∀ connection s, P s → P (services.library.connect connection s)
  collections : Zotero.Uncancelled P services.library.collections
  items : ∀ key, Zotero.Uncancelled P (services.library.items key)
  itemVersions : ∀ key, Zotero.Uncancelled P (services.library.itemVersions key)
  everything : ∀ page, Zotero.Uncancelled P (services.library.everything page)
  libraryVersion : Zotero.Uncancelled P services.library.libraryVersion
  send : ∀ request, Zotero.Uncancelled P (services.web.send request)

theorem isFault_fault (cause : Fault) : IsFault (.fault cause) := ⟨cause, rfl⟩

theorem tolerates_isFault (attempts : Int) : Tolerates attempts IsFault :=
  ⟨.inr fun _ => isFault_fault _, fun _ _ => isFault_fault _⟩

namespace Uncancelled

theorem pure (a : α) : Uncancelled P (Pure.pure a : Call σ α) := Call.Meets.pure trivial

theorem bind {call : Call σ α} {next : α → Call σ β} (h : Uncancelled P call)
    (hnext : ∀ a, Uncancelled P (next a)) : Uncancelled P (call >>= next) :=
  Call.Meets.bind h fun a _ => hnext a

theorem ofResult (r : Except Fault α) : Uncancelled P (Call.ofResult r : Call σ α) :=
  ofResult_meets isFault_fault r

/-- With its faults among its values, a call that is not cancelled always has one. -/
theorem caught {call : Call σ α} (h : Uncancelled P call) :
    call.caught.Meets P (fun _ => False) fun _ => True := by
  apply (Call.Meets.caught h).mono
  · rintro _ ⟨⟨cause, rfl⟩, note, hnote⟩
    cases hnote
  · exact fun _ _ => trivial

end Uncancelled

/-! ## 2. What the client fetches -/

section Fetching

variable (c : Client) {services : Services σ} (calm : services.Uncancelled P)

include calm

theorem Client.attempt_uncancelled (task : String) {call : Call σ α} (h : Uncancelled P call) :
    Uncancelled (Within P) (c.attempt services task call) :=
  c.attempt_meets services task calm.connect h (tolerates_isFault c.attempts)

theorem Client.fetchCollections_uncancelled :
    Uncancelled (Within P) (c.fetchCollections services) := by
  apply c.attempt_uncancelled calm
  exact calm.collections.bind calm.everything

theorem Client.withWorks_uncancelled (spec : Spec) (version : Int) (count : Nat) :
    Uncancelled (Within P) (c.withWorks services spec version count) := by
  have hitems : Uncancelled (Within P) (c.fetchItems services spec.key) :=
    c.attempt_uncancelled calm _ ((calm.items spec.key).bind calm.everything)
  apply hitems.bind
  intro items
  apply (Uncancelled.ofResult (readWorks spec.key items)).bind
  exact fun works => .pure _

theorem Client.libraryVersionOnce_uncancelled (before : Option Int) :
    Uncancelled (Within P) (c.libraryVersionOnce services before) := by
  unfold Client.libraryVersionOnce
  split
  · exact .pure _
  · exact (c.attempt_uncancelled calm _ calm.libraryVersion).bind fun v => .ofResult _

theorem Client.fetchOne_uncancelled (known : List Spec) (useCache : Bool) (spec : Spec)
    (library : Option Int) :
    Uncancelled (Within P) (c.fetchOne services known useCache spec library) := by
  have hversions : Uncancelled (Within P) (c.fetchItemVersions services spec.key) :=
    c.attempt_uncancelled calm _ (calm.itemVersions spec.key)
  apply hversions.bind
  intro answer
  apply (Uncancelled.ofResult (readItemVersions answer)).bind
  intro versions
  dsimp only
  cases verdict (knownSpec? known spec.key) useCache (highest spec.version versions)
    versions.length with
  | unchanged version => exact .pure _
  | changed version => exact (c.withWorks_uncancelled calm spec _ _).bind fun _ => .pure _
  | shrunk before =>
    apply (c.libraryVersionOnce_uncancelled calm library).bind
    intro version
    exact (c.withWorks_uncancelled calm spec _ _).bind fun _ => .pure _

theorem Client.fetchEach_uncancelled (known : List Spec) (useCache : Bool) (specs : List Spec)
    (library : Option Int) :
    Uncancelled (Within P) (c.fetchEach services known useCache specs library) := by
  induction specs generalizing library with
  | nil => exact .pure _
  | cons spec rest ih =>
    apply (c.fetchOne_uncancelled calm known useCache spec library).bind
    intro fetched
    exact (ih fetched.2).bind fun _ => .pure _

/-- The collections that a document asks for, with their works. -/
def Client.fetchAsked (c : Client) (services : Services σ) (roots : List String)
    (known : List Spec) (useCache : Bool) : Call (World σ) (List Collection) := do
  c.fetchEach services known useCache (← selected roots (← c.fetchCollections services)) none

theorem Client.fetchAsked_uncancelled (roots : List String) (known : List Spec)
    (useCache : Bool) :
    Uncancelled (Within P) (c.fetchAsked services roots known useCache) := by
  apply (c.fetchCollections_uncancelled calm).bind
  intro listing
  have hselected : Uncancelled (Within P) (selected roots listing : Call (World σ) (List Spec)) :=
    (Uncancelled.ofResult (readListing listing)).bind fun specs =>
      Uncancelled.bind (report_meets _ trivial) fun _ => .pure _
  exact hselected.bind fun specs => c.fetchEach_uncancelled calm known useCache specs none

end Fetching

/-! ## 3. The two questions -/

/-- The reply that tells of a fault. -/
def refusal (cause : Fault) : Reply α := .failure cause.message cause.warning?

section Questions

variable (c : Client) (services : Services σ) (roots : List String) (w : World σ)

/-- What becomes of the question about the tree hangs on the listing alone. -/
theorem Client.collectionSpecs_of_listing {listing : Json}
    (h : ((c.fetchCollections services).perform w).1 = .ok listing) :
    ((c.collectionSpecs services roots).perform w).1 =
      match readListing listing with
      | .ok specs => .ok (.success (closure specs roots) none)
      | .error cause => .error (.fault cause) := by
  unfold Client.collectionSpecs
  rw [Call.perform_bind, Call.perform_caught_of_ok h]
  cases hread : readListing listing with
  | ok specs =>
    simp only [Call.perform_bind, selected, hread]
    rfl
  | error cause =>
    simp only [Call.perform_bind, selected, hread]
    rfl

/-- A listing that does not arrive is told of in the reply about the tree. -/
theorem Client.collectionSpecs_of_fault {cause : Fault}
    (h : ((c.fetchCollections services).perform w).1 = .error (.fault cause)) :
    ((c.collectionSpecs services roots).perform w).1 = .ok (refusal cause) := by
  unfold Client.collectionSpecs
  rw [Call.perform_bind, Call.perform_caught_of_fault h]
  rfl

variable (known : List Spec) (useCache : Bool)

theorem Client.collections_eq :
    c.collections services roots known useCache = (do
      match ← (c.fetchAsked services roots known useCache).caught with
      | .ok collections => return .success (← c.withKeys services collections) none
      | .error cause => failedReply "get_collections" cause) := rfl

/-- A fault on the way to the collections is told of in the reply about them. -/
theorem Client.collections_of_fault {cause : Fault}
    (h : ((c.fetchAsked services roots known useCache).perform w).1 = .error (.fault cause)) :
    ((c.collections services roots known useCache).perform w).1 = .ok (refusal cause) := by
  rw [Client.collections_eq, Call.perform_bind, Call.perform_caught_of_fault h]
  rfl

/-- A listing that does not arrive, or that cannot be read, is a fault on that way. -/
theorem Client.fetchAsked_of_fault {cause : Fault}
    (h : ((c.fetchCollections services).perform w).1 = .error (.fault cause)) :
    ((c.fetchAsked services roots known useCache).perform w).1 = .error (.fault cause) := by
  unfold Client.fetchAsked
  rw [Call.perform_bind_of_error h]

theorem Client.fetchAsked_of_unreadable {listing : Json} {cause : Fault}
    (h : ((c.fetchCollections services).perform w).1 = .ok listing)
    (hread : readListing listing = .error cause) :
    ((c.fetchAsked services roots known useCache).perform w).1 = .error (.fault cause) := by
  unfold Client.fetchAsked
  rw [Call.perform_bind_of_ok h]
  simp only [Call.perform_bind, selected, hread]
  rfl

variable {services}

/-- The question about the collections has a reply, whatever happens. -/
theorem Client.collections_replies (calm : services.Uncancelled P) (here : P w.remote) :
    ∃ reply, ((c.collections services roots known useCache).perform w).1 = .ok reply := by
  have hmeets : (c.collections services roots known useCache).Meets (Within P) (fun _ => False)
      fun _ => True := by
    rw [Client.collections_eq]
    apply Call.Meets.bind (c.fetchAsked_uncancelled calm roots known useCache).caught
    rintro (cause | collections) -
    · exact fun v hv => ⟨trivial, hv⟩
    · -- what the key service fails with is caught as well
      have hkeys : (c.withKeys services collections).Meets (Within P) (fun _ => False)
          fun _ => True := by
        apply (c.withKeys_meets isFault_fault services calm.send collections).mono
        · rintro _ ⟨⟨cause, rfl⟩, note, hnote⟩
          cases hnote
        · exact fun _ _ => trivial
      exact hkeys.bind fun _ _ => .pure trivial
  obtain ⟨reply, hreply, -⟩ := (hmeets w here).1.exists_ok
  exact ⟨reply, hreply⟩

/-- Only what is read as a listing keeps the question about the tree from a reply. -/
theorem Client.collectionSpecs_replies_iff (calm : services.Uncancelled P) (here : P w.remote) :
    (∃ reply, ((c.collectionSpecs services roots).perform w).1 = .ok reply) ↔
      ∀ listing, ((c.fetchCollections services).perform w).1 = .ok listing →
        ∃ specs, readListing listing = .ok specs := by
  have hfits : Call.Fits IsFault (fun _ => True) ((c.fetchCollections services).perform w).1 :=
    (c.fetchCollections_uncancelled calm w here).1
  cases hfetch : ((c.fetchCollections services).perform w).1 with
  | error e =>
    rw [hfetch] at hfits
    obtain ⟨cause, rfl⟩ : IsFault e := hfits
    have hreply := c.collectionSpecs_of_fault services roots w hfetch
    constructor
    · rintro - listing hlisting
      cases hlisting
    · exact fun _ => ⟨_, hreply⟩
  | ok listing =>
    have hasked := c.collectionSpecs_of_listing services roots w hfetch
    cases hread : readListing listing with
    | ok specs =>
      rw [hread] at hasked
      constructor
      · rintro - other hother
        cases hother
        exact ⟨specs, hread⟩
      · exact fun _ => ⟨_, hasked⟩
    | error cause =>
      rw [hread] at hasked
      constructor
      · rintro ⟨reply, hreply⟩
        cases hasked.symm.trans hreply
      · intro hreadable
        obtain ⟨specs, hspecs⟩ := hreadable listing rfl
        cases hread.symm.trans hspecs

/-! ## 4. Failures as replies -/

/-- The question about the collections always has a reply.  The one about the tree has one exactly
unless a listing arrives that cannot be read.  What keeps the listing away is told of in both
replies; a listing that cannot be read, in the one about the collections. -/
theorem failures_are_replies_iff (calm : services.Uncancelled P) {v : World σ} (here : P w.remote)
    (there : P v.remote) :
    (∃ reply, ((c.collections services roots known useCache).perform v).1 = .ok reply) ∧
    ((∃ reply, ((c.collectionSpecs services roots).perform w).1 = .ok reply) ↔
      ∀ listing, ((c.fetchCollections services).perform w).1 = .ok listing →
        ∃ specs, readListing listing = .ok specs) ∧
    (∀ cause, ((c.fetchCollections services).perform w).1 = .error (.fault cause) →
      ((c.fetchCollections services).perform v).1 = .error (.fault cause) →
      ((c.collectionSpecs services roots).perform w).1 = .ok (refusal cause) ∧
        ((c.collections services roots known useCache).perform v).1 = .ok (refusal cause)) ∧
    ∀ listing, ((c.fetchCollections services).perform w).1 = .ok listing →
      ((c.fetchCollections services).perform v).1 = .ok listing →
      (∀ specs, readListing listing = .ok specs →
        ((c.collectionSpecs services roots).perform w).1 =
          .ok (.success (closure specs roots) none)) ∧
      ∀ cause, readListing listing = .error cause →
        ((c.collectionSpecs services roots).perform w).1 = .error (.fault cause) ∧
          ((c.collections services roots known useCache).perform v).1 = .ok (refusal cause) := by
  refine ⟨c.collections_replies roots v known useCache calm there,
    c.collectionSpecs_replies_iff roots w calm here, ?_, ?_⟩
  · intro cause hw hv
    have hfetched := c.fetchAsked_of_fault services roots v known useCache hv
    exact ⟨c.collectionSpecs_of_fault services roots w hw,
      c.collections_of_fault services roots v known useCache hfetched⟩
  · intro listing hw hv
    have hasked := c.collectionSpecs_of_listing services roots w hw
    constructor
    · intro specs hread
      rw [hread] at hasked
      exact hasked
    · intro cause hread
      rw [hread] at hasked
      have hfetched := c.fetchAsked_of_unreadable services roots v known useCache hv hread
      exact ⟨hasked, c.collections_of_fault services roots v known useCache hfetched⟩

end Questions

/-! ## 5. A collection without a key -/

namespace Holdings

/-- No cancellation is laid down for a call to come. -/
def Mishaps (h : Holdings) : Prop := ∀ f ∈ h.faults, ∀ e, some e ∈ f.2 → IsFault e

theorem Mishaps.spend {h : Holdings} (hh : h.Mishaps) (m : Method) :
    ∀ f ∈ h.spendFault m, ∀ e, some e ∈ f.2 → IsFault e := by
  intro f hf e he
  obtain ⟨before, hbefore, rfl⟩ := List.mem_map.1 hf
  apply hh before hbefore
  split at he
  · exact List.mem_of_mem_drop he
  · exact he

theorem Mishaps.next {h : Holdings} (hh : h.Mishaps) {m : Method} {e : Failure}
    (he : h.nextFault m = some e) : IsFault e := by
  unfold nextFault at he
  split at he
  next _ first rest hfound =>
    subst he
    exact hh _ (List.mem_of_find?_eq_some hfound) e (.head _)
  next => cases he

theorem answer_uncancelled (m : Method) (about : Option String) (value : Holdings → Json) :
    Zotero.Uncancelled Mishaps (answer m about value) := by
  intro h hh
  unfold answer
  simp only [Call.perform_bind, Call.perform_get, Call.perform_set]
  cases hnext : h.nextFault m with
  | none => exact ⟨trivial, hh.spend m⟩
  | some e => exact ⟨hh.next hnext, hh.spend m⟩

theorem services_uncancelled : services.Uncancelled Mishaps where
  connect _ _ hh := hh
  collections := answer_uncancelled _ _ _
  items _ := answer_uncancelled _ _ _
  itemVersions _ := answer_uncancelled _ _ _
  everything _ := answer_uncancelled _ _ _
  libraryVersion := answer_uncancelled _ _ _
  send _ _ hh := ⟨isFault_fault _, hh⟩

/-- A library that lists a collection of which it says nothing, not even a key. -/
def unkeyed : World Holdings := { remote := { collections := .arr [.obj []] } }

/-- A library that refuses the first call. -/
def refusing : World Holdings :=
  { remote := { faults := [(.collections, [some (.fault (.missingKey "key"))])] } }

theorem unkeyed_mishaps : unkeyed.remote.Mishaps := by
  rintro f hf
  cases hf

theorem refusing_mishaps : refusing.remote.Mishaps := by
  intro f hf e he
  rw [List.mem_singleton.1 hf] at he
  cases List.mem_singleton.1 he
  exact isFault_fault _

end Holdings

/-- The listing without a key fails the question about the tree and is told of in the reply about
the collections; the refused call is told of in both replies. -/
theorem failures_are_replies_iff_unkeyed :
    ((Holdings.reader.collectionSpecs Holdings.services []).perform Holdings.unkeyed).1 =
        .error (.fault (.missingKey "key")) ∧
      ((Holdings.reader.collections Holdings.services [] [] true).perform Holdings.unkeyed).1 =
        .ok (refusal (.missingKey "key")) ∧
      ((Holdings.reader.collectionSpecs Holdings.services []).perform Holdings.refusing).1 =
        .ok (refusal (.missingKey "key")) ∧
      ((Holdings.reader.collections Holdings.services [] [] true).perform Holdings.refusing).1 =
        .ok (refusal (.missingKey "key")) := by
  have hlisted : ((Holdings.reader.fetchCollections Holdings.services).perform
      Holdings.unkeyed).1 = .ok (.arr [.obj []]) := by rfl
  have hrefused : ((Holdings.reader.fetchCollections Holdings.services).perform
      Holdings.refusing).1 = .error (.fault (.missingKey "key")) := by rfl
  obtain ⟨-, -, -, hunkeyed⟩ := failures_are_replies_iff Holdings.reader [] Holdings.unkeyed []
    true Holdings.services_uncancelled Holdings.unkeyed_mishaps Holdings.unkeyed_mishaps
  obtain ⟨-, -, hrefusing, -⟩ := failures_are_replies_iff Holdings.reader [] Holdings.refusing []
    true Holdings.services_uncancelled Holdings.refusing_mishaps Holdings.refusing_mishaps
  obtain ⟨hspecs, hcollections⟩ := (hunkeyed _ hlisted hlisted).2 (.missingKey "key") rfl
  obtain ⟨hspecs', hcollections'⟩ := hrefusing _ hrefused hrefused
  exact ⟨hspecs, hcollections, hspecs', hcollections'⟩

/-- No call fails, and still the question about the tree has no reply; the same listing makes the
reply about the collections one that failed. -/
theorem unkeyed_collection_has_no_reply :
    Holdings.services.Uncancelled Holdings.Mishaps ∧ Holdings.unkeyed.remote.Mishaps ∧
      (¬ ∃ reply, ((Holdings.reader.collectionSpecs Holdings.services []).perform
        Holdings.unkeyed).1 = .ok reply) ∧
      ((Holdings.reader.collections Holdings.services [] [] true).perform Holdings.unkeyed).1 =
        .ok (.failure "'key'" none) := by
  have hspecs : ((Holdings.reader.collectionSpecs Holdings.services []).perform
      Holdings.unkeyed).1 = .error (.fault (.missingKey "key")) := by rfl
  refine ⟨Holdings.services_uncancelled, Holdings.unkeyed_mishaps, ?_, by rfl⟩
  rintro ⟨reply, hreply⟩
  cases hspecs.symm.trans hreply

end CiteSync.Zotero
