import CiteSync.Proofs.Zotero.Catalogue
import Mathlib.Data.List.Forall2

/-!
# What the client reports

Calls of the client on a service that shows a library: a listing gives the collections that were
asked for, and an answer about the collections reports each of them as the library has it.  Where
nothing that is needed fails, there is an answer.
-/

namespace CiteSync.Zotero

open Library Remote

variable {σ : Type} {P : σ → Prop} {E : Failure → Prop} {L : Catalogue}
variable (c : Client) (services : Services σ)

/-- The worlds in which the services are in a state in `P`. -/
def Within (P : σ → Prop) (w : World σ) : Prop := P w.remote

/-! ## Single calls -/

theorem report_meets {Q : Unit → Prop} (records : List Log.Record) (h : Q ()) :
    (report records : Call (World σ) Unit).Meets (Within P) E Q :=
  fun _ hw => ⟨h, hw⟩

theorem Client.connect_within (hconnect : ∀ k s, P s → P (services.library.connect k s))
    {w : World σ} (hw : Within P w) : Within P (c.connect services w) := by
  unfold Client.connect
  split
  · exact hw
  · exact hconnect _ _ hw

/-- A call of the client ends as the call of the service does, if the client makes any. -/
theorem Client.attempt_meets {α : Type} {call : Call σ α} {Q : α → Prop} (task : String)
    (hconnect : ∀ k s, P s → P (services.library.connect k s)) (h : call.Meets P E Q)
    (hc : Tolerates c.attempts E) :
    (c.attempt services task call).Meets (Within P) E Q := by
  intro w hw
  -- connecting changes the state once, before the first attempt
  have hw' := c.connect_within services hconnect hw
  obtain ⟨hr, hs⟩ := Policy.run_fits h ⟨c.attempts, c.pause, task⟩ hc hw'
  unfold Client.attempt
  simp only [Call.perform_bind, Call.perform_get, Call.perform_set]
  rcases hd : (Policy.run ⟨c.attempts, c.pause, task⟩ call.perform
    (c.connect services w).remote).1.result with e | a
  · rw [hd] at hr
    exact ⟨hr, hs⟩
  · rw [hd] at hr
    exact ⟨hr, hs⟩

theorem selected_meets {listing : Json} (h : readListing listing = .ok L.specs)
    (roots : List String) :
    (selected roots listing : Call (World σ) (List Spec)).Meets (Within P) E
      (· = closure L.specs roots) := by
  unfold selected
  refine .bind (Q := (· = L.specs)) (.ofResult ?_ ?_) ?_
  · intro specs hs
    rw [h] at hs
    exact (Except.ok.inj hs).symm
  · intro cause hs
    rw [h] at hs
    cases hs
  · rintro _ rfl
    exact .bind (Q := fun _ => True) (report_meets _ trivial) fun _ _ => .pure rfl

/-! ## The collection tree -/

/-- An answer is what it should be, or it says that a call has failed. -/
def Answered {α : Type} (E : Failure → Prop) (Q : α → Prop) (reply : Reply α) : Prop :=
  (∃ message, reply = .success message none ∧ Q message) ∨
    (reply.ok = false ∧ ∃ cause, E (.fault cause))

theorem failedReply_meets {α : Type} {Q : α → Prop} (operation : String) {cause : Fault}
    (h : E (.fault cause)) {E' : Failure → Prop} :
    (failedReply operation cause : Call (World σ) (Reply α)).Meets (Within P) E'
      (Answered E Q) :=
  .bind (Q := fun _ => True) (report_meets _ trivial) fun _ _ => .pure (.inr ⟨rfl, cause, h⟩)

theorem Client.collectionSpecs_meets (h : ShowsOutline services.library L P E)
    (hc : Tolerates c.attempts E) (roots : List String) :
    (c.collectionSpecs services roots).Meets (Within P) E
      (Answered E (· = closure L.specs roots)) := by
  have hfetch := (c.attempt_meets services "Fetch collections" h.connect h.collections hc).caught
  refine .bind (hfetch.mono (fun _ he => he.1) fun _ hr => hr) ?_
  rintro (cause | listing) ⟨hok, herror⟩
  · exact failedReply_meets "get_collection_specs" (herror cause rfl)
  · exact .bind (selected_meets (hok listing rfl) roots) fun specs hs =>
      .pure (.inl ⟨specs, rfl, hs⟩)

/-! ## Collections -/

theorem Client.withWorks_meets (h : ShowsBodies services.library L P E)
    (hconnect : ∀ k s, P s → P (services.library.connect k s)) (hc : Tolerates c.attempts E)
    {spec : Spec} (hspec : spec ∈ L.specs)
    (hread : ∀ cause, L.works spec.key = .error cause → E (.fault cause)) (version : Int)
    (count : Nat) :
    (c.withWorks services spec version count).Meets (Within P) E fun collection =>
      ∃ works, L.works spec.key = .ok works ∧
        collection = reported spec version count (some works) := by
  unfold Client.withWorks
  refine .bind (c.attempt_meets services _ hconnect (h.items spec hspec) hc) ?_
  rintro _ rfl
  refine .bind (Q := fun works => L.works spec.key = .ok works)
    (.ofResult (fun _ hw => hw) hread) ?_
  intro works hw
  exact .pure ⟨works, hw, rfl⟩

theorem Client.libraryVersionOnce_meets (h : ShowsBodies services.library L P E)
    (hconnect : ∀ k s, P s → P (services.library.connect k s)) (hc : Tolerates c.attempts E)
    {before : Option Int} (hbefore : ∀ version, before = some version → version = L.version) :
    (c.libraryVersionOnce services before).Meets (Within P) E (· = L.version) := by
  unfold Client.libraryVersionOnce
  split
  · exact .pure (hbefore _ rfl)
  · refine .bind (c.attempt_meets services _ hconnect h.libraryVersion hc) ?_
    intro version hv
    refine .ofResult (fun a ha => ?_) fun cause ha => ?_
    · rw [hv] at ha
      exact (Except.ok.inj ha).symm
    · rw [hv] at ha
      cases ha

variable {known : List Spec} {useCache : Bool}

/-- What it takes to report a collection whose works are not left out. -/
structure Fetches (L : Catalogue) (service : Service σ) (P : σ → Prop) (E : Failure → Prop)
    (spec : Spec) : Prop extends ShowsBodies service L P E where
  readable : ∀ cause, L.works spec.key = .error cause → E (.fault cause)

/-- Whether the works of a collection are left out. -/
def Catalogue.Omits (L : Catalogue) (known : List Spec) (useCache : Bool) (spec : Spec) : Prop :=
  ∃ version, L.verdict known useCache spec = .unchanged version

/-- One collection is reported as the library has it.  Its items and the version of the library
matter only if its works are not left out. -/
theorem Client.fetchOne_meets (h : ShowsOutline services.library L P E)
    (hc : Tolerates c.attempts E) {spec : Spec} (hspec : spec ∈ L.specs)
    (hbody : ¬ L.Omits known useCache spec → Fetches L services.library P E spec)
    {library : Option Int} (hlibrary : ∀ version, library = some version → version = L.version) :
    (c.fetchOne services known useCache spec library).Meets (Within P) E fun r =>
      L.Reports known useCache spec r.1 ∧ ∀ version, r.2 = some version → version = L.version := by
  unfold Client.fetchOne
  refine .bind (c.attempt_meets services _ h.connect (h.itemVersions spec hspec) hc) ?_
  intro json hjson
  refine .bind (Q := (· = (L.listed spec.key).map (·.2))) (.ofResult ?_ ?_) ?_
  · intro versions hv
    rw [hjson] at hv
    exact (Except.ok.inj hv).symm
  · intro cause hv
    rw [hjson] at hv
    cases hv
  rintro _ rfl
  -- from here on the verdict decides, and it is the library's own
  have hcount : ((L.listed spec.key).map (·.2)).length = L.count spec := List.length_map ..
  have hverdict : verdict (knownSpec? known spec.key) useCache
      (highest spec.version ((L.listed spec.key).map (·.2))) (L.count spec) =
      L.verdict known useCache spec := rfl
  simp only [hcount, hverdict]
  split
  next version hv => exact .pure ⟨.unchanged hv, hlibrary⟩
  next version hv =>
    have hb := hbody (by rintro ⟨_, ho⟩; rw [hv] at ho; cases ho)
    refine .bind (c.withWorks_meets services hb.toShowsBodies h.connect hc hspec hb.readable
      version (L.count spec)) ?_
    rintro _ ⟨works, hw, rfl⟩
    exact .pure ⟨.changed hv hw, hlibrary⟩
  next before hv =>
    have hb := hbody (by rintro ⟨_, ho⟩; rw [hv] at ho; cases ho)
    refine .bind (c.libraryVersionOnce_meets services hb.toShowsBodies h.connect hc hlibrary) ?_
    rintro _ rfl
    refine .bind (c.withWorks_meets services hb.toShowsBodies h.connect hc hspec hb.readable
      (max (before + 1) L.version) (L.count spec)) ?_
    rintro _ ⟨works, hw, rfl⟩
    exact .pure ⟨.shrunk hv hw, fun version hv => (Option.some.inj hv).symm⟩

theorem Client.fetchEach_meets (h : ShowsOutline services.library L P E)
    (hc : Tolerates c.attempts E) {specs : List Spec} (hspecs : ∀ spec ∈ specs, spec ∈ L.specs)
    (hbody : ∀ spec ∈ specs, ¬ L.Omits known useCache spec →
      Fetches L services.library P E spec)
    {library : Option Int} (hlibrary : ∀ version, library = some version → version = L.version) :
    (c.fetchEach services known useCache specs library).Meets (Within P) E
      (List.Forall₂ (L.Reports known useCache) specs) := by
  -- the version of the library is carried from one collection to the next
  induction specs generalizing library with
  | nil => exact .pure .nil
  | cons spec rest ih =>
    unfold Client.fetchEach
    refine .bind (c.fetchOne_meets services h hc (hspecs spec (List.mem_cons_self ..))
      (hbody spec (List.mem_cons_self ..)) hlibrary) ?_
    rintro ⟨collection, library'⟩ ⟨hone, hlibrary'⟩
    refine .bind (ih (fun s hs => hspecs s (List.mem_cons_of_mem _ hs))
      (fun s hs => hbody s (List.mem_cons_of_mem _ hs)) hlibrary') ?_
    intro collections hrest
    exact .pure (.cons hone hrest)

/-- The collections that were asked for are fetched in the order of the library, each as the library
has it. -/
theorem Client.fetch_meets (h : ShowsOutline services.library L P E)
    (hc : Tolerates c.attempts E) (roots : List String)
    (hbody : ∀ spec ∈ closure L.specs roots, ¬ L.Omits known useCache spec →
      Fetches L services.library P E spec) :
    (do c.fetchEach services known useCache
          (← selected roots (← c.fetchCollections services)) none :
        Call (World σ) (List Collection)).Meets (Within P) E
      (List.Forall₂ (L.Reports known useCache) (closure L.specs roots)) := by
  have hlisting := c.attempt_meets services "Fetch collections" h.connect h.collections hc
  refine .bind hlisting fun listing hl => .bind (selected_meets hl roots) ?_
  rintro _ rfl
  exact c.fetchEach_meets services h hc (fun _ hspec => (closure_sublist _ _).subset hspec) hbody
    (by simp)

/-- An answer about the collections reports each of those that were asked for, in the order of the
library. -/
theorem Client.collections_meets (hkeys : c.keyService = none)
    (h : ShowsOutline services.library L P E) (hc : Tolerates c.attempts E)
    (roots : List String)
    (hbody : ∀ spec ∈ closure L.specs roots, ¬ L.Omits known useCache spec →
      Fetches L services.library P E spec) :
    (c.collections services roots known useCache).Meets (Within P) E
      (Answered E (List.Forall₂ (L.Reports known useCache) (closure L.specs roots))) := by
  -- a fault anywhere in the fetching makes the whole answer one that failed
  have hfetch := (c.fetch_meets services h hc roots hbody).caught
  refine .bind (hfetch.mono (fun _ he => he.1) fun _ hr => hr) ?_
  rintro (cause | collections) ⟨hok, herror⟩
  · exact failedReply_meets "get_collections" (herror cause rfl)
  · have hkeep : c.withKeys services collections = pure collections := by
      unfold Client.withKeys
      rw [hkeys]
    simp only [hkeep, pure_bind]
    exact .pure (.inl ⟨collections, rfl, hok collections rfl⟩)

/-! ## Without attempts -/

/-- Where no attempt is allowed there is never a value. -/
theorem Client.attempt_refused {α : Type} {call : Call σ α} (task : String)
    (hc : ¬ 0 < c.attempts) :
    (c.attempt services task call).Meets (Within P) (fun _ => True) fun _ => False := by
  intro w hw
  have hnone : c.attempts.toNat = 0 := by omega
  have hconnect : c.connect services w = w := by
    unfold Client.connect
    rw [if_pos (by simp; omega)]
  unfold Client.attempt Policy.run
  simp only [Call.perform_bind, Call.perform_get, Call.perform_set, hnone, attemptsFrom, hconnect]
  exact ⟨trivial, hw⟩

theorem Client.collections_refused (hc : ¬ 0 < c.attempts) (roots : List String) :
    (c.collections services roots known useCache).Meets (Within P) (fun _ => True)
      fun reply => reply.ok = false := by
  have hfetch : Call.Meets (do
      c.fetchEach services known useCache
        (← selected roots (← c.fetchCollections services)) none) (Within P) (fun _ => True)
      fun _ => False :=
    .bind (c.attempt_refused services "Fetch collections" hc) fun _ hnone => hnone.elim
  refine .bind (hfetch.caught.mono (fun _ _ => trivial) fun _ hr => hr) ?_
  rintro (cause | collections) ⟨hnone, -⟩
  · have hreply :
        (failedReply "get_collections" cause : Call (World σ) (Reply (List Collection))).Meets
        (Within P) (fun _ => True) (Answered (fun _ => True) fun _ => False) :=
      failedReply_meets "get_collections" trivial
    refine hreply.mono (fun _ he => he) fun reply h => ?_
    rcases h with ⟨_, -, hfalse⟩ | ⟨hfailed, -⟩
    · exact hfalse.elim
    · exact hfailed
  · exact (hnone collections rfl).elim

/-! ## Arrivals -/

/-- What arrives is what the call ended in, and the document stays open. -/
theorem arrival_meets {α : Type} {call : Call (World σ) α} {Q : α → Prop}
    (h : call.Meets (Within P) E Q) {w : World σ} (hw : P w.remote) :
    Call.Fits E Q (arrival call w).1.result ∧ (arrival call w).1.closing = false ∧
      P (arrival call w).2.remote :=
  have hend := h { w with records := [] } hw
  ⟨hend.1, rfl, hend.2⟩

end CiteSync.Zotero
