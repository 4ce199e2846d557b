import CiteSync.Proofs.Session.Visit
import CiteSync.Proofs.Zotero.Reporting

/-!
# Loads over the client

What a session hears when it is brought up to date through the client.  Whatever fails on the way,
collections that arrive are reported as the library has them; where nothing fails they do arrive.
-/

namespace CiteSync.Zotero

open Library Remote Session FrontMatter

variable {σ : Type} {P : σ → Prop} {E : Failure → Prop} {L : Catalogue}
variable (c : Client) (services : Services σ) (s : Session) (v : Visit (World σ))

/-- A client never closes the document that asks. -/
theorem Client.library_quiet : Visit.Quiet (c.library services) where
  specs _ _ _ := rfl
  collections _ _ _ _ _ := rfl

/-! ## The two answers -/

theorem Client.tree_fits (h : ShowsOutline services.library L P E)
    (hc : Tolerates c.attempts E) (here : P v.remote.remote) (scope : Scope) :
    Call.Fits E (Answered E (· = closure L.specs scope.roots))
        (v.tree (c.library services) scope).1.result ∧
      P (v.tree (c.library services) scope).2.remote := by
  obtain ⟨hr, -, hw⟩ := arrival_meets (c.collectionSpecs_meets services h hc scope.roots) here
  exact ⟨hr, hw⟩

theorem Client.answer_fits (hkeys : c.keyService = none) (h : ShowsOutline services.library L P E)
    (hc : Tolerates c.attempts E) (here : P v.remote.remote) (scope : Scope)
    (hbody : ∀ spec ∈ closure L.specs scope.roots, ¬ L.Omits s.store.specs s.trustsCache spec →
      Fetches L services.library P E spec) :
    Call.Fits E (Answered E (List.Forall₂ (L.Reports s.store.specs s.trustsCache)
        (closure L.specs scope.roots))) (v.answer (c.library services) s scope).1.result ∧
      P (v.answer (c.library services) s scope).2.remote := by
  obtain ⟨-, hw⟩ := c.tree_fits services v h hc here scope
  obtain ⟨hr, -, hw'⟩ :=
    arrival_meets (c.collections_meets services hkeys h hc scope.roots hbody) hw
  exact ⟨hr, hw'⟩

/-! ## Loads that are answered -/

/-- What is sent in an answer that is what it should be. -/
theorem Answered.of_sent {α : Type} {Q : α → Prop} {answer : Arrival (Reply α)}
    (hfits : Call.Fits E (Answered E Q) answer.result) {message : α}
    (hsent : answer.sent? = some message) :
    answer.result = .ok (.success message none) ∧ Q message := by
  unfold Arrival.sent? at hsent
  split at hsent
  next reply hreply =>
    rw [hreply] at hfits
    rcases hfits with ⟨found, rfl, hfound⟩ | ⟨hfailed, -⟩
    · cases hsent
      exact ⟨hreply, hfound⟩
    · rw [Reply.sent?, hfailed] at hsent
      cases hsent
  next => cases hsent

/-- A load that is sent collections is sent those that were asked for, each reported as the library
has it, whatever else fails. -/
theorem Client.sent_reports (hkeys : c.keyService = none) (h : Shows services.library L P E)
    (here : P v.remote.remote) {scope : Scope} (hasked : v.scope? = .ok scope)
    {sent : List Collection} (hsent : v.sent? (c.library services) s = some sent) :
    (v.answer (c.library services) s scope).1.result = .ok (.success sent none) ∧
      List.Forall₂ (L.Reports s.store.specs s.trustsCache) (closure L.specs scope.roots) sent := by
  -- of the failures nothing has to be known, so each of them is allowed
  have hany : Shows services.library L P fun _ => True := h.mono fun _ _ => trivial
  have hfits := (c.answer_fits services s v hkeys hany.toShowsOutline .of_any
    here scope fun _ _ _ => ⟨hany.toShowsBodies, fun _ _ => trivial⟩).1
  obtain ⟨-, -, hsent⟩ := v.answered_of_sent (c.library services) s hasked hsent
  exact Answered.of_sent hfits hsent

/-- Collections are sent only to a client that makes calls. -/
theorem Client.attempts_of_sent {sent : List Collection}
    (hsent : v.sent? (c.library services) s = some sent) : 0 < c.attempts := by
  by_contra hnone
  obtain ⟨scope, -, -, -, hsent⟩ := v.asked_of_sent (c.library services) s hsent
  have hfits : Call.Fits (fun _ => True) (fun reply : Reply (List Collection) => reply.ok = false)
      (v.answer (c.library services) s scope).1.result :=
    (arrival_meets (P := fun _ => True) (c.collections_refused services hnone scope.roots)
      trivial).1
  unfold Arrival.sent? at hsent
  split at hsent
  next reply hreply =>
    rw [hreply] at hfits
    have hfailed : reply.ok = false := hfits
    rw [Reply.sent?, hfailed] at hsent
    cases hsent
  next => cases hsent

/-! ## Loads without faults -/

theorem Answered.of_no_fault {α : Type} {Q : α → Prop} {reply : Reply α}
    (h : Answered (fun _ => False) Q reply) :
    ∃ message, reply = .success message none ∧ Q message :=
  h.resolve_right fun hfault => hfault.2.elim fun _ hcause => hcause

/-- A load to which nothing fails hears the whole tree and is sent what the client answers. -/
theorem Client.run_of_meets (hc : 0 < c.attempts)
    (h : ShowsOutline services.library L P (fun _ => False)) (here : P v.remote.remote)
    (hopen : s.closed = false) {scope : Scope} (hasked : v.scope? = .ok scope)
    (hscope : scope ≠ .nothing) {Q : List Collection → Prop}
    (hmeets : (c.collections services scope.roots s.store.specs s.trustsCache).Meets (Within P)
      (fun _ => False) (Answered (fun _ => False) Q)) :
    ∃ sent, Q sent ∧
      (v.run (c.library services) s).1.session =
        { s with
          store := ⟨settle (mergeAll s.trustsCache s.store s.store sent)⟩
          specs := closure L.specs scope.roots, warning := none, enabled := true
          cycles := s.cycles + 1 } ∧
      (v.run (c.library services) s).1.result =
        .ok ((mergeAll s.trustsCache s.store s.store sent).any (·.changed) ||
          sent.length != s.store.size) ∧
      v.sent? (c.library services) s = some sent ∧
      P (v.run (c.library services) s).2.remote := by
  obtain ⟨htreeFits, hw⟩ := c.tree_fits services v h (.of_none hc) here scope
  obtain ⟨tree, htree, hspecs⟩ := htreeFits.exists_ok
  obtain ⟨specs, rfl, rfl⟩ := hspecs.of_no_fault
  obtain ⟨hfits, -, hw'⟩ := arrival_meets hmeets hw
  obtain ⟨reply, hreply, hanswered⟩ := hfits.exists_ok
  obtain ⟨sent, rfl, hsent⟩ := hanswered.of_no_fault
  obtain ⟨hsession, hresult, hremote, hheard⟩ := v.run_of_answers (c.library services) s
    (c.library_quiet services) hopen hasked hscope htree hreply
  exact ⟨sent, hsent, hsession, hresult, hheard, hremote ▸ hw'⟩

/-- Where nothing that is needed fails, a load hears the whole tree and then every collection. -/
theorem Client.run_of_calm (hkeys : c.keyService = none) (hc : 0 < c.attempts)
    (h : ShowsOutline services.library L P (fun _ => False)) (here : P v.remote.remote)
    (hopen : s.closed = false) {scope : Scope} (hasked : v.scope? = .ok scope)
    (hscope : scope ≠ .nothing)
    (hbody : ∀ spec ∈ closure L.specs scope.roots, ¬ L.Omits s.store.specs s.trustsCache spec →
      Fetches L services.library P (fun _ => False) spec) :
    ∃ sent, List.Forall₂ (L.Reports s.store.specs s.trustsCache) (closure L.specs scope.roots)
        sent ∧
      (v.run (c.library services) s).1.session =
        { s with
          store := ⟨settle (mergeAll s.trustsCache s.store s.store sent)⟩
          specs := closure L.specs scope.roots, warning := none, enabled := true
          cycles := s.cycles + 1 } ∧
      (v.run (c.library services) s).1.result =
        .ok ((mergeAll s.trustsCache s.store s.store sent).any (·.changed) ||
          sent.length != s.store.size) ∧
      v.sent? (c.library services) s = some sent ∧
      P (v.run (c.library services) s).2.remote :=
  c.run_of_meets services s v hc h here hopen hasked hscope
    (c.collections_meets services hkeys h (.of_none hc) scope.roots hbody)

theorem Fetches.of_read (h : ShowsBodies services.library L P E) {spec : Spec}
    (hread : ∃ works, L.works spec.key = .ok works) : Fetches L services.library P E spec := by
  obtain ⟨works, hworks⟩ := hread
  refine ⟨h, fun cause hcause => ?_⟩
  rw [hworks] at hcause
  cases hcause

/-- Where nothing fails and every item can be read, a load is sent its collections. -/
theorem Client.sent_of_calm (hkeys : c.keyService = none) (hc : 0 < c.attempts)
    (h : Shows services.library L P (fun _ => False)) (here : P v.remote.remote)
    (hopen : s.closed = false) {scope : Scope} (hasked : v.scope? = .ok scope)
    (hscope : scope ≠ .nothing)
    (hread : ∀ spec ∈ closure L.specs scope.roots, ∃ works, L.works spec.key = .ok works) :
    ∃ sent, v.sent? (c.library services) s = some sent := by
  obtain ⟨sent, -, -, -, hsent, -⟩ := c.run_of_calm services s v hkeys hc h.toShowsOutline here
    hopen hasked hscope fun spec hspec _ => .of_read services h.toShowsBodies (hread spec hspec)
  exact ⟨sent, hsent⟩

end CiteSync.Zotero
