import CiteSync.Proofs.Session.Closing
import CiteSync.Proofs.Session.Mishaps
import CiteSync.Proofs.Session.OneKey

/-!
# Sessions in doubt

A warning puts in doubt what a session knows.  A load that begins in doubt asks for all works, and
takes none over because of the name of their collection.  The doubt does not wait for works to
arrive: it ends with the first reply about the collections that does not warn, even if the reply
refuses to answer.
-/

namespace CiteSync

open Library Remote FrontMatter

/-! ## 1. What a remote is asked -/

/-- A remote library that keeps a journal of the calls on it. -/
def Remote.RemoteLibrary.journaled {σ : Type} (library : RemoteLibrary σ) :
    RemoteLibrary (σ × List Question) where
  specs document roots state :=
    let answer := library.specs document roots state.1
    (answer.1, answer.2, state.2 ++ [.specs document.path roots])
  collections document roots known useCache state :=
    let answer := library.collections document roots known useCache state.1
    (answer.1, answer.2, state.2 ++ [.collections roots known useCache])
  exportText ids format number state :=
    let answer := library.exportText ids format number state.1
    (answer.1, answer.2, state.2 ++ [.exported ids format number])

namespace Session

namespace Visit

variable {σ : Type} (library : RemoteLibrary σ) (s : Session) (v : Visit σ)

/-- A load at the beginning of a journal. -/
def journaled : Visit (σ × List Question) where
  document := v.document
  given := v.given
  elapsed := v.elapsed
  remote := (v.remote, [])

/-- What a load asks the remote, call by call. -/
def questions : List Question := (v.journaled.run library.journaled s).2.2

/-- The journal makes no difference to a load. -/
theorem run_journaled :
    (v.journaled.run library.journaled s).1 = (v.run library s).1 ∧
      (v.journaled.run library.journaled s).2.1 = (v.run library s).2 := by
  have hsame : s.wanted v.journaled.document v.journaled.given =
    s.wanted v.document v.given := rfl
  unfold run load
  rw [hsame]
  cases s.wanted v.document v.given with
  | error cause => exact ⟨rfl, rfl⟩
  | ok scope =>
    by_cases hscope : scope = .nothing
    · subst hscope
      exact ⟨rfl, rfl⟩
    · -- nothing that arrives depends on the journal
      have hheard : v.journaled.heardTree library.journaled s scope =
        v.heardTree library s scope := rfl
      simp only [runCycle, begin_asking _ _ _ hscope, hheard]
      cases (v.heardTree library s scope).result with
      | none => exact ⟨rfl, rfl⟩
      | some result => exact ⟨rfl, rfl⟩

/-- A load that is refused, or that does not want the library, asks nothing. -/
theorem questions_of_unasked
    (h : ∀ scope, s.wanted v.document v.given = .ok scope → scope = .nothing) :
    v.questions library s = [] := by
  unfold questions
  cases v.journaled.course library.journaled s with
  | refused hwanted hrun _ => rw [hrun]; rfl
  | disabled hwanted hrun _ => rw [hrun]; rfl
  | gaveUp hwanted hscope _ _ _ => exact absurd (h _ hwanted) hscope
  | concluded hwanted hscope _ _ _ _ => exact absurd (h _ hwanted) hscope

/-- A load that wants the library asks for the tree, and then for the collections if it is told
about the tree. -/
theorem questions_of_asked {scope : Scope} (hwanted : s.wanted v.document v.given = .ok scope)
    (hscope : scope ≠ .nothing) :
    v.questions library s = .specs v.document.path scope.roots ::
      match (v.heardTree library s scope).result with
      | none => [.collections scope.roots s.store.specs s.trustsCache]
      | some _ => [] := by
  have hheard : v.journaled.heardTree library.journaled s scope =
    v.heardTree library s scope := rfl
  have hsame : s.wanted v.journaled.document v.journaled.given = .ok scope := hwanted
  unfold questions run load
  simp only [hsame, runCycle, begin_asking _ _ _ hscope, hheard]
  cases (v.heardTree library s scope).result with
  | none => rfl
  | some result => rfl

variable {library s v} in
/-- Only an open document asks for collections, and may leave some out if it trusts what it
knows. -/
theorem of_mem_questions {roots : List String} {known : List Spec} {useCache : Bool}
    (h : .collections roots known useCache ∈ v.questions library s) :
    s.closed = false ∧ useCache = s.trustsCache := by
  by_cases hasks : ∃ scope, s.wanted v.document v.given = .ok scope ∧ scope ≠ .nothing
  · obtain ⟨scope, hwanted, hscope⟩ := hasks
    rw [v.questions_of_asked library s hwanted hscope] at h
    refine ⟨(s.wanted_open hwanted).1, ?_⟩
    rcases List.mem_cons.1 h with h | h
    · cases h
    · split at h
      next => cases List.mem_singleton.1 h; rfl
      next => exact absurd h List.not_mem_nil
  · have hnone : v.questions library s = [] := v.questions_of_unasked library s fun scope hwanted =>
      by_contra fun hscope => hasks ⟨scope, hwanted, hscope⟩
    rw [hnone] at h
    exact absurd h List.not_mem_nil

/-- What a load is told about the collections. -/
def reply? : Option (Reply (List Collection)) :=
  (v.hears library s).bind fun heard => heard.2.result.toOption

end Visit

/-! ## 2. Doubt -/

/-- What is known is in doubt as long as the document is open. -/
def Doubtful (s : Session) : Prop := s.closed = false → s.trustsCache = false

namespace Doubtful

variable {σ : Type} {library : RemoteLibrary σ} {s t : Session}

theorem of_warning (h : filled? s.warning ≠ none) : s.Doubtful := fun _ => by
  unfold trustsCache
  cases hwarning : filled? s.warning with
  | none => exact absurd hwarning h
  | some text => rfl

theorem congr (h : s.Doubtful) (hclosed : t.closed = s.closed) (hwarning : t.warning = s.warning) :
    t.Doubtful := by
  intro hopen
  rw [trustsCache, hwarning]
  exact h (hclosed.symm.trans hopen)

theorem atArrival (h : s.Doubtful) {α : Type} (arrival : Arrival α) :
    (s.atArrival arrival).Doubtful := by
  rcases s.atArrival_cases arrival with ha | ha
  · rwa [ha]
  · -- a closed session asks for nothing any more
    rw [ha]
    intro hopen
    rw [close_closed] at hopen
    cases hopen

theorem heardTree (h : s.Doubtful) (v : Visit σ) (scope : Scope) :
    (v.heardTree library s scope).session.Doubtful := by
  have hinUse : { s with enabled := true }.Doubtful := h
  exact (hinUse.atArrival _).congr (hearTree_store ..).2 (hearTree_warning ..)

/-- A load leaves the session in doubt unless it is told something without a warning. -/
theorem run (h : s.Doubtful) (v : Visit σ)
    (warns : ∀ reply, v.reply? library s = some reply → filled? reply.warning ≠ none) :
    (v.run library s).1.session.Doubtful := by
  unfold Visit.reply? at warns
  cases v.course library s with
  | refused hwanted hrun hhears => rwa [hrun]
  | disabled hwanted hrun hhears =>
    rw [hrun]
    exact h
  | @gaveUp scope result hwanted hscope hheard hrun hhears =>
    rw [hrun]
    exact h.heardTree v scope
  | @concluded scope last hwanted hscope hheard hlast hrun hhears =>
    have hsession : (v.run library s).1.session = last.session := by rw [hrun]
    have hwarning := conclude_warning (s := (v.heardTree library s scope).session) v.document
      v.elapsed (Visit.request s scope) (v.answer library s scope).1
    rw [hhears] at warns
    rw [hsession, hlast]
    -- a reply brings its warning whatever it answers, a failure leaves the warning as it is
    cases hresult : (v.answer library s scope).1.result with
    | ok reply =>
      rw [hresult] at hwarning
      refine of_warning ?_
      rw [hwarning]
      exact warns reply (by rw [Option.bind_some, hresult]; rfl)
    | error failure =>
      rw [hresult] at hwarning
      exact ((h.heardTree v scope).atArrival _).congr (conclude_store ..).1 hwarning

theorem after (h : s.Doubtful) {vs : List (Visit σ)}
    (warns : ∀ first v reply, first ++ [v] <+: vs →
      v.reply? library (Visit.after library s first) = some reply → filled? reply.warning ≠ none) :
    (Visit.after library s vs).Doubtful := by
  induction vs using List.reverseRecOn with
  | nil => exact h
  | append_singleton first v ih =>
    rw [Visit.after_concat]
    have hfirst := ih fun earlier w reply hinitial =>
      warns earlier w reply (hinitial.trans (List.prefix_append first [v]))
    exact hfirst.run v fun reply => warns first v reply (List.prefix_refl _)

end Doubtful

/-! ## 3. Loads in doubt -/

/-- A collection is kept as it was sent, with works that are as they were sent too, or those that
were known for its key if it was sent without. -/
inductive Renewed (previous : Store) (sent : Collection) : Collection → Prop
  | fetched {works kept : List Source} (hsent : sent.items = some works)
      (tags : List.Forall₂ (TaggedFrom sent.key) works kept) :
      Renewed previous sent { sent with items := some kept }
  | leftOut {known : Collection} (omitted : sent.items = none)
      (found : previous.findByKey? sent.key = some known) :
      Renewed previous sent { sent with items := known.items }
  | empty (omitted : sent.items = none) (unknown : previous.findByKey? sent.key = none) :
      Renewed previous sent { sent with items := some [] }

theorem Keeps.renewed {store previous : Store} {sent kept : Collection}
    (h : Keeps false store previous sent kept) : Renewed previous sent kept := by
  cases h with
  | byName found => cases (unchanged?_some found).1
  | byKey differs omitted found => exact .leftOut omitted found
  | @fresh works differs sentOrNew tags =>
    unfold Collection.works at tags
    cases hitems : sent.items with
    | none =>
      rw [hitems] at tags
      cases tags
      exact .empty hitems (sentOrNew hitems)
    | some sentWorks =>
      rw [hitems] at tags
      exact .fetched hitems tags

namespace Visit

variable {σ : Type} {library : RemoteLibrary σ} {s : Session}

/-- A load that does not rely on what is known. -/
structure Distrusts (library : RemoteLibrary σ) (s : Session) (v : Visit σ) : Prop where
  /-- Once it is told about the tree it asks for the collections, and for all of their works. -/
  asks : ∀ {scope tree}, s.closed = false → v.scope? = .ok scope → scope ≠ .nothing →
    (v.tree library scope).1.result = .ok tree →
    v.questions library s =
      [.specs v.document.path scope.roots, .collections scope.roots s.store.specs false]
  bypasses : ∀ {roots known useCache},
    .collections roots known useCache ∈ v.questions library s → useCache = false
  /-- No works are taken over because of the name of their collection. -/
  renews : ∀ {sent}, v.sent? library s = some sent → (v.run library s).1.session.closed = false →
    List.Forall₂ (Renewed s.store) sent (v.run library s).1.session.store.collections

theorem distrusts_of_doubtful (h : s.Doubtful) (v : Visit σ) : v.Distrusts library s where
  asks hopen hasked hscope htree := by
    have hwanted := (v.wanted_of_open s hopen).trans hasked
    rw [v.questions_of_asked library s hwanted hscope, (heardTree_of_ok htree).1, h hopen]
  bypasses hmem := by
    obtain ⟨hopen, rfl⟩ := of_mem_questions hmem
    exact h hopen
  renews {sent} hsent hstays := by
    obtain ⟨_, _, _, hopen, _⟩ := v.asked_of_sent library s hsent
    rcases v.run_store library s with ⟨sent', hsent', -, hstore⟩ | ⟨hnone, -⟩ | ⟨hnone | hshut, -⟩
    · obtain rfl : sent = sent' := Option.some.inj (hsent.symm.trans hsent')
      have hkeeps := settle_mergeAll s.trustsCache s.store s.store sent
      rw [h hopen] at hkeeps hstore
      rw [hstore]
      exact hkeeps.imp fun _ _ hkeep => hkeep.renewed
    · rw [hsent] at hnone
      cases hnone
    · rw [hsent] at hnone
      cases hnone
    · rw [hstays] at hshut
      cases hshut

end Visit

/-- A session that was warned does not rely on what it knows, in any of the loads that follow, until
one was told something about the collections without a warning. -/
theorem doubt_lasts_until_unwarned_reply {σ : Type} (library : RemoteLibrary σ) {s : Session}
    (warned : filled? s.warning ≠ none) {between : List (Visit σ)}
    (warns : ∀ first w reply, first ++ [w] <+: between →
      w.reply? library (Visit.after library s first) = some reply → filled? reply.warning ≠ none)
    (v : Visit σ) : v.Distrusts library (Visit.after library s between) :=
  Visit.distrusts_of_doubtful ((Doubtful.of_warning warned).after warns) v

/-! ## 4. Loads between a warning and the next works -/

/-- A collection with one work, always at the same version. -/
def lettersWith (id : String) : Collection :=
  { key := "L", name := "Letters", version := 1, items := some [{ id := some id }] }

/-- A load that brings a work and a warning. -/
def warnedLoad : Visit Script := toldThat (.ok (.success [lettersWith "a"] (some "slow")))

/-- A load that is refused, with a warning or without. -/
def refusedLoad (warning : Option String) : Visit Script :=
  toldThat (.ok (.failure "refused" warning))

/-- A load that brings another work in place of the first. -/
def replacingLoad : Visit Script := toldThat (.ok (.success [lettersWith "b"] none))

theorem eq_of_snoc_prefix_singleton {α : Type} {first : List α} {x y : α}
    (h : first ++ [x] <+: [y]) : first = [] ∧ x = y := by
  cases first with
  | nil => exact ⟨rfl, (List.cons_prefix_cons.1 h).1⟩
  | cons z rest => exact absurd (List.cons_prefix_cons.1 h).2 (by simp)

/-- It does not keep up the doubt that nothing was sent since the warning: a reply that refuses to
answer, and does not warn, ends it, and the works stay that are in doubt. -/
theorem refusal_ends_doubt :
    ¬ (∀ (before between : List (Visit Script)) (v : Visit Script),
      filled? (Visit.after Script.library (.opened none) before).warning ≠ none →
      (∀ first w, first ++ [w] <+: between →
        w.sent? Script.library (Visit.after Script.library (.opened none) (before ++ first)) =
          none) →
      v.Distrusts Script.library
        (Visit.after Script.library (.opened none) (before ++ between))) ∧
    (Visit.after Script.library (.opened none)
      [warnedLoad, refusedLoad none, replacingLoad]).works.map (·.id) = [some "a"] := by
  refine ⟨fun claimed => ?_, by decide⟩
  have distrusts := claimed [warnedLoad] [refusedLoad none] replacingLoad (by decide) ?_
  · have hasked : .collections [] [(lettersWith "a").spec] true ∈
        replacingLoad.questions Script.library
          (Visit.after Script.library (.opened none) [warnedLoad, refusedLoad none]) :=
      List.mem_cons_of_mem _ List.mem_cons_self
    cases distrusts.bypasses hasked
  · intro first w hinitial
    obtain ⟨rfl, rfl⟩ := eq_of_snoc_prefix_singleton hinitial
    rfl

/-- A refusal that warns keeps up the doubt, and the works are replaced. -/
theorem doubt_lasts_until_unwarned_reply_letters :
    (replacingLoad.Distrusts Script.library (Visit.after Script.library
        (Visit.after Script.library (.opened none) [warnedLoad]) [refusedLoad (some "slow")])) ∧
      (Visit.after Script.library (.opened none)
        [warnedLoad, refusedLoad (some "slow"), replacingLoad]).works.map (·.id) = [some "b"] := by
  refine ⟨doubt_lasts_until_unwarned_reply Script.library (by decide) ?_ replacingLoad, by decide⟩
  intro first w reply hinitial hreply
  obtain ⟨rfl, rfl⟩ := eq_of_snoc_prefix_singleton hinitial
  cases hreply
  decide

end Session

end CiteSync
