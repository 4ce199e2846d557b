import CiteSync.Proofs.Session.Visit
import CiteSync.Remote.Script

/-!
# Loads that fail

A load can fail at many points: at either answer, by what an answer says, because the document was
closed in the meantime, or because an answer cannot be merged.  At each of them it leaves the store
alone, and of the rest of the session it changes only what it has been told so far.
-/

namespace CiteSync.Session

open Library Remote FrontMatter

/-! ## 1. Merges that may fail -/

/-- A way to merge an answer with what is known: whether it tells of a change and what to keep of
it, or why it cannot be merged. -/
abbrev Merger := Request → Store → List Collection → Except Fault (Bool × List Collection)

/-- The merge of a load, which does not fail. -/
def Merger.settling : Merger := fun r store sent =>
  let merged := mergeAll r.useCache store r.previous sent
  .ok (merged.any (·.changed) || merged.length != r.previous.size, settle merged)

/-- Puts what a merge keeps in place of what is known, or gives the cycle up. -/
def commitBy (merger : Merger) (s : Session) (r : Request) (sent : List Collection) : Outcome :=
  match merger r s.store sent with
  | .ok (changed, kept) =>
    { changed
      session := { s with store := ⟨kept⟩ }
      records := [⟨.sync, Log.debug, "Synced " ++ toString kept.length ++
        " collections (use_cache=" ++ flagText r.useCache ++ ", has_updates=" ++
        flagText changed ++ ")"⟩] }
  | .error cause => s.giveUp cause

/-- Takes the answer about the collections. -/
def takeCollectionsBy (merger : Merger) (s : Session) (r : Request)
    (answer : Reply (List Collection)) : Outcome :=
  let s := { s with warning := answer.warning }
  match answer.ok, answer.message with
  | false, _ =>
    ⟨false, s, [⟨.sync, Log.info, "Could not read collections: " ++ errorText answer.error⟩]⟩
  | true, none => ⟨false, s, []⟩
  | true, some sent => if s.closed then ⟨false, s, []⟩ else s.commitBy merger r sent

/-- The second half of a cycle. -/
def concludeBy (merger : Merger) (s : Session) (document : Document) (elapsed : Float)
    (request : Request) (arrival : Arrival (Reply (List Collection))) :
    Stretch (Except Failure Bool) :=
  let before := s.arrivalRecords arrival
  let s := s.atArrival arrival
  let last := match arrival.result with
    | .ok answer => (s.takeCollectionsBy merger request answer).finish document elapsed
    | .error (.fault cause) => (s.giveUp cause).finish document elapsed
    | .error (.cancelled note) => cancelled document elapsed note s
  { last with records := before ++ last.records }

/-- An answer that is not merged leaves nothing but its warning. -/
theorem takeCollectionsBy_of_not_merged {merger : Merger} {r : Request}
    {reply : Reply (List Collection)} (s : Session)
    (h : ∀ sent, reply.sent? = some sent → s.closed = false →
      ∃ cause, merger r s.store sent = .error cause) :
    (s.takeCollectionsBy merger r reply).changed = false ∧
      (s.takeCollectionsBy merger r reply).session = { s with warning := reply.warning } := by
  unfold takeCollectionsBy
  split
  next => exact ⟨rfl, rfl⟩
  next => exact ⟨rfl, rfl⟩
  next sent hok hmessage =>
    dsimp only
    split
    next => exact ⟨rfl, rfl⟩
    next hopen =>
      have hsent : reply.sent? = some sent := by rw [Reply.sent?, if_pos hok, hmessage]
      obtain ⟨cause, hfailed⟩ := h sent hsent (Bool.not_eq_true _ ▸ hopen)
      unfold commitBy
      simp only [hfailed]
      exact ⟨rfl, rfl⟩

theorem takeCollectionsBy_settling (s : Session) (r : Request) (answer : Reply (List Collection)) :
    s.takeCollectionsBy .settling r answer = s.takeCollections r answer := by
  have hlength : ∀ store sent, (settle (mergeAll r.useCache store r.previous sent)).length =
      (mergeAll r.useCache store r.previous sent).length := by
    intro store sent
    rw [← List.length_map (fun c : Collection => c.key), settle_keys, List.length_map, mergeAll,
      List.length_map]
  unfold takeCollectionsBy takeCollections commitBy commit Merger.settling
  cases answer.ok with
  | false => rfl
  | true =>
    cases answer.message with
    | none => rfl
    | some sent => simp only [hlength]

theorem concludeBy_settling (s : Session) (document : Document) (elapsed : Float)
    (request : Request) (arrival : Arrival (Reply (List Collection))) :
    s.concludeBy .settling document elapsed request arrival =
      s.conclude document elapsed request arrival := by
  unfold concludeBy conclude
  cases arrival.result with
  | ok answer => simp only [takeCollectionsBy_settling]
  | error failure => cases failure <;> rfl

namespace Visit

variable {σ : Type} (merger : Merger) (library : RemoteLibrary σ) (s : Session) (v : Visit σ)

/-- Runs a load that merges in some way. -/
def runBy : Stretch (Except Failure Bool) × σ :=
  match s.wanted v.document v.given with
  | .error cause => (⟨.error (.fault cause), s, []⟩, v.remote)
  | .ok scope =>
    let (first, remote) := begin library v.document v.elapsed scope s v.remote
    match first.result with
    | .ended result => (⟨result, first.session, first.records⟩, remote)
    | .waiting request arrival =>
      let last := first.session.concludeBy merger v.document v.elapsed request arrival
      ({ last with records := first.records ++ last.records }, remote)

theorem runBy_settling : v.runBy .settling library s = v.run library s := by
  unfold runBy run load runCycle
  simp only [concludeBy_settling]
  cases s.wanted v.document v.given <;> rfl

/-! ## 2. Ways to fail -/

/-- The session as it is when the answer about the tree arrives, had there been no load. -/
def leftAtTree (scope : Scope) : Session := s.atArrival (v.tree library scope).1

/-- The session as it is when the answer about the collections arrives, had there been no load. -/
def leftAtAnswer (scope : Scope) : Session :=
  (v.leftAtTree library s scope).atArrival (v.answer library s scope).1

/-- The ways in which a load can fail, each with the session as it would be without the load and the
answer about the collections, if there was one. -/
inductive Mishap (scope : Scope) : Session → Option (Reply (List Collection)) → Prop
  | noTree {cause : Fault} (htree : (v.tree library scope).1.result = .error (.fault cause)) :
    Mishap scope (v.leftAtTree library s scope) none
  | noAnswer {tree : Reply (List Spec)} {cause : Fault}
      (htree : (v.tree library scope).1.result = .ok tree)
      (hanswer : (v.answer library s scope).1.result = .error (.fault cause)) :
    Mishap scope (v.leftAtAnswer library s scope) none
  | refused {tree : Reply (List Spec)} {reply : Reply (List Collection)}
      (htree : (v.tree library scope).1.result = .ok tree)
      (hanswer : (v.answer library s scope).1.result = .ok reply) (hnot : reply.ok = false) :
    Mishap scope (v.leftAtAnswer library s scope) (some reply)
  | empty {tree : Reply (List Spec)} {reply : Reply (List Collection)}
      (htree : (v.tree library scope).1.result = .ok tree)
      (hanswer : (v.answer library s scope).1.result = .ok reply) (hok : reply.ok = true)
      (hnone : reply.message = none) :
    Mishap scope (v.leftAtAnswer library s scope) (some reply)
  | closed {tree : Reply (List Spec)} {reply : Reply (List Collection)}
      (htree : (v.tree library scope).1.result = .ok tree)
      (hanswer : (v.answer library s scope).1.result = .ok reply)
      (hclosed : (v.leftAtAnswer library s scope).closed = true) :
    Mishap scope (v.leftAtAnswer library s scope) (some reply)
  | unmerged {tree : Reply (List Spec)} {reply : Reply (List Collection)}
      {sent : List Collection} {cause : Fault}
      (htree : (v.tree library scope).1.result = .ok tree)
      (hanswer : (v.answer library s scope).1.result = .ok reply) (hsent : reply.sent? = some sent)
      (hopen : (v.leftAtAnswer library s scope).closed = false)
      (hmerge : merger (request s scope) s.store sent = .error cause) :
    Mishap scope (v.leftAtAnswer library s scope) (some reply)

/-- The ways in which a load can be cancelled, each with the session as it would be without the
load. -/
inductive Cut (scope : Scope) : Session → String → Prop
  | atTree {note : String}
      (htree : (v.tree library scope).1.result = .error (.cancelled note)) :
    Cut scope (v.leftAtTree library s scope) note
  | atAnswer {tree : Reply (List Spec)} {note : String}
      (htree : (v.tree library scope).1.result = .ok tree)
      (hanswer : (v.answer library s scope).1.result = .error (.cancelled note)) :
    Cut scope (v.leftAtAnswer library s scope) note

end Visit

/-- A session that differs from another one at most by being in use, by the shapes of collections
that were taken over, by a warning that was given and by the cycles that have ended. -/
structure Noted (before after : Session) (tree : Option (List Spec))
    (warning : Option (Option String)) (ended : Nat) : Prop where
  path : after.path = before.path
  store : after.store = before.store
  closed : after.closed = before.closed
  enabled : after.enabled = true
  /-- Closing the document drops the shapes that were taken over before. -/
  specs : after.specs = before.specs ∨ tree = some after.specs
  specs_of_open : after.closed = false → after.specs = tree.getD before.specs
  warning : after.warning = warning.getD before.warning
  cycles : after.cycles = before.cycles + ended

namespace Noted

variable {before after : Session} {tree : Option (List Spec)} {warning : Option (Option String)}

theorem inUse (s : Session) : Noted s { s with enabled := true } none none 0 :=
  ⟨rfl, rfl, rfl, rfl, .inl rfl, fun _ => rfl, rfl, rfl⟩

theorem close (h : Noted before after tree none 0) :
    Noted before.close after.close tree none 0 := by
  unfold Session.close
  rw [h.closed]
  cases hclosed : before.closed with
  | true => exact h
  | false =>
    exact ⟨h.path, rfl, rfl, h.enabled, .inl rfl, fun hopen => (by cases hopen), rfl, h.cycles⟩

theorem atArrival {α : Type} (h : Noted before after tree none 0) (arrival : Arrival α) :
    Noted (before.atArrival arrival) (after.atArrival arrival) tree none 0 := by
  unfold Session.atArrival
  split
  · exact h.close
  · exact h

theorem heard (h : Noted before after none none 0) (reply : Reply (List Spec)) :
    Noted before (after.takeSpecs reply).1 reply.sent? none 0 := by
  have hspecs : after.specs = before.specs := h.specs.resolve_right fun hnone => by cases hnone
  unfold takeSpecs Reply.sent?
  rcases reply with ⟨_ | _, _ | specs, _, _⟩
  · exact ⟨h.path, h.store, h.closed, h.enabled, .inl hspecs, fun _ => hspecs, h.warning, h.cycles⟩
  · exact ⟨h.path, h.store, h.closed, h.enabled, .inl hspecs, fun _ => hspecs, h.warning, h.cycles⟩
  · exact ⟨h.path, h.store, h.closed, h.enabled, .inl hspecs, fun _ => hspecs, h.warning, h.cycles⟩
  · exact ⟨h.path, h.store, h.closed, h.enabled, .inr rfl, fun _ => rfl, h.warning, h.cycles⟩

theorem warned (h : Noted before after tree none 0) (text : Option String) :
    Noted before { after with warning := text } tree (some text) 0 :=
  ⟨h.path, h.store, h.closed, h.enabled, h.specs, h.specs_of_open, rfl, h.cycles⟩

theorem counted (h : Noted before after tree warning 0) :
    Noted before after.countCycle tree warning 1 :=
  ⟨h.path, h.store, h.closed, h.enabled, h.specs, h.specs_of_open, h.warning,
    congrArg (· + 1) h.cycles⟩

end Noted

/-! ## 3. What a load that fails leaves -/

namespace Visit

variable {σ : Type} {merger : Merger} {library : RemoteLibrary σ} {s : Session} {v : Visit σ}
  {scope : Scope}

theorem sent?_of_error {α : Type} {arrival : Arrival (Reply α)} {failure : Failure}
    (h : arrival.result = .error failure) : arrival.sent? = none := by
  unfold Arrival.sent?
  rw [h]

theorem sent?_of_ok {α : Type} {arrival : Arrival (Reply α)} {reply : Reply α}
    (h : arrival.result = .ok reply) : arrival.sent? = reply.sent? := by
  unfold Arrival.sent?
  rw [h]

theorem heardTree_of_ok {reply : Reply (List Spec)}
    (htree : (v.tree library scope).1.result = .ok reply) :
    (v.heardTree library s scope).result = none ∧
      Noted (v.leftAtTree library s scope) (v.heardTree library s scope).session
        (v.tree library scope).1.sent? none 0 := by
  have hnoted := (Noted.inUse s).atArrival (v.tree library scope).1
  unfold heardTree hearTree
  rw [sent?_of_ok htree, htree]
  exact ⟨rfl, hnoted.heard reply⟩

theorem heardTree_of_fault {cause : Fault}
    (htree : (v.tree library scope).1.result = .error (.fault cause)) :
    (v.heardTree library s scope).result = some (.ok false) ∧
      Noted (v.leftAtTree library s scope) (v.heardTree library s scope).session none none 1 := by
  have hnoted := (Noted.inUse s).atArrival (v.tree library scope).1
  unfold heardTree hearTree
  rw [htree]
  exact ⟨rfl, hnoted.counted⟩

theorem heardTree_of_cancelled {note : String}
    (htree : (v.tree library scope).1.result = .error (.cancelled note)) :
    (v.heardTree library s scope).result = some (.error (.cancelled note)) ∧
      Noted (v.leftAtTree library s scope) (v.heardTree library s scope).session none none 0 := by
  have hnoted := (Noted.inUse s).atArrival (v.tree library scope).1
  unfold heardTree hearTree
  rw [htree]
  exact ⟨rfl, hnoted⟩

variable (merger) in
theorem runBy_of_ended (hwanted : s.wanted v.document v.given = .ok scope)
    (hscope : scope ≠ .nothing) {result : Except Failure Bool}
    (hheard : (v.heardTree library s scope).result = some result) :
    (v.runBy merger library s).1.result = result ∧
      (v.runBy merger library s).1.session = (v.heardTree library s scope).session := by
  unfold runBy
  simp only [hwanted, v.begin_asking library s hscope, hheard, and_self]

variable (merger) in
theorem runBy_of_heard (hwanted : s.wanted v.document v.given = .ok scope)
    (hscope : scope ≠ .nothing) (hheard : (v.heardTree library s scope).result = none) :
    (v.runBy merger library s).1.result = ((v.heardTree library s scope).session.concludeBy merger
        v.document v.elapsed (request s scope) (v.answer library s scope).1).result ∧
      (v.runBy merger library s).1.session = ((v.heardTree library s scope).session.concludeBy
        merger v.document v.elapsed (request s scope) (v.answer library s scope).1).session := by
  unfold runBy
  simp only [hwanted, v.begin_asking library s hscope, hheard, and_self]

/-- What a load that gets an answer about the tree finds when the one about the collections
arrives. -/
theorem noted_atAnswer {reply : Reply (List Spec)}
    (htree : (v.tree library scope).1.result = .ok reply) :
    Noted (v.leftAtAnswer library s scope)
      ((v.heardTree library s scope).session.atArrival (v.answer library s scope).1)
      (v.tree library scope).1.sent? none 0 :=
  (heardTree_of_ok htree).2.atArrival _

/-- While the document is open the store is the one that the load began with. -/
theorem leftAtAnswer_of_open (h : (v.leftAtAnswer library s scope).closed = false) :
    v.leftAtAnswer library s scope = s := by
  have hstill : ∀ {t : Session} {α : Type} (arrival : Arrival α),
      (t.atArrival arrival).closed = false → t.atArrival arrival = t := by
    intro t α arrival h
    rcases t.atArrival_cases arrival with ha | ha
    · exact ha
    · rw [ha, close_closed] at h
      cases h
  have hanswer : v.leftAtAnswer library s scope = v.leftAtTree library s scope := hstill _ h
  rw [hanswer] at h ⊢
  exact hstill _ h

theorem runBy_of_not_merged (hwanted : s.wanted v.document v.given = .ok scope)
    (hscope : scope ≠ .nothing) {tree : Reply (List Spec)} {reply : Reply (List Collection)}
    (htree : (v.tree library scope).1.result = .ok tree)
    (hanswer : (v.answer library s scope).1.result = .ok reply)
    (hnot : ∀ sent, reply.sent? = some sent → (v.leftAtAnswer library s scope).closed = false →
      ∃ cause, merger (request s scope) s.store sent = .error cause) :
    (v.runBy merger library s).1.result = .ok false ∧
      Noted (v.leftAtAnswer library s scope) (v.runBy merger library s).1.session
        (v.tree library scope).1.sent? (some reply.warning) 1 := by
  have hnoted := noted_atAnswer (s := s) htree
  obtain ⟨hresult, hsession⟩ :=
    runBy_of_heard merger hwanted hscope (heardTree_of_ok (s := s) htree).1
  have hheard : ∀ sent, reply.sent? = some sent →
      ((v.heardTree library s scope).session.atArrival (v.answer library s scope).1).closed =
        false →
      ∃ cause, merger (request s scope)
        ((v.heardTree library s scope).session.atArrival (v.answer library s scope).1).store sent =
          .error cause := by
    intro sent hsent hopen
    have hleft := hnoted.closed.symm.trans hopen
    rw [hnoted.store, leftAtAnswer_of_open hleft]
    exact hnot sent hsent hleft
  -- what was heard before has left the store alone
  obtain ⟨hchanged, htaken⟩ := takeCollectionsBy_of_not_merged _ hheard
  rw [hresult, hsession]
  unfold concludeBy
  simp only [hanswer, Outcome.finish, hchanged, htaken]
  exact ⟨trivial, (hnoted.warned reply.warning).counted⟩

theorem Mishap.leaves (hwanted : s.wanted v.document v.given = .ok scope)
    (hscope : scope ≠ .nothing) {before : Session} {answered : Option (Reply (List Collection))}
    (mishap : v.Mishap merger library s scope before answered) :
    (v.runBy merger library s).1.result = .ok false ∧
      Noted before (v.runBy merger library s).1.session (v.tree library scope).1.sent?
        (answered.map (·.warning)) 1 := by
  cases mishap with
  | noTree htree =>
    obtain ⟨hheard, hnoted⟩ := heardTree_of_fault (s := s) htree
    obtain ⟨hresult, hsession⟩ := runBy_of_ended merger hwanted hscope hheard
    rw [hresult, hsession, sent?_of_error htree]
    exact ⟨rfl, hnoted⟩
  | noAnswer htree hanswer =>
    obtain ⟨hresult, hsession⟩ :=
      runBy_of_heard merger hwanted hscope (heardTree_of_ok (s := s) htree).1
    rw [hresult, hsession]
    unfold concludeBy
    simp only [hanswer]
    exact ⟨rfl, (noted_atAnswer htree).counted⟩
  | refused htree hanswer hnot =>
    refine runBy_of_not_merged hwanted hscope htree hanswer fun sent hsent _ => ?_
    rw [Reply.sent?, hnot] at hsent
    cases hsent
  | empty htree hanswer hok hnone =>
    refine runBy_of_not_merged hwanted hscope htree hanswer fun sent hsent _ => ?_
    rw [Reply.sent?, if_pos hok, hnone] at hsent
    cases hsent
  | closed htree hanswer hclosed =>
    refine runBy_of_not_merged hwanted hscope htree hanswer fun _ _ hopen => ?_
    rw [hclosed] at hopen
    cases hopen
  | unmerged htree hanswer hsent _ hmerge =>
    refine runBy_of_not_merged hwanted hscope htree hanswer fun sent' hsent' _ => ?_
    rw [hsent] at hsent'
    cases hsent'
    exact ⟨_, hmerge⟩

theorem Cut.leaves (hwanted : s.wanted v.document v.given = .ok scope) (hscope : scope ≠ .nothing)
    {before : Session} {note : String} (cut : v.Cut library s scope before note) :
    (v.runBy merger library s).1.result = .error (.cancelled note) ∧
      Noted before (v.runBy merger library s).1.session (v.tree library scope).1.sent? none 0 := by
  cases cut with
  | atTree htree =>
    obtain ⟨hheard, hnoted⟩ := heardTree_of_cancelled (s := s) htree
    obtain ⟨hresult, hsession⟩ := runBy_of_ended merger hwanted hscope hheard
    rw [hresult, hsession, sent?_of_error htree]
    exact ⟨rfl, hnoted⟩
  | atAnswer htree hanswer =>
    obtain ⟨hresult, hsession⟩ :=
      runBy_of_heard merger hwanted hscope (heardTree_of_ok (s := s) htree).1
    rw [hresult, hsession]
    unfold concludeBy
    simp only [hanswer]
    exact ⟨rfl, noted_atAnswer htree⟩

theorem leftAtTree_cases (scope : Scope) :
    v.leftAtTree library s scope = s ∨ v.leftAtTree library s scope = s.close :=
  s.atArrival_cases _

theorem leftAtAnswer_cases (scope : Scope) :
    v.leftAtAnswer library s scope = s ∨ v.leftAtAnswer library s scope = s.close := by
  unfold leftAtAnswer
  -- a document that was closed while the tree was asked for stays closed
  have htree : v.leftAtTree library s scope = s ∨ v.leftAtTree library s scope = s.close :=
    leftAtTree_cases scope
  rcases htree with htree | htree
  · rw [htree]
    exact s.atArrival_cases _
  · rw [htree, atArrival_of_closed s.close_closed]
    exact .inr rfl

theorem Mishap.left_cases {before : Session} {answered : Option (Reply (List Collection))}
    (mishap : v.Mishap merger library s scope before answered) : before = s ∨ before = s.close := by
  cases mishap with
  | noTree => exact leftAtTree_cases scope
  | noAnswer => exact leftAtAnswer_cases scope
  | refused => exact leftAtAnswer_cases scope
  | empty => exact leftAtAnswer_cases scope
  | closed => exact leftAtAnswer_cases scope
  | unmerged => exact leftAtAnswer_cases scope

theorem Cut.left_cases {before : Session} {note : String}
    (cut : v.Cut library s scope before note) : before = s ∨ before = s.close := by
  cases cut with
  | atTree => exact leftAtTree_cases scope
  | atAnswer => exact leftAtAnswer_cases scope

theorem runBy_of_merged (hwanted : s.wanted v.document v.given = .ok scope)
    (hscope : scope ≠ .nothing) {tree : Reply (List Spec)} {reply : Reply (List Collection)}
    {sent kept : List Collection} {changed : Bool}
    (htree : (v.tree library scope).1.result = .ok tree)
    (hanswer : (v.answer library s scope).1.result = .ok reply) (hok : reply.ok = true)
    (hmessage : reply.message = some sent) (hopen : (v.leftAtAnswer library s scope).closed = false)
    (hmerge : merger (request s scope) s.store sent = .ok (changed, kept)) :
    (v.runBy merger library s).1.result = .ok changed ∧
      (v.runBy merger library s).1.session.store = ⟨kept⟩ := by
  have hnoted := noted_atAnswer (s := s) htree
  have hstill := hnoted.closed.trans hopen
  have hstore := hnoted.store.trans (congrArg Session.store (leftAtAnswer_of_open hopen))
  obtain ⟨hresult, hsession⟩ :=
    runBy_of_heard merger hwanted hscope (heardTree_of_ok (s := s) htree).1
  rw [hresult, hsession]
  unfold concludeBy takeCollectionsBy commitBy
  simp only [hanswer, hok, hmessage, hstill, hstore, hmerge, Bool.false_eq_true, if_false]
  exact ⟨rfl, rfl⟩

/-- An answer is refused, empty, too late for the document, not merged, or merged. -/
theorem mishap_or_merged {tree : Reply (List Spec)} {reply : Reply (List Collection)}
    (hwanted : s.wanted v.document v.given = .ok scope) (hscope : scope ≠ .nothing)
    (htree : (v.tree library scope).1.result = .ok tree)
    (hanswer : (v.answer library s scope).1.result = .ok reply) :
    (∃ before answered, v.Mishap merger library s scope before answered) ∨
      ∃ sent changed kept, (v.answer library s scope).1.sent? = some sent ∧
        merger (request s scope) s.store sent = .ok (changed, kept) ∧
        (v.runBy merger library s).1.result = .ok changed ∧
        (v.runBy merger library s).1.session.store = ⟨kept⟩ := by
  cases hok : reply.ok with
  | false => exact .inl ⟨_, _, .refused htree hanswer hok⟩
  | true =>
    cases hmessage : reply.message with
    | none => exact .inl ⟨_, _, .empty htree hanswer hok hmessage⟩
    | some sent =>
      have hsent : reply.sent? = some sent := by rw [Reply.sent?, if_pos hok, hmessage]
      cases hleft : (v.leftAtAnswer library s scope).closed with
      | true => exact .inl ⟨_, _, .closed htree hanswer hleft⟩
      | false =>
        cases hmerge : merger (request s scope) s.store sent with
        | error cause => exact .inl ⟨_, _, .unmerged htree hanswer hsent hleft hmerge⟩
        | ok merged =>
          exact .inr ⟨sent, merged.1, merged.2, (sent?_of_ok hanswer).trans hsent, hmerge,
            runBy_of_merged hwanted hscope htree hanswer hok hmessage hleft hmerge⟩

/-- A load of an open document that wants the library fails, is cancelled or commits what the merge
keeps. -/
theorem mishap_or_cut_or_commits (hopen : s.closed = false) (hasked : v.scope? = .ok scope)
    (hscope : scope ≠ .nothing) :
    (∃ before answered, v.Mishap merger library s scope before answered) ∨
      (∃ before note, v.Cut library s scope before note) ∨
      ∃ sent changed kept, (v.answer library s scope).1.sent? = some sent ∧
        merger (request s scope) s.store sent = .ok (changed, kept) ∧
        (v.runBy merger library s).1.result = .ok changed ∧
        (v.runBy merger library s).1.session.store = ⟨kept⟩ := by
  have hwanted := (v.wanted_of_open s hopen).trans hasked
  cases htree : (v.tree library scope).1.result with
  | error failure =>
    cases failure with
    | cancelled note => exact .inr (.inl ⟨_, _, .atTree htree⟩)
    | fault cause => exact .inl ⟨_, _, .noTree htree⟩
  | ok tree =>
    cases hanswer : (v.answer library s scope).1.result with
    | error failure =>
      cases failure with
      | cancelled note => exact .inr (.inl ⟨_, _, .atAnswer htree hanswer⟩)
      | fault cause => exact .inl ⟨_, _, .noAnswer htree hanswer⟩
    | ok reply => exact (mishap_or_merged hwanted hscope htree hanswer).imp_right .inr

end Visit

/-- A load that fails, however it merges, reports no change and leaves the session as it would be
without the load, but for being in use, the shapes it has taken over, the warning it was answered
with and one more cycle; a load that is cancelled says so and counts no cycle.  Without the load the
session would be as it was, or closed. -/
theorem failed_load_keeps_store {σ : Type} (merger : Merger) (library : RemoteLibrary σ)
    {s : Session} (v : Visit σ) {scope : Scope} (hopen : s.closed = false)
    (hasked : v.scope? = .ok scope) (hscope : scope ≠ .nothing) :
    v.runBy .settling library s = v.run library s ∧
      (∀ before answered, v.Mishap merger library s scope before answered →
        (before = s ∨ before = s.close) ∧ (v.runBy merger library s).1.result = .ok false ∧
          Noted before (v.runBy merger library s).1.session (v.tree library scope).1.sent?
            (answered.map (·.warning)) 1) ∧
      ∀ before note, v.Cut library s scope before note →
        (before = s ∨ before = s.close) ∧
          (v.runBy merger library s).1.result = .error (.cancelled note) ∧
          Noted before (v.runBy merger library s).1.session (v.tree library scope).1.sent? none
            0 := by
  have hwanted := (v.wanted_of_open s hopen).trans hasked
  refine ⟨v.runBy_settling library s, fun before answered mishap => ?_, fun before note cut => ?_⟩
  · exact ⟨mishap.left_cases, mishap.leaves hwanted hscope⟩
  · exact ⟨cut.left_cases, cut.leaves hwanted hscope⟩

/-! ## 4. Mishaps of one load -/

/-- A session that has a collection and was warned. -/
def lettersStored : Session :=
  { store := ⟨[{ key := "L", name := "Letters", version := 1, items := some [{ id := some "a" }] }]⟩
    specs := [{ key := "L", name := "Letters" }]
    warning := some "offline"
    cycles := 1 }

/-- A load that is told that the collection tree is empty, and then this. -/
def toldThat (collections : Scripted (List Collection)) : Visit Script where
  given := some .all
  remote := { coming := [{ specs := some (.ok (.success [] none)), collections }] }

/-- Three loads that fail: one whose answer cannot be merged, one that the library refuses, and one
that is cancelled. -/
theorem failed_load_keeps_store_letters :
    (((toldThat (.ok (.success [] (some "late")))).runBy
          (fun _ _ _ => .error (.foreign "Exhausted" "no letter is left")) Script.library
          lettersStored).1.session.store = lettersStored.store ∧
        ((toldThat (.ok (.success [] (some "late")))).runBy
          (fun _ _ _ => .error (.foreign "Exhausted" "no letter is left")) Script.library
          lettersStored).1.session.warning = some "late") ∧
      (((toldThat (.ok (.failure "refused" none))).run Script.library
          lettersStored).1.session.store = lettersStored.store ∧
        ((toldThat (.ok (.failure "refused" none))).run Script.library
          lettersStored).1.session.cycles = 2) ∧
      ((toldThat (.error (.cancelled ""))).run Script.library lettersStored).1.session.warning =
        some "offline" := by
  refine ⟨?_, ?_, ?_⟩
  · obtain ⟨-, fails, -⟩ := failed_load_keeps_store
      (fun _ _ _ => .error (.foreign "Exhausted" "no letter is left")) Script.library
      (s := lettersStored) (toldThat (.ok (.success [] (some "late")))) rfl rfl
      (by decide)
    obtain ⟨-, -, noted⟩ := fails _ _ (.unmerged rfl rfl rfl rfl rfl)
    exact ⟨noted.store, noted.warning⟩
  · obtain ⟨settles, fails, -⟩ := failed_load_keeps_store .settling Script.library
      (s := lettersStored) (toldThat (.ok (.failure "refused" none))) rfl rfl
      (by decide)
    obtain ⟨-, -, noted⟩ := fails _ _ (.refused rfl rfl rfl)
    rw [settles] at noted
    exact ⟨noted.store, noted.cycles⟩
  · obtain ⟨settles, -, cuts⟩ := failed_load_keeps_store .settling Script.library
      (s := lettersStored) (toldThat (.error (.cancelled ""))) rfl rfl (by decide)
    obtain ⟨-, -, noted⟩ := cuts _ _ (.atAnswer rfl rfl)
    rw [settles] at noted
    exact noted.warning

end CiteSync.Session
