import CiteSync.Proofs.Completion.Panel.Lockstep
import CiteSync.Proofs.Completion.Panel.Progress

/-!
# Those who leave

Whoever waits for a load may be cancelled, alone or with others.  From then on it is gone: what it
still does matters neither to the load nor to those who wait for it as well.
-/

namespace CiteSync.Completion

open Remote

variable {σ : Type} {library : RemoteLibrary σ} {shelf : Nat → Bool} {gone : List Nat}

/-! ## 1. Who may be cancelled -/

/-- Whether an activity has started. -/
def Stage.started : Stage → Bool
  | fresh => false
  | _ => true

namespace Panel

/-- Whether an activity may be cancelled while loads go on: it is no load, and if it asks for a
bibliography, or starts others that do, it has done so. -/
def mayLeave (p : Panel σ) (a : Activity) : Bool :=
  match a.work with
  | .query .. => a.stage.started
  | .entries i _ | .refresh _ i _ => a.stage.started || (p.bibliography? i).isNone
  | .load .. => false
  | .wait _ => true

/-- The activities that a move cancels and that have not ended. -/
def strikes (p : Panel σ) : Move → List Nat
  | .cancel number =>
    match p.gathering? number with
    | some g => if g.activities.any p.isGoingOn then g.activities.filter p.isGoingOn else [number]
    | none => [number].filter p.isGoingOn
  | .close => p.outstanding.filter p.isGoingOn
  | _ => []

/-- Whether all that a move cancels may be cancelled while loads go on. -/
def spares (p : Panel σ) (m : Move) : Bool :=
  (p.strikes m).all fun number => (p.activities[number]?).all p.mayLeave

variable (library) in
/-- The activities that are cancelled in the course of moves. -/
def struck (p : Panel σ) : List Move → List Nat
  | [] => []
  | m :: moves => p.strikes m ++ struck (p.move library m) moves

variable (library) in
/-- Whether all that is cancelled in the course of moves may be cancelled while loads go on. -/
def spared (p : Panel σ) : List Move → Bool
  | [] => true
  | m :: moves => p.spares m && spared (p.move library m) moves

variable (shelf) in
/-- One that has ended, or may be cancelled while loads go on. -/
def Free (p : Panel σ) (number : Nat) : Prop :=
  ∀ a, p.activities[number]? = some a → a.stage.ending? = none →
    (a.work.role shelf).isLoad = false ∧ (a.stage = .fresh → a.work.role shelf = .aside)

variable {p p' : Panel σ} {number : Nat} {a : Activity}

theorem askerRole_isLoad (i : Nat) (document : Document) :
    (askerRole shelf i document).isLoad = false := by
  unfold askerRole
  split <;> rfl

theorem Tidy.role_of_mayLeave (tidy : Tidy shelf gone p) (h : p.mayLeave a = true) :
    (a.work.role shelf).isLoad = false ∧ (a.stage = .fresh → a.work.role shelf = .aside) := by
  unfold mayLeave at h
  have haside : ∀ {i : Nat} (document : Document),
      (a.stage.started || (p.bibliography? i).isNone) = true → a.stage = .fresh →
        askerRole shelf i document = .aside := by
    intro i document hleaves hfresh
    rw [hfresh, Stage.started, Bool.false_or, Option.isNone_iff_eq_none] at hleaves
    have hshelf := tidy.shelves i
    rw [hleaves] at hshelf
    rw [askerRole, ← hshelf]
    rfl
  cases hwork : a.work with
  | query q token document =>
    rw [hwork] at h
    exact ⟨rfl, fun hfresh => by rw [hfresh] at h; cases h⟩
  | entries i document =>
    rw [hwork] at h
    exact ⟨askerRole_isLoad i document, haside document h⟩
  | refresh q i document =>
    rw [hwork] at h
    exact ⟨askerRole_isLoad i document, haside document h⟩
  | load => rw [hwork] at h; cases h
  | wait => exact ⟨rfl, fun _ => rfl⟩

theorem Tidy.free_of_spares (tidy : Tidy shelf gone p) {m : Move} (h : p.spares m = true)
    (struck : number ∈ p.strikes m) : Free shelf p number := by
  intro a here _
  have hleaves := List.all_eq_true.1 h number struck
  rw [here, Option.all_some] at hleaves
  exact tidy.role_of_mayLeave hleaves

/-! ## 2. Being gone -/

theorem seen_of_seen_cons {role : Role} {n : Nat}
    (h : role.seen (number :: gone) n = true) : role.seen gone n = true := by
  cases role with
  | load => rfl
  | asker =>
    simp only [Role.seen, List.contains_cons, Bool.not_or, Bool.and_eq_true] at h
    exact h.2
  | query | aside => cases h

theorem due_of_due_cons {r : Reaction} (h : p.due shelf (number :: gone) r = true) :
    p.due shelf gone r = true := by
  cases r with
  | start => rfl
  | goOn n =>
    simp only [due, Option.all_eq_true] at h ⊢
    exact fun role hrole => seen_of_seen_cons (h role hrole)
  | noteRefresh | count => cases h
  | passOn waiting load =>
    simp only [due, List.contains_cons, Bool.not_or, Bool.and_eq_true] at h
    exact h.2

theorem Alike.leave (h : Alike shelf gone p p') (number : Nat) :
    Alike shelf (number :: gone) p p' where
  shelves := h.shelves
  width := h.width
  length := h.length
  activities := fun n a here => by
    obtain ⟨a', here', halike⟩ := h.activities n a here
    refine ⟨a', here',
      { role := halike.role
        stage := fun hseen => halike.stage (seen_of_seen_cons hseen)
        cancelAsked := fun hseen => halike.cancelAsked (seen_of_seen_cons hseen)
        told := fun hload => filter_of_imp (fun r hr => ?_) (halike.told hload)
        fresh := halike.fresh
        wanted := halike.wanted }⟩
    cases r with
    | passOn waiting load =>
      simp only [Reaction.tells, List.contains_cons, Bool.not_or, Bool.and_eq_true] at hr
      exact hr.2
    | start | goOn | noteRefresh | count => cases hr
  gates := h.gates
  ready := filter_of_imp (fun _ => due_of_due_cons) h.ready

theorem Tidy.leave (tidy : Tidy shelf gone p) (here : p.activities[number]? = some a)
    (started : a.stage ≠ .fresh) (asker : (a.work.role shelf).isAsker = true) :
    Tidy shelf (number :: gone) p :=
  { tidy with
    left := fun n hn => by
      rcases List.mem_cons.1 hn with rfl | hn
      · exact ⟨a, here, started, asker⟩
      · exact tidy.left n hn }

/-- One that has asked a bibliography no longer matters. -/
theorem Paired.leave (h : Paired shelf gone p p') (here : p.activities[number]? = some a)
    (started : a.stage ≠ .fresh) (asker : (a.work.role shelf).isAsker = true) :
    Paired shelf (number :: gone) p p' := by
  obtain ⟨a', here', halike⟩ := h.alike.activities number a here
  have hstarted : a'.stage ≠ .fresh := by
    by_cases hgone : number ∈ gone
    · -- whoever was gone before had started in both
      obtain ⟨b, hb, hstage, -⟩ := h.tidy'.left number hgone
      rwa [Option.some.inj (here'.symm.trans hb)]
    · rwa [halike.stage (Role.seen_of_stays (Role.isPlain_of_isAsker asker) hgone)]
  exact ⟨h.tidy.leave here started asker,
    h.tidy'.leave here' hstarted (by rw [halike.role, asker]), h.alike.leave number⟩

/-! ## 3. Cancelling one -/

section Hidden

variable (tidy : Tidy shelf gone p)
  (hidden : ∀ a, p.activities[number]? = some a → (a.work.role shelf).seen gone number = false)
  (query : ∀ a, p.activities[number]? = some a → (a.work.role shelf).isQuery = true →
    a.stage ≠ .fresh)

include tidy hidden query

theorem Tidy.hides_askCancel : Hides shelf gone p (p.askCancel number) := by
  refine tidy.hides_setActivity fun a here => ?_
  have hcontinues : a.Continues { a with cancelAsked := true } :=
    ⟨rfl, fun h => h, .of_reactions rfl⟩
  exact hcontinues.hides (hidden a here) (query a here) fun pause told =>
    tidy.awaits number a pause told here

theorem Tidy.hides_cancelSingle : Hides shelf gone p (p.cancelSingle number) := by
  unfold cancelSingle
  split
  next hstage =>
    obtain ⟨a, here, -⟩ := Option.map_eq_some_iff.1 hstage
    exact tidy.hides_tell (not_due_of_hidden here (hidden a here)) _ _
  next => exact .refl tidy
  next => exact tidy.hides_askCancel hidden query

end Hidden

/-! ## 4. How far all have come -/

/-- No activity has started, ended or been added. -/
structure Rests (p p' : Panel σ) : Prop where
  length : p'.activities.length = p.activities.length
  activities : ∀ (n : Nat) (a : Activity), p.activities[n]? = some a →
    ∃ a', p'.activities[n]? = some a' ∧ a'.work = a.work ∧
      a'.stage.ending? = a.stage.ending? ∧ (a'.stage = .fresh ↔ a.stage = .fresh)

theorem Rests.refl (p : Panel σ) : Rests p p := ⟨rfl, fun _ a here => ⟨a, here, rfl, rfl, .rfl⟩⟩

theorem Rests.setActivity {change : Activity → Activity}
    (h : ∀ a, p.activities[number]? = some a → (change a).work = a.work ∧
      (change a).stage.ending? = a.stage.ending? ∧ ((change a).stage = .fresh ↔ a.stage = .fresh)) :
    Rests p (p.setActivity number change) where
  length := List.length_modify ..
  activities := fun n a here => by
    obtain ⟨a', here', rfl | ⟨rfl, rfl⟩⟩ := exists_of_setActivity here number change
    · exact ⟨a', here', rfl, rfl, .rfl⟩
    · exact ⟨_, here', h a here⟩

theorem setGathering_rests (change : Gathering → Gathering) :
    Rests p (p.setGathering number change) :=
  .setActivity fun a _ =>
    ⟨rfl, Stage.ending?_mapGathered _ _, by cases a.stage <;> simp [Stage.mapGathered]⟩

theorem cancelSingle_rests : Rests p (p.cancelSingle number) := by
  unfold cancelSingle
  split
  next pause hstage =>
    unfold tell
    rw [hstage]
    obtain ⟨a, here, hwaits⟩ := Option.map_eq_some_iff.1 hstage
    have htold : Rests p
        (p.setActivity number fun a => { a with stage := .waiting pause (some .cancelled) }) := by
      refine .setActivity fun b hb => ?_
      rw [← Option.some.inj (here.symm.trans hb), hwaits]
      exact ⟨rfl, rfl, (fun h => nomatch h), fun h => nomatch h⟩
    exact ⟨htold.length, htold.activities⟩
  next => exact .refl p
  next => exact .setActivity fun _ _ => ⟨rfl, rfl, .rfl⟩

theorem Rests.none (h : Rests p p') (hnone : p.activities[number]? = none) :
    p'.activities[number]? = none := by
  rw [List.getElem?_eq_none_iff] at hnone ⊢
  rwa [h.length]

theorem Rests.isGoingOn (h : Rests p p') (number : Nat) :
    p'.isGoingOn number = p.isGoingOn number := by
  unfold Panel.isGoingOn activityEnding?
  cases here : p.activities[number]? with
  | none => rw [h.none here]
  | some a =>
    obtain ⟨a', here', -, hending, -⟩ := h.activities number a here
    rw [here', Option.bind_some, Option.bind_some, hending]

theorem Rests.free (h : Rests p p') (free : Free shelf p number) : Free shelf p' number := by
  intro a' here' goesOn
  cases here : p.activities[number]? with
  | none =>
    rw [h.none here] at here'
    cases here'
  | some a =>
    obtain ⟨b, hb, hwork, hending, hfresh⟩ := h.activities number a here
    obtain rfl := Option.some.inj (here'.symm.trans hb)
    obtain ⟨hload, haside⟩ := free a here (hending.symm.trans goesOn)
    rw [hwork]
    exact ⟨hload, fun hfresh' => haside (hfresh.1 hfresh')⟩

/-! ## 5. Cancelling -/

theorem cancelSingle_of_ended (here : p.activities[number]? = some a)
    (ended : a.stage.ending?.isSome) : p.cancelSingle number = p := by
  unfold cancelSingle
  rw [here, Option.map_some]
  cases hstage : a.stage with
  | ended => rfl
  | fresh | waiting => rw [hstage] at ended; cases ended

theorem isGoingOn_of_here (here : p.activities[number]? = some a)
    (goesOn : a.stage.ending? = none) : p.isGoingOn number = true := by
  rw [isGoingOn, activityEnding?, here, Option.bind_some, goesOn]
  rfl

/-- Those who gather have nothing to do with loads. -/
theorem Tidy.gatherer_isPlain (tidy : Tidy shelf gone p) {g : Gathering}
    (gathers : p.gathering? number = some g) :
    ∃ a, p.activities[number]? = some a ∧ (a.work.role shelf).isPlain = true ∧
      a.stage ≠ .fresh := by
  obtain ⟨a, here, hgathers⟩ := Option.bind_eq_some_iff.1 gathers
  refine ⟨a, here, ?_, fun hfresh => by rw [hfresh] at hgathers; cases hgathers⟩
  cases hplain : (a.work.role shelf).isPlain with
  | true => rfl
  | false =>
    rw [(tidy.mapGathered here hplain id).2] at hgathers
    cases hgathers

section Cancelling

/- Whatever is cancelled is cancelled one by one, with something done before or after that does not
matter. -/
variable (holds : Panel σ → Prop) {struck : List Nat}
  (single : ∀ q n, holds q → Free shelf q n → (q.isGoingOn n = true → n ∈ struck) →
    holds (q.cancelSingle n))

include single

theorem cancelAll_keeps (numbers : List Nat)
    (free : ∀ n ∈ numbers, p.isGoingOn n = true → n ∈ struck ∧ Free shelf p n) (hp : holds p) :
    holds (numbers.foldl (fun p n => p.cancelSingle n) p) := by
  induction numbers generalizing p with
  | nil => exact hp
  | cons number numbers ih =>
    have hrests : Rests p (p.cancelSingle number) := cancelSingle_rests
    -- cancelling one neither starts nor ends any of the others
    refine ih (fun n hn hgoes => ?_) (single p number hp (fun a here goesOn => ?_) fun hgoes => ?_)
    · rw [hrests.isGoingOn] at hgoes
      exact (free n (.tail _ hn) hgoes).imp_right hrests.free
    · exact (free number (.head _) (isGoingOn_of_here here goesOn)).2 a here goesOn
    · exact (free number (.head _) hgoes).1

variable (aside : ∀ q q', holds q → (∀ gone, Tidy shelf gone q → Hides shelf gone q q') →
  holds q')

include aside

theorem cancel_keeps (tidy : Tidy shelf gone p) (spares : p.spares (.cancel number) = true)
    (hstruck : p.strikes (.cancel number) ⊆ struck) (hp : holds p) : holds (p.cancel number) := by
  have hfree : ∀ n ∈ p.strikes (.cancel number), n ∈ struck ∧ Free shelf p n := fun n hn =>
    ⟨hstruck hn, tidy.free_of_spares spares hn⟩
  unfold Panel.cancel
  unfold strikes at hfree
  cases hgathers : p.gathering? number with
  | none =>
    simp only [hgathers] at hfree ⊢
    exact cancelAll_keeps holds single [number]
      (fun n hn hgoes => hfree n (List.mem_filter.2 ⟨hn, hgoes⟩)) hp
  | some g =>
    -- a query that gathers is cancelled through those it waits for
    simp only [hgathers] at hfree ⊢
    split
    next hgoing =>
      rw [if_pos hgoing] at hfree
      have hrests : Rests p (p.setGathering number fun g => { g with cancelled := true }) :=
        setGathering_rests _
      refine cancelAll_keeps holds single g.activities (fun n hn hgoes => ?_)
        (aside _ _ hp fun _ tidy => tidy.hides_setGathering _)
      rw [hrests.isGoingOn] at hgoes
      exact (hfree n (List.mem_filter.2 ⟨hn, hgoes⟩)).imp_right hrests.free
    next =>
      -- all of them have ended, and only the query itself is marked
      obtain ⟨a, here, hplain, hstarted⟩ := tidy.gatherer_isPlain hgathers
      have hself : ∀ b, p.activities[number]? = some b → b = a := fun b hb =>
        Option.some.inj (hb.symm.trans here)
      refine aside _ _ hp fun _ tidy => tidy.hides_askCancel (fun b hb => ?_) fun b hb _ => ?_
      · rw [hself b hb]
        exact Role.seen_of_isPlain hplain _ _
      · rwa [hself b hb]

theorem close_keeps (tidy : Tidy shelf gone p) (spares : p.spares .close = true)
    (hstruck : p.strikes .close ⊆ struck) (hp : holds p) : holds p.close := by
  have hall := cancelAll_keeps holds single p.outstanding (fun n hn hgoes => by
    have hmem : n ∈ p.strikes .close := List.mem_filter.2 ⟨hn, hgoes⟩
    exact ⟨hstruck hmem, tidy.free_of_spares spares hmem⟩) hp
  exact aside _ _ hall fun _ tidy => tidy.hides_same rfl rfl rfl rfl

theorem cancels_keep {m : Move} (cancels : m.cancels = true) (tidy : Tidy shelf gone p)
    (spares : p.spares m = true) (hstruck : p.strikes m ⊆ struck) (hp : holds p) :
    holds (p.move library m) := by
  cases m with
  | cancel number => exact cancel_keeps holds single aside tidy spares hstruck hp
  | close => exact close_keeps holds single aside tidy spares hstruck hp
  | _ => cases cancels

end Cancelling

/-! ## 6. Cancelling in one of two panels -/

/-- Where some are cancelled in one of the panels, at most these are gone. -/
def Left (shelf : Nat → Bool) (gone struck : List Nat) (p p' : Panel σ) : Prop :=
  ∃ gone', Paired shelf gone' p p' ∧ ∀ n ∈ gone', n ∈ gone ∨ n ∈ struck

theorem Paired.left_gone (h : Paired shelf gone p p') (struck : List Nat) :
    Left shelf gone struck p p' :=
  ⟨gone, h, fun _ => .inl⟩

theorem Paired.cancelSingle (h : Paired shelf gone p p') (free : Free shelf p number) :
    Paired shelf gone (p.cancelSingle number) p' ∨
      Paired shelf (number :: gone) (p.cancelSingle number) p' ∧ p.isGoingOn number = true := by
  have hides : ∀ {gone : List Nat}, Tidy shelf gone p →
      (∀ a, p.activities[number]? = some a → (a.work.role shelf).seen gone number = false ∧
        ((a.work.role shelf).isQuery = true → a.stage ≠ .fresh)) →
      Hides shelf gone p (p.cancelSingle number) := fun tidy hall =>
    tidy.hides_cancelSingle (fun a here => (hall a here).1) fun a here => (hall a here).2
  cases here : p.activities[number]? with
  | none => exact .inl (h.left (hides h.tidy fun a ha => by rw [here] at ha; cases ha))
  | some a =>
    have hself : ∀ b, p.activities[number]? = some b → a = b := fun b hb =>
      Option.some.inj (here.symm.trans hb)
    cases goesOn : a.stage.ending? with
    | some ended =>
      rw [cancelSingle_of_ended here (by rw [goesOn]; rfl)]
      exact .inl h
    | none =>
      obtain ⟨hload, hfresh⟩ := free a here goesOn
      have hstarted : a.work.role shelf ≠ .aside → a.stage ≠ .fresh := fun hrole fresh =>
        hrole (hfresh fresh)
      cases hrole : a.work.role shelf with
      | load => rw [hrole] at hload; cases hload
      | aside =>
        refine .inl (h.left (hides h.tidy fun b hb => ?_))
        rw [← hself b hb, hrole]
        exact ⟨rfl, fun hquery => nomatch hquery⟩
      | query document =>
        refine .inl (h.left (hides h.tidy fun b hb => ?_))
        rw [← hself b hb, hrole]
        exact ⟨rfl, fun _ => hstarted (by rw [hrole]; exact nofun)⟩
      | asker i document =>
        -- one that waits for a load is gone from now on
        have hgone := h.leave here (hstarted (by rw [hrole]; exact nofun)) (by rw [hrole]; rfl)
        refine .inr ⟨hgone.left (hides hgone.tidy fun b hb => ?_), isGoingOn_of_here here goesOn⟩
        rw [← hself b hb, hrole]
        exact ⟨Role.seen_of_gone rfl (.head _), fun hquery => nomatch hquery⟩

/-- A move that cancels is made in one of the panels only. -/
theorem Paired.cancels (h : Paired shelf gone p p') {m : Move} (cancels : m.cancels = true)
    (spares : p.spares m = true) :
    Left shelf gone (p.strikes m) (p.move library m) p' := by
  refine cancels_keep (fun q => Left shelf gone (p.strikes m) q p')
    (fun q n ⟨gone', hpaired, hgone⟩ free hstruck => ?_)
    (fun q q' ⟨gone', hpaired, hgone⟩ hides => ⟨gone', hpaired.left (hides _ hpaired.tidy), hgone⟩)
    cancels h.tidy spares (List.Subset.refl _) (h.left_gone _)
  rcases hpaired.cancelSingle free with hsame | ⟨hless, hgoes⟩
  · exact ⟨gone', hsame, hgone⟩
  · refine ⟨n :: gone', hless, fun k hk => ?_⟩
    rcases List.mem_cons.1 hk with rfl | hk
    · exact .inr (hstruck hgoes)
    · exact hgone k hk

end Panel

end CiteSync.Completion
