import CiteSync.Proofs.Completion.Panel.Running
import CiteSync.Remote.Script

/-!
# Loads are not disturbed

Cancelling those who wait for a load changes nothing about the load, the session or what the others
get who wait for it: it all comes to be as if nobody had been cancelled.  Both courses are followed
side by side.  What is done by outsiders is done in both, what is cancelled is cancelled in one, and
of what happens by itself the other one catches up on whatever it has more of before they take the
next step together that matters.
-/

namespace CiteSync.Completion

open Remote

variable {σ : Type} {library : RemoteLibrary σ} {shelf : Nat → Bool} {gone : List Nat}

namespace Panel

variable {p p' : Panel σ}

/-! ## 1. What happens by itself -/

variable (library) in
/-- What does not matter happens until that is next which matters. -/
theorem catches_up (tidy : Tidy shelf gone p) {r : Reaction} {rest : List Reaction}
    (hready : p.ready.filter (p.due shelf gone) = r :: rest) :
    ∃ times, Tidy shelf gone (p.course library (List.replicate times .happen)) ∧
      Alike shelf gone p (p.course library (List.replicate times .happen)) ∧
      ∃ rest', (p.course library (List.replicate times .happen)).ready = r :: rest' := by
  obtain ⟨before, after, hsplit, hbefore, -, -⟩ := List.filter_eq_cons_iff.1 hready
  clear hready
  -- the induction is on what is ready before
  induction before generalizing p after with
  | nil => exact ⟨0, tidy, .refl p, after, hsplit⟩
  | cons other before ih =>
    have hdue : p.due shelf gone other = false := Bool.eq_false_iff.2 (hbefore other (.head _))
    rw [List.cons_append] at hsplit
    obtain ⟨tidy₁, halike, more, hmore⟩ := tidy.alike_of_not_due library hsplit hdue
    rw [List.append_assoc, List.cons_append] at hmore
    obtain ⟨times, tidy₂, halike₂, hnext⟩ := ih tidy₁ (after ++ more) hmore
      fun x hx => by rw [halike.due]; exact hbefore x (.tail _ hx)
    exact ⟨times + 1, tidy₂, halike.trans halike₂, hnext⟩

variable (library shelf gone) in
/-- The second panel comes to be as the first one by moves that cancel nothing, of which these are
made by outsiders. -/
def Reached (struck : List Nat) (acts : List Move) (p p' : Panel σ) : Prop :=
  ∃ moves, (∀ m ∈ moves, m.cancels = false) ∧ moves.filter Move.acts = acts ∧
    Left shelf gone struck p (p'.course library moves)

theorem Paired.reached (h : Paired shelf gone p p') :
    Reached library shelf gone [] [] p p' :=
  ⟨[], (fun _ h => nomatch h), rfl, h.left_gone []⟩

theorem Paired.happens (h : Paired shelf gone p p') :
    Reached library shelf gone [] [] (p.happen library) p' := by
  cases hready : p.ready with
  | nil =>
    rw [happen_of_nil hready]
    exact h.reached
  | cons r rest =>
    cases hdue : p.due shelf gone r with
    | false =>
      -- the second panel has nothing to do
      obtain ⟨tidy₁, halike, -⟩ := h.tidy.alike_of_not_due library hready hdue
      have hpaired : Paired shelf gone (p.happen library) p' :=
        ⟨tidy₁, h.tidy', halike.symm.trans h.alike⟩
      exact hpaired.reached
    | true =>
      -- the second panel catches up, and then both take the same step
      have hready' := h.alike.ready
      rw [hready, List.filter_cons_of_pos hdue, ← h.alike.due] at hready'
      obtain ⟨times, tidy₁, halike, rest', hnext⟩ := catches_up library h.tidy' hready'
      have hpaired : Paired shelf gone p (p'.course library (List.replicate times .happen)) :=
        ⟨h.tidy, tidy₁, h.alike.trans halike⟩
      refine ⟨List.replicate times .happen ++ [.happen], fun m hm => ?_, ?_, ?_⟩
      · rw [← List.replicate_succ'] at hm
        rw [List.eq_of_mem_replicate hm]
        rfl
      · rw [List.filter_append, List.filter_replicate_of_neg (by simp [Move.acts])]
        rfl
      · rw [course_snoc]
        exact (hpaired.happen hready hnext hdue).left_gone []

/-! ## 2. Courses -/

variable (library) in
theorem Paired.move (h : Paired shelf gone p p') (m : Move) (spares : p.spares m = true) :
    Reached library shelf gone (p.strikes m) ([m].filter Move.acts) (p.move library m) p' := by
  cases cancels : m.cancels with
  | true =>
    -- nobody is cancelled in the second panel
    refine ⟨[], (fun _ h => nomatch h), ?_, h.cancels cancels spares⟩
    cases m with
    | cancel | close => rfl
    | _ => cases cancels
  | false =>
    by_cases hhappen : m = .happen
    · subst hhappen
      exact h.happens
    · have hacts := Move.acts_of_not_cancels cancels hhappen
      refine ⟨[m], fun n hn => by rwa [List.mem_singleton.1 hn], rfl, ?_⟩
      exact (h.acts hacts).left_gone _

variable (library shelf gone) in
/-- The second panel is led through the moments of the first one, by moves that cancel nothing. -/
structure Followed (p p' : Panel σ) (moves moves' : List Move) : Prop where
  cancels : ∀ m ∈ moves', m.cancels = false
  acts : moves'.filter Move.acts = moves.filter Move.acts
  ends : Left shelf gone (p.struck library moves)
    (p.course library moves) (p'.course library moves')
  passes : ∀ first, first <+: moves → ∃ first', first' <+: moves' ∧
    first'.filter Move.acts = first.filter Move.acts ∧
    Left shelf gone (p.struck library first) (p.course library first) (p'.course library first')

theorem Paired.followed_nil (h : Paired shelf gone p p') :
    Followed library shelf gone p p' [] [] where
  cancels := fun _ h => nomatch h
  acts := rfl
  ends := h.left_gone []
  passes := fun first hfirst => by
    obtain rfl := List.prefix_nil.1 hfirst
    exact ⟨[], List.nil_prefix, rfl, h.left_gone []⟩

theorem course_append (first rest : List Move) :
    p.course library (first ++ rest) = (p.course library first).course library rest :=
  List.foldl_append

/-- Those who are gone after a move and then others. -/
theorem Left.cons {m : Move} {moves : List Move} {q : Panel σ} {gone₁ : List Nat}
    (h : Left shelf gone₁ ((p.move library m).struck library moves)
      (p.course library (m :: moves)) q)
    (hgone : ∀ n ∈ gone₁, n ∈ gone ∨ n ∈ p.strikes m) :
    Left shelf gone (p.struck library (m :: moves)) (p.course library (m :: moves)) q := by
  obtain ⟨gone₂, hpaired, hgone'⟩ := h
  refine ⟨gone₂, hpaired, fun n hn => ?_⟩
  rw [struck, List.mem_append]
  exact (hgone' n hn).elim (fun hn => (hgone n hn).imp_right .inl) fun hn => .inr (.inr hn)

variable (library) in
theorem Paired.course (h : Paired shelf gone p p') (moves : List Move)
    (spared : p.spared library moves = true) :
    ∃ moves', Followed library shelf gone p p' moves moves' := by
  induction moves generalizing p p' gone with
  | nil => exact ⟨[], h.followed_nil⟩
  | cons m moves ih =>
    -- what the second panel does for one move, and then what it does for the others
    obtain ⟨hspares, hspared⟩ := (Bool.and_eq_true _ _).mp spared
    obtain ⟨step, hcancels, hacts, gone₁, hpaired, hgone⟩ := h.move library m hspares
    obtain ⟨rest, hrest⟩ := ih hpaired hspared
    have hfilter : ∀ {first first' : List Move},
        first'.filter Move.acts = first.filter Move.acts →
          (step ++ first').filter Move.acts = (m :: first).filter Move.acts := by
      intro first first' hsame
      rw [List.filter_append, hacts, hsame, ← List.filter_append, List.singleton_append]
    refine ⟨step ++ rest,
      { cancels := fun n hn => (List.mem_append.1 hn).elim (hcancels n) (hrest.cancels n)
        acts := hfilter hrest.acts
        ends := by
          rw [course_append]
          exact hrest.ends.cons hgone
        passes := fun first hfirst => ?_ }⟩
    rcases List.prefix_cons_iff.1 hfirst with rfl | ⟨before, rfl, hbefore⟩
    · exact ⟨[], List.nil_prefix, rfl, h.left_gone []⟩
    · obtain ⟨before', hbefore', hsame, hleft⟩ := hrest.passes before hbefore
      refine ⟨step ++ before', (List.prefix_append_right_inj step).2 hbefore', hfilter hsame, ?_⟩
      rw [course_append]
      exact hleft.cons hgone

/-! ## 3. Nobody is disturbed -/

/-- Two panels agree on the bibliographies, on all loads and on those who wait for them, but for
some who waited. -/
structure Agree (but : List Nat) (p p' : Panel σ) : Prop where
  bibliographies : ∀ i, p'.bibliography? i = p.bibliography? i
  loads : ∀ (n : Nat) (a : Activity) i l, p.activities[n]? = some a → a.work = .load i l →
    (p.bibliography? i).isSome →
      ∃ a', p'.activities[n]? = some a' ∧ a'.work = .load i l ∧ a'.stage = a.stage
  waiters : ∀ (n : Nat) (a : Activity) i document, n ∉ but → p.activities[n]? = some a →
    a.work.asks? = some (i, document) → (p.bibliography? i).isSome →
      ∃ a', p'.activities[n]? = some a' ∧ a'.work.asks? = some (i, document) ∧ a'.stage = a.stage

theorem Left.agree {struck : List Nat} (h : Left shelf [] struck p p') : Agree struck p p' := by
  obtain ⟨gone, hpaired, hgone⟩ := h
  have hshelf : ∀ {i : Nat}, (p.bibliography? i).isSome → shelf i = true := fun h =>
    (hpaired.tidy.shelves _).symm.trans h
  constructor
  case bibliographies => exact hpaired.alike.shelves
  case loads =>
    intro n a i l here hwork hsome
    obtain ⟨a', here', halike⟩ := hpaired.alike.activities n a here
    have hrole : a.work.role shelf = .load i l := by rw [hwork]; exact if_pos (hshelf hsome)
    refine ⟨a', here', (work_of_load (halike.role.trans hrole)).1, halike.stage ?_⟩
    rw [hrole]
    rfl
  case waiters =>
    intro n a i document hn here hasks hsome
    obtain ⟨a', here', halike⟩ := hpaired.alike.activities n a here
    have hrole := role_of_asks hasks (hshelf hsome)
    refine ⟨a', here', (work_of_asker (halike.role.trans hrole)).1, halike.stage ?_⟩
    have hstays : n ∉ gone := fun hgoes => (hgone n hgoes).elim (fun h => nomatch h) hn
    rw [hrole]
    exact Role.seen_of_stays rfl hstays

variable (library) in
/-- The same is done in both courses, but nobody is cancelled in the second one.  It comes by all
the moments of the first one, and at each of them it agrees with it but for those who were
cancelled. -/
structure Undisturbed (p : Panel σ) (moves moves' : List Move) : Prop where
  cancels : ∀ m ∈ moves', m.cancels = false
  acts : moves'.filter Move.acts = moves.filter Move.acts
  ends : Agree (p.struck library moves) (p.course library moves) (p.course library moves')
  passes : ∀ first, first <+: moves → ∃ first', first' <+: moves' ∧
    first'.filter Move.acts = first.filter Move.acts ∧
    Agree (p.struck library first) (p.course library first) (p.course library first')

variable (shelf) in
theorem tidy_ofProviders (providers : List (Provider σ)) (limit : Option Int)
    (h : ∀ i, ((ofProviders providers limit).bibliography? i).isSome = shelf i) :
    Tidy shelf [] (ofProviders providers limit) where
  shelves := h
  reactions := fun _ _ here => nomatch here
  awaits := fun _ _ _ _ here => nomatch here
  gates := fun _ h => nomatch h
  passes := fun _ _ h => nomatch h
  left := fun _ h => nomatch h

/-- Whoever is cancelled once the load has started that it waits for, alone, with others of its
query or as the panel is closed, disturbs nobody: the loads, the sessions and all others who wait
are at every moment as in a course in which the same is done and nobody is cancelled.  When nothing
is left to happen and no load waits at a gate, every load has ended with a result and everybody has
come back. -/
theorem cancelled_waiters_disturb_nobody (library : RemoteLibrary σ)
    (providers : List (Provider σ)) (limit : Option Int)
    (hnew : ∀ b, .bibliography b ∈ providers → b.loads = []) (moves : List Move)
    (hspared : (ofProviders providers limit).spared library moves = true) :
    (∃ moves', Undisturbed library (ofProviders providers limit) moves moves') ∧
      (((ofProviders providers limit).course library moves).ready = [] →
        (∀ gate ∈ ((ofProviders providers limit).course library moves).gates,
          ((ofProviders providers limit).course library moves).bibliography? gate.1 = none) →
        Concluded ((ofProviders providers limit).course library moves)) := by
  have htidy := tidy_ofProviders (fun i => ((ofProviders providers limit).bibliography? i).isSome)
    providers limit fun _ => rfl
  refine ⟨?_, fun hready hgates => ?_⟩
  · have hpaired : Paired _ [] (ofProviders providers limit) (ofProviders providers limit) :=
      ⟨htidy, htidy, .refl _⟩
    obtain ⟨moves', hfollowed⟩ := hpaired.course library moves hspared
    exact ⟨moves', hfollowed.cancels, hfollowed.acts, hfollowed.ends.agree,
      fun first hfirst => by
        obtain ⟨first', hfirst', hsame, hleft⟩ := hfollowed.passes first hfirst
        exact ⟨first', hfirst', hsame, hleft.agree⟩⟩
  · -- there are no activities yet that could have come to a halt
    have hrunning : Running _ (ofProviders providers limit) :=
      { tidy := htidy
        underway := fun _ _ here => nomatch here
        attended := fun i b hb load hlt => by
          rw [hnew b (List.mem_of_getElem? (bibliography?_eq_some.1 hb))] at hlt
          cases hlt }
    exact (hrunning.course library moves hspared).concluded hready hgates

/-- The first of two who wait for a load is cancelled before the load ends. -/
def deserted : List Move :=
  [.bringUpToDate 0 { path := some "a.qmd" }, .happen, .happen,
    .bringUpToDate 0 { path := some "a.qmd" }, .happen, .cancel 0, .happen, .release 0 .all,
    .happen, .happen, .happen, .happen]

/-- The load ends with a result, and the second one gets what it has waited for. -/
theorem cancelled_waiters_disturb_nobody_deserted :
    (∀ b, Provider.bibliography b ∈ gatedShelf.providers → b.loads = []) ∧
      gatedShelf.spared Script.library deserted = true ∧
      gatedShelf.struck Script.library deserted = [0] ∧
      (gatedShelf.course Script.library deserted).activityEnding? 0 = some .cancelled ∧
      (gatedShelf.course Script.library deserted).activityEnding? 2 = some (.ok (some [])) ∧
      (∃ moves, Undisturbed Script.library gatedShelf deserted moves) ∧
      Concluded (gatedShelf.course Script.library deserted) := by
  have hnew : ∀ b, Provider.bibliography b ∈ gatedShelf.providers → b.loads = [] := by
    intro b hb
    obtain rfl := Provider.bibliography.inj (List.mem_singleton.1 hb)
    rfl
  have hspared : gatedShelf.spared Script.library deserted = true := by rfl
  obtain ⟨hundisturbed, hconcluded⟩ :=
    cancelled_waiters_disturb_nobody Script.library gatedShelf.providers none hnew deserted hspared
  exact ⟨hnew, hspared, rfl, rfl, rfl, hundisturbed, hconcluded rfl fun _ h => nomatch h⟩

end Panel

end CiteSync.Completion
