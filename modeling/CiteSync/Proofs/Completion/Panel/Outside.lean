import CiteSync.Proofs.Completion.Panel.Lockstep
import CiteSync.Proofs.Completion.Panel.Progress

/-!
# What outsiders do with two panels

Queries are asked, gates are opened and sessions are closed by outsiders.  Whatever they do with two
panels that are alike leaves them alike, as long as nothing is cancelled.
-/

namespace CiteSync.Completion

open Remote

variable {σ : Type} {library : RemoteLibrary σ} {shelf : Nat → Bool} {gone : List Nat}

/-- Whether a move is made by outsiders and cancels nothing. -/
def Move.acts : Move → Bool
  | happen => false
  | m => !m.cancels

theorem Move.acts_of_not_cancels {m : Move} (cancels : m.cancels = false) (h : m ≠ .happen) :
    m.acts = true := by
  cases m with
  | happen => exact absurd rfl h
  | cancel | close => cases cancels
  | _ => rfl

/-- The gates that are opened are gates of the provider. -/
theorem Panel.Which.of_subset (which : Which) (gates : List (Nat × Nat)) :
    which.of gates ⊆ gates := by
  cases which with
  | all => exact List.Subset.refl _
  | first => exact List.take_subset 1 gates
  | last => exact List.drop_subset _ gates
  | only place => exact List.Subset.trans (List.take_subset 1 _) (List.drop_subset place gates)

namespace Panel

variable {p p' : Panel σ} {provider : Nat}

theorem Paired.ask (h : Paired shelf gone p p') (token : String) (document : Document) :
    Paired shelf gone (p.ask token document) (p'.ask token document) := by
  have hadded : Paired shelf gone (p.addActivity (.query p.queries.length token document)).2
      (p'.addActivity (.query p'.queries.length token document)).2 := h.addActivity rfl
  have hleft : Hides shelf gone _ (p.ask token document) := hadded.tidy.hides_same rfl rfl rfl rfl
  have hright : Hides shelf gone _ (p'.ask token document) :=
    hadded.tidy'.hides_same rfl rfl rfl rfl
  exact (hadded.left hleft).right hright

theorem Tidy.hides_release (tidy : Tidy shelf gone p) (elsewhere : shelf provider = false)
    (which : Which) : Hides shelf gone p (p.release provider which) := by
  have hopened : ∀ gate ∈ which.of (p.gates.filter (·.1 == provider)),
      gate ∈ p.gates ∧ shelf gate.1 = false := by
    intro gate hgate
    obtain ⟨hmem, hplace⟩ := List.mem_filter.1 (which.of_subset _ hgate)
    exact ⟨hmem, by rw [beq_iff_eq.1 hplace, elsewhere]⟩
  unfold Panel.release
  simp only
  generalize which.of (p.gates.filter (·.1 == provider)) = opened at hopened
  have hgates : Hides shelf gone p { p with gates := p.gates.filter (!opened.contains ·) } := by
    refine tidy.hides (fun _ => rfl) rfl rfl (fun n a here => ⟨a, here, tidy.rests here⟩) ?_
      (fun gate hgate => tidy.gates gate (List.mem_filter.1 hgate).1)
      ⟨[], (List.append_nil _).symm, fun _ h => nomatch h⟩
    show (p.gates.filter _).filter _ = _
    rw [List.filter_filter]
    refine List.filter_congr fun gate _ => ?_
    cases hshelf : shelf gate.1 with
    | false => rfl
    | true =>
      have hclosed : opened.contains gate = false := by
        refine Bool.eq_false_iff.2 fun hmem => ?_
        rw [(hopened gate (List.contains_iff_mem.1 hmem)).2] at hshelf
        cases hshelf
      rw [hclosed]
      rfl
  -- those who wait at these gates do not matter
  have hplain : ∀ gate ∈ opened, p.due shelf gone (.goOn gate.2) = false := by
    intro gate hgate
    obtain ⟨hmem, helse⟩ := hopened gate hgate
    obtain ⟨a, here, hplain⟩ := tidy.gates gate hmem helse
    exact not_due_of_hidden here (Role.seen_of_isPlain hplain _ _)
  have hfold : ∀ {q : Panel σ} (gates : List (Nat × Nat)), Hides shelf gone p q →
      (∀ gate ∈ gates, p.due shelf gone (.goOn gate.2) = false) →
      Hides shelf gone p (gates.foldl (fun p gate => p.tell Pause.isGate gate.2 .done) q) := by
    intro q gates hq hgates
    induction gates generalizing q with
    | nil => exact hq
    | cons gate gates ih =>
      have hdue := hgates gate (.head _)
      rw [← hq.alike.due] at hdue
      exact ih (hq.trans (hq.tidy.hides_tell hdue _ _))
        fun gate hgate => hgates gate (.tail _ hgate)
  exact hfold opened hgates hplain

theorem Paired.release (h : Paired shelf gone p p') (provider : Nat) (which : Which) :
    Paired shelf gone (p.release provider which) (p'.release provider which) := by
  cases hshelf : shelf provider with
  | false =>
    exact (h.left (h.tidy.hides_release hshelf which)).right
      (h.tidy'.hides_release hshelf which)
  | true =>
    have hsame : p'.gates.filter (·.1 == provider) = p.gates.filter (·.1 == provider) := by
      refine filter_of_imp (fun gate hgate => ?_) h.alike.gates
      rw [beq_iff_eq.1 hgate, hshelf]
    unfold Panel.release
    simp only [hsame]
    generalize which.of (p.gates.filter (·.1 == provider)) = opened
    have htidy : ∀ {q : Panel σ}, Tidy shelf gone q →
        Tidy shelf gone { q with gates := q.gates.filter (!opened.contains ·) } := fun tidy =>
      { tidy with gates := fun gate hgate => tidy.gates gate (List.mem_filter.1 hgate).1 }
    have hgates : Paired shelf gone { p with gates := p.gates.filter (!opened.contains ·) }
        { p' with gates := p'.gates.filter (!opened.contains ·) } := by
      refine ⟨htidy h.tidy, htidy h.tidy', { h.alike with gates := ?_ }⟩
      have hswap : ∀ gates : List (Nat × Nat),
          (gates.filter (!opened.contains ·)).filter (shelf ·.1) =
            (gates.filter (shelf ·.1)).filter (!opened.contains ·) := by
        intro gates
        rw [List.filter_filter, List.filter_filter]
        exact List.filter_congr fun _ _ => Bool.and_comm ..
      rw [hswap, hswap, h.alike.gates]
    have hfold : ∀ {q q' : Panel σ} (gates : List (Nat × Nat)), Paired shelf gone q q' →
        Paired shelf gone (gates.foldl (fun p gate => p.tell Pause.isGate gate.2 .done) q)
          (gates.foldl (fun p gate => p.tell Pause.isGate gate.2 .done) q') := by
      intro q q' gates hq
      induction gates generalizing q q' with
      | nil => exact hq
      | cons gate gates ih => exact ih (hq.tell _ _ _)
    exact hfold opened hgates

theorem Paired.closeSession (h : Paired shelf gone p p') (provider : Nat) :
    Paired shelf gone (p.closeSession provider) (p'.closeSession provider) := h.amend provider _

theorem Tidy.hides_setWarning (tidy : Tidy shelf gone p) (hnone : p.bibliography? provider = none)
    (warning : Option String) : Hides shelf gone p (p.setWarning provider warning) := by
  unfold Panel.setWarning
  split
  next b hb =>
    rw [bibliography?_eq_some.2 hb] at hnone
    cases hnone
  next q hq => exact tidy.hides_looked (setProvider_looked hq (.prepared ..)) rfl rfl rfl
  next => exact .refl tidy

theorem Paired.setWarning (h : Paired shelf gone p p') (provider : Nat)
    (warning : Option String) :
    Paired shelf gone (p.setWarning provider warning) (p'.setWarning provider warning) := by
  cases hb : p.bibliography? provider with
  | none =>
    exact (h.left (h.tidy.hides_setWarning hb warning)).right
      (h.tidy'.hides_setWarning ((h.alike.shelves provider).trans hb) warning)
  | some b =>
    have heq : ∀ {q : Panel σ}, q.bibliography? provider = some b →
        q.setWarning provider warning = q.setProvider provider
          (.bibliography { b with session := { b.session with warning } }) := by
      intro q hq
      unfold Panel.setWarning
      rw [bibliography?_eq_some.1 hq]
    rw [heq hb, heq ((h.alike.shelves provider).trans hb)]
    exact h.setShelf hb _

/-- What is done by outsiders is done with both. -/
theorem Paired.acts (h : Paired shelf gone p p') {m : Move} (acts : m.acts = true) :
    Paired shelf gone (p.move library m) (p'.move library m) := by
  cases m with
  | happen | cancel | close => cases acts
  | ask token document => exact h.ask token document
  | bringUpToDate i document => exact h.addActivity rfl
  | wait query => exact h.addActivity rfl
  | release i which => exact h.release i which
  | closeSession i => exact h.closeSession i
  | setWarning i warning => exact h.setWarning i warning
  | narrow entries token =>
    exact (h.left (h.tidy.hides_narrowList entries token)).right
      (h.tidy'.hides_narrowList entries token)
  | search i token limit =>
    exact (h.left (h.tidy.hides_searchOne token limit)).right (h.tidy'.hides_searchOne token limit)
  | exact i token =>
    exact (h.left (h.tidy.hides_exactOne token)).right (h.tidy'.hides_exactOne token)

end Panel

end CiteSync.Completion
