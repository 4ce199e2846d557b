import CiteSync.Remote.Call
import CiteSync.Remote.Retry

/-!
# What calls keep

A call meets a contract when it never leaves a set of states, whatever comes of it, and when its
value and its failure are of the expected kind.  Contracts are carried through sequences of calls
and through repeated attempts.
-/

namespace CiteSync.Remote

namespace Call

variable {σ α β : Type}

/-! ## Performing a call -/

@[simp]
theorem perform_get (s : σ) : (get : Call σ σ).perform s = (.ok s, s) := rfl

@[simp]
theorem perform_set (s s' : σ) : (set s' : Call σ PUnit).perform s = (.ok ⟨⟩, s') := rfl

theorem perform_ofResult (r : Except Fault α) (s : σ) :
    (ofResult r : Call σ α).perform s = (r.mapError .fault, s) := by
  cases r <;> rfl

theorem perform_bind (c : Call σ α) (f : α → Call σ β) (s : σ) :
    (c >>= f).perform s =
      match c.perform s with
      | (.ok a, s') => (f a).perform s'
      | (.error e, s') => (.error e, s') := by
  simp only [perform, ExceptT.run_bind, StateT.run_bind]
  rcases c.run.run s with ⟨_ | a, s'⟩ <;> rfl

theorem perform_caught (c : Call σ α) (s : σ) :
    c.caught.perform s =
      match c.perform s with
      | (.ok a, s') => (.ok (.ok a), s')
      | (.error (.fault cause), s') => (.ok (.error cause), s')
      | (.error (.cancelled note), s') => (.error (.cancelled note), s') := by
  simp only [perform, caught]
  show (((tryCatch (Except.ok <$> c) _ : Call σ (Except Fault α)).run).run s) = _
  simp only [ExceptT.run_tryCatch, ExceptT.run_map, StateT.run_bind, StateT.run_map]
  rcases c.run.run s with ⟨(cause | note) | a, s'⟩ <;> rfl

/-- A sequence goes on with the value of its first call. -/
theorem perform_bind_of_ok {c : Call σ α} {s : σ} {a : α} (h : (c.perform s).1 = .ok a)
    (f : α → Call σ β) : (c >>= f).perform s = (f a).perform (c.perform s).2 := by
  rw [perform_bind]
  rcases hc : c.perform s with ⟨r, s'⟩
  rw [hc] at h
  cases (show r = .ok a from h)
  rfl

theorem perform_bind_of_error {c : Call σ α} {s : σ} {e : Failure} (h : (c.perform s).1 = .error e)
    (f : α → Call σ β) : (c >>= f).perform s = (.error e, (c.perform s).2) := by
  rw [perform_bind]
  rcases hc : c.perform s with ⟨r, s'⟩
  rw [hc] at h
  cases (show r = .error e from h)
  rfl

theorem perform_caught_of_ok {c : Call σ α} {s : σ} {a : α} (h : (c.perform s).1 = .ok a) :
    c.caught.perform s = (.ok (.ok a), (c.perform s).2) := by
  rw [perform_caught]
  rcases hc : c.perform s with ⟨r, s'⟩
  rw [hc] at h
  cases (show r = .ok a from h)
  rfl

theorem perform_caught_of_fault {c : Call σ α} {s : σ} {cause : Fault}
    (h : (c.perform s).1 = .error (.fault cause)) :
    c.caught.perform s = (.ok (.error cause), (c.perform s).2) := by
  rw [perform_caught]
  rcases hc : c.perform s with ⟨r, s'⟩
  rw [hc] at h
  cases (show r = .error (.fault cause) from h)
  rfl

/-! ## Contracts -/

/-- Whether an outcome is a value in `Q` or a failure in `E`. -/
def Fits (E : Failure → Prop) (Q : α → Prop) : Except Failure α → Prop
  | .ok a => Q a
  | .error e => E e

/-- Started in `P` the call ends in `P`, with a value in `Q` or a failure in `E`. -/
def Meets (c : Call σ α) (P : σ → Prop) (E : Failure → Prop) (Q : α → Prop) : Prop :=
  ∀ s, P s → Fits E Q (c.perform s).1 ∧ P (c.perform s).2

variable {P : σ → Prop} {E E' : Failure → Prop} {Q Q' : α → Prop} {R : β → Prop}

theorem Fits.mono {r : Except Failure α} (h : Fits E Q r) (hE : ∀ e, E e → E' e)
    (hQ : ∀ a, Q a → Q' a) : Fits E' Q' r := by
  cases r with
  | ok a => exact hQ a h
  | error e => exact hE e h

/-- Without failures there is a value. -/
theorem Fits.exists_ok {r : Except Failure α} (h : Fits (fun _ => False) Q r) :
    ∃ a, r = .ok a ∧ Q a := by
  cases r with
  | ok a => exact ⟨a, rfl, h⟩
  | error e => exact h.elim

theorem Meets.mono {c : Call σ α} (h : c.Meets P E Q) (hE : ∀ e, E e → E' e)
    (hQ : ∀ a, Q a → Q' a) : c.Meets P E' Q' :=
  fun s hs => ⟨(h s hs).1.mono hE hQ, (h s hs).2⟩

theorem Meets.pure {a : α} (h : Q a) : (pure a : Call σ α).Meets P E Q :=
  fun _ hs => ⟨h, hs⟩

theorem Meets.throw {e : Failure} (h : E e) : (throw e : Call σ α).Meets P E Q :=
  fun _ hs => ⟨h, hs⟩

theorem Meets.bind {c : Call σ α} {f : α → Call σ β} (hc : c.Meets P E Q)
    (hf : ∀ a, Q a → (f a).Meets P E R) : (c >>= f).Meets P E R := by
  intro s hs
  rw [perform_bind]
  -- the second call starts where the first one ended, which is in `P` again
  obtain ⟨hr, hs'⟩ := hc s hs
  rcases h : c.perform s with ⟨e | a, s'⟩
  · rw [h] at hr hs'
    exact ⟨hr, hs'⟩
  · rw [h] at hr hs'
    exact hf a hr s' hs'

theorem Meets.ofResult {r : Except Fault α} (hQ : ∀ a, r = .ok a → Q a)
    (hE : ∀ cause, r = .error cause → E (.fault cause)) : (ofResult r : Call σ α).Meets P E Q := by
  cases r with
  | ok a => exact .pure (hQ a rfl)
  | error cause => exact .throw (hE cause rfl)

/-- A caught call fails only when it is cancelled; its faults are among its values. -/
theorem Meets.caught {c : Call σ α} (h : c.Meets P E Q) :
    c.caught.Meets P (fun e => E e ∧ ∃ note, e = .cancelled note)
      (fun r => (∀ a, r = .ok a → Q a) ∧ ∀ cause, r = .error cause → E (.fault cause)) := by
  intro s hs
  rw [perform_caught]
  obtain ⟨hr, hs'⟩ := h s hs
  rcases h : c.perform s with ⟨(note | cause) | a, s'⟩
  all_goals rw [h] at hr hs'
  · exact ⟨⟨hr, note, rfl⟩, hs'⟩
  · exact ⟨⟨by simp, fun cause' h => by cases h; exact hr⟩, hs'⟩
  · exact ⟨⟨fun a' h => by cases h; exact hr, by simp⟩, hs'⟩

end Call

/-! ## Repeated attempts -/

variable {σ α : Type} {P : σ → Prop} {E : Failure → Prop} {Q : α → Prop}

/-- Whether attempts of any task may fail in the two ways of their own: by having made no call, and
by a pause that is too long. -/
def Tolerates (attempts : Int) (E : Failure → Prop) : Prop :=
  (0 < attempts ∨ ∀ task, E (.fault (.noAttempts task attempts))) ∧
    ∀ cause, E (.fault cause) → E (.fault overlongPause)

/-- Where calls never fail, attempts do not either. -/
theorem Tolerates.of_none {attempts : Int} (h : 0 < attempts) :
    Tolerates attempts fun _ => False :=
  ⟨.inl h, fun _ hfalse => hfalse⟩

theorem Tolerates.of_any {attempts : Int} : Tolerates attempts fun _ => True :=
  ⟨.inr fun _ => trivial, fun _ _ => trivial⟩

/-- Attempts end as a single call does.  The fault of having made none does not arise: it would
take a first attempt that was not allowed. -/
theorem attemptsFrom_fits {call : σ → Except Failure α × σ}
    (h : ∀ s, P s → Call.Fits E Q (call s).1 ∧ P (call s).2)
    (hpause : ∀ cause, E (.fault cause) → E (.fault overlongPause)) (p : Policy)
    (left attempt : Nat) {s : σ} (hs : P s) :
    Call.Fits E Q (attemptsFrom p call (left + 1) attempt s).1.result ∧
      P (attemptsFrom p call (left + 1) attempt s).2 := by
  -- the state that a failed attempt leaves is in `P`, so the next attempt starts as this one did
  induction left generalizing attempt s with
  | zero =>
    obtain ⟨hr, hs'⟩ := h s hs
    unfold attemptsFrom
    split
    next hcall => simpa [hcall] using And.intro hr hs'
    next hcall => simpa [hcall] using And.intro hr hs'
  | succ left ih =>
    obtain ⟨hr, hs'⟩ := h s hs
    unfold attemptsFrom
    split
    next cause s' hcall =>
      rw [hcall] at hr hs'
      split
      · split
        · exact ih (attempt + 1) hs'
        · exact ⟨hpause cause hr, hs'⟩
      · exact ⟨hr, hs'⟩
    next r s' _ hcall =>
      rw [hcall] at hr hs'
      exact ⟨hr, hs'⟩

theorem Policy.run_fits {call : σ → Except Failure α × σ}
    (h : ∀ s, P s → Call.Fits E Q (call s).1 ∧ P (call s).2) (p : Policy)
    (hp : Tolerates p.attempts E) {s : σ} (hs : P s) :
    Call.Fits E Q (p.run call s).1.result ∧ P (p.run call s).2 := by
  unfold Policy.run
  rcases hn : p.attempts.toNat with _ | left
  · -- nothing is called, and the fault that says so has to be allowed
    have hnone : E (.fault (.noAttempts p.task p.attempts)) := hp.1.resolve_left (by omega) p.task
    exact ⟨hnone, hs⟩
  · exact attemptsFrom_fits h hp.2 p left 0 hs

end CiteSync.Remote
