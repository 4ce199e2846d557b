import CiteSync.Remote.Retry
import Mathlib.Data.Nat.Find

/-!
# The law of repeated attempts

A series of attempts ends with the first call whose outcome settles the matter, or with the last
call that is allowed, whichever comes first.  Between two calls there is one pause, twice as long as
the pause before it.  This law holds of every series with at most 1024 pauses; a longer one breaks
off with a fault of its own.
-/

namespace CiteSync.Remote

variable {σ α : Type} (p : Policy) (call : σ → Except Failure α × σ) (s : σ)

/-! ## 1. Calls one after the other -/

/-- The state in which the call of that number is made, counted from zero, if every call is made
where the one before it ended. -/
def stateAt : Nat → σ
  | 0 => s
  | n + 1 => (call (stateAt n)).2

/-- How the call of that number ends. -/
def outcome (n : Nat) : Except Failure α := (call (stateAt call s n)).1

/-- Whether an outcome settles the matter.  Only a transient fault leaves something to try again. -/
def settles : Except Failure α → Bool
  | .error (.fault cause) => !cause.isTransient
  | _ => true

theorem exists_transient {r : Except Failure α} (h : settles r = false) :
    ∃ cause, r = .error (.fault cause) ∧ cause.isTransient = true := by
  match r with
  | .error (.fault cause) =>
    refine ⟨cause, rfl, ?_⟩
    simpa [settles] using h

/-- The record of an attempt that ended so and is followed by another. -/
def Policy.recordOf? (attempt : Nat) : Except Failure α → Option Log.Record
  | .error (.fault cause) => some (p.record attempt cause)
  | _ => none

/-- The records of `k` attempts from the one of number `a` on. -/
def recordsFrom (a k : Nat) : List Log.Record :=
  (List.range' a k).filterMap fun i => p.recordOf? i (outcome call s i)

theorem recordsFrom_succ {a : Nat} (k : Nat) {cause : Fault}
    (h : outcome call s a = .error (.fault cause)) :
    recordsFrom p call s a (k + 1) = p.record a cause :: recordsFrom p call s (a + 1) k := by
  unfold recordsFrom
  rw [List.range'_succ, List.filterMap_cons, h]
  rfl

/-- A series of `n` calls that ends in that result: what it did, and the state it left. -/
def series (n : Nat) (result : Except Failure α) : Attempts α × σ :=
  (⟨result, n, (List.range' 0 (n - 1)).map p.pauseAfter, recordsFrom p call s 0 (n - 1)⟩,
    stateAt call s n)

/-- A series with calls in front of it, and what these did. -/
def precede (calls : Nat) (pauses : List Float) (records : List Log.Record)
    (rest : Attempts α × σ) : Attempts α × σ :=
  (⟨rest.1.result, rest.1.calls + calls, pauses ++ rest.1.pauses, records ++ rest.1.records⟩,
    rest.2)

theorem precede_precede (n m : Nat) (before between : List Float)
    (noted noted' : List Log.Record) (rest : Attempts α × σ) :
    precede n before noted (precede m between noted' rest) =
      precede (m + n) (before ++ between) (noted ++ noted') rest := by
  simp only [precede, List.append_assoc, Nat.add_assoc]

/-! ## 2. One attempt -/

/-- An outcome that settles the matter is the last one, and so is that of the last attempt. -/
theorem attemptsFrom_last {left attempt : Nat} {t : σ}
    (h : settles (call t).1 = true ∨ left = 0) :
    attemptsFrom p call (left + 1) attempt t = (⟨(call t).1, 1, [], []⟩, (call t).2) := by
  unfold attemptsFrom
  split
  next cause t' hcall =>
    have hstop : ¬ (cause.isTransient && left != 0) = true := by
      rw [hcall] at h
      rcases h with hsettled | hlast
      · simp_all [settles]
      · simp [hlast]
    rw [if_neg hstop, hcall]
  next hcall => rw [hcall]

/-- A transient fault in front of a pause that can be worked out is followed by another attempt. -/
theorem attemptsFrom_next {left attempt : Nat} {t : σ} {cause : Fault} (hleft : left ≠ 0)
    (hattempt : attempt < mostPauses) (hcall : (call t).1 = .error (.fault cause))
    (htransient : cause.isTransient = true) :
    attemptsFrom p call (left + 1) attempt t =
      precede 1 [p.pauseAfter attempt] [p.record attempt cause]
        (attemptsFrom p call left (attempt + 1) (call t).2) := by
  have hsplit : call t = (.error (.fault cause), (call t).2) := Prod.ext hcall rfl
  have hgo : (cause.isTransient && left != 0) = true := by simp [htransient, hleft]
  rw [attemptsFrom, hsplit]
  simp only [hgo, if_true, if_pos hattempt]
  rfl

/-- A transient fault in front of a pause that is too long is followed by nothing. -/
theorem attemptsFrom_overlong {left attempt : Nat} {t : σ} {cause : Fault} (hleft : left ≠ 0)
    (hattempt : mostPauses ≤ attempt) (hcall : (call t).1 = .error (.fault cause))
    (htransient : cause.isTransient = true) :
    attemptsFrom p call (left + 1) attempt t =
      (⟨.error (.fault overlongPause), 1, [], []⟩, (call t).2) := by
  have hsplit : call t = (.error (.fault cause), (call t).2) := Prod.ext hcall rfl
  have hgo : (cause.isTransient && left != 0) = true := by simp [htransient, hleft]
  rw [attemptsFrom, hsplit]
  simp only [hgo, if_true, if_neg (Nat.not_lt.2 hattempt)]

/-! ## 3. A series of attempts -/

/-- After `k` transient faults from the attempt of number `a` on come the attempts from `a + k` on,
with a pause and a record for each fault. -/
theorem attemptsFrom_add (left : Nat) {k a : Nat} (hlimit : a + k ≤ mostPauses)
    (hfaults : ∀ i, a ≤ i → i < a + k → settles (outcome call s i) = false) :
    attemptsFrom p call (left + k + 1) a (stateAt call s a) =
      precede k ((List.range' a k).map p.pauseAfter) (recordsFrom p call s a k)
        (attemptsFrom p call (left + 1) (a + k) (stateAt call s (a + k))) := by
  induction k generalizing a with
  | zero => rfl
  | succ k ih =>
    -- the fault of the attempt `a` comes first, and the other `k` follow behind it
    obtain ⟨cause, hcause, htransient⟩ :=
      exists_transient (hfaults a (Nat.le_refl a) (by omega))
    have hfirst : attemptsFrom p call (left + (k + 1) + 1) a (stateAt call s a) =
        precede 1 [p.pauseAfter a] [p.record a cause]
          (attemptsFrom p call (left + k + 1) (a + 1) (stateAt call s (a + 1))) :=
      attemptsFrom_next p call (by omega) (by omega) hcause htransient
    have hrest := ih (a := a + 1) (by omega) fun i hle hlt => hfaults i (by omega) (by omega)
    rw [hfirst, hrest, precede_precede, show a + 1 + k = a + (k + 1) by omega,
      recordsFrom_succ p call s k hcause]
    rfl

/-- A series in which every call but the last fails with a transient fault, and the last one settles
the matter or is the last that is allowed. -/
theorem run_eq_series {n : Nat} (hn : 0 < n) (hallowed : n ≤ p.attempts.toNat)
    (hfaults : ∀ i, i + 1 < n → settles (outcome call s i) = false)
    (hlast : settles (outcome call s (n - 1)) = true ∨ n = p.attempts.toNat)
    (hlimit : n ≤ mostPauses + 1) :
    p.run call s = series p call s n (outcome call s (n - 1)) := by
  have hsplit : p.attempts.toNat = p.attempts.toNat - n + (n - 1) + 1 := by omega
  have hbefore := attemptsFrom_add p call s (p.attempts.toNat - n) (k := n - 1) (a := 0)
    (by omega) fun i _ hlt => hfaults i (by omega)
  have hend : attemptsFrom p call (p.attempts.toNat - n + 1) (n - 1) (stateAt call s (n - 1)) =
      (⟨outcome call s (n - 1), 1, [], []⟩, stateAt call s (n - 1 + 1)) := by
    apply attemptsFrom_last
    exact hlast.imp id fun hall => by omega
  unfold Policy.run
  rw [hsplit]
  rw [Nat.zero_add, hend] at hbefore
  refine hbefore.trans ?_
  unfold precede series
  simp only [List.append_nil, Nat.sub_add_cancel hn, Nat.add_comm 1 (n - 1)]

/-- A series whose calls fail with transient faults up to the first pause that is too long. -/
theorem run_eq_overlong (hallowed : mostPauses + 1 < p.attempts.toNat)
    (hfaults : ∀ i, i ≤ mostPauses → settles (outcome call s i) = false) :
    p.run call s = series p call s (mostPauses + 1) (.error (.fault overlongPause)) := by
  have hsplit : p.attempts.toNat =
      p.attempts.toNat - (mostPauses + 1) + mostPauses + 1 := by omega
  have hbefore := attemptsFrom_add p call s (p.attempts.toNat - (mostPauses + 1))
    (k := mostPauses) (a := 0) (by omega) fun i _ hlt => hfaults i (by omega)
  obtain ⟨cause, hcause, htransient⟩ := exists_transient (hfaults mostPauses (Nat.le_refl _))
  have hend := attemptsFrom_overlong p call
    (show p.attempts.toNat - (mostPauses + 1) ≠ 0 by omega) (Nat.le_refl mostPauses) hcause
    htransient
  unfold Policy.run
  rw [hsplit]
  rw [Nat.zero_add, hend] at hbefore
  refine hbefore.trans ?_
  unfold precede series
  simp only [List.append_nil, Nat.add_sub_cancel, Nat.add_comm 1 mostPauses]
  rfl

/-! ## 4. The law -/

/-- The place, counted from one, of the first call whose outcome settles the matter; none where
every call fails with a transient fault. -/
def IsFirstSettled : Option Nat → Prop
  | some m => 0 < m ∧ settles (outcome call s (m - 1)) = true ∧
      ∀ i, i + 1 < m → settles (outcome call s i) = false
  | none => ∀ i, settles (outcome call s i) = false

/-- There is such a place, or no call settles the matter. -/
theorem exists_isFirstSettled : ∃ first, IsFirstSettled call s first := by
  by_cases h : ∃ i, settles (outcome call s i) = true
  · refine ⟨some (Nat.find h + 1), by omega, Nat.find_spec h, fun i hlt => ?_⟩
    exact Bool.eq_false_iff.2 (Nat.find_min h (by omega))
  · exact ⟨none, fun i => Bool.eq_false_iff.2 fun hi => h ⟨i, hi⟩⟩

/-- How many calls are due where so many are allowed. -/
def callsDue (allowed : Nat) : Option Nat → Nat
  | some m => min m allowed
  | none => allowed

variable {call s}

theorem IsFirstSettled.due_pos {first : Option Nat} (h : IsFirstSettled call s first)
    {allowed : Nat} (hallowed : 0 < allowed) : 0 < callsDue allowed first := by
  cases first with
  | none => exact hallowed
  | some m => exact Nat.lt_min.2 ⟨h.1, hallowed⟩

theorem callsDue_le (allowed : Nat) (first : Option Nat) : callsDue allowed first ≤ allowed := by
  cases first with
  | none => exact Nat.le_refl allowed
  | some m => exact Nat.min_le_right m allowed

/-- All calls that are due, but the last, fail with transient faults. -/
theorem IsFirstSettled.faults {first : Option Nat} (h : IsFirstSettled call s first)
    {allowed i : Nat} (hi : i + 1 < callsDue allowed first) :
    settles (outcome call s i) = false := by
  cases first with
  | none => exact h i
  | some m => exact h.2.2 i (Nat.lt_of_lt_of_le hi (Nat.min_le_left m allowed))

/-- The last call that is due settles the matter, or it is the last that is allowed. -/
theorem IsFirstSettled.last {first : Option Nat} (h : IsFirstSettled call s first) (allowed : Nat) :
    settles (outcome call s (callsDue allowed first - 1)) = true ∨
      callsDue allowed first = allowed := by
  cases first with
  | none => exact .inr rfl
  | some m =>
    rcases Nat.le_total m allowed with hle | hle
    · exact .inl (by rw [callsDue, Nat.min_eq_left hle]; exact h.2.1)
    · exact .inr (Nat.min_eq_right hle)

/-- Where calls are allowed, those that are due are made, with a pause between each two of them and
with the last outcome for the result, exactly if 1024 pauses are enough.  A longer series breaks off
after 1025 calls. -/
theorem retry_law_iff (p : Policy) (call : σ → Except Failure α × σ) (s : σ) :
    (∃ first, IsFirstSettled call s first) ∧
      ∀ first, IsFirstSettled call s first →
        (p.attempts ≤ 0 →
          p.run call s = (⟨.error (.fault (.noAttempts p.task p.attempts)), 0, [], []⟩, s)) ∧
        (0 < p.attempts →
          (p.run call s = series p call s (callsDue p.attempts.toNat first)
              (outcome call s (callsDue p.attempts.toNat first - 1)) ↔
            callsDue p.attempts.toNat first ≤ mostPauses + 1) ∧
          (mostPauses + 1 < callsDue p.attempts.toNat first →
            p.run call s = series p call s (mostPauses + 1) (.error (.fault overlongPause)))) := by
  refine ⟨exists_isFirstSettled call s, fun first hfirst => ⟨fun hnone => ?_, fun hsome => ?_⟩⟩
  · unfold Policy.run
    rw [show p.attempts.toNat = 0 by omega]
    rfl
  · have hpos : 0 < callsDue p.attempts.toNat first := hfirst.due_pos (by omega)
    have hle : callsDue p.attempts.toNat first ≤ p.attempts.toNat := callsDue_le _ first
    have hlong : mostPauses + 1 < callsDue p.attempts.toNat first →
        p.run call s = series p call s (mostPauses + 1) (.error (.fault overlongPause)) := by
      intro hmany
      apply run_eq_overlong p call s (by omega)
      intro i hi
      have hbefore : i + 1 < callsDue p.attempts.toNat first := by omega
      exact hfirst.faults hbefore
    refine ⟨⟨fun hlaw => ?_, fun hfew => ?_⟩, hlong⟩
    · -- a longer series makes 1025 calls, which are fewer than are due
      by_contra hmany
      have hcalls := congrArg (·.1.calls) (hlaw.symm.trans (hlong (by omega)))
      change callsDue p.attempts.toNat first = mostPauses + 1 at hcalls
      omega
    · exact run_eq_series p call s hpos hle (fun i hi => hfirst.faults hi) (hfirst.last _) hfew

/-! ## 5. A short series and one that is too long -/

/-- A server that answers the third call. -/
def thirdTime : Nat → Except Failure String × Nat
  | 0 => (.error (.fault (.foreign "OSError" "Connection reset by peer")), 1)
  | 1 => (.error (.fault (.foreign "TimeoutError" "timed out")), 2)
  | n => (.ok "here", n + 1)

def fiveTimes : Policy := { attempts := 5, pause := 0.5 }

theorem retry_law_iff_third_time :
    IsFirstSettled thirdTime 0 (some 3) ∧ 0 < fiveTimes.attempts ∧
      callsDue fiveTimes.attempts.toNat (some 3) = 3 ∧
      fiveTimes.run thirdTime 0 =
        (⟨.ok "here", 3, [fiveTimes.pauseAfter 0, fiveTimes.pauseAfter 1],
          [fiveTimes.record 0 (.foreign "OSError" "Connection reset by peer"),
            fiveTimes.record 1 (.foreign "TimeoutError" "timed out")]⟩, 3) := by
  have hfirst : IsFirstSettled thirdTime 0 (some 3) := by
    refine ⟨by decide, rfl, fun i hi => ?_⟩
    have hcases : i = 0 ∨ i = 1 := by omega
    rcases hcases with rfl | rfl
    · decide
    · decide
  have hlaw := (retry_law_iff fiveTimes thirdTime 0).2 (some 3) hfirst
  exact ⟨hfirst, by decide, rfl, (hlaw.2 (by decide)).1.2 (by decide)⟩

/-- A server that is never there. -/
def neverThere : Unit → Except Failure Unit × Unit :=
  fun _ => (.error (.fault (.foreign "TimeoutError" "timed out")), ())

/-- A reader who asks 1026 times without a pause. -/
def tireless : Policy := { attempts := 1026, pause := 0 }

theorem neverThere_settles (i : Nat) : settles (outcome neverThere () i) = false := by
  show (!(Fault.foreign "TimeoutError" "timed out").isTransient) = false
  decide

/-- Where 1026 calls are allowed and each fails with a transient fault, one call too few is made and
the fault is not that of a call. -/
theorem long_series_breaks_off :
    IsFirstSettled neverThere () none ∧ callsDue tireless.attempts.toNat none = 1026 ∧
      (tireless.run neverThere ()).1.calls = 1025 ∧
      (tireless.run neverThere ()).1.result = .error (.fault overlongPause) ∧
      tireless.run neverThere () ≠
        series tireless neverThere () 1026 (outcome neverThere () 1025) := by
  have hrun : tireless.run neverThere () =
      series tireless neverThere () (mostPauses + 1) (.error (.fault overlongPause)) :=
    run_eq_overlong tireless neverThere () (by decide) fun i _ => neverThere_settles i
  have hcalls : (tireless.run neverThere ()).1.calls = 1025 := congrArg (·.1.calls) hrun
  refine ⟨neverThere_settles, rfl, hcalls, congrArg (·.1.result) hrun, fun hlaw => ?_⟩
  have hdue : (tireless.run neverThere ()).1.calls = 1026 := congrArg (·.1.calls) hlaw
  omega

end CiteSync.Remote
