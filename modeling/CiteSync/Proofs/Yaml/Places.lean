import CiteSync.Yaml.Token.Cursor

/-!
# Places further on

What is read from a place does not depend on what is in front of it.  So when a place is moved on by
some characters and lines that were put in front of the text, what is read there stays the same and
the place behind it moves on as far.  Reading never goes back.
-/

namespace CiteSync.Yaml

/-! ## 1. Values with a place -/

/-- Values with a place in a text. -/
class Placed (τ : Type) where
  /-- The value with its place that many characters and lines further on. -/
  moved (chars lines : Nat) : τ → τ
  /-- How many characters there are from its place on. -/
  left : τ → Nat

open Placed

instance : Placed Cursor where
  moved chars lines c := { c with index := c.index + chars, line := c.line + lines }
  left c := c.rest.length

instance {α τ : Type} [Placed τ] : Placed (α × τ) where
  moved chars lines p := (p.1, moved chars lines p.2)
  left p := left p.2

instance {τ : Type} [Placed τ] : Placed (Except Fault τ) where
  moved chars lines r := r.map (moved chars lines)
  left r := match r with
    | .ok t => left t
    | .error _ => 0

/-- `y` is `x` further on, and at most `n` characters are left. -/
structure Follows {τ : Type} [Placed τ] (chars lines n : Nat) (x y : τ) : Prop where
  same : y = moved chars lines x
  left_le : left x ≤ n

section Follows

variable {α τ υ : Type} [Placed τ] [Placed υ] {chars lines n m : Nat}

theorem Follows.mono {x y : τ} (h : Follows chars lines n x y) (hnm : n ≤ m) :
    Follows chars lines m x y := ⟨h.same, Nat.le_trans h.left_le hnm⟩

theorem Follows.error (e : Fault) :
    Follows chars lines n (Except.error e : Except Fault τ) (Except.error e) :=
  ⟨rfl, Nat.zero_le n⟩

theorem Follows.ok {x y : τ} (h : Follows chars lines n x y) :
    Follows chars lines n (Except.ok x : Except Fault τ) (Except.ok y) :=
  ⟨congrArg Except.ok h.same, h.left_le⟩

theorem Follows.pair {x y : τ} (a : α) (h : Follows chars lines n x y) :
    Follows chars lines n (a, x) (a, y) :=
  ⟨congrArg (Prod.mk a) h.same, h.left_le⟩

theorem Follows.cases_pair {x y : α × τ} (h : Follows chars lines n x y) :
    ∃ a t, x = (a, t) ∧ y = (a, moved chars lines t) ∧ left t ≤ n :=
  ⟨x.1, x.2, rfl, h.same, h.left_le⟩

theorem Follows.cases_triple {β : Type} {x y : α × β × τ} (h : Follows chars lines n x y) :
    ∃ a b t, x = (a, b, t) ∧ y = (a, b, moved chars lines t) ∧ left t ≤ n :=
  ⟨x.1, x.2.1, x.2.2, rfl, h.same, h.left_le⟩

/-- Both readings take the same branch. -/
theorem Follows.ite {p q : Prop} [Decidable p] [Decidable q] {x x' y y' : τ} (hpq : p ↔ q)
    (hx : p → Follows chars lines n x y) (hx' : ¬ p → Follows chars lines n x' y') :
    Follows chars lines n (if p then x else x') (if q then y else y') := by
  by_cases hp : p
  · rw [if_pos hp, if_pos (hpq.1 hp)]
    exact hx hp
  · rw [if_neg hp, if_neg fun hq => hp (hpq.2 hq)]
    exact hx' hp

theorem Follows.self {x : τ} (h : left x ≤ n) : Follows chars lines n x (moved chars lines x) :=
  ⟨rfl, h⟩

/-- What follows on two readings that follow does, too. -/
theorem Follows.bind {x y : Except Fault τ} {f g : τ → Except Fault υ}
    (h : Follows chars lines n x y)
    (hfg : ∀ t, left t ≤ n → Follows chars lines m (f t) (g (moved chars lines t))) :
    Follows chars lines m (x >>= f) (y >>= g) := by
  rw [h.same]
  cases x with
  | error e => exact .error e
  | ok t => exact hfg t h.left_le

theorem Follows.bindPair {x y : Except Fault (α × τ)} {f g : α × τ → Except Fault υ}
    (h : Follows chars lines n x y)
    (hfg : ∀ a t, left t ≤ n → Follows chars lines m (f (a, t)) (g (a, moved chars lines t))) :
    Follows chars lines m (x >>= f) (y >>= g) :=
  h.bind fun p hp => hfg p.1 p.2 hp

end Follows

theorem moved_ok {τ : Type} [Placed τ] {chars lines : Nat} (t : τ) :
    moved chars lines (Except.ok t : Except Fault τ) = .ok (moved chars lines t) := rfl

theorem moved_ite {τ : Type} [Placed τ] {chars lines : Nat} {p : Prop} [Decidable p] (x y : τ) :
    (if p then moved chars lines x else moved chars lines y) =
      moved chars lines (if p then x else y) :=
  (apply_ite (moved chars lines) p x y).symm

/-! ## 2. Places -/

section Places

variable (c : Cursor) (chars lines : Nat)

@[simp]
theorem moved_rest : (moved chars lines c).rest = c.rest := rfl

@[simp]
theorem moved_column : (moved chars lines c).column = c.column := rfl

@[simp]
theorem moved_index : (moved chars lines c).index = c.index + chars := rfl

@[simp]
theorem moved_line : (moved chars lines c).line = c.line + lines := rfl

@[simp]
theorem moved_peek (k : Nat) : (moved chars lines c).peek k = c.peek k := rfl

@[simp]
theorem moved_run (p : Char → Bool) : (moved chars lines c).run p = c.run p := rfl

@[simp]
theorem moved_atSeparator : (moved chars lines c).atSeparator = c.atSeparator := rfl

@[simp]
theorem moved_step : (moved chars lines c).step = moved chars lines c.step := by
  rcases c with ⟨_ | ⟨d, rest⟩, index, line, column⟩
  · rfl
  · by_cases hd : d = '\n'
    · subst hd
      show Cursor.mk rest (index + chars + 1) (line + lines + 1) 0 =
        Cursor.mk rest (index + 1 + chars) (line + 1 + lines) 0
      rw [Nat.add_right_comm index, Nat.add_right_comm line]
    · simp only [Cursor.step, moved]
      rw [Nat.add_right_comm index]

@[simp]
theorem moved_skip (n : Nat) : (moved chars lines c).skip n = moved chars lines (c.skip n) := by
  induction n generalizing c with
  | zero => rfl
  | succ n ih =>
    show (moved chars lines c).step.skip n = moved chars lines (c.step.skip n)
    rw [moved_step, ih]

@[simp]
theorem moved_skipRun (p : Char → Bool) :
    (moved chars lines c).skipRun p = moved chars lines (c.skipRun p) := moved_skip c chars lines _

@[simp]
theorem moved_skipSpaces : (moved chars lines c).skipSpaces = moved chars lines c.skipSpaces :=
  moved_skipRun c chars lines _

@[simp]
theorem moved_skipComment :
    (moved chars lines c).skipComment = moved chars lines c.skipComment := by
  unfold Cursor.skipComment
  rw [moved_peek, moved_skipRun]
  split <;> rfl

theorem step_rest : c.step.rest = c.rest.drop 1 := by
  unfold Cursor.step
  split
  next h => rw [h]; rfl
  next h => rw [h]; rfl
  next h => rw [h]; rfl

theorem skip_rest (n : Nat) : (c.skip n).rest = c.rest.drop n := by
  induction n generalizing c with
  | zero => rfl
  | succ n ih =>
    show (c.step.skip n).rest = _
    rw [ih, step_rest, List.drop_drop, Nat.add_comm]

theorem left_skip_le (n : Nat) : left (c.skip n) ≤ left c := by
  show (c.skip n).rest.length ≤ c.rest.length
  rw [skip_rest, List.length_drop]
  exact Nat.sub_le _ _

theorem left_step_le : left c.step ≤ left c := left_skip_le c 1

theorem left_skipComment_le : left c.skipComment ≤ left c := by
  unfold Cursor.skipComment
  split
  · exact left_skip_le c _
  · exact Nat.le_refl _

/-- Fewer characters are left one step on, unless there were none. -/
theorem left_step_lt (h : c.peek 0 ≠ pastEnd) : left c.step < left c := by
  show c.step.rest.length < c.rest.length
  rw [step_rest, List.length_drop]
  cases hrest : c.rest with
  | nil =>
    rw [Cursor.peek, hrest] at h
    exact absurd rfl h
  | cons d rest =>
    rw [List.length_cons]
    omega

end Places

/-! ## 3. The end of a line -/

variable {chars lines n : Nat} {c : Cursor}

theorem Follows.step (h : left c ≤ n) :
    Follows chars lines n c.step (moved chars lines c.step) :=
  .self (Nat.le_trans (left_step_le c) h)

theorem Follows.skip (h : left c ≤ n) (k : Nat) :
    Follows chars lines n (c.skip k) (moved chars lines (c.skip k)) :=
  .self (Nat.le_trans (left_skip_le c k) h)

theorem step_follows (h : left c.step ≤ n) :
    Follows chars lines n c.step (moved chars lines c).step := by
  rw [moved_step]
  exact .self h

theorem skip_follows (k : Nat) (h : left (c.skip k) ≤ n) :
    Follows chars lines n (c.skip k) ((moved chars lines c).skip k) := by
  rw [moved_skip]
  exact .self h

theorem endOfLine_follows (h : left c ≤ n) :
    Follows chars lines n c.endOfLine (moved chars lines c).endOfLine := by
  have hskip : left c.skipSpaces.skipComment ≤ n :=
    Nat.le_trans (Nat.le_trans (left_skipComment_le _) (left_skip_le c _)) h
  unfold Cursor.endOfLine
  simp only [moved_skipSpaces, moved_skipComment, moved_peek, moved_step]
  split
  · split
    · exact .ok (.step hskip)
    · exact .ok (.self hskip)
  · exact .error _

end CiteSync.Yaml
