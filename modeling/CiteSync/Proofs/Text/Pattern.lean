import CiteSync.Text.Pattern

/-!
# Where patterns end

For each form of a pattern, the places where it may end, as what was read on the way there; and what
it means that a search finds something or nothing.
-/

namespace CiteSync.Text.Pattern

variable {p q : Pattern} {isIn : Char → Bool} {here reached : Place}

/-! ## 1. The forms of a pattern -/

@[simp]
theorem mem_ends_start : reached ∈ start.ends here ↔ here.pos = 0 ∧ reached = here := by
  unfold ends
  split <;> simp_all

@[simp]
theorem mem_ends_stop :
    reached ∈ stop.ends here ↔ (here.rest = [] ∨ here.rest = ['\n']) ∧ reached = here := by
  unfold ends
  split <;> simp_all

@[simp]
theorem mem_ends_one :
    reached ∈ (one isIn).ends here ↔
      ∃ c rest, here.rest = c :: rest ∧ isIn c = true ∧
        reached = ⟨here.pos + 1, rest, here.group⟩ := by
  unfold ends
  split
  next c rest hrest =>
    rw [hrest]
    constructor
    · intro h
      split at h
      next hc => exact ⟨c, rest, rfl, hc, List.mem_singleton.1 h⟩
      next => cases h
    · rintro ⟨d, left, heq, hd, rfl⟩
      obtain ⟨rfl, rfl⟩ := List.cons.inj heq
      rw [if_pos hd]
      exact List.mem_singleton_self _
  next hrest => simp [hrest]

theorem mem_repeats {group : Option (Nat × List Char)} {nearer : List Place} {pos : Nat}
    {rest : List Char} :
    reached ∈ repeats isIn group nearer pos rest ↔
      reached ∈ nearer ∨
        ∃ cs left, rest = cs ++ left ∧ (∀ c ∈ cs, isIn c = true) ∧
          reached = ⟨pos + cs.length, left, group⟩ := by
  induction rest generalizing nearer pos with
  | nil =>
    simp only [repeats, List.mem_cons, List.nil_eq_append_iff]
    constructor
    · rintro (rfl | hnear)
      · exact .inr ⟨[], [], ⟨rfl, rfl⟩, by simp, rfl⟩
      · exact .inl hnear
    · rintro (hnear | ⟨cs, left, ⟨rfl, rfl⟩, -, rfl⟩)
      · exact .inr hnear
      · exact .inl rfl
  | cons c rest ih =>
    -- the repetition ends here, or `c` is in the class and it ends behind `c`
    have hsplit : (∃ cs left, c :: rest = cs ++ left ∧ (∀ c ∈ cs, isIn c = true) ∧
          reached = ⟨pos + cs.length, left, group⟩) ↔
        reached = ⟨pos, c :: rest, group⟩ ∨ isIn c = true ∧
          ∃ cs left, rest = cs ++ left ∧ (∀ c ∈ cs, isIn c = true) ∧
            reached = ⟨pos + 1 + cs.length, left, group⟩ := by
      constructor
      · rintro ⟨cs, left, heq, hall, rfl⟩
        cases cs with
        | nil => exact .inl (by simpa using heq.symm)
        | cons d cs =>
          obtain ⟨rfl, rfl⟩ := List.cons.inj heq
          have hlen : pos + (cs.length + 1) = pos + 1 + cs.length := by omega
          exact .inr ⟨hall c List.mem_cons_self, cs, left, rfl,
            fun d hd => hall d (List.mem_cons_of_mem c hd), by rw [List.length_cons, hlen]⟩
      · rintro (rfl | ⟨hc, cs, left, rfl, hall, rfl⟩)
        · exact ⟨[], c :: rest, rfl, by simp, rfl⟩
        · have hlen : pos + (cs.length + 1) = pos + 1 + cs.length := by omega
          exact ⟨c :: cs, left, rfl, List.forall_mem_cons.2 ⟨hc, hall⟩,
            by rw [List.length_cons, hlen]⟩
    rw [hsplit]
    cases hc : isIn c with
    | true =>
      simp only [repeats, hc, if_true, ih, List.mem_cons, true_and]
      rw [or_assoc, or_left_comm]
    | false => simp [repeats, hc, or_comm]

@[simp]
theorem mem_ends_many :
    reached ∈ (many isIn).ends here ↔
      ∃ cs left, here.rest = cs ++ left ∧ (∀ c ∈ cs, isIn c = true) ∧
        reached = ⟨here.pos + cs.length, left, here.group⟩ := by
  simp [ends, mem_repeats]

@[simp]
theorem mem_ends_optional :
    reached ∈ (optional p).ends here ↔ reached ∈ p.ends here ∨ reached = here := by
  simp [ends]

@[simp]
theorem mem_ends_either :
    reached ∈ (either p q).ends here ↔ reached ∈ p.ends here ∨ reached ∈ q.ends here := by
  simp [ends]

@[simp]
theorem mem_ends_both :
    reached ∈ (both p q).ends here ↔ ∃ middle ∈ p.ends here, reached ∈ q.ends middle := by
  simp [ends]

@[simp]
theorem mem_ends_group :
    reached ∈ (group p).ends here ↔ ∃ inner ∈ p.ends here,
      reached = { inner with
        group := some (here.pos, here.rest.take (inner.pos - here.pos)) } := by
  simp [ends, eq_comm]

/-! ## 2. Searching -/

/-- A search ends where the pattern does, from some place that is not before the first. -/
theorem exists_of_searchFrom {pos : Nat} {rest : List Char}
    (h : p.searchFrom pos rest = some reached) :
    ∃ skipped left, rest = skipped ++ left ∧
      reached ∈ p.ends ⟨pos + skipped.length, left, none⟩ := by
  induction rest generalizing pos with
  | nil =>
    refine ⟨[], [], rfl, List.mem_of_head? ?_⟩
    unfold searchFrom at h
    split at h
    next found hfound => exact hfound.trans h
    next => cases h
  | cons c rest ih =>
    unfold searchFrom at h
    split at h
    next found hfound => exact ⟨[], c :: rest, rfl, List.mem_of_head? (hfound.trans h)⟩
    next =>
      obtain ⟨skipped, left, rfl, hreached⟩ := ih h
      refine ⟨c :: skipped, left, rfl, ?_⟩
      rw [List.length_cons, Nat.add_comm skipped.length 1, ← Nat.add_assoc]
      exact hreached

/-- A search that finds nothing has looked everywhere. -/
theorem ends_eq_nil_of_searchFrom {pos : Nat} {skipped left : List Char}
    (h : p.searchFrom pos (skipped ++ left) = none) :
    p.ends ⟨pos + skipped.length, left, none⟩ = [] := by
  induction skipped generalizing pos with
  | nil =>
    unfold searchFrom at h
    split at h
    next => cases h
    next hnone => exact List.head?_eq_none_iff.1 hnone
  | cons c skipped ih =>
    unfold searchFrom at h
    split at h
    next => cases h
    next =>
      rw [List.length_cons, Nat.add_comm skipped.length 1, ← Nat.add_assoc]
      exact ih h

end CiteSync.Text.Pattern
