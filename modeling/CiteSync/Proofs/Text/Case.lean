import CiteSync.Text.Case

/-!
# Lower case and the starts of texts

The lower case of the start of a text is the start of its lower case, but for one letter: a capital
sigma is lowered by whether a letter follows in its word, and where the start ends inside a word it
does not see what follows.
-/

namespace CiteSync.Text

variable {before start rest : List Char} {c : Char}

/-! ## 1. One character -/

/-- What a character becomes between other ones. -/
def lowered (before : List Char) (c : Char) (rest : List Char) : List Char :=
  if c.toNat = 0x130 then ['i', Char.ofNat 0x307]
  else if c.toNat = 0x3A3 then
    [if meetsCased before && !meetsCased rest then Char.ofNat 0x3C2 else Char.ofNat 0x3C3]
  else [lowerChar c]

theorem lowerAfter_cons :
    lowerAfter before (c :: rest) = lowered before c rest ++ lowerAfter (c :: before) rest := rfl

/-- Behind characters that do not end a word what follows decides, and else it does not. -/
theorem meetsCased_append :
    meetsCased (start ++ rest) =
      if start.all isCaseIgnorable then meetsCased rest else meetsCased start := by
  induction start with
  | nil => rfl
  | cons c start ih =>
    unfold meetsCased at ih ⊢
    rw [List.cons_append, List.dropWhile_cons, List.dropWhile_cons, List.all_cons]
    by_cases hc : isCaseIgnorable c = true
    · simpa [hc] using ih
    · simp [hc]

theorem meetsCased_of_ignorable (h : start.all isCaseIgnorable = true) :
    meetsCased start = false := by
  rw [← List.append_nil start, meetsCased_append, if_pos h]
  rfl

/-! ## 2. Starts -/

/-- The letter that is lowered in two ways. -/
def capitalSigma : Char := 'Σ'

/-- A text is cut inside a word and behind a capital sigma, with nothing in between that ends a
word: alone its start ends in that sigma, and with the rest it does not. -/
def CutAtSigma (before start rest : List Char) : Prop :=
  ∃ front behind, start = front ++ capitalSigma :: behind ∧ behind.all isCaseIgnorable = true ∧
    meetsCased (front.reverse ++ before) = true ∧ meetsCased rest = true

theorem toNat_eq_sigma_iff : c.toNat = 0x3A3 ↔ c = capitalSigma := by
  constructor
  · intro h
    exact Char.toNat_inj.1 (h.trans rfl)
  · rintro rfl
    rfl

theorem cutAtSigma_cons :
    CutAtSigma before (c :: start) rest ↔
      (c = capitalSigma ∧ start.all isCaseIgnorable = true ∧ meetsCased before = true ∧
        meetsCased rest = true) ∨ CutAtSigma (c :: before) start rest := by
  constructor
  · rintro ⟨front, behind, hsplit, hbehind, hfront, hrest⟩
    cases front with
    | nil =>
      obtain ⟨rfl, rfl⟩ := List.cons.inj hsplit
      exact .inl ⟨rfl, hbehind, hfront, hrest⟩
    | cons d front =>
      obtain ⟨rfl, rfl⟩ := List.cons.inj hsplit
      rw [List.reverse_cons, List.append_assoc] at hfront
      exact .inr ⟨front, behind, rfl, hbehind, hfront, hrest⟩
  · rintro (⟨rfl, hstart, hbefore, hrest⟩ | ⟨front, behind, rfl, hbehind, hfront, hrest⟩)
    · exact ⟨[], start, rfl, hstart, hbefore, hrest⟩
    · refine ⟨c :: front, behind, rfl, hbehind, ?_, hrest⟩
      rw [List.reverse_cons, List.append_assoc]
      exact hfront

/-- What follows the start of a text changes one letter of it at most. -/
theorem lowered_append :
    (c = capitalSigma ∧ start.all isCaseIgnorable = true ∧ meetsCased before = true ∧
        meetsCased rest = true ∧ lowered before c start = [Char.ofNat 0x3C2] ∧
        lowered before c (start ++ rest) = [Char.ofNat 0x3C3]) ∨
      (¬(c = capitalSigma ∧ start.all isCaseIgnorable = true ∧ meetsCased before = true ∧
        meetsCased rest = true) ∧ lowered before c (start ++ rest) = lowered before c start) := by
  by_cases hsigma : c = capitalSigma
  · subst hsigma
    have hlowered : ∀ following, lowered before capitalSigma following =
        [if meetsCased before && !meetsCased following then Char.ofNat 0x3C2
          else Char.ofNat 0x3C3] := fun _ => rfl
    rw [hlowered, hlowered, meetsCased_append]
    -- only where the start has no more letters does what follows it count
    by_cases hall : start.all isCaseIgnorable = true
    · rw [meetsCased_of_ignorable hall, if_pos hall]
      cases hbefore : meetsCased before <;> cases hrest : meetsCased rest <;> simp [hall]
    · rw [if_neg hall]
      exact .inr ⟨fun h => hall h.2.1, rfl⟩
  · have hother : c.toNat ≠ 0x3A3 := fun h => hsigma (toNat_eq_sigma_iff.1 h)
    refine .inr ⟨fun h => hsigma h.1, ?_⟩
    unfold lowered
    rw [if_neg hother, if_neg hother]

/-- The lower case of the start of a text is the start of its lower case, unless the text is cut at
a capital sigma. -/
theorem lowerAfter_prefix_iff :
    lowerAfter before start <+: lowerAfter before (start ++ rest) ↔
      ¬CutAtSigma before start rest := by
  -- what is in front grows with each character that is read
  induction start generalizing before with
  | nil =>
    have hnone : ¬CutAtSigma before [] rest := by
      rintro ⟨front, behind, hsplit, -⟩
      simp at hsplit
    exact iff_of_true (List.nil_prefix ..) hnone
  | cons c start ih =>
    rw [List.cons_append, lowerAfter_cons, lowerAfter_cons, cutAtSigma_cons]
    rcases lowered_append with ⟨hc, hstart, hbefore, hrest, halone, hwith⟩ | ⟨hnot, hsame⟩
    · rw [halone, hwith]
      have hdiffer : Char.ofNat 0x3C2 ≠ Char.ofNat 0x3C3 := by decide
      refine iff_of_false (fun h => ?_) (not_not_intro (.inl ⟨hc, hstart, hbefore, hrest⟩))
      rw [List.cons_append, List.cons_append, List.cons_prefix_cons] at h
      exact hdiffer h.1
    · rw [hsame, List.prefix_append_right_inj, ih]
      exact not_congr (or_iff_right hnot).symm

theorem lower_prefix_iff {typed text : String} (h : typed.toList <+: text.toList) :
    (lower typed).toList <+: (lower text).toList ↔
      ¬CutAtSigma [] typed.toList (text.toList.drop typed.length) := by
  obtain ⟨rest, hrest⟩ := h
  have hdrop : text.toList.drop typed.length = rest := by
    rw [← hrest, ← String.length_toList, List.drop_left]
  unfold lower lowerChars
  rw [String.toList_ofList, String.toList_ofList, hdrop, ← hrest]
  exact lowerAfter_prefix_iff

end CiteSync.Text
