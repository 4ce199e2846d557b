import CiteSync.Proofs.Yaml.Places
import CiteSync.Yaml.Token.Scalar

/-!
# Scalar texts further on

The four ways to write a text are read alike from a place and from one further on.
-/

namespace CiteSync.Yaml

open Placed

variable {chars lines n : Nat} {c : Cursor}

/-! ## 1. Quoted -/

theorem quotedBreaks_follows (fuel : Nat) (h : left c ≤ n) :
    Follows chars lines n (quotedBreaks fuel c) (quotedBreaks fuel (moved chars lines c)) := by
  induction fuel generalizing c with
  | zero => exact .error _
  | succ fuel ih =>
    unfold quotedBreaks
    simp only [moved_atSeparator, moved_skipRun, moved_peek, moved_step]
    split
    · exact .error _
    · split
      · have hskip : left (c.skipRun fun d => d == ' ' || d == '\t') ≤ n :=
          Nat.le_trans (left_skip_le c _) h
        apply Follows.bindPair (ih (Nat.le_trans (left_step_le _) hskip))
        intro breaks c' h'
        exact .ok (.pair _ (.self h'))
      · exact .ok (.pair _ (.skip h _))

theorem readEscape_follows (h : left c ≤ n) :
    Follows chars lines n (readEscape c) (readEscape (moved chars lines c)) := by
  unfold readEscape
  simp only [moved_peek, moved_step, moved_skip, moved_rest]
  split
  · exact .ok (.pair _ (.step h))
  · split
    · split
      · exact .error _
      · split
        · exact .error _
        · exact .ok (.pair _ (.skip h _))
    · exact .error _
  · split
    · apply Follows.bindPair (quotedBreaks_follows _ (Nat.le_trans (left_step_le c) h))
      intro breaks c' h'
      exact .ok (.pair _ (.self h'))
    · exact .error _

/-- Characters in front of a text that is read from here. -/
theorem prepend_follows {x y : Scanned} (here : List Char) (h : Follows chars lines n x y) :
    Follows chars lines n (do let (text, c) ← x; .ok (here ++ text, c) : Scanned)
      (do let (text, c) ← y; .ok (here ++ text, c)) := by
  apply h.bindPair
  intro text c' h'
  exact .ok (.pair _ (.self h'))

theorem readQuoted_follows (double : Bool) (fuel : Nat) (h : left c ≤ n) :
    Follows chars lines n (readQuoted double fuel c)
      (readQuoted double fuel (moved chars lines c)) := by
  induction fuel generalizing c with
  | zero => exact .error _
  | succ fuel ih =>
    have hstep : left c.step ≤ n := Nat.le_trans (left_step_le c) h
    unfold readQuoted
    simp only [moved_peek, moved_step, moved_skip, moved_run]
    generalize (if double = true then '"' else '\'') = quote
    split
    · exact .error _
    · split
      · split
        · -- a quote written twice, which stands for one
          exact prepend_follows ['\''] (ih (Nat.le_trans (left_skip_le c 2) h))
        · exact .ok (.pair _ (.self hstep))
      · split
        · apply Follows.bindPair (readEscape_follows hstep)
          intro here c' h'
          exact prepend_follows here (ih h')
        · split
          · have hskip (k : Nat) : left (c.skip k) ≤ n := Nat.le_trans (left_skip_le c k) h
            split
            · apply Follows.bindPair
                (quotedBreaks_follows _ (Nat.le_trans (left_step_le _) (hskip _)))
              intro breaks c' h'
              exact prepend_follows (foldBreaks breaks) (ih h')
            · exact prepend_follows _ (ih (hskip _))
          · exact prepend_follows [c.peek 0] (ih hstep)

/-! ## 2. Plain -/

theorem plainBreaks_follows (fuel : Nat) (h : left c ≤ n) :
    Follows chars lines n (plainBreaks fuel c) (plainBreaks fuel (moved chars lines c)) := by
  induction fuel generalizing c with
  | zero => exact .pair _ (.self h)
  | succ fuel ih =>
    have hstep : left c.step ≤ n := Nat.le_trans (left_step_le c) h
    unfold plainBreaks
    simp only [moved_peek, moved_step, moved_atSeparator]
    split
    · exact ih hstep
    · split
      · split
        · exact .pair _ (.self hstep)
        · obtain ⟨breaks, c', hread, hread', h'⟩ := (ih hstep).cases_pair
          rw [hread, hread']
          cases breaks <;> exact .pair _ (.self h')
      · exact .pair _ (.self h)

theorem plainSpaces_follows (h : left c ≤ n) :
    Follows chars lines n (plainSpaces c) (plainSpaces (moved chars lines c)) := by
  have hskip (k : Nat) : left (c.skip k) ≤ n := Nat.le_trans (left_skip_le c k) h
  have hstep (k : Nat) : left (c.skip k).step ≤ n := Nat.le_trans (left_step_le _) (hskip k)
  unfold plainSpaces
  simp only [moved_run, moved_skip, moved_peek, moved_step, moved_atSeparator, moved_rest]
  split
  · split
    · exact .pair _ (.pair _ (.self (hstep _)))
    · obtain ⟨breaks, c', hread, hread', h'⟩ := (plainBreaks_follows _ (hstep _)).cases_pair
      rw [hread, hread']
      cases breaks <;> exact .pair _ (.pair _ (.self h'))
  · exact .pair _ (.pair _ (.self (hskip _)))

/-- A plain text that does not stop at once takes its first characters. -/
theorem readPlain_follows (flow : Bool) (indent : Int) (fuel : Nat) (spaces : List Char)
    (broken : Bool) (hstop : fuel = 0 ∨ c.peek 0 = '#' ∨ plainRun flow c.rest = [] → left c ≤ n)
    (h : left (c.skip (plainRun flow c.rest).length) ≤ n) :
    Follows chars lines n (readPlain flow indent fuel spaces broken c)
      (readPlain flow indent fuel spaces broken (moved chars lines c)) := by
  induction fuel generalizing c spaces broken with
  | zero => exact .pair _ (.pair _ (.self (hstop (.inl rfl))))
  | succ fuel ih =>
    unfold readPlain
    simp only [moved_peek, moved_rest, moved_skip]
    split
    next hcomment => exact .pair _ (.pair _ (.self (hstop (.inr (.inl (beq_iff_eq.1 hcomment))))))
    next =>
      split
      next hempty =>
        exact .pair _ (.pair _ (.self (hstop (.inr (.inr (List.isEmpty_iff.1 hempty))))))
      next =>
        obtain ⟨next, broken, c', hread, hread', h'⟩ := (plainSpaces_follows h).cases_triple
        rw [hread, hread']
        dsimp only
        rw [moved_column, moved_peek]
        split
        · exact .pair _ (.pair _ (.self h'))
        · have hmore := ih next broken (fun _ => h') (Nat.le_trans (left_skip_le c' _) h')
          obtain ⟨text, broken, c'', hread, hread', h''⟩ := hmore.cases_triple
          rw [hread, hread']
          exact .pair _ (.pair _ (.self h''))

/-! ## 3. Blocks -/

/-- What the marks of a block have to be followed by. -/
theorem headerEnd_follows (chomp : Chomp) (width : Option Nat) (h : left c ≤ n) :
    Follows chars lines n
      (if isSpaceOrEnd (c.peek 0) then .ok (chomp, width, c) else .error .malformed)
      (if isSpaceOrEnd ((moved chars lines c).peek 0) then .ok (chomp, width, moved chars lines c)
        else .error .malformed : Except Fault (Chomp × Option Nat × Cursor)) := by
  rw [moved_peek]
  split
  · exact .ok (.pair _ (.pair _ (.self h)))
  · exact .error _

theorem readBlockHeader_follows (h : left c ≤ n) :
    Follows chars lines n (readBlockHeader c) (readBlockHeader (moved chars lines c)) := by
  have hskip (k : Nat) : left (c.skip k) ≤ n := Nat.le_trans (left_skip_le c k) h
  unfold readBlockHeader
  dsimp only
  rw [moved_peek, moved_peek]
  simp only [moved_skip]
  -- the marks are the same at both places
  generalize (if c.peek 0 == '+' then some Chomp.keep
    else if c.peek 0 == '-' then some Chomp.strip else none) = first
  generalize (if c.peek 1 == '+' then some Chomp.keep
    else if c.peek 1 == '-' then some Chomp.strip else none) = second
  cases first with
  | some chomp =>
    generalize (if c.peek 1 == '0' then Except.error Fault.malformed
      else Except.ok (if (c.peek 1).isDigit then some ((c.peek 1).toNat - 48) else none)) = width
    cases width with
    | error e => exact .error _
    | ok width => exact headerEnd_follows chomp width (hskip _)
  | none =>
    generalize (if c.peek 0 == '0' then Except.error Fault.malformed
      else Except.ok (if (c.peek 0).isDigit then some ((c.peek 0).toNat - 48) else none)) = width
    cases width with
    | error e => exact .error _
    | ok width =>
      cases width with
      | none => exact headerEnd_follows .clip none h
      | some width =>
        cases second with
        | some chomp => exact headerEnd_follows chomp (some width) (hskip 2)
        | none => exact headerEnd_follows .clip (some width) (hskip 1)

theorem blockIndentation_follows (fuel : Nat) (h : left c ≤ n) :
    Follows chars lines n (blockIndentation fuel c)
      (blockIndentation fuel (moved chars lines c)) := by
  induction fuel generalizing c with
  | zero => exact .pair _ (.pair _ (.self h))
  | succ fuel ih =>
    have hstep : left c.step ≤ n := Nat.le_trans (left_step_le c) h
    obtain ⟨count, widest, c', hread, hread', h'⟩ := (ih hstep).cases_triple
    unfold blockIndentation
    simp only [moved_peek, moved_step, moved_column]
    rw [hread, hread']
    split
    · exact .pair _ (.pair _ (.self h'))
    · split
      · exact .pair _ (.pair _ (.self h'))
      · exact .pair _ (.pair _ (.self h))

@[simp]
theorem moved_skipIndent (c : Cursor) (indent : Nat) :
    skipIndent (moved chars lines c) indent = moved chars lines (skipIndent c indent) :=
  moved_skip c chars lines _

theorem left_skipIndent_le (c : Cursor) (indent : Nat) : left (skipIndent c indent) ≤ left c :=
  left_skip_le c _

theorem blockBreaks_follows (indent fuel : Nat) (h : left c ≤ n) :
    Follows chars lines n (blockBreaks indent fuel c)
      (blockBreaks indent fuel (moved chars lines c)) := by
  induction fuel generalizing c with
  | zero => exact .pair _ (.self h)
  | succ fuel ih =>
    have hskip : left (skipIndent c indent) ≤ n := Nat.le_trans (left_skipIndent_le c indent) h
    obtain ⟨breaks, c', hread, hread', h'⟩ := (ih (Nat.le_trans (left_step_le _) hskip)).cases_pair
    unfold blockBreaks
    simp only [moved_skipIndent, moved_peek, moved_step]
    rw [hread, hread']
    split
    · exact .pair _ (.self h')
    · exact .pair _ (.self hskip)

theorem readBlockLines_follows (folded : Bool) (chomp : Chomp) (indent fuel breaks : Nat)
    (h : left c ≤ n) :
    Follows chars lines n (readBlockLines folded chomp indent fuel breaks c)
      (readBlockLines folded chomp indent fuel breaks (moved chars lines c)) := by
  induction fuel generalizing c breaks with
  | zero => exact .pair _ (.self h)
  | succ fuel ih =>
    have hline : left (c.skip (c.run (!isBreakOrEnd ·)).length) ≤ n :=
      Nat.le_trans (left_skip_le c _) h
    unfold readBlockLines
    dsimp only
    rw [moved_run, moved_skip, moved_peek]
    generalize c.run (!isBreakOrEnd ·) = line at hline ⊢
    generalize c.skip line.length = d at hline ⊢
    rw [moved_peek, moved_step, moved_ite, moved_rest]
    have hnext : left (if isBreak (d.peek 0) then d.step else d) ≤ n := by
      split
      · exact Nat.le_trans (left_step_le d) hline
      · exact hline
    generalize (if isBreak (d.peek 0) then d.step else d) = next at hnext ⊢
    obtain ⟨breaks', c', hread, hread', h'⟩ := (blockBreaks_follows indent _ hnext).cases_pair
    rw [hread, hread']
    dsimp only
    obtain ⟨text, c'', hmore, hmore', h''⟩ := (ih breaks' h').cases_pair
    rw [hmore, hmore', moved_column, moved_peek]
    split
    · exact .pair _ (.self h'')
    · exact .pair _ (.self h')

/-- The text of a block from behind the empty lines in front of it. -/
theorem blockText_follows (folded : Bool) (chomp : Chomp) (indent breaks : Nat) (h : left c ≤ n) :
    Follows chars lines n
      (if c.column == indent && !isEnd (c.peek 0) then
          .ok (readBlockLines folded chomp indent (c.rest.length + 1) breaks c)
        else .ok (if chomp == .keep then List.replicate breaks '\n' else [], c))
      (if (moved chars lines c).column == indent && !isEnd ((moved chars lines c).peek 0) then
          .ok (readBlockLines folded chomp indent ((moved chars lines c).rest.length + 1) breaks
            (moved chars lines c))
        else .ok (if chomp == .keep then List.replicate breaks '\n' else [], moved chars lines c) :
        Scanned) := by
  rw [moved_column, moved_peek, moved_rest]
  split
  · exact .ok (readBlockLines_follows folded chomp indent _ breaks h)
  · exact .ok (.pair _ (.self h))

/-- How far a block is indented, the empty lines in front of it and the place behind them. -/
def blockStart (least : Nat) (width : Option Nat) (c : Cursor) : Nat × Nat × Cursor :=
  match width with
  | some width =>
    let indent := least + width - 1
    let (breaks, c) := blockBreaks indent (c.rest.length + 1) c
    (indent, breaks, c)
  | none =>
    let (breaks, widest, c) := blockIndentation (c.rest.length + 1) c
    (max least widest, breaks, c)

theorem blockStart_follows (least : Nat) (width : Option Nat) (h : left c ≤ n) :
    Follows chars lines n (blockStart least width c)
      (blockStart least width (moved chars lines c)) := by
  cases width with
  | some width =>
    obtain ⟨breaks, c', hread, hread', h'⟩ :=
      (blockBreaks_follows (least + width - 1) _ h).cases_pair
    dsimp only [blockStart]
    rw [moved_rest, hread, hread']
    exact .pair _ (.pair _ (.self h'))
  | none =>
    obtain ⟨breaks, widest, c', hread, hread', h'⟩ := (blockIndentation_follows _ h).cases_triple
    dsimp only [blockStart]
    rw [moved_rest, hread, hread']
    exact .pair _ (.pair _ (.self h'))

theorem readBlock_eq (folded : Bool) (parentIndent : Int) (c : Cursor) :
    readBlock folded parentIndent c = (do
      let (chomp, width, c) ← readBlockHeader c
      let c ← c.endOfLine
      let (indent, breaks, c) := blockStart (max (parentIndent + 1) 1).toNat width c
      if c.column == indent && !isEnd (c.peek 0) then
        .ok (readBlockLines folded chomp indent (c.rest.length + 1) breaks c)
      else
        .ok (if chomp == .keep then List.replicate breaks '\n' else [], c)) := rfl

theorem readBlock_follows (folded : Bool) (parentIndent : Int) (h : left c ≤ n) :
    Follows chars lines n (readBlock folded parentIndent c)
      (readBlock folded parentIndent (moved chars lines c)) := by
  rw [readBlock_eq, readBlock_eq]
  apply Follows.bindPair (readBlockHeader_follows h)
  rintro chomp ⟨width, c₁⟩ h₁
  apply Follows.bind (endOfLine_follows h₁)
  intro c₂ h₂
  obtain ⟨indent, breaks, c₃, hread, hread', h₃⟩ :=
    (blockStart_follows (max (parentIndent + 1) 1).toNat width h₂).cases_triple
  rw [hread, hread']
  exact blockText_follows folded chomp indent breaks h₃

end CiteSync.Yaml
