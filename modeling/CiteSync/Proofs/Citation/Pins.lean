import CiteSync.Citation.Pinned
import Mathlib.Data.List.TakeWhile

/-!
# Texts that pin a word

A text pins a word if it is a label, a colon and that word, with blanks of any kind around them.
What is pinned at the start of a text is told by this alone: some of it, up to the end of a line,
pins the word.
-/

namespace CiteSync.Citation

open Text

/-! ## 1. Texts that pin a word -/

/-- A text of nothing but blanks. -/
def Blank (cs : List Char) : Prop := ∀ c ∈ cs, isBlank c = true

/-- The label, in any case. -/
def Labels (cs : List Char) : Prop := cs.map foldChar = pinLabel

/-- A word: at least one character, and none of them blank. -/
structure Solid (cs : List Char) : Prop where
  nonempty : cs ≠ []
  solid : ∀ c ∈ cs, isBlank c = false

/-- A text that is a label, a colon and one word, with blanks around them. -/
inductive Pins : List Char → List Char → Prop
  | intro {lead label gap space word trail : List Char} (blankLead : Blank lead)
    (labels : Labels label) (blankGap : Blank gap) (blankSpace : Blank space) (solid : Solid word)
    (blankTrail : Blank trail) :
    Pins (lead ++ (label ++ (gap ++ ':' :: (space ++ (word ++ trail))))) word

/-- A text that stops before its word: a label, or a label and a colon, with blanks around them. -/
inductive LeftOpen : List Char → Prop
  | label {lead label gap : List Char} (blankLead : Blank lead) (labels : Labels label)
    (blankGap : Blank gap) : LeftOpen (lead ++ (label ++ gap))
  | colon {lead label gap space : List Char} (blankLead : Blank lead) (labels : Labels label)
    (blankGap : Blank gap) (blankSpace : Blank space) :
    LeftOpen (lead ++ (label ++ (gap ++ ':' :: space)))

variable {cs front back word other : List Char}

theorem isBlank_lineFeed : isBlank '\n' = true := by decide

theorem isBlank_colon : isBlank ':' = false := by decide

/-- The code points of blanks. -/
def blankCodes : List Nat :=
  [9, 10, 11, 12, 13, 28, 29, 30, 31, 32, 0x85, 0xA0, 0x1680, 0x2000, 0x2001, 0x2002, 0x2003,
    0x2004, 0x2005, 0x2006, 0x2007, 0x2008, 0x2009, 0x200A, 0x2028, 0x2029, 0x202F, 0x205F, 0x3000]

theorem mem_blankCodes {c : Char} (h : isBlank c = true) : c.toNat ∈ blankCodes := by
  simp only [isBlank, Bool.or_eq_true, Bool.and_eq_true, decide_eq_true_eq, beq_iff_eq] at h
  simp only [blankCodes, List.mem_cons, List.not_mem_nil, or_false]
  omega

theorem foldChar_blankCodes : ∀ n ∈ blankCodes, foldChar (Char.ofNat n) = Char.ofNat n := by
  decide +kernel

/-- A comparison without regard to case leaves blanks alone. -/
theorem foldChar_of_isBlank {c : Char} (h : isBlank c = true) : foldChar c = c := by
  have hfold := foldChar_blankCodes c.toNat (mem_blankCodes h)
  rwa [Char.ofNat_toNat] at hfold

theorem Labels.lineFeed_notMem (h : Labels cs) : '\n' ∉ cs := by
  intro hmem
  have hfold : foldChar '\n' ∈ cs.map foldChar := List.mem_map_of_mem hmem
  rw [foldChar_of_isBlank isBlank_lineFeed, h] at hfold
  revert hfold
  decide

theorem Labels.head (h : Labels cs) : ∃ c rest, cs = c :: rest ∧ isBlank c = false := by
  cases cs with
  | nil => cases h
  | cons c rest =>
    have hfold : foldChar c = 'c' := (List.cons.inj h).1
    refine ⟨c, rest, rfl, ?_⟩
    by_contra hblank
    rw [Bool.not_eq_false] at hblank
    rw [foldChar_of_isBlank hblank] at hfold
    rw [hfold] at hblank
    revert hblank
    decide

theorem Solid.head (h : Solid cs) : ∃ c rest, cs = c :: rest ∧ isBlank c = false := by
  obtain ⟨c, rest, rfl⟩ := List.exists_cons_of_ne_nil h.nonempty
  exact ⟨c, rest, rfl, h.solid c (.head _)⟩

/-! ## 2. What is pinned at the start of a text -/

/-- The text ends here, or a line does. -/
def AtLineEnd (cs : List Char) : Prop := cs = [] ∨ ∃ rest, cs = '\n' :: rest

theorem blank_takeWhile : Blank (cs.takeWhile isBlank) := fun _ hc => List.mem_takeWhile_imp hc

theorem exists_blanks (cs : List Char) : ∃ lead, Blank lead ∧ cs = lead ++ skipBlanks cs :=
  ⟨cs.takeWhile isBlank, blank_takeWhile, List.takeWhile_append_dropWhile.symm⟩

theorem skipBlanks_append (h : Blank front) : skipBlanks (front ++ back) = skipBlanks back :=
  List.dropWhile_append_of_pos h

theorem skipBlanks_cons {c : Char} (h : isBlank c = false) : skipBlanks (c :: cs) = c :: cs := by
  unfold skipBlanks
  rw [List.dropWhile_cons_of_neg]
  simp [h]

theorem Labels.skipBlanks (h : Labels front) :
    Citation.skipBlanks (front ++ back) = front ++ back := by
  obtain ⟨c, rest, rfl, hc⟩ := h.head
  exact skipBlanks_cons hc

theorem Solid.skipBlanks (h : Solid front) :
    Citation.skipBlanks (front ++ back) = front ++ back := by
  obtain ⟨c, rest, rfl, hc⟩ := h.head
  exact skipBlanks_cons hc

theorem afterLabel?_eq_some (label : List Char) :
    afterLabel? label cs = some back ↔
      ∃ front, cs = front ++ back ∧ front.map foldChar = label := by
  induction label generalizing cs with
  | nil =>
    constructor
    · intro h
      exact ⟨[], Option.some.inj h, rfl⟩
    · rintro ⟨front, rfl, hfront⟩
      rw [List.map_eq_nil_iff] at hfront
      rw [hfront]
      rfl
  | cons l label ih =>
    cases cs with
    | nil =>
      constructor
      · intro h
        cases h
      · rintro ⟨front, hsplit, hfront⟩
        rw [(List.append_eq_nil_iff.1 hsplit.symm).1] at hfront
        cases hfront
    | cons c cs =>
      unfold afterLabel?
      split
      next hc =>
        rw [ih]
        constructor
        · rintro ⟨front, rfl, hfront⟩
          exact ⟨c :: front, rfl, by rw [List.map_cons, hc, hfront]⟩
        · rintro ⟨_ | ⟨c', front⟩, hsplit, hfront⟩
          · cases hfront
          · obtain ⟨rfl, hrest⟩ := List.cons.inj hsplit
            exact ⟨front, hrest, (List.cons.inj hfront).2⟩
      next hc =>
        constructor
        · intro h
          cases h
        · rintro ⟨_ | ⟨c', front⟩, hsplit, hfront⟩
          · cases hfront
          · obtain ⟨rfl, -⟩ := List.cons.inj hsplit
            exact absurd (List.cons.inj hfront).1 hc

/-- A label is found behind blanks. -/
theorem Labels.afterLabel? (h : Labels front) {lead : List Char} (hlead : Blank lead) :
    Citation.afterLabel? pinLabel (Citation.skipBlanks (lead ++ (front ++ back))) = some back := by
  rw [skipBlanks_append hlead, h.skipBlanks]
  exact (afterLabel?_eq_some pinLabel).2 ⟨front, rfl, h⟩

/-- A word is read up to the blanks behind it. -/
theorem takeWhile_solid (h : Solid word) (hback : ∀ c ∈ back.head?, isBlank c = true) :
    (word ++ back).takeWhile (!isBlank ·) = word := by
  rw [List.takeWhile_append_of_pos fun c hc => by simp [h.solid c hc]]
  cases back with
  | nil => exact List.append_nil word
  | cons c back =>
    have hc : isBlank c = true := hback c rfl
    rw [List.takeWhile_cons_of_neg (by simp [hc]), List.append_nil]

theorem endsLine_iff :
    endsLine cs = true ↔ ∃ trail back, cs = trail ++ back ∧ Blank trail ∧ AtLineEnd back := by
  unfold endsLine
  simp only [Bool.or_eq_true, List.contains_iff_mem, beq_iff_eq]
  constructor
  · rintro (hmem | hall)
    · obtain ⟨trail, more, hsplit⟩ := List.append_of_mem hmem
      refine ⟨trail, '\n' :: (more ++ cs.dropWhile isBlank), ?_, ?_, .inr ⟨_, rfl⟩⟩
      · rw [← List.cons_append, ← List.append_assoc, ← hsplit, List.takeWhile_append_dropWhile]
      · intro c hc
        have hblank : c ∈ cs.takeWhile isBlank := by
          rw [hsplit]
          exact List.mem_append_left _ hc
        exact blank_takeWhile c hblank
    · have hcs : cs.takeWhile isBlank = cs := (List.takeWhile_prefix isBlank).eq_of_length hall
      refine ⟨cs, [], (List.append_nil cs).symm, ?_, .inl rfl⟩
      rw [← hcs]
      exact blank_takeWhile
  · rintro ⟨trail, back, rfl, htrail, rfl | ⟨rest, rfl⟩⟩
    · rw [List.takeWhile_append_of_pos htrail]
      exact .inr (by simp)
    · rw [List.takeWhile_append_of_pos htrail, List.takeWhile_cons_of_pos isBlank_lineFeed]
      exact .inl (by simp)

/-- What starts here pins a word exactly if it does so as a whole up to the end of some line. -/
theorem pinnedHere?_eq_some :
    pinnedHere? cs = some word ↔
      ∃ front back, cs = front ++ back ∧ Pins front word ∧ AtLineEnd back := by
  constructor
  · -- every step of the reader has cut one part off the front
    intro h
    unfold pinnedHere? at h
    obtain ⟨rest, hlabel, h⟩ := Option.bind_eq_some_iff.1 h
    obtain ⟨label, hlabel, hlabels⟩ := (afterLabel?_eq_some pinLabel).1 hlabel
    obtain ⟨lead, hlead, hcs⟩ := exists_blanks cs
    obtain ⟨gap, hgap, hrest⟩ := exists_blanks rest
    split at h
    next after hcolon =>
      dsimp only at h
      split at h
      next hword =>
        obtain ⟨space, hspace, hafter⟩ := exists_blanks after
        rw [Bool.and_eq_true, decide_eq_true_eq] at hword
        obtain ⟨hsome, hend⟩ := hword
        rw [Option.some.inj h] at hsome hend
        obtain ⟨trail, back, htrail, hblank, hback⟩ := endsLine_iff.1 hend
        have hsplit : skipBlanks after = word ++ (skipBlanks after).drop word.length := by
          have hprefix := List.takeWhile_prefix (!isBlank ·) (l := skipBlanks after)
          rw [Option.some.inj h] at hprefix
          exact List.prefix_iff_eq_append.1 hprefix |>.symm
        have hsolid : Solid word := by
          refine ⟨hsome, fun c hc => ?_⟩
          rw [← Option.some.inj h] at hc
          simpa using List.mem_takeWhile_imp hc
        refine ⟨_, back, ?_, .intro hlead hlabels hgap hspace hsolid hblank, hback⟩
        rw [hcs, hlabel, hrest, hcolon, hafter, hsplit, htrail]
        simp only [List.append_assoc, List.cons_append]
      next => cases h
    next => cases h
  · -- and from the parts put together it reads each of them back
    rintro ⟨_, back, rfl, ⟨hlead, hlabels, hgap, hspace, hsolid, htrail⟩, hback⟩
    next lead label gap space trail =>
    have hends : endsLine (trail ++ back) = true := endsLine_iff.2 ⟨trail, back, rfl, htrail, hback⟩
    have hword : (word ++ (trail ++ back)).takeWhile (!isBlank ·) = word := by
      apply takeWhile_solid hsolid
      intro c hc
      cases trail with
      | nil =>
        obtain rfl | ⟨rest, rfl⟩ := hback
        · cases hc
        · cases hc
          exact isBlank_lineFeed
      | cons d trail =>
        cases hc
        exact htrail _ (.head _)
    unfold pinnedHere?
    simp only [List.append_assoc, List.cons_append]
    rw [hlabels.afterLabel? hlead]
    simp only [Option.bind_eq_bind, Option.bind_some]
    rw [skipBlanks_append hgap, skipBlanks_cons isBlank_colon]
    simp only [skipBlanks_append hspace, hsolid.skipBlanks, hword, List.drop_left, hends]
    simp [hsolid.nonempty]

theorem Pins.pinnedHere? (h : Pins cs word) : Citation.pinnedHere? cs = some word :=
  pinnedHere?_eq_some.2 ⟨cs, [], (List.append_nil cs).symm, h, .inl rfl⟩

/-- A text without line ends can only be taken as a whole. -/
theorem pins_iff_of_line (hline : '\n' ∉ cs) : Pins cs word ↔ pinnedHere? cs = some word := by
  refine ⟨Pins.pinnedHere?, fun h => ?_⟩
  obtain ⟨front, back, rfl, hpins, rfl | ⟨rest, rfl⟩⟩ := pinnedHere?_eq_some.1 h
  · rwa [List.append_nil]
  · exact absurd (List.mem_append_right _ (.head _)) hline

/-! ## 3. Texts that are left open -/

theorem skipBlanks_of_blank (h : Blank cs) : skipBlanks cs = [] :=
  List.dropWhile_eq_nil_iff.2 h

theorem LeftOpen.afterLabel? (h : LeftOpen cs) :
    ∃ rest, Citation.afterLabel? pinLabel (skipBlanks cs) = some rest ∧
      (skipBlanks rest = [] ∨ ∃ space, skipBlanks rest = ':' :: space ∧ skipBlanks space = []) := by
  cases h with
  | label blankLead labels blankGap =>
    exact ⟨_, labels.afterLabel? blankLead, .inl (skipBlanks_of_blank blankGap)⟩
  | colon blankLead labels blankGap blankSpace =>
    refine ⟨_, labels.afterLabel? blankLead, .inr ⟨_, ?_, skipBlanks_of_blank blankSpace⟩⟩
    rw [skipBlanks_append blankGap, skipBlanks_cons isBlank_colon]

/-- What is left open pins no word by itself. -/
theorem LeftOpen.not_pins (h : LeftOpen cs) : ¬ Pins cs word := by
  intro hpins
  obtain ⟨rest, hrest, hopen⟩ := h.afterLabel?
  have hword := hpins.pinnedHere?
  unfold Citation.pinnedHere? at hword
  rw [hrest] at hword
  simp only [Option.bind_eq_bind, Option.bind_some] at hword
  rcases hopen with hnil | ⟨space, hcolon, hnil⟩
  · rw [hnil] at hword
    cases hword
  · rw [hcolon] at hword
    simp only [hnil] at hword
    cases hword

end CiteSync.Citation
