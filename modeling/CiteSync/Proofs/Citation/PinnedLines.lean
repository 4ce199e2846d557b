import CiteSync.Proofs.Citation.Pins

/-!
# Pinned keys and lines

Notes pin the word of the first lines in a row that read as a label, a colon and one word.  Mostly
that is one line.  But the blanks between the parts may be line ends, so a line that stops before
its word takes the word from a line behind it; where no line stops so, the notes pin the word of the
first line that by itself reads as the three parts.
-/

namespace CiteSync.Citation

open Text

/-! ## 1. Lines in a row -/

/-- Lines, put together again. -/
def joined (ls : List (List Char)) : List Char := ['\n'].intercalate ls

/-- The first line by itself pins the word. -/
def PinsOnLine (ls : List (List Char)) (word : List Char) : Prop :=
  ∃ line ∈ ls.head?, Pins line word

/-- Some of the lines, from the first one on, together pin the word. -/
def PinsOnLines (ls : List (List Char)) (word : List Char) : Prop :=
  ∃ run, run <+: ls ∧ Pins (joined run) word

/-- From some line on the word is pinned, and from none before it is any. -/
def FirstPin (pins : List (List Char) → List Char → Prop) (ls : List (List Char))
    (word : List Char) : Prop :=
  ∃ i, pins (ls.drop i) word ∧ ∀ j < i, ∀ other, ¬ pins (ls.drop j) other

variable {cs l front back word other : List Char} {ls : List (List Char)}

theorem Pins.nonempty (h : Pins cs word) : cs ≠ [] := by
  cases h
  simp

theorem not_pinsOnLines_nil : ¬ PinsOnLines [] word := by
  rintro ⟨run, hrun, hpins⟩
  rw [List.prefix_nil.1 hrun] at hpins
  exact hpins.nonempty rfl

theorem PinsOnLine.onLines (h : PinsOnLine ls word) : PinsOnLines ls word := by
  obtain ⟨line, hline, hpins⟩ := h
  refine ⟨[line], ?_, ?_⟩
  · obtain ⟨rest, rfl⟩ := List.head?_eq_some_iff.1 hline
    exact ⟨rest, rfl⟩
  · rw [joined, List.intercalate_singleton]
    exact hpins

theorem joined_cons (hls : ls ≠ []) : joined (l :: ls) = l ++ '\n' :: joined ls := by
  obtain ⟨l', rest, rfl⟩ := List.exists_cons_of_ne_nil hls
  rw [joined, List.intercalate_cons_cons, List.append_assoc]
  rfl

theorem joined_append {ms : List (List Char)} (hls : ls ≠ []) (hms : ms ≠ []) :
    joined (ls ++ ms) = joined ls ++ '\n' :: joined ms := by
  induction ls with
  | nil => exact absurd rfl hls
  | cons l ls ih =>
    by_cases hrest : ls = []
    · rw [hrest, List.singleton_append, joined_cons hms, joined, joined,
        List.intercalate_singleton]
    · have hne : ls ++ ms ≠ [] := by simp [hrest]
      rw [List.cons_append, joined_cons hne, joined_cons hrest, ih hrest, List.append_assoc,
        List.cons_append]

/-- A line holds no line end. -/
theorem lineFeed_notMem_of_mem_splitOn (h : l ∈ cs.splitOn '\n') : '\n' ∉ l := by
  induction cs generalizing l with
  | nil =>
    rw [List.splitOn_nil, List.mem_singleton] at h
    rw [h]
    exact List.not_mem_nil
  | cons c cs ih =>
    rw [List.splitOn_cons_eq_if_modifyHead] at h
    split at h
    next =>
      rcases List.mem_cons.1 h with rfl | h
      · exact List.not_mem_nil
      · exact ih h
    next hc =>
      obtain ⟨first, rest, hsplit⟩ := List.exists_cons_of_ne_nil (List.splitOn_ne_nil '\n' cs)
      rw [hsplit, List.modifyHead_cons] at h
      rcases List.mem_cons.1 h with rfl | h
      · have hfirst : '\n' ∉ first := ih (by rw [hsplit]; exact .head _)
        intro hmem
        rcases List.mem_cons.1 hmem with rfl | hmem
        · exact hc (beq_self_eq_true _)
        · exact hfirst hmem
      · exact ih (by rw [hsplit]; exact .tail _ h)

/-- A word is pinned at the start of a text exactly if it is by some of its lines. -/
theorem pinnedHere?_eq_some_iff_lines :
    pinnedHere? cs = some word ↔ PinsOnLines (cs.splitOn '\n') word := by
  rw [pinnedHere?_eq_some]
  constructor
  · rintro ⟨front, back, rfl, hpins, rfl | ⟨rest, rfl⟩⟩
    · refine ⟨_, List.prefix_refl _, ?_⟩
      rw [joined, List.append_nil, List.intercalate_splitOn]
      exact hpins
    · refine ⟨front.splitOn '\n', ?_, ?_⟩
      · rw [List.splitOn_append_cons_self]
        exact List.prefix_append _ _
      · rw [joined, List.intercalate_splitOn]
        exact hpins
  · rintro ⟨run, ⟨after, hrun⟩, hpins⟩
    have hcs : joined (run ++ after) = cs := by
      rw [joined, hrun, List.intercalate_splitOn]
    have hne : run ≠ [] := by
      rintro rfl
      exact hpins.nonempty rfl
    by_cases hafter : after = []
    · rw [hafter, List.append_nil] at hcs
      exact ⟨_, [], (List.append_nil cs).symm, hcs ▸ hpins, .inl rfl⟩
    · rw [joined_append hne hafter] at hcs
      exact ⟨_, _, hcs.symm, hpins, .inr ⟨_, rfl⟩⟩

/-! ## 2. The first lines that pin a word -/

theorem not_firstPin_nil {pins : List (List Char) → List Char → Prop} (h : ∀ word, ¬ pins [] word) :
    ¬ FirstPin pins [] word := by
  rintro ⟨i, hpins, -⟩
  rw [List.drop_nil] at hpins
  exact h word hpins

theorem firstPin_cons {pins : List (List Char) → List Char → Prop} :
    FirstPin pins (l :: ls) word ↔
      pins (l :: ls) word ∨ (∀ other, ¬ pins (l :: ls) other) ∧ FirstPin pins ls word := by
  constructor
  · rintro ⟨_ | i, hpins, hnone⟩
    · exact .inl hpins
    · refine .inr ⟨hnone 0 (Nat.zero_lt_succ i), i, hpins, fun j hj => ?_⟩
      exact hnone (j + 1) (Nat.succ_lt_succ hj)
  · rintro (hpins | ⟨hfirst, i, hpins, hnone⟩)
    · exact ⟨0, hpins, fun j hj => absurd hj (Nat.not_lt_zero j)⟩
    · refine ⟨i + 1, hpins, ?_⟩
      rintro (_ | j) hj
      · exact hfirst
      · exact hnone j (Nat.lt_of_succ_lt_succ hj)

/-- Where the lines pin a word from the first one on, no later word is reached. -/
theorem FirstPin.here {pins : List (List Char) → List Char → Prop} (h : FirstPin pins ls word)
    (hother : pins ls other) : pins ls word := by
  obtain ⟨_ | i, hpins, hnone⟩ := h
  · exact hpins
  · exact absurd hother (hnone 0 (Nat.zero_lt_succ i) other)

theorem firstPin_of_pins {pins : List (List Char) → List Char → Prop} (h : pins ls word) :
    FirstPin pins ls word := ⟨0, h, fun j hj => absurd hj (Nat.not_lt_zero j)⟩

theorem lineStarts_cons {c : Char} (h : c ≠ '\n') : lineStarts (c :: cs) = lineStarts cs := by
  rw [lineStarts]
  exact h

theorem lineStarts_of_notMem (h : '\n' ∉ l) : lineStarts l = [] := by
  induction l with
  | nil => rfl
  | cons c l ih =>
    obtain ⟨hc, hl⟩ := not_or.1 (mt List.mem_cons.2 h)
    rw [lineStarts_cons (Ne.symm hc)]
    exact ih hl

theorem lineStarts_append (h : '\n' ∉ l) :
    lineStarts (l ++ '\n' :: back) = back :: lineStarts back := by
  induction l with
  | nil => rfl
  | cons c l ih =>
    obtain ⟨hc, hl⟩ := not_or.1 (mt List.mem_cons.2 h)
    rw [List.cons_append, lineStarts_cons (Ne.symm hc)]
    exact ih hl

section Lines

variable (hls : ∀ l ∈ ls, '\n' ∉ l)

include hls

theorem pinnedHere?_joined (hne : ls ≠ []) :
    pinnedHere? (joined ls) = some word ↔ PinsOnLines ls word := by
  rw [pinnedHere?_eq_some_iff_lines, joined, List.splitOn_intercalate '\n' hls hne]

/-- The same lines do not pin two words. -/
theorem PinsOnLines.unique (h : PinsOnLines ls word) (h' : PinsOnLines ls other) :
    word = other := by
  have hne : ls ≠ [] := by
    rintro rfl
    exact not_pinsOnLines_nil h
  have hword := (pinnedHere?_joined hls hne).2 h
  rw [(pinnedHere?_joined hls hne).2 h'] at hword
  exact (Option.some.inj hword).symm

/-- The search goes from line to line and takes the first word that is pinned. -/
theorem findSome?_lineStarts (hne : ls ≠ []) :
    (joined ls :: lineStarts (joined ls)).findSome? pinnedHere? = some word ↔
      FirstPin PinsOnLines ls word := by
  induction ls with
  | nil => exact absurd rfl hne
  | cons l ls ih =>
    have hhere (other : List Char) :
        pinnedHere? (joined (l :: ls)) = some other ↔ PinsOnLines (l :: ls) other :=
      pinnedHere?_joined hls hne
    obtain ⟨hl, hrest⟩ := List.forall_mem_cons.1 hls
    -- the starts behind the first line are those of the other lines
    have hlater : (lineStarts (joined (l :: ls))).findSome? pinnedHere? = some word ↔
        FirstPin PinsOnLines ls word := by
      by_cases hnil : ls = []
      · rw [hnil, joined, List.intercalate_singleton, lineStarts_of_notMem hl]
        constructor
        · intro h
          cases h
        · intro h
          exact absurd h (not_firstPin_nil fun _ => not_pinsOnLines_nil)
      · rw [joined_cons hnil, lineStarts_append hl]
        exact ih hrest hnil
    rw [List.findSome?_cons, firstPin_cons]
    cases hpinned : pinnedHere? (joined (l :: ls)) with
    | some found =>
      have hfound := (hhere found).1 hpinned
      constructor
      · intro h
        exact .inl (Option.some.inj h ▸ hfound)
      · rintro (hword | ⟨hnone, -⟩)
        · rw [PinsOnLines.unique hls hfound hword]
        · exact absurd hfound (hnone found)
    | none =>
      have hnone (other : List Char) : ¬ PinsOnLines (l :: ls) other := by
        intro hother
        rw [(hhere other).2 hother] at hpinned
        cases hpinned
      dsimp only
      rw [hlater]
      constructor
      · exact fun h => .inr ⟨hnone, h⟩
      · rintro (hword | ⟨-, h⟩)
        · exact absurd hword (hnone word)
        · exact h

end Lines

/-! ## 3. Lines that stop before their word -/

/-- A line end that stands behind `l` is in the front part of a text, or behind it. -/
theorem cut_at_lineFeed {rest : List Char} (h : l ++ '\n' :: rest = front ++ back) :
    (∃ more, front = l ++ '\n' :: more ∧ rest = more ++ back) ∨
      ∃ more, l = front ++ more ∧ more ++ '\n' :: rest = back := by
  rcases List.append_eq_append_iff.1 h with ⟨more, hfront, hrest⟩ | ⟨more, hl, hback⟩
  · cases more with
    | nil =>
      rw [List.append_nil] at hfront
      exact .inr ⟨[], by rw [hfront, List.append_nil], hrest⟩
    | cons c more =>
      obtain ⟨rfl, hmore⟩ := List.cons.inj hrest
      exact .inl ⟨more, hfront, hmore⟩
  · exact .inr ⟨more, hl, hback.symm⟩

/-- A text that pins a word with its first line alone, or goes on behind a line that is left open,
or begins with a line of blanks. -/
theorem Pins.first_line {rest : List Char} (h : Pins (l ++ '\n' :: rest) word) :
    Pins l word ∨ LeftOpen l ∨ Pins rest word := by
  generalize hcs : l ++ '\n' :: rest = cs at h
  obtain ⟨hlead, hlabels, hgap, hspace, hsolid, htrail⟩ := h
  -- the end of the line lies in one of the six parts; the label and the word have none
  rcases cut_at_lineFeed hcs with ⟨more, rfl, rfl⟩ | ⟨l₁, rfl, hlabel⟩
  · have hmore : Blank more := fun c hc => hlead c (by simp [hc])
    exact .inr (.inr (.intro hmore hlabels hgap hspace hsolid htrail))
  rcases cut_at_lineFeed hlabel with ⟨more, rfl, -⟩ | ⟨l₂, rfl, hbehind⟩
  · exact absurd (by simp) hlabels.lineFeed_notMem
  rcases cut_at_lineFeed hbehind with ⟨more, rfl, -⟩ | ⟨l₃, rfl, hcolon⟩
  · have hl₂ : Blank l₂ := fun c hc => hgap c (by simp [hc])
    exact .inr (.inl (.label hlead hlabels hl₂))
  cases l₃ with
  | nil => cases (List.cons.inj hcolon).1
  | cons c l₄ =>
    obtain ⟨rfl, hafter⟩ := List.cons.inj hcolon
    rcases cut_at_lineFeed hafter with ⟨more, rfl, -⟩ | ⟨l₅, rfl, hword⟩
    · have hl₄ : Blank l₄ := fun c hc => hspace c (by simp [hc])
      exact .inr (.inl (.colon hlead hlabels hgap hl₄))
    rcases cut_at_lineFeed hword with ⟨more, rfl, -⟩ | ⟨l₆, rfl, rfl⟩
    · have hlineFeed := hsolid.solid '\n' (by simp)
      rw [isBlank_lineFeed] at hlineFeed
      cases hlineFeed
    · have hl₆ : Blank l₆ := fun c hc => htrail c (by simp [hc])
      exact .inl (.intro hlead hlabels hgap hspace hsolid hl₆)

theorem PinsOnLines.first_line (h : PinsOnLines (l :: ls) word) :
    Pins l word ∨ LeftOpen l ∨ PinsOnLines ls word := by
  obtain ⟨run, hrun, hpins⟩ := h
  cases run with
  | nil => exact absurd rfl hpins.nonempty
  | cons first run =>
    obtain ⟨rfl, hbehind⟩ := List.cons_prefix_cons.1 hrun
    by_cases hnil : run = []
    · rw [hnil, joined, List.intercalate_singleton] at hpins
      exact .inl hpins
    · rw [joined_cons hnil] at hpins
      exact hpins.first_line.imp_right (.imp_right fun hrest => ⟨run, hbehind, hrest⟩)

theorem pinsOnLine_cons : PinsOnLine (l :: ls) word ↔ Pins l word := by
  simp [PinsOnLine]

/-- The word that is taken is that of the first line that pins one, or it is found behind a line
that is left open. -/
theorem FirstPin.of_lines (hls : ∀ l ∈ ls, '\n' ∉ l) (h : FirstPin PinsOnLines ls word) :
    FirstPin PinsOnLine ls word ∨
      ∃ i line, ls[i]? = some line ∧ LeftOpen line ∧ PinsOnLines (ls.drop i) word := by
  induction ls with
  | nil => exact absurd h (not_firstPin_nil fun _ => not_pinsOnLines_nil)
  | cons l ls ih =>
    -- a word of the first line is the one that is taken
    by_cases hfirst : ∃ other, Pins l other
    · obtain ⟨other, hother⟩ := hfirst
      have honline : PinsOnLine (l :: ls) other := pinsOnLine_cons.2 hother
      have hword := h.here honline.onLines
      rw [hword.unique hls honline.onLines]
      exact .inl (firstPin_of_pins honline)
    · have hskip (other : List Char) : ¬ PinsOnLine (l :: ls) other :=
        fun hother => hfirst ⟨other, pinsOnLine_cons.1 hother⟩
      have hrest : LeftOpen l ∧ PinsOnLines (l :: ls) word ∨ FirstPin PinsOnLines ls word := by
        rcases firstPin_cons.1 h with hword | ⟨-, hlater⟩
        · rcases hword.first_line with hpins | hopen | hpins
          · exact absurd ⟨word, hpins⟩ hfirst
          · exact .inl ⟨hopen, hword⟩
          · exact .inr (firstPin_of_pins hpins)
        · exact .inr hlater
      rcases hrest with ⟨hopen, hword⟩ | hlater
      · exact .inr ⟨0, l, rfl, hopen, hword⟩
      · rcases ih (List.forall_mem_cons.1 hls).2 hlater with hline | ⟨i, line, hget, hopen, hword⟩
        · exact .inl (firstPin_cons.2 (.inr ⟨hskip, hline⟩))
        · exact .inr ⟨i + 1, line, hget, hopen, hword⟩

/-- Where some line pins a word, some first lines do. -/
theorem FirstPin.exists_lines (h : FirstPin PinsOnLine ls word) :
    ∃ other, FirstPin PinsOnLines ls other := by
  induction ls with
  | nil =>
    refine absurd h (not_firstPin_nil fun word hword => ?_)
    exact not_pinsOnLines_nil hword.onLines
  | cons l ls ih =>
    by_cases hhere : ∃ other, PinsOnLines (l :: ls) other
    · obtain ⟨other, hother⟩ := hhere
      exact ⟨other, firstPin_of_pins hother⟩
    · rcases firstPin_cons.1 h with hword | ⟨-, hlater⟩
      · exact absurd ⟨word, hword.onLines⟩ hhere
      · obtain ⟨other, hother⟩ := ih hlater
        exact ⟨other, firstPin_cons.2 (.inr ⟨fun v hv => hhere ⟨v, hv⟩, hother⟩)⟩

theorem FirstPin.line_unique (h : FirstPin PinsOnLine ls word) (h' : FirstPin PinsOnLine ls other)
    (hls : ∀ l ∈ ls, '\n' ∉ l) : word = other := by
  induction ls with
  | nil =>
    refine absurd h (not_firstPin_nil fun word hword => ?_)
    exact not_pinsOnLines_nil hword.onLines
  | cons l ls ih =>
    rcases firstPin_cons.1 h with hword | ⟨hnone, hlater⟩
    · have hother := h'.here hword
      exact hword.onLines.unique hls hother.onLines
    · rcases firstPin_cons.1 h' with hother | ⟨-, hlater'⟩
      · exact absurd hother (hnone other)
      · exact ih hlater hlater' (List.forall_mem_cons.1 hls).2

/-! ## 4. Notes -/

/-- The lines of notes. -/
def noteLines (notes : String) : List (List Char) := notes.toList.splitOn '\n'

theorem noteLines_clean (notes : String) : ∀ l ∈ noteLines notes, '\n' ∉ l :=
  fun _ hl => lineFeed_notMem_of_mem_splitOn hl

theorem pinnedKey?_eq_some (notes word : String) :
    pinnedKey? notes = some word ↔ FirstPin PinsOnLines (noteLines notes) word.toList := by
  have hne : noteLines notes ≠ [] := List.splitOn_ne_nil '\n' notes.toList
  have hnotes : joined (noteLines notes) = notes.toList := List.intercalate_splitOn '\n'
  rw [← findSome?_lineStarts (noteLines_clean notes) hne, hnotes]
  unfold pinnedKey?
  rw [Option.map_eq_some_iff]
  constructor
  · rintro ⟨cs, hcs, rfl⟩
    rw [hcs, String.toList_ofList]
  · exact fun h => ⟨word.toList, h, String.ofList_toList⟩

/-- Notes pin the word of the first lines in a row that together pin one.  That is the word of the
first line that pins one by itself exactly if those lines pin no other; where they do, one of them
is left open before its word.  Notes in which no line is left open are read line by line. -/
theorem pinned_key_is_read_by_line_iff (notes : String) :
    (∀ word : String, pinnedKey? notes = some word ↔
      FirstPin PinsOnLines (noteLines notes) word.toList) ∧
    ((∀ word : String, pinnedKey? notes = some word ↔
        FirstPin PinsOnLine (noteLines notes) word.toList) ↔
      ∀ word, FirstPin PinsOnLines (noteLines notes) word →
        FirstPin PinsOnLine (noteLines notes) word) ∧
    (∀ word, FirstPin PinsOnLines (noteLines notes) word →
      FirstPin PinsOnLine (noteLines notes) word ∨
        ∃ i line, (noteLines notes)[i]? = some line ∧ LeftOpen line ∧
          PinsOnLines ((noteLines notes).drop i) word) ∧
    ((∀ line ∈ noteLines notes, ¬ LeftOpen line) →
      ∀ word : String, pinnedKey? notes = some word ↔
        FirstPin PinsOnLine (noteLines notes) word.toList) := by
  have hclean := noteLines_clean notes
  have hiff : (∀ word : String, pinnedKey? notes = some word ↔
        FirstPin PinsOnLine (noteLines notes) word.toList) ↔
      ∀ word, FirstPin PinsOnLines (noteLines notes) word →
        FirstPin PinsOnLine (noteLines notes) word := by
    simp only [pinnedKey?_eq_some]
    constructor
    · intro h word hword
      rw [← String.toList_ofList (l := word)] at hword ⊢
      exact (h _).1 hword
    · intro h word
      refine ⟨h _, fun hword => ?_⟩
      -- some lines pin a word, and it can only be this one
      obtain ⟨other, hother⟩ := hword.exists_lines
      rw [hword.line_unique (h other hother) hclean]
      exact hother
  refine ⟨pinnedKey?_eq_some notes, hiff, fun word hword => hword.of_lines hclean, ?_⟩
  intro hclosed
  rw [hiff]
  intro word hword
  rcases hword.of_lines hclean with hline | ⟨i, line, hget, hopen, -⟩
  · exact hline
  · exact absurd hopen (hclosed line (List.mem_of_getElem? hget))

/-- The line with the label has its word, and the other line has no label. -/
theorem pinned_key_is_read_by_line_iff_closed :
    (∀ line ∈ noteLines "tex.foo: bar\nCitation Key: smith2020", ¬ LeftOpen line) ∧
      pinnedKey? "tex.foo: bar\nCitation Key: smith2020" = some "smith2020" := by
  have hlines : noteLines "tex.foo: bar\nCitation Key: smith2020" =
      ["tex.foo: bar".toList, "Citation Key: smith2020".toList] := by decide +kernel
  have hunlabelled : afterLabel? pinLabel (skipBlanks "tex.foo: bar".toList) = none := by
    decide +kernel
  have hopen : ¬ LeftOpen "tex.foo: bar".toList := by
    intro hopen
    obtain ⟨rest, hrest, -⟩ := hopen.afterLabel?
    rw [hunlabelled] at hrest
    cases hrest
  have hpins : Pins "Citation Key: smith2020".toList "smith2020".toList :=
    (pins_iff_of_line (by decide +kernel)).2 (by decide +kernel)
  have hnone (other : List Char) : ¬ Pins "tex.foo: bar".toList other := by
    rw [pins_iff_of_line (by decide +kernel)]
    unfold pinnedHere?
    rw [hunlabelled]
    exact nofun
  have hclosed : ∀ line ∈ noteLines "tex.foo: bar\nCitation Key: smith2020", ¬ LeftOpen line := by
    rw [hlines, List.forall_mem_cons, List.forall_mem_singleton]
    exact ⟨hopen, fun hopen => hopen.not_pins hpins⟩
  obtain ⟨-, -, -, hread⟩ :=
    pinned_key_is_read_by_line_iff "tex.foo: bar\nCitation Key: smith2020"
  refine ⟨hclosed, (hread hclosed "smith2020").2 ?_⟩
  rw [hlines, firstPin_cons]
  refine .inr ⟨fun other hother => hnone other (pinsOnLine_cons.1 hother), ?_⟩
  exact firstPin_of_pins (pinsOnLine_cons.2 hpins)

/-- A label without a word is left open: the key is the word of the next line, though no line pins
one. -/
theorem empty_label_takes_next_line :
    pinnedKey? "Citation Key:\nsmith2020" = some "smith2020" ∧
      ∀ word, ¬ FirstPin PinsOnLine (noteLines "Citation Key:\nsmith2020") word := by
  have hlines : noteLines "Citation Key:\nsmith2020" =
      ["Citation Key:".toList, "smith2020".toList] := by decide +kernel
  have hnone : ∀ line ∈ noteLines "Citation Key:\nsmith2020", pinnedHere? line = none := by
    rw [hlines]
    decide +kernel
  refine ⟨by decide +kernel, ?_⟩
  rintro word ⟨i, ⟨line, hline, hpins⟩, -⟩
  have hmem : line ∈ noteLines "Citation Key:\nsmith2020" :=
    List.mem_of_mem_drop (List.mem_of_mem_head? hline)
  have hword := hpins.pinnedHere?
  rw [hnone line hmem] at hword
  cases hword

end CiteSync.Citation
