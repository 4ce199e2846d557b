import CiteSync.Text.Blank
import Mathlib.Data.List.Basic
import Mathlib.Data.List.DropRight
import Mathlib.Data.List.Induction
import Mathlib.Data.List.TakeWhile

/-!
# Lines and blanks

A text is a line, or a line with its end and a text behind it; what holds of lines follows from
this.  The lines of a text do not depend on whether the last of them is ended, and the lines that
are filled do not depend on the blanks around the text.
-/

namespace CiteSync.Text

/-! ## 1. Line after line -/

/-- A text with no line end in it. -/
def Unbroken (l : List Char) : Prop := ∀ c ∈ l, isLineEnd c = false

/-- The end of a line in front of `rest`: a carriage return takes a line feed along. -/
inductive Ends : List Char → List Char → Prop
  | crlf (rest : List Char) : Ends ['\r', '\n'] rest
  | single {c : Char} {rest : List Char} (lineEnd : isLineEnd c = true)
    (alone : c = '\r' → rest.head? ≠ some '\n') : Ends [c] rest

variable {c : Char} {cs ds ds' e l rest : List Char}

/-- The end of a line stays one when it is only the text behind its neighbour that changes. -/
theorem Ends.congr (h : Ends e cs) (hhead : ds.head? = some '\n' → cs.head? = some '\n') :
    Ends e ds := by
  cases h with
  | crlf => exact .crlf ds
  | single lineEnd alone => exact .single lineEnd fun hc hds => alone hc (hhead hds)

theorem Ends.append (h : Ends e cs) (hcs : cs ≠ []) : Ends e (cs ++ ds) := by
  apply h.congr
  rw [List.head?_append_of_ne_nil cs hcs]
  exact id

theorem lines_of_ends (h : Ends e rest) : lines (e ++ rest) = [] :: lines rest := by
  cases h with
  | crlf => rfl
  | single lineEnd alone =>
    rw [List.singleton_append, lines]
    · rw [if_pos lineEnd]
    · rintro more rfl rfl
      exact alone rfl rfl

theorem lines_cons (hc : isLineEnd c = false) :
    lines (c :: cs) = (c :: (lines cs).headD []) :: (lines cs).tail := by
  rw [lines]
  · rw [if_neg (by simp [hc])]
    cases lines cs <;> rfl
  · rintro more rfl
    cases hc

theorem lines_last (h : Unbroken l) (hne : l ≠ []) : lines l = [l] := by
  induction l with
  | nil => exact absurd rfl hne
  | cons c l ih =>
    obtain ⟨hc, hl⟩ := List.forall_mem_cons.1 h
    rw [lines_cons hc]
    by_cases hnil : l = []
    · rw [hnil]
      rfl
    · rw [ih hl hnil]
      rfl

theorem lines_more (h : Unbroken l) (he : Ends e rest) :
    lines (l ++ (e ++ rest)) = l :: lines rest := by
  induction l with
  | nil => exact lines_of_ends he
  | cons c l ih =>
    obtain ⟨hc, hl⟩ := List.forall_mem_cons.1 h
    rw [List.cons_append, lines_cons hc, ih hl]
    rfl

/-- A text is empty, or one line, or a line with its end and a text behind it. -/
theorem lines_induction {motive : List Char → Prop} (nil : motive [])
    (last : ∀ l, l ≠ [] → Unbroken l → motive l)
    (more : ∀ l e rest, Unbroken l → Ends e rest → motive rest → motive (l ++ (e ++ rest))) :
    ∀ cs, motive cs := by
  intro cs
  -- on the length, since what is left starts behind the line and its end
  induction hlength : cs.length using Nat.strong_induction_on generalizing cs with
  | _ n ih =>
    subst hlength
    rcases hdrop : cs.dropWhile (!isLineEnd ·) with _ | ⟨c, rest⟩
    · by_cases hcs : cs = []
      · rw [hcs]
        exact nil
      · refine last cs hcs fun c hc => ?_
        simpa using List.dropWhile_eq_nil_iff.1 hdrop c hc
    · have hsplit : cs = cs.takeWhile (!isLineEnd ·) ++ c :: rest := by
        rw [← hdrop, List.takeWhile_append_dropWhile]
      have hline : Unbroken (cs.takeWhile (!isLineEnd ·)) := fun d hd => by
        simpa using List.mem_takeWhile_imp hd
      have hc : isLineEnd c = true := by
        have hnot := List.head?_dropWhile_not (!isLineEnd ·) cs
        rw [hdrop] at hnot
        simpa using hnot
      have hrest : rest.length < cs.length := by
        rw [hsplit, List.length_append, List.length_cons]
        omega
      rw [hsplit]
      by_cases hcrlf : c = '\r' ∧ rest.head? = some '\n'
      · obtain ⟨rfl, hhead⟩ := hcrlf
        obtain ⟨rest, rfl⟩ := List.head?_eq_some_iff.1 hhead
        rw [List.length_cons] at hrest
        exact more _ ['\r', '\n'] rest hline (.crlf rest) (ih _ (by omega) rest rfl)
      · exact more _ [c] rest hline (.single hc fun h h' => hcrlf ⟨h, h'⟩) (ih _ hrest rest rfl)

/-! ## 2. Texts put together -/

theorem lines_ne_nil (h : cs ≠ []) : lines cs ≠ [] := by
  induction cs using lines_induction with
  | nil => exact absurd rfl h
  | last l hne hl =>
    rw [lines_last hl hne]
    exact List.cons_ne_nil _ _
  | more l e rest hl he _ =>
    rw [lines_more hl he]
    exact List.cons_ne_nil _ _

/-- A text that ends with a line end. -/
def Ended (cs : List Char) : Prop := ∃ c ∈ cs.getLast?, isLineEnd c = true

/-- A text behind an ended one begins a line, unless it begins in the middle of a line end. -/
theorem lines_append_of_ended (h : Ended cs) (hds : ds.head? ≠ some '\n') :
    lines (cs ++ ds) = lines cs ++ lines ds := by
  obtain ⟨last, hlast, hend⟩ := h
  induction cs using lines_induction with
  | nil => cases hlast
  | last l hne hl =>
    have hnot := hl last (List.mem_of_mem_getLast? hlast)
    rw [hend] at hnot
    cases hnot
  | more l e rest hl he ih =>
    by_cases hrest : rest = []
    · subst hrest
      have hends : Ends e ds := he.congr fun h => absurd h hds
      rw [List.append_nil, List.append_assoc, lines_more hl hends, ← List.append_nil e,
        lines_more hl he]
      rfl
    · rw [← List.append_assoc, List.getLast?_append_of_ne_nil _ hrest] at hlast
      rw [List.append_assoc, List.append_assoc, lines_more hl (he.append hrest), lines_more hl he,
        ih hlast]
      rfl

/-- A line end behind a text that is not ended only ends its last line. -/
theorem lines_append_ends (hne : cs ≠ []) (h : ¬ Ended cs) (hends : Ends e ds) :
    lines (cs ++ (e ++ ds)) = lines cs ++ lines ds := by
  induction cs using lines_induction with
  | nil => exact absurd rfl hne
  | last l hne hl =>
    rw [lines_more hl hends, lines_last hl hne]
    rfl
  | more l e' rest hl he ih =>
    have hrest : rest ≠ [] := by
      rintro rfl
      apply h
      rw [List.append_nil]
      cases he with
      | crlf => exact ⟨'\n', by simp, by decide⟩
      | single lineEnd _ => exact ⟨_, by simp, lineEnd⟩
    -- the whole text ends as its last lines do
    have hended : ¬ Ended rest := by
      rintro ⟨last, hlast, hend⟩
      apply h
      refine ⟨last, ?_, hend⟩
      rw [← List.append_assoc, List.getLast?_append_of_ne_nil _ hrest]
      exact hlast
    rw [List.append_assoc, List.append_assoc, lines_more hl (he.append hrest), lines_more hl he,
      ih hrest hended]
    rfl

/-- The last line ends with what the text ends with, if that is no line end. -/
theorem exists_lines_append_singleton (cs : List Char) (hc : isLineEnd c = false) :
    ∃ init l, lines (cs ++ [c]) = init ++ [l ++ [c]] := by
  induction cs using lines_induction with
  | nil => exact ⟨[], [], by rw [List.nil_append, lines_cons hc]; rfl⟩
  | last l hne hl =>
    have hline : Unbroken (l ++ [c]) := by
      intro d hd
      rcases List.mem_append.1 hd with hd | hd
      · exact hl d hd
      · rw [List.mem_singleton.1 hd]
        exact hc
    exact ⟨[], l, lines_last hline (by simp)⟩
  | more l e rest hl he ih =>
    obtain ⟨init, last, hlines⟩ := ih
    have hends : Ends e (rest ++ [c]) := by
      apply he.congr
      cases rest with
      | nil =>
        rintro hhead
        cases hhead
        cases hc
      | cons d rest => exact id
    refine ⟨l :: init, last, ?_⟩
    rw [List.append_assoc, List.append_assoc, lines_more hl hends, hlines]
    rfl

theorem unbroken_of_mem_lines (h : l ∈ lines cs) : Unbroken l := by
  induction cs using lines_induction with
  | nil => cases h
  | last l' hne hl =>
    rw [lines_last hl hne, List.mem_singleton] at h
    rw [h]
    exact hl
  | more l' e rest hl he ih =>
    rw [lines_more hl he] at h
    rcases List.mem_cons.1 h with rfl | h
    · exact hl
    · exact ih h

/-- The lines have all characters of a text but its line ends. -/
theorem flatten_lines (cs : List Char) : (lines cs).flatten = cs.filter (!isLineEnd ·) := by
  induction cs using lines_induction with
  | nil => rfl
  | last l hne hl =>
    rw [lines_last hl hne, List.flatten_singleton,
      List.filter_eq_self.2 fun c hc => by simp [hl c hc]]
  | more l e rest hl he ih =>
    have hends : e.filter (!isLineEnd ·) = [] := by
      cases he with
      | crlf => rfl
      | single lineEnd _ => simp [lineEnd]
    have hline : l.filter (!isLineEnd ·) = l := List.filter_eq_self.2 fun c hc => by simp [hl c hc]
    rw [lines_more hl he, List.flatten_cons, ih, List.filter_append, List.filter_append, hends,
      hline]
    rfl

/-! ## 3. Trimming -/

theorem dropEnd_eq_rdropWhile (p : Char → Bool) : dropEnd p cs = cs.rdropWhile p := rfl

theorem trim_cons (hc : isBlank c = true) : trim (c :: cs) = trim cs := by
  unfold trim trimBy
  rw [List.dropWhile_cons_of_pos hc]

theorem trim_append_singleton (hc : isBlank c = true) : trim (cs ++ [c]) = trim cs := by
  unfold trim trimBy
  rw [List.dropWhile_append]
  split
  next hall =>
    rw [List.isEmpty_iff.1 hall, List.dropWhile_cons_of_pos hc]
    rfl
  next => rw [dropEnd_eq_rdropWhile, List.rdropWhile_concat_pos _ _ _ hc, dropEnd_eq_rdropWhile]

theorem trim_eq_nil_iff : trim cs = [] ↔ ∀ c ∈ cs, isBlank c = true := by
  unfold trim trimBy
  rw [dropEnd_eq_rdropWhile, List.rdropWhile_eq_nil_iff]
  constructor
  · intro h
    rw [← List.dropWhile_eq_nil_iff]
    by_contra hne
    have hhead := List.head_dropWhile_not isBlank hne
    rw [h _ (List.head_mem hne)] at hhead
    cases hhead
  · exact fun h c hc => h c ((List.dropWhile_sublist isBlank).subset hc)

/-- A text is what is left of it by trimming, and blanks around that. -/
theorem exists_trim (cs : List Char) :
    ∃ lead trail, cs = lead ++ (trim cs ++ trail) ∧ (∀ c ∈ lead, isBlank c = true) ∧
      ∀ c ∈ trail, isBlank c = true := by
  refine ⟨cs.takeWhile isBlank, (cs.dropWhile isBlank).rtakeWhile isBlank, ?_,
    fun c hc => List.mem_takeWhile_imp hc, fun c hc => List.mem_rtakeWhile_imp hc⟩
  unfold trim trimBy
  rw [dropEnd_eq_rdropWhile, List.rdropWhile_append_rtakeWhile, List.takeWhile_append_dropWhile]

theorem exists_head_trim (h : trim cs ≠ []) :
    ∃ c rest, trim cs = c :: rest ∧ isBlank c = false := by
  have hdrop : cs.dropWhile isBlank ≠ [] := by
    intro hnil
    rw [List.dropWhile_eq_nil_iff, ← trim_eq_nil_iff] at hnil
    exact h hnil
  obtain ⟨c, rest, htrim⟩ := List.exists_cons_of_ne_nil h
  refine ⟨c, rest, htrim, ?_⟩
  obtain ⟨more, hmore⟩ := List.rdropWhile_prefix isBlank (cs.dropWhile isBlank)
  have hhead : (cs.dropWhile isBlank).head? = some c := by
    rw [← hmore]
    exact congrArg (List.head? <| · ++ more) htrim
  have hblank := List.head_dropWhile_not isBlank hdrop
  rwa [(List.head_eq_iff_head?_eq_some hdrop).2 hhead] at hblank

theorem exists_last_trim (h : trim cs ≠ []) :
    ∃ init c, trim cs = init ++ [c] ∧ isBlank c = false := by
  refine ⟨_, _, (List.dropLast_append_getLast h).symm, ?_⟩
  exact Bool.eq_false_iff.2 (List.rdropWhile_last_not isBlank (cs.dropWhile isBlank) h)

/-- Nothing is trimmed where a text begins and ends with something that is not blank. -/
theorem trim_of_filled_ends {first last : Char} (hfirst : isBlank first = false)
    (hlast : isBlank last = false) (hcs : cs = first :: ds) (hcs' : cs = ds' ++ [last]) :
    trim cs = cs := by
  unfold trim trimBy
  rw [hcs, List.dropWhile_cons_of_neg (by simp [hfirst]), ← hcs, hcs', dropEnd_eq_rdropWhile,
    List.rdropWhile_concat_neg _ _ _ (by simp [hlast])]

/-! ## 4. Filled lines -/

/-- The lines that are not blank, without the blanks around them. -/
def filledLines (cs : List Char) : List (List Char) := ((lines cs).map trim).filter (· ≠ [])

theorem filledLines_eq {ls : List (List Char)} (h : lines cs = l :: ls) :
    filledLines cs = (if trim l = [] then [] else [trim l]) ++ (ls.map trim).filter (· ≠ []) := by
  unfold filledLines
  rw [h, List.map_cons, List.filter_cons]
  by_cases hl : trim l = []
  · simp [hl]
  · simp [hl]

theorem filledLines_more (hl : Unbroken l) (he : Ends e rest) :
    filledLines (l ++ (e ++ rest)) = (if trim l = [] then [] else [trim l]) ++ filledLines rest :=
  filledLines_eq (lines_more hl he)

theorem filledLines_of_ends (h : Ends e rest) : filledLines (e ++ rest) = filledLines rest :=
  filledLines_eq (lines_of_ends h)

theorem filledLines_cons (hc : isBlank c = true) : filledLines (c :: cs) = filledLines cs := by
  cases hend : isLineEnd c with
  | false =>
    rw [filledLines_eq (lines_cons hend), trim_cons hc]
    cases hcs : lines cs with
    | nil =>
      unfold filledLines
      rw [hcs]
      rfl
    | cons l ls => rw [filledLines_eq hcs, List.headD_cons, List.tail_cons]
  | true =>
    by_cases hcrlf : c = '\r' ∧ cs.head? = some '\n'
    · obtain ⟨rfl, hhead⟩ := hcrlf
      obtain ⟨rest, rfl⟩ := List.head?_eq_some_iff.1 hhead
      have hends : Ends ['\n'] rest := .single (by decide) nofun
      have hline : filledLines ('\n' :: rest) = filledLines rest := filledLines_of_ends hends
      rw [hline]
      exact filledLines_of_ends (.crlf rest)
    · exact filledLines_of_ends (.single hend fun h h' => hcrlf ⟨h, h'⟩)

theorem filledLines_append_singleton (hc : isBlank c = true) :
    filledLines (cs ++ [c]) = filledLines cs := by
  induction cs using lines_induction with
  | nil => exact filledLines_cons hc
  | last l hne hl =>
    cases hend : isLineEnd c with
    | false =>
      have hline : Unbroken (l ++ [c]) := by
        intro d hd
        rcases List.mem_append.1 hd with hd | hd
        · exact hl d hd
        · rw [List.mem_singleton.1 hd]
          exact hend
      rw [filledLines_eq (lines_last hline (by simp)), filledLines_eq (lines_last hl hne),
        trim_append_singleton hc]
    | true =>
      have hends : Ends [c] [] := .single hend nofun
      have hended : filledLines (l ++ [c]) = _ := filledLines_more hl hends
      rw [hended, filledLines_eq (lines_last hl hne)]
      rfl
  | more l e rest hl he ih =>
    rw [List.append_assoc, List.append_assoc, filledLines_more hl he]
    -- a line feed that completes the last line end makes no line
    by_cases hcrlf : e = ['\r'] ∧ rest = [] ∧ c = '\n'
    · obtain ⟨rfl, rfl, rfl⟩ := hcrlf
      have hended : filledLines (l ++ (['\r', '\n'] ++ [])) = _ :=
        filledLines_more hl (.crlf [])
      exact hended
    · have hends : Ends e (rest ++ [c]) := by
        cases he with
        | crlf => exact .crlf _
        | single lineEnd alone =>
          refine .single lineEnd fun hcr hhead => ?_
          cases rest with
          | nil => exact hcrlf ⟨by rw [hcr], rfl, Option.some.inj hhead⟩
          | cons d rest => exact alone hcr hhead
      rw [filledLines_more hl hends, ih]

theorem filledLines_dropWhile : filledLines (cs.dropWhile isBlank) = filledLines cs := by
  induction cs with
  | nil => rfl
  | cons c cs ih =>
    rw [List.dropWhile_cons]
    split
    next hc => rw [ih, filledLines_cons hc]
    next => rfl

theorem filledLines_dropEnd : filledLines (dropEnd isBlank cs) = filledLines cs := by
  induction cs using List.reverseRecOn with
  | nil => rfl
  | append_singleton cs c ih =>
    rw [dropEnd_eq_rdropWhile, List.rdropWhile_concat]
    split
    next hc => exact ih.trans (filledLines_append_singleton hc).symm
    next => rfl

theorem filledLines_trim : filledLines (trim cs) = filledLines cs := by
  unfold trim trimBy
  rw [filledLines_dropEnd, filledLines_dropWhile]

theorem isLineEnd_of_not_blank (hc : isBlank c = false) : isLineEnd c = false := by
  by_contra hend
  rw [Bool.not_eq_false] at hend
  rw [isBlank_of_isLineEnd hend] at hc
  cases hc

theorem trim_ne_nil (hc : isBlank c = false) (hmem : c ∈ l) : trim l ≠ [] := by
  intro hnil
  rw [trim_eq_nil_iff.1 hnil c hmem] at hc
  cases hc

theorem head?_filledLines (cs : List Char) (hc : isBlank c = false) :
    ∃ l ls, lines (c :: cs) = l :: ls ∧ (filledLines (c :: cs)).head? = some (trim l) := by
  have hlines : lines (c :: cs) = _ := lines_cons (isLineEnd_of_not_blank hc)
  refine ⟨_, _, hlines, ?_⟩
  rw [filledLines_eq hlines, if_neg (trim_ne_nil hc (.head _))]
  rfl

theorem getLast?_filledLines (cs : List Char) (hc : isBlank c = false) :
    ∃ ls l, lines (cs ++ [c]) = ls ++ [l] ∧ (filledLines (cs ++ [c])).getLast? = some (trim l) := by
  obtain ⟨ls, l, hlines⟩ := exists_lines_append_singleton cs (isLineEnd_of_not_blank hc)
  have hfilled : trim (l ++ [c]) ≠ [] := trim_ne_nil hc (by simp)
  refine ⟨ls, l ++ [c], hlines, ?_⟩
  unfold filledLines
  rw [hlines, List.map_append, List.filter_append]
  simp [hfilled]

end CiteSync.Text
