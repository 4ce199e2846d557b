import CiteSync.FrontMatter.Directive
import CiteSync.Proofs.Text.Lines
import CiteSync.Proofs.Yaml.EmptyLines
import Mathlib.Data.List.Forall2

/-!
# Blocks with and without fences

An editor may pass the fences of a block along or leave them out.  Between fences a block is read as
it stands; without them it is trimmed first.  So the two readings have the same text exactly if
nothing is trimmed but the end of the last line, and the same directive also if empty lines in front
are.
-/

namespace CiteSync.FrontMatter

open Text

variable {block closing : List Char} {ls ms : List (List Char)}

/-! ## 1. Blocks -/

/-- A block with something in it and no fences around. -/
structure Bare (block : List Char) : Prop where
  filled : filledLines block ≠ []
  opening : (filledLines block).head? ≠ some openingFence
  closing : ∀ line ∈ (filledLines block).getLast?, line ∉ closingFences

/-- A block with its last line ended. -/
def closedOff (block : List Char) : List Char :=
  if block.getLast?.any isLineEnd then block else block ++ ['\n']

/-- A block between an opening and a closing fence, each on a line of its own. -/
def fenced (closing block : List Char) : List Char :=
  openingFence ++ '\n' :: (closedOff block ++ closing)

/-- A block that begins with a character that is not blank and has at most the end of its last line
behind the last such character. -/
def Flush (block : List Char) : Prop :=
  block = trim block ∨ ∃ e, Ends e [] ∧ block = trim block ++ e

/-- A block that is flush from its first filled line on, with empty lines in front.  These may have
spaces in them.  A byte order mark counts as one in front of everything only. -/
def Level (block : List Char) : Prop :=
  ∃ blanks, lines block = blanks ++ lines (trim block) ∧ (∀ l ∈ blanks, ∀ c ∈ l, c = ' ') ∧
    (blanks = [] ∨ (trim block).head? ≠ some Yaml.byteOrderMark)

theorem Bare.ne_nil (h : Bare block) : block ≠ [] := by
  rintro rfl
  exact h.filled rfl

theorem Bare.trim_ne_nil (h : Bare block) : trim block ≠ [] := by
  intro hnil
  apply h.filled
  rw [← filledLines_trim, hnil]
  rfl

/-! ## 2. The block between its fences -/

theorem fence_cases (h : closing ∈ closingFences) :
    closing = ['-', '-', '-'] ∨ closing = ['.', '.', '.'] := by
  simpa [closingFences] using h

theorem unbroken_fence (h : closing ∈ closingFences) : Unbroken closing := by
  intro c hc
  rcases fence_cases h with rfl | rfl
  · obtain rfl : c = '-' := by simpa using hc
    decide
  · obtain rfl : c = '.' := by simpa using hc
    decide

theorem isClosingFence_of_mem (h : closing ∈ closingFences) : isClosingFence closing = true := by
  rcases fence_cases h with rfl | rfl <;> decide

theorem exists_fence_append_singleton (h : closing ∈ closingFences) :
    ∃ init c, closing = init ++ [c] ∧ isBlank c = false := by
  rcases fence_cases h with rfl | rfl
  · exact ⟨['-', '-'], '-', rfl, by decide⟩
  · exact ⟨['.', '.'], '.', rfl, by decide⟩

theorem lines_closedOff (hne : block ≠ []) (h : closing ∈ closingFences) :
    lines (closedOff block ++ closing) = lines block ++ [closing] := by
  have hfence : closing ≠ [] ∧ closing.head? ≠ some '\n' := by
    rcases fence_cases h with rfl | rfl <;> decide
  have hclosing : lines closing = [closing] := lines_last (unbroken_fence h) hfence.1
  unfold closedOff
  split
  next hended =>
    have hended : Ended block := by simpa [Ended, Option.any_eq_true] using hended
    rw [lines_append_of_ended hended hfence.2, hclosing]
  next hopen =>
    have hopen : ¬ Ended block := by simpa [Ended, Option.any_eq_true] using hopen
    have hends : Ends ['\n'] closing := .single (by decide) nofun
    rw [List.append_assoc, lines_append_ends hne hopen hends, hclosing]

theorem dropClosing_append {line : List Char} :
    dropClosing (ls ++ [line]) = if isClosingFence line then ls else ls ++ [line] := by
  unfold dropClosing
  rw [List.getLast?_concat, List.dropLast_concat]

/-- Between fences a block is read as it stands. -/
theorem withoutFences_fenced (hne : block ≠ []) (h : closing ∈ closingFences) :
    withoutFences (fenced closing block) = unlines (lines block) := by
  have hlines : lines (fenced closing block) = openingFence :: (lines block ++ [closing]) := by
    have hends : Ends ['\n'] (closedOff block ++ closing) := .single (by decide) nofun
    have hmore := lines_more (unbroken_fence (.head _)) hends
    rw [lines_closedOff hne h] at hmore
    exact hmore
  have htrim : trim (fenced closing block) = fenced closing block := by
    obtain ⟨init, c, rfl, hc⟩ := exists_fence_append_singleton h
    have hfirst : isBlank '-' = false := by decide
    have hlast : fenced (init ++ [c]) block =
        (openingFence ++ '\n' :: (closedOff block ++ init)) ++ [c] := by
      simp [fenced]
    exact trim_of_filled_ends hfirst hc rfl hlast
  unfold withoutFences
  rw [htrim, hlines]
  show unlines (dropClosing (lines block ++ [closing])) = _
  rw [dropClosing_append, if_pos (isClosingFence_of_mem h)]

/-- Without fences a block is trimmed first. -/
theorem withoutFences_bare (h : Bare block) :
    withoutFences block = unlines (lines (trim block)) := by
  have hopening : dropOpening (lines (trim block)) = lines (trim block) := by
    obtain ⟨c, rest, hhead, hc⟩ := exists_head_trim h.trim_ne_nil
    obtain ⟨l, ls, hlines, hfilled⟩ := head?_filledLines rest hc
    rw [← hhead, filledLines_trim] at hfilled
    rw [hhead, hlines]
    show (if isOpeningFence l then ls else l :: ls) = l :: ls
    rw [if_neg]
    intro hfence
    apply h.opening
    rw [hfilled, beq_iff_eq.1 hfence]
  have hclosing : dropClosing (lines (trim block)) = lines (trim block) := by
    obtain ⟨init, c, hlast, hc⟩ := exists_last_trim h.trim_ne_nil
    obtain ⟨ls, l, hlines, hfilled⟩ := getLast?_filledLines init hc
    rw [← hlast, filledLines_trim] at hfilled
    rw [hlast, hlines, dropClosing_append, if_neg]
    intro hfence
    exact h.closing _ hfilled (List.contains_iff_mem.1 hfence)
  unfold withoutFences
  rw [hopening, hclosing]

/-! ## 3. What is trimmed -/

theorem unlines_eq_intercalate (ls : List (List Char)) : unlines ls = ['\n'].intercalate ls := by
  fun_induction unlines ls with
  | case1 => rfl
  | case2 line => rw [List.intercalate_singleton]
  | case3 line rest hrest ih =>
    rw [ih, List.intercalate_cons_of_ne_nil hrest, List.append_assoc]
    rfl

theorem lineFeed_notMem_of_mem_lines {l cs : List Char} (h : l ∈ lines cs) : '\n' ∉ l := by
  intro hmem
  cases unbroken_of_mem_lines h '\n' hmem

/-- Lines can be read off a text that they were put together to. -/
theorem unlines_lines_inj {cs ds : List Char} (hcs : cs ≠ []) (hds : ds ≠ [])
    (h : unlines (lines cs) = unlines (lines ds)) : lines cs = lines ds := by
  rw [unlines_eq_intercalate, unlines_eq_intercalate] at h
  have hsplit := congrArg (List.splitOn '\n') h
  rwa [List.splitOn_intercalate _ (fun _ => lineFeed_notMem_of_mem_lines) (lines_ne_nil hcs),
    List.splitOn_intercalate _ (fun _ => lineFeed_notMem_of_mem_lines) (lines_ne_nil hds)] at hsplit

/-- A text of nothing but line ends begins with one of them. -/
theorem exists_ends {c : Char} {cs : List Char} (h : ∀ d ∈ c :: cs, isLineEnd d = true) :
    ∃ e rest, c :: cs = e ++ rest ∧ Ends e rest := by
  by_cases hcrlf : c = '\r' ∧ cs.head? = some '\n'
  · obtain ⟨rfl, hhead⟩ := hcrlf
    obtain ⟨rest, rfl⟩ := List.head?_eq_some_iff.1 hhead
    exact ⟨['\r', '\n'], rest, rfl, .crlf rest⟩
  · exact ⟨[c], cs, rfl, .single (h c (.head _)) fun hc hhead => hcrlf ⟨hc, hhead⟩⟩

theorem not_ended_trim (h : trim block ≠ []) : ¬ Ended (trim block) := by
  obtain ⟨init, c, hlast, hc⟩ := exists_last_trim h
  rintro ⟨d, hd, hend⟩
  rw [hlast, List.getLast?_concat] at hd
  cases hd
  rw [isLineEnd_of_not_blank hc] at hend
  cases hend

/-- The blanks in front of a block show in its first line. -/
theorem head?_lines_of_blank {c : Char} (cs : List Char) (hc : isBlank c = true) :
    ∃ l, (lines (c :: cs)).head? = some l ∧ ∀ d ∈ l.head?, isBlank d = true := by
  cases hend : isLineEnd c with
  | false =>
    refine ⟨_, congrArg List.head? (lines_cons hend), ?_⟩
    rintro d hd
    cases hd
    exact hc
  | true =>
    refine ⟨[], ?_, nofun⟩
    by_cases hcrlf : c = '\r' ∧ cs.head? = some '\n'
    · obtain ⟨rfl, hhead⟩ := hcrlf
      obtain ⟨rest, rfl⟩ := List.head?_eq_some_iff.1 hhead
      exact congrArg List.head? (lines_of_ends (.crlf rest))
    · have hends : Ends [c] cs := .single hend fun hc hhead => hcrlf ⟨hc, hhead⟩
      exact congrArg List.head? (lines_of_ends hends)

/-- A block keeps its lines in trimming exactly if it is flush. -/
theorem lines_trim_eq_iff (h : trim block ≠ []) :
    lines (trim block) = lines block ↔ Flush block := by
  constructor
  · intro hlines
    obtain ⟨lead, trail, hsplit, hlead, htrail⟩ := exists_trim block
    obtain ⟨c, rest, hhead, hc⟩ := exists_head_trim h
    cases lead with
    | cons d lead =>
      -- a blank in front would be in the first line
      exfalso
      obtain ⟨l, hl, hblank⟩ := head?_lines_of_blank (lead ++ (trim block ++ trail))
        (hlead d (.head _))
      rw [← List.cons_append, ← hsplit, ← hlines, hhead,
        lines_cons (isLineEnd_of_not_blank hc)] at hl
      cases hl
      rw [hblank c rfl] at hc
      cases hc
    | nil =>
      rw [List.nil_append] at hsplit
      cases trail with
      | nil => exact .inl (hsplit.trans (List.append_nil _))
      | cons d trail =>
        have hends : ∀ e ∈ d :: trail, isLineEnd e = true := by
          have hflat : (trim block).filter (!isLineEnd ·) =
              (trim block ++ d :: trail).filter (!isLineEnd ·) := by
            rw [← flatten_lines, ← flatten_lines, ← hsplit, hlines]
          rw [List.filter_append, List.self_eq_append_right, List.filter_eq_nil_iff] at hflat
          intro e he
          simpa using hflat e he
        obtain ⟨e, rest, hrest, he⟩ := exists_ends hends
        rw [hrest] at hsplit
        have hmore := lines_append_ends h (not_ended_trim h) he
        rw [← hsplit, ← hlines] at hmore
        have hnil : lines rest = [] := List.self_eq_append_right.1 hmore
        have hrest : rest = [] := by
          by_contra hne
          exact lines_ne_nil hne hnil
        subst hrest
        exact .inr ⟨e, he, by rwa [List.append_nil] at hsplit⟩
  · rintro (hsame | ⟨e, he, hsplit⟩)
    · rw [← hsame]
    · have hmore := lines_append_ends h (not_ended_trim h) he
      rw [List.append_nil, ← hsplit] at hmore
      rw [hmore]
      exact (List.append_nil _).symm

/-- With and without fences a block has the same text exactly if it is flush. -/
theorem withoutFences_fenced_eq_iff (h : Bare block) (hclosing : closing ∈ closingFences) :
    withoutFences (fenced closing block) = withoutFences block ↔ Flush block := by
  rw [withoutFences_fenced h.ne_nil hclosing, withoutFences_bare h,
    ← lines_trim_eq_iff h.trim_ne_nil]
  constructor
  · intro hsame
    exact (unlines_lines_inj h.ne_nil h.trim_ne_nil hsame).symm
  · intro hsame
    rw [hsame]

/-! ## 4. Empty lines in front -/

theorem Flush.level (h : trim block ≠ []) (hflush : Flush block) : Level block :=
  ⟨[], ((lines_trim_eq_iff h).2 hflush).symm, nofun, .inl rfl⟩

theorem unlines_cons {l : List Char} (hls : ls ≠ []) :
    unlines (l :: ls) = l ++ '\n' :: unlines ls := by
  cases ls with
  | nil => exact absurd rfl hls
  | cons m ls => rfl

theorem head?_unlines_cons {c : Char} {l : List Char} :
    (unlines ((c :: l) :: ls)).head? = some c := by
  cases ls <;> rfl

/-- Empty lines in front of others leave their value as it is. -/
theorem load_unlines_append {blanks : List (List Char)} (hblanks : ∀ l ∈ blanks, ∀ c ∈ l, c = ' ')
    (hls : ls ≠ []) (hmark : blanks = [] ∨ (unlines ls).head? ≠ some Yaml.byteOrderMark) :
    Yaml.load (unlines (blanks ++ ls)) = Yaml.load (unlines ls) := by
  induction blanks with
  | nil => rfl
  | cons l blanks ih =>
    replace hmark : (unlines ls).head? ≠ some Yaml.byteOrderMark :=
      hmark.resolve_left (List.cons_ne_nil _ _)
    obtain ⟨hl, hmore⟩ := List.forall_mem_cons.1 hblanks
    have hrest (ms : List (List Char)) : ms ++ ls ≠ [] := List.append_ne_nil_of_right_ne_nil ms hls
    have hhead : (unlines (blanks ++ ls)).head? ≠ some Yaml.byteOrderMark := by
      cases blanks with
      | nil => exact hmark
      | cons m blanks =>
        rw [List.cons_append, unlines_cons (hrest blanks)]
        exact Yaml.head?_emptyLine (hmore m (.head _))
    rw [List.cons_append, unlines_cons (hrest blanks), Yaml.load_emptyLine hl hhead]
    exact ih hmore (.inr hmark)

/-! ## 5. The directive -/

/-- The directive of a level block is the same with and without fences. -/
theorem directive?_fenced (h : Bare block) (hclosing : closing ∈ closingFences)
    (hlevel : Level block) :
    directive? (String.ofList (fenced closing block)) = directive? (String.ofList block) := by
  obtain ⟨blanks, hlines, hblanks, hmark⟩ := hlevel
  obtain ⟨c, rest, hhead, hc⟩ := exists_head_trim h.trim_ne_nil
  have hload : Yaml.load (unlines (lines block)) = Yaml.load (unlines (lines (trim block))) := by
    rw [hlines]
    apply load_unlines_append hblanks (lines_ne_nil h.trim_ne_nil)
    rw [hhead] at hmark ⊢
    rw [lines_cons (isLineEnd_of_not_blank hc), head?_unlines_cons]
    exact hmark
  unfold directive?
  rw [String.toList_ofList, String.toList_ofList, withoutFences_fenced h.ne_nil hclosing,
    withoutFences_bare h, hload]

/-- Documents whose blocks have the same directives ask for the same part of the library. -/
theorem scope_congr {as bs : List String}
    (h : List.Forall₂ (fun a b => directive? a = directive? b) as bs) : scope as = scope bs := by
  have hfound : as.mapM directive? = bs.mapM directive? := by
    induction h with
    | nil => rfl
    | cons hab _ ih => rw [List.mapM_cons, List.mapM_cons, hab, ih]
  unfold scope
  rw [hfound]

/-- Blocks with fences around each, which may end differently. -/
def fencedTexts (blocks : List (List Char × List Char)) : List String :=
  blocks.map fun b => String.ofList (fenced b.2 b.1)

/-- The blocks themselves. -/
def bareTexts (blocks : List (List Char × List Char)) : List String :=
  blocks.map fun b => String.ofList b.1

/-- Fences around blocks change nothing in the text of exactly those that are flush, and nothing in
the directive of these and of those that are level; where all are, the document asks for the same
part of the library. -/
theorem fences_change_nothing_iff {blocks : List (List Char × List Char)}
    (h : ∀ b ∈ blocks, Bare b.1 ∧ b.2 ∈ closingFences) :
    (∀ b ∈ blocks, withoutFences (fenced b.2 b.1) = withoutFences b.1 ↔ Flush b.1) ∧
    (∀ b ∈ blocks, Flush b.1 → Level b.1) ∧
    (∀ b ∈ blocks, Level b.1 →
      directive? (String.ofList (fenced b.2 b.1)) = directive? (String.ofList b.1)) ∧
    ((∀ b ∈ blocks, Level b.1) → scope (fencedTexts blocks) = scope (bareTexts blocks)) := by
  have hdirective : ∀ b ∈ blocks, Level b.1 →
      directive? (String.ofList (fenced b.2 b.1)) = directive? (String.ofList b.1) :=
    fun b hb hlevel => directive?_fenced (h b hb).1 (h b hb).2 hlevel
  refine ⟨fun b hb => withoutFences_fenced_eq_iff (h b hb).1 (h b hb).2,
    fun b hb => Flush.level (h b hb).1.trim_ne_nil, hdirective, ?_⟩
  intro hlevel
  apply scope_congr
  unfold fencedTexts bareTexts
  rw [List.forall₂_map_left_iff, List.forall₂_map_right_iff, List.forall₂_same]
  intro b hb
  rw [hdirective b hb (hlevel b hb)]

/-- A block that names a collection, set off by an empty line. -/
def thesisBlock : List Char := "  \ntitle: Paper\nzotero: Thesis\n".toList

/-- A block that switches the library off, indented as a whole. -/
def indentedBlock : List Char := "  title: Paper\n  zotero: false".toList

/-- The fences of a block that is not indented make no difference. -/
theorem fences_change_nothing_iff_thesis :
    (∀ b ∈ [(thesisBlock, "...".toList)], Bare b.1 ∧ b.2 ∈ closingFences) ∧
      scope (fencedTexts [(thesisBlock, "...".toList)]) =
        scope (bareTexts [(thesisBlock, "...".toList)]) := by
  have hbare : Bare thesisBlock := ⟨by decide, by decide, by decide⟩
  have hlevel : Level thesisBlock := ⟨[[' ', ' ']], by decide, by simp, .inr (by decide)⟩
  have hblocks : ∀ b ∈ [(thesisBlock, "...".toList)], Bare b.1 ∧ b.2 ∈ closingFences := by
    rw [List.forall_mem_singleton]
    exact ⟨hbare, by decide⟩
  obtain ⟨-, -, -, hscope⟩ := fences_change_nothing_iff hblocks
  exact ⟨hblocks, hscope (List.forall_mem_singleton.2 hlevel)⟩

/-- Without its fences an indented block loses the indentation of its first line alone, and with it
the directive. -/
theorem indented_block_needs_fences :
    Bare indentedBlock ∧ "---".toList ∈ closingFences ∧
      (directive? (String.ofList (fenced "---".toList indentedBlock))).map Option.isSome =
        .ok true ∧
      (directive? (String.ofList indentedBlock)).map Option.isSome = .ok false ∧
      scope (fencedTexts [(indentedBlock, "---".toList)]) = .ok .nothing ∧
      scope (bareTexts [(indentedBlock, "---".toList)]) = .ok .all :=
  ⟨⟨by decide, by decide, by decide⟩, by decide, by decide +kernel, by decide +kernel,
    by decide +kernel, by decide +kernel⟩

end CiteSync.FrontMatter
