import CiteSync.Citation.Context
import CiteSync.Proofs.Lists
import CiteSync.Proofs.Text.Pattern

/-!
# The grammar of citations

Which texts end in a citation, told without a search: the last at sign has nothing but characters of
a key behind it, and what is before it, or before the minus that belongs to it, ends in a character
that a citation can follow.  The search for a citation finds just these, although it begins at the
last line, may leave the minus out and may stop before a line feed.
-/

namespace CiteSync.Citation

open Text

/-! ## 1. Characters -/

theorem isTokenChar_at : isTokenChar '@' = false := by decide

theorem isTokenChar_lineFeed : isTokenChar '\n' = false := by decide

theorem isOpening_minus : isOpening '-' = false := by decide

theorem isOpening_lineFeed : isOpening '\n' = true := by decide

/-! ## 2. Texts that end in a citation -/

/-- What stands before an at sign, without the minus that belongs to the sign. -/
def unsigned (before : List Char) : List Char :=
  if before.getLast? = some '-' then before.dropLast else before

/-- Whether a citation can follow a text. -/
def Opens (before : List Char) : Prop := ∀ c, before.getLast? = some c → isOpening c = true

/-- A text that ends in a citation: what stands before the at sign, and the key behind it. -/
structure Reads (cs before token : List Char) : Prop where
  split : cs = before ++ '@' :: token
  key : ∀ c ∈ token, isTokenChar c = true
  opens : Opens (unsigned before)

variable {cs before token : List Char}

theorem at_notMem (h : ∀ c ∈ token, isTokenChar c = true) : '@' ∉ token := fun hat => by
  have hkey := h '@' hat
  rw [isTokenChar_at] at hkey
  cases hkey

theorem lineFeed_notMem (h : ∀ c ∈ token, isTokenChar c = true) : '\n' ∉ token := fun hat => by
  have hkey := h '\n' hat
  rw [isTokenChar_lineFeed] at hkey
  cases hkey

theorem Reads.unique (h : Reads cs before token) {before' token' : List Char}
    (h' : Reads cs before' token') : before = before' ∧ token = token' :=
  last_cut_unique (at_notMem h.key) (at_notMem h'.key) (h.split.symm.trans h'.split)

theorem unsigned_append_minus : unsigned (before ++ ['-']) = before := by
  simp [unsigned]

theorem unsigned_of_opens (h : Opens before) : unsigned before = before := by
  unfold unsigned
  split
  next hminus =>
    have hopens := h '-' hminus
    rw [isOpening_minus] at hopens
    cases hopens
  next => rfl

/-- What stands before an at sign is what a citation can follow, and at most a minus. -/
theorem unsigned_cases (before : List Char) :
    before = unsigned before ∨ before = unsigned before ++ ['-'] := by
  unfold unsigned
  split
  next hminus => exact .inr (List.dropLast_append_getLast? '-' hminus).symm
  next => exact .inl rfl

/-! ## 3. One match -/

/-- How the pattern of a citation matches at a position of a text. -/
structure Matches (pos : Nat) (rest opening sign token tail : List Char) : Prop where
  split : rest = opening ++ (sign ++ '@' :: (token ++ tail))
  opening : opening = [] ∧ pos = 0 ∨ ∃ c, opening = [c] ∧ isOpening c = true
  sign : sign = [] ∨ sign = ['-']
  key : ∀ c ∈ token, isTokenChar c = true
  tail : tail = [] ∨ tail = ['\n']

variable {here reached : Pattern.Place}

theorem mem_ends_opening :
    reached ∈ (Pattern.either .start (.one isOpening)).ends here ↔
      ∃ opening rest, here.rest = opening ++ rest ∧
        (opening = [] ∧ here.pos = 0 ∨ ∃ c, opening = [c] ∧ isOpening c = true) ∧
        reached = ⟨here.pos + opening.length, rest, here.group⟩ := by
  simp only [Pattern.mem_ends_either, Pattern.mem_ends_start, Pattern.mem_ends_one]
  constructor
  · rintro (⟨hpos, rfl⟩ | ⟨c, rest, hrest, hopen, rfl⟩)
    · exact ⟨[], reached.rest, rfl, .inl ⟨rfl, hpos⟩, rfl⟩
    · exact ⟨[c], rest, hrest, .inr ⟨c, rfl, hopen⟩, rfl⟩
  · rintro ⟨opening, rest, hrest, ⟨rfl, hpos⟩ | ⟨c, rfl, hopen⟩, rfl⟩
    · subst hrest
      exact .inl ⟨hpos, rfl⟩
    · exact .inr ⟨c, rest, hrest, hopen, rfl⟩

theorem mem_ends_sign :
    reached ∈ (Pattern.optional (.one (· == '-'))).ends here ↔
      ∃ sign rest, here.rest = sign ++ rest ∧ (sign = [] ∨ sign = ['-']) ∧
        reached = ⟨here.pos + sign.length, rest, here.group⟩ := by
  simp only [Pattern.mem_ends_optional, Pattern.mem_ends_one, beq_iff_eq]
  constructor
  · rintro (⟨c, rest, hrest, rfl, rfl⟩ | rfl)
    · exact ⟨['-'], rest, hrest, .inr rfl, rfl⟩
    · exact ⟨[], reached.rest, rfl, .inl rfl, rfl⟩
  · rintro ⟨sign, rest, hrest, rfl | rfl, rfl⟩
    · subst hrest
      exact .inr rfl
    · exact .inl ⟨'-', rest, hrest, rfl, rfl⟩

theorem mem_ends_citation {pos : Nat} {rest : List Char} :
    reached ∈ citation.ends ⟨pos, rest, none⟩ ↔
      ∃ opening sign token tail, Matches pos rest opening sign token tail ∧
        reached = ⟨pos + opening.length + sign.length + 1 + token.length, tail,
          some (pos + opening.length + sign.length + 1, token)⟩ := by
  have hgroup : ∀ n m : Nat, ∀ token tail : List Char, m = n + token.length →
      (token ++ tail).take (m - n) = token := by
    rintro n m token tail rfl
    rw [Nat.add_sub_cancel_left, List.take_left]
  unfold citation
  rw [Pattern.mem_ends_both]
  simp only [mem_ends_opening, Pattern.mem_ends_both, mem_ends_sign, Pattern.mem_ends_one,
    Pattern.mem_ends_group, Pattern.mem_ends_many, Pattern.mem_ends_stop, beq_iff_eq]
  constructor
  · rintro ⟨_, ⟨opening, _, hrest, hopening, rfl⟩, _, ⟨sign, _, rfl, hsign, rfl⟩, _,
      ⟨_, _, rfl, rfl, rfl⟩, _, ⟨_, ⟨token, tail, rfl, hkey, rfl⟩, rfl⟩, htail, rfl⟩
    refine ⟨opening, sign, token, tail, ⟨hrest, hopening, hsign, hkey, htail⟩, ?_⟩
    rw [hgroup _ _ token tail rfl]
  · rintro ⟨opening, sign, token, tail, ⟨hrest, hopening, hsign, hkey, htail⟩, rfl⟩
    refine ⟨_, ⟨opening, _, hrest, hopening, rfl⟩, _, ⟨sign, _, rfl, hsign, rfl⟩, _,
      ⟨_, _, rfl, rfl, rfl⟩, _, ⟨_, ⟨token, tail, rfl, hkey, rfl⟩, rfl⟩, htail, ?_⟩
    rw [hgroup _ _ token tail rfl]

/-! ## 4. The last line -/

theorem lineStart_of_notMem (h : '\n' ∉ cs) : lineStart cs = 0 := by
  unfold lineStart
  rw [List.idxOf?_eq_none_iff.2 fun hmem => h (List.mem_reverse.1 hmem)]

theorem lineStart_of_lineFeed {earlier line : List Char} (h : '\n' ∉ line) :
    lineStart (earlier ++ '\n' :: line) = earlier.length := by
  have hback : (earlier ++ '\n' :: line).reverse = line.reverse ++ '\n' :: earlier.reverse := by
    simp
  have hfound : (earlier ++ '\n' :: line).reverse.idxOf? '\n' = some line.length := by
    rw [hback, List.idxOf?_eq_some_iff]
    refine ⟨by simp, by simp, fun j hj heq => h ?_⟩
    have hmem := List.getElem_mem (l := line.reverse) (n := j) (by simpa using hj)
    rw [List.getElem_append_left (by simpa using hj)] at heq
    exact List.mem_reverse.1 (heq ▸ hmem)
  unfold lineStart
  rw [hfound]
  simp only [List.length_append, List.length_cons]
  omega

/-- A text has one line, or its last line stands behind its last line feed. -/
theorem lines_cases (cs : List Char) :
    '\n' ∉ cs ∨ ∃ earlier line, cs = earlier ++ '\n' :: line ∧ '\n' ∉ line := by
  by_cases h : '\n' ∈ cs
  · obtain ⟨back, earlier, heq, hline⟩ := List.eq_append_cons_of_mem (List.mem_reverse.2 h)
    refine .inr ⟨earlier.reverse, back.reverse, ?_, fun hmem => hline (List.mem_reverse.1 hmem)⟩
    have hcs := congrArg List.reverse heq
    simpa using hcs
  · exact .inl h

theorem lineStart_le_length (cs : List Char) : lineStart cs ≤ cs.length := by
  unfold lineStart
  split <;> omega

/-- The last line begins before every place that no line feed follows. -/
theorem lineStart_le {front behind : List Char} {c : Char} (h : '\n' ∉ behind) :
    lineStart (front ++ c :: behind) ≤ front.length := by
  rcases lines_cases (front ++ c :: behind) with hone | ⟨earlier, line, heq, hline⟩
  · rw [lineStart_of_notMem hone]
    exact Nat.zero_le _
  · rw [heq, lineStart_of_lineFeed hline]
    rcases cut_cases heq with ⟨rfl, -⟩ | ⟨inner, -, rfl⟩ | ⟨inner, rfl, -⟩
    · exact Nat.le_refl _
    · exact absurd (List.mem_append_right inner List.mem_cons_self) h
    · simp

/-- A line feed that ends a text is not behind anything that is searched. -/
theorem drop_lineStart_ne (cs : List Char) {front : List Char} (h : front ≠ []) :
    cs.drop (lineStart cs) ≠ front ++ ['\n'] := by
  intro hdrop
  rcases lines_cases cs with hone | ⟨earlier, line, rfl, hline⟩
  · have hmem : '\n' ∈ cs.drop (lineStart cs) := by simp [hdrop]
    exact hone (List.mem_of_mem_drop hmem)
  · rw [lineStart_of_lineFeed hline, List.drop_left] at hdrop
    rcases List.cons_eq_append_iff.1 hdrop with ⟨hnil, -⟩ | ⟨more, -, rfl⟩
    · exact h hnil
    · exact hline (List.mem_append_right more List.mem_cons_self)

/-! ## 5. The search -/

theorem Matches.unsigned {pos : Nat} {rest opening sign token tail front : List Char}
    (h : Matches pos rest opening sign token tail) (hpos : front.length = pos) :
    Opens (unsigned (front ++ opening ++ sign)) := by
  have hopens : Opens (front ++ opening) := by
    rcases h.opening with ⟨rfl, hzero⟩ | ⟨c, rfl, hopen⟩
    · have hfront : front = [] := List.length_eq_zero_iff.1 (hpos.trans hzero)
      subst hfront
      exact fun d hd => by cases hd
    · intro d hd
      rw [List.getLast?_concat] at hd
      cases hd
      exact hopen
  rcases h.sign with rfl | rfl
  · rw [List.append_nil, unsigned_of_opens hopens]
    exact hopens
  · rw [unsigned_append_minus]
    exact hopens

theorem search_reads {found : Pattern.Place} (h : citation.search cs (lineStart cs) = some found) :
    ∃ before token, Reads cs before token ∧ found.group = some (before.length + 1, token) := by
  obtain ⟨skipped, left, hdrop, hends⟩ := Pattern.exists_of_searchFrom h
  obtain ⟨opening, sign, token, tail, hmatch, rfl⟩ := mem_ends_citation.1 hends
  rw [hmatch.split] at hdrop
  -- the pattern could stop before a line feed, but then the search began at that line feed
  have hstop : tail = [] := by
    rcases hmatch.tail with rfl | rfl
    · rfl
    · have hfront : skipped ++ (opening ++ (sign ++ '@' :: token)) ≠ [] := by simp
      refine absurd ?_ (drop_lineStart_ne cs hfront)
      rw [hdrop]
      simp
  subst hstop
  have hfront : (cs.take (lineStart cs) ++ skipped).length = lineStart cs + skipped.length := by
    rw [List.length_append, List.length_take, Nat.min_eq_left (lineStart_le_length cs)]
  refine ⟨cs.take (lineStart cs) ++ skipped ++ opening ++ sign, token,
    ⟨?_, hmatch.key, hmatch.unsigned hfront⟩, ?_⟩
  · have hcut : cs = cs.take (lineStart cs) ++ cs.drop (lineStart cs) :=
      (List.take_append_drop _ _).symm
    rw [hdrop] at hcut
    simpa using hcut
  · rw [List.length_append, List.length_append, hfront]

theorem citation_found (skipped : List Char) {left opening sign token tail : List Char}
    (hdrop : cs.drop (lineStart cs) = skipped ++ left)
    (h : Matches (lineStart cs + skipped.length) left opening sign token tail) :
    citation.search cs (lineStart cs) ≠ none := by
  intro hnone
  rw [Pattern.search, hdrop] at hnone
  have hmem := mem_ends_citation.2 ⟨opening, sign, token, tail, h, rfl⟩
  rw [Pattern.ends_eq_nil_of_searchFrom hnone] at hmem
  cases hmem

theorem Reads.search_ne_none (h : Reads cs before token) :
    citation.search cs (lineStart cs) ≠ none := by
  obtain ⟨sign, hsign, hbefore⟩ : ∃ sign : List Char, (sign = [] ∨ sign = ['-']) ∧
      before = unsigned before ++ sign := by
    rcases unsigned_cases before with hall | hminus
    · exact ⟨[], .inl rfl, by rw [List.append_nil]; exact hall⟩
    · exact ⟨['-'], .inr rfl, hminus⟩
  have hcs : cs = unsigned before ++ (sign ++ '@' :: token) := by
    rw [← List.append_assoc, ← hbefore]
    exact h.split
  have hline : '\n' ∉ sign ++ '@' :: token := by
    have htoken := lineFeed_notMem h.key
    rcases hsign with rfl | rfl <;> simp [htoken]
  -- the pattern matches at the start of the text, or at what the citation follows
  rcases List.eq_nil_or_concat' (unsigned before) with hnil | ⟨front, c, hfront⟩
  · rw [hnil, List.nil_append] at hcs
    have hstart : lineStart cs = 0 := lineStart_of_notMem (hcs ▸ hline)
    have hmatch : Matches (lineStart cs + 0) cs [] sign token [] :=
      ⟨by simp [hcs], .inl ⟨rfl, hstart⟩, hsign, h.key, .inl rfl⟩
    exact citation_found [] (by rw [hstart]; rfl) hmatch
  · have hopen : isOpening c = true := h.opens c (by rw [hfront, List.getLast?_concat])
    rw [hfront, List.append_assoc, List.singleton_append] at hcs
    have hstart : lineStart cs ≤ front.length := by
      rw [hcs]
      exact lineStart_le hline
    have hmatch : Matches (lineStart cs + (front.drop (lineStart cs)).length)
        (c :: (sign ++ '@' :: token)) [c] sign token [] :=
      ⟨by simp, .inr ⟨c, rfl, hopen⟩, hsign, h.key, .inl rfl⟩
    refine citation_found (front.drop (lineStart cs)) ?_ hmatch
    calc cs.drop (lineStart cs)
        = (front ++ c :: (sign ++ '@' :: token)).drop (lineStart cs) := by rw [← hcs]
      _ = front.drop (lineStart cs) ++ c :: (sign ++ '@' :: token) :=
        List.drop_append_of_le_length hstart

/-- The citation at the end of a text is the one that the text ends in. -/
theorem contextAtEnd?_eq_some_iff {c : Context} :
    contextAtEnd? cs = some c ↔
      ∃ before token, Reads cs before token ∧ c = ⟨String.ofList token, before.length + 1⟩ := by
  unfold contextAtEnd?
  constructor
  · intro h
    obtain ⟨⟨pos, token⟩, hgroup, rfl⟩ := Option.map_eq_some_iff.1 h
    obtain ⟨found, hfound, hgroup⟩ := Option.bind_eq_some_iff.1 hgroup
    obtain ⟨before, token', hreads, hgroup'⟩ := search_reads hfound
    rw [hgroup'] at hgroup
    cases hgroup
    exact ⟨before, token, hreads, rfl⟩
  · rintro ⟨before, token, hreads, rfl⟩
    obtain ⟨found, hfound⟩ := Option.ne_none_iff_exists'.1 hreads.search_ne_none
    obtain ⟨before', token', hreads', hgroup⟩ := search_reads hfound
    obtain ⟨rfl, rfl⟩ := hreads.unique hreads'
    rw [hfound, Option.bind_some, hgroup]
    rfl

end CiteSync.Citation
