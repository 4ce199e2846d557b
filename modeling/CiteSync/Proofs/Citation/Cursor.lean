import CiteSync.Proofs.Citation.Grammar

/-!
# Citations at the cursor

The grammar of citations told by positions: which texts have a citation at the cursor, and that only
the line of the cursor decides, up to the cursor.
-/

namespace CiteSync.Citation

/-! ## 1. Positions -/

/-- The part of a text between two positions. -/
def between (cs : List Char) (first stop : Nat) : List Char := (cs.take stop).drop first

/-- Where the citation begins that has its at sign at `a`: there, or at the minus before it. -/
def citationStart (cs : List Char) (a : Nat) : Nat :=
  if 0 < a ∧ cs[a - 1]? = some '-' then a - 1 else a

/-- A citation ends at the cursor, and its at sign at `a` is the last one before the cursor. -/
structure CitedAt (cs : List Char) (cursor a : Nat) : Prop where
  before : a < cursor
  sign : cs[a]? = some '@'
  last : '@' ∉ between cs (a + 1) cursor
  key : ∀ c ∈ between cs (a + 1) cursor, isTokenChar c = true
  opens : citationStart cs a = 0 ∨ ∃ c, cs[citationStart cs a - 1]? = some c ∧ isOpening c = true

variable {cs before token : List Char} {cursor a : Nat}

theorem getLast?_take_of_le (h : a ≤ cs.length) :
    (cs.take a).getLast? = if 0 < a then cs[a - 1]? else none := by
  rw [List.getLast?_take]
  cases a with
  | zero => rfl
  | succ n =>
    rw [if_neg (Nat.succ_ne_zero n), if_pos (Nat.succ_pos n), Nat.add_sub_cancel,
      List.getElem?_eq_getElem h, Option.some_or]

theorem unsigned_take (h : a < cs.length) :
    unsigned (cs.take a) = cs.take (citationStart cs a) := by
  have hlast := getLast?_take_of_le (Nat.le_of_lt h)
  unfold unsigned citationStart
  rw [hlast]
  by_cases hpos : 0 < a
  · rw [if_pos hpos]
    by_cases hminus : cs[a - 1]? = some '-'
    · rw [if_pos hminus, if_pos ⟨hpos, hminus⟩, List.dropLast_take h]
    · rw [if_neg hminus, if_neg fun hboth => hminus hboth.2]
  · rw [if_neg hpos, if_neg (by simp), if_neg fun hboth => hpos hboth.1]

theorem opens_take (h : a ≤ cs.length) :
    Opens (cs.take a) ↔ a = 0 ∨ ∃ c, cs[a - 1]? = some c ∧ isOpening c = true := by
  unfold Opens
  rw [getLast?_take_of_le h]
  cases a with
  | zero => simp
  | succ n =>
    rw [if_pos (Nat.succ_pos n), Nat.add_sub_cancel, List.getElem?_eq_getElem h]
    simp

theorem citationStart_le (cs : List Char) (a : Nat) : citationStart cs a ≤ a := by
  unfold citationStart
  split <;> omega

theorem opens_unsigned_take (h : a < cs.length) :
    Opens (unsigned (cs.take a)) ↔
      citationStart cs a = 0 ∨
        ∃ c, cs[citationStart cs a - 1]? = some c ∧ isOpening c = true := by
  rw [unsigned_take h]
  exact opens_take (Nat.le_trans (citationStart_le cs a) (Nat.le_of_lt h))

theorem take_eq_of_getElem? {c : Char} (hc : cs[a]? = some c) (h : a < cursor) :
    cs.take cursor = cs.take a ++ c :: between cs (a + 1) cursor := by
  have hat : (cs.take cursor)[a]? = some c := by rw [List.getElem?_take_of_lt h, hc]
  obtain ⟨hlt, hget⟩ := List.getElem?_eq_some_iff.1 hat
  calc cs.take cursor
      = (cs.take cursor).take a ++ (cs.take cursor).drop a := (List.take_append_drop _ _).symm
    _ = cs.take a ++ c :: between cs (a + 1) cursor := by
      rw [List.take_take, Nat.min_eq_left (Nat.le_of_lt h), List.drop_eq_getElem_cons hlt, hget,
        between]

theorem CitedAt.reads (h : CitedAt cs cursor a) :
    Reads (cs.take cursor) (cs.take a) (between cs (a + 1) cursor) where
  split := take_eq_of_getElem? h.sign h.before
  key := h.key
  opens := (opens_unsigned_take (List.getElem?_eq_some_iff.1 h.sign).1).2 h.opens

theorem Reads.citedAt (h : Reads (cs.take cursor) before token) :
    CitedAt cs cursor before.length ∧ token = between cs (before.length + 1) cursor := by
  have hlength : before.length < (cs.take cursor).length := by
    rw [h.split, List.length_append, List.length_cons]
    omega
  rw [List.length_take] at hlength
  have hbefore : before.length < cursor := by omega
  have hsign : cs[before.length]? = some '@' := by
    rw [← List.getElem?_take_of_lt hbefore, h.split]
    simp
  have htoken : between cs (before.length + 1) cursor = token := by
    unfold between
    rw [h.split, List.drop_append]
    simp
  have htake : cs.take before.length = before := by
    have hcut := congrArg (List.take before.length) h.split
    rwa [List.take_take, Nat.min_eq_left (Nat.le_of_lt hbefore), List.take_left] at hcut
  refine ⟨⟨hbefore, hsign, ?_, ?_, ?_⟩, htoken.symm⟩
  · rw [htoken]
    exact at_notMem h.key
  · rw [htoken]
    exact h.key
  · rw [← opens_unsigned_take (List.getElem?_eq_some_iff.1 hsign).1, htake]
    exact h.opens

/-! ## 2. The lines before -/

theorem opens_after_lineFeed {earlier line : List Char} :
    Opens (earlier ++ '\n' :: line) ↔ Opens line := by
  unfold Opens
  rw [List.getLast?_append, List.getLast?_cons, Option.some_or]
  cases line.getLast? with
  | none => simp [isOpening_lineFeed]
  | some d => rfl

theorem unsigned_after_lineFeed (earlier line : List Char) :
    unsigned (earlier ++ '\n' :: line) = earlier ++ '\n' :: unsigned line := by
  unfold unsigned
  rw [List.getLast?_append, List.getLast?_cons, Option.some_or]
  cases hlast : line.getLast? with
  | none => simp
  | some d =>
    have hne : line ≠ [] := by
      rintro rfl
      cases hlast
    have hdrop : (earlier ++ '\n' :: line).dropLast = earlier ++ '\n' :: line.dropLast := by
      rw [List.dropLast_append_of_ne_nil (List.cons_ne_nil _ _), List.dropLast_cons_of_ne_nil hne]
    rw [hdrop, Option.getD_some]
    split <;> rfl

theorem reads_after_lineFeed {earlier line : List Char} :
    Reads (earlier ++ '\n' :: line) before token ↔
      ∃ inner, before = earlier ++ '\n' :: inner ∧ Reads line inner token := by
  constructor
  · intro h
    -- the at sign is behind the line feed, as the key has no line feed in it
    obtain ⟨inner, rfl, hline⟩ : ∃ inner, before = earlier ++ '\n' :: inner ∧
        line = inner ++ '@' :: token := by
      rcases cut_cases h.split with ⟨-, hat, -⟩ | ⟨inner, rfl, rfl⟩ | ⟨inner, -, rfl⟩
      · cases hat
      · exact ⟨inner, rfl, rfl⟩
      · exact absurd (List.mem_append_right inner List.mem_cons_self) (lineFeed_notMem h.key)
    have hopens := h.opens
    rw [unsigned_after_lineFeed, opens_after_lineFeed] at hopens
    exact ⟨inner, rfl, hline, h.key, hopens⟩
  · rintro ⟨inner, rfl, hline, hkey, hopens⟩
    refine ⟨by rw [hline, List.append_assoc]; rfl, hkey, ?_⟩
    rw [unsigned_after_lineFeed, opens_after_lineFeed]
    exact hopens

/-- A context in a text that more is put before. -/
def Context.moved (distance : Nat) (c : Context) : Context := { c with pos := distance + c.pos }

theorem contextAtEnd?_after_lineFeed (earlier line : List Char) :
    contextAtEnd? (earlier ++ '\n' :: line) =
      (contextAtEnd? line).map (·.moved (earlier.length + 1)) := by
  apply Option.ext
  intro c
  rw [Option.map_eq_some_iff, contextAtEnd?_eq_some_iff]
  have hlength : ∀ inner : List Char, (earlier ++ '\n' :: inner).length + 1 =
      earlier.length + 1 + (inner.length + 1) := by
    intro inner
    rw [List.length_append, List.length_cons]
    omega
  constructor
  · rintro ⟨before, token, hreads, rfl⟩
    obtain ⟨inner, rfl, hinner⟩ := reads_after_lineFeed.1 hreads
    refine ⟨⟨String.ofList token, inner.length + 1⟩,
      contextAtEnd?_eq_some_iff.2 ⟨inner, token, hinner, rfl⟩, ?_⟩
    rw [hlength, Context.moved]
  · rintro ⟨c, hc, rfl⟩
    obtain ⟨inner, token, hinner, rfl⟩ := contextAtEnd?_eq_some_iff.1 hc
    refine ⟨_, token, reads_after_lineFeed.2 ⟨inner, rfl, hinner⟩, ?_⟩
    rw [hlength, Context.moved]

/-! ## 3. The cursor -/

theorem context?_eq (text : String) (cursor : Int) :
    context? ⟨text, cursor⟩ =
      if 0 ≤ cursor ∧ cursor ≤ text.length then contextAtEnd? (text.toList.take cursor.toNat)
      else none := by
  simp only [context?, String.length_toList, Bool.or_eq_true, decide_eq_true_eq]
  by_cases hinside : 0 ≤ cursor ∧ cursor ≤ text.length
  · rw [if_pos hinside, if_neg (by omega)]
  · rw [if_neg hinside, if_pos (by omega)]

/-- What is found at the cursor is the key of the citation that ends there. -/
theorem context?_eq_some_iff {text : String} {cursor : Int} {c : Context} :
    context? ⟨text, cursor⟩ = some c ↔
      (0 ≤ cursor ∧ cursor ≤ text.length) ∧
        ∃ a, CitedAt text.toList cursor.toNat a ∧
          c.token.toList = between text.toList (a + 1) cursor.toNat ∧
          c.pos = a + 1 ∧ (c.stop : Int) = cursor := by
  rw [context?_eq]
  constructor
  · intro h
    split at h
    next hinside =>
      obtain ⟨before, token, hreads, rfl⟩ := contextAtEnd?_eq_some_iff.1 h
      obtain ⟨hcited, htoken⟩ := hreads.citedAt
      have hlength := congrArg List.length hreads.split
      rw [List.length_take, String.length_toList, List.length_append, List.length_cons] at hlength
      refine ⟨hinside, before.length, hcited, ?_, rfl, ?_⟩
      · rw [String.toList_ofList, htoken]
      · show ((before.length + 1 + (String.ofList token).length : Nat) : Int) = cursor
        rw [String.length_ofList]
        omega
    next => cases h
  · rintro ⟨hinside, a, hcited, htoken, hat, -⟩
    rw [if_pos hinside, contextAtEnd?_eq_some_iff]
    refine ⟨_, _, hcited.reads, ?_⟩
    have hlength : a < text.toList.length := (List.getElem?_eq_some_iff.1 hcited.sign).1
    rw [← htoken, String.ofList_toList, List.length_take, Nat.min_eq_left (Nat.le_of_lt hlength),
      ← hat]

/-- What stands behind the cursor is not read. -/
theorem context?_append {text : String} {cursor : Int} (after : String)
    (h : cursor ≤ text.length) : context? ⟨text ++ after, cursor⟩ = context? ⟨text, cursor⟩ := by
  have htake : (text ++ after).toList.take cursor.toNat = text.toList.take cursor.toNat := by
    rw [String.toList_append]
    exact List.take_append_of_le_length (by rw [String.length_toList]; omega)
  have hinside : (0 ≤ cursor ∧ cursor ≤ (text ++ after).length) ↔
      (0 ≤ cursor ∧ cursor ≤ text.length) := by
    rw [String.length_append]
    omega
  rw [context?_eq, context?_eq, htake]
  simp only [hinside]

/-- Lines before that of the cursor are not read. -/
theorem context?_after_lines {text : String} {cursor : Int} (earlier : String) (h : 0 ≤ cursor) :
    context? ⟨earlier ++ "\n" ++ text, earlier.length + 1 + cursor⟩ =
      (context? ⟨text, cursor⟩).map (·.moved (earlier.length + 1)) := by
  have hlist : (earlier ++ "\n" ++ text).toList = earlier.toList ++ '\n' :: text.toList := by
    simp [String.toList_append]
  have hcursor : ((earlier.length : Int) + 1 + cursor).toNat =
      earlier.toList.length + (1 + cursor.toNat) := by
    rw [String.length_toList]
    omega
  have htake : (earlier ++ "\n" ++ text).toList.take ((earlier.length : Int) + 1 + cursor).toNat =
      earlier.toList ++ '\n' :: text.toList.take cursor.toNat := by
    rw [hlist, hcursor, List.take_length_add_append, Nat.add_comm 1, List.take_succ_cons]
  have hinside : (0 ≤ (earlier.length : Int) + 1 + cursor ∧
      (earlier.length : Int) + 1 + cursor ≤ (earlier ++ "\n" ++ text).length) ↔
      (0 ≤ cursor ∧ cursor ≤ text.length) := by
    rw [String.length_append, String.length_append, show "\n".length = 1 from rfl]
    omega
  rw [context?_eq, context?_eq, htake, contextAtEnd?_after_lineFeed, String.length_toList]
  simp only [hinside]
  split <;> rfl

/-- A text has a citation at the cursor exactly if the cursor is in the text and a citation ends
there.  Neither text behind the cursor nor lines before its own change what is found. -/
theorem citation_at_cursor_iff (text : String) (cursor : Int) :
    (∀ c, context? ⟨text, cursor⟩ = some c ↔
      (0 ≤ cursor ∧ cursor ≤ text.length) ∧
        ∃ a, CitedAt text.toList cursor.toNat a ∧
          c.token.toList = between text.toList (a + 1) cursor.toNat ∧
          c.pos = a + 1 ∧ (c.stop : Int) = cursor) ∧
    (∀ after : String, cursor ≤ text.length →
      context? ⟨text ++ after, cursor⟩ = context? ⟨text, cursor⟩) ∧
    ∀ earlier : String, 0 ≤ cursor →
      context? ⟨earlier ++ "\n" ++ text, earlier.length + 1 + cursor⟩ =
        (context? ⟨text, cursor⟩).map (·.moved (earlier.length + 1)) :=
  ⟨fun _ => context?_eq_some_iff, fun after h => context?_append after h,
    fun earlier h => context?_after_lines earlier h⟩

/-- The key that is being typed behind an opening bracket, with more text around it. -/
theorem citation_at_cursor_in_bracket :
    context? ⟨"shown by [@smi", 14⟩ = some ⟨"smi", 11⟩ ∧
      context? ⟨"shown by [@smi" ++ "th; 3]", 14⟩ = some ⟨"smi", 11⟩ ∧
      context? ⟨"As@home" ++ "\n" ++ "shown by [@smi", 22⟩ = some ⟨"smi", 19⟩ := by
  have hcited : CitedAt "shown by [@smi".toList 14 10 :=
    ⟨by decide, by decide, by decide, List.all_eq_true.1 (by decide),
      .inr ⟨'[', by decide, by decide⟩⟩
  obtain ⟨hiff, hafter, hbefore⟩ := citation_at_cursor_iff "shown by [@smi" 14
  have hfound := (hiff ⟨"smi", 11⟩).2 ⟨by decide, 10, hcited, by decide, rfl, by decide⟩
  refine ⟨hfound, (hafter "th; 3]" (by decide)).trans hfound, ?_⟩
  have hmoved := hbefore "As@home" (by decide)
  rw [hfound] at hmoved
  exact hmoved

end CiteSync.Citation
