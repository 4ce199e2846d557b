import CiteSync.Proofs.Yaml.Marks
import CiteSync.Proofs.Yaml.Scalars
import CiteSync.Yaml.Token.Lexer

/-!
# Tokens further on

A lexer that is moved on reads the same tokens: possible keys move along with its place, and only
their distance from it counts.  Each token takes a character, so the fuel never runs out.
-/

namespace CiteSync.Yaml

open Placed

variable {chars lines n : Nat}

/-! ## 1. Lexers that are moved on -/

/-- A possible key that many characters and lines further on. -/
def KeyCandidate.moved (chars lines : Nat) (k : KeyCandidate) : KeyCandidate :=
  { k with index := k.index + chars, line := k.line + lines }

instance : Placed Lexer where
  moved chars lines s :=
    { s with
      cursor := moved chars lines s.cursor
      candidates := s.candidates.map fun k => (k.1, k.2.moved chars lines) }
  left s := left s.cursor

/-- At the end of a text nothing is left. -/
instance {τ : Type} [Placed τ] : Placed (Option τ) where
  moved chars lines := Option.map (moved chars lines)
  left o := match o with
    | some t => left t
    | none => 0

theorem moved_some {τ : Type} [Placed τ] (t : τ) :
    moved chars lines (some t) = some (moved chars lines t) := rfl

theorem moved_none {τ : Type} [Placed τ] : moved chars lines (none : Option τ) = none := rfl

theorem Follows.some {τ : Type} [Placed τ] {x y : τ} (h : Follows chars lines n x y) :
    Follows chars lines n (Option.some x) (Option.some y) :=
  ⟨congrArg Option.some h.same, h.left_le⟩

theorem Follows.lexer (s : Lexer) {c d : Cursor} (h : Follows chars lines n c d) :
    Follows chars lines n { s with cursor := c } { moved chars lines s with cursor := d } :=
  ⟨by rw [h.same]; rfl, h.left_le⟩

namespace Lexer

section Moved

variable (s : Lexer) (chars lines : Nat)

@[simp]
theorem moved_cursor : (moved chars lines s).cursor = moved chars lines s.cursor := rfl

@[simp]
theorem moved_flow : (moved chars lines s).flow = s.flow := rfl

@[simp]
theorem moved_indent : (moved chars lines s).indent = s.indent := rfl

@[simp]
theorem moved_outer : (moved chars lines s).outer = s.outer := rfl

@[simp]
theorem moved_keyAllowed : (moved chars lines s).keyAllowed = s.keyAllowed := rfl

@[simp]
theorem moved_tokens : (moved chars lines s).tokens = s.tokens := rfl

@[simp]
theorem moved_candidates : (moved chars lines s).candidates =
    s.candidates.map fun k => (k.1, k.2.moved chars lines) := rfl

@[simp]
theorem moved_forget : (moved chars lines s).forget = moved chars lines s.forget := by
  unfold forget
  simp only [moved_candidates, moved_flow, List.filter_map]
  rfl

@[simp]
theorem moved_candidate? :
    (moved chars lines s).candidate? = s.candidate?.map (·.moved chars lines) := by
  unfold candidate?
  rw [moved_candidates, moved_flow, List.find?_map, Option.map_map, Option.map_map]
  rfl

theorem moved_unwindTo (column : Int) (outer : List Int) :
    unwindTo column outer (moved chars lines s) = moved chars lines (unwindTo column outer s) := by
  induction outer generalizing s with
  | nil =>
    unfold unwindTo
    rw [moved_indent]
    split <;> rfl
  | cons i outer ih =>
    unfold unwindTo
    rw [moved_indent]
    split
    · exact ih { s.emit .blockEnd with indent := i, outer }
    · rfl

@[simp]
theorem moved_unwind (column : Int) :
    (moved chars lines s).unwind column = moved chars lines (s.unwind column) := by
  unfold unwind
  rw [moved_flow, moved_outer, moved_unwindTo]
  split <;> rfl

theorem unwindTo_cursor (column : Int) (outer : List Int) :
    (unwindTo column outer s).cursor = s.cursor := by
  induction outer generalizing s with
  | nil =>
    unfold unwindTo
    split <;> rfl
  | cons i outer ih =>
    unfold unwindTo
    split
    · exact ih _
    · rfl

@[simp]
theorem unwind_cursor (column : Int) : (s.unwind column).cursor = s.cursor := by
  unfold unwind
  split
  · exact unwindTo_cursor s column s.outer
  · rfl

@[simp]
theorem moved_indentTo (column : Nat) :
    (moved chars lines s).indentTo column =
      ((s.indentTo column).1, moved chars lines (s.indentTo column).2) := by
  unfold indentTo
  rw [moved_indent]
  split <;> rfl

@[simp]
theorem indentTo_cursor (column : Nat) : (s.indentTo column).2.cursor = s.cursor := by
  unfold indentTo
  split <;> rfl

end Moved

/-! ## 2. Steps that stay in place -/

/-- `y` is `x` further on, and a lexer that comes out is still at `c`. -/
structure Stays (chars lines : Nat) (c : Cursor) (x y : Except Fault Lexer) : Prop where
  same : y = moved chars lines x
  stays : ∀ s, x = .ok s → s.cursor = c

variable {s : Lexer} {c : Cursor}

theorem Stays.error (e : Fault) : Stays chars lines c (.error e) (.error e) := ⟨rfl, nofun⟩

theorem Stays.ok (h : s.cursor = c) : Stays chars lines c (.ok s) (.ok (moved chars lines s)) := by
  refine ⟨rfl, ?_⟩
  rintro _ ⟨⟩
  exact h

theorem Stays.bind {x y : Except Fault Lexer} {f g : Lexer → Except Fault Lexer}
    (h : Stays chars lines c x y)
    (hfg : ∀ t, t.cursor = c → Stays chars lines c (f t) (g (moved chars lines t))) :
    Stays chars lines c (x >>= f) (y >>= g) := by
  rw [h.same]
  cases x with
  | error e => exact .error e
  | ok t => exact hfg t (h.stays t rfl)

theorem Stays.follows_of_eq {τ : Type} [Placed τ] {x y : Except Fault Lexer}
    {f g : Lexer → Except Fault τ} (h : Stays chars lines c x y)
    (hfg : ∀ t, x = .ok t → Follows chars lines n (f t) (g (moved chars lines t))) :
    Follows chars lines n (x >>= f) (y >>= g) := by
  rw [h.same]
  cases x with
  | error e => exact .error e
  | ok t => exact hfg t rfl

theorem Stays.follows {τ : Type} [Placed τ] {x y : Except Fault Lexer}
    {f g : Lexer → Except Fault τ} (h : Stays chars lines c x y)
    (hfg : ∀ t, t.cursor = c → Follows chars lines n (f t) (g (moved chars lines t))) :
    Follows chars lines n (x >>= f) (y >>= g) :=
  h.follows_of_eq fun t ht => hfg t (h.stays t ht)

theorem dropStale_stays (s : Lexer) :
    Stays chars lines s.cursor s.dropStale (moved chars lines s).dropStale := by
  have hline (k : KeyCandidate) : ((k.moved chars lines).line != s.cursor.line + lines) =
      (k.line != s.cursor.line) := by
    rw [Bool.eq_iff_iff, bne_iff_ne, bne_iff_ne]
    exact not_congr Nat.add_right_cancel_iff
  have hindex (k : KeyCandidate) :
      s.cursor.index + chars - (k.moved chars lines).index = s.cursor.index - k.index :=
    Nat.add_sub_add_right _ _ _
  have hrequired (k : KeyCandidate) : (k.moved chars lines).required = k.required := rfl
  unfold dropStale
  simp only [moved_candidates, moved_cursor, moved_line, moved_index, List.any_map, List.filter_map,
    Function.comp_def, hline, hindex, hrequired]
  split
  · exact .error _
  · exact .ok rfl

theorem dropCandidate_stays (s : Lexer) :
    Stays chars lines s.cursor s.dropCandidate (moved chars lines s).dropCandidate := by
  unfold dropCandidate
  rw [moved_candidate?, moved_forget]
  cases s.candidate? with
  | none => exact .ok rfl
  | some k =>
    show Stays _ _ _ (if k.required then _ else _) (if k.required then _ else _)
    split
    · exact .error _
    · exact .ok rfl

theorem saveCandidate_stays (s : Lexer) :
    Stays chars lines s.cursor s.saveCandidate (moved chars lines s).saveCandidate := by
  unfold saveCandidate
  rw [moved_keyAllowed]
  split
  · apply Stays.bind (dropCandidate_stays s)
    intro t ht
    rw [moved_flow, moved_cursor, moved_tokens, moved_candidates, moved_indent, moved_column]
    exact .ok ht
  · exact .ok rfl

theorem saveCandidate_flow {t : Lexer} (h : s.saveCandidate = .ok t) : t.flow = s.flow := by
  have hdrop (u : Lexer) (hu : s.dropCandidate = .ok u) : u.flow = s.flow := by
    unfold dropCandidate at hu
    split at hu
    · split at hu <;> cases hu
      rfl
    · cases hu
      rfl
  unfold saveCandidate at h
  split at h
  · cases hu : s.dropCandidate with
    | error e =>
      rw [hu] at h
      cases h
    | ok u =>
      rw [hu] at h
      cases h
      exact hdrop u hu
  · cases h
    rfl

theorem openBlock_stays (s : Lexer) (t : Token) :
    Stays chars lines s.cursor (s.openBlock t) ((moved chars lines s).openBlock t) := by
  unfold openBlock
  rw [moved_flow, moved_keyAllowed, moved_cursor, moved_column, moved_indentTo]
  split
  · exact .ok rfl
  · split
    · exact .error _
    · have hat : (s.indentTo s.cursor.column).2.cursor = s.cursor := indentTo_cursor s _
      generalize s.indentTo s.cursor.column = p at hat ⊢
      obtain ⟨opened, u⟩ := p
      cases opened <;> exact .ok hat

/-! ## 3. One token -/

theorem openFlow_follows (s : Lexer) (t : Token) (h : left s.cursor.step ≤ n) :
    Follows chars lines n (s.openFlow t) ((moved chars lines s).openFlow t) := by
  unfold openFlow
  apply (saveCandidate_stays s).follows
  intro u hu
  rw [← hu] at h
  exact .ok (.lexer { u.emit t with flow := u.flow + 1, keyAllowed := true } (step_follows h))

theorem closeFlow_follows (s : Lexer) (t : Token) (h : left s.cursor.step ≤ n) :
    Follows chars lines n (s.closeFlow t) ((moved chars lines s).closeFlow t) := by
  unfold closeFlow
  apply (dropCandidate_stays s).follows
  intro u hu
  rw [← hu] at h
  rw [moved_flow]
  split
  · exact .error _
  · exact .ok (.lexer { u.emit t with flow := u.flow - 1, keyAllowed := false } (step_follows h))

theorem readMarker_follows (s : Lexer) (t : Token) (h : left (s.cursor.skip 3) ≤ n) :
    Follows chars lines n (s.readMarker t) ((moved chars lines s).readMarker t) := by
  unfold readMarker
  rw [moved_unwind]
  apply (dropCandidate_stays _).follows
  intro u hu
  rw [unwind_cursor] at hu
  rw [← hu] at h
  exact .ok (.lexer { u.emit t with keyAllowed := false } (skip_follows 3 h))

/-- A mark that may open a block. -/
theorem openMark_follows (s : Lexer) (opening mark : Token) (allowed : Nat → Bool)
    (h : left s.cursor.step ≤ n) :
    Follows chars lines n
      (do
        let s ← s.openBlock opening
        let s ← { s with keyAllowed := allowed s.flow }.dropCandidate
        .ok { s.emit mark with cursor := s.cursor.step })
      (do
        let s ← (moved chars lines s).openBlock opening
        let s ← { s with keyAllowed := allowed s.flow }.dropCandidate
        .ok { s.emit mark with cursor := s.cursor.step }) := by
  apply (openBlock_stays s opening).follows
  intro u hu
  apply (dropCandidate_stays { u with keyAllowed := allowed u.flow }).follows
  intro v hv
  rw [← hu, ← hv] at h
  exact .ok (.lexer (v.emit mark) (step_follows h))

theorem readBlockEntry_follows (s : Lexer) (h : left s.cursor.step ≤ n) :
    Follows chars lines n s.readBlockEntry (moved chars lines s).readBlockEntry :=
  openMark_follows s .blockSequenceStart .blockEntry (fun _ => true) h

theorem readKey_follows (s : Lexer) (h : left s.cursor.step ≤ n) :
    Follows chars lines n s.readKey (moved chars lines s).readKey :=
  openMark_follows s .blockMappingStart .key (· == 0) h

/-- The lexer when `k` has turned out to be a key. -/
def withKey (s : Lexer) (k : KeyCandidate) : Lexer :=
  let s := { s.forget with tokens := insertAt s.tokens k.position .key }
  let (opened, s) := if s.flow == 0 then s.indentTo k.column else (false, s)
  let tokens := if opened then insertAt s.tokens k.position .blockMappingStart else s.tokens
  { s with tokens, keyAllowed := false }

theorem moved_withKey (s : Lexer) (k : KeyCandidate) :
    (moved chars lines s).withKey (k.moved chars lines) = moved chars lines (s.withKey k) := by
  have hkey : { (moved chars lines s).forget with
      tokens := insertAt (moved chars lines s).tokens k.position .key } =
      moved chars lines { s.forget with tokens := insertAt s.tokens k.position .key } := by
    rw [moved_forget]
    rfl
  show (let s := { (moved chars lines s).forget with
      tokens := insertAt (moved chars lines s).tokens k.position .key }
    let (opened, s) := if s.flow == 0 then s.indentTo k.column else (false, s)
    let tokens := if opened then insertAt s.tokens k.position .blockMappingStart else s.tokens
    ({ s with tokens, keyAllowed := false } : Lexer)) = _
  rw [hkey]
  unfold withKey
  dsimp only
  rw [moved_flow, moved_indentTo]
  split
  · rfl
  · rfl

theorem withKey_cursor (s : Lexer) (k : KeyCandidate) : (s.withKey k).cursor = s.cursor := by
  unfold withKey
  dsimp only
  split
  · exact indentTo_cursor _ _
  · rfl

theorem readValueMark_follows (s : Lexer) (h : left s.cursor.step ≤ n) :
    Follows chars lines n s.readValueMark (moved chars lines s).readValueMark := by
  unfold readValueMark
  rw [moved_candidate?]
  cases s.candidate? with
  | none =>
    exact openMark_follows s .blockMappingStart .value (· == 0) h
  | some k =>
    rw [← withKey_cursor s k] at h
    show Follows chars lines n
      (Except.ok { (s.withKey k).emit .value with cursor := (s.withKey k).cursor.step })
      (Except.ok { ((moved chars lines s).withKey (k.moved chars lines)).emit .value with
        cursor := ((moved chars lines s).withKey (k.moved chars lines)).cursor.step })
    rw [moved_withKey]
    exact .ok (.lexer ((s.withKey k).emit .value) (step_follows h))

theorem readInline_follows {α : Type} {s : Lexer} {read : Cursor → Except Fault (α × Cursor)}
    (token : α → Token)
    (hread : Follows chars lines n (read s.cursor) (read (moved chars lines s.cursor))) :
    Follows chars lines n (s.readInline read token)
      ((moved chars lines s).readInline read token) := by
  unfold readInline
  apply (saveCandidate_stays s).follows
  intro u hu
  rw [← hu] at hread
  apply hread.bindPair
  intro a c hc
  exact .ok (.lexer { u.emit (token a) with keyAllowed := false } (.self hc))

theorem readBlockToken_follows (s : Lexer) (folded : Bool) (h : left s.cursor.step ≤ n) :
    Follows chars lines n (s.readBlockToken folded)
      ((moved chars lines s).readBlockToken folded) := by
  unfold readBlockToken
  apply (dropCandidate_stays { s with keyAllowed := true }).follows
  intro u hu
  rw [moved_indent, moved_cursor, moved_step]
  rw [← hu] at h
  apply (readBlock_follows folded u.indent h).bindPair
  intro text c hc
  exact .ok (.lexer (u.emit (.scalar (String.ofList text) false)) (.self hc))

theorem readPlainToken_follows (s : Lexer)
    (hstop : s.cursor.peek 0 = '#' ∨ plainRun (s.flow != 0) s.cursor.rest = [] → left s.cursor ≤ n)
    (h : left (s.cursor.skip (plainRun (s.flow != 0) s.cursor.rest).length) ≤ n) :
    Follows chars lines n s.readPlainToken (moved chars lines s).readPlainToken := by
  unfold readPlainToken
  have hsaved : Stays chars lines s.cursor _ _ := saveCandidate_stays s
  apply hsaved.follows_of_eq
  intro u hu
  have hflow : u.flow = s.flow := saveCandidate_flow hu
  have hcursor : u.cursor = s.cursor := hsaved.stays u hu
  rw [← hflow, ← hcursor] at hstop h
  have hread : Follows chars lines n _ _ :=
    readPlain_follows (u.flow != 0) (u.indent + 1) (u.cursor.rest.length + 1) [] false
      (fun hc => hstop (hc.resolve_left (Nat.succ_ne_zero _))) h
  obtain ⟨text, broken, c, hread, hread', hc⟩ := hread.cases_triple
  rw [moved_flow, moved_indent, moved_cursor, moved_rest, hread, hread']
  exact .ok (.lexer { u.emit (.scalar (String.ofList text) true) with keyAllowed := broken }
    (.self hc))

theorem startsPlain_cases {flow : Bool} {d next : Char} (h : startsPlain flow d next = true) :
    isBlankOrEnd d = false ∧ d ≠ '#' ∧ endsPlain flow d next = false := by
  rcases Bool.or_eq_true_iff.1 h with hplain | hmark
  · -- neither a blank nor a mark
    have hmarks : isBlankOrEnd d = false ∧ d ∉ "-?:,[]\x7b\x7d#&*!|>'\"%@\x60".toList := by
      simpa only [Bool.not_eq_true', Bool.or_eq_false_iff, List.contains_eq_mem,
        decide_eq_false_iff_not] using hplain
    obtain ⟨hblank, hmark⟩ := hmarks
    have hcolon : d ≠ ':' := by
      rintro rfl
      exact hmark (by decide)
    have hflow : d ∉ ",?[]\x7b\x7d".toList := by
      intro hd
      have hd : d = ',' ∨ d = '?' ∨ d = '[' ∨ d = ']' ∨ d = '\x7b' ∨ d = '\x7d' := by
        simpa using hd
      rcases hd with rfl | rfl | rfl | rfl | rfl | rfl <;> exact hmark (by decide)
    refine ⟨hblank, ?_, ?_⟩
    · rintro rfl
      exact hmark (by decide)
    · simp only [endsPlain, hblank, beq_eq_false_iff_ne.2 hcolon, List.contains_eq_mem,
        decide_eq_false hflow, Bool.and_false, Bool.false_and, Bool.or_false]
  · -- a mark with something behind it
    have hmarks : isBlankOrEnd next = false ∧ (d = '-' ∨ flow = false ∧ (d = '?' ∨ d = ':')) := by
      simpa using hmark
    obtain ⟨hnext, rfl | ⟨rfl, rfl | rfl⟩⟩ := hmarks
    · exact ⟨rfl, by decide, by cases flow <;> rfl⟩
    · exact ⟨rfl, by decide, rfl⟩
    · exact ⟨rfl, by decide, by rw [endsPlain, hnext]; rfl⟩

/-- A plain text that can start takes a character. -/
theorem plainRun_of_startsPlain (flow : Bool) (h : startsPlain flow (c.peek 0) (c.peek 1) = true) :
    c.peek 0 ≠ '#' ∧ plainRun flow c.rest ≠ [] := by
  obtain ⟨hblank, hcomment, hplain⟩ := startsPlain_cases h
  refine ⟨hcomment, ?_⟩
  unfold Cursor.peek at hblank hplain
  cases hrest : c.rest with
  | nil =>
    rw [hrest] at hblank
    cases hblank
  | cons d rest =>
    rw [hrest] at hplain
    change endsPlain flow d ((d :: rest).getD 1 pastEnd) = false at hplain
    have hnext : rest.head?.getD pastEnd = (d :: rest).getD 1 pastEnd := by
      cases rest <;> rfl
    unfold plainRun
    rw [hnext, if_neg (Bool.eq_false_iff.1 hplain)]
    exact List.cons_ne_nil _ _

/-- Each token takes a character. -/
theorem readToken_follows (s : Lexer) (h : left s.cursor ≤ n + 1) :
    Follows chars lines n s.readToken (moved chars lines s).readToken := by
  unfold readToken
  dsimp only
  apply Follows.ite Iff.rfl
  · intro hend
    exact .ok ⟨rfl, Nat.zero_le n⟩
  intro hend
  have hstep : left s.cursor.step ≤ n := by
    have hlt : left s.cursor.step < left s.cursor := by
      apply left_step_lt
      intro hpast
      exact hend (beq_iff_eq.2 hpast)
    omega
  have hskip (k : Nat) : left (s.cursor.step.skip k) ≤ n :=
    Nat.le_trans (left_skip_le _ k) hstep
  have hnext {x y : Except Fault Lexer} (hxy : Follows chars lines n x y) :
      Follows chars lines n (do return some (← x) : Except Fault (Option Lexer))
        (do return some (← y)) :=
    hxy.bind fun t ht => .ok (.some (.self ht))
  -- names behind a sign, which are read alike for aliases and anchors
  have hname (token : String → Token) : Follows chars lines n
      (s.readInline (fun c => readName followsAnchor c.step) token)
      ((moved chars lines s).readInline (fun c => readName followsAnchor c.step) token) := by
    apply readInline_follows
    rw [moved_step]
    exact readName_follows _ hstep
  -- preambles and document markers
  apply Follows.ite Iff.rfl
  · intro _
    rw [moved_unwind]
    apply (dropCandidate_stays _).follows
    intro t ht
    rw [unwind_cursor] at ht
    rw [← ht] at hstep
    apply (readPreamble_follows hstep).bindPair
    intro line c hc
    exact .ok (.some (.lexer { t.emit (.preamble line) with keyAllowed := false } (.self hc)))
  intro _
  apply Follows.ite Iff.rfl (fun _ => hnext (readMarker_follows s _ (hskip 2)))
  intro _
  apply Follows.ite Iff.rfl (fun _ => hnext (readMarker_follows s _ (hskip 2)))
  intro _
  -- brackets and what separates entries in them
  apply Follows.ite Iff.rfl (fun _ => hnext (openFlow_follows s _ hstep))
  intro _
  apply Follows.ite Iff.rfl (fun _ => hnext (openFlow_follows s _ hstep))
  intro _
  apply Follows.ite Iff.rfl (fun _ => hnext (closeFlow_follows s _ hstep))
  intro _
  apply Follows.ite Iff.rfl (fun _ => hnext (closeFlow_follows s _ hstep))
  intro _
  apply Follows.ite Iff.rfl
  · intro _
    apply (dropCandidate_stays { s with keyAllowed := true }).follows
    intro t ht
    exact .ok (.some (.lexer (t.emit .flowEntry) (step_follows hstep)))
  intro _
  -- marks of entries, keys and values
  apply Follows.ite Iff.rfl (fun _ => hnext (readBlockEntry_follows s hstep))
  intro _
  apply Follows.ite Iff.rfl (fun _ => hnext (readKey_follows s hstep))
  intro _
  apply Follows.ite Iff.rfl (fun _ => hnext (readValueMark_follows s hstep))
  intro _
  -- what stands in front of a value
  apply Follows.ite Iff.rfl
  · intro _
    exact hnext (hname _)
  intro _
  apply Follows.ite Iff.rfl
  · intro _
    exact hnext (hname _)
  intro _
  apply Follows.ite Iff.rfl
  · intro _
    exact hnext (readInline_follows _ (readTag_follows hstep))
  intro _
  -- texts
  apply Follows.ite Iff.rfl (fun _ => hnext (readBlockToken_follows s false hstep))
  intro _
  apply Follows.ite Iff.rfl (fun _ => hnext (readBlockToken_follows s true hstep))
  intro _
  apply Follows.ite Iff.rfl
  · intro _
    apply hnext
    apply readInline_follows
    rw [moved_step, moved_rest]
    exact readQuoted_follows _ _ hstep
  intro _
  apply Follows.ite Iff.rfl
  · intro hplain
    obtain ⟨hcomment, hrun⟩ := plainRun_of_startsPlain (s.flow != 0) hplain
    have hleft : left (s.cursor.skip (plainRun (s.flow != 0) s.cursor.rest).length) ≤ n := by
      obtain ⟨d, rest, hd⟩ := List.exists_cons_of_ne_nil hrun
      rw [hd]
      exact hskip rest.length
    apply hnext
    exact readPlainToken_follows s (fun hstop => absurd hstop (not_or.2 ⟨hcomment, hrun⟩)) hleft
  · intro _
    exact hnext (.error _)

theorem left_lt_of_readToken {s t : Lexer} (h : s.readToken = .ok (some t)) : left t < left s := by
  cases hleft : left s.cursor with
  | zero =>
    have hend : isEnd (s.cursor.peek 0) = true := by
      unfold Cursor.peek
      rw [List.eq_nil_of_length_eq_zero hleft]
      rfl
    unfold readToken at h
    rw [if_pos hend] at h
    cases h
  | succ n =>
    have hread : Follows 0 0 n s.readToken _ := readToken_follows s (Nat.le_of_eq hleft)
    have hle := hread.left_le
    rw [h] at hle
    exact Nat.lt_succ_of_le hle

/-! ## 4. All tokens -/

theorem moved_skipToToken (fuel : Nat) (s : Lexer) :
    skipToToken fuel (moved chars lines s) = moved chars lines (skipToToken fuel s) := by
  induction fuel generalizing s with
  | zero => rfl
  | succ fuel ih =>
    unfold skipToToken
    dsimp only
    rw [moved_cursor, moved_skipSpaces, moved_skipComment, moved_peek, moved_step]
    split
    · exact ih { s with
        cursor := s.cursor.skipSpaces.skipComment.step, keyAllowed := s.keyAllowed || s.flow == 0 }
    · rfl

theorem left_skipSpaces_skipComment_le (c : Cursor) : left c.skipSpaces.skipComment ≤ left c :=
  Nat.le_trans (left_skipComment_le _) (left_skip_le c _)

theorem left_skipToToken_le (fuel : Nat) (s : Lexer) : left (skipToToken fuel s) ≤ left s := by
  induction fuel generalizing s with
  | zero => exact Nat.le_refl _
  | succ fuel ih =>
    unfold skipToToken
    dsimp only
    split
    · apply Nat.le_trans (ih _)
      exact Nat.le_trans (left_step_le _) (left_skipSpaces_skipComment_le s.cursor)
    · exact left_skipSpaces_skipComment_le s.cursor

/-- Fuel for each character that is left is enough. -/
theorem skipToToken_fuel {fuel fuel' : Nat} {s : Lexer} (h : left s < fuel) (h' : left s < fuel') :
    skipToToken fuel s = skipToToken fuel' s := by
  induction fuel generalizing s fuel' with
  | zero => cases h
  | succ fuel ih =>
    cases fuel' with
    | zero => cases h'
    | succ fuel' =>
      unfold skipToToken
      dsimp only
      split
      next hbreak =>
        have hlt : left s.cursor.skipSpaces.skipComment.step < left s := by
          refine Nat.lt_of_lt_of_le (left_step_lt _ ?_) (left_skipSpaces_skipComment_le s.cursor)
          intro hpast
          rw [hpast] at hbreak
          cases hbreak
        exact ih (Nat.lt_of_lt_of_le hlt (Nat.le_of_lt_succ h))
          (Nat.lt_of_lt_of_le hlt (Nat.le_of_lt_succ h'))
      next => rfl

/-- With fuel for each character that is left, a lexer that is moved on reads the same tokens. -/
theorem readAll_moved {fuel fuel' : Nat} {s : Lexer} (h : left s < fuel) (h' : left s < fuel') :
    readAll fuel' (moved chars lines s) = readAll fuel s := by
  induction fuel generalizing s fuel' with
  | zero => cases h
  | succ fuel ih =>
    cases fuel' with
    | zero => cases h'
    | succ fuel' =>
      unfold readAll
      rw [moved_cursor, moved_rest, moved_skipToToken]
      have hskip : left (skipToToken (s.cursor.rest.length + 1) s) ≤ left s :=
        left_skipToToken_le _ s
      generalize skipToToken (s.cursor.rest.length + 1) s = t at hskip ⊢
      have hstale : Stays chars lines t.cursor _ _ := dropStale_stays t
      dsimp only
      rw [hstale.same]
      cases hu : t.dropStale with
      | error e => rfl
      | ok u =>
        have hleft : left (u.unwind u.cursor.column) ≤ left s := by
          show left (u.unwind u.cursor.column).cursor ≤ _
          rw [unwind_cursor, hstale.stays u hu]
          exact hskip
        rw [moved_ok]
        dsimp only
        rw [moved_cursor, moved_column, moved_unwind]
        generalize u.unwind u.cursor.column = v at hleft ⊢
        have hread : Follows chars lines (left v) _ _ := readToken_follows v (Nat.le_succ _)
        rw [hread.same]
        cases hw : v.readToken with
        | error e => rfl
        | ok next =>
          rw [moved_ok]
          cases next with
          | some w =>
            -- a character is gone, so the fuel that is left is enough
            have hlt : left w < left v := left_lt_of_readToken hw
            rw [moved_some]
            exact ih (by omega) (by omega)
          | none =>
            have hdrop : Stays chars lines (v.unwind (-1)).cursor _ _ := dropCandidate_stays _
            rw [moved_none]
            dsimp only
            rw [moved_unwind, hdrop.same]
            cases (v.unwind (-1)).dropCandidate <;> rfl

end Lexer

end CiteSync.Yaml
