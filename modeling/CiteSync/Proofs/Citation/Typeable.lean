import CiteSync.Proofs.Citation.Grammar
import CiteSync.Proofs.Citation.Cursor
import CiteSync.Proofs.Citation.Suggestion

/-!
# Suggested keys that can be typed

The key of a work is made of ASCII letters and digits, and so is a key with one of the 26 letters
behind it.  The search for a free key goes on after them, to characters that are not letters, and
there a key can end that is never found at the cursor.
-/

namespace CiteSync.Citation

open Library

/-! ## 1. Plain keys -/

/-- A key of lower case ASCII letters and digits. -/
def IsPlain (key : String) : Prop := ∀ c ∈ key.toList, Text.isKeyChar c = true

theorem isKeyChar_iff {c : Char} :
    Text.isKeyChar c = true ↔ (97 ≤ c.toNat ∧ c.toNat ≤ 122) ∨ (48 ≤ c.toNat ∧ c.toNat ≤ 57) := by
  unfold Text.isKeyChar Char.isLower Char.isDigit
  simp only [Bool.or_eq_true, Bool.and_eq_true, decide_eq_true_eq, UInt32.le_iff_toNat_le]
  exact Iff.rfl

theorem isTokenChar_of_isKeyChar {c : Char} (h : Text.isKeyChar c = true) :
    isTokenChar c = true := by
  have hascii : c.toNat < 128 := by
    have hrange := isKeyChar_iff.1 h
    omega
  have halnum : c.isAlphanum = true := by
    unfold Text.isKeyChar at h
    unfold Char.isAlphanum Char.isAlpha
    rcases Bool.or_eq_true_iff.1 h with hlower | hdigit
    · simp [hlower]
    · simp [hdigit]
  simp [isTokenChar, Text.isWord, Text.isAsciiWord, hascii, halnum]

/-- The letters from `a` on are plain as far as `z`. -/
theorem isKeyChar_letter {n : Nat} (hn : n < letterCount) :
    Text.isKeyChar (Char.ofNat (97 + n)) = true ↔ n < 26 := by
  rw [isKeyChar_iff, toNat_letter hn]
  omega

theorem isPlain_lettered {base : String} {n : Nat} (hbase : IsPlain base) (hn : n < letterCount) :
    IsPlain (lettered base n) ↔ n < 26 := by
  unfold IsPlain lettered
  rw [String.toList_push, List.forall_mem_append, List.forall_mem_singleton, isKeyChar_letter hn]
  exact and_iff_right hbase

theorem firstPart_isKeyChar {texts : List (List Char)} {c : Char} (h : c ∈ firstPart texts) :
    Text.isKeyChar c = true := by
  unfold firstPart at h
  cases hfind : (texts.map keyPart).find? (· ≠ []) with
  | none =>
    rw [hfind] at h
    cases h
  | some part =>
    rw [hfind, Option.getD_some] at h
    obtain ⟨cs, -, rfl⟩ := List.mem_map.1 (List.mem_of_find?_eq_some hfind)
    exact keyPart_isKeyChar h

theorem stem_isKeyChar {w : Source} {c : Char} (h : c ∈ stem w) : Text.isKeyChar c = true := by
  have hcases : ∀ {as bs : List Char}, c ∈ (if as ≠ [] then as else bs) → c ∈ as ∨ c ∈ bs := by
    intro as bs hmem
    split at hmem
    · exact .inl hmem
    · exact .inr hmem
  rcases hcases h with hnamed | hnameless
  · rcases hcases hnamed with hname | hword
    · exact firstPart_isKeyChar hname
    · exact firstPart_isKeyChar hword
  · have hall : ∀ d ∈ nameless, Text.isKeyChar d = true := List.all_eq_true.1 rfl
    exact hall c hnameless

/-- A work without a year, or with digits for one, has a plain key. -/
theorem isPlain_baseKey {w : Source}
    (hyear : ∀ year, w.year = some year → ∀ c ∈ year.toList, c.isDigit = true) :
    IsPlain (baseKey w) := by
  intro c hc
  unfold baseKey at hc
  rw [String.toList_ofList, List.mem_append] at hc
  rcases hc with hstem | hdigit
  · exact stem_isKeyChar hstem
  · cases hw : w.year with
    | none => simp [hw] at hdigit
    | some year =>
      rw [hw, Option.getD_some] at hdigit
      simp [Text.isKeyChar, hyear year hw c hdigit]

/-! ## 2. Keys at the cursor -/

variable {key : String}

/-- A key that was typed behind an at sign, and the cursor behind it. -/
def keyTyped (key : String) : EditorState := ⟨"@" ++ key, key.length + 1⟩

/-- The whole key is read, or nothing. -/
theorem context?_keyTyped (hat : '@' ∉ key.toList) (c : Context) :
    context? (keyTyped key) = some c ↔
      (∀ d ∈ key.toList, isTokenChar d = true) ∧ c = ⟨key, 1⟩ := by
  have hlist : ("@" ++ key).toList = '@' :: key.toList := by simp [String.toList_append]
  -- the only at sign of the text is its first character
  have hreads : ∀ before token, Reads ('@' :: key.toList) before token ↔
      before = [] ∧ token = key.toList ∧ ∀ d ∈ key.toList, isTokenChar d = true := by
    intro before token
    constructor
    · intro h
      cases before with
      | nil =>
        obtain rfl := (List.cons.inj h.split).2
        exact ⟨rfl, rfl, h.key⟩
      | cons b before =>
        have hrest : key.toList = before ++ '@' :: token := (List.cons.inj h.split).2
        rw [hrest] at hat
        exact absurd (List.mem_append_right before List.mem_cons_self) hat
    · rintro ⟨rfl, rfl, hkey⟩
      exact ⟨rfl, hkey, fun d hd => by cases hd⟩
  have hinside : (0 : Int) ≤ key.length + 1 ∧ ((key.length + 1 : Int) ≤ ("@" ++ key).length) := by
    rw [String.length_append, show "@".length = 1 from rfl]
    omega
  have htake : ('@' :: key.toList).take ((key.length : Int) + 1).toNat = '@' :: key.toList := by
    apply List.take_of_length_le
    rw [List.length_cons, String.length_toList]
    omega
  rw [keyTyped, context?_eq, if_pos hinside, hlist, htake, contextAtEnd?_eq_some_iff]
  constructor
  · rintro ⟨before, token, h, rfl⟩
    obtain ⟨rfl, rfl, hkey⟩ := (hreads before token).1 h
    exact ⟨hkey, by rw [String.ofList_toList]; rfl⟩
  · rintro ⟨hkey, rfl⟩
    exact ⟨[], key.toList, (hreads _ _).2 ⟨rfl, rfl, hkey⟩, by rw [String.ofList_toList]; rfl⟩

/-! ## 3. Suggested keys -/

theorem at_notMem_lettered {base : String} {n : Nat} (hbase : IsPlain base)
    (hn : n < letterCount) : '@' ∉ (lettered base n).toList := by
  unfold lettered
  rw [String.toList_push, List.mem_append, List.mem_singleton]
  rintro (hmem | hletter)
  · have hkey := hbase '@' hmem
    revert hkey
    decide
  · -- the letters begin at `a`, and the at sign is before it
    have hnat := congrArg Char.toNat hletter
    rw [toNat_letter hn] at hnat
    have hsign : '@'.toNat = 64 := rfl
    omega

/-- What is suggested is the work's own key or that with the first letter that makes it free. -/
theorem suggestKey_cases (w : Source) {taken : List String}
    (few : taken.dedup.length < letterCount) :
    (baseKey w ∉ taken ∧ suggestKey w taken = baseKey w) ∨
      baseKey w ∈ taken ∧ ∃ n, n < letterCount ∧ suggestKey w taken = lettered (baseKey w) n ∧
        lettered (baseKey w) n ∉ taken ∧ ∀ m, m < n → lettered (baseKey w) m ∈ taken := by
  unfold suggestKey
  by_cases hbase : baseKey w ∈ taken
  · obtain ⟨n, hn, hfind⟩ := exists_freeLetter? (baseKey w) few
    obtain ⟨-, hfree, hfirst⟩ := freeLetter?_eq_some.1 hfind
    rw [freeKey_of_mem hbase, hfind]
    exact .inr ⟨hbase, n, by omega, rfl, hfree, hfirst⟩
  · exact .inl ⟨hbase, freeKey_of_not_mem hbase⟩

theorem isPlain_suggestKey {w : Source} {taken : List String}
    (few : taken.dedup.length < letterCount) (hplain : IsPlain (baseKey w)) :
    IsPlain (suggestKey w taken) ↔
      baseKey w ∉ taken ∨ ∃ n, n < 26 ∧ lettered (baseKey w) n ∉ taken := by
  rcases suggestKey_cases w few with ⟨hfree, hsame⟩ | ⟨hbase, n, hn, hsame, hfree, hfirst⟩
  · rw [hsame]
    exact iff_of_true hplain (.inl hfree)
  · rw [hsame, isPlain_lettered hplain hn]
    constructor
    · intro hletter
      exact .inr ⟨n, hletter, hfree⟩
    · rintro (hnot | ⟨m, hm, hmfree⟩)
      · exact absurd hbase hnot
      -- a letter that makes the key free is not before the first one that does
      · have hle : ¬ m < n := fun hlt => hmfree (hfirst m hlt)
        omega

theorem at_notMem_suggestKey {w : Source} {taken : List String}
    (few : taken.dedup.length < letterCount) (hplain : IsPlain (baseKey w)) :
    '@' ∉ (suggestKey w taken).toList := by
  rcases suggestKey_cases w few with ⟨-, hsame⟩ | ⟨-, n, hn, hsame, -⟩
  · rw [hsame]
    exact at_notMem fun d hd => isTokenChar_of_isKeyChar (hplain d hd)
  · rw [hsame]
    exact at_notMem_lettered hplain hn

/-- A key that is suggested for a work whose year is missing or made of digits is free, and it is
the work's own plain key or that with the first letter that makes it free.  It is plain exactly if
the work's own key is free or one of the 26 letters makes it so.  A plain key is found whole at the
cursor behind it; any other is found whole or not at all. -/
theorem suggested_key_is_plain_iff (w : Source)
    (hyear : ∀ year, w.year = some year → ∀ c ∈ year.toList, c.isDigit = true)
    (taken : List String) (few : taken.dedup.length < 50000) :
    suggestKey w taken ∉ taken ∧ IsPlain (baseKey w) ∧
    (baseKey w ∉ taken ∧ suggestKey w taken = baseKey w ∨
      baseKey w ∈ taken ∧ ∃ n, suggestKey w taken = lettered (baseKey w) n ∧
        ∀ m, m < n → lettered (baseKey w) m ∈ taken) ∧
    (IsPlain (suggestKey w taken) ↔
      baseKey w ∉ taken ∨ ∃ n, n < 26 ∧ lettered (baseKey w) n ∉ taken) ∧
    (IsPlain (suggestKey w taken) →
      context? (keyTyped (suggestKey w taken)) = some ⟨suggestKey w taken, 1⟩) ∧
    ∀ c, context? (keyTyped (suggestKey w taken)) = some c ↔
      (∀ d ∈ (suggestKey w taken).toList, isTokenChar d = true) ∧ c = ⟨suggestKey w taken, 1⟩ := by
  have hletters : taken.dedup.length < letterCount := by
    unfold letterCount
    omega
  have hplain := isPlain_baseKey hyear
  have hcontext := context?_keyTyped (at_notMem_suggestKey hletters hplain)
  refine ⟨freeKey_not_mem hletters, hplain, ?_, isPlain_suggestKey hletters hplain, ?_, hcontext⟩
  · rcases suggestKey_cases w hletters with hown | ⟨hbase, n, -, hsame, -, hfirst⟩
    · exact .inl hown
    · exact .inr ⟨hbase, n, hsame, hfirst⟩
  · intro hkey
    exact (hcontext _).2 ⟨fun d hd => isTokenChar_of_isKeyChar (hkey d hd), rfl⟩

/-- A work of 2020 by someone who publishes a lot. -/
def prolific : Source where
  creators := [{ family := some "Smith" }]
  year := some "2020"

/-- The key of that work, and that with as many letters. -/
def takenKeys (letters : Nat) : List String :=
  baseKey prolific :: (List.range letters).map (lettered (baseKey prolific))

theorem prolific_year :
    ∀ year, prolific.year = some year → ∀ c ∈ year.toList, c.isDigit = true := by
  rintro _ ⟨rfl⟩
  exact List.all_eq_true.1 rfl

/-- With 25 letters in use there is one left. -/
theorem suggested_key_is_plain_iff_last_letter :
    IsPlain (suggestKey prolific (takenKeys 25)) ∧
      context? (keyTyped (suggestKey prolific (takenKeys 25))) =
        some ⟨suggestKey prolific (takenKeys 25), 1⟩ := by
  have few : (takenKeys 25).dedup.length < 50000 :=
    Nat.lt_of_le_of_lt (takenKeys 25).dedup_sublist.length_le (by decide)
  obtain ⟨-, -, -, hplain, hfound, -⟩ :=
    suggested_key_is_plain_iff prolific prolific_year (takenKeys 25) few
  have hkey := hplain.2 (.inr ⟨25, by decide, by decide⟩)
  exact ⟨hkey, hfound hkey⟩

/-- With all 26 letters in use an opening brace is put behind the key, and what is typed of it is
not found at the cursor. -/
theorem letters_run_out :
    (takenKeys 26).length < 50000 ∧ suggestKey prolific (takenKeys 26) = "smith2020\x7b" ∧
      ¬ IsPlain (suggestKey prolific (takenKeys 26)) ∧
      context? (keyTyped (suggestKey prolific (takenKeys 26))) = none := by
  have hkey : suggestKey prolific (takenKeys 26) = "smith2020\x7b" := by decide +kernel
  rw [hkey]
  refine ⟨by decide, rfl, ?_, by decide +kernel⟩
  intro hplain
  have hbrace := hplain '\x7b' (by decide)
  revert hbrace
  decide

end CiteSync.Citation
