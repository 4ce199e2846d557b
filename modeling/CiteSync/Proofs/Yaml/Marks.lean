import CiteSync.Proofs.Yaml.Places
import CiteSync.Yaml.Token.Mark

/-!
# Names, tags and preamble lines further on

The marks in front of a value and of a document are read alike from a place and from one further on.
-/

namespace CiteSync.Yaml

open Placed

variable {chars lines n : Nat} {c : Cursor}

theorem readName_follows (mayFollow : Char → Bool) (h : left c ≤ n) :
    Follows chars lines n (readName mayFollow c) (readName mayFollow (moved chars lines c)) := by
  unfold readName
  simp only [moved_run, moved_skip, moved_peek]
  split
  · exact .error _
  · exact .ok (.pair _ (.skip h _))

theorem readUriBytes_follows (fuel : Nat) (h : left c ≤ n) :
    Follows chars lines n (readUriBytes fuel c) (readUriBytes fuel (moved chars lines c)) := by
  induction fuel generalizing c with
  | zero => exact .error _
  | succ fuel ih =>
    unfold readUriBytes
    simp only [moved_peek, moved_skip]
    split
    · split
      · apply Follows.bindPair (ih (Nat.le_trans (left_skip_le c 3) h))
        intro bytes c' h'
        exact .ok (.pair _ (.self h'))
      · exact .error _
    · exact .ok (.pair _ (.self h))

theorem readUri_follows (fuel : Nat) (h : left c ≤ n) :
    Follows chars lines n (readUri fuel c) (readUri fuel (moved chars lines c)) := by
  induction fuel generalizing c with
  | zero => exact .ok (.pair _ (.self h))
  | succ fuel ih =>
    unfold readUri
    simp only [moved_peek, moved_step, moved_rest]
    split
    · apply Follows.bindPair (readUriBytes_follows _ h)
      intro bytes c' h'
      dsimp only
      split
      · apply Follows.bindPair (ih h')
        intro text c'' h''
        exact .ok (.pair _ (.self h''))
      · exact .error _
    · split
      · apply Follows.bindPair (ih (Nat.le_trans (left_step_le c) h))
        intro text c' h'
        exact .ok (.pair _ (.self h'))
      · exact .ok (.pair _ (.self h))

theorem readTagText_follows (h : left c ≤ n) :
    Follows chars lines n (readTagText c) (readTagText (moved chars lines c)) := by
  unfold readTagText
  apply Follows.bindPair (readUri_follows _ h)
  intro text c' h'
  dsimp only
  rw [moved_peek]
  split
  · exact .error _
  · exact .ok (.pair _ (.self h'))

theorem readHandle_follows (h : left c.step ≤ n) :
    Follows chars lines n (readHandle c) (readHandle (moved chars lines c)) := by
  unfold readHandle
  simp only [moved_peek, moved_step, moved_run, moved_skip]
  split
  · exact .error _
  · split
    · exact .ok (.pair _ (.self h))
    · split
      · exact .ok (.pair _ (.skip h _))
      · exact .error _

/-- What a tag has to be followed by. -/
theorem tagEnd_follows {tag : TagText} (h : left c ≤ n) :
    Follows chars lines n
      (if isSpaceOrEnd (c.peek 0) then .ok (tag, c) else .error .malformed)
      (if isSpaceOrEnd ((moved chars lines c).peek 0) then .ok (tag, moved chars lines c)
        else .error .malformed : Except Fault (TagText × Cursor)) := by
  rw [moved_peek]
  split
  · exact .ok (.pair _ (.self h))
  · exact .error _

theorem readTag_follows (h : left c.step ≤ n) :
    Follows chars lines n (readTag c) (readTag (moved chars lines c)) := by
  unfold readTag
  simp only [moved_peek, moved_step, moved_run, moved_skip]
  split
  · have hskip : left (c.skip 2) ≤ n := Nat.le_trans (left_skip_le c.step 1) h
    apply Follows.bindPair (readTagText_follows hskip)
    intro rest c' h'
    dsimp only
    simp only [moved_peek, moved_step]
    split
    · exact tagEnd_follows (Nat.le_trans (left_step_le c') h')
    · exact .error _
  · split
    · exact tagEnd_follows h
    · split
      · apply Follows.bindPair (readHandle_follows h)
        intro handle c' h'
        apply Follows.bindPair (readTagText_follows h')
        intro rest c'' h''
        exact tagEnd_follows h''
      · apply Follows.bindPair (readTagText_follows h)
        intro rest c' h'
        exact tagEnd_follows h'

theorem readVersionNumber_follows (h : left c ≤ n) :
    Follows chars lines n (readVersionNumber c) (readVersionNumber (moved chars lines c)) := by
  unfold readVersionNumber
  simp only [moved_run, moved_skip]
  split
  · exact .error _
  · exact .ok (.pair _ (.skip h _))

/-- A preamble line ends where the line does. -/
theorem preambleEnd_follows (line : Preamble) (h : left c ≤ n) :
    Follows chars lines n (do return (line, ← c.endOfLine) : Except Fault (Preamble × Cursor))
      (do return (line, ← (moved chars lines c).endOfLine)) := by
  apply Follows.bind (endOfLine_follows h)
  intro c' h'
  exact .ok (.pair _ (.self h'))

theorem readPreamble_follows (h : left c.step ≤ n) :
    Follows chars lines n (readPreamble c) (readPreamble (moved chars lines c)) := by
  unfold readPreamble
  rw [moved_step]
  apply Follows.bindPair (readName_follows _ h)
  intro name c₁ h₁
  dsimp only
  simp only [moved_skipSpaces, moved_skipRun]
  split
  · apply Follows.bindPair (readVersionNumber_follows (Nat.le_trans (left_skip_le c₁ _) h₁))
    intro major c₂ h₂
    dsimp only
    simp only [moved_peek, moved_step]
    split
    · exact .error _
    · apply Follows.bindPair (readVersionNumber_follows (Nat.le_trans (left_step_le c₂) h₂))
      intro minor c₃ h₃
      dsimp only
      rw [moved_peek]
      split
      · exact preambleEnd_follows _ h₃
      · exact .error _
  · split
    · have hspaces : left c₁.skipSpaces ≤ n := Nat.le_trans (left_skip_le c₁ _) h₁
      apply Follows.bindPair (readHandle_follows (Nat.le_trans (left_step_le _) hspaces))
      intro handle c₂ h₂
      dsimp only
      simp only [moved_peek, moved_skipSpaces]
      split
      · exact .error _
      · apply Follows.bindPair (readTagText_follows (Nat.le_trans (left_skip_le c₂ _) h₂))
        intro expansion c₃ h₃
        dsimp only
        rw [moved_peek]
        split
        · exact preambleEnd_follows _ h₃
        · exact .error _
    · exact preambleEnd_follows _ (Nat.le_trans (left_skip_le c₁ _) h₁)

end CiteSync.Yaml
