import CiteSync.Proofs.Yaml.Lexing
import CiteSync.Yaml.Value.Builder

/-!
# Empty lines in front of a text

Lines of nothing but spaces in front of a text leave its tokens as they are, and with them its
value.
-/

namespace CiteSync.Yaml

open Placed

variable {blanks cs : List Char}

theorem skip_blanks {index line column : Nat} (h : ∀ b ∈ blanks, b = ' ') :
    (Cursor.mk (blanks ++ cs) index line column).skip blanks.length =
      Cursor.mk cs (index + blanks.length) line (column + blanks.length) := by
  induction blanks generalizing index column with
  | nil => rfl
  | cons b blanks ih =>
    obtain ⟨rfl, hmore⟩ := List.forall_mem_cons.1 h
    show (Cursor.mk (blanks ++ cs) (index + 1) line (column + 1)).skip blanks.length = _
    rw [ih hmore, List.length_cons, Nat.add_right_comm, Nat.add_right_comm column]
    rfl

theorem skipSpaces_emptyLine (h : ∀ b ∈ blanks, b = ' ') :
    (Cursor.mk (blanks ++ '\n' :: cs) 0 0 0).skipSpaces =
      Cursor.mk ('\n' :: cs) blanks.length 0 blanks.length := by
  have hrun : (blanks ++ '\n' :: cs).takeWhile (fun d => d == ' ' && !isEnd d) = blanks := by
    rw [List.takeWhile_append_of_pos, List.takeWhile_cons_of_neg (by decide), List.append_nil]
    intro b hb
    rw [h b hb]
    decide
  show (Cursor.mk (blanks ++ '\n' :: cs) 0 0 0).skip
    ((blanks ++ '\n' :: cs).takeWhile fun d => d == ' ' && !isEnd d).length = _
  rw [hrun, skip_blanks h, Nat.zero_add]

namespace Lexer

/-- The lexer at the start of a text. -/
def start (cs : List Char) : Lexer := { cursor := { rest := cs } }

theorem readAll_congr {s t : Lexer} (fuel : Nat)
    (h : skipToToken (s.cursor.rest.length + 1) s = skipToToken (t.cursor.rest.length + 1) t) :
    readAll (fuel + 1) s = readAll (fuel + 1) t := by
  unfold readAll
  rw [h]

theorem skipToToken_emptyLine (h : ∀ b ∈ blanks, b = ' ') :
    skipToToken ((blanks ++ '\n' :: cs).length + 1) (start (blanks ++ '\n' :: cs)) =
      skipToToken (cs.length + 1) (moved (blanks.length + 1) 1 (start cs)) := by
  have hcursor : (start (blanks ++ '\n' :: cs)).cursor.skipSpaces.skipComment =
      Cursor.mk ('\n' :: cs) blanks.length 0 blanks.length := by
    unfold start
    rw [skipSpaces_emptyLine h]
    rfl
  have hstep : (Cursor.mk ('\n' :: cs) blanks.length 0 blanks.length).step =
      moved (blanks.length + 1) 1 (start cs).cursor := by
    show Cursor.mk cs (blanks.length + 1) 1 0 = Cursor.mk cs (0 + (blanks.length + 1)) 1 0
    rw [Nat.zero_add]
  have hbreak : isBreak ((Cursor.mk ('\n' :: cs) blanks.length 0 blanks.length).peek 0) = true :=
    rfl
  rw [skipToToken, hcursor, if_pos hbreak, hstep]
  have hlength : cs.length < (blanks ++ '\n' :: cs).length := by
    rw [List.length_append, List.length_cons]
    omega
  exact skipToToken_fuel (s := moved (blanks.length + 1) 1 (start cs)) hlength (Nat.lt_succ_self _)

end Lexer

theorem head?_emptyLine (h : ∀ b ∈ blanks, b = ' ') :
    (blanks ++ '\n' :: cs).head? ≠ some byteOrderMark := by
  intro hmark
  cases blanks with
  | nil => exact absurd (Option.some.inj hmark) (by decide)
  | cons b blanks =>
    rw [h b (.head _)] at hmark
    exact absurd (Option.some.inj hmark) (by decide)

/-- An empty line in front of a text leaves its tokens as they are. -/
theorem tokens_emptyLine (h : ∀ b ∈ blanks, b = ' ') (hcs : cs.head? ≠ some byteOrderMark) :
    tokens (blanks ++ '\n' :: cs) = tokens cs := by
  unfold tokens
  rw [if_neg (mt beq_iff_eq.1 (head?_emptyLine h)), if_neg (mt beq_iff_eq.1 hcs)]
  show Lexer.readAll _ (.start (blanks ++ '\n' :: cs)) = Lexer.readAll _ (.start cs)
  rw [Lexer.readAll_congr _ (Lexer.skipToToken_emptyLine h)]
  apply Lexer.readAll_moved
  · show cs.length < cs.length + 2
    omega
  · show cs.length < (blanks ++ '\n' :: cs).length + 2
    rw [List.length_append, List.length_cons]
    omega

/-- An empty line in front of a text leaves its value as it is. -/
theorem load_emptyLine (h : ∀ b ∈ blanks, b = ' ') (hcs : cs.head? ≠ some byteOrderMark) :
    load (blanks ++ '\n' :: cs) = load cs := by
  have hblanks : blanks.all isYamlChar = true := by
    rw [List.all_eq_true]
    intro b hb
    rw [h b hb]
    decide
  have hchars : (blanks ++ '\n' :: cs).all isYamlChar = cs.all isYamlChar := by
    rw [List.all_append, List.all_cons, hblanks]
    rfl
  unfold load readDocument
  rw [tokens_emptyLine h hcs, hchars]

end CiteSync.Yaml
