/-!
# Searching in texts
-/

namespace CiteSync.Text

def containsChars (needle : List Char) : List Char → Bool
  | [] => needle.isEmpty
  | c :: rest => needle.isPrefixOf (c :: rest) || containsChars needle rest

def contains (s needle : String) : Bool := containsChars needle.toList s.toList

def startsWith (s needle : String) : Bool := needle.toList.isPrefixOf s.toList

/-- Texts with a separator between them. -/
def join (separator : String) : List String → String
  | [] => ""
  | [s] => s
  | s :: rest => s ++ separator ++ join separator rest

theorem containsChars_iff {needle cs : List Char} :
    containsChars needle cs = true ↔ ∃ before after, cs = before ++ needle ++ after := by
  induction cs with
  | nil =>
    constructor
    · intro h
      simp only [containsChars, List.isEmpty_iff] at h
      exact ⟨[], [], by simp [h]⟩
    · rintro ⟨a, b, h⟩
      have : needle = [] := by
        have := congrArg List.length h
        simp at this
        exact List.length_eq_zero_iff.1 (by omega)
      simp [containsChars, this]
  | cons c rest ih =>
    simp only [containsChars, Bool.or_eq_true, List.isPrefixOf_iff_prefix, ih]
    constructor
    · rintro (⟨t, h⟩ | ⟨a, b, h⟩)
      · exact ⟨[], t, by simpa using h.symm⟩
      · exact ⟨c :: a, b, by simp [h]⟩
    · rintro ⟨a, b, h⟩
      cases a with
      | nil => exact .inl ⟨b, by simpa using h.symm⟩
      | cons d a =>
        simp only [List.cons_append, List.cons.injEq] at h
        exact .inr ⟨a, b, by simpa using h.2⟩

end CiteSync.Text
