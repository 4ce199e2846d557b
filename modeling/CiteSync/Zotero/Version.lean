import CiteSync.Zotero.Answer

/-!
# Versions

The version of a collection's contents: the highest of its own version and the versions of the
items at its top, so that it grows whenever one of them is edited.
-/

namespace CiteSync.Zotero

open Library Remote

/-- A version in an answer; what it is compared with is named if it is not a number. -/
def readVersion (against : String) (v : Json) : Except Fault Int :=
  match v with
  | .int n => .ok n
  | .bool b => .ok (if b then 1 else 0)
  | .float _ => checked ((checkWhole v).within "version")
  | v => .error (.shape (.notComparable (shapeWord v) against))

/-- The versions of the items of a collection.  An answer that is not an object has none. -/
def readItemVersions (v : Json) : Except Fault (List Int) :=
  match v with
  | .obj ms => ms.mapM fun m => readVersion "int" m.2
  | _ => .ok []

def highest (own : Int) (others : List Int) : Int := others.foldl max own

theorem le_highest_own {own : Int} {others : List Int} : own ≤ highest own others := by
  induction others generalizing own with
  | nil => exact Int.le_refl _
  | cons v rest ih => exact Int.le_trans (Int.le_max_left own v) ih

theorem le_highest_of_mem {own v : Int} {others : List Int} (h : v ∈ others) :
    v ≤ highest own others := by
  induction others generalizing own with
  | nil => simp at h
  | cons w rest ih =>
    rcases List.mem_cons.1 h with rfl | h
    · exact Int.le_trans (Int.le_max_right own v) le_highest_own
    · exact ih h

theorem highest_le {own n : Int} {others : List Int} (h : own ≤ n) (hs : ∀ v ∈ others, v ≤ n) :
    highest own others ≤ n := by
  induction others generalizing own with
  | nil => exact h
  | cons v rest ih =>
    exact ih (Int.max_le.2 ⟨h, hs v (List.mem_cons_self ..)⟩)
      fun w hw => hs w (List.mem_cons_of_mem _ hw)

end CiteSync.Zotero
