import Mathlib.Data.List.Forall2
import Mathlib.Data.List.Nodup

/-!
# Lists

Lists whose elements correspond one to one and in order, lookups by a feature that is distinct, and
the places where a list can be cut.
-/

namespace CiteSync

/-! ## Side by side -/

variable {α β γ δ : Type} {R : α → β → Prop} {as : List α} {bs : List β}

theorem forall₂_trans {S : β → γ → Prop} {cs : List γ} (hab : List.Forall₂ R as bs)
    (hbc : List.Forall₂ S bs cs) : List.Forall₂ (fun a c => ∃ b, R a b ∧ S b c) as cs := by
  induction hab generalizing cs with
  | nil =>
    cases hbc
    exact .nil
  | cons hr _ ih =>
    cases hbc with
    | cons hs hrest => exact .cons ⟨_, hr, hs⟩ (ih hrest)

theorem forall₂_exists_left (h : List.Forall₂ R as bs) {b : β} (hb : b ∈ bs) :
    ∃ a ∈ as, R a b := by
  induction h with
  | nil => cases hb
  | cons hr _ ih =>
    rcases List.mem_cons.1 hb with rfl | hb
    · exact ⟨_, List.mem_cons_self .., hr⟩
    · obtain ⟨a, ha, har⟩ := ih hb
      exact ⟨a, List.mem_cons_of_mem _ ha, har⟩

theorem forall₂_exists_right (h : List.Forall₂ R as bs) {a : α} (ha : a ∈ as) :
    ∃ b ∈ bs, R a b :=
  forall₂_exists_left h.flip ha

theorem forall₂_getElem? (h : List.Forall₂ R as bs) {i : Nat} {a : α} (ha : as[i]? = some a) :
    ∃ b, bs[i]? = some b ∧ R a b := by
  obtain ⟨hi, rfl⟩ := List.getElem?_eq_some_iff.1 ha
  have hi' : i < bs.length := h.length_eq ▸ hi
  exact ⟨bs[i], List.getElem?_eq_getElem hi', h.get hi hi'⟩

theorem forall₂_set {S : α → α → Prop} (hrefl : ∀ a, S a a) {i : Nat} {a b : α}
    (ha : as[i]? = some a) (hab : S a b) : List.Forall₂ S as (as.set i b) := by
  induction as generalizing i with
  | nil => cases ha
  | cons x as ih =>
    cases i with
    | zero =>
      obtain rfl := Option.some.inj ha
      exact .cons hab (List.forall₂_same.2 fun y _ => hrefl y)
    | succ i => exact .cons (hrefl x) (ih ha)

theorem forall₂_modify {S : α → α → Prop} (hrefl : ∀ a, S a a) (i : Nat) {change : α → α}
    (hchange : ∀ a, S a (change a)) : List.Forall₂ S as (as.modify i change) := by
  induction as generalizing i with
  | nil => rw [List.modify_nil]; exact .nil
  | cons x as ih =>
    cases i with
    | zero => exact .cons (hchange x) (List.forall₂_same.2 fun y _ => hrefl y)
    | succ i => exact .cons (hrefl x) (ih i)

/-- Where corresponding elements agree in a feature, the lists do. -/
theorem forall₂_map_eq {f : α → δ} {g : β → δ} (h : List.Forall₂ R as bs)
    (hfg : ∀ a b, R a b → f a = g b) : as.map f = bs.map g := by
  induction h with
  | nil => rfl
  | cons hr _ ih => rw [List.map_cons, List.map_cons, hfg _ _ hr, ih]

/-! ## Looking up -/

theorem getElem?_append_of_some {more : List α} {i : Nat} {a : α} (ha : as[i]? = some a) :
    (as ++ more)[i]? = some a :=
  (List.getElem?_append_left (List.getElem?_eq_some_iff.1 ha).1).trans ha

theorem new_of_append_singleton {i : Nat} {a b : α} (here : (as ++ [b])[i]? = some a)
    (hnew : as.length ≤ i) : i = as.length ∧ a = b := by
  rw [List.getElem?_append_right hnew] at here
  have hlt := (List.getElem?_eq_some_iff.1 here).1
  rw [List.length_singleton] at hlt
  have hzero : i - as.length = 0 := by omega
  rw [hzero] at here
  exact ⟨by omega, (Option.some.inj here).symm⟩

/-- Where a feature is distinct, an element is found by it. -/
theorem find?_of_nodup_map [DecidableEq δ] {f : α → δ} (hdistinct : (as.map f).Nodup) {a : α}
    (ha : a ∈ as) : as.find? (fun x => f x == f a) = some a := by
  cases hfind : as.find? fun x => f x == f a with
  | none =>
    have hnot := List.find?_eq_none.1 hfind a ha
    exact absurd (beq_self_eq_true (f a)) hnot
  | some found =>
    have hmem := List.mem_of_find?_eq_some hfind
    have hsame : f found = f a := by simpa using List.find?_some hfind
    rw [List.inj_on_of_nodup_map hdistinct hmem ha hsame]

theorem nodup_eraseDups [BEq α] [LawfulBEq α] (xs : List α) : xs.eraseDups.Nodup := by
  generalize hcount : xs.length = count
  induction count using Nat.strongRecOn generalizing xs with
  | ind count ih =>
    cases xs with
    | nil => exact List.nodup_nil
    | cons x rest =>
      rw [List.eraseDups_cons, List.nodup_cons]
      have hshorter : (rest.filter fun y => !(y == x)).length < count := by
        have hle := List.length_filter_le (fun y => !(y == x)) rest
        rw [List.length_cons] at hcount
        omega
      refine ⟨fun hmem => ?_, ih _ hshorter _ rfl⟩
      simp at hmem

/-! ## Cuts -/

/-- Two elements that a list is cut at are at the same place, or one is in the other's part. -/
theorem cut_cases {x y : α} {front behind front' behind' : List α}
    (h : front ++ x :: behind = front' ++ y :: behind') :
    (front = front' ∧ x = y ∧ behind = behind') ∨
      (∃ inner, front' = front ++ x :: inner ∧ behind = inner ++ y :: behind') ∨
        ∃ inner, front = front' ++ y :: inner ∧ behind' = inner ++ x :: behind := by
  rcases List.append_eq_append_iff.1 h with ⟨rest, rfl, hrest⟩ | ⟨rest, rfl, hrest⟩
  · rcases List.cons_eq_append_iff.1 hrest with ⟨rfl, heq⟩ | ⟨inner, rfl, rfl⟩
    · obtain ⟨rfl, rfl⟩ := List.cons.inj heq
      exact .inl ⟨(List.append_nil _).symm, rfl, rfl⟩
    · exact .inr (.inl ⟨inner, rfl, rfl⟩)
  · rcases List.cons_eq_append_iff.1 hrest with ⟨rfl, heq⟩ | ⟨inner, rfl, rfl⟩
    · obtain ⟨rfl, rfl⟩ := List.cons.inj heq
      exact .inl ⟨List.append_nil _, rfl, rfl⟩
    · exact .inr (.inr ⟨inner, rfl, rfl⟩)

/-- There is one way to cut a list at the last place where an element stands. -/
theorem last_cut_unique {x : α} {front behind front' behind' : List α} (hlast : x ∉ behind)
    (hlast' : x ∉ behind') (h : front ++ x :: behind = front' ++ x :: behind') :
    front = front' ∧ behind = behind' := by
  rcases cut_cases h with ⟨hfront, -, hbehind⟩ | ⟨inner, -, rfl⟩ | ⟨inner, -, rfl⟩
  · exact ⟨hfront, hbehind⟩
  · exact absurd (List.mem_append_right inner List.mem_cons_self) hlast
  · exact absurd (List.mem_append_right inner List.mem_cons_self) hlast'

end CiteSync
