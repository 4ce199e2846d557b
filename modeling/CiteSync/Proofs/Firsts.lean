import CiteSync.Completion.Bibliography
import CiteSync.Proofs.Session.Ledger

/-!
# First of their kind

Of several elements with one key the first is kept, and elements without a key are left out.  What
is kept of a list is known by the first places of the keys.  Candidates are kept by their identities
and works by their citation keys.
-/

namespace CiteSync

variable {α β κ : Type} [BEq β] [LawfulBEq β] [BEq κ] [LawfulBEq κ]

/-! ## 1. Lists -/

/-- The elements that none before has the key of; `seen` are the keys before. -/
def firstsBy (key : α → Option κ) (seen : List κ) : List α → List α
  | [] => []
  | x :: rest =>
    match key x with
    | some k =>
      if seen.contains k then firstsBy key seen rest else x :: firstsBy key (k :: seen) rest
    | none => firstsBy key seen rest

/-- The first place in a list with the feature of an element. -/
def firstPlace (feature : α → β) (xs : List α) (x : α) : Nat :=
  xs.findIdx fun y => feature y == feature x

theorem firstPlace_cons_of_eq {feature : α → β} {x y : α} (h : feature y = feature x)
    (rest : List α) : firstPlace feature (y :: rest) x = 0 := by
  simp [firstPlace, List.findIdx_cons, h]

theorem firstPlace_cons_of_ne {feature : α → β} {x y : α} (h : feature y ≠ feature x)
    (rest : List α) :
    firstPlace feature (y :: rest) x = firstPlace feature rest x + 1 := by
  have hother : (feature y == feature x) = false := beq_false_of_ne h
  simp [firstPlace, List.findIdx_cons, hother]

variable {key : α → Option κ} {seen : List κ} {xs : List α}

omit [LawfulBEq κ] in
theorem firstsBy_cons_keyless {x : α} (hx : key x = none) (rest : List α) :
    firstsBy key seen (x :: rest) = firstsBy key seen rest := by
  rw [firstsBy, hx]

theorem firstsBy_cons_seen {x : α} {k : κ} (hx : key x = some k) (hseen : k ∈ seen)
    (rest : List α) : firstsBy key seen (x :: rest) = firstsBy key seen rest := by
  rw [firstsBy, hx]
  exact if_pos (List.contains_iff_mem.2 hseen)

theorem firstsBy_cons_new {x : α} {k : κ} (hx : key x = some k) (hseen : k ∉ seen)
    (rest : List α) :
    firstsBy key seen (x :: rest) = x :: firstsBy key (k :: seen) rest := by
  rw [firstsBy, hx]
  exact if_neg fun h => hseen (List.contains_iff_mem.1 h)

theorem firstsBy_sublist : (firstsBy key seen xs).Sublist xs := by
  induction xs generalizing seen with
  | nil => exact .slnil
  | cons x rest ih =>
    cases hx : key x with
    | none =>
      rw [firstsBy_cons_keyless hx]
      exact ih.cons x
    | some k =>
      by_cases hseen : k ∈ seen
      · rw [firstsBy_cons_seen hx hseen]
        exact ih.cons x
      · rw [firstsBy_cons_new hx hseen]
        exact ih.cons_cons x

/-- Nothing is kept of the elements with a key that was seen before. -/
theorem filter_seen_firstsBy {k : κ} (hseen : k ∈ seen) :
    (firstsBy key seen xs).filter (fun x => key x == some k) = [] := by
  induction xs generalizing seen with
  | nil => rfl
  | cons x rest ih =>
    cases hx : key x with
    | none => rw [firstsBy_cons_keyless hx, ih hseen]
    | some j =>
      by_cases hj : j ∈ seen
      · rw [firstsBy_cons_seen hx hj, ih hseen]
      · have hjk : j ≠ k := fun h => hj (h ▸ hseen)
        rw [firstsBy_cons_new hx hj, List.filter_cons_of_neg (by simp [hx, hjk]),
          ih (List.mem_cons_of_mem j hseen)]

/-- Of the elements with a key that was not seen before the first one is kept. -/
theorem filter_new_firstsBy {k : κ} (hnew : k ∉ seen) :
    (firstsBy key seen xs).filter (fun x => key x == some k) =
      (xs.find? fun x => key x == some k).toList := by
  induction xs generalizing seen with
  | nil => rfl
  | cons x rest ih =>
    cases hx : key x with
    | none =>
      rw [firstsBy_cons_keyless hx, List.find?_cons_of_neg (by simp [hx]), ih hnew]
    | some j =>
      by_cases hj : j ∈ seen
      · have hjk : j ≠ k := fun h => hnew (h ▸ hj)
        rw [firstsBy_cons_seen hx hj, List.find?_cons_of_neg (by simp [hx, hjk]), ih hnew]
      · rw [firstsBy_cons_new hx hj]
        by_cases hjk : j = k
        · subst hjk
          rw [List.filter_cons_of_pos (by simp [hx]), List.find?_cons_of_pos (by simp [hx]),
            filter_seen_firstsBy List.mem_cons_self]
          rfl
        · rw [List.filter_cons_of_neg (by simp [hx, hjk]),
            List.find?_cons_of_neg (by simp [hx, hjk]), ih (by simp [hnew, Ne.symm hjk])]

theorem key_of_mem_firstsBy {x : α} (h : x ∈ firstsBy key seen xs) :
    ∃ k, key x = some k ∧ k ∉ seen := by
  induction xs generalizing seen with
  | nil => exact absurd h List.not_mem_nil
  | cons y rest ih =>
    cases hy : key y with
    | none => exact ih (firstsBy_cons_keyless hy rest ▸ h)
    | some j =>
      by_cases hj : j ∈ seen
      · exact ih (firstsBy_cons_seen hy hj rest ▸ h)
      · rw [firstsBy_cons_new hy hj, List.mem_cons] at h
        rcases h with rfl | h
        · exact ⟨j, hy, hj⟩
        · obtain ⟨k, hk, hnew⟩ := ih h
          exact ⟨k, hk, fun hseen => hnew (List.mem_cons_of_mem j hseen)⟩

/-- An element is kept if it is the first one with its key, and the key was not seen before. -/
theorem mem_firstsBy {x : α} :
    x ∈ firstsBy key seen xs ↔
      ∃ k, key x = some k ∧ k ∉ seen ∧ xs.find? (fun y => key y == some k) = some x := by
  have hfound : ∀ {k}, key x = some k → k ∉ seen → (x ∈ firstsBy key seen xs ↔
      xs.find? (fun y => key y == some k) = some x) := by
    intro k hk hnew
    have hkept : (firstsBy key seen xs).filter (fun y => key y == some k) =
        (xs.find? fun y => key y == some k).toList := filter_new_firstsBy hnew
    rw [← Option.mem_toList, ← hkept, List.mem_filter]
    simp [hk]
  constructor
  · intro h
    obtain ⟨k, hk, hnew⟩ := key_of_mem_firstsBy h
    exact ⟨k, hk, hnew, (hfound hk hnew).1 h⟩
  · rintro ⟨k, hk, hnew, hfind⟩
    exact (hfound hk hnew).2 hfind

/-- What is kept is in the order of the first places of the keys. -/
theorem firstsBy_pairwise :
    (firstsBy key seen xs).Pairwise fun x y => firstPlace key xs x < firstPlace key xs y := by
  induction xs generalizing seen with
  | nil => exact .nil
  | cons x rest ih =>
    -- an element with another key than the first one's is one place further behind
    have hbehind : ∀ {seen' : List κ}, (∀ y ∈ firstsBy key seen' rest, key x ≠ key y) →
        (firstsBy key seen' rest).Pairwise fun y z =>
          firstPlace key (x :: rest) y < firstPlace key (x :: rest) z := by
      intro seen' hother
      have hrest : (firstsBy key seen' rest).Pairwise fun y z =>
          firstPlace key rest y < firstPlace key rest z := ih
      refine hrest.imp_of_mem fun hy hz hlt => ?_
      rw [firstPlace_cons_of_ne (hother _ hy), firstPlace_cons_of_ne (hother _ hz)]
      omega
    cases hx : key x with
    | none =>
      rw [firstsBy_cons_keyless hx]
      refine hbehind fun y hy hsame => ?_
      obtain ⟨k, hk, -⟩ := key_of_mem_firstsBy hy
      rw [hx, hk] at hsame
      cases hsame
    | some j =>
      have hnew : ∀ {seen' : List κ}, j ∈ seen' → ∀ y ∈ firstsBy key seen' rest,
          key x ≠ key y := by
        intro seen' hj y hy hsame
        obtain ⟨k, hk, hnot⟩ := key_of_mem_firstsBy hy
        rw [hx, hk] at hsame
        exact hnot (Option.some.inj hsame ▸ hj)
      by_cases hseen : j ∈ seen
      · rw [firstsBy_cons_seen hx hseen]
        exact hbehind (hnew hseen)
      · rw [firstsBy_cons_new hx hseen]
        refine List.pairwise_cons.2 ⟨fun y hy => ?_, hbehind (hnew List.mem_cons_self)⟩
        rw [firstPlace_cons_of_eq rfl, firstPlace_cons_of_ne (hnew List.mem_cons_self y hy)]
        omega

/-- Keys that no element has make no difference. -/
theorem firstsBy_congr {seen' : List κ}
    (h : ∀ x ∈ xs, ∀ k, key x = some k → (k ∈ seen ↔ k ∈ seen')) :
    firstsBy key seen xs = firstsBy key seen' xs := by
  induction xs generalizing seen seen' with
  | nil => rfl
  | cons x rest ih =>
    have hrest := fun y hy => h y (List.mem_cons_of_mem x hy)
    cases hx : key x with
    | none => rw [firstsBy_cons_keyless hx, firstsBy_cons_keyless hx, ih hrest]
    | some j =>
      have hsame : j ∈ seen ↔ j ∈ seen' := h x List.mem_cons_self j hx
      by_cases hj : j ∈ seen
      · rw [firstsBy_cons_seen hx hj, firstsBy_cons_seen hx (hsame.1 hj), ih hrest]
      · have hmore : firstsBy key (j :: seen) rest = firstsBy key (j :: seen') rest :=
          ih fun y hy k hk => by rw [List.mem_cons, List.mem_cons, hrest y hy k hk]
        rw [firstsBy_cons_new hx hj, firstsBy_cons_new hx fun hj' => hj (hsame.2 hj'), hmore]

/-- To keep the firsts and to select by the key may change places. -/
theorem filter_firstsBy {p : α → Bool} (hp : ∀ x y, key x = key y → p x = p y) :
    (firstsBy key seen xs).filter p = firstsBy key seen (xs.filter p) := by
  induction xs generalizing seen with
  | nil => rfl
  | cons x rest ih =>
    rw [List.filter_cons]
    cases hx : key x with
    | none =>
      rw [firstsBy_cons_keyless hx, ih]
      split
      next => rw [firstsBy_cons_keyless hx]
      next => rfl
    | some j =>
      by_cases hj : j ∈ seen
      · rw [firstsBy_cons_seen hx hj, ih]
        split
        next => rw [firstsBy_cons_seen hx hj]
        next => rfl
      · rw [firstsBy_cons_new hx hj, List.filter_cons, ih]
        split
        next => rw [firstsBy_cons_new hx hj]
        next hpx =>
          -- nothing that is selected has the key of an element that is not
          refine firstsBy_congr fun y hy k hk => ?_
          have hne : k ≠ j := by
            rintro rfl
            exact hpx (hp y x (hk.trans hx.symm) ▸ (List.mem_filter.1 hy).2)
          simp [hne]

end CiteSync

namespace CiteSync.Completion

open Library Session

/-! ## 2. Candidates -/

theorem unseen_eq_firstsBy (seen : List (String × String)) (cs : List Candidate) :
    unseen seen cs = firstsBy (fun c => some c.identity) seen cs := by
  induction cs generalizing seen with
  | nil => rfl
  | cons c rest ih => simp only [unseen, firstsBy, ih]

theorem dedupe_eq_firstsBy (cs : List Candidate) :
    dedupe cs = firstsBy (fun c => some c.identity) [] cs := unseen_eq_firstsBy [] cs

/-- Of the candidates of an identity the first one is kept. -/
theorem filter_identity_dedupe (identity : String × String) (cs : List Candidate) :
    (dedupe cs).filter (·.identity == identity) =
      (cs.find? (·.identity == identity)).toList := by
  have hkept : (firstsBy (fun c => some c.identity) [] cs).filter
        (fun c => some c.identity == some identity) =
      (cs.find? fun c => some c.identity == some identity).toList :=
    filter_new_firstsBy List.not_mem_nil
  rw [dedupe_eq_firstsBy]
  exact hkept

theorem dedupe_pairwise (cs : List Candidate) :
    (dedupe cs).Pairwise fun c d =>
      firstPlace Candidate.identity cs c < firstPlace Candidate.identity cs d := by
  have hkept : (firstsBy (fun c => some c.identity) [] cs).Pairwise fun c d =>
      firstPlace (fun c => some c.identity) cs c < firstPlace (fun c => some c.identity) cs d :=
    firstsBy_pairwise
  rw [dedupe_eq_firstsBy]
  simpa [firstPlace] using hkept

/-! ## 3. Works -/

variable {works : List Source} {v w : Source}

theorem unseenWorks_eq_firstsBy (seen : List String) (works : List Source) :
    unseenWorks seen works = firstsBy (fun w => filled? w.id) seen works := by
  induction works generalizing seen with
  | nil => rfl
  | cons w rest ih =>
    rw [unseenWorks, firstsBy]
    cases filled? w.id with
    | none => exact ih seen
    | some id => simp only [ih]

theorem distinctWorks_eq_firstsBy (works : List Source) :
    distinctWorks works = firstsBy (fun w => filled? w.id) [] works :=
  unseenWorks_eq_firstsBy [] works

/-- A work is the first one with its citation key. -/
def IsFirst (works : List Source) (w : Source) : Prop :=
  ∃ id, w.id = some id ∧ id ≠ "" ∧ works.find? (fun v => v.id == some id) = some w

theorem IsFirst.eq_of_id (hv : IsFirst works v) (hw : IsFirst works w) (hid : v.id = w.id) :
    v = w := by
  obtain ⟨id, hvid, -, hvfirst⟩ := hv
  obtain ⟨id', hwid, -, hwfirst⟩ := hw
  obtain rfl : id = id' := Option.some.inj (hvid.symm.trans (hid.trans hwid))
  exact Option.some.inj (hvfirst.symm.trans hwfirst)

theorem IsFirst.eq_of_id_getD (hv : IsFirst works v) (hw : IsFirst works w)
    (hid : v.id.getD "" = w.id.getD "") : v = w := by
  apply hv.eq_of_id hw
  obtain ⟨id, hvid, -⟩ := hv
  obtain ⟨id', hwid, -⟩ := hw
  rw [hvid, hwid, Option.getD_some, Option.getD_some] at hid
  rw [hvid, hwid, hid]

theorem filled?_beq {id : String} (hne : id ≠ "") (text : Option String) :
    (filled? text == some id) = (text == some id) := by
  rw [Bool.eq_iff_iff, beq_iff_eq, beq_iff_eq, filled?_eq_some, and_iff_left hne]

theorem mem_distinctWorks_iff : w ∈ distinctWorks works ↔ IsFirst works w := by
  rw [distinctWorks_eq_firstsBy, mem_firstsBy]
  refine exists_congr fun id => ?_
  rw [filled?_eq_some, and_assoc]
  refine and_congr_right fun _ => and_congr_right fun hne => ?_
  simp only [filled?_beq hne, List.not_mem_nil, not_false_iff, true_and]

theorem distinctWorks_pairwise (works : List Source) :
    (distinctWorks works).Pairwise fun v w =>
      firstPlace Source.id works v < firstPlace Source.id works w := by
  have hplace : ∀ {w}, w ∈ distinctWorks works →
      firstPlace (fun v => filled? v.id) works w = firstPlace Source.id works w := by
    intro w hw
    obtain ⟨id, hid, hne, -⟩ := mem_distinctWorks_iff.1 hw
    have hkey : filled? w.id = some id := filled?_eq_some.2 ⟨hid, hne⟩
    show works.findIdx (fun v => filled? v.id == filled? w.id) =
      works.findIdx fun v => v.id == w.id
    rw [hkey, hid]
    simp only [filled?_beq hne]
  have hkept : (distinctWorks works).Pairwise fun v w =>
      firstPlace (fun v => filled? v.id) works v < firstPlace (fun v => filled? v.id) works w := by
    rw [distinctWorks_eq_firstsBy]
    exact firstsBy_pairwise
  refine hkept.imp_of_mem fun hv hw hlt => ?_
  rwa [hplace hv, hplace hw] at hlt

end CiteSync.Completion
