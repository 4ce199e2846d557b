import CiteSync.Proofs.Session.Merging
import CiteSync.Proofs.Zotero.Catalogue

/-!
# Verdicts on what is stored

What the client concludes about a collection from the shapes of a store tells which stored
collection it compared it with, and how.
-/

namespace CiteSync.Zotero

open Library Session

/-! ## Looking up what is known -/

theorem knownSpec?_specs (store : Store) (key : String) :
    knownSpec? store.specs key = (store.findByKey? key).map Collection.spec := by
  unfold knownSpec? Store.specs Store.findByKey?
  rw [← List.map_reverse, List.find?_map]
  rfl

/-! ## Verdicts -/

/-- How a collection compares with what is known of it. -/
inductive Compares (known : Option Spec) (useCache : Bool) (content : Int) (count : Nat) :
    Verdict → Prop
  | unchanged {spec : Spec} (found : known = some spec) (trusted : useCache = true)
      (old : content ≤ spec.version) (same : ∀ n, spec.itemCount = some n → n = (count : Int)) :
      Compares known useCache content count (.unchanged spec.version)
  | shrunk {spec : Spec} {n : Int} (found : known = some spec) (trusted : useCache = true)
      (old : content ≤ spec.version) (counted : spec.itemCount = some n)
      (differs : n ≠ (count : Int)) :
      Compares known useCache content count (.shrunk spec.version)
  | changed (newer : ∀ spec, useCache = true → known = some spec → spec.version < content) :
      Compares known useCache content count (.changed content)

theorem compares_verdict (known : Option Spec) (useCache : Bool) (content : Int) (count : Nat) :
    Compares known useCache content count (verdict known useCache content count) := by
  unfold verdict
  cases known with
  | none => exact .changed fun _ _ hnone => by cases hnone
  | some spec =>
    simp only
    split
    next hold =>
      simp only [Bool.and_eq_true, decide_eq_true_eq] at hold
      split
      next hcount =>
        refine .unchanged rfl hold.1 hold.2 fun n hn => ?_
        have hall : (some n).all (· == (count : Int)) = true := hn ▸ hcount
        simpa using hall
      next hcount =>
        -- without a count that is known there is nothing to differ from
        change ¬ spec.itemCount.all (· == (count : Int)) = true at hcount
        cases hn : spec.itemCount with
        | none => simp [hn] at hcount
        | some n => exact .shrunk rfl hold.1 hold.2 hn (by simpa [hn] using hcount)
    next hnew =>
      refine .changed fun spec' htrusted hknown => ?_
      cases hknown
      simp only [Bool.and_eq_true, decide_eq_true_eq, not_and] at hnew
      exact Int.not_le.1 (hnew htrusted)

namespace Catalogue

variable {L : Catalogue} {store : Store} {useCache : Bool} {spec : Spec}

/-- What a verdict on a collection tells of what is known of it. -/
inductive Judged (L : Catalogue) (store : Store) (useCache : Bool) (spec : Spec) : Verdict → Prop
  | unchanged {known : Collection} (found : store.findByKey? spec.key = some known)
      (trusted : useCache = true) (old : L.content spec ≤ known.version)
      (count : ∀ n, known.itemCount = some n → n = (L.count spec : Int)) :
      Judged L store useCache spec (.unchanged known.version)
  | shrunk {known : Collection} {n : Int} (found : store.findByKey? spec.key = some known)
      (trusted : useCache = true) (old : L.content spec ≤ known.version)
      (counted : known.itemCount = some n) (count : n ≠ (L.count spec : Int)) :
      Judged L store useCache spec (.shrunk known.version)
  | changed (newer : ∀ known, useCache = true → store.findByKey? spec.key = some known →
      known.version < L.content spec) : Judged L store useCache spec (.changed (L.content spec))

theorem judged_verdict : L.Judged store useCache spec (L.verdict store.specs useCache spec) := by
  have hcompares := compares_verdict (knownSpec? store.specs spec.key) useCache (L.content spec)
    (L.count spec)
  change Compares _ _ _ _ (L.verdict store.specs useCache spec) at hcompares
  rw [knownSpec?_specs] at hcompares
  generalize L.verdict store.specs useCache spec = found at hcompares ⊢
  cases hcompares with
  | unchanged found trusted old same =>
    obtain ⟨known, hfind, rfl⟩ := Option.map_eq_some_iff.1 found
    exact .unchanged hfind trusted old same
  | shrunk found trusted old counted differs =>
    obtain ⟨known, hfind, rfl⟩ := Option.map_eq_some_iff.1 found
    exact .shrunk hfind trusted old counted differs
  | changed newer =>
    refine .changed fun known trusted hfind => newer known.spec trusted ?_
    rw [hfind]
    rfl

/-- A collection that lost one of two items has nothing newer in it. -/
example : Zotero.verdict (some { key := "C", name := "Papers", version := 7, itemCount := some 2 })
    true 6 1 = .shrunk 7 := by decide

end Catalogue

end CiteSync.Zotero
