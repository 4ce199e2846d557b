import CiteSync.Proofs.Zotero.Catalogue
import CiteSync.Zotero.Holdings

/-!
# Services that keep a journal

Any service can be made to keep a journal of its calls beside its state.  It shows what it showed
before, and what holds of the journal can be carried along.
-/

namespace CiteSync.Zotero

open Library Remote

variable {σ α β : Type}

/-! ## Keeping a journal -/

/-- A call that is noted in a journal as calls of the service. -/
def noted (ms : List Method) (call : Call σ α) : Call (σ × List Method) α := do
  let (s, journal) ← get
  let (result, s) := call.perform s
  set (s, journal ++ ms)
  match result with
  | .ok a => return a
  | .error failure => throw failure

/-- A service that keeps a journal of its calls. -/
def Service.journaled (service : Service σ) : Service (σ × List Method) where
  connect connection w := (service.connect connection w.1, w.2)
  collections := noted [.collections] service.collections
  items key := noted [.items] (service.items key)
  itemVersions key := noted [.itemVersions] (service.itemVersions key)
  everything page := noted [.everything] (service.everything page)
  libraryVersion := noted [.libraryVersion] service.libraryVersion

/-- Services with a journal of the calls of the library. -/
def Services.journaled (services : Services σ) : Services (σ × List Method) where
  library := services.library.journaled
  web := { send := fun request => noted [] (services.web.send request) }

theorem perform_noted (ms : List Method) (call : Call σ α) (w : σ × List Method) :
    (noted ms call).perform w =
      ((call.perform w.1).1, (call.perform w.1).2, w.2 ++ ms) := by
  unfold noted
  simp only [Call.perform_bind, Call.perform_get, Call.perform_set]
  rcases (call.perform w.1).1 with failure | a <;> rfl

/-! ## What is shown -/

section Shown

variable {P : σ → Prop} {J : List Method → Prop} {E : Failure → Prop} {Q : α → Prop}

/-- The states in `P`, with a journal in `J` beside them. -/
def Beside (P : σ → Prop) (J : List Method → Prop) (w : σ × List Method) : Prop := P w.1 ∧ J w.2

theorem noted_meets {m : Method} {call : Call σ α} (hm : ∀ journal, J journal → J (journal ++ [m]))
    (h : call.Meets P E Q) : (noted [m] call).Meets (Beside P J) E Q := by
  intro w hw
  rw [perform_noted]
  obtain ⟨hr, hs⟩ := h w.1 hw.1
  exact ⟨hr, hs, hm _ hw.2⟩

/-- Two calls in a row are noted in a row. -/
theorem noted_bind_meets {m n : Method} {call : Call σ α} {next : α → Call σ β} {R : β → Prop}
    (hm : ∀ journal, J journal → J (journal ++ [m]))
    (hn : ∀ journal, J journal → J (journal ++ [n])) (h : (call >>= next).Meets P E R) :
    (noted [m] call >>= fun a => noted [n] (next a)).Meets (Beside P J) E R := by
  intro w hw
  have hend := h w.1 hw.1
  rw [Call.perform_bind] at hend
  rw [Call.perform_bind, perform_noted]
  rcases hc : call.perform w.1 with ⟨failure | a, s⟩
  · rw [hc] at hend
    exact ⟨hend.1, hend.2, hm _ hw.2⟩
  · rw [hc] at hend
    simp only [perform_noted]
    exact ⟨hend.1, hend.2, hn _ (hm _ hw.2)⟩

variable {service : Service σ} {L : Catalogue}

/-- The calls about the outline keep what holds of the journal. -/
theorem ShowsOutline.journaled (h : ShowsOutline service L P E)
    (hJ : ∀ m, m ≠ .items → m ≠ .libraryVersion → ∀ journal, J journal → J (journal ++ [m])) :
    ShowsOutline service.journaled L (Beside P J) E where
  connect connection w hw := ⟨h.connect connection w.1 hw.1, hw.2⟩
  collections := noted_bind_meets (hJ _ (by decide) (by decide)) (hJ _ (by decide) (by decide))
    h.collections
  itemVersions spec hspec := noted_meets (hJ _ (by decide) (by decide)) (h.itemVersions spec hspec)

theorem ShowsBodies.journaled (h : ShowsBodies service L P E)
    (hJ : ∀ m journal, J journal → J (journal ++ [m])) :
    ShowsBodies service.journaled L (Beside P J) E where
  items spec hspec := noted_bind_meets (hJ _) (hJ _) (h.items spec hspec)
  libraryVersion := noted_meets (hJ _) h.libraryVersion

/-- A service shows the same library when it keeps a journal. -/
theorem Shows.journaled (h : Shows service L P E) :
    Shows service.journaled L (Beside P fun _ => True) E where
  toShowsOutline := h.toShowsOutline.journaled fun _ _ _ _ _ => trivial
  toShowsBodies := h.toShowsBodies.journaled fun _ _ _ => trivial

end Shown

end CiteSync.Zotero
