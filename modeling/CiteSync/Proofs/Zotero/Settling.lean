import CiteSync.Proofs.Lists
import CiteSync.Proofs.Zotero.Journal
import CiteSync.Proofs.Zotero.Loads
import CiteSync.Proofs.Zotero.Shelves
import CiteSync.Proofs.Zotero.Verdicts

/-!
# Loads of a library that stays the same

Once a load of a part of the library was answered, further loads of that part find it unchanged:
they fetch no items, ask for no version of the library, and leave what the session shows as it is.
It is enough that the version that is stored for a collection is not below that of its contents, and
every way of reporting a collection sees to that.
-/

namespace CiteSync.Zotero

open Library Remote Session FrontMatter

variable {L : Catalogue} {store : Store} {useCache : Bool} {spec : Spec}

/-! ## Stored collections -/

/-- A stored collection has the shape that the library has it in, at a version that nothing in it
exceeds. -/
structure Catalogue.Stored (L : Catalogue) (spec : Spec) (c : Collection) : Prop where
  shape : c.toSpec = (reported spec c.version (L.count spec) none).toSpec
  content_le : L.content spec ≤ c.version

namespace Catalogue.Stored

variable {c : Collection}

theorem key (h : L.Stored spec c) : c.key = spec.key := by
  rw [h.shape]
  rfl

theorem name (h : L.Stored spec c) : c.name = spec.name := by
  rw [h.shape]
  rfl

theorem itemCount (h : L.Stored spec c) : c.itemCount = some (L.count spec : Int) := by
  rw [h.shape]
  rfl

end Catalogue.Stored

/-- However a collection is reported, its version is not below that of its contents. -/
theorem stored_of_reports {sent kept : Collection}
    (hreports : L.Reports store.specs useCache spec sent)
    (hkeeps : Keeps useCache store store sent kept) : L.Stored spec kept := by
  have hjudged : L.Judged store useCache spec (L.verdict store.specs useCache spec) :=
    Catalogue.judged_verdict
  have hshape := hkeeps.toSpec_eq
  have hversion := hkeeps.version_eq
  cases hreports with
  | unchanged found =>
    rw [found] at hjudged
    cases hjudged with
    | unchanged _ _ hold _ => exact ⟨hversion ▸ hshape, hversion ▸ hold⟩
  | changed found _ =>
    rw [found] at hjudged
    cases hjudged with
    | changed _ => exact ⟨hversion ▸ hshape, hversion ▸ Int.le_refl _⟩
  | shrunk found _ =>
    rw [found] at hjudged
    cases hjudged with
    | @shrunk known _ _ _ hold _ _ =>
      have hbumped : L.content spec ≤ max (known.version + 1) L.version := by omega
      exact ⟨hversion ▸ hshape, hversion ▸ hbumped⟩

/-- A stored collection is found unchanged. -/
theorem verdict_of_stored (hkeys : (store.collections.map (·.key)).Nodup) {c : Collection}
    (hc : c ∈ store.collections) (hstored : L.Stored spec c) :
    L.verdict store.specs true spec = .unchanged c.version := by
  have hfind : store.findByKey? spec.key = some c := hstored.key ▸ Store.findByKey?_of_mem hkeys hc
  have hjudged : L.Judged store true spec (L.verdict store.specs true spec) :=
    Catalogue.judged_verdict
  -- the version excludes one of the other verdicts and the count the other
  generalize L.verdict store.specs true spec = found at hjudged
  cases hjudged with
  | unchanged hknown _ _ _ =>
    rw [hfind] at hknown
    cases hknown
    rfl
  | shrunk hknown _ _ hcounted hcount =>
    rw [hfind] at hknown
    cases hknown
    rw [hstored.itemCount] at hcounted
    exact (hcount (Option.some.inj hcounted).symm).elim
  | changed hnewer =>
    have hlt := hnewer c rfl hfind
    have hle := hstored.content_le
    omega

/-- A stored collection that is reported unchanged stays in the store, and nothing is made of it. -/
theorem mergeOne_of_stored (hnames : (store.collections.map (·.name)).Nodup) {c : Collection}
    (hc : c ∈ store.collections) (hstored : L.Stored spec c) :
    mergeOne true store store (reported spec c.version (L.count spec) none) =
      ⟨c, false, false⟩ := by
  have hfind : store.findByName? spec.name = some c :=
    hstored.name ▸ Store.findByName?_of_mem hnames hc
  have hsame : unchanged? true store (reported spec c.version (L.count spec) none) = some c := by
    show (store.findByName? spec.name).filter (·.version == c.version) = some c
    rw [hfind]
    simp
  have hwhole : { reported spec c.version (L.count spec) none with items := c.items } = c := by
    show (⟨(reported spec c.version (L.count spec) none).toSpec, c.items⟩ : Collection) = c
    rw [← hstored.shape]
  unfold mergeOne
  rw [hsame]
  exact congrArg (fun kept => (⟨kept, false, false⟩ : Merged)) hwhole

/-! ## Settled sessions -/

/-- An open session without a warning has stored a part of the library. -/
structure Settled (L : Catalogue) (roots : List String) (s : Session) : Prop where
  isOpen : s.closed = false
  calm : s.warning = none
  specs : s.specs = closure L.specs roots
  stored : List.Forall₂ L.Stored (closure L.specs roots) s.store.collections

namespace Settled

variable {roots : List String} {s : Session}

theorem trustsCache (h : Settled L roots s) : s.trustsCache = true := by
  unfold Session.trustsCache
  rw [h.calm]
  rfl

theorem keys (h : Settled L roots s) :
    s.store.collections.map (·.key) = (closure L.specs roots).map (·.key) :=
  (forall₂_map_eq h.stored fun _ _ hc => hc.key.symm).symm

theorem names (h : Settled L roots s) :
    s.store.collections.map (·.name) = (closure L.specs roots).map (·.name) :=
  (forall₂_map_eq h.stored fun _ _ hc => hc.name.symm).symm

/-- Nothing of a stored part is fetched. -/
theorem omits (h : Settled L roots s) (hkeys : ((closure L.specs roots).map (·.key)).Nodup)
    (hspec : spec ∈ closure L.specs roots) : L.Omits s.store.specs s.trustsCache spec := by
  obtain ⟨c, hc, hstored⟩ := forall₂_exists_right h.stored hspec
  rw [h.trustsCache]
  exact ⟨_, verdict_of_stored (h.keys ▸ hkeys) hc hstored⟩

/-- A merge of a stored part finds nothing new. -/
theorem merges (h : Settled L roots s) (hkeys : ((closure L.specs roots).map (·.key)).Nodup)
    (hnames : ((closure L.specs roots).map (·.name)).Nodup) {sent : List Collection}
    (hreports : List.Forall₂ (L.Reports s.store.specs s.trustsCache) (closure L.specs roots) sent) :
    mergeAll s.trustsCache s.store s.store sent =
      s.store.collections.map fun c => ⟨c, false, false⟩ := by
  have hstore := (List.forall₂_and_left _ _).2 ⟨fun _ hc => hc, h.stored.flip⟩
  have hpairs := forall₂_trans hstore hreports
  rw [h.trustsCache] at hpairs ⊢
  refine (forall₂_map_eq hpairs ?_).symm
  rintro c sent ⟨spec, ⟨hc, hstored⟩, hreport⟩
  have hverdict := verdict_of_stored (h.keys ▸ hkeys) hc hstored
  -- the verdict leaves one way only of reporting the collection
  cases hreport with
  | unchanged found =>
    rw [hverdict] at found
    cases found
    exact (mergeOne_of_stored (h.names ▸ hnames) hc hstored).symm
  | changed found _ =>
    rw [hverdict] at found
    cases found
  | shrunk found _ =>
    rw [hverdict] at found
    cases found

end Settled

/-! ## Loads -/

section Loads

variable {σ : Type} {P : σ → Prop} {c : Client} {services : Services σ} {s : Session}
variable {v : Visit (World σ)} {scope : Scope}

/-- An answered load settles the session, whatever it held before. -/
theorem Settled.of_sent (hkeys : c.keyService = none)
    (shows : Shows services.library L P fun _ => False) (here : P v.remote.remote)
    (hasked : v.scope? = .ok scope) {sent : List Collection}
    (hsent : v.sent? (c.library services) s = some sent) :
    Settled L scope.roots (v.run (c.library services) s).1.session := by
  obtain ⟨hscope, hopen, -⟩ := v.answered_of_sent (c.library services) s hasked hsent
  have hattempts := c.attempts_of_sent services s v hsent
  obtain ⟨_, htree, hspecs⟩ :=
    (c.tree_fits services v shows.toShowsOutline (.of_none hattempts) here scope).1.exists_ok
  obtain ⟨specs, rfl, rfl⟩ := hspecs.of_no_fault
  obtain ⟨hanswer, hreports⟩ := c.sent_reports services s v hkeys shows here hasked hsent
  obtain ⟨hsession, -⟩ := v.run_of_answers (c.library services) s (c.library_quiet services) hopen
    hasked hscope htree hanswer
  rw [hsession]
  have hkept := forall₂_trans hreports (settle_mergeAll s.trustsCache s.store s.store sent)
  exact ⟨hopen, rfl, rfl, hkept.imp fun _ _ ⟨_, hr, hk⟩ => stored_of_reports hr hk⟩

/-- A load of a settled session changes nothing that is seen of it, and no state outside `P` is
reached even if only the outline of the library is shown in `P`. -/
theorem Settled.run (h : Settled L scope.roots s) (hkeys : c.keyService = none)
    (hattempts : 0 < c.attempts)
    (shows : ShowsOutline services.library L P fun _ => False) (here : P v.remote.remote)
    (hasked : v.scope? = .ok scope) (hscope : scope ≠ .nothing)
    (hclosure : ((closure L.specs scope.roots).map (·.key)).Nodup)
    (hnames : ((closure L.specs scope.roots).map (·.name)).Nodup) :
    (v.run (c.library services) s).1.session =
        { s with enabled := true, cycles := s.cycles + 1 } ∧
      (v.run (c.library services) s).1.result = .ok false ∧
      P (v.run (c.library services) s).2.remote := by
  obtain ⟨sent, hreports, hsession, hresult, -, hw⟩ := c.run_of_calm services s v hkeys hattempts
    shows here h.isOpen hasked hscope fun spec hspec hnot => (hnot (h.omits hclosure hspec)).elim
  have hmerge := h.merges hclosure hnames hreports
  have hfresh : settle (mergeAll s.trustsCache s.store s.store sent) = s.store.collections := by
    have hnot : ∀ m ∈ s.store.collections.map fun c => (⟨c, false, false⟩ : Merged),
        m.fresh = false := by
      intro m hm
      obtain ⟨_, _, rfl⟩ := List.mem_map.1 hm
      rfl
    rw [hmerge, settle_of_not_fresh hnot, List.map_map]
    exact List.map_id _
  have hlength : sent.length = s.store.size := hreports.length_eq.symm.trans h.stored.length_eq
  refine ⟨?_, ?_, hw⟩
  · rw [hsession, hfresh, ← h.specs, ← h.calm]
  · rw [hresult, hmerge, hlength]
    simp

/-- A settled session stays settled, with the same store, through any number of loads. -/
theorem Settled.after (h : Settled L scope.roots s) (hkeys : c.keyService = none)
    (hattempts : 0 < c.attempts)
    (shows : ShowsOutline services.library L P fun _ => False) (hscope : scope ≠ .nothing)
    (hclosure : ((closure L.specs scope.roots).map (·.key)).Nodup)
    (hnames : ((closure L.specs scope.roots).map (·.name)).Nodup) {vs : List (Visit (World σ))}
    (hvs : ∀ v ∈ vs, P v.remote.remote ∧ v.scope? = .ok scope) :
    Settled L scope.roots (Visit.after (c.library services) s vs) ∧
      (Visit.after (c.library services) s vs).store = s.store := by
  induction vs generalizing s with
  | nil => exact ⟨h, rfl⟩
  | cons v rest ih =>
    obtain ⟨here, hasked⟩ := hvs v (List.mem_cons_self ..)
    obtain ⟨hsession, -, -⟩ :=
      h.run hkeys hattempts shows here hasked hscope hclosure hnames
    have hnext : Settled L scope.roots (v.run (c.library services) s).1.session := by
      rw [hsession]
      exact ⟨h.isOpen, h.calm, h.specs, h.stored⟩
    obtain ⟨hsettled, hstore⟩ := ih hnext fun w hw => hvs w (List.mem_cons_of_mem _ hw)
    refine ⟨hsettled, hstore.trans ?_⟩
    rw [hsession]

end Loads

/-- A journal goes on from an earlier one with calls about the outline alone. -/
def OnlyOutline (before journal : List Method) : Prop :=
  ∃ calls, journal = before ++ calls ∧ Method.items ∉ calls ∧ Method.libraryVersion ∉ calls

theorem OnlyOutline.refl (journal : List Method) : OnlyOutline journal journal :=
  ⟨[], (List.append_nil _).symm, List.not_mem_nil, List.not_mem_nil⟩

theorem OnlyOutline.noted {before journal : List Method} {m : Method} (hitems : m ≠ .items)
    (hversion : m ≠ .libraryVersion) (h : OnlyOutline before journal) :
    OnlyOutline before (journal ++ [m]) := by
  obtain ⟨calls, rfl, hi, hv⟩ := h
  refine ⟨calls ++ [m], List.append_assoc .., ?_, ?_⟩
  · simpa [hi] using hitems.symm
  · simpa [hv] using hversion.symm

/-- Once a load was answered, further loads of the same part of the same library change nothing,
fetch no items and ask for no version of the library. -/
theorem sync_settles {σ : Type} {c : Client} (hkeys : c.keyService = none)
    {services : Services σ} {P : σ → Prop}
    (shows : Shows services.library L P fun _ => False) {scope : Scope}
    (hclosure : ((closure L.specs scope.roots).map (·.key)).Nodup)
    (hnames : ((closure L.specs scope.roots).map (·.name)).Nodup) {s : Session}
    {first : Visit (World (σ × List Method))} (here : P first.remote.remote.1)
    (hasked : first.scope? = .ok scope) {sent : List Collection}
    (hsent : first.sent? (c.library services.journaled) s = some sent)
    {between : List (Visit (World (σ × List Method)))} {v : Visit (World (σ × List Method))}
    (hsame : ∀ w ∈ between ++ [v], P w.remote.remote.1 ∧ w.scope? = .ok scope) :
    let library := c.library services.journaled
    let settled := (first.run library s).1.session
    let last := v.run library (Visit.after library settled between)
    last.1.result = .ok false ∧ last.1.session.store = settled.store ∧
      last.1.session.specs = settled.specs ∧ last.1.session.warning = settled.warning ∧
      ∃ calls, last.2.remote.2 = v.remote.remote.2 ++ calls ∧
        Method.items ∉ calls ∧ Method.libraryVersion ∉ calls := by
  intro library settled last
  have hscope : scope ≠ .nothing := (first.answered_of_sent library s hasked hsent).1
  have hattempts := c.attempts_of_sent services.journaled s first hsent
  have hsettled : Settled L scope.roots settled :=
    .of_sent hkeys shows.journaled ⟨here, trivial⟩ hasked hsent
  -- of the loads between it is enough that the library stays the same
  have hbetween : ∀ w ∈ between,
      Beside P (fun _ => True) w.remote.remote ∧ w.scope? = .ok scope := by
    intro w hw
    obtain ⟨hcalm, hasked⟩ := hsame w (List.mem_append_left _ hw)
    exact ⟨⟨hcalm, trivial⟩, hasked⟩
  obtain ⟨hbefore, hstore⟩ : Settled L scope.roots (Visit.after library settled between) ∧
      (Visit.after library settled between).store = settled.store :=
    hsettled.after hkeys hattempts shows.journaled.toShowsOutline hscope hclosure hnames hbetween
  -- of the last load the journal is followed too, through calls about the outline alone
  obtain ⟨hcalm, hasked'⟩ := hsame v (List.mem_append_right _ (List.mem_singleton.2 rfl))
  have hjournal : ∀ m, m ≠ Method.items → m ≠ Method.libraryVersion → ∀ journal,
      OnlyOutline v.remote.remote.2 journal → OnlyOutline v.remote.remote.2 (journal ++ [m]) :=
    fun _ hitems hversion _ => .noted hitems hversion
  have houtline : ShowsOutline services.journaled.library L
      (Beside P (OnlyOutline v.remote.remote.2)) fun _ => False :=
    shows.toShowsOutline.journaled hjournal
  obtain ⟨hsession, hresult, -, hcalls⟩ := hbefore.run hkeys hattempts houtline
    ⟨hcalm, .refl _⟩ hasked' hscope hclosure hnames
  refine ⟨hresult, ?_, ?_, ?_, hcalls⟩
  · rw [hsession]
    exact hstore
  · rw [hsession]
    exact hbefore.specs.trans hsettled.specs.symm
  · rw [hsession]
    exact hbefore.calm.trans hsettled.calm.symm

/-- A load of the whole library while one book is left in it, with an empty journal. -/
def quietVisit : Visit (World (Holdings × List Method)) where
  given := some .all
  remote := { remote := (.ofBooks [("A", 5)] 7, []) }

/-- The load that notices that a book was removed is followed by loads that find nothing new. -/
theorem sync_settles_after_removal :
    let library := Holdings.reader.library Holdings.services.journaled
    let settled := (quietVisit.run library bookSession).1.session
    let last := quietVisit.run library (Visit.after library settled [quietVisit])
    last.1.result = .ok false ∧ last.1.session.store = settled.store ∧
      last.1.session.specs = settled.specs ∧ last.1.session.warning = settled.warning ∧
      ∃ calls, last.2.remote.2 = [] ++ calls ∧
        Method.items ∉ calls ∧ Method.libraryVersion ∉ calls := by
  have hholds : Holdings.Holds (.ofBooks [("A", 5)] 7) (.ofBooks [("A", 5)] 7) :=
    Holdings.ofBooks_holds rfl
  have hasked : quietVisit.scope? = .ok .all := rfl
  have hread : ∀ spec ∈ closure (Catalogue.ofBooks [("A", 5)] 7).specs [],
      ∃ works, (Catalogue.ofBooks [("A", 5)] 7).works spec.key = .ok works := by
    intro spec hspec
    rw [Catalogue.mem_ofBooks hspec]
    exact ⟨_, rfl⟩
  obtain ⟨sent, hsent⟩ := Holdings.reader.sent_of_calm Holdings.services.journaled
    bookSession quietVisit rfl (by decide) Holdings.service_shows.journaled ⟨hholds, trivial⟩
    bookSession_open hasked (by decide) hread
  refine sync_settles rfl Holdings.service_shows (by decide) (by decide) hholds hasked hsent ?_
  intro w hw
  have hw : w = quietVisit := by simpa using hw
  rw [hw]
  exact ⟨hholds, hasked⟩

end CiteSync.Zotero
