import QueryDesk.Proofs.Stretch

/-!
# A memory agrees with the requests that are out

* `TabMemory.Occupied m r`   the query slot of `m` is taken by the running request `r`;
* `TabMemory.InPhase`        what the run state says of the rest of the memory;
* `TabMemory.Agrees`         the slots of a memory agree with the requests that are out;
* `Agrees.launch`, `lands`, `requestKill`   ... and do so when a request goes out, comes to its end
  or is to be stopped.

A new request differs from all that are out and all that own a slot, since requests are numbered in
order.  The token of a request bears its number, so that cancelling it touches no other request.
-/

namespace QueryDesk

namespace TabMemory

/-- the request `r` runs in the query slot -/
structure Occupied (m : TabMemory) (r : RequestId) : Prop where
  owner : m.query.result.owner = some r
  loading : m.query.result.loading = true
  data : m.query.result.data = none
  duration : m.query.result.duration = Binary64.zero false
  abort : m.query.abort = some ⟨r.number⟩
  busy : m.busy = true

/-- what the run state says of the rest of the memory -/
def InPhase (m : TabMemory) (cancelled : List CancelToken) : Prop :=
  match m.query.state with
  | .idle => m.query = QuerySlot.empty ∧ m.busy = false
  | .running => ∃ r, m.Occupied r ∧ ⟨r.number⟩ ∉ cancelled
  | .killRequested => ∃ r, m.Occupied r ∧ ⟨r.number⟩ ∈ cancelled
  | .settled => (∃ r, m.query.result.owner = some r) ∧ m.query.result.loading = false ∧
      m.query.abort = none ∧ m.busy = false

theorem InPhase.congr {m m' : TabMemory} {cancelled : List CancelToken} (h : m.InPhase cancelled)
    (hq : m'.query = m.query) (hb : m'.busy = m.busy) : m'.InPhase cancelled := by
  have hocc : ∀ r, m.Occupied r → m'.Occupied r := by
    intro r ho
    constructor <;> simp only [hq, hb]
    · exact ho.owner
    · exact ho.loading
    · exact ho.data
    · exact ho.duration
    · exact ho.abort
    · exact ho.busy
  unfold InPhase at h ⊢
  rw [hq, hb]
  cases hs : m.query.state with
  | idle => rw [hs] at h; exact h
  | running =>
    rw [hs] at h
    obtain ⟨r, ho, hn⟩ := h
    exact ⟨r, hocc r ho, hn⟩
  | killRequested =>
    rw [hs] at h
    obtain ⟨r, ho, hn⟩ := h
    exact ⟨r, hocc r ho, hn⟩
  | settled => rw [hs] at h; exact h

/-- a query slot that belongs to nobody is empty -/
theorem InPhase.query_eq_empty {m : TabMemory} {cancelled : List CancelToken}
    (h : m.InPhase cancelled) (ho : m.query.result.owner = none) : m.query = QuerySlot.empty := by
  unfold InPhase at h
  split at h
  · exact h.1
  · obtain ⟨r, hocc, _⟩ := h
    rw [hocc.owner] at ho
    cases ho
  · obtain ⟨r, hocc, _⟩ := h
    rw [hocc.owner] at ho
    cases ho
  · obtain ⟨⟨r, hr⟩, _⟩ := h
    rw [hr] at ho
    cases ho

theorem running?_eq_some (m : TabMemory) {r : RequestId} :
    m.running? = some r ↔ m.query.state = .running ∧ m.query.result.owner = some r := by
  unfold running?
  split
  · next h => simp [h]
  · next h => simp [h]

/-- the memory of a tab agrees with the requests that are out, when `sent` requests were drawn -/
structure Agrees (m : TabMemory) (tab : TabId) (sent : Nat) (cancelled : List CancelToken)
    (fs : List Flight) : Prop where
  sent : ∀ place r, (m.slot place).owner = some r → r.number ≤ sent
  placed : ∀ f ∈ fs, ∀ place, (m.slot place).owner = some f.request → f.tab = tab ∧ f.place = place
  loading : ∀ place,
    (m.slot place).loading = true ↔ ∃ f ∈ fs, (m.slot place).owner = some f.request
  unowned : ∀ place, (m.slot place).owner = none → m.slot place = Slot.empty
  phase : m.InPhase cancelled

namespace Agrees
variable {m m' : TabMemory} {tab : TabId} {sent : Nat} {cancelled : List CancelToken}
  {f : Flight} {fs gs : List Flight}

theorem empty : TabMemory.empty.Agrees tab sent cancelled fs where
  sent := by
    intro place r h
    rw [slot_empty] at h
    cases h
  placed := by
    intro f _ place h
    rw [slot_empty] at h
    cases h
  loading := by
    intro place
    rw [slot_empty]
    constructor
    · intro h
      cases h
    · rintro ⟨f, _, h⟩
      cases h
  unowned := fun place _ => slot_empty place
  phase := ⟨rfl, rfl⟩

theorem congr (h : m.Agrees tab sent cancelled fs) (hmem : ∀ f, f ∈ fs ↔ f ∈ gs) :
    m.Agrees tab sent cancelled gs where
  sent := h.sent
  placed := fun f hf => h.placed f ((hmem f).mpr hf)
  loading := by
    intro place
    rw [h.loading place]
    simp only [hmem]
  unowned := h.unowned
  phase := h.phase

/-- a new request goes out for another place -/
theorem add (h : m.Agrees tab sent cancelled fs) (hf : f.request.number = sent + 1) :
    m.Agrees tab (sent + 1) cancelled (f :: fs) := by
  have hnew : ∀ place, (m.slot place).owner ≠ some f.request := by
    intro place ho
    have := h.sent place f.request ho
    omega
  exact {
    sent := fun place r ho => Nat.le_succ_of_le (h.sent place r ho)
    placed := by
      intro g hg place ho
      rcases List.mem_cons.mp hg with rfl | hg
      · exact absurd ho (hnew place)
      · exact h.placed g hg place ho
    loading := by
      intro place
      rw [h.loading place]
      constructor
      · rintro ⟨g, hg, ho⟩
        exact ⟨g, List.mem_cons_of_mem f hg, ho⟩
      · rintro ⟨g, hg, ho⟩
        rcases List.mem_cons.mp hg with rfl | hg
        · exact absurd ho (hnew place)
        · exact ⟨g, hg, ho⟩
    unowned := h.unowned
    phase := h.phase }

/-- a request that owns no slot of the memory is out no longer -/
theorem remove (h : m.Agrees tab sent cancelled (f :: fs))
    (hne : ∀ place, (m.slot place).owner ≠ some f.request) : m.Agrees tab sent cancelled fs where
  sent := h.sent
  placed := fun g hg => h.placed g (List.mem_cons_of_mem f hg)
  loading := by
    intro place
    rw [h.loading place]
    constructor
    · rintro ⟨g, hg, ho⟩
      rcases List.mem_cons.mp hg with rfl | hg
      · exact absurd ho (hne place)
      · exact ⟨g, hg, ho⟩
    · rintro ⟨g, hg, ho⟩
      exact ⟨g, List.mem_cons_of_mem f hg, ho⟩
  unowned := h.unowned
  phase := h.phase

/-- a new request takes its place over -/
theorem launch (h : m.Agrees f.tab sent cancelled fs) (hf : f.request.number = sent + 1)
    (hfs : ∀ g ∈ fs, g.request.number ≤ sent) (hc : ∀ token ∈ cancelled, token.number ≤ sent) :
    (m.launch f).Agrees f.tab (sent + 1) cancelled (f :: fs) := by
  have hadd := h.add hf
  exact {
    sent := by
      intro place r ho
      by_cases hp : place = f.place
      · rw [hp, owner_launch] at ho
        rw [← Option.some.inj ho]
        omega
      · rw [slot_launch_of_ne m hp] at ho
        exact hadd.sent place r ho
    placed := by
      intro g hg place ho
      by_cases hp : place = f.place
      · rw [hp, owner_launch] at ho
        rcases List.mem_cons.mp hg with rfl | hg
        · exact ⟨rfl, hp.symm⟩
        · have hle := hfs g hg
          rw [← Option.some.inj ho] at hle
          omega
      · rw [slot_launch_of_ne m hp] at ho
        exact hadd.placed g hg place ho
    loading := by
      intro place
      by_cases hp : place = f.place
      · rw [hp, loading_launch, owner_launch]
        exact ⟨fun _ => ⟨f, List.mem_cons_self, rfl⟩, fun _ => rfl⟩
      · rw [slot_launch_of_ne m hp]
        exact hadd.loading place
    unowned := by
      intro place ho
      by_cases hp : place = f.place
      · rw [hp, owner_launch] at ho
        cases ho
      · rw [slot_launch_of_ne m hp] at ho ⊢
        exact h.unowned place ho
    phase := by
      cases hp : f.place with
      | preview mode =>
        rw [launch_preview m hp]
        exact h.phase.congr (query_modifyPreview ..) (busy_modifyPreview ..)
      | query =>
        rw [launch_query m hp]
        refine ⟨f.request, ⟨rfl, rfl, rfl, rfl, rfl, rfl⟩, fun hmem => ?_⟩
        have hle := hc _ hmem
        simp only at hle
        omega }

/-- a request that owns its place comes to its end -/
theorem lands (h : m.Agrees f.tab sent cancelled (f :: fs)) (hl : Lands f m m')
    (ho : (m.slot f.place).owner = some f.request) (hfs : f.request ∉ fs.map Flight.request) :
    m'.Agrees f.tab sent cancelled fs := by
  have hother : ∀ place, place ≠ f.place → (m.slot place).owner ≠ some f.request := by
    intro place hp hplace
    exact hp (h.placed f List.mem_cons_self place hplace).2.symm
  exact {
    sent := by
      intro place r hr
      by_cases hp : place = f.place
      · rw [hp, hl.owner] at hr
        exact h.sent _ r hr
      · rw [hl.other place hp] at hr
        exact h.sent _ r hr
    placed := by
      intro g hg place hr
      by_cases hp : place = f.place
      · rw [hp, hl.owner] at hr
        exact hp ▸ h.placed g (List.mem_cons_of_mem f hg) f.place hr
      · rw [hl.other place hp] at hr
        exact h.placed g (List.mem_cons_of_mem f hg) place hr
    loading := by
      intro place
      by_cases hp : place = f.place
      · rw [hp, hl.loading, hl.owner, ho]
        constructor
        · intro hfalse
          cases hfalse
        · rintro ⟨g, hg, hr⟩
          exact absurd (List.mem_map.mpr ⟨g, hg, (Option.some.inj hr).symm⟩) hfs
      · rw [hl.other place hp, h.loading place]
        constructor
        · rintro ⟨g, hg, hr⟩
          rcases List.mem_cons.mp hg with rfl | hg
          · exact absurd hr (hother place hp)
          · exact ⟨g, hg, hr⟩
        · rintro ⟨g, hg, hr⟩
          exact ⟨g, List.mem_cons_of_mem f hg, hr⟩
    unowned := by
      intro place hr
      by_cases hp : place = f.place
      · rw [hp, hl.owner, ho] at hr
        cases hr
      · rw [hl.other place hp] at hr ⊢
        exact h.unowned place hr
    phase := by
      cases hp : f.place with
      | preview mode =>
        obtain ⟨hq, hb⟩ := hl.preview (by rw [hp]; nofun)
        exact h.phase.congr hq hb
      | query =>
        obtain ⟨hs, ha, hb⟩ := hl.query hp
        have hown := hl.owner.trans ho
        have hload := hl.loading
        rw [hp] at hown hload
        unfold InPhase
        rw [hs]
        exact ⟨⟨f.request, hown⟩, hload, ha, hb⟩ }

theorem clearPreviews (h : m.Agrees tab sent cancelled fs) :
    m.clearPreviews.Agrees tab sent cancelled fs := by
  have hslot : ∀ place, m.clearPreviews.slot place = Slot.empty ∨
      m.clearPreviews.slot place = m.slot place := by
    intro place
    cases place with
    | preview mode => exact .inl (slot_clearPreviews m mode)
    | query => exact .inr rfl
  exact {
    sent := by
      intro place r ho
      rcases hslot place with e | e <;> rw [e] at ho
      · cases ho
      · exact h.sent place r ho
    placed := by
      intro f hf place ho
      rcases hslot place with e | e <;> rw [e] at ho
      · cases ho
      · exact h.placed f hf place ho
    loading := by
      intro place
      rcases hslot place with e | e <;> rw [e]
      · constructor
        · intro hfalse
          cases hfalse
        · rintro ⟨f, _, ho⟩
          cases ho
      · exact h.loading place
    unowned := by
      intro place ho
      rcases hslot place with e | e
      · exact e
      · rw [e] at ho ⊢
        exact h.unowned place ho
    phase := h.phase.congr rfl rfl }

end Agrees

/-! ## stops -/

/-- the running query is to be stopped -/
def requestKill (m : TabMemory) : TabMemory :=
  { m with query := { m.query with state := .killRequested } }

theorem slot_requestKill (m : TabMemory) (place : Place) :
    m.requestKill.slot place = m.slot place := by
  cases place with
  | preview mode => cases mode <;> rfl
  | query => rfl

/-- the running query of a memory, with all that its run state says -/
theorem InPhase.of_running {m : TabMemory} {cancelled : List CancelToken} {r : RequestId}
    (h : m.InPhase cancelled) (hr : m.running? = some r) :
    m.Occupied r ∧ ⟨r.number⟩ ∉ cancelled := by
  obtain ⟨hs, ho⟩ := m.running?_eq_some.mp hr
  unfold InPhase at h
  rw [hs] at h
  obtain ⟨r', hocc, hn⟩ := h
  have he : r' = r := Option.some.inj (hocc.owner.symm.trans ho)
  exact he ▸ ⟨hocc, hn⟩

namespace Agrees
variable {m : TabMemory} {tab : TabId} {sent : Nat} {cancelled : List CancelToken}
  {fs : List Flight} {r : RequestId}

/-- the running query is to be stopped, and its token is cancelled -/
theorem requestKill (h : m.Agrees tab sent cancelled fs) (hr : m.running? = some r) :
    m.requestKill.Agrees tab sent (⟨r.number⟩ :: cancelled) fs where
  sent := by
    intro place
    rw [slot_requestKill]
    exact h.sent place
  placed := by
    intro f hf place
    rw [slot_requestKill]
    exact h.placed f hf place
  loading := by
    intro place
    rw [slot_requestKill]
    exact h.loading place
  unowned := by
    intro place
    rw [slot_requestKill]
    exact h.unowned place
  phase := by
    obtain ⟨hocc, -⟩ := h.phase.of_running hr
    exact ⟨r, { hocc with }, List.mem_cons_self⟩

/-- the token of a request that is out for another tab is cancelled -/
theorem cancel (h : m.Agrees tab sent cancelled fs)
    (hr : ∀ f ∈ fs, f.request = r → f.tab ≠ tab) :
    m.Agrees tab sent (⟨r.number⟩ :: cancelled) fs where
  sent := h.sent
  placed := h.placed
  loading := h.loading
  unowned := h.unowned
  phase := by
    have hphase := h.phase
    unfold InPhase at hphase ⊢
    cases hs : m.query.state with
    | idle => rw [hs] at hphase; exact hphase
    | running =>
      rw [hs] at hphase
      obtain ⟨r', hocc, hn⟩ := hphase
      refine ⟨r', hocc, fun hmem => ?_⟩
      rcases List.mem_cons.mp hmem with he | hmem
      · -- the slot is loading, so its owner is out for this tab
        obtain ⟨f, hf, ho⟩ := (h.loading .query).mp hocc.loading
        have hfr : f.request = r' := Option.some.inj (ho.symm.trans hocc.owner)
        have hrr : r' = r := by
          cases r'
          cases r
          exact congrArg RequestId.mk (CancelToken.mk.inj he)
        exact hr f hf (hfr.trans hrr) (h.placed f hf .query ho).1
      · exact hn hmem
    | killRequested =>
      rw [hs] at hphase
      obtain ⟨r', hocc, hn⟩ := hphase
      exact ⟨r', hocc, List.mem_cons_of_mem _ hn⟩
    | settled => rw [hs] at hphase; exact hphase

end Agrees

end TabMemory

namespace Session

theorem markKilled_of_running (s : Session) {tab : TabId} {m : TabMemory} {r : RequestId}
    {token : CancelToken} (hm : s.memory? tab = some m) (hr : m.running? = some r)
    (ha : m.query.abort = some token) :
    s.markKilled tab (some r) = (s.remember tab (·.requestKill)).cancel token := by
  have hm' : s.store.memory.get? tab = some m := hm
  simp only [markKilled, hm', hr, ha, Option.isSome_some, true_and, if_true]
  rfl

theorem markKilled_of_not_running (s : Session) {tab : TabId} {target : Option RequestId}
    (h : ∀ m, s.memory? tab = some m → ∀ r, target = some r → m.running? ≠ some r) :
    s.markKilled tab target = s := by
  cases hm : s.memory? tab with
  | none =>
    have hm' : s.store.memory.get? tab = none := hm
    simp only [markKilled, hm']
  | some m =>
    have hm' : s.store.memory.get? tab = some m := hm
    simp only [markKilled, hm']
    refine if_neg ?_
    rintro ⟨hsome, hrun⟩
    obtain ⟨r, hr⟩ := Option.isSome_iff_exists.mp hsome
    exact h m hm r hr (hrun.trans hr)

end Session

end QueryDesk
