import QueryDesk.Proofs.DeskTraffic
import QueryDesk.Proofs.Tracking

/-!
# Memories are coherent

* `IsOut`, `IsOver`   an operation still waits for the answer to a request, or no longer does;
* `Shows`             what the query slot of a tab is in each of the four run states;
* `Coherent`          every query slot shows one run state, its own; every preview slot is loading
  as long as the request that owns it is out; when no request is out nothing is loading or busy.

**`Traffic.coherent_after`**: so it is after every run, whatever the server answers and in whatever
order.
-/

namespace QueryDesk

/-- the operation that sent `r` for a place of the tab waits for its answer -/
def IsOut (as : List Await) (tab : TabId) (place : Place) (r : RequestId) : Prop :=
  ∃ f ∈ flights as, f.tab = tab ∧ f.place = place ∧ f.request = r

/-- `r` was sent, and no operation waits for it any longer -/
def IsOver (s : Session) (as : List Await) (r : RequestId) : Prop :=
  r.number ≤ s.requestsSent ∧ ∀ f ∈ flights as, f.request ≠ r

/-- what belongs to each run state: how the query slot of a tab is then, and the request in it -/
def Shows (s : Session) (as : List Await) (tab : TabId) (m : TabMemory) : RunState → Prop
  | .idle => m.query = QuerySlot.empty ∧ m.busy = false
  | .running => ∃ r, m.Occupied r ∧ IsOut as tab .query r ∧ s.isCancelled ⟨r.number⟩ = false
  | .killRequested => ∃ r, m.Occupied r ∧ IsOut as tab .query r ∧ s.isCancelled ⟨r.number⟩ = true
  | .settled => m.query.result.loading = false ∧ m.busy = false ∧ m.query.abort = none ∧
      ∃ r, m.query.result.owner = some r ∧ IsOver s as r

structure Coherent (s : Session) (as : List Await) : Prop where
  query : ∀ tab m, s.memory? tab = some m →
    (∃! state, Shows s as tab m state) ∧ Shows s as tab m m.query.state
  preview : ∀ tab m, s.memory? tab = some m → ∀ mode,
    (m.slot (.preview mode)).loading = true ↔
      ∃ r, (m.slot (.preview mode)).owner = some r ∧ IsOut as tab (.preview mode) r
  rest : flights as = [] → ∀ tab m, s.memory? tab = some m →
    m.busy = false ∧ ∀ place, (m.slot place).loading = false

/-! ## one memory -/

namespace TabMemory.Agrees
variable {m : TabMemory} {tab : TabId} {sent : Nat} {cancelled : List CancelToken} {as : List Await}

/-- a slot is loading as long as the request that owns it is out -/
theorem loading_iff_isOut (h : m.Agrees tab sent cancelled (flights as)) (place : Place) :
    (m.slot place).loading = true ↔ ∃ r, (m.slot place).owner = some r ∧ IsOut as tab place r := by
  rw [h.loading place]
  constructor
  · rintro ⟨f, hf, ho⟩
    obtain ⟨ht, hp⟩ := h.placed f hf place ho
    exact ⟨f.request, ho, f, hf, ht, hp, rfl⟩
  · rintro ⟨r, ho, f, hf, _, _, rfl⟩
    exact ⟨f, hf, ho⟩

theorem isOut_of_occupied (h : m.Agrees tab sent cancelled (flights as)) {r : RequestId}
    (ho : m.Occupied r) : IsOut as tab .query r := by
  obtain ⟨r', hown, hout⟩ := (h.loading_iff_isOut .query).mp ho.loading
  have he : r' = r := Option.some.inj (hown.symm.trans ho.owner)
  exact he ▸ hout

end TabMemory.Agrees

/-! ## one run state at a time -/

namespace Shows
variable {s : Session} {as : List Await} {tab : TabId} {m : TabMemory}

/-- what tells the run states apart: the owner, whether the slot is loading, the token -/
theorem marks {state : RunState} (h : Shows s as tab m state) :
    (state = .idle ↔ m.query.result.owner = none) ∧
    (state = .running ∨ state = .killRequested ↔ m.query.result.loading = true) ∧
    (state = .killRequested ↔
      ∃ r, m.query.result.owner = some r ∧ m.query.result.loading = true ∧
        s.isCancelled ⟨r.number⟩ = true) := by
  cases state with
  | idle =>
    obtain ⟨hq, -⟩ := h
    simp [hq, QuerySlot.empty, Slot.empty]
  | running =>
    obtain ⟨r, ho, -, hc⟩ := h
    simp [ho.owner, ho.loading, hc]
  | killRequested =>
    obtain ⟨r, ho, -, hc⟩ := h
    simp [ho.owner, ho.loading, hc]
  | settled =>
    obtain ⟨hl, -, -, r, ho, -⟩ := h
    simp [ho, hl]

theorem unique {state state' : RunState} (h : Shows s as tab m state)
    (h' : Shows s as tab m state') : state = state' := by
  obtain ⟨hidle, hout, hkill⟩ := h.marks
  obtain ⟨hidle', hout', hkill'⟩ := h'.marks
  rw [← hidle'] at hidle
  rw [← hout'] at hout
  rw [← hkill'] at hkill
  cases state <;> cases state' <;> simp at hidle hout hkill ⊢

end Shows

namespace Tracked
variable {s : Session} {as : List Await} {tab : TabId} {m : TabMemory}

/-- the query slot shows its run state -/
theorem shows (h : Tracked s as) (hm : s.memory? tab = some m) :
    Shows s as tab m m.query.state := by
  have hagree := h.agrees tab m hm
  have hphase := hagree.phase
  unfold TabMemory.InPhase at hphase
  cases hs : m.query.state with
  | idle =>
    rw [hs] at hphase
    exact hphase
  | running =>
    rw [hs] at hphase
    obtain ⟨r, ho, hn⟩ := hphase
    exact ⟨r, ho, hagree.isOut_of_occupied ho, decide_eq_false hn⟩
  | killRequested =>
    rw [hs] at hphase
    obtain ⟨r, ho, hc⟩ := hphase
    exact ⟨r, ho, hagree.isOut_of_occupied ho, decide_eq_true hc⟩
  | settled =>
    rw [hs] at hphase
    obtain ⟨⟨r, ho⟩, hl, ha, hb⟩ := hphase
    refine ⟨hl, hb, ha, r, ho, hagree.sent .query r ho, fun f hf hfr => ?_⟩
    have hload := (hagree.loading .query).mpr ⟨f, hf, hfr ▸ ho⟩
    rw [show (m.slot .query).loading = false from hl] at hload
    cases hload

/-- when no request is out, nothing is loading and no connection is busy -/
theorem rest (h : Tracked s as) (hf : flights as = []) (hm : s.memory? tab = some m) :
    m.busy = false ∧ ∀ place, (m.slot place).loading = false := by
  have hagree := h.agrees tab m hm
  have hload : ∀ place, (m.slot place).loading = false := by
    intro place
    refine Bool.eq_false_iff.mpr fun hl => ?_
    obtain ⟨f, hmem, _⟩ := (hagree.loading place).mp hl
    rw [hf] at hmem
    cases hmem
  refine ⟨?_, hload⟩
  have hidle : ∀ r, ¬ m.Occupied r := by
    intro r ho
    have hl := hload .query
    rw [show (m.slot .query).loading = true from ho.loading] at hl
    cases hl
  have hphase := hagree.phase
  unfold TabMemory.InPhase at hphase
  split at hphase
  · exact hphase.2
  · obtain ⟨r, ho, _⟩ := hphase
    exact absurd ho (hidle r)
  · obtain ⟨r, ho, _⟩ := hphase
    exact absurd ho (hidle r)
  · exact hphase.2.2.2

theorem coherent (h : Tracked s as) : Coherent s as where
  query := fun _ _ hm => ⟨⟨_, h.shows hm, fun _ hs => hs.unique (h.shows hm)⟩, h.shows hm⟩
  preview := fun tab m hm mode => (h.agrees tab m hm).loading_iff_isOut (.preview mode)
  rest := fun hf _ _ hm => h.rest hf hm

end Tracked

/-! ## runs -/

/-- **After every run the memories are coherent.** -/
theorem Traffic.coherent_after (u : Setup) (run : List Event) :
    Coherent (after u run).session (after u run).awaits :=
  (tracked_after u run).coherent

/-- a query that runs, and is then to be stopped -/
example :
    let sent : List Traffic.Event :=
      [.begin (.query ⟨1⟩ "select 1"), .answer 0, .answer 0,
        .begin (.openWorksheet "w" (.fresh "server" "user"))]
    let state (run : List Traffic.Event) :=
      ((Traffic.after ⟨100, 10, 0⟩ run).session.memory? ⟨1⟩).map (·.query.state)
    state sent = some .running ∧
      state (.answer 1 :: .begin (.stop ⟨1⟩) :: sent) = some .killRequested := by
  decide +kernel

/-- **So they are at every desk that can be reached.** -/
theorem Desk.Reached.coherent {u : Setup} {d : Desk} {past : List Ending} (h : Reached u d past) :
    Coherent d.session (d.waiting.map (·.await)) := by
  obtain ⟨run, hrun, _⟩ := h.exists_run
  have hc := (Traffic.tracked_after u run).coherent
  have ha : (d.traffic past).awaits = d.waiting.map (·.await) := by
    simp [traffic, Traffic.awaits, Waiting.pending]
  rw [hrun, ha] at hc
  exact hc

end QueryDesk
