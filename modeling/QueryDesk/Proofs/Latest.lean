import QueryDesk.Proofs.Events

/-!
# The latest request wins

* `Traffic.sendsInto`  the request that goes out for a place in an event;
* `Traffic.empties`    an event empties a place of a tab: the tab is new, or as new, or its previews
  are cleared;
* `Traffic.latest`     of a run, the last request into a place since it was last emptied;
* `Traffic.Turn`       what an event can do to one slot (`turn`);
* `LatestWins u run`   every slot belongs to the latest request into it, and an answer to an older
  request changes no memory.

**`Traffic.latest_wins`**: so it is after every run.
-/

namespace QueryDesk

def Session.slot? (s : Session) (tab : TabId) (place : Place) : Option Slot :=
  (s.memory? tab).map (·.slot place)

namespace Traffic

/-- the request that goes out for this place in the event -/
def sendsInto (t : Traffic) (e : Event) (tab : TabId) (place : Place) : Option RequestId :=
  ((t.sends e).filter fun f => f.tab = tab ∧ f.place = place).map (·.request)

def empties (t : Traffic) (e : Event) (tab : TabId) (place : Place) : Bool :=
  t.creates e tab || t.wipes e tab place

/-- the last request into the place since it was last emptied -/
def latest (u : Setup) (tab : TabId) (place : Place) : List Event → Option RequestId
  | [] => none
  | e :: run =>
    if (after u run).empties e tab place then none
    else ((after u run).sendsInto e tab place).or (latest u tab place run)

theorem sendsInto_eq_none {t : Traffic} {e : Event} {tab : TabId} {place : Place}
    (h : ∀ f, t.sends e = some f → ¬ (f.tab = tab ∧ f.place = place)) :
    t.sendsInto e tab place = none := by
  unfold sendsInto
  cases hs : t.sends e with
  | none => rfl
  | some f => simp [Option.filter, h f hs]

theorem sendsInto_of_none {t : Traffic} {e : Event} {tab : TabId} {place : Place}
    (h : t.sends e = none) : t.sendsInto e tab place = none := by
  rw [sendsInto, h]
  rfl

theorem sendsInto_of_sends {t : Traffic} {e : Event} {f : Flight} (h : t.sends e = some f) :
    t.sendsInto e f.tab f.place = some f.request := by
  simp [sendsInto, h, Option.filter]

/-! ## one slot in one event -/

section
variable {t : Traffic} {e : Event}

/-- a slot in an event: it comes with its tab, is emptied, taken over by a request, kept, or written
by the request that owns it -/
inductive Turn (t : Traffic) (e : Event) (tab : TabId) (place : Place) :
    Option Slot → Slot → Prop where
  | created (h : t.creates e tab = true) : Turn t e tab place none Slot.empty
  | wiped {slot} (h : t.wipes e tab place = true) : Turn t e tab place (some slot) Slot.empty
  | sent {slot slot' f} (hs : t.sends e = some f) (ht : f.tab = tab) (hp : f.place = place)
    (hr : slot'.owner = some f.request) (hw : t.empties e tab place = false) :
    Turn t e tab place (some slot) slot'
  | kept {slot} (hs : t.sendsInto e tab place = none) (hw : t.empties e tab place = false) :
    Turn t e tab place (some slot) slot
  | landed {slot slot'} {p : Pending} {reply : p.await.call.Reply} {f} (h : t.Hears e p reply)
    (hf : p.await.flight? = some f) (ht : f.tab = tab) (hp : f.place = place)
    (ho : slot.owner = some f.request) (ho' : slot'.owner = slot.owner)
    (hw : t.empties e tab place = false) : Turn t e tab place (some slot) slot'

theorem empties_of_memory {tab : TabId} {m : TabMemory} (hm : t.session.memory? tab = some m)
    (place : Place) : t.empties e tab place = t.wipes e tab place := by
  simp [empties, creates, hm]

theorem turn (ht : Tracked t.session t.awaits) {tab : TabId} {place : Place} {slot' : Slot}
    (h' : (t.step e).session.slot? tab place = some slot') :
    t.Turn e tab place (t.session.slot? tab place) slot' := by
  obtain ⟨m', hm', rfl⟩ := Option.map_eq_some_iff.mp h'
  rw [Session.slot?]
  have hc := change ht hm'
  have hem : ∀ m, t.session.memory? tab = some m → t.empties e tab place = t.wipes e tab place :=
    fun m hm => empties_of_memory hm place
  generalize t.session.memory? tab = before at hc hem
  have hnone : t.sends e = none → t.sendsInto e tab place = none := sendsInto_of_none
  cases hc with
  | created h =>
    show Turn t e tab place none (TabMemory.empty.slot place)
    rw [TabMemory.slot_empty]
    exact .created h
  | kept hs hw =>
    exact .kept (sendsInto_eq_none fun f hf hft => hs f hf hft.1) ((hem _ rfl).trans (hw place))
  | @launched m f hs htab =>
    have hw : t.empties e tab place = false := (hem m rfl).trans (wipes_of_sends hs tab place)
    by_cases hp : f.place = place
    · subst hp
      exact .sent hs htab rfl (m.owner_launch f) hw
    · show Turn t e tab place (some (m.slot place)) _
      rw [m.slot_launch_of_ne fun h => hp h.symm]
      refine .kept (sendsInto_eq_none fun g hg hgt => ?_) hw
      rw [hs] at hg
      cases hg
      exact hp hgt.2
  | @landed m _ p reply f h hf htab ho hl =>
    have hw : t.empties e tab place = false := (hem m rfl).trans (h.wipes tab place)
    by_cases hp : f.place = place
    · subst hp
      exact .landed h hf htab rfl ho hl.owner hw
    · show Turn t e tab place (some (m.slot place)) _
      rw [hl.other place fun h => hp h.symm]
      exact .kept (hnone h.sends) hw
  | @stopped m task r x h _ _ _ =>
    obtain ⟨_, _, _, hh⟩ := h
    show Turn t e tab place (some (m.slot place)) _
    rw [m.slot_requestKill]
    exact .kept (hnone hh.sends) ((hem m rfl).trans (hh.wipes tab place))
  | refreshed he hx =>
    subst he
    rw [TabMemory.slot_empty]
    exact .wiped (by simp [wipes, hx])
  | @cleared m he =>
    subst he
    cases place with
    | preview mode =>
      rw [TabMemory.slot_clearPreviews]
      exact .wiped (by simp [wipes])
    | query => exact .kept rfl ((hem m rfl).trans (by simp [wipes]))

/-- the owner after an event: nobody if the place is emptied, else the request that is sent into it,
else the owner before -/
theorem Turn.owner {tab : TabId} {place : Place} {before : Option Slot} {slot' : Slot}
    (h : t.Turn e tab place before slot') :
    slot'.owner = if t.empties e tab place then none
      else (t.sendsInto e tab place).or (before.bind (·.owner)) := by
  cases h with
  | created h => simp [empties, h, Slot.empty]
  | wiped h => simp [empties, h, Slot.empty]
  | sent hs ht hp hr hw =>
    subst ht hp
    simp [hw, sendsInto_of_sends hs, hr]
  | kept hs hw => simp [hw, hs]
  | landed h _ _ _ _ ho' hw => simp [hw, sendsInto_of_none h.sends, ho']

end

end Traffic

/-! ## runs -/

/-- every slot belongs to the latest request into it; an answer to an older one changes nothing -/
structure LatestWins (u : Setup) (run : List Traffic.Event) : Prop where
  owner : ∀ tab place slot, (Traffic.after u run).session.slot? tab place = some slot →
    slot.owner = Traffic.latest u tab place run
  /-- a place that was emptied stays empty until a request is sent into it -/
  empty : ∀ tab place slot, (Traffic.after u run).session.slot? tab place = some slot →
    Traffic.latest u tab place run = none → slot = Slot.empty
  idle : ∀ tab m, (Traffic.after u run).session.memory? tab = some m →
    Traffic.latest u tab .query run = none → m.query = QuerySlot.empty
  stale : ∀ e (p : Pending) (reply : p.await.call.Reply) f,
    (Traffic.after u run).Hears e p reply → p.await.flight? = some f →
    (∀ slot, (Traffic.after u run).session.slot? f.tab f.place = some slot →
      slot.owner ≠ some f.request) →
    ∀ tab, (Traffic.after u (e :: run)).session.memory? tab =
      (Traffic.after u run).session.memory? tab
  /-- data that is there is replaced only by an answer to the latest request -/
  data : ∀ e tab place slot slot', (Traffic.after u run).session.slot? tab place = some slot →
    (Traffic.after u (e :: run)).session.slot? tab place = some slot' → slot'.data ≠ slot.data →
    (Traffic.after u run).empties e tab place = true ∨
    (∃ f, (Traffic.after u run).sends e = some f ∧ f.tab = tab ∧ f.place = place) ∨
    ∃ (p : Pending) (reply : p.await.call.Reply) (f : Flight),
      (Traffic.after u run).Hears e p reply ∧ p.await.flight? = some f ∧ f.tab = tab ∧
      f.place = place ∧ Traffic.latest u tab place run = some f.request

namespace Traffic

theorem owner_eq_latest (u : Setup) (run : List Event) {tab : TabId} {place : Place} {slot : Slot}
    (h : (after u run).session.slot? tab place = some slot) :
    slot.owner = latest u tab place run := by
  induction run generalizing slot with
  | nil => cases h
  | cons e run ih =>
    have hturn := turn (tracked_after u run) h
    rw [hturn.owner, latest]
    cases hem : (after u run).empties e tab place with
    | true => rfl
    | false =>
      cases hslot : (after u run).session.slot? tab place with
      | some slot => simp [ih hslot]
      | none =>
        rw [hslot] at hturn
        cases hturn with
        | created hc => simp [empties, hc] at hem

/-- a request that is out and does not own its slot ends without a trace in the memories -/
theorem memory?_of_stale (u : Setup) (run : List Event) {e : Event} {p : Pending}
    {reply : p.await.call.Reply} {f : Flight} (h : (after u run).Hears e p reply)
    (hf : p.await.flight? = some f)
    (hs : ∀ slot, (after u run).session.slot? f.tab f.place = some slot →
      slot.owner ≠ some f.request)
    (tab : TabId) :
    (after u (e :: run)).session.memory? tab = (after u run).session.memory? tab := by
  have hbound := (tracked_after u run).bound _ (List.mem_map_of_mem h.mem)
  have hstale : ∀ m, (after u run).session.memory? f.tab = some m →
      (m.slot f.place).owner ≠ some f.request := by
    intro m hm
    refine hs _ ?_
    rw [Session.slot?, hm]
    rfl
  rw [after_cons, h.session]
  have hst := (after u run).session.resumed reply hbound
  obtain ⟨task, a, gate⟩ := p
  generalize (after u run).session.resume a reply = st at hst ⊢
  cases hst with
  | keep ha _ =>
    rw [show a.flight? = some f from hf] at ha
    cases ha
  | arrive _ _ => cases hf
  | switch _ _ => rfl
  | land g hg htd _ =>
    rw [show a.flight? = some f from hf] at hg
    cases hg
    refine htd.memory?_eq fun htab m hm => ?_
    subst htab
    exact hstale m hm
  | acknowledge _ => cases hf

/-- **After every run the slots belong to the latest requests.** -/
theorem latest_wins (u : Setup) (run : List Event) : LatestWins u run where
  owner := fun _ _ _ h => owner_eq_latest u run h
  empty := by
    intro tab place slot h hl
    have ho := owner_eq_latest u run h
    rw [hl] at ho
    obtain ⟨m, hm, rfl⟩ := Option.map_eq_some_iff.mp h
    exact ((tracked_after u run).agrees tab m hm).unowned place ho
  idle := by
    intro tab m hm hl
    have hslot : (after u run).session.slot? tab .query = some (m.slot .query) := by
      rw [Session.slot?, hm]
      rfl
    have ho := owner_eq_latest u run hslot
    rw [hl] at ho
    exact ((tracked_after u run).agrees tab m hm).phase.query_eq_empty ho
  stale := fun _ _ _ _ h hf hs tab => memory?_of_stale u run h hf hs tab
  data := by
    intro e tab place slot slot' h h' hne
    have hturn := turn (tracked_after u run) h'
    rw [h] at hturn
    cases hturn with
    | wiped hw => exact .inl (by simp [empties, hw])
    | sent hs ht hp _ _ => exact .inr (.inl ⟨_, hs, ht, hp⟩)
    | kept _ _ => exact absurd rfl hne
    | landed hh hf ht hp ho _ _ =>
      exact .inr (.inr ⟨_, _, _, hh, hf, ht, hp, (owner_eq_latest u run h).symm.trans ho⟩)

/-- of two queries on a tab the second owns the slot, and the answer to the first changes nothing -/
example :
    let u : Setup := ⟨100, 10, 0⟩
    let sent : List Event :=
      [.begin (.query ⟨1⟩ "select 2"), .begin (.query ⟨1⟩ "select 1"), .answer 0, .answer 0,
        .begin (.openWorksheet "w" (.fresh "server" "user"))]
    let state (run : List Event) := ((after u run).session.memory? ⟨1⟩).map (·.query.state)
    latest u ⟨1⟩ .query sent = some ⟨2⟩ ∧ state (.answer 0 :: sent) = some .running ∧
      state (.answer 1 :: sent) = some .settled := by
  decide +kernel

end Traffic

end QueryDesk
