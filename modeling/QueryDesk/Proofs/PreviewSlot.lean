import QueryDesk.Proofs.Calls
import QueryDesk.Proofs.Latest

/-!
# What an event does to a preview slot

* `Slot.answered`                   what the reply makes of the slot, `Slot.LeftBy` in words;
* `Traffic.Gets t e mode q reply`   the preview `q` gets the reply in the event;
* `Session.OwnsPreview s mode q`    the slot that it was sent for is still its own;
* `Traffic.previews t e tab mode`   the previews that go out for a slot in the event;
* `Traffic.Fill`                    what an event can do to one preview slot (`fill`), and by
  induction a run (`slot_induction`).
-/

namespace QueryDesk

/-! ## the reply to a preview -/

namespace Slot

/-- the reply to the preview that owns the slot -/
def answered (slot : Slot) (q : Sent) (now : Instant) : Except ConsoleError ResultSet → Slot
  | .ok set => slot.settle (some set) (q.time.elapsed now)
  | .error _ => { slot with loading := false }

end Slot

namespace Session

theorem slot?_of_memory {s : Session} {tab : TabId} {m : TabMemory} (h : s.memory? tab = some m)
    (place : Place) : s.slot? tab place = some (m.slot place) := by
  rw [slot?, h]
  rfl

theorem slot?_remember (s : Session) (tab : TabId) (g : TabMemory → TabMemory) (place : Place) :
    (s.remember tab g).slot? tab place = (s.memory? tab).map fun m => (g m).slot place := by
  rw [slot?, memory?_remember, if_pos rfl, Option.map_map]
  rfl

theorem slot?_previewed (s : Session) (q : Sent) (mode : Preview) (title : String)
    (reply : Except ConsoleError ResultSet) :
    (s.previewed q mode title reply).1.slot? q.tab (.preview mode) =
      (s.slot? q.tab (.preview mode)).map fun slot =>
        if slot.ownedBy q.request then slot.answered q s.now reply else slot := by
  rw [slot?, slot?, Option.map_map]
  cases reply with
  | ok set =>
    refine (s.slot?_remember q.tab _ (.preview mode)).trans ?_
    simp only [TabMemory.slot_modifyPreview]
    rfl
  | error e =>
    refine (s.slot?_remember q.tab _ (.preview mode)).trans ?_
    simp only [TabMemory.slot_modifyPreview]
    rfl

def OwnsPreview (s : Session) (mode : Preview) (q : Sent) : Prop :=
  ∃ slot, s.slot? q.tab (.preview mode) = some slot ∧ slot.owner = some q.request

end Session

namespace Traffic

/-- the preview gets the reply in the event -/
def Gets (t : Traffic) (e : Event) (mode : Preview) (q : Sent)
    (reply : Except ConsoleError ResultSet) : Prop :=
  ∃ task title gate, t.Hears e ⟨task, .previewing q mode title, gate⟩ reply

/-- the previews that go out for this slot in the event: one, or none -/
def previews (t : Traffic) (e : Event) (tab : TabId) (mode : Preview) : List Sent :=
  ((t.sends e).filter fun f => f.tab = tab ∧ f.place = .preview mode).toList.map (·.sent)

section
variable {t : Traffic} {e : Event} {tab : TabId} {mode : Preview} {q : Sent}
  {reply : Except ConsoleError ResultSet}

theorem mem_previews :
    q ∈ t.previews e tab mode ↔ t.sends e = some ⟨q, .preview mode⟩ ∧ q.tab = tab := by
  unfold previews
  constructor
  · intro h
    obtain ⟨f, hf, rfl⟩ := List.mem_map.mp h
    obtain ⟨hs, hif⟩ := Option.filter_eq_some_iff.mp (Option.mem_toList.mp hf)
    obtain ⟨ht, hp⟩ := of_decide_eq_true hif
    refine ⟨?_, ht⟩
    rw [hs, ← hp]
  · rintro ⟨hs, ht⟩
    refine List.mem_map.mpr ⟨⟨q, .preview mode⟩, ?_, rfl⟩
    rw [hs, Option.mem_toList]
    exact Option.filter_eq_some_iff.mpr ⟨rfl, by simpa [Flight.tab] using ht⟩

theorem previews_eq_nil (h : ∀ f, t.sends e = some f → ¬ (f.tab = tab ∧ f.place = .preview mode)) :
    t.previews e tab mode = [] := by
  refine List.eq_nil_iff_forall_not_mem.mpr fun q hq => ?_
  obtain ⟨hs, ht⟩ := mem_previews.mp hq
  exact h _ hs ⟨ht, rfl⟩

theorem previews_of_none (hs : t.sends e = none) : t.previews e tab mode = [] := by
  rw [previews, hs]
  rfl

theorem Gets.sends (h : t.Gets e mode q reply) : t.sends e = none := by
  obtain ⟨_, _, _, h⟩ := h
  exact h.sends

/-- a request for a preview slot is a preview -/
theorem Hears.gets {p : Pending} {reply : p.await.call.Reply} (h : t.Hears e p reply)
    (hf : p.await.flight? = some ⟨q, .preview mode⟩) : ∃ reply', t.Gets e mode q reply' := by
  obtain ⟨task, a, gate⟩ := p
  cases a with
  | previewing _ _ title =>
    cases hf
    exact ⟨reply, task, title, gate, h⟩
  | _ => cases hf

theorem Gets.unique (h : t.Gets e mode q reply) {mode' : Preview} {q' : Sent}
    {reply' : Except ConsoleError ResultSet} (h' : t.Gets e mode' q' reply') :
    mode = mode' ∧ q = q' ∧ reply = reply' := by
  obtain ⟨_, _, _, h⟩ := h
  obtain ⟨_, _, _, h'⟩ := h'
  obtain ⟨hp, hreply⟩ := h.unique h'
  cases hp
  exact ⟨rfl, rfl, eq_of_heq hreply⟩

/-- the request is out until the reply comes -/
theorem Gets.mem_flights (h : t.Gets e mode q reply) : ⟨q, .preview mode⟩ ∈ flights t.awaits := by
  obtain ⟨_, _, _, h⟩ := h
  exact List.mem_filterMap.mpr ⟨_, List.mem_map_of_mem h.mem, rfl⟩

/-- a preview slot after an event: it is emptied, a preview is sent for it, or its owner gets a
reply; else it is kept -/
inductive Fill (t : Traffic) (e : Event) (tab : TabId) (mode : Preview) : Slot → Prop where
  | emptied (hw : t.empties e tab (.preview mode) = true) : Fill t e tab mode Slot.empty
  | sent {slot q} (hb : t.session.slot? tab (.preview mode) = some slot)
    (hw : t.empties e tab (.preview mode) = false)
    (hs : t.sends e = some ⟨q, .preview mode⟩) (ht : q.tab = tab) :
    Fill t e tab mode (slot.begin q.request q.time)
  | heard {slot q reply} (hb : t.session.slot? tab (.preview mode) = some slot)
    (hw : t.empties e tab (.preview mode) = false) (hg : t.Gets e mode q reply) (ht : q.tab = tab)
    (ho : slot.owner = some q.request) :
    Fill t e tab mode (slot.answered q t.session.now reply)
  | kept {slot} (hb : t.session.slot? tab (.preview mode) = some slot)
    (hw : t.empties e tab (.preview mode) = false) (hs : t.previews e tab mode = [])
    (hno : ∀ q reply, t.Gets e mode q reply → q.tab = tab → slot.owner ≠ some q.request) :
    Fill t e tab mode slot

/-- the owner of the slot gets a reply -/
theorem Gets.fill (h : t.Gets e mode q reply) {slot slot' : Slot}
    (hs : t.session.slot? q.tab (.preview mode) = some slot) (ho : slot.owner = some q.request)
    (h' : (t.step e).session.slot? q.tab (.preview mode) = some slot') :
    t.Fill e q.tab mode slot' := by
  have hgets := h
  obtain ⟨task, title, gate, hh⟩ := h
  have hown : slot.ownedBy q.request = true := by simpa [Slot.ownedBy] using ho
  have hslot : (t.step e).session.slot? q.tab (.preview mode) =
      some (slot.answered q t.session.now reply) := by
    rw [hh.session]
    refine (t.session.slot?_previewed q mode title reply).trans ?_
    rw [hs, Option.map_some, if_pos hown]
  rw [hslot] at h'
  cases h'
  obtain ⟨m, hm, _⟩ := Option.map_eq_some_iff.mp hs
  exact .heard hs ((empties_of_memory hm _).trans (hh.wipes _ _)) hgets rfl ho

/-- no owner gets a reply: the slot is what the change of the memory makes of it -/
theorem Change.fill {before : Option TabMemory} {m' : TabMemory}
    (hb : t.session.memory? tab = before) (h : t.Change e tab before m')
    (hno : ∀ m, before = some m → ∀ q reply, t.Gets e mode q reply → q.tab = tab →
      (m.slot (.preview mode)).owner ≠ some q.request) :
    t.Fill e tab mode (m'.slot (.preview mode)) := by
  have keep : ∀ m, before = some m → t.previews e tab mode = [] →
      t.wipes e tab (.preview mode) = false → t.Fill e tab mode (m.slot (.preview mode)) := by
    intro m hm hs hw
    have hm' := hb.trans hm
    exact .kept (Session.slot?_of_memory hm' _) ((empties_of_memory hm' _).trans hw) hs (hno m hm)
  cases h with
  | created h =>
    rw [TabMemory.slot_empty]
    exact .emptied (by simp [empties, h])
  | kept hs hw =>
    exact keep m' rfl (previews_eq_nil fun f hf hft => hs f hf hft.1) (hw _)
  | @launched m f hs htab =>
    obtain ⟨q, place⟩ := f
    by_cases hp : place = .preview mode
    · subst hp
      rw [m.launch_preview rfl, TabMemory.slot_modifyPreview]
      exact .sent (Session.slot?_of_memory hb _)
        ((empties_of_memory hb _).trans (wipes_of_sends hs tab _)) hs htab
    · rw [m.slot_launch_of_ne fun h => hp h.symm]
      refine keep m rfl (previews_eq_nil fun g hg hgt => ?_) (wipes_of_sends hs tab _)
      rw [hs] at hg
      cases hg
      exact hp hgt.2
  | @landed m _ p reply f h hf htab ho hl =>
    have hne : f.place ≠ .preview mode := by
      intro hp
      obtain ⟨q, place⟩ := f
      subst hp
      obtain ⟨reply', hg⟩ := h.gets hf
      exact hno m rfl q reply' hg htab ho
    rw [hl.other _ fun h => hne h.symm]
    exact keep m rfl (previews_of_none h.sends) (h.wipes tab _)
  | @stopped m task r x h _ _ _ =>
    obtain ⟨_, _, _, hx⟩ := h
    rw [m.slot_requestKill]
    exact keep m rfl (previews_of_none hx.sends) (hx.wipes tab _)
  | @refreshed m he hx =>
    subst he
    rw [TabMemory.slot_empty]
    exact .emptied ((empties_of_memory hb _).trans (by simp [wipes, hx]))
  | @cleared m he =>
    subst he
    rw [TabMemory.slot_clearPreviews]
    exact .emptied ((empties_of_memory hb _).trans (by simp [wipes]))

/-- **What an event does to a preview slot.** -/
theorem fill (ht : Tracked t.session t.awaits) {slot' : Slot}
    (h' : (t.step e).session.slot? tab (.preview mode) = some slot') : t.Fill e tab mode slot' := by
  by_cases hh : ∃ q reply slot, t.Gets e mode q reply ∧ q.tab = tab ∧
      t.session.slot? tab (.preview mode) = some slot ∧ slot.owner = some q.request
  · obtain ⟨q, reply, slot, hg, rfl, hs, ho⟩ := hh
    exact hg.fill hs ho h'
  · obtain ⟨m', hm', rfl⟩ := Option.map_eq_some_iff.mp h'
    refine Change.fill rfl (change ht hm') fun m hm q reply hg htab ho => hh ?_
    exact ⟨q, reply, m.slot (.preview mode), hg, htab, Session.slot?_of_memory hm _, ho⟩

end

end Traffic

end QueryDesk
