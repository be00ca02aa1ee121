import QueryDesk.Proofs.Calls
import QueryDesk.Proofs.Integrity
import QueryDesk.Run.Basic

/-!
# The phases of a run

A run holds one worksheet with one tab.  From the first reply of the server to the end of the run,
the connections that it has accepted are those that the session has on record and those that it has
given back.

* `Balance accepted calls s`       accepted is what is on record or was given back, and nothing was
  given back twice;
* `Talks s st`                      a stretch that only sends and hears statements;
* `Houses s w tabs`                a sound session with one worksheet and these tabs;
* `Opening`, `Closing`                where the opening and the closing of the worksheet stand;
* `Run.accepted`, `Run.outcomes`   the connections that a run has accepted, and what its command has
  ended with;
* `Run.Stands`                     what holds in each phase.

**`Run.Stands.step`**: every step keeps what holds in its phase, whatever the server answers and
whenever the stopper awakes; `Run.Stands.after`: so does every run.
-/

namespace QueryDesk

/-! ## connections on record and connections given back -/

namespace Connections
variable {cs : Connections}

theorem bound?_of_ids {b : Binding} (h : cs.ids = []) : cs.bound? b = none := by
  cases hc : cs.bound? b with
  | none => rfl
  | some c =>
    have hmem := mem_ids (mem_links_of_bound? hc)
    rw [h] at hmem
    cases hmem

end Connections

theorem released_concat (calls : List Call) (c : Call) :
    released (calls ++ [c]) = released calls ++ c.released?.toList := by
  unfold released
  rw [List.filterMap_append]
  cases h : c.released? <;> simp [h]

/-- what was accepted is on record or was given back, and nothing was given back twice -/
structure Balance (accepted : List ConnectionId) (calls : List Call) (s : Session) : Prop where
  nodup : (released calls).Nodup
  apart : ∀ id ∈ s.store.connections.ids, id ∉ released calls
  all : ∀ id, id ∈ accepted ↔ id ∈ s.store.connections.ids ∨ id ∈ released calls

namespace Balance
variable {accepted : List ConnectionId} {calls : List Call} {s s' : Session}

theorem start (h : s.store.connections.ids = []) : Balance [] [] s :=
  ⟨List.nodup_nil, by simp [h], by simp [h, released]⟩

theorem of_links (h : Balance accepted calls s)
    (hs : s'.store.connections.links = s.store.connections.links) :
    Balance accepted calls s' := by
  have hids : s'.store.connections.ids = s.store.connections.ids := by
    unfold Connections.ids
    rw [hs]
  exact ⟨h.nodup, by rw [hids]; exact h.apart, by rw [hids]; exact h.all⟩

/-- a call that gives nothing back -/
theorem call (h : Balance accepted calls s) {c : Call} (hc : c.released? = none) :
    Balance accepted (calls ++ [c]) s := by
  have hrel : released (calls ++ [c]) = released calls := by rw [released_concat, hc]; simp
  exact ⟨by rw [hrel]; exact h.nodup, by rw [hrel]; exact h.apart, by rw [hrel]; exact h.all⟩

/-- as long as nothing is given back, the server may give a name that it has given before -/
theorem insert (h : Balance accepted calls s) (hnone : released calls = []) {c : Connection}
    (hb : c.binding ∉ s.store.connections.bindings) :
    Balance (accepted ++ [c.id]) calls (s.mapConnections (·.insert c)) where
  nodup := h.nodup
  apart := by simp [hnone]
  all := by
    intro id
    have hid : id ∈ (s.mapConnections (·.insert c)).store.connections.ids ↔ _ :=
      Connections.mem_ids_insert hb
    rw [hid, List.mem_append, h.all id, hnone]
    simp

theorem release (h : Balance accepted calls s) {id : ConnectionId}
    (hid : id ∈ s.store.connections.ids) :
    Balance accepted (calls ++ [.release id]) (s.forget id) := by
  have hmem : ∀ other, other ∈ (s.forget id).store.connections.ids ↔
      other ∈ s.store.connections.ids ∧ other ≠ id := fun _ => Connections.mem_ids_remove
  have hrel : released (calls ++ [.release id]) = released calls ++ [id] := released_concat calls _
  refine ⟨?_, ?_, ?_⟩
  · rw [hrel]
    refine List.nodup_append.mpr ⟨h.nodup, by simp, fun x hx y hy he => ?_⟩
    rw [List.mem_singleton.mp hy] at he
    exact h.apart id hid (he ▸ hx)
  · intro other ho hgone
    obtain ⟨ho, hne⟩ := (hmem other).mp ho
    rw [hrel, List.mem_append, List.mem_singleton] at hgone
    exact hgone.elim (h.apart other ho) hne
  · intro other
    rw [h.all, hmem, hrel, List.mem_append, List.mem_singleton]
    by_cases he : other = id
    · simp [he, hid]
    · simp [he]

end Balance

/-! ## statements -/

theorem Call.released?_of_isStatement {c : Call} (h : c.isStatement = true) :
    c.released? = none := by
  cases c with
  | query id request abort => rfl
  | _ => cases h

theorem Call.brings?_of_isStatement {c : Call} (h : c.isStatement = true) (reply : c.Reply) :
    c.brings? reply = none := by
  cases c with
  | query id request abort => rfl
  | _ => cases h

/-- a stretch of an operation that only sends and hears statements -/
structure Talks (s : Session) (st : Session.Step) : Prop where
  frame : SameFrame s st.1
  waits : ∀ a, st.2 = .waits a → a.call.isStatement = true

theorem Speaks.talks {s : Session} {st : Session.Step} (h : Speaks s st) : Talks s st := by
  cases h with
  | fails e => exact ⟨.refl s, fun a hw => by cases hw⟩
  | sends h _ ha _ =>
    refine ⟨h, fun a' hw => ?_⟩
    cases hw
    rw [ha]
    rfl

theorem Heard.talks {s : Session} {a : Await} {st : Session.Step} (h : Heard s a st) :
    Talks s st := by
  cases h with
  | ends h => exact ⟨h, fun a hw => by cases hw⟩
  | asks _ =>
    refine ⟨.refl s, fun a' hw => ?_⟩
    cases hw
    rfl

/-! ## a session with one worksheet and one tab -/

/-- this worksheet is the only one, and these are all the tabs -/
structure Houses (s : Session) (w : WorksheetId) (tabs : List TabId) : Prop where
  sound : s.Sound
  worksheets : s.store.tabs.worksheetIds = [w]
  tabs : s.store.tabs.tabIds = tabs

namespace Houses
variable {s s' : Session} {w : WorksheetId} {tabs : List TabId}

theorem of_sameFrame (h : Houses s w tabs) (hf : SameFrame s s') : Houses s' w tabs where
  sound := h.sound.of_sameFrame hf
  worksheets := by rw [hf.tabs]; exact h.worksheets
  tabs := by rw [hf.tabs]; exact h.tabs

theorem exists_worksheet (h : Houses s w tabs) : ∃ x, s.store.tabs.worksheet? w = some x :=
  Tabs.exists_worksheet? (h.worksheets ▸ List.mem_singleton_self w)

theorem exists_tab (h : Houses s w tabs) {tab : TabId} (ht : tab ∈ tabs) :
    ∃ x, s.store.tabs.tab? tab = some x :=
  Tabs.exists_tab? (h.tabs ▸ ht)

theorem idsOf_eq (h : Houses s w tabs) : s.store.tabs.idsOf w = tabs := by
  have hall : s.store.tabs.tabsOf w = s.store.tabs.tabs := by
    refine List.filter_eq_self.mpr fun x hx => ?_
    have := h.sound.tabs.homes x hx
    rw [h.worksheets, List.mem_singleton] at this
    simp [this]
  rw [Tabs.idsOf, hall]
  exact h.tabs

theorem dropTab {tab : TabId} (h : Houses s w [tab]) :
    (s.dropTab tab).store.tabs.worksheetIds = [w] ∧ (s.dropTab tab).store.tabs.tabIds = [] := by
  have hids : (s.dropTab tab).store.tabs.tabIds = _ := h.sound.tabs.tabIds_removeTab tab
  refine ⟨(Tabs.worksheetIds_removeTab _ tab).trans h.worksheets, ?_⟩
  rw [hids, h.tabs]
  simp

/-- once its worksheet is gone, a session without tabs has no connection on record -/
theorem ids_of_removeWorksheet (h : Houses s w [])
    (hb : .worksheet w ∉ s.store.connections.bindings) : s.store.connections.ids = [] := by
  have hbindings : s.store.connections.bindings = [] := by
    refine List.eq_nil_iff_forall_not_mem.mpr fun b hmem => ?_
    have hhas := h.sound.bound b hmem
    cases b with
    | worksheet v =>
      have hv : v ∈ s.store.tabs.worksheetIds := hhas
      rw [h.worksheets, List.mem_singleton] at hv
      exact hb (hv ▸ hmem)
    | tab tab =>
      have ht : tab ∈ s.store.tabs.tabIds := hhas
      rw [h.tabs] at ht
      cases ht
  have hlinks : s.store.connections.links = [] := List.map_eq_nil_iff.mp hbindings
  unfold Connections.ids
  rw [hlinks]
  rfl

end Houses

/-! ## opening and closing -/

/-- where an operation stands that opens the first worksheet -/
inductive Opening (s : Session) : Await → Prop where
  | first {w params} (h : Houses s w []) (hc : s.store.connections.ids = []) :
    Opening s (.opening w params .firstTab)
  | copy {w tab source} (h : Houses s w [tab]) (hb : .tab tab ∉ s.store.connections.bindings) :
    Opening s (.cloning source tab (.worksheet w))

/-- where an operation stands that closes the only worksheet: `c` is being given back -/
inductive Closing (s : Session) : Await → ConnectionId → Prop where
  | tab {w c} (h : Houses (s.forget c) w []) : Closing s (.deleting c (.close w [])) c
  | worksheet {w c} (h : Houses (s.forget c) w [])
    (hb : .worksheet w ∉ (s.forget c).store.connections.bindings) : Closing s (.closing w c) c

/-- a stretch of closing: another connection is given back, or none is left -/
def ClosingStep (accepted : List ConnectionId) (calls : List Call) : Session.Step → Prop
  | (s, .waits a) =>
    ∃ c, Closing s a c ∧ a.call = .release c ∧ Balance accepted (calls ++ [.release c]) (s.forget c)
  | (s, .ends _) => s.store.connections.ids = [] ∧ Balance accepted calls s

section
variable {accepted : List ConnectionId} {calls : List Call} {s : Session} {w : WorksheetId}

theorem closeEmpty_closing (h : Houses s w []) (hb : Balance accepted calls s) :
    ClosingStep accepted calls (s.closeEmpty w) := by
  unfold Session.closeEmpty
  split
  · next c hc =>
    have hl := Connections.mem_links_of_bound? hc
    exact ⟨c.id, .worksheet ⟨h.sound.forget c.id, h.worksheets, h.tabs⟩
      (h.sound.keyed.not_mem_bindings_remove hl), rfl, hb.release (Connections.mem_ids hl)⟩
  · next hc =>
    exact ⟨h.ids_of_removeWorksheet (Connections.not_mem_bindings_of_bound? hc),
      hb.of_links rfl⟩

theorem closeWorksheet_closing {tab : TabId} (h : Houses s w [tab])
    (hb : Balance accepted calls s) : ClosingStep accepted calls (s.closeWorksheet w) := by
  obtain ⟨x, hx⟩ := h.exists_tab List.mem_cons_self
  obtain ⟨hworksheets, htabs⟩ := h.dropTab
  have hids : (s.store.tabs.tabsOf w).map (·.id) = [tab] := h.idsOf_eq
  unfold Session.closeWorksheet
  rw [hids, Session.closeTabs]
  simp only [hx]
  split
  · next c hc =>
    have hl := Connections.mem_links_of_bound? hc
    exact ⟨c.id, .tab ⟨h.sound.deleting hc, hworksheets, htabs⟩, rfl,
      (hb.release (Connections.mem_ids hl)).of_links rfl⟩
  · next hc =>
    have hsound := h.sound.dropTab (Connections.not_mem_bindings_of_bound? hc)
    exact closeEmpty_closing ⟨hsound, hworksheets, htabs⟩ (hb.of_links rfl)

theorem resume_closing {a : Await} {c : ConnectionId} (h : Closing s a c)
    (hb : Balance accepted calls (s.forget c)) (reply : a.call.Reply) :
    ClosingStep accepted calls (s.resume a reply) := by
  cases h with
  | tab h => exact closeEmpty_closing h hb
  | worksheet h hno => exact ⟨h.ids_of_removeWorksheet hno, hb.of_links rfl⟩

end

/-! ## what happens in a run -/

namespace Phase

/-- what a command has ended with -/
def outcome? : Phase → Option (Except ConsoleError Outcome)
  | returned _ _ outcome _ => some outcome
  | _ => none

/-- what a command has ended with between two phases -/
def newOutcome? (before after : Phase) : Option (Except ConsoleError Outcome) :=
  match before.outcome? with
  | some _ => none
  | none => after.outcome?

theorem newOutcome?_of_eq {p q : Phase} (h : p.outcome? = q.outcome?) : p.newOutcome? q = none := by
  unfold newOutcome?
  cases hq : q.outcome? <;> simp [h, hq]

@[simp] theorem outcome?_withStopper (p : Phase) (stopper : Stopper) :
    (p.withStopper stopper).outcome? = p.outcome? := by
  cases p <;> rfl

theorem newOutcome?_withStopper (p q : Phase) (stopper : Stopper) :
    (p.withStopper stopper).newOutcome? q = p.newOutcome? q := by
  simp [newOutcome?]

end Phase

namespace Run

/-- the connection that the client accepts in the event -/
def accepts? (r : Run) : Event → Option ConnectionId
  | .exchange x => r.call?.bind fun c => c.brings? (c.answer x)
  | _ => none

/-- what the command ends with in the event, if it ends in it -/
def ends? (r : Run) (e : Event) : Option (Except ConsoleError Outcome) :=
  r.phase.newOutcome? (r.step e).phase

/-- the connections that the client accepts in these events -/
def accepted (r : Run) : List Event → List ConnectionId
  | [] => []
  | e :: events => (r.accepts? e).toList ++ (r.step e).accepted events

/-- what the command ends with in these events -/
def outcomes (r : Run) : List Event → List (Except ConsoleError Outcome)
  | [] => []
  | e :: events => (r.ends? e).toList ++ (r.step e).outcomes events

end Run

/-! ## phases -/

/-- a stopper waits for a statement, if for anything -/
def Stopper.Speaks : Stopper → Prop
  | stopping b => b.call.isStatement = true
  | _ => True

namespace Run

/-- what holds in each phase, when these connections were accepted and the command has ended so -/
inductive Stands (plan : Plan) (accepted : List ConnectionId) :
    List (Except ConsoleError Outcome) → Run → Prop where
  | opening {s a calls} (h : Opening s a) (hb : Balance accepted calls s)
    (hnone : released calls = []) : Stands plan accepted [] ⟨plan, s, .opening a, calls⟩
  | ready {s w tab stopper calls} (h : Houses s w [tab]) (hb : Balance accepted calls s)
    (hs : stopper.Speaks) : Stands plan accepted [] ⟨plan, s, .ready w tab stopper, calls⟩
  | working {s w tab a stopper calls} (h : Houses s w [tab]) (hb : Balance accepted calls s)
    (hs : stopper.Speaks) (ha : a.call.isStatement = true) :
    Stands plan accepted [] ⟨plan, s, .working w tab a stopper, calls⟩
  | returned {s w tab o stopper calls} (h : Houses s w [tab]) (hb : Balance accepted calls s)
    (hs : stopper.Speaks) : Stands plan accepted [o] ⟨plan, s, .returned w tab o stopper, calls⟩
  | closing {s a c o calls} (h : Closing s a c) (ha : a.call = .release c)
    (hb : Balance accepted calls (s.forget c)) :
    Stands plan accepted [o] ⟨plan, s, .closing a (resultOf o), calls⟩
  | failed {s e calls} (hids : s.store.connections.ids = []) (hb : Balance accepted calls s) :
    Stands plan accepted [] ⟨plan, s, .finished (.error (.connect plan.params e)), calls⟩
  | finished {s o calls} (hids : s.store.connections.ids = []) (hb : Balance accepted calls s) :
    Stands plan accepted [o] ⟨plan, s, .finished (resultOf o), calls⟩

section
variable {plan : Plan} {accepted : List ConnectionId} {calls : List Call} {s : Session}
  {w : WorksheetId} {tab : TabId}

theorem stands_begin (plan : Plan) : Stands plan [] [] (begin plan) := by
  let u : Setup := ⟨plan.query.rowLimit, plan.query.logCapacity.toNat, 0⟩
  have hsound := (Session.Sound.empty u).createWorksheet worksheetName
  exact .opening (.first ⟨hsound, rfl, rfl⟩ rfl) ((Balance.start rfl).call rfl) rfl

/-! ## opening -/

/-- the worksheet has its connection, and the first tab is to get a copy -/
theorem stands_firstTab (h : Houses s w []) (hb : Balance accepted calls s)
    (hnone : released calls = []) (hbound : .worksheet w ∈ s.store.connections.bindings)
    (p : Phase) :
    Stands plan accepted [] (opened ⟨plan, s, p, calls⟩ (s.beginTab w none (.worksheet w))) := by
  obtain ⟨x, hx⟩ := h.exists_worksheet
  obtain ⟨c, hc⟩ := Connections.exists_bound? hbound
  let tab : QueryTab := ⟨s.drawTab.1, w, Session.defaultName (s.store.tabs.nextCount w),
    s.store.tabs.nextCount w⟩
  have hstep : s.beginTab w none (.worksheet w) =
      (s.drawTab.2.insertTab tab, .waits (.cloning c tab.id (.worksheet w))) := by
    have hx' : s.drawTab.2.store.tabs.worksheet? w = some x := hx
    have hc' : (s.drawTab.2.insertTab tab).store.connections.ofWorksheet? w = some c := hc
    simp only [Session.beginTab, hx']
    exact hc' ▸ rfl
  have hhouse : Houses (s.drawTab.2.insertTab tab) w [tab.id] :=
    ⟨h.sound.insertTab rfl (Tabs.mem_worksheetIds hx),
      (Tabs.worksheetIds_insertTab tab).trans h.worksheets,
      (Tabs.tabIds_insertTab tab).trans (congrArg (· ++ [tab.id]) h.tabs)⟩
  have hno : .tab tab.id ∉ s.store.connections.bindings := fun hmem => by
    have hhas : tab.id ∈ s.store.tabs.tabIds := h.sound.bound _ hmem
    rw [h.tabs] at hhas
    cases hhas
  have hcopy : Opening (s.drawTab.2.insertTab tab) (.cloning c tab.id (.worksheet w)) :=
    .copy hhouse hno
  have hrel : released (calls ++ [.clone c.id]) = [] := (released_concat calls _).trans (by
    rw [hnone]
    rfl)
  have hnew : Balance accepted calls (s.drawTab.2.insertTab tab) := hb.of_links rfl
  rw [hstep]
  exact .opening hcopy (hnew.call rfl) hrel

theorem stands_opened_first (h : Houses s w []) (hc : s.store.connections.ids = [])
    (hb : Balance accepted calls s) (hnone : released calls = []) (p : Phase)
    (params : ConnectionParams) (reply : (Call.connect params).Reply) :
    Stands plan (accepted ++ ((Call.connect params).brings? reply).toList) []
      (opened ⟨plan, s, p, calls⟩ (s.opened w params .firstTab reply)) := by
  cases reply with
  | error e =>
    rw [show ((Call.connect params).brings? (.error e)).toList = [] from rfl, List.append_nil]
    exact .failed hc hb
  | ok info =>
    have hno := Connections.bound?_of_ids (b := .worksheet w) hc
    simp only [Session.opened, show s.store.connections.ofWorksheet? w = none from hno]
    let c := Connection.ofInfo info params.target params.db (.worksheet w)
    have hnew : Balance (accepted ++ [c.id]) calls (s.mapConnections (·.insert c)) :=
      hb.insert hnone (Connections.not_mem_bindings_of_bound? hno)
    obtain ⟨x, hx⟩ := h.exists_worksheet
    have hhouse : Houses (s.mapConnections (·.insert c)) w [] :=
      ⟨h.sound.insertConnection (Tabs.mem_worksheetIds hx), h.worksheets, h.tabs⟩
    exact stands_firstTab hhouse hnew hnone
      (Connections.mem_bindings (Connections.mem_links_insert_self _ c)) p

theorem stands_opened_copy (h : Houses s w [tab])
    (hno : .tab tab ∉ s.store.connections.bindings) (hb : Balance accepted calls s)
    (hnone : released calls = []) (p : Phase) (source : Connection)
    (reply : (Call.clone source.id).Reply) :
    Stands plan (accepted ++ ((Call.clone source.id).brings? reply).toList) []
      (opened ⟨plan, s, p, calls⟩ (s.cloned source tab (.worksheet w) reply)) := by
  have hstopper : (stopperOf plan).Speaks := by
    unfold stopperOf
    split
    · split <;> trivial
    · trivial
  cases reply with
  | error e =>
    rw [show ((Call.clone source.id).brings? (.error e)).toList = [] from rfl, List.append_nil]
    exact .ready h hb hstopper
  | ok info =>
    obtain ⟨x, hx⟩ := h.exists_tab List.mem_cons_self
    simp only [Session.cloned, hx]
    let c := Connection.ofInfo info source.name source.db (.tab tab)
    have hnew : Balance (accepted ++ [c.id]) calls (s.mapConnections (·.insert c)) :=
      hb.insert hnone hno
    have hsound : (s.mapConnections (·.insert c)).Sound :=
      h.sound.insertConnection (Tabs.mem_tabIds hx)
    exact .ready ⟨hsound, h.worksheets, h.tabs⟩ hnew hstopper

/-! ## the command and its stopper -/

theorem stands_worked {st : Session.Step} (h : Houses s w [tab]) (hb : Balance accepted calls s)
    {stopper : Stopper} (hs : stopper.Speaks) (hst : Talks s st) (s₀ : Session) (p : Phase) :
    Stands plan accepted (worked ⟨plan, s₀, p, calls⟩ w tab stopper st).phase.outcome?.toList
      (worked ⟨plan, s₀, p, calls⟩ w tab stopper st) := by
  obtain ⟨s', a | r⟩ := st
  · have ha := hst.waits a rfl
    exact .working (h.of_sameFrame hst.frame)
      ((hb.of_links hst.frame.links).call (Call.released?_of_isStatement ha)) hs ha
  · exact .returned (h.of_sameFrame hst.frame) (hb.of_links hst.frame.links) hs

theorem stands_closed {o : Except ConsoleError Outcome} {st : Session.Step}
    (hst : ClosingStep accepted calls st) (s₀ : Session) (p : Phase) :
    Stands plan accepted
      ([o] ++ (p.newOutcome? (closed ⟨plan, s₀, p, calls⟩ (resultOf o) st).phase).toList)
      (closed ⟨plan, s₀, p, calls⟩ (resultOf o) st) := by
  have hnone : p.newOutcome? (closed ⟨plan, s₀, p, calls⟩ (resultOf o) st).phase = none := by
    unfold Phase.newOutcome?
    obtain ⟨s', a | r⟩ := st <;> split <;> rfl
  rw [hnone, Option.toList_none, List.append_nil]
  obtain ⟨s', a | r⟩ := st
  · obtain ⟨c, hc, hcall, hb⟩ := hst
    have hcalls : calls ++ [a.call] = calls ++ [.release c] := by rw [hcall]
    exact .closing hc hcall (hcalls ▸ hb)
  · exact .finished hst.1 hst.2

end

section
variable {plan : Plan} {accepted : List ConnectionId} {outs : List (Except ConsoleError Outcome)}
  {r : Run}

theorem Stands.stay (h : Stands plan accepted outs r) (p : Phase)
    (hp : p.outcome? = r.phase.outcome?) :
    Stands plan accepted (outs ++ (p.newOutcome? r.phase).toList) r := by
  rw [Phase.newOutcome?_of_eq hp]
  simpa using h

/-- the command has not ended -/
theorem Stands.of_nil (h : Stands plan accepted [] r) {p : Phase} (hp : p.outcome? = none) :
    Stands plan accepted ([] ++ (p.newOutcome? r.phase).toList) r := by
  refine h.stay p ?_
  cases h <;> exact hp

theorem Stands.speaks (h : Stands plan accepted outs r) {tab : TabId} {stopper : Stopper}
    (hp : r.phase.stopper? = some (tab, stopper)) : stopper.Speaks := by
  cases h with
  | ready h hb hs => cases hp; exact hs
  | working h hb hs ha => cases hp; exact hs
  | returned h hb hs => cases hp; exact hs
  | _ => cases hp

/-- a query that was stopped is given up -/
theorem Stands.giveUp (h : Stands plan accepted outs r) :
    Stands plan accepted (outs ++ (r.phase.newOutcome? r.giveUp.phase).toList) r.giveUp := by
  have stay : r.giveUp = r → Stands plan accepted
      (outs ++ (r.phase.newOutcome? r.giveUp.phase).toList) r.giveUp := by
    intro he
    rw [he]
    exact h.stay _ rfl
  cases h with
  | @working s w tab a stopper calls h hb hs ha =>
    cases ht : a.call.abort? with
    | none => exact stay (by simp only [Run.giveUp, ht])
    | some token =>
      cases hc : s.isCancelled token with
      | false => exact stay (by simp [Run.giveUp, ht, hc])
      | true =>
        have hup : Run.giveUp ⟨plan, s, .working w tab a stopper, calls⟩ =
            worked ⟨plan, s, .working w tab a stopper, calls⟩ w tab stopper
              (s.resume a (.error .cancelled)) := by
          simp [Run.giveUp, ht, hc]
        rw [hup]
        exact stands_worked h hb hs (s.heard ha _).talks s _
  | _ => exact stay rfl

/-- the stopper goes on -/
theorem Stands.stopped (h : Stands plan accepted outs r) (hat : r.phase.stopper?.isSome)
    {st : Session.Step} (hst : Talks r.session st) :
    Stands plan accepted (outs ++ (r.phase.newOutcome? (r.stopped st).phase).toList)
      (r.stopped st) := by
  obtain ⟨s', a | result⟩ := st
  · have ha := hst.waits a rfl
    have hrel := Call.released?_of_isStatement ha
    have hnext : Stands plan accepted outs (r.stopped (s', .waits a)) := by
      cases h with
      | ready h hb hs =>
        exact .ready (h.of_sameFrame hst.frame) ((hb.of_links hst.frame.links).call hrel) ha
      | working h hb hs hw =>
        exact .working (h.of_sameFrame hst.frame) ((hb.of_links hst.frame.links).call hrel) ha hw
      | returned h hb hs =>
        exact .returned (h.of_sameFrame hst.frame) ((hb.of_links hst.frame.links).call hrel) ha
      | _ => cases hat
    refine hnext.stay _ ?_
    exact (Phase.outcome?_withStopper r.phase _).symm
  · have hnext : Stands plan accepted outs
        { r with session := s', phase := r.phase.withStopper .idle } := by
      cases h with
      | ready h hb hs =>
        exact .ready (h.of_sameFrame hst.frame) (hb.of_links hst.frame.links) trivial
      | working h hb hs hw =>
        exact .working (h.of_sameFrame hst.frame) (hb.of_links hst.frame.links) trivial hw
      | returned h hb hs =>
        exact .returned (h.of_sameFrame hst.frame) (hb.of_links hst.frame.links) trivial
      | _ => cases hat
    have hup := hnext.giveUp
    rw [Phase.newOutcome?_withStopper] at hup
    exact hup

/-- **Every step keeps what holds in its phase.** -/
theorem Stands.step (h : Stands plan accepted outs r) (e : Event) :
    Stands plan (accepted ++ (r.accepts? e).toList) (outs ++ (r.ends? e).toList) (r.step e) := by
  have stay : r.accepts? e = none → r.step e = r →
      Stands plan (accepted ++ (r.accepts? e).toList) (outs ++ (r.ends? e).toList) (r.step e) := by
    intro ha he
    rw [ha, ends?, he]
    simpa using h.stay r.phase rfl
  cases e with
  | exchange x =>
    cases h with
    | opening h hb hnone =>
      cases h with
      | first h hc => exact (stands_opened_first h hc hb hnone ..).of_nil rfl
      | copy h hno => exact (stands_opened_copy h hno hb hnone ..).of_nil rfl
    | @working s w tab a stopper calls h hb hs ha =>
      have hnone : accepts? ⟨plan, s, .working w tab a stopper, calls⟩ (.exchange x) = none :=
        Call.brings?_of_isStatement ha _
      rw [hnone, Option.toList_none, List.append_nil]
      exact stands_worked h hb hs (s.heard ha _).talks s _
    | @closing s a c o calls h ha hb =>
      have hnone : accepts? ⟨plan, s, .closing a (resultOf o), calls⟩ (.exchange x) = none := by
        show a.call.brings? (a.call.answer x) = none
        rw [ha]
        rfl
      rw [hnone, Option.toList_none, List.append_nil]
      exact stands_closed (resume_closing h hb _) s _
    | ready h hb hs => exact stay rfl rfl
    | returned h hb hs => exact stay rfl rfl
    | failed hids hb => exact stay rfl rfl
    | finished hids hb => exact stay rfl rfl
  | proceed =>
    rw [show r.accepts? .proceed = none from rfl, Option.toList_none, List.append_nil]
    cases h with
    | @ready s w tab stopper calls h hb hs =>
      have htalks : Talks s (work s tab plan.command) := by
        cases plan.command with
        | query sql killAfter => exact (s.speaks_query tab sql).talks
        | preview target details => exact (s.speaks_preview tab target _).talks
      exact stands_worked h hb hs htalks s _
    | @returned s w tab o stopper calls h hb hs =>
      exact stands_closed (closeWorksheet_closing h hb) s _
    | opening h hb hnone => exact (Stands.opening h hb hnone).stay _ rfl
    | working h hb hs ha => exact (Stands.working h hb hs ha).stay _ rfl
    | closing h ha hb => exact (Stands.closing h ha hb).stay _ rfl
    | failed hids hb => exact (Stands.failed hids hb).stay _ rfl
    | finished hids hb => exact (Stands.finished hids hb).stay _ rfl
  | stopExchange x =>
    cases hp : r.phase.stopper? with
    | none => exact stay rfl (by simp only [Run.step, hp])
    | some at? =>
      obtain ⟨tab, stopper⟩ := at?
      cases stopper with
      | stopping b =>
        have hstep : r.step (.stopExchange x) =
            r.stopped (r.session.resume b (b.call.answer x)) := by simp only [Run.step, hp]
        have hb : b.call.isStatement = true := h.speaks hp
        rw [ends?, hstep, show r.accepts? (.stopExchange x) = none from rfl, Option.toList_none,
          List.append_nil]
        exact h.stopped (by rw [hp]; rfl) (r.session.heard hb _).talks
      | _ => exact stay rfl (by simp only [Run.step, hp])
  | awake =>
    cases hp : r.phase.stopper? with
    | none => exact stay rfl (by simp only [Run.step, hp])
    | some at? =>
      obtain ⟨tab, stopper⟩ := at?
      cases stopper with
      | asleep =>
        have hstep : r.step .awake = r.stopped (r.session.stop tab) := by
          simp only [Run.step, hp]
        rw [ends?, hstep, show r.accepts? .awake = none from rfl, Option.toList_none,
          List.append_nil]
        exact h.stopped (by rw [hp]; rfl) (r.session.speaks_stop tab).talks
      | _ => exact stay rfl (by simp only [Run.step, hp])

/-- **What holds after every run.** -/
theorem Stands.after (h : Stands plan accepted outs r) (events : List Event) :
    Stands plan (accepted ++ r.accepted events) (outs ++ r.outcomes events) (r.after events) := by
  induction events generalizing accepted outs r with
  | nil => simpa [Run.accepted, Run.outcomes, Run.after] using h
  | cons e events ih =>
    have hnext := ih (h.step e)
    rw [List.append_assoc, List.append_assoc] at hnext
    exact hnext

end

end Run

end QueryDesk
