import QueryDesk.Proofs.Frame
import QueryDesk.Proofs.Tabs

/-!
# The store hangs together

* `Session.Sound`     memories, editors and files belong to the tabs, tabs to worksheets, and each
  connection to a worksheet or a tab that has no other;
* `Session.Owes`      what there is of this while a call is out: a tab that is being deleted is gone
  before its connection, so the session is sound up to the record of that connection;
* `SoundStep`         a stretch that leads to the end of an operation in a sound session, or to
  such a call.

One lemma for each operation says that it is such a stretch.  A connection that is asked for, or
given back, is answered before anything else happens, so a reply never finds more missing than its
own operation has left.

**`Traffic.store_sound`**: at rest the session is sound, after every run.
-/

namespace QueryDesk

/-- what the binding names is there -/
def Tabs.Has (t : Tabs) : Binding → Prop
  | .worksheet w => w ∈ t.worksheetIds
  | .tab tab => tab ∈ t.tabIds

theorem Tabs.Has.of_names {t t' : Tabs} {b : Binding} (h : t.Has b)
    (hw : ∀ w ∈ t.worksheetIds, b = .worksheet w → w ∈ t'.worksheetIds)
    (hx : ∀ tab ∈ t.tabIds, b = .tab tab → tab ∈ t'.tabIds) : t'.Has b := by
  cases b with
  | worksheet w => exact hw w h rfl
  | tab tab => exact hx tab h rfl

namespace Session

structure Sound (s : Session) : Prop where
  tabs : s.store.tabs.Sound
  memory : ∀ tab, (s.memory? tab).isSome ↔ tab ∈ s.store.tabs.tabIds
  keyed : s.store.connections.Keyed
  bound : ∀ b ∈ s.store.connections.bindings, s.store.tabs.Has b
  worksheetsDrawn : ∀ w ∈ s.store.tabs.worksheetIds, w.number ≤ s.worksheetsDrawn
  tabsDrawn : ∀ tab ∈ s.store.tabs.tabIds, tab.number ≤ s.tabsDrawn

/-- the session is sound up to what the operation still does once its call is answered -/
def Owes (s : Session) : Await → Prop
  | .opening w _ _ => s.Sound ∧ w ∈ s.store.tabs.worksheetIds
  | .replacing w _ c _ => s.Sound ∧ w ∈ s.store.tabs.worksheetIds ∧ c.binding = .worksheet w
  | .deleting c .done => (s.forget c).Sound
  | .deleting c (.close w rest) => (s.forget c).Sound ∧ s.store.tabs.idsOf w = rest
  | .closing w c => s.Sound ∧ s.store.tabs.idsOf w = [] ∧
    .worksheet w ∉ (s.forget c).store.connections.bindings
  | _ => s.Sound

end Session

/-- a stretch leads to the end of an operation in a sound session, or to a call under which the
session is sound up to what the operation still does -/
def SoundStep : Session.Step → Prop
  | (s, .ends _) => s.Sound
  | (s, .waits a) => s.Owes a

namespace Session.Sound
variable {s s' : Session}

theorem empty (u : Setup) : u.session.Sound where
  tabs := .empty
  memory := by
    intro tab
    simp [Setup.session, Session.empty, memory?, Tabs.empty, Tabs.tabIds]
  keyed := .empty
  bound := nofun
  worksheetsDrawn := nofun
  tabsDrawn := nofun

theorem of_sameFrame (h : s.Sound) (hf : SameFrame s s') : s'.Sound where
  tabs := by
    rw [hf.tabs]
    exact h.tabs
  memory := by
    intro tab
    rw [hf.tabs, hf.memory]
    exact h.memory tab
  keyed := h.keyed.of_links hf.links
  bound := by
    intro b hb
    unfold Connections.bindings at hb
    rw [hf.links] at hb
    rw [hf.tabs]
    exact h.bound b hb
  worksheetsDrawn := by
    rw [hf.tabs, hf.worksheetsDrawn]
    exact h.worksheetsDrawn
  tabsDrawn := by
    rw [hf.tabs, hf.tabsDrawn]
    exact h.tabsDrawn

/-! ## connections -/

theorem forget (h : s.Sound) (id : ConnectionId) : (s.forget id).Sound :=
  { h with
    keyed := h.keyed.remove id
    bound := fun b hb => h.bound b (Connections.bindings_remove_subset id hb) }

theorem insertConnection (h : s.Sound) {c : Connection} (hc : s.store.tabs.Has c.binding) :
    (s.mapConnections (·.insert c)).Sound :=
  { h with
    keyed := h.keyed.insert c
    bound := by
      intro b hb
      rcases Connections.mem_bindings_insert hb with rfl | hb
      · exact hc
      · exact h.bound b hb }

/-! ## worksheets and tabs -/

/-- other worksheets and tabs, when none that a connection serves has gone -/
theorem mapTabs (h : s.Sound) (g : Tabs → Tabs) (ht : (g s.store.tabs).Sound)
    (hids : (g s.store.tabs).tabIds = s.store.tabs.tabIds)
    (hb : ∀ b ∈ s.store.connections.bindings, (g s.store.tabs).Has b)
    (hw : ∀ w ∈ (g s.store.tabs).worksheetIds, w.number ≤ s.worksheetsDrawn) :
    (s.mapTabs g).Sound where
  tabs := ht
  memory := by
    intro tab
    show (s.memory? tab).isSome ↔ tab ∈ (g s.store.tabs).tabIds
    rw [hids]
    exact h.memory tab
  keyed := h.keyed
  bound := hb
  worksheetsDrawn := hw
  tabsDrawn := by
    show ∀ tab ∈ (g s.store.tabs).tabIds, tab.number ≤ s.tabsDrawn
    rw [hids]
    exact h.tabsDrawn

/-- what changes of the tabs is neither their names nor those of the worksheets -/
theorem mapTabs_of_names (h : s.Sound) (g : Tabs → Tabs) (ht : (g s.store.tabs).Sound)
    (hids : (g s.store.tabs).tabIds = s.store.tabs.tabIds)
    (hws : (g s.store.tabs).worksheetIds = s.store.tabs.worksheetIds) : (s.mapTabs g).Sound := by
  refine h.mapTabs g ht hids (fun b hb => (h.bound b hb).of_names ?_ ?_) ?_
  · exact fun w hw _ => hws ▸ hw
  · exact fun tab htab _ => hids ▸ htab
  · exact hws ▸ h.worksheetsDrawn

theorem createWorksheet (h : s.Sound) (name : String) : (s.createWorksheet name).2.Sound := by
  have hnew : s.drawWorksheet.1 ∉ s.store.tabs.worksheetIds := fun hmem =>
    absurd (h.worksheetsDrawn _ hmem) (Nat.not_succ_le_self _)
  have hdraw : s.drawWorksheet.2.Sound :=
    { h with worksheetsDrawn := fun w hw => Nat.le_succ_of_le (h.worksheetsDrawn w hw) }
  have hws := Tabs.worksheetIds_insertWorksheet (t := s.store.tabs) (w := s.drawWorksheet.1) name
  refine hdraw.mapTabs (·.insertWorksheet s.drawWorksheet.1 name)
    (h.tabs.insertWorksheet hnew name) rfl (fun b hb => (h.bound b hb).of_names ?_ ?_)
    fun w hw => ?_
  · exact fun w hw _ => hws ▸ List.mem_append_left _ hw
  · exact fun tab htab _ => htab
  · rcases List.mem_append.mp (hws ▸ hw) with hw | hw
    · exact hdraw.worksheetsDrawn w hw
    · rw [List.mem_singleton.mp hw]
      exact Nat.le_refl _

/-- a worksheet without tabs and without a connection goes -/
theorem removeWorksheet (h : s.Sound) {w : WorksheetId} (hw : s.store.tabs.idsOf w = [])
    (hb : .worksheet w ∉ s.store.connections.bindings) :
    (s.mapTabs (·.removeWorksheet w)).Sound := by
  have hws := h.tabs.distinct.worksheetIds_removeWorksheet w
  have hids : (s.store.tabs.removeWorksheet w).tabIds = s.store.tabs.tabIds := by
    rw [(h.tabs.sheds_removeWorksheet w).tabIds_eq, hw]
    exact List.filter_eq_self.mpr fun _ _ => by simp
  refine h.mapTabs (·.removeWorksheet w) (h.tabs.removeWorksheet w) hids
    (fun b hmem => (h.bound b hmem).of_names ?_ ?_) fun v hv => ?_
  · rintro v hv rfl
    have hne : v ≠ w := fun he => hb (he ▸ hmem)
    exact hws ▸ List.mem_filter.mpr ⟨hv, by simpa using hne⟩
  · exact fun tab htab _ => hids ▸ htab
  · rw [hws] at hv
    exact h.worksheetsDrawn v (List.mem_filter.mp hv).1

/-- a tab that was drawn comes into the store -/
theorem insertTab (h : s.Sound) {x : QueryTab} (hx : x.id = s.drawTab.1)
    (hw : x.worksheet ∈ s.store.tabs.worksheetIds) : (s.drawTab.2.insertTab x).Sound := by
  have hnew : x.id ∉ s.store.tabs.tabIds := fun hmem =>
    absurd (h.tabsDrawn _ hmem) (hx ▸ Nat.not_succ_le_self _)
  have hids : (s.drawTab.2.insertTab x).store.tabs.tabIds = s.store.tabs.tabIds ++ [x.id] :=
    Tabs.tabIds_insertTab x
  have hws : (s.drawTab.2.insertTab x).store.tabs.worksheetIds = s.store.tabs.worksheetIds :=
    Tabs.worksheetIds_insertTab x
  exact {
    tabs := h.tabs.insertTab hnew hw
    memory := by
      intro tab
      rw [hids, memory?_insertTab]
      split
      · next he => simp [he]
      · next hne =>
        have hold : (s.drawTab.2.memory? tab).isSome ↔ tab ∈ s.store.tabs.tabIds := h.memory tab
        simpa [hne] using hold
    keyed := h.keyed
    bound := fun b hb => (h.bound b hb).of_names (fun w hw _ => hws ▸ hw)
      fun tab htab _ => hids ▸ List.mem_append_left _ htab
    worksheetsDrawn := by
      rw [hws]
      exact h.worksheetsDrawn
    tabsDrawn := by
      intro tab htab
      rw [hids] at htab
      rcases List.mem_append.mp htab with htab | htab
      · exact Nat.le_succ_of_le (h.tabsDrawn tab htab)
      · rw [List.mem_singleton.mp htab, hx]
        exact Nat.le_refl _ }

/-- a tab that no connection serves goes -/
theorem dropTab (h : s.Sound) {tab : TabId} (hb : .tab tab ∉ s.store.connections.bindings) :
    (s.dropTab tab).Sound := by
  have hids : (s.dropTab tab).store.tabs.tabIds = s.store.tabs.tabIds.filter (· ≠ tab) :=
    h.tabs.tabIds_removeTab tab
  have hws : (s.dropTab tab).store.tabs.worksheetIds = s.store.tabs.worksheetIds :=
    Tabs.worksheetIds_removeTab _ tab
  exact {
    tabs := h.tabs.removeTab tab
    memory := by
      intro other
      rw [hids, memory?_dropTab]
      split
      · next he => simp [he]
      · next hne =>
        have hold := h.memory other
        simpa [hne] using hold
    keyed := h.keyed
    bound := by
      intro b hmem
      refine (h.bound b hmem).of_names (fun w hw _ => hws ▸ hw) ?_
      rintro other ho rfl
      have hne : other ≠ tab := fun he => hb (he ▸ hmem)
      exact hids ▸ List.mem_filter.mpr ⟨ho, by simpa using hne⟩
    worksheetsDrawn := by
      rw [hws]
      exact h.worksheetsDrawn
    tabsDrawn := by
      rw [hids]
      exact fun other ho => h.tabsDrawn other (List.mem_filter.mp ho).1 }

/-! ## operations -/

theorem beginTab (h : s.Sound) (w : WorksheetId) (name : Option String) (next : AfterClone) :
    SoundStep (s.beginTab w name next) := by
  unfold Session.beginTab
  have hdraw : s.drawTab.2.Sound :=
    { h with tabsDrawn := fun tab htab => Nat.le_succ_of_le (h.tabsDrawn tab htab) }
  dsimp only
  split
  · exact hdraw
  · next x hx =>
    have hnew := h.insertTab (x := ⟨s.drawTab.1, w, name.getD (defaultName
      (s.drawTab.2.store.tabs.nextCount w)), s.drawTab.2.store.tabs.nextCount w⟩) rfl
      (Tabs.mem_worksheetIds hx)
    split
    · exact hnew
    · cases next <;> exact hnew

/-- a tab goes, and its connection is given back -/
theorem deleting (h : s.Sound) {tab : TabId} {c : Connection}
    (hc : s.store.connections.ofTab? tab = some c) : ((s.dropTab tab).forget c.id).Sound := by
  have hb := h.keyed.not_mem_bindings_remove (Connections.mem_links_of_bound? hc)
  exact (h.forget c.id).dropTab hb

theorem closeTabs (h : s.Sound) {w : WorksheetId} {tabs : List TabId}
    (hw : s.store.tabs.idsOf w = tabs) : SoundStep (s.closeTabs w tabs) := by
  induction tabs generalizing s with
  | nil =>
    simp only [Session.closeTabs, closeEmpty]
    split
    · next c hc =>
      exact ⟨h, hw, h.keyed.not_mem_bindings_remove (Connections.mem_links_of_bound? hc)⟩
    · next hc => exact h.removeWorksheet hw (Connections.not_mem_bindings_of_bound? hc)
  | cons tab rest ih =>
    -- without its first tab the worksheet has the others
    have hrest : (s.dropTab tab).store.tabs.idsOf w = rest := by
      refine (h.tabs.idsOf_removeTab tab w).trans ?_
      have hn := h.tabs.distinct.nodup_idsOf w
      rw [hw] at hn ⊢
      exact Tabs.filter_ne_of_nodup hn
    simp only [Session.closeTabs]
    split
    · exact h
    · split
      · next c hc => exact ⟨h.deleting hc, hrest⟩
      · next hc => exact ih (h.dropTab (Connections.not_mem_bindings_of_bound? hc)) hrest

theorem deleteTab (h : s.Sound) (tab : TabId) : SoundStep (s.deleteTab tab) := by
  unfold Session.deleteTab
  split
  · exact h
  · split
    · next c hc => exact h.deleting hc
    · next hc => exact h.dropTab (Connections.not_mem_bindings_of_bound? hc)

theorem beginOpen (h : s.Sound) (w : WorksheetId) (params : ConnectionParams) (next : AfterOpen) :
    SoundStep (s.beginOpen w params next) := by
  unfold Session.beginOpen
  split
  · exact h
  · next x hx => exact ⟨h, Tabs.mem_worksheetIds hx⟩

theorem afterOpen (h : s.Sound) {w : WorksheetId} (hw : w ∈ s.store.tabs.worksheetIds)
    {c : Connection} (hc : c.binding = .worksheet w) (next : AfterOpen) :
    SoundStep (s.afterOpen w c next) := by
  have hnew : (s.mapConnections (·.insert c)).Sound :=
    h.insertConnection (by rw [hc]; exact hw)
  cases next with
  | connection => exact hnew
  | firstTab => exact hnew.beginTab w none _

theorem opened (h : s.Sound) {w : WorksheetId} (hw : w ∈ s.store.tabs.worksheetIds)
    (params : ConnectionParams) (next : AfterOpen) (reply : Except ConsoleError ConnectionInfo) :
    SoundStep (s.opened w params next reply) := by
  cases reply with
  | error e => exact h
  | ok info =>
    simp only [Session.opened]
    split
    · exact ⟨h, hw, rfl⟩
    · exact h.afterOpen hw rfl next

theorem afterClone (h : s.Sound) (tab : TabId) (r : Except ConsoleError Connection)
    (next : AfterClone) : SoundStep (s.afterClone tab r next) := by
  cases next <;> exact h

theorem cloned (h : s.Sound) (source : Connection) (tab : TabId) (next : AfterClone)
    (reply : Except ConsoleError ConnectionInfo) :
    SoundStep (s.cloned source tab next reply) := by
  cases reply with
  | error e => exact h.afterClone tab _ next
  | ok info =>
    simp only [Session.cloned]
    split
    · next x hx =>
      have hnew : (s.mapConnections
          (·.insert (.ofInfo info source.name source.db (.tab tab)))).Sound :=
        h.insertConnection (Tabs.mem_tabIds hx)
      exact hnew.afterClone tab _ next
    · exact h

theorem speaks (h : s.Sound) {st : Session.Step} (hst : Speaks s st) : SoundStep st := by
  cases hst with
  | fails e => exact h
  | @sends s' a b id request abort hf _ ha _ =>
    have hs' := h.of_sameFrame hf
    cases a <;> first | exact hs' | cases ha

theorem heard (h : s.Sound) {a : Await} {st : Session.Step} (hst : Heard s a st) :
    SoundStep st := by
  cases hst with
  | ends hf => exact h.of_sameFrame hf
  | asks _ => exact h

/-- **What an operation begins with.** -/
theorem begin (h : s.Sound) (o : Operation) : SoundStep (o.begin s) := by
  cases o with
  | openWorksheet name params => exact (h.createWorksheet name).beginOpen _ params _
  | openConnection w params => exact h.beginOpen w params _
  | closeWorksheet w => exact h.closeTabs rfl
  | addTab w name => exact h.beginTab w name _
  | deleteTab tab => exact h.deleteTab tab
  | preview tab target mode => exact h.speaks (s.speaks_preview tab target mode)
  | query tab sql => exact h.speaks (s.speaks_query tab sql)
  | stop tab => exact h.speaks (s.speaks_stop tab)
  | cloneConnection source tab => exact h
  | release c => exact h
  | refreshDatabase c => exact h

/-- **What follows a reply.** -/
theorem resume {a : Await} (h : s.Owes a) (reply : a.call.Reply) :
    SoundStep (s.resume a reply) := by
  cases a with
  | opening w params next => exact h.1.opened h.2 params next reply
  | replacing w old c next => exact (h.1.forget old).afterOpen h.2.1 h.2.2 next
  | cloning source tab next => exact cloned h source tab next reply
  | discarding clone tab next => exact (forget h clone).afterClone tab _ next
  | deleting c next =>
    cases next with
    | done => exact h
    | close w rest => exact h.1.closeTabs h.2
  | closing w c => exact (h.1.forget c).removeWorksheet h.2.1 h.2.2
  | releasing c => exact forget h c
  | refreshing c => exact heard h (s.heard rfl reply)
  | previewing q mode title => exact heard h (s.heard rfl reply)
  | querying q => exact heard h (s.heard rfl reply)
  | switching q set duration => exact heard h (s.heard rfl reply)
  | killing tab via thread target => exact heard h (s.heard rfl reply)

end Session.Sound

/-! ## deeds -/

/-- a file is bound only to a tab that is there -/
def Session.Files (s : Session) : Traffic.Event → Prop
  | .deed (.bindFile tab _) => tab ∈ s.store.tabs.tabIds
  | _ => True

instance (s : Session) (e : Traffic.Event) : Decidable (s.Files e) := by
  unfold Session.Files
  split <;> infer_instance

theorem Session.Sound.deed {s : Session} (h : s.Sound) (d : Deed) (hd : s.Files (.deed d)) :
    (d.apply s).Sound := by
  cases d with
  | createWorksheet name => exact h.createWorksheet name
  | refreshLastTab tab =>
    simp only [Deed.apply, refreshLastTab]
    cases s.store.tabs.tab? tab with
    | none => exact h
    | some x =>
      have hnew := h.mapTabs_of_names (·.refreshTab tab) (h.tabs.refreshTab tab)
        (Tabs.tabIds_refreshTab _ tab) rfl
      exact hnew.of_sameFrame (.remember _ tab fun _ => TabMemory.empty)
  | clearPreviews tab => exact h.of_sameFrame (.remember ..)
  | edit tab e => exact h.mapTabs_of_names (·.edit tab e) (h.tabs.edit tab e) rfl rfl
  | bindFile tab path =>
    exact h.mapTabs_of_names (·.bindFile tab path) (h.tabs.bindFile hd path) rfl rfl
  | drainNotices => exact h.of_sameFrame { SameFrame.refl s with }

/-! ## runs -/

/-- at rest the session is sound; while a prompt call is out, up to what its operation still does -/
def integrity : Regime where
  rest := fun s _ _ => s.Sound
  out := fun s _ a _ => s.Owes a
  made := fun _ _ => True

theorem integrity_settles {v : ScriptedServer} {as : List Await} {st : Session.Step}
    (h : SoundStep st) : integrity.Settles v as st := by
  obtain ⟨s, p⟩ := st
  cases p with
  | ends r => exact h
  | waits a =>
    refine ⟨trivial, ?_⟩
    unfold Regime.During
    split
    · exact h
    · next hp => cases a <;> first | exact h | exact absurd rfl hp

theorem integrity_kept : integrity.Kept (fun _ _ => True) Session.Files where
  known_perm := fun _ h => h
  rest_perm := fun _ h => h
  out_perm := fun _ h => h
  begin := fun o _ _ h => integrity_settles (Session.Sound.begin h o)
  resume := by
    intro s v v' as a reply _ _ h
    refine integrity_settles (Session.Sound.resume ?_ reply)
    unfold Regime.During at h
    split at h
    · exact h
    · next hp => cases a <;> first | exact h | exact absurd rfl hp
  deed := fun d _ hd h => Session.Sound.deed h d hd
  cue := fun _ h => h
  pass := fun nanos h => Session.Sound.of_sameFrame h (.advance _ nanos)

namespace Traffic

/-- **At rest the store hangs together, after every prompt run that binds files only to tabs that
are there.** -/
theorem store_sound (u : Setup) (run : List Event) (hp : (fresh u).Throughout Prompt run)
    (hf : (fresh u).Throughout (fun t => t.session.Files) run) (hr : (after u run).AtRest) :
    (after u run).session.Sound := by
  obtain ⟨hstands, _⟩ := integrity_kept.after (.empty u) hp hf fun _ _ => trivial
  exact hstands.rest hr

/-- a tab with a file goes while its connection is copied; the copy is given back -/
theorem store_sound_after_discard :
    let u : Setup := ⟨100, 10, 0⟩
    let run : List Event :=
      [.answer 0, .answer 0, .begin (.deleteTab ⟨2⟩), .deed (.bindFile ⟨2⟩ "a.sql"),
        .begin (.addTab ⟨1⟩ none), .answer 0, .answer 0,
        .begin (.openWorksheet "w" (.fresh "server" "user"))]
    (fresh u).Throughout Prompt run ∧ (fresh u).Throughout (fun t => t.session.Files) run ∧
      (after u run).AtRest ∧ (after u run).session.Sound := by
  intro u run
  have hp : (fresh u).Throughout Prompt run := by decide +kernel
  have hf : (fresh u).Throughout (fun t => t.session.Files) run := by decide +kernel
  have hr : (after u run).AtRest := by decide +kernel
  exact ⟨hp, hf, hr, store_sound u run hp hf hr⟩

end Traffic

end QueryDesk
