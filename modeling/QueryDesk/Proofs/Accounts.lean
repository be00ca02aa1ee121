import Mathlib.Data.List.Induction
import QueryDesk.Proofs.Calls
import QueryDesk.Proofs.Frame
import QueryDesk.Proofs.Wiring

/-!
# Every connection is accounted for

* `Books s v coming as`   the connections that the server `v` handed out are those of the session
  `s`, those that were given back, and those that are coming, each of them once; and every request
  that is out for a tab that is still there went out on the connection of the tab;
* `Session.Promises`      what there is of this while a connection is asked for or given back;
* `accounts`              the regime of the two, in which a call names a connection that was handed
  out and not given back.

**`Traffic.connections_accounted`**: so it is after every prompt run in which no connection is
copied or given back by hand.
-/

namespace QueryDesk

/-- an operation of the user, none on a connection by hand -/
def Operation.isPlain : Operation → Bool
  | cloneConnection .. | release _ | refreshDatabase _ => false
  | _ => true

structure Books (s : Session) (v : ScriptedServer) (coming : List ConnectionId)
    (as : List Await) : Prop where
  keyed : s.store.connections.Keyed
  balance : (s.store.connections.ids ++ released v.calls ++ coming).Perm v.ids
  /-- a request that is out for a tab that is there has the connection of the tab -/
  manned : ∀ f ∈ flights as, (s.memory? f.tab).isSome → s.Serves f.tab f.sent.connection.id

/-- the accounts up to what the operation still does once its call is answered -/
def Session.Promises (s : Session) (v : ScriptedServer) (as : List Await) : Await → Prop
  | .opening .. => Books s v [] as
  | .replacing w old c _ => Books (s.forget old) v [c.id] as ∧ c.binding = .worksheet w ∧
    .worksheet w ∉ (s.forget old).store.connections.bindings
  | .discarding c _ _ => Books (s.forget c) v [] as
  | .deleting c _ => Books (s.forget c) v [] as
  | .closing _ c => Books (s.forget c) v [] as
  | .releasing c => Books (s.forget c) v [] as
  | _ => True

/-- the call names a connection that was handed out, and not given back -/
def ScriptedServer.Good (v : ScriptedServer) (c : Call) : Prop :=
  ∀ id, c.connection? = some id → id ∈ v.ids ∧ id ∉ released v.calls

def accounts : Regime where
  rest := fun s v as => Books s v [] as
  out := fun s v a as => s.Promises v as a
  made := ScriptedServer.Good

theorem released_receive (v : ScriptedServer) (c : Call) :
    released (v.receive c).2.calls = released v.calls ++ c.released?.toList := by
  rw [ScriptedServer.calls_receive]
  unfold released
  rw [List.filterMap_append]
  cases c <;> rfl

namespace Books
variable {s s' : Session} {v v' : ScriptedServer} {coming : List ConnectionId}
  {as bs : List Await} {id : ConnectionId}

theorem start (u : Setup) : Books u.session ScriptedServer.empty [] [] where
  keyed := .empty
  balance := List.Perm.nil
  manned := by
    intro f hf
    cases hf

/-! ## what the accounts say of one connection -/

theorem nodup (h : Books s v coming as) :
    (s.store.connections.ids ++ released v.calls ++ coming).Nodup :=
  h.balance.nodup_iff.mpr v.nodup_ids

theorem recorded (h : Books s v coming as) (hid : id ∈ s.store.connections.ids) :
    id ∈ v.ids ∧ id ∉ released v.calls := by
  refine ⟨h.balance.subset (List.mem_append_left _ (List.mem_append_left _ hid)), fun hrel => ?_⟩
  have hn := (List.nodup_append.mp h.nodup).1
  exact (List.nodup_append.mp hn).2.2 id hid id hrel rfl

theorem coming_new (h : Books s v [id] as) :
    id ∈ v.ids ∧ id ∉ released v.calls ∧ id ∉ s.store.connections.ids := by
  have hne := (List.nodup_append.mp h.nodup).2.2
  have hmem : id ∈ [id] := List.mem_singleton_self id
  exact ⟨h.balance.subset (List.mem_append_right _ hmem),
    fun hrel => hne id (List.mem_append_right _ hrel) id hmem rfl,
    fun hid => hne id (List.mem_append_left _ hid) id hmem rfl⟩

/-! ## the session changes -/

/-- the session has the same connections, and no memory for a request that is out has come -/
theorem of_links (h : Books s v coming as)
    (hl : s'.store.connections.links = s.store.connections.links)
    (hm : ∀ f ∈ flights as, (s'.memory? f.tab).isSome → (s.memory? f.tab).isSome) :
    Books s' v coming as where
  keyed := h.keyed.of_links hl
  balance := by
    unfold Connections.ids
    rw [hl]
    exact h.balance
  manned := by
    intro f hf hmem
    unfold Session.Serves
    rw [hl]
    exact h.manned f hf (hm f hf hmem)

theorem of_sameFrame (h : Books s v coming as) (hf : SameFrame s s') : Books s' v coming as :=
  h.of_links hf.links fun f _ hm => hf.memory f.tab ▸ hm

theorem dropTab (h : Books s v coming as) (tab : TabId) : Books (s.dropTab tab) v coming as := by
  refine h.of_links rfl fun f _ hm => ?_
  rw [Session.memory?_dropTab] at hm
  split at hm
  · cases hm
  · exact hm

/-- a tab that was drawn after those that requests are out for comes into the store -/
theorem insertTab (h : Books s v coming as)
    (hd : ∀ f ∈ flights as, f.tab.number ≤ s.tabsDrawn) {x : QueryTab} (hx : x.id = s.drawTab.1) :
    Books (s.drawTab.2.insertTab x) v coming as := by
  refine h.of_links rfl fun f hf hm => ?_
  rw [Session.memory?_insertTab] at hm
  split at hm
  · next he =>
    -- no request was out for a tab that had not been drawn
    have hlt : s.tabsDrawn < f.tab.number := by
      rw [he, hx]
      exact Nat.lt_succ_self _
    exact absurd (hd f hf) (Nat.not_le.mpr hlt)
  · exact hm

theorem insert {c : Connection} (h : Books s v [c.id] as)
    (hb : c.binding ∉ s.store.connections.bindings) :
    Books (s.mapConnections (·.insert c)) v [] as := by
  have hl : (s.mapConnections (·.insert c)).store.connections.links =
      s.store.connections.links ++ [(c.binding, c.id)] :=
    Connections.links_insert_of_new hb h.coming_new.2.2
  have hids : (s.mapConnections (·.insert c)).store.connections.ids =
      s.store.connections.ids ++ [c.id] := by
    unfold Connections.ids
    rw [hl, List.map_append]
    rfl
  exact {
    keyed := h.keyed.insert c
    balance := by
      rw [hids, List.append_nil, List.append_assoc]
      refine List.Perm.trans ?_ h.balance
      rw [List.append_assoc]
      exact List.perm_append_comm.append_left _
    manned := by
      intro f hf hm
      unfold Session.Serves
      rw [hl]
      exact List.mem_append_left _ (h.manned f hf hm) }

/-! ## calls are made and answered -/

theorem of_flights (h : Books s v coming as) (hf : ∀ f ∈ flights bs, f ∈ flights as) :
    Books s v coming bs :=
  { h with manned := fun f hmem => h.manned f (hf f hmem) }

theorem of_server (h : Books s v coming as) (hc : released v'.calls = released v.calls)
    (hids : v'.ids = v.ids) : Books s v' coming as :=
  { h with
    balance := by
      rw [hc, hids]
      exact h.balance }

theorem receive (h : Books s v coming as) {c : Call} (hc : c.released? = none) :
    Books s (v.receive c).2 coming as :=
  h.of_server (by rw [released_receive, hc]; exact List.append_nil _) (v.ids_receive c)

/-- a connection is given back that serves no tab with a request out -/
theorem release (h : Books s v coming as) {b : Binding} (hl : (b, id) ∈ s.store.connections.links)
    (hb : ∀ tab, b = .tab tab → s.memory? tab = none) :
    Books (s.forget id) (v.receive (.release id)).2 coming as where
  keyed := h.keyed.remove id
  balance := by
    rw [released_receive, v.ids_receive]
    refine List.Perm.trans ?_ h.balance
    refine List.Perm.append_right _ ?_
    have hids := h.keyed.perm_ids_remove (Connections.mem_ids hl)
    refine List.Perm.trans ?_ (hids.append_right _)
    rw [List.append_assoc]
    exact List.perm_append_comm.append_left _
  manned := by
    intro f hf hm
    -- its own connection stays, for the one that goes would be that of a tab without a memory
    have hserves := h.manned f hf hm
    refine Connections.mem_links_remove.mpr ⟨hserves, fun hid => ?_⟩
    have he := h.keyed.eq_of_mem_links hserves hl hid
    have hno : s.memory? f.tab = none := hb f.tab (congrArg Prod.fst he).symm
    have hm' : (s.memory? f.tab).isSome := hm
    rw [hno] at hm'
    cases hm'

theorem release_worksheet (h : Books s v coming as) {w : WorksheetId}
    (hl : (.worksheet w, id) ∈ s.store.connections.links) :
    Books (s.forget id) (v.receive (.release id)).2 coming as :=
  h.release hl fun tab he => by cases he

theorem forget_of_not_mem (hid : id ∉ s.store.connections.ids) : s.forget id = s := by
  have hsame : s.store.connections.remove id = s.store.connections := by
    unfold Connections.remove
    rw [List.filter_eq_self.mpr]
    intro c hc
    have hne : c.id ≠ id := fun he => hid (he ▸ List.mem_map_of_mem (List.mem_map_of_mem hc))
    simpa using hne
  exact congrArg (fun cs => s.mapConnections fun _ => cs) hsame

theorem discard (h : Books s v [id] as) :
    Books (s.forget id) (v.receive (.release id)).2 [] as := by
  rw [forget_of_not_mem h.coming_new.2.2]
  exact { h with
    balance := by
      rw [released_receive, v.ids_receive, List.append_nil, ← List.append_assoc]
      exact h.balance }

/-! ## stretches -/

theorem good (h : Books s v coming as) {b : Binding} (hl : (b, id) ∈ s.store.connections.links)
    {c : Call} (hc : c.connection? = some id) : v.Good c := by
  intro id' hid
  rw [hc] at hid
  cases hid
  exact h.recorded (Connections.mem_ids hl)

theorem promised {a : Await} (hp : a.isPrompt = true) (hg : v.Good a.call)
    (h : s.Promises (v.receive a.call).2 as a) : accounts.Settles v as (s, .waits a) := by
  refine ⟨hg, ?_⟩
  unfold Regime.During
  rw [if_pos hp]
  exact h

theorem held {a : Await} (h : Books s v [] as) (hp : a.isPrompt = false) (hg : v.Good a.call)
    (hf : ∀ f, a.flight? = some f → (s.memory? f.tab).isSome →
      s.Serves f.tab f.sent.connection.id) : accounts.Settles v as (s, .waits a) := by
  refine ⟨hg, ?_⟩
  have hrel : a.call.released? = none := by
    cases a <;> first | rfl | cases hp
  have hrest : Books s (v.receive a.call).2 [] (a :: as) :=
    { h.receive hrel with
      manned := by
        intro f hmem hm
        rcases List.mem_filterMap.mp hmem with ⟨b, hb, hfb⟩
        rcases List.mem_cons.mp hb with rfl | hb
        · exact hf f hfb hm
        · exact h.manned f (List.mem_filterMap.mpr ⟨b, hb, hfb⟩) hm }
  unfold Regime.During
  rw [if_neg (by simp [hp])]
  exact hrest

theorem beginTab (h : Books s v [] as) (hd : ∀ f ∈ flights as, f.tab.number ≤ s.tabsDrawn)
    (w : WorksheetId) (name : Option String) (next : AfterClone) :
    accounts.Settles v as (s.beginTab w name next) := by
  unfold Session.beginTab
  dsimp only
  split
  · exact h.of_links rfl fun _ _ hm => hm
  · have hnew := h.insertTab hd (x := ⟨s.drawTab.1, w, name.getD (Session.defaultName
      (s.drawTab.2.store.tabs.nextCount w)), s.drawTab.2.store.tabs.nextCount w⟩) rfl
    split
    · next c hc =>
      have hl := Connections.mem_links_of_bound? hc
      refine hnew.held rfl (hnew.good hl rfl) fun f hf => ?_
      cases hf
    · cases next <;> exact hnew

/-- a tab goes, and its connection is given back -/
theorem deleting (h : Books s v [] as) {tab : TabId} {c : Connection}
    (hc : s.store.connections.ofTab? tab = some c) (next : AfterDelete) :
    accounts.Settles v as (s.dropTab tab, .waits (.deleting c.id next)) := by
  have hl := Connections.mem_links_of_bound? hc
  have hdrop := h.dropTab tab
  refine promised rfl (hdrop.good hl rfl) (hdrop.release hl fun other ho => ?_)
  cases ho
  rw [Session.memory?_dropTab, if_pos rfl]

theorem closeTabs (h : Books s v [] as) (w : WorksheetId) (tabs : List TabId) :
    accounts.Settles v as (s.closeTabs w tabs) := by
  induction tabs generalizing s with
  | nil =>
    simp only [Session.closeTabs, Session.closeEmpty]
    split
    · next c hc =>
      have hl := Connections.mem_links_of_bound? hc
      exact promised rfl (h.good hl rfl) (h.release_worksheet hl)
    · exact h.of_links rfl fun _ _ hm => hm
  | cons tab rest ih =>
    simp only [Session.closeTabs]
    split
    · exact h
    · split
      · next c hc => exact h.deleting hc _
      · exact ih (h.dropTab tab)

theorem deleteTab (h : Books s v [] as) (tab : TabId) :
    accounts.Settles v as (s.deleteTab tab) := by
  unfold Session.deleteTab
  split
  · exact h
  · split
    · next c hc => exact h.deleting hc _
    · exact h.dropTab tab

theorem beginOpen (h : Books s v [] as) (w : WorksheetId) (params : ConnectionParams)
    (next : AfterOpen) : accounts.Settles v as (s.beginOpen w params next) := by
  unfold Session.beginOpen
  split
  · exact h
  · refine promised rfl (fun id hid => ?_) (h.receive rfl)
    cases hid

/-- the connection of a worksheet comes; its first tab may follow -/
theorem afterOpen {c : Connection} (h : Books s v [c.id] as)
    (hd : ∀ f ∈ flights as, f.tab.number ≤ s.tabsDrawn)
    (hb : c.binding ∉ s.store.connections.bindings) (w : WorksheetId) (next : AfterOpen) :
    accounts.Settles v as (s.afterOpen w c next) := by
  have hnew := h.insert hb
  cases next with
  | connection => exact hnew
  | firstTab => exact hnew.beginTab hd w none _

theorem opened {info : ConnectionInfo} (h : Books s v [info.id] as)
    (hd : ∀ f ∈ flights as, f.tab.number ≤ s.tabsDrawn) (w : WorksheetId)
    (params : ConnectionParams) (next : AfterOpen) :
    accounts.Settles v as (s.opened w params next (.ok info)) := by
  simp only [Session.opened]
  split
  · next old hold =>
    have hl := Connections.mem_links_of_bound? hold
    exact promised rfl (h.good hl rfl)
      ⟨h.release_worksheet hl, rfl, h.keyed.not_mem_bindings_remove hl⟩
  · next hno =>
    have hb : .worksheet w ∉ s.store.connections.bindings :=
      Connections.not_mem_bindings_of_bound? hno
    exact afterOpen (c := .ofInfo info params.target params.db (.worksheet w)) h hd hb w next

theorem afterClone (h : Books s v [] as) (tab : TabId) (r : Except ConsoleError Connection)
    (next : AfterClone) : accounts.Settles v as (s.afterClone tab r next) := by
  cases next <;> exact h

/-- the connection of a tab comes; if the tab has gone, it is given back -/
theorem cloned {info : ConnectionInfo} (h : Books s v [info.id] as) (source : Connection)
    {tab : TabId} (hb : .tab tab ∉ s.store.connections.bindings) (next : AfterClone) :
    accounts.Settles v as (s.cloned source tab next (.ok info)) := by
  simp only [Session.cloned]
  split
  · have hnew : Books (s.mapConnections
        (·.insert (.ofInfo info source.name source.db (.tab tab)))) v [] as := h.insert hb
    exact hnew.afterClone tab _ next
  · obtain ⟨hid, hrel, _⟩ := h.coming_new
    refine promised rfl (fun id he => ?_) h.discard
    cases he
    exact ⟨hid, hrel⟩

theorem speaks (h : Books s v [] as) {st : Session.Step} (hst : Speaks s st) :
    accounts.Settles v as st := by
  cases hst with
  | fails e => exact h
  | @sends s' a b id request abort hf hid ha hserves =>
    have hprompt : a.isPrompt = false := by
      unfold Await.isPrompt
      rw [ha]
      rfl
    refine (h.of_sameFrame hf).held hprompt (h.good hid (by rw [ha]; rfl)) fun f hfl _ => ?_
    unfold Session.Serves
    rw [hf.links]
    exact hserves f hfl

theorem heard {a : Await} (h : Books s v [] (a :: as)) {st : Session.Step} (hst : Heard s a st) :
    accounts.Settles v as st := by
  have hdrop : Books s v [] as :=
    h.of_flights fun f hf => ((List.sublist_cons_self a as).filterMap Await.flight?).subset hf
  cases hst with
  | ends hf => exact hdrop.of_sameFrame hf
  | @asks q set duration hm =>
    have hout : (⟨q, .query⟩ : Flight) ∈ flights (.querying q :: as) := List.mem_cons_self
    have hserves := h.manned _ hout hm
    refine hdrop.held rfl (h.good hserves rfl) fun f hf _ => ?_
    cases hf
    exact hserves

/-- **What an operation begins with.** -/
theorem begin (h : Books s v [] as) (hd : ∀ f ∈ flights as, f.tab.number ≤ s.tabsDrawn)
    {o : Operation} (ho : o.isPlain = true) : accounts.Settles v as (o.begin s) := by
  cases o with
  | openWorksheet name params =>
    have hnew : Books (s.createWorksheet name).2 v [] as := h.of_links rfl fun _ _ hm => hm
    exact hnew.beginOpen _ params _
  | openConnection w params => exact h.beginOpen w params _
  | closeWorksheet w => exact h.closeTabs w _
  | addTab w name => exact h.beginTab hd w name _
  | deleteTab tab => exact h.deleteTab tab
  | preview tab target mode => exact h.speaks (s.speaks_preview tab target mode)
  | query tab sql => exact h.speaks (s.speaks_query tab sql)
  | stop tab => exact h.speaks (s.speaks_stop tab)
  | cloneConnection source tab => cases ho
  | release c => cases ho
  | refreshDatabase c => cases ho

theorem of_answered {a : Await} {reply : a.call.Reply} (ha : a.Answered v reply v')
    (hb : a.call.brings? reply = none) (h : Books s v coming as) : Books s v' coming as := by
  cases ha with
  | server =>
    refine h.of_server (by rw [v.calls_reply]) ?_
    rw [v.ids_reply, hb]
    exact List.append_nil _
  | cancelled _ => exact h

theorem hand_of_answered {a : Await} {reply : a.call.Reply} (ha : a.Answered v reply v')
    (hb : a.call.brings? reply = some id) (h : Books s v [] as) : Books s v' [id] as := by
  cases ha with
  | server =>
    exact { h with
      balance := by
        have hold := h.balance
        rw [v.calls_reply, v.ids_reply, hb]
        rw [List.append_nil] at hold
        exact hold.append_right _ }
  | cancelled _ =>
    cases a <;> cases hb

theorem exists_threadOf {tab : TabId} (hb : .tab tab ∈ s.store.connections.bindings) :
    ∃ thread, s.threadOf tab thread := by
  obtain ⟨l, hl, he⟩ := List.mem_map.mp hb
  obtain ⟨c, hc, rfl⟩ := List.mem_map.mp hl
  exact ⟨c.thread, c, hc, he, rfl⟩

/-- **What follows a reply.** -/
theorem resume {a : Await} {reply : a.call.Reply} (hw : Wired s (a :: as))
    (ha : a.Answered v reply v') (h : accounts.During s v a as) :
    accounts.Settles v' as (s.resume a reply) := by
  have hd : ∀ f ∈ flights as, f.tab.number ≤ s.tabsDrawn := hw.drop.drawnOut
  cases a with
  | opening w params next =>
    have hrest : Books s v [] as := h
    cases reply with
    | error e => exact of_answered ha rfl hrest
    | ok info => exact (hand_of_answered ha rfl hrest).opened hd w params next
  | replacing w old c next =>
    obtain ⟨hrest, hc, hb⟩ : s.Promises v as (.replacing w old c next) := h
    have hb' : c.binding ∉ (s.forget old).store.connections.bindings := by
      rw [hc]
      exact hb
    exact (of_answered ha rfl hrest).afterOpen hd hb' w next
  | cloning source tab next =>
    have hall : Books s v [] (.cloning source tab next :: as) := h
    have hrest : Books s v [] as := hall.of_flights fun _ hf => hf
    cases reply with
    | error e => exact (of_answered ha rfl hrest).afterClone tab _ next
    | ok info =>
      -- while the copy was made its tab had no connection, so the copy takes no other's place
      refine (hand_of_answered ha rfl hrest).cloned source (fun hb => ?_) next
      obtain ⟨thread, hth⟩ := exists_threadOf hb
      exact hw.bare tab List.mem_cons_self thread hth
  | discarding c tab next =>
    have hrest : Books (s.forget c) v [] as := h
    exact (of_answered ha rfl hrest).afterClone tab _ next
  | deleting c next =>
    have hrest : Books (s.forget c) v [] as := h
    cases next with
    | done => exact of_answered ha rfl hrest
    | close w rest => exact (of_answered ha rfl hrest).closeTabs w rest
  | closing w c =>
    have hrest : Books (s.forget c) v [] as := h
    exact (of_answered ha rfl hrest).of_links rfl fun _ _ hm => hm
  | releasing c =>
    have hrest : Books (s.forget c) v [] as := h
    exact of_answered ha rfl hrest
  | _ => exact heard (of_answered ha rfl h) (s.heard rfl reply)

theorem promises_of_flights {a : Await} (hf : ∀ f ∈ flights bs, f ∈ flights as)
    (h : s.Promises v as a) : s.Promises v bs a := by
  cases a with
  | opening w params next => exact of_flights h hf
  | replacing w old c next => exact ⟨h.1.of_flights hf, h.2⟩
  | discarding c tab next => exact of_flights h hf
  | deleting c next => exact of_flights h hf
  | closing w c => exact of_flights h hf
  | releasing c => exact of_flights h hf
  | _ => trivial

theorem deed (h : Books s v [] as) (d : Deed) : Books (d.apply s) v [] as := by
  have of_remember : ∀ {s' : Session} tab f, Books s' v [] as → Books (s'.remember tab f) v [] as :=
    fun tab f h' => h'.of_sameFrame (.remember _ tab f)
  cases d with
  | createWorksheet name => exact h.of_links rfl fun _ _ hm => hm
  | refreshLastTab tab =>
    simp only [Deed.apply, Session.refreshLastTab]
    cases s.store.tabs.tab? tab with
    | none => exact h
    | some x =>
      have hnew : Books (s.mapTabs (·.refreshTab tab)) v [] as := h.of_links rfl fun _ _ hm => hm
      exact of_remember tab (fun _ => TabMemory.empty) hnew
  | clearPreviews tab => exact of_remember tab _ h
  | edit tab e => exact h.of_links rfl fun _ _ hm => hm
  | bindFile tab path => exact h.of_links rfl fun _ _ hm => hm
  | drainNotices => exact h.of_links rfl fun _ _ hm => hm

end Books

/-! ## runs -/

theorem accounts_kept :
    accounts.Kept Wired (fun _ e => ∀ o, e = .begin o → o.isPlain = true) where
  known_perm := Wired.perm
  rest_perm := fun hab h =>
    Books.of_flights h fun _ hf => (hab.filterMap Await.flight?).mem_iff.mpr hf
  out_perm := fun hab h =>
    Books.promises_of_flights (fun _ hf => (hab.filterMap Await.flight?).mem_iff.mpr hf) h
  begin := fun o hw ho h => Books.begin h hw.drawnOut (ho o rfl)
  resume := fun _ _ hw ha h => Books.resume hw ha h
  deed := fun d _ _ h => Books.deed h d
  cue := fun c h =>
    Books.of_server h (by rw [ScriptedServer.calls_cue]) (ScriptedServer.ids_cue _ c)
  pass := fun nanos h => Books.of_sameFrame h (.advance _ nanos)

/-- every connection of a run is accounted for -/
structure Accounted (u : Setup) (run : List Traffic.Event) : Prop where
  /-- no name is given twice -/
  handed_once : (Traffic.handedOut u run).Nodup
  /-- at rest the connections are those of the session and those that were given back -/
  balance : (Traffic.after u run).AtRest → ∀ id, id ∈ Traffic.handedOut u run ↔
    id ∈ (Traffic.after u run).session.store.connections.ids ∨
      id ∈ released (Traffic.after u run).server.calls
  disjoint : (Traffic.after u run).AtRest →
    List.Disjoint (Traffic.after u run).session.store.connections.ids
      (released (Traffic.after u run).server.calls)
  recorded_once : (Traffic.after u run).AtRest →
    (Traffic.after u run).session.store.connections.ids.Nodup
  released_once : (released (Traffic.after u run).server.calls).Nodup
  /-- a call names a connection that was handed out before, and not given back with the calls
  before -/
  live : ∀ before c later id, (Traffic.after u run).server.calls = before ++ c :: later →
    c.connection? = some id → ∃ e early, e :: early <:+ run ∧
      (Traffic.after u early).server.calls = before ∧ id ∈ Traffic.handedOut u (e :: early) ∧
      id ∉ released before

theorem Operation.noClone_of_isPlain {o : Operation} (h : o.isPlain = true) : o.NoClone := by
  rintro source tab rfl
  cases h

theorem Call.connection?_of_released? {c : Call} {id : ConnectionId} (h : c.released? = some id) :
    c.connection? = some id := by
  cases c with
  | release id' => exact h
  | _ => cases h

/-- nothing is given back twice if no call gives back what the calls before it gave back -/
theorem nodup_released {calls : List Call}
    (h : ∀ before c later id, calls = before ++ c :: later → c.released? = some id →
      id ∉ released before) : (released calls).Nodup := by
  -- the last call gives back what none before it did
  induction calls using List.reverseRecOn with
  | nil => exact List.nodup_nil
  | append_singleton calls c ih =>
    have hn : (released calls).Nodup := ih fun before c' later id hc =>
      h before c' (later ++ [c]) id (by rw [hc]; simp)
    unfold released at hn ⊢
    rw [List.filterMap_append]
    cases hc : c.released? with
    | none => simpa [hc] using hn
    | some id =>
      have hnew := h calls c [] id rfl hc
      have hsing : [c].filterMap Call.released? = [id] := by simp [hc]
      rw [hsing]
      refine List.nodup_append.mpr ⟨hn, by simp, fun x hx y hy he => hnew ?_⟩
      rw [List.mem_singleton.mp hy] at he
      exact he ▸ hx

namespace Traffic

/-- **Every connection is accounted for, after every prompt run in which none is copied or given
back by hand.** -/
theorem connections_accounted (u : Setup) (run : List Event) (hp : (fresh u).Throughout Prompt run)
    (ho : ∀ o, .begin o ∈ run → o.isPlain = true) : Accounted u run := by
  obtain ⟨hstands, hmade⟩ := accounts_kept.after (.start u) hp
    (.of_forall fun early e hsuf o he => ho o (hsuf.subset (he ▸ List.mem_cons_self)))
    fun early hsuf => wired_after u fun o hmem =>
      Operation.noClone_of_isPlain (ho o (hsuf.subset hmem))
  have hbooks : (after u run).AtRest → Books _ _ [] _ := hstands.rest
  have hlive : ∀ before c later id, (after u run).server.calls = before ++ c :: later →
      c.connection? = some id → ∃ e early, e :: early <:+ run ∧
        (after u early).server.calls = before ∧ id ∈ handedOut u (e :: early) ∧
        id ∉ released before := by
    intro before c later id hcalls hid
    obtain ⟨e, early, hsuf, hbefore, hmakes⟩ := exists_makes u run hcalls
    have hgood : ((after u early).replied e).Good c := (hmade.of_suffix hsuf).1 c hmakes
    obtain ⟨hmem, hrel⟩ := hgood id hid
    rw [calls_replied, hbefore] at hrel
    rw [ids_replied, ← handedOut_eq_ids] at hmem
    exact ⟨e, early, hsuf, hbefore, hmem, hrel⟩
  exact {
    handed_once := by
      rw [handedOut_eq_ids]
      exact (after u run).server.nodup_ids
    balance := by
      intro hr id
      rw [handedOut_eq_ids, ← (hbooks hr).balance.mem_iff]
      simp
    disjoint := by
      intro hr id hid hrel
      exact ((hbooks hr).recorded hid).2 hrel
    recorded_once := fun hr => (hbooks hr).keyed.ids
    released_once := by
      refine nodup_released fun before c later id hcalls hc => ?_
      obtain ⟨_, _, _, _, _, hrel⟩ :=
        hlive before c later id hcalls (Call.connection?_of_released? hc)
      exact hrel
    live := hlive }

/-- a connection whose tab has gone is given back, and that of a closed worksheet with it -/
theorem connections_accounted_after_discard :
    let u : Setup := ⟨100, 10, 0⟩
    let run : List Event :=
      [.answer 0, .answer 0, .begin (.closeWorksheet ⟨1⟩), .answer 0, .answer 0,
        .begin (.deleteTab ⟨2⟩), .begin (.addTab ⟨1⟩ none), .answer 0, .answer 0,
        .begin (.openWorksheet "w" (.fresh "server" "user"))]
    (fresh u).Throughout Prompt run ∧ (∀ o, .begin o ∈ run → o.isPlain = true) ∧
      released (after u run).server.calls = [⟨"conn-3"⟩, ⟨"conn-2"⟩, ⟨"conn-1"⟩] ∧
      Accounted u run := by
  intro u run
  have hp : (fresh u).Throughout Prompt run := by decide +kernel
  have ho : ∀ o, .begin o ∈ run → o.isPlain = true := by
    intro o hmem
    simp only [run, List.mem_cons, Event.begin.injEq, List.not_mem_nil, or_false, reduceCtorEq,
      false_or] at hmem
    rcases hmem with rfl | rfl | rfl | rfl <;> rfl
  exact ⟨hp, ho, by decide +kernel, connections_accounted u run hp ho⟩

end Traffic

end QueryDesk
