import QueryDesk.Proofs.Homes
import QueryDesk.Proofs.Numbering
import QueryDesk.Proofs.Tracking

/-!
# Tabs are isolated

All tabs share one store, and their operations take turns.  A step of an operation on one tab leaves
the others alone.

* `Isolated tab s s'`     of what is not the tab's, nothing has changed;
* `Operation.tab?`, `Deed.tab?`, `Await.copiesFor?`   the tab that something is done for;
* `Session.Follows`       where an operation on a tab stands, and that its connection was the tab's
  when it was begun;
* `Traffic.StepOf`        the event is a step of an operation;
* `TabsApart u run e`     the event leaves alone what it is not for.

The frame rests on three facts about whole runs: a connection is never linked to two bindings
(`home_unique`), a copy has a new name (`mem_ids_of_linked`), and a request has one tab
(`Tracked`).

**`Traffic.tabs_isolated`**: every event of every run leaves alone what it is not for.
-/

namespace QueryDesk

/-! ## connections of others -/

namespace Connections

/-- the connections that do not serve this -/
def others (cs : Connections) (b : Binding) : List Connection :=
  cs.records.filter (·.binding ≠ b)

theorem bound?_of_others {cs cs' : Connections} {b b' : Binding} (h : cs'.others b = cs.others b)
    (hne : b' ≠ b) : cs'.bound? b' = cs.bound? b' := by
  have hfind : ∀ ds : Connections, ds.bound? b' = (ds.others b).find? (·.binding = b') := by
    intro ds
    unfold bound? others
    rw [List.find?_filter]
    congr 1
    funext d
    by_cases hd : d.binding = b'
    · simp [hd, hne]
    · simp [hd]
  rw [hfind, hfind, h]

section
variable {cs : Connections} {b : Binding} {id : ConnectionId}

theorem binding_eq_of_links (h : ∀ l ∈ cs.links, l.2 = id → l.1 = b) {d : Connection}
    (hd : d ∈ cs.records) (hid : d.id = id) : d.binding = b :=
  h (d.binding, d.id) (List.mem_map_of_mem hd) hid

theorem others_remove (h : ∀ l ∈ cs.links, l.2 = id → l.1 = b) :
    (cs.remove id).others b = cs.others b := by
  unfold others remove
  rw [List.filter_filter]
  refine List.filter_congr fun d hd => ?_
  by_cases hid : d.id = id
  · simp [binding_eq_of_links h hd hid]
  · simp [hid]

theorem others_setDb (h : ∀ l ∈ cs.links, l.2 = id → l.1 = b) (db : Option String) :
    (cs.setDb id db).others b = cs.others b := by
  have hmap : ∀ ds : List Connection, (∀ d ∈ ds, d.id = id → d.binding = b) →
      (ds.map fun d => if d.id = id then { d with db } else d).filter (·.binding ≠ b) =
        ds.filter (·.binding ≠ b) := by
    intro ds hds
    induction ds with
    | nil => rfl
    | cons d ds ih =>
      have hrest := ih fun d' hd' => hds d' (List.mem_cons_of_mem d hd')
      rw [List.map_cons]
      by_cases hid : d.id = id
      · have hb := hds d List.mem_cons_self hid
        rw [if_pos hid, List.filter_cons_of_neg (by simp [hb]),
          List.filter_cons_of_neg (by simp [hb]), hrest]
      · rw [if_neg hid, List.filter_cons, List.filter_cons, hrest]
  exact hmap cs.records fun d hd hid => binding_eq_of_links h hd hid

theorem others_insert {c : Connection} (h : ∀ l ∈ cs.links, l.2 = c.id → l.1 = c.binding) :
    (cs.insert c).others c.binding = cs.others c.binding := by
  unfold others insert
  rw [List.filter_append, List.filter_filter]
  have hlast : [c].filter (·.binding ≠ c.binding) = [] := by simp
  rw [hlast, List.append_nil]
  refine List.filter_congr fun d hd => ?_
  by_cases hid : d.id = c.id
  · simp [binding_eq_of_links h hd hid]
  · by_cases hb : d.binding = c.binding <;> simp [hid, hb]

end

end Connections

/-! ## tabs of others -/

namespace Tabs
variable {t : Tabs} {tab other : TabId}

theorem tab?_removeTab (hne : other ≠ tab) : (t.removeTab tab).tab? other = t.tab? other := by
  have hfind : ∀ xs : List QueryTab,
      (xs.eraseP (·.id = tab)).find? (·.id = other) = xs.find? (·.id = other) := by
    intro xs
    induction xs with
    | nil => rfl
    | cons x xs ih =>
      by_cases hx : x.id = tab
      · rw [List.eraseP_cons_of_pos (by simp [hx]), List.find?_cons_of_neg (by simp [hx, hne.symm])]
      · rw [List.eraseP_cons_of_neg (by simp [hx]), List.find?_cons, List.find?_cons, ih]
  unfold removeTab
  split
  · rfl
  · exact hfind t.tabs

theorem tab?_modifyTab (f : QueryTab → QueryTab) (hf : ∀ x, (f x).id = x.id) (hne : other ≠ tab) :
    (t.modifyTab tab f).tab? other = t.tab? other := by
  have hfind : ∀ xs : List QueryTab, (modifyFirst (fun x => x.id = tab) f xs).find? (·.id = other) =
      xs.find? (·.id = other) := by
    intro xs
    induction xs with
    | nil => rfl
    | cons x xs ih =>
      rw [modifyFirst]
      split
      · next hx =>
        have hid : x.id = tab := of_decide_eq_true hx
        rw [List.find?_cons_of_neg (by simp [hf, hid, hne.symm]),
          List.find?_cons_of_neg (by simp [hid, hne.symm])]
      · rw [List.find?_cons, List.find?_cons, ih]
  exact hfind t.tabs

theorem editors_removeTab (hne : other ≠ tab) :
    (t.removeTab tab).editors.get? other = t.editors.get? other := by
  unfold removeTab
  split
  · rfl
  · exact (Table.get?_erase ..).trans (if_neg hne)

theorem files_removeTab (hne : other ≠ tab) :
    (t.removeTab tab).files.get? other = t.files.get? other := by
  unfold removeTab
  split
  · rfl
  · exact (Table.get?_erase ..).trans (if_neg hne)

theorem editors_edit (e : Editor) (hne : other ≠ tab) :
    (t.edit tab e).editors.get? other = t.editors.get? other :=
  (Table.get?_modify ..).trans (if_neg hne)

end Tabs

/-! ## what is not the tab's -/

/-- of what is not the tab's, nothing has changed -/
structure Isolated (tab : TabId) (s s' : Session) : Prop where
  memory : ∀ other, other ≠ tab → s'.memory? other = s.memory? other
  record : ∀ other, other ≠ tab → s'.store.tabs.tab? other = s.store.tabs.tab? other
  editor : ∀ other, other ≠ tab →
    s'.store.tabs.editors.get? other = s.store.tabs.editors.get? other
  file : ∀ other, other ≠ tab → s'.store.tabs.files.get? other = s.store.tabs.files.get? other
  /-- those of the worksheets among them -/
  connections : s'.store.connections.others (.tab tab) = s.store.connections.others (.tab tab)

/-- the connection is the tab's, wherever it is linked -/
def Session.ServesOnly (s : Session) (tab : TabId) (id : ConnectionId) : Prop :=
  ∀ l ∈ s.links, l.2 = id → l.1 = .tab tab

namespace Isolated
variable {tab : TabId} {s s' s'' : Session}

theorem refl (tab : TabId) (s : Session) : Isolated tab s s :=
  ⟨fun _ _ => rfl, fun _ _ => rfl, fun _ _ => rfl, fun _ _ => rfl, rfl⟩

theorem trans (h : Isolated tab s s') (h' : Isolated tab s' s'') : Isolated tab s s'' where
  memory := fun other hne => (h'.memory other hne).trans (h.memory other hne)
  record := fun other hne => (h'.record other hne).trans (h.record other hne)
  editor := fun other hne => (h'.editor other hne).trans (h.editor other hne)
  file := fun other hne => (h'.file other hne).trans (h.file other hne)
  connections := h'.connections.trans h.connections

theorem remember (tab : TabId) (s : Session) (f : TabMemory → TabMemory) :
    Isolated tab s (s.remember tab f) :=
  { refl tab s with
    memory := fun other hne => (s.memory?_remember tab other f).trans (if_neg hne) }

theorem record_entry (tab : TabId) (s : Session) (e : LogEntry) : Isolated tab s (s.record e) :=
  { refl tab s with }

theorem notify (tab : TabId) (s : Session) (n : Notice) : Isolated tab s (s.notify n) :=
  { refl tab s with }

theorem cancel (tab : TabId) (s : Session) (token : CancelToken) :
    Isolated tab s (s.cancel token) :=
  { refl tab s with }

theorem drawRequest (tab : TabId) (s : Session) : Isolated tab s s.drawRequest.2 :=
  { refl tab s with }

theorem dropTab (tab : TabId) (s : Session) : Isolated tab s (s.dropTab tab) where
  memory := fun other hne => (s.memory?_dropTab tab other).trans (if_neg hne)
  record := fun _ hne => Tabs.tab?_removeTab hne
  editor := fun _ hne => Tabs.editors_removeTab hne
  file := fun _ hne => Tabs.files_removeTab hne
  connections := rfl

theorem forget {id : ConnectionId} (h : s.ServesOnly tab id) : Isolated tab s (s.forget id) :=
  { refl tab s with connections := Connections.others_remove h }

theorem setDatabase {id : ConnectionId} (h : s.ServesOnly tab id) (set : ResultSet) :
    Isolated tab s (s.setDatabase id set) :=
  { refl tab s with connections := Connections.others_setDb h _ }

theorem insert {c : Connection} (hb : c.binding = .tab tab) (h : s.ServesOnly tab c.id) :
    Isolated tab s (s.mapConnections (·.insert c)) :=
  { refl tab s with
    connections := by
      have hids : ∀ l ∈ s.store.connections.links, l.2 = c.id → l.1 = c.binding :=
        fun l hl hid => (h l hl hid).trans hb.symm
      exact hb ▸ Connections.others_insert hids }

theorem settleQuery (s : Session) (q : Sent) (duration : Binary64) (data : Option ResultSet)
    (result : LogEntry.Result) :
    Isolated q.tab s ((s.remember q.tab (·.settleQuery q duration data)).recordQuery q result) :=
  (remember q.tab s _).trans (record_entry q.tab _ _)

theorem markKilled (s : Session) (tab : TabId) (target : Option RequestId) :
    Isolated tab s (s.markKilled tab target) := by
  unfold Session.markKilled
  split
  · exact .refl tab s
  · split
    · split
      · exact (remember tab s _).trans (cancel tab _ _)
      · exact remember tab s _
    · exact .refl tab s

end Isolated

/-! ## operations on a tab -/

/-- the tab that an operation works for -/
def Operation.tab? : Operation → Option TabId
  | deleteTab tab => some tab
  | preview tab _ _ => some tab
  | query tab _ => some tab
  | stop tab => some tab
  | _ => none

def Deed.tab? : Deed → Option TabId
  | refreshLastTab tab => some tab
  | clearPreviews tab => some tab
  | edit tab _ => some tab
  | bindFile tab _ => some tab
  | _ => none

/-- the tab that a copy is for -/
def Await.copiesFor? : Await → Option TabId
  | cloning _ tab _ => some tab
  | discarding _ tab _ => some tab
  | _ => none

/-- where an operation on a tab stands that was begun in this session -/
inductive Session.Follows (s : Session) : Operation → Await → Prop where
  | preview {q target mode title} :
    Follows s (.preview q.tab target mode) (.previewing q mode title)
  | query {q sql} (hc : s.Serves q.tab q.connection.id) : Follows s (.query q.tab sql) (.querying q)
  | switch {q sql set duration} (hc : s.Serves q.tab q.connection.id) :
    Follows s (.query q.tab sql) (.switching q set duration)
  | stop {tab via thread target} : Follows s (.stop tab) (.killing tab via thread target)
  | delete {tab c} (hc : s.Serves tab c) : Follows s (.deleteTab tab) (.deleting c .done)
  | other {o a} (h : o.tab? = none) : Follows s o a

namespace Session
variable {s₀ s : Session} {o : Operation} {a b : Await} {tab : TabId}

theorem follows_begin (h : (o.begin s).2 = .waits a) : s.Follows o a := by
  cases o with
  | deleteTab tab =>
    simp only [Operation.begin, Session.deleteTab] at h
    split at h
    · cases h
    · split at h
      · next c hc =>
        cases h
        exact .delete (Connections.mem_links_of_bound? hc)
      · cases h
  | preview tab target mode =>
    simp only [Operation.begin, Session.preview] at h
    split at h
    · cases h
    · next c _ =>
      cases h
      exact .preview (q := (s.sent tab c _).1)
  | query tab sql =>
    simp only [Operation.begin, Session.query] at h
    split at h
    · cases h
    · next c hc =>
      cases h
      exact .query (q := (s.sent tab c _).1) (serves_of_connectionOf hc)
  | stop tab =>
    simp only [Operation.begin, Session.stop] at h
    split at h
    · cases h
    · split at h
      · cases h
      · split at h
        · cases h
        · cases h
          exact .stop
  | _ => exact .other rfl

theorem follows_resume (h : s₀.Follows o a) {reply : a.call.Reply}
    (hw : (s.resume a reply).2 = .waits b) : s₀.Follows o b := by
  cases h with
  | other ho => exact .other ho
  | @query q sql hc =>
    have hheard := s.heard rfl reply
    generalize s.resume (.querying q) reply = st at hheard hw
    cases hheard with
    | ends _ => cases hw
    | asks _ =>
      cases hw
      exact .switch hc
  | @preview q target mode title =>
    have hheard := s.heard rfl reply
    generalize s.resume (.previewing q mode title) reply = st at hheard hw
    cases hheard
    cases hw
  | @switch q sql set duration hc =>
    have hheard := s.heard rfl reply
    generalize s.resume (.switching q set duration) reply = st at hheard hw
    cases hheard
    cases hw
  | @stop tab via thread target =>
    have hheard := s.heard rfl reply
    generalize s.resume (.killing tab via thread target) reply = st at hheard hw
    cases hheard
    cases hw
  | delete hc => cases hw

/-! ## one stretch -/

theorem isolated_begin (s : Session) (h : o.tab? = some tab) : Isolated tab s (o.begin s).1 := by
  cases o with
  | deleteTab tab =>
    cases h
    simp only [Operation.begin, Session.deleteTab]
    split
    · exact .refl tab s
    · split
      · exact .dropTab tab s
      · exact .dropTab tab s
  | preview tab target mode =>
    cases h
    simp only [Operation.begin, Session.preview]
    split
    · exact .refl tab s
    · exact (Isolated.drawRequest tab s).trans (.remember tab _ _)
  | query tab sql =>
    cases h
    simp only [Operation.begin, Session.query]
    split
    · exact .refl tab s
    · exact (Isolated.drawRequest tab s).trans (.remember tab _ _)
  | stop tab =>
    cases h
    simp only [Operation.begin, Session.stop]
    split
    · exact .refl tab s
    · split
      · exact .refl tab s
      · split <;> exact .refl tab s
  | _ => cases h

theorem isolated_resume (h : s₀.Follows o a) (ho : o.tab? = some tab)
    (hown : ∀ id, s₀.Serves tab id → s.ServesOnly tab id) (reply : a.call.Reply) :
    Isolated tab s (s.resume a reply).1 := by
  cases h with
  | other hnone => rw [hnone] at ho; cases ho
  | @preview q target mode title =>
    cases ho
    cases reply with
    | error e => exact .remember q.tab s _
    | ok set => exact (Isolated.remember q.tab s _).trans (.record_entry q.tab _ _)
  | @query q sql hc =>
    cases ho
    simp only [resume, queried]
    split
    · exact .record_entry q.tab s _
    · exact .settleQuery s q _ _ _
    · exact .settleQuery s q _ _ _
    · split
      · exact .refl q.tab s
      · exact .settleQuery s q _ _ _
  | @switch q sql set duration hc =>
    cases ho
    cases reply with
    | error e => exact .settleQuery s q _ _ _
    | ok answer =>
      exact (Isolated.setDatabase (hown _ hc) answer).trans (.settleQuery _ q _ _ _)
  | @stop tab via thread target =>
    cases ho
    cases reply with
    | error e => exact .refl tab s
    | ok set =>
      simp only [resume, killed]
      split
      · exact .notify tab s _
      · exact .markKilled s tab target
  | @delete tab c hc =>
    cases ho
    exact .forget (hown c hc)

/-- a copy comes for a tab, or is given back -/
theorem isolated_copied (ha : a.copiesFor? = some tab) {reply : a.call.Reply}
    (hnew : ∀ l, a.gains? reply = some l → s.ServesOnly tab l.2)
    (hclaim : ∀ l ∈ a.claims, s.ServesOnly tab l.2) : Isolated tab s (s.resume a reply).1 := by
  have hsame : ∀ (s' : Session) r next, (s'.afterClone tab r next).1 = s' := by
    intro s' r next
    cases next <;> rfl
  cases a with
  | cloning source tab next =>
    cases ha
    cases reply with
    | error e =>
      simp only [resume, cloned]
      rw [hsame]
      exact .refl tab s
    | ok info =>
      simp only [resume, cloned]
      split
      · rw [hsame]
        exact .insert rfl (hnew _ rfl)
      · exact .refl tab s
  | discarding clone tab next =>
    cases ha
    rw [resume, hsame]
    exact .forget (hclaim (.tab tab, clone) (List.mem_singleton_self _))
  | _ => cases ha

theorem isolated_deed (s : Session) {d : Deed} (h : d.tab? = some tab) :
    Isolated tab s (d.apply s) := by
  cases d with
  | refreshLastTab tab =>
    cases h
    simp only [Deed.apply, Session.refreshLastTab]
    cases s.store.tabs.tab? tab with
    | none => exact .refl tab s
    | some x =>
      have htabs : Isolated tab s (s.mapTabs (·.refreshTab tab)) :=
        { Isolated.refl tab s with
          record := fun other hne => Tabs.tab?_modifyTab _ (fun _ => rfl) hne
          editor := fun other hne => Tabs.editors_edit _ hne
          file := fun other hne => (Table.get?_erase ..).trans (if_neg hne) }
      exact htabs.trans (.remember tab _ fun _ => TabMemory.empty)
  | clearPreviews tab => cases h; exact .remember tab s _
  | edit tab e =>
    cases h
    exact { Isolated.refl tab s with editor := fun other hne => Tabs.editors_edit e hne }
  | bindFile tab path =>
    cases h
    exact { Isolated.refl tab s with
      file := fun other hne => (Table.get?_insert ..).trans (if_neg hne) }
  | _ => cases h

/-! ## tokens -/

/-- no token is cancelled but by a stop -/
theorem cancelled_begin (s : Session) (o : Operation) : (o.begin s).1.cancelled = s.cancelled := by
  have hst := s.began o
  generalize o.begin s = st at hst
  cases hst with
  | keep h => exact h.upkeep.cancelled
  | clone source tab => rfl
  | launch f _ _ _ _ => rfl
  | stop _ _ _ => rfl

theorem cancelled_resume (hb : a.Bound) (reply : a.call.Reply) :
    (s.resume a reply).1.cancelled = s.cancelled ∨ ∃ tab via thread target,
      a = .killing tab via thread target ∧
        (s.resume a reply).1.cancelled = (s.markKilled tab target).cancelled := by
  have hst := s.resumed reply hb
  generalize s.resume a reply = st at hst
  cases hst with
  | keep _ h => exact .inl h.upkeep.cancelled
  | arrive _ _ => exact .inl rfl
  | switch _ _ => exact .inl rfl
  | land _ _ h _ => exact .inl h.cancelled
  | acknowledge _ => exact .inr ⟨_, _, _, _, rfl, rfl⟩

/-- what is stopped in one tab is no request of another -/
theorem isCancelled_markKilled {as : List Await} (h : Tracked s as) (tab : TabId)
    (target : Option RequestId) {f : Flight} (hf : f ∈ flights as) (hne : f.tab ≠ tab) :
    (s.markKilled tab target).isCancelled f.sent.token = s.isCancelled f.sent.token := by
  rcases h.markKilled_cases tab target with he | ⟨m, r, hm, -, hr, he⟩
  · rw [he]
  · have hagree := h.agrees tab m hm
    have hdiff : f.sent.token ≠ ⟨r.number⟩ := by
      intro heq
      have hsame : f.request = r := congrArg (fun token => RequestId.mk token.number) heq
      have hown := (hagree.phase.of_running hr).1.owner
      exact hne (hagree.placed f hf .query (hsame ▸ hown)).1
    rw [he]
    show decide (f.sent.token ∈ _ :: s.cancelled) = decide (f.sent.token ∈ s.cancelled)
    simp [hdiff]

/-- the token in the slot of a tab is that of a request that is out for the tab -/
theorem exists_flight_of_abort {as : List Await} (h : Tracked s as) {m : TabMemory}
    {token : CancelToken} (hm : s.memory? tab = some m) (ht : m.query.abort = some token) :
    ∃ f ∈ flights as, f.tab = tab ∧ f.sent.token = token := by
  have hagree := h.agrees tab m hm
  have hocc : ∃ r, m.Occupied r := by
    have hphase := hagree.phase
    unfold TabMemory.InPhase at hphase
    split at hphase
    · obtain ⟨hempty, -⟩ := hphase
      rw [hempty] at ht
      cases ht
    · obtain ⟨r, hocc, -⟩ := hphase
      exact ⟨r, hocc⟩
    · obtain ⟨r, hocc, -⟩ := hphase
      exact ⟨r, hocc⟩
    · obtain ⟨-, -, hnone, -⟩ := hphase
      rw [hnone] at ht
      cases ht
  obtain ⟨r, hocc⟩ := hocc
  obtain ⟨f, hf, howner⟩ := (hagree.loading .query).mp hocc.loading
  have hreq : f.request = r := Option.some.inj (howner.symm.trans hocc.owner)
  refine ⟨f, hf, (hagree.placed f hf .query howner).1, ?_⟩
  rw [hocc.abort, ← hreq] at ht
  exact Option.some.inj ht

/-! ## slots of the tab itself -/

/-- in the tab's own memory, this has not changed -/
def Leaves {α : Type} (g : TabMemory → α) (tab : TabId) (s s' : Session) : Prop :=
  (s'.memory? tab).map g = (s.memory? tab).map g

section
variable {α : Type} {g : TabMemory → α} {s' : Session}

theorem leaves_remember (s : Session) {f : TabMemory → TabMemory} (hf : ∀ m, g (f m) = g m) :
    Leaves g tab s (s.remember tab f) := by
  unfold Leaves
  rw [memory?_remember, if_pos rfl, Option.map_map]
  exact congrArg (fun k => (s.memory? tab).map k) (funext hf)

variable {mode : Preview} {target sql : String}

/-- a preview changes the slot of its mode and nothing else of the memory -/
theorem leaves_preview (hg : ∀ m f, g (TabMemory.modifyPreview m mode f) = g m) :
    Leaves g tab s ((Operation.preview tab target mode).begin s).1 := by
  simp only [Operation.begin, preview]
  split
  · rfl
  · exact leaves_remember (s.drawRequest.2) fun m => hg m _

theorem leaves_previewed (hg : ∀ m f, g (TabMemory.modifyPreview m mode f) = g m)
    (h : s₀.Follows (.preview tab target mode) a) (reply : a.call.Reply) :
    Leaves g tab s (s.resume a reply).1 := by
  cases h with
  | other ho => cases ho
  | @preview q target mode title =>
    cases reply with
    | error e => exact leaves_remember s fun m => hg m _
    | ok set => exact leaves_remember s fun m => hg m _

/-- a query and a stop leave the slots for previews -/
theorem leaves_query (s : Session) :
    Leaves (·.slot (.preview mode)) tab s ((Operation.query tab sql).begin s).1 := by
  simp only [Operation.begin, query]
  split
  · rfl
  · refine leaves_remember (s.drawRequest.2) fun m => ?_
    cases mode <;> rfl

theorem leaves_settleQuery (s : Session) (q : Sent) (duration : Binary64) (data : Option ResultSet)
    (result : LogEntry.Result) :
    Leaves (·.slot (.preview mode)) q.tab s
      ((s.remember q.tab (·.settleQuery q duration data)).recordQuery q result) := by
  show Leaves _ q.tab s (s.remember q.tab (·.settleQuery q duration data))
  refine leaves_remember s fun m => ?_
  unfold TabMemory.settleQuery
  split
  · cases mode <;> rfl
  · rfl

theorem leaves_queried (h : s₀.Follows (.query tab sql) a) (reply : a.call.Reply) :
    Leaves (·.slot (.preview mode)) tab s (s.resume a reply).1 := by
  cases h with
  | other ho => cases ho
  | @query q sql hc =>
    simp only [resume, queried]
    split
    · rfl
    · exact leaves_settleQuery s q _ _ _
    · exact leaves_settleQuery s q _ _ _
    · split
      · rfl
      · exact leaves_settleQuery s q _ _ _
  | @switch q sql set duration hc =>
    cases reply with
    | error e => exact leaves_settleQuery s q _ _ _
    | ok answer => exact leaves_settleQuery (s.setDatabase q.connection.id answer) q _ _ _

theorem leaves_stop (s : Session) :
    Leaves (·.slot (.preview mode)) tab s ((Operation.stop tab).begin s).1 := by
  simp only [Operation.begin, stop]
  split
  · rfl
  · split
    · rfl
    · split <;> rfl

theorem leaves_killed (h : s₀.Follows (.stop tab) a) (reply : a.call.Reply) :
    Leaves (·.slot (.preview mode)) tab s (s.resume a reply).1 := by
  cases h with
  | other ho => cases ho
  | @stop tab via thread target =>
    cases reply with
    | error e => rfl
    | ok set =>
      simp only [resume, killed]
      split
      · rfl
      · have hmark : ∀ m : TabMemory, ({ m with query := { m.query with
            state := .killRequested } } : TabMemory).slot (.preview mode) =
              m.slot (.preview mode) := fun m => by cases mode <;> rfl
        show Leaves _ tab s (s.markKilled tab target)
        unfold markKilled
        split
        · rfl
        · split
          · split
            · exact leaves_remember s hmark
            · exact leaves_remember s hmark
          · rfl

end

end Session

/-! ## runs -/

/-- what is not the tab's is left alone, and so are the tokens of the queries of other tabs; these
calls are out -/
structure Apart (tab : TabId) (as : List Await) (s s' : Session) : Prop
    extends Isolated tab s s' where
  bound : ∀ b, b ≠ .tab tab → s'.store.connections.bound? b = s.store.connections.bound? b
  token : ∀ other m token, other ≠ tab → s.memory? other = some m → m.query.abort = some token →
    s'.isCancelled token = s.isCancelled token
  /-- also those of queries that another has overtaken -/
  overtaken : ∀ f ∈ flights as, f.tab ≠ tab →
    s'.isCancelled f.sent.token = s.isCancelled f.sent.token

theorem Isolated.apart {tab : TabId} {as : List Await} {s s' : Session} (h : Isolated tab s s')
    (ht : Tracked s as) (hc : ∀ f ∈ flights as, f.tab ≠ tab →
      s'.isCancelled f.sent.token = s.isCancelled f.sent.token) : Apart tab as s s' :=
  { h with
    bound := fun b hne => Connections.bound?_of_others h.connections hne
    token := by
      intro other m token hne hm habort
      obtain ⟨f, hf, rfl, rfl⟩ := Session.exists_flight_of_abort ht hm habort
      exact hc f hf hne
    overtaken := hc }

theorem Isolated.apart_of_cancelled {tab : TabId} {as : List Await} {s s' : Session}
    (h : Isolated tab s s') (ht : Tracked s as) (hc : s'.cancelled = s.cancelled) :
    Apart tab as s s' :=
  h.apart ht fun f _ _ => by rw [Session.isCancelled, hc, Session.isCancelled]

namespace Traffic

/-- the event is a step of this operation -/
inductive StepOf (u : Setup) (run : List Event) (o : Operation) : Event → Prop where
  | begins : StepOf u run o (.begin o)
  | goesOn {e p reply s} (h : (after u run).Hears e p reply)
    (hb : begun u p.task run = some (s, o)) : StepOf u run o e

/-- the event leaves alone what it is not for -/
structure TabsApart (u : Setup) (run : List Event) (e : Event) : Prop where
  operation : ∀ o tab, o.tab? = some tab → StepOf u run o e →
    Apart tab (after u run).awaits (after u run).session (after u (e :: run)).session
  /-- a connection of a tab comes, or is given back since the tab has gone -/
  copy : ∀ tab p reply, (after u run).Hears e p reply → p.await.copiesFor? = some tab →
    Apart tab (after u run).awaits (after u run).session (after u (e :: run)).session
  deed : ∀ d tab, d.tab? = some tab → e = .deed d →
    Apart tab (after u run).awaits (after u run).session (after u (e :: run)).session
  /-- of the memory of its own tab, a preview changes the slot of its mode only -/
  preview : ∀ tab target mode, StepOf u run (.preview tab target mode) e →
    (∀ place, place ≠ .preview mode →
      Session.Leaves (·.slot place) tab (after u run).session (after u (e :: run)).session) ∧
    Session.Leaves (·.query) tab (after u run).session (after u (e :: run)).session
  query : ∀ tab sql mode, StepOf u run (.query tab sql) e →
    Session.Leaves (·.slot (.preview mode)) tab (after u run).session (after u (e :: run)).session
  stop : ∀ tab mode, StepOf u run (.stop tab) e →
    Session.Leaves (·.slot (.preview mode)) tab (after u run).session (after u (e :: run)).session

variable {u : Setup} {run : List Event} {e : Event} {o : Operation} {tab : TabId}

/-- where the operation of a call that is out stands -/
theorem follows (u : Setup) (run : List Event) {p : Pending} (hp : p ∈ (after u run).pending) :
    ∃ s o, begun u p.task run = some (s, o) ∧ s.Follows o p.await := by
  induction run generalizing p with
  | nil => cases hp
  | cons e run ih =>
    have hstays : p ∈ (after u run).pending →
        ∃ s o, begun u p.task (e :: run) = some (s, o) ∧ s.Follows o p.await := by
      intro hold
      obtain ⟨s, o, hb, hf⟩ := ih hold
      exact ⟨s, o, (begun_cons ((numbered_after u run).pending_le hold) e).trans hb, hf⟩
    cases (after u run).happens e with
    | begin o =>
      rcases mem_goOn hp with hold | ⟨htask, hw⟩
      · exact hstays hold
      · refine ⟨(after u run).session, o, ?_, Session.follows_begin hw⟩
        rw [begun, htask]
        exact if_pos rfl
    | @hears _ q reply hh =>
      obtain ⟨i, server, _, hstep⟩ := hh.step_eq
      rw [after_cons, hstep] at hp
      rcases mem_goOn hp with hold | ⟨htask, hw⟩
      · exact hstays (List.mem_of_mem_eraseIdx hold)
      · obtain ⟨s, o, hb, hf⟩ := ih hh.mem
        refine ⟨s, o, ?_, Session.follows_resume hf hw⟩
        rw [htask]
        exact (begun_cons ((numbered_after u run).pending_le hh.mem) e).trans hb
    | deed d => exact hstays hp
    | idle _ _ hpending _ _ _ => exact hstays (hpending ▸ hp)

theorem Hears.follows {p : Pending} {reply : p.await.call.Reply} {s : Session}
    (h : (after u run).Hears e p reply) (hb : begun u p.task run = some (s, o)) :
    s.Follows o p.await := by
  obtain ⟨s', o', hb', hf⟩ := Traffic.follows u run h.mem
  cases hb.symm.trans hb'
  exact hf

/-- a connection that was the tab's once is no other's now -/
theorem servesOnly {early : List Event} (h : early <:+ run) {id : ConnectionId}
    (hl : (.tab tab, id) ∈ (after u early).linked) : (after u run).session.ServesOnly tab id := by
  intro l hmem hid
  have heq := home_unique (List.suffix_refl run) h (List.mem_append_left _ hmem) hl hid
  exact congrArg Prod.fst heq

theorem servesOnly_of_begun {task : Nat} {s : Session} (hb : begun u task run = some (s, o))
    {id : ConnectionId} (hs : s.Serves tab id) : (after u run).session.ServesOnly tab id := by
  obtain ⟨early, hsuf, rfl, -⟩ := suffix_of_begun hb
  exact servesOnly ((List.suffix_cons _ early).trans hsuf) (List.mem_append_left _ hs)

/-! ## every event -/

theorem isolated_step (ho : o.tab? = some tab) (h : StepOf u run o e) :
    Apart tab (after u run).awaits (after u run).session (after u (e :: run)).session := by
  have ht := tracked_after u run
  rw [after_cons]
  cases h with
  | begins =>
    rw [session_begin]
    exact (Session.isolated_begin _ ho).apart_of_cancelled ht (Session.cancelled_begin _ o)
  | @goesOn _ p reply s hh hb =>
    have hf := hh.follows hb
    have hbound := ht.bound _ (List.mem_map_of_mem hh.mem)
    rw [hh.session]
    refine (Session.isolated_resume hf ho (fun id => servesOnly_of_begun hb) reply).apart ht ?_
    rcases Session.cancelled_resume (s := (after u run).session) hbound reply with
      hkeep | ⟨other, via, thread, target, ha, hkill⟩
    · intro f _ _
      rw [Session.isCancelled, hkeep, Session.isCancelled]
    · -- only a stop gets here, and it is one of this tab
      have htab : other = tab := by
        rw [ha] at hf
        cases hf with
        | stop => exact Option.some.inj ho
        | other hnone => rw [hnone] at ho; cases ho
      intro f hmem hne
      rw [Session.isCancelled, hkill]
      exact Session.isCancelled_markKilled ht other target hmem (htab ▸ hne)

theorem isolated_copy {p : Pending} {reply : p.await.call.Reply}
    (hh : (after u run).Hears e p reply) (hcopy : p.await.copiesFor? = some tab) :
    Apart tab (after u run).awaits (after u run).session (after u (e :: run)).session := by
  have ht := tracked_after u run
  have hbound := ht.bound _ (List.mem_map_of_mem hh.mem)
  have hnew : ∀ l, p.await.gains? reply = some l → (after u run).session.ServesOnly tab l.2 := by
    intro l hl l' hmem hid
    have hknown := mem_ids_of_linked (List.mem_append_left _ hmem)
    exact absurd (hid ▸ hknown) (gains_new (hh.gains.trans hl)).1
  have hclaim : ∀ l ∈ p.await.claims, (after u run).session.ServesOnly tab l.2 := by
    intro l hl
    have htab : l.1 = .tab tab := by
      obtain ⟨task, a, gate⟩ := p
      cases a with
      | discarding clone other next =>
        cases hcopy
        rw [List.mem_singleton.mp hl]
      | cloning source other next => cases hl
      | _ => cases hcopy
    have hlinked : l ∈ (after u run).linked :=
      List.mem_append_right _ (List.mem_flatMap.mpr ⟨_, List.mem_map_of_mem hh.mem, hl⟩)
    exact servesOnly (List.suffix_refl run) (htab ▸ hlinked)
  rw [after_cons, hh.session]
  refine (Session.isolated_copied hcopy hnew hclaim).apart_of_cancelled ht ?_
  rcases Session.cancelled_resume (s := (after u run).session) hbound reply with
    hkeep | ⟨other, via, thread, target, ha, -⟩
  · exact hkeep
  · rw [ha] at hcopy
    cases hcopy

theorem isolated_of_deed {d : Deed} (hd : d.tab? = some tab) :
    Apart tab (after u run).awaits (after u run).session
      (after u (.deed d :: run)).session := by
  refine (Session.isolated_deed _ hd).apart_of_cancelled (tracked_after u run) ?_
  cases d with
  | refreshLastTab tab =>
    simp only [Deed.apply, Session.refreshLastTab]
    cases (after u run).session.store.tabs.tab? tab <;> rfl
  | _ => rfl

/-- what the stretches of an operation leave, each step of it leaves -/
theorem StepOf.leaves {α : Type} {g : TabMemory → α} (h : StepOf u run o e)
    (hbegin : ∀ s, Session.Leaves g tab s (o.begin s).1)
    (hresume : ∀ (s₀ s : Session) (a : Await) (reply : a.call.Reply), s₀.Follows o a →
      Session.Leaves g tab s (s.resume a reply).1) :
    Session.Leaves g tab (after u run).session (after u (e :: run)).session := by
  rw [after_cons]
  cases h with
  | begins =>
    rw [session_begin]
    exact hbegin _
  | goesOn hh hb =>
    rw [hh.session]
    exact hresume _ _ _ _ (hh.follows hb)

/-- **Every event of every run leaves alone what it is not for.** -/
theorem tabs_isolated (u : Setup) (run : List Event) (e : Event) : TabsApart u run e where
  operation := fun _ _ ho h => isolated_step ho h
  copy := fun _ _ _ hh hcopy => isolated_copy hh hcopy
  deed := by
    rintro d tab hd rfl
    exact isolated_of_deed hd
  preview := by
    intro tab target mode h
    refine ⟨fun place hne => h.leaves (fun s => Session.leaves_preview ?_)
      (fun s₀ s a reply hf => Session.leaves_previewed ?_ hf reply),
      h.leaves (fun s => Session.leaves_preview ?_)
        (fun s₀ s a reply hf => Session.leaves_previewed ?_ hf reply)⟩
    · exact fun m f => m.slot_modifyPreview_of_ne f hne
    · exact fun m f => m.slot_modifyPreview_of_ne f hne
    · exact fun m f => m.query_modifyPreview mode f
    · exact fun m f => m.query_modifyPreview mode f
  query := fun _ _ _ h =>
    h.leaves Session.leaves_query fun _ _ _ reply hf => Session.leaves_queried hf reply
  stop := fun _ _ h =>
    h.leaves Session.leaves_stop fun _ _ _ reply hf => Session.leaves_killed hf reply

end Traffic

end QueryDesk
