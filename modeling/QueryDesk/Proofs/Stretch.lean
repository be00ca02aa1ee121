import QueryDesk.Proofs.Upkeep

/-!
# What a stretch of an operation does

A stretch of an operation goes from its beginning, or from a reply, up to its next call or its end.

* `Session.launch`          a request goes out;
* `Touchdown f s s'`        the request of `f` comes to its end;
* `Began s o st`            what the first stretch of an operation can be (`began`);
* `Resumed s a reply st`    what a stretch after a reply can be (`resumed`).
-/

namespace QueryDesk

/-! ## requests -/

/-- a request goes out and takes its place over -/
def Session.launch (s : Session) (f : Flight) : Session :=
  s.drawRequest.2.remember f.tab (·.launch f)

theorem Session.memory?_launch_cases {s : Session} {f : Flight} {tab : TabId} {m' : TabMemory}
    (h : (s.launch f).memory? tab = some m') :
    (∃ m, tab = f.tab ∧ s.memory? f.tab = some m ∧ m.launch f = m') ∨
      (tab ≠ f.tab ∧ s.memory? tab = some m') := memory?_remember_cases h

/-- the query of `q` owns its slot, and is to be stopped -/
def Session.IsToStop (s : Session) (q : Sent) : Prop :=
  ∃ m, s.memory? q.tab = some m ∧ m.query.result.owner = some q.request ∧ m.isKilled = true

theorem Session.standing_eq_killed (s : Session) {q : Sent} :
    s.standing q = .killed ↔ s.IsToStop q := by
  unfold IsToStop
  cases hm : s.memory? q.tab with
  | none => simp [standing, show s.store.memory.get? q.tab = none from hm]
  | some m =>
    by_cases ho : m.query.result.owner = some q.request
    · cases hk : m.isKilled <;>
        simp [standing, show s.store.memory.get? q.tab = some m from hm, Slot.ownedBy, ho, hk]
    · simp [standing, show s.store.memory.get? q.tab = some m from hm, Slot.ownedBy, ho]

theorem Session.standing_eq_stale (s : Session) {q : Sent} :
    s.standing q = .stale ↔
      ∀ m, s.memory? q.tab = some m → m.query.result.owner ≠ some q.request := by
  cases hm : s.memory? q.tab with
  | none => simp [standing, show s.store.memory.get? q.tab = none from hm]
  | some m =>
    by_cases ho : m.query.result.owner = some q.request
    · cases hk : m.isKilled <;>
        simp [standing, show s.store.memory.get? q.tab = some m from hm, Slot.ownedBy, ho, hk]
    · simp [standing, show s.store.memory.get? q.tab = some m from hm, Slot.ownedBy, ho]

/-- the request of `f` has come to its end; its place is written only if the request owns it -/
structure Touchdown (f : Flight) (s s' : Session) : Prop where
  requests : s'.requestsSent = s.requestsSent
  cancelled : s'.cancelled = s.cancelled
  drawn : s'.tabsDrawn = s.tabsDrawn
  threads : ∀ tab thread, s'.threadOf tab thread → s.threadOf tab thread
  other : ∀ tab, tab ≠ f.tab → s'.memory? tab = s.memory? tab
  stale : (∀ m, s.memory? f.tab = some m → (m.slot f.place).owner ≠ some f.request) →
    s'.memory? f.tab = s.memory? f.tab
  owned : ∀ m, s.memory? f.tab = some m → (m.slot f.place).owner = some f.request →
    ∃ m', s'.memory? f.tab = some m' ∧ Lands f m m'

namespace Touchdown

section
variable {f : Flight} {s s' : Session}

/-- a memory is changed only by a request that owns its place there -/
theorem memory?_eq (h : Touchdown f s s') {tab : TabId}
    (hs : tab = f.tab → ∀ m, s.memory? tab = some m → (m.slot f.place).owner ≠ some f.request) :
    s'.memory? tab = s.memory? tab := by
  by_cases ht : tab = f.tab
  · subst ht
    exact h.stale (hs rfl)
  · exact h.other tab ht

theorem memory?_cases (h : Touchdown f s s') {tab : TabId} {m' : TabMemory}
    (hm' : s'.memory? tab = some m') :
    (∃ m, tab = f.tab ∧ s.memory? tab = some m ∧ (m.slot f.place).owner = some f.request ∧
      Lands f m m') ∨
    (s.memory? tab = some m' ∧ (tab = f.tab → (m'.slot f.place).owner ≠ some f.request)) := by
  by_cases hown : ∃ m, tab = f.tab ∧ s.memory? tab = some m ∧
      (m.slot f.place).owner = some f.request
  · obtain ⟨m, rfl, hm, ho⟩ := hown
    obtain ⟨m₁, hm₁, hl⟩ := h.owned m hm ho
    rw [hm'] at hm₁
    cases hm₁
    exact .inl ⟨m, rfl, hm, ho, hl⟩
  · have hs : tab = f.tab → ∀ m, s.memory? tab = some m →
        (m.slot f.place).owner ≠ some f.request :=
      fun htab m hm ho => hown ⟨m, htab, hm, ho⟩
    rw [h.memory?_eq hs] at hm'
    exact .inr ⟨hm', fun htab => hs htab m' hm'⟩

end

theorem of_remember (s : Session) (f : Flight) (g : TabMemory → TabMemory)
    (hstale : ∀ m : TabMemory, (m.slot f.place).owner ≠ some f.request → g m = m)
    (hland : ∀ m : TabMemory, (m.slot f.place).owner = some f.request → Lands f m (g m)) :
    Touchdown f s (s.remember f.tab g) where
  requests := rfl
  cancelled := rfl
  drawn := rfl
  threads := fun _ _ h => h
  other := fun tab hne => (Session.memory?_remember s f.tab tab g).trans (if_neg hne)
  stale := by
    intro h
    refine (Session.memory?_remember s f.tab f.tab g).trans ?_
    rw [if_pos rfl]
    cases hm : s.memory? f.tab with
    | none => rfl
    | some m => exact congrArg some (hstale m (h m hm))
  owned := by
    intro m hm ho
    refine ⟨g m, (Session.memory?_remember s f.tab f.tab g).trans ?_, hland m ho⟩
    rw [if_pos rfl, hm]
    rfl

theorem of_upkeep {f : Flight} {s s' s'' : Session} (h : Upkeep s s')
    (hd : s'.tabsDrawn = s.tabsDrawn) (hm : ∀ tab, s'.memory? tab = s.memory? tab)
    (h' : Touchdown f s' s'') : Touchdown f s s'' where
  requests := h'.requests.trans h.requests
  cancelled := h'.cancelled.trans h.cancelled
  drawn := h'.drawn.trans hd
  threads := fun tab thread hth => h.threads tab thread (h'.threads tab thread hth)
  other := fun tab hne => (h'.other tab hne).trans (hm tab)
  stale := by
    have hs := h'.stale
    rw [hm f.tab] at hs
    exact hs
  owned := by
    have ho := h'.owned
    rw [hm f.tab] at ho
    exact ho

theorem of_stale {f : Flight} {s : Session}
    (h : ∀ m, s.memory? f.tab = some m → (m.slot f.place).owner ≠ some f.request) :
    Touchdown f s s where
  requests := rfl
  cancelled := rfl
  drawn := rfl
  threads := fun _ _ ht => ht
  other := fun _ _ => rfl
  stale := fun _ => rfl
  owned := fun m hm ho => absurd ho (h m hm)

theorem record {f : Flight} {s s' : Session} (h : Touchdown f s s') (e : LogEntry) :
    Touchdown f s (s'.record e) := { h with }

theorem settlePreview (s : Session) (q : Sent) (mode : Preview) (g : Slot → Slot)
    (hg : ∀ slot : Slot, (g slot).owner = slot.owner ∧ (g slot).loading = false) :
    Touchdown ⟨q, .preview mode⟩ s (s.settlePreview q mode g) := by
  refine of_remember s ⟨q, .preview mode⟩ _ ?_ ?_
  · intro m hm
    exact m.modifyPreview_id (if_neg (by simpa [Slot.ownedBy] using hm))
  · intro m hm
    have hown : (m.slot (.preview mode)).ownedBy q.request = true := by
      simpa [Slot.ownedBy] using hm
    refine lands_modifyPreview m _ rfl ?_
    simp only [hown, if_true]
    exact hg _

theorem settleQuery (s : Session) (q : Sent) (duration : Binary64) (data : Option ResultSet)
    (result : LogEntry.Result) :
    Touchdown ⟨q, .query⟩ s
      ((s.remember q.tab (·.settleQuery q duration data)).recordQuery q result) :=
  record (of_remember s ⟨q, .query⟩ _ (fun _ hm => settleQuery_of_stale duration data hm)
    fun _ hm => lands_settleQuery duration data hm) _

end Touchdown

/-! ## the stretches, one by one -/

/-- the first stretch of an operation -/
inductive Began (s : Session) : Operation → Session.Step → Prop where
  | keep {o st} (h : Housekeeping s st) : Began s o st
  | clone (source : Connection) (tab : TabId) :
    Began s (.cloneConnection source tab) (s, .waits (.cloning source tab .connection))
  | launch {o a} (f : Flight) (ha : a.flight? = some f) (hb : a.Bound)
    (hc : s.connectionOf f.tab = .ok f.sent.connection) (hr : f.request = s.drawRequest.1) :
    Began s o (s.launch f, .waits a)
  | stop {tab x c via} (hx : s.store.tabs.tab? tab = some x) (hc : s.connectionOf tab = .ok c)
    (hv : s.store.connections.ofWorksheet? x.worksheet = some via) :
    Began s (.stop tab)
      (s, .waits (.killing tab via.id c.thread ((s.memory? tab).bind (·.running?))))

theorem Session.began (s : Session) (o : Operation) : Began s o (o.begin s) := by
  cases o with
  | openWorksheet name params =>
    exact .keep (.of_upkeep (.createWorksheet s name) (.beginOpen _ _ params _))
  | openConnection w params => exact .keep (.beginOpen s w params _)
  | closeWorksheet w => exact .keep (.closeTabs w _ s)
  | addTab w name => exact .keep (.beginTab s w name _)
  | deleteTab tab => exact .keep (.deleteTab s tab)
  | preview tab target mode =>
    simp only [Operation.begin, Session.preview]
    split
    · exact .keep (.ends (.refl s) rfl)
    · next c hc =>
      exact .launch ⟨⟨tab, c, s.drawRequest.1, s.now, _⟩, .preview mode⟩ rfl trivial hc rfl
  | query tab sql =>
    simp only [Operation.begin, Session.query]
    split
    · exact .keep (.ends (.refl s) rfl)
    · next c hc => exact .launch ⟨⟨tab, c, s.drawRequest.1, s.now, _⟩, .query⟩ rfl trivial hc rfl
  | stop tab =>
    simp only [Operation.begin, Session.stop]
    split
    · exact .keep (.ends (.refl s) rfl)
    · next x hx =>
      split
      · exact .keep (.ends (.refl s) rfl)
      · next c hc =>
        split
        · exact .keep (.ends (.refl s) rfl)
        · next via hv => exact .stop hx hc hv
  | cloneConnection source tab => exact .clone source tab
  | release c => exact .keep (.waits (.refl s) trivial rfl rfl rfl)
  | refreshDatabase c => exact .keep (.waits (.refl s) trivial rfl rfl rfl)

/-- a stretch of an operation after the reply to its call -/
inductive Resumed (s : Session) : (a : Await) → a.call.Reply → Session.Step → Prop where
  | keep {a reply st} (ha : a.flight? = none) (h : Housekeeping s st) : Resumed s a reply st
  | arrive {source tab next reply c result} (hc : c.binding = .tab tab)
    (hr : stopped? result = none) :
    Resumed s (.cloning source tab next) reply (s.mapConnections (·.insert c), .ends result)
  | switch {q duration} {set : ResultSet} (hs : s.standing q = .current)
    (hq : Sql.isDatabaseSwitch q.statement.sql = true) :
    Resumed s (.querying q) (.ok set) (s, .waits (.switching q set duration))
  | land {a reply s' result} (f : Flight) (ha : a.flight? = some f) (h : Touchdown f s s')
    (hr : ∀ set, stopped? result = some set → ∃ q, a = .querying q ∧ s.IsToStop q ∧
      set = ResultSet.canceled q.statement.sql) : Resumed s a reply (s', .ends result)
  | acknowledge {tab via thread target} {set : ResultSet} (h : set.firstError? = none) :
    Resumed s (.killing tab via thread target) (.ok set)
      (s.markKilled tab target, .ends (.ok (.stop .killed)))

/-- a request comes to its end, and not because it was stopped -/
theorem Resumed.lands {s s' : Session} {a : Await} {reply : a.call.Reply}
    {result : Except ConsoleError Outcome} (f : Flight) (ha : a.flight? = some f)
    (h : Touchdown f s s') (hr : stopped? result = none) :
    Resumed s a reply (s', .ends result) := by
  refine .land f ha h fun set he => ?_
  rw [hr] at he
  cases he

theorem Session.resumed (s : Session) {a : Await} (reply : a.call.Reply) (hb : a.Bound) :
    Resumed s a reply (s.resume a reply) := by
  cases a with
  | opening w params next => exact .keep rfl (.opened s w params next reply)
  | replacing w old c next => exact .keep rfl (.of_upkeep (.forget s old) (.afterOpen _ hb next))
  | cloning source tab next =>
    cases reply with
    | error e => exact .keep rfl (.afterClone (.refl s) _ _ _)
    | ok info =>
      simp only [Session.resume, Session.cloned]
      split
      · cases next with
        | connection => exact .arrive rfl rfl
        | tab => exact .arrive rfl rfl
        | worksheet w => exact .arrive rfl rfl
      · exact .keep rfl (.waits (.refl s) trivial rfl rfl rfl)
  | discarding clone tab next => exact .keep rfl (.afterClone (.forget s clone) _ _ _)
  | deleting c next =>
    cases next with
    | done => exact .keep rfl (.ends (.forget s c) rfl)
    | close w rest => exact .keep rfl (.of_upkeep (.forget s c) (.closeTabs w rest _))
  | closing w c =>
    exact .keep rfl (.ends ((Upkeep.forget s c).trans (.mapTabs _ _)) rfl)
  | releasing c => exact .keep rfl (.ends (.forget s c) (by cases reply <;> rfl))
  | refreshing c =>
    cases reply with
    | error e => exact .keep rfl (.ends (.refl s) rfl)
    | ok set => exact .keep rfl (.ends (.setDatabase s c set) rfl)
  | previewing q mode title =>
    cases reply with
    | error e =>
      exact .lands ⟨q, .preview mode⟩ rfl
        (.settlePreview s q mode (fun slot => { slot with loading := false }) fun _ => ⟨rfl, rfl⟩)
        rfl
    | ok set =>
      exact .lands ⟨q, .preview mode⟩ rfl (.record (.settlePreview s q mode
        (·.settle (some set) (q.time.elapsed s.now)) fun _ => ⟨rfl, rfl⟩) _) rfl
  | querying q =>
    simp only [Session.resume, Session.queried]
    split
    · next hs =>
      exact .lands ⟨q, .query⟩ rfl (.record (.of_stale (s.standing_eq_stale.mp hs)) _) rfl
    · next hs =>
      refine .land ⟨q, .query⟩ rfl (.settleQuery s q _ _ _) fun set he => ?_
      cases he
      exact ⟨q, rfl, s.standing_eq_killed.mp hs, rfl⟩
    · exact .lands ⟨q, .query⟩ rfl (.settleQuery s q _ _ _) rfl
    · next set hs =>
      split
      · next hq => exact .switch hs hq
      · exact .lands ⟨q, .query⟩ rfl (.settleQuery s q _ _ _) rfl
  | switching q set duration =>
    cases reply with
    | error e => exact .lands ⟨q, .query⟩ rfl (.settleQuery s q _ _ _) rfl
    | ok answer =>
      exact .lands ⟨q, .query⟩ rfl
        (.of_upkeep (.setDatabase s q.connection.id answer) rfl (fun _ => rfl)
          (.settleQuery _ q _ _ _))
        rfl
  | killing tab via thread target =>
    cases reply with
    | error e => exact .keep rfl (.ends (.refl s) rfl)
    | ok set =>
      simp only [Session.resume, Session.killed]
      split
      · exact .keep rfl (.ends (.notify s _) rfl)
      · next h => exact .acknowledge h

/-- a stretch that goes on to another call does so for no request and no stop, or for the same -/
theorem Session.resume_waits (s : Session) {a b : Await} {reply : a.call.Reply} (hb : a.Bound)
    (hwait : (s.resume a reply).2 = .waits b) :
    (b.flight? = none ∧ b.stop? = none) ∨ (b.flight? = a.flight? ∧ b.stop? = a.stop?) := by
  have hst := s.resumed reply hb
  generalize s.resume a reply = st at hst hwait
  cases hst with
  | keep _ hk =>
    have hmem : b ∈ st.2.awaits := by
      rw [hwait]
      exact List.mem_singleton_self b
    exact .inl ⟨hk.flights b hmem, hk.stops b hmem⟩
  | switch _ _ =>
    cases hwait
    exact .inr ⟨rfl, rfl⟩
  | arrive _ _ => cases hwait
  | land _ _ _ _ => cases hwait
  | acknowledge _ => cases hwait

end QueryDesk
