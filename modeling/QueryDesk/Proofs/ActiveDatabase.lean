import QueryDesk.Proofs.Events
import QueryDesk.Proofs.Homes
import QueryDesk.Proofs.Records

/-!
# The database of a connection on record

* `ResultSet.Names`      the name that an answer gives, if it is a text;
* `Session.Notes`        the record of a connection takes over what an answer names;
* `Traffic.HasAsked`     a query was answered, and asked in that event for the database of its
  connection (`hasAsked`);
* `Traffic.refreshed`    a database that is asked for and not after a switch is asked for by hand.

**`Traffic.renamed`**: a record keeps its database, or takes it over from an answer.
-/

namespace QueryDesk

/-! ## records -/

namespace Connections
variable {cs : Connections} {c d : Connection} {id : ConnectionId}

theorem mem_insert (h : d ∈ (cs.insert c).records) : d ∈ cs.records ∨ d = c :=
  (List.mem_append.mp h).imp (fun h => (List.mem_filter.mp h).1) List.mem_singleton.mp

theorem mem_remove (h : d ∈ (cs.remove id).records) : d ∈ cs.records := (List.mem_filter.mp h).1

theorem mem_links_of_mem (h : c ∈ cs.records) : (c.binding, c.id) ∈ cs.links :=
  List.mem_map_of_mem h

theorem eq_of_id (hn : cs.ids.Nodup) (hc : c ∈ cs.records) (hd : d ∈ cs.records)
    (h : d.id = c.id) : d = c := by
  rw [ids_eq] at hn
  exact List.inj_on_of_nodup_map hn hd hc h

end Connections

/-- the name that the answer gives: its first value, if that is a text -/
def ResultSet.Names (answer : ResultSet) (name : Option String) : Prop :=
  ∀ text, name = some text ↔ answer.firstValue? = some (.string text)

theorem ResultSet.names_databaseOf (answer : ResultSet) :
    answer.Names (Session.databaseOf answer) := by
  intro text
  unfold Session.databaseOf
  cases answer.firstValue? with
  | none => simp
  | some j => cases j <;> simp [Json.string?]

/-- from `s` to `s'` the record of the connection takes over the name that the answer gives, and all
others stay; without an answer it stays too -/
def Session.Notes (s s' : Session) (id : ConnectionId) : Except ConsoleError ResultSet → Prop
  | .error _ => s'.store.connections = s.store.connections
  | .ok answer => ∃ name, answer.Names name ∧ s'.store.connections.records =
      s.store.connections.records.map fun c => if c.id = id then { c with db := name } else c

/-! ## questions for a database -/

/-- the connection whose database was asked for by hand -/
def Await.refreshes? : Await → Option ConnectionId
  | refreshing c => some c
  | _ => none

/-- a stretch that goes on waits for no database that is asked for by hand -/
theorem Handles.refreshes {s : Session} {a b : Await} {reply : a.call.Reply} {st : Session.Step}
    (h : Handles s a reply st) (hw : st.2 = .waits b) : b.refreshes? = none := by
  cases h with
  | goes _ hd =>
    have hasks := hd.asks
    rw [hw] at hasks
    cases b with
    | refreshing c => cases hasks
    | _ => rfl
  | asks _ _ =>
    cases hw
    rfl
  | refuses _ => cases hw

namespace Traffic

/-- the query with this number was answered with `set`, and asked in that event for the database
that its connection uses now -/
def HasAsked (u : Setup) (run : List Event) (task : Nat) (q : Sent) (set : ResultSet) : Prop :=
  ∃ e early gate, e :: early <:+ run ∧
    (after u early).Hears e ⟨task, .querying q, gate⟩ (.ok set) ∧
    (after u early).Makes e (Await.askDatabase q.connection.id)

theorem HasAsked.cons {u : Setup} {run : List Event} {task : Nat} {q : Sent} {set : ResultSet}
    (h : HasAsked u run task q set) (e : Event) : HasAsked u (e :: run) task q set := by
  obtain ⟨e', early, gate, hsuf, h⟩ := h
  exact ⟨e', early, gate, hsuf.trans (List.suffix_cons e run), h⟩

variable {u : Setup} {run : List Event}

/-- a database that is asked for, and not after a switch, is asked for by hand -/
theorem refreshed (u : Setup) (run : List Event) {p : Pending} (hp : p ∈ (after u run).pending)
    {c : ConnectionId} (ha : p.await = .refreshing c) : .begin (.refreshDatabase c) ∈ run := by
  have hmark : ∀ s a reply b, a.Bound → (Session.resume s a reply).2 = .waits b →
      b.refreshes? = none ∨ b.refreshes? = a.refreshes? :=
    fun s a reply _ _ hw => .inl ((s.handles a reply).refreshes hw)
  obtain ⟨o, early, b, hsuf, hwait, hb, _⟩ :=
    exists_begin Await.refreshes? hmark u run hp (x := c) (by rw [ha]; rfl)
  have hmem := hsuf.subset List.mem_cons_self
  rcases (after u early).session.discreet_begin o with hd | ⟨c', rfl⟩
  · have hasks := hd.asks
    rw [hwait] at hasks
    cases b <;> cases hb
    cases hasks
  · cases hwait
    cases hb
    exact hmem

/-! ## the records in a run -/

theorem connections_deed (s : Session) (d : Deed) :
    (d.apply s).store.connections = s.store.connections := by
  cases d with
  | refreshLastTab tab =>
    simp only [Deed.apply, Session.refreshLastTab]
    cases s.store.tabs.tab? tab <;> rfl
  | _ => rfl

theorem ids_nodup (u : Setup) (run : List Event) :
    (after u run).session.store.connections.ids.Nodup := by
  have h := linked_nodup u run
  unfold linked at h
  rw [List.map_append] at h
  exact (List.nodup_append.mp h).1

/-- a connection that comes on record does not have the name of one that is there -/
theorem Hears.id_ne_of_gains {e : Event} {p : Pending} {reply : p.await.call.Reply}
    (h : (after u run).Hears e p reply) {l : Binding × ConnectionId}
    (hg : p.await.gains? reply = some l) {c : Connection}
    (hc : c ∈ (after u run).session.store.connections.records) : c.id ≠ l.2 := by
  intro hid
  have hlink : (c.binding, c.id) ∈ (after u run).linked :=
    List.mem_append_left _ (Connections.mem_links_of_mem hc)
  exact (gains_new (h.gains.trans hg)).1 (hid ▸ mem_ids_of_linked hlink)

theorem id_ne_of_claims {p : Pending} (hp : p ∈ (after u run).pending) {l : Binding × ConnectionId}
    (hl : l ∈ p.await.claims) {c : Connection}
    (hc : c ∈ (after u run).session.store.connections.records) : c.id ≠ l.2 := by
  have hn := linked_nodup u run
  unfold linked at hn
  rw [List.map_append] at hn
  have hclaim : l.2 ∈ ((after u run).awaits.flatMap Await.claims).map (·.2) :=
    List.mem_map_of_mem (List.mem_flatMap.mpr ⟨_, List.mem_map_of_mem hp, hl⟩)
  exact (List.nodup_append.mp hn).2.2 _ (List.mem_map_of_mem (Connections.mem_links_of_mem hc)) _
    hclaim

/-- **Who writes the database of a connection**: a record keeps it, or takes it from an answer -/
theorem renamed {e : Event} {c c' : Connection}
    (hc : c ∈ (after u run).session.store.connections.records)
    (hc' : c' ∈ (after u (e :: run)).session.store.connections.records) (hid : c'.id = c.id) :
    c' = c ∨ ∃ (p : Pending) (reply : p.await.call.Reply) (answer : ResultSet),
      (after u run).Hears e p reply ∧ p.await.names? reply = some (c.id, answer) ∧
      answer.Names c'.db := by
  have same : ∀ {cs : Connections}, c' ∈ cs.records →
      (∀ d ∈ cs.records, d ∈ (after u run).session.store.connections.records) → c' = c :=
    fun h hsub => Connections.eq_of_id (ids_nodup u run) hc (hsub c' h) hid
  rw [after_cons] at hc'
  cases (after u run).happens e with
  | begin o =>
    rw [session_begin] at hc'
    rcases (after u run).session.discreet_begin o with hd | ⟨_, rfl⟩
    · rw [hd.connections] at hc'
      exact .inl (same hc' fun _ h => h)
    · exact .inl (same hc' fun _ h => h)
  | @hears _ p reply h =>
    rw [h.session] at hc'
    have hst := (after u run).session.handles p.await reply
    obtain ⟨task, a, gate⟩ := p
    generalize (after u run).session.resume a reply = st at hst hc'
    cases hst with
    | goes hr hd =>
      rw [hd.connections] at hc'
      cases hr with
      | same => exact .inl (same hc' fun _ h => h)
      | forgets _ => exact .inl (same hc' fun _ h => Connections.mem_remove h)
      | inserts c₀ hg =>
        rcases Connections.mem_insert hc' with hc' | rfl
        · exact .inl (same hc' fun _ h => h)
        · exact absurd hid.symm (h.id_ne_of_gains hg hc)
      | replaces =>
        rcases Connections.mem_insert hc' with hc' | rfl
        · exact .inl (same hc' fun _ h => Connections.mem_remove h)
        · exact absurd hid.symm (id_ne_of_claims h.mem (List.mem_singleton_self _) hc)
      | names id answer hn =>
        obtain ⟨d, hd', rfl⟩ := List.mem_map.mp hc'
        have hdc : d = c := by
          refine Connections.eq_of_id (ids_nodup u run) hc hd' (Eq.trans ?_ hid)
          split <;> rfl
        subst hdc
        by_cases hi : d.id = id
        · subst hi
          rw [if_pos rfl]
          exact .inr ⟨_, reply, answer, h, hn, answer.names_databaseOf⟩
        · exact .inl (if_neg hi)
    | asks _ _ => exact .inl (same hc' fun _ h => h)
    | refuses _ => exact .inl (same hc' fun _ h => h)
  | deed d =>
    rw [show ((after u run).step (.deed d)).session = d.apply (after u run).session from rfl,
      connections_deed] at hc'
    exact .inl (same hc' fun _ h => h)
  | idle clock hs _ _ _ _ =>
    rw [hs] at hc'
    exact .inl (same hc' fun _ h => h)

end Traffic

end QueryDesk
