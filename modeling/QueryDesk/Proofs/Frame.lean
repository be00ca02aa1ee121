import QueryDesk.Proofs.Links
import QueryDesk.Proofs.Prompt
import QueryDesk.Proofs.Upkeep

/-!
# Statements leave the store as it stands

A statement that is sent, or answered, changes what the tabs remember and what is known of their
databases.  It does not change which worksheets, tabs and connections there are, and which tabs have
a memory.

* `SameFrame s s'`       nothing of the store has come, gone or changed hands;
* `Call.isStatement`     the call sends a statement;
* `Speaks s st`          what a preview, a query or a stop begins with (`speaks_preview`, …);
* `Heard s a st`         what follows the answer to a statement (`heard`).
-/

namespace QueryDesk

/-- nothing has come, gone or changed hands -/
structure SameFrame (s s' : Session) : Prop where
  tabs : s'.store.tabs = s.store.tabs
  links : s'.store.connections.links = s.store.connections.links
  memory : ∀ tab, (s'.memory? tab).isSome = (s.memory? tab).isSome
  worksheetsDrawn : s'.worksheetsDrawn = s.worksheetsDrawn
  tabsDrawn : s'.tabsDrawn = s.tabsDrawn

namespace SameFrame

theorem refl (s : Session) : SameFrame s s := ⟨rfl, rfl, fun _ => rfl, rfl, rfl⟩

theorem trans {s s' s'' : Session} (h : SameFrame s s') (h' : SameFrame s' s'') :
    SameFrame s s'' where
  tabs := h'.tabs.trans h.tabs
  links := h'.links.trans h.links
  memory := fun tab => (h'.memory tab).trans (h.memory tab)
  worksheetsDrawn := h'.worksheetsDrawn.trans h.worksheetsDrawn
  tabsDrawn := h'.tabsDrawn.trans h.tabsDrawn

theorem remember (s : Session) (tab : TabId) (f : TabMemory → TabMemory) :
    SameFrame s (s.remember tab f) :=
  { refl s with memory := fun other => Table.contains_modify s.store.memory tab other f }

theorem setDatabase (s : Session) (c : ConnectionId) (set : ResultSet) :
    SameFrame s (s.setDatabase c set) :=
  { refl s with links := Connections.links_setDb .. }

theorem record (s : Session) (e : LogEntry) : SameFrame s (s.record e) := { refl s with }

theorem notify (s : Session) (n : Notice) : SameFrame s (s.notify n) := { refl s with }

theorem cancel (s : Session) (token : CancelToken) : SameFrame s (s.cancel token) := { refl s with }

theorem drawRequest (s : Session) : SameFrame s s.drawRequest.2 := { refl s with }

theorem advance (s : Session) (nanos : Int) : SameFrame s (s.advance nanos) := { refl s with }

theorem markKilled (s : Session) (tab : TabId) (target : Option RequestId) :
    SameFrame s (s.markKilled tab target) := by
  unfold Session.markKilled
  split
  · exact .refl s
  · split
    · split
      · exact (remember s tab _).trans (cancel _ _)
      · exact remember s tab _
    · exact .refl s

theorem settleQuery (s : Session) (q : Sent) (duration : Binary64) (data : Option ResultSet)
    (result : LogEntry.Result) :
    SameFrame s ((s.remember q.tab (·.settleQuery q duration data)).recordQuery q result) :=
  (remember s q.tab _).trans (record _ _)

end SameFrame

/-! ## statements that are sent -/

/-- the call sends a statement -/
def Call.isStatement : Call → Bool
  | query .. => true
  | _ => false

/-- a connection of the session is the one that serves the tab -/
def Session.Serves (s : Session) (tab : TabId) (id : ConnectionId) : Prop :=
  (.tab tab, id) ∈ s.store.connections.links

/-- a preview, a query or a stop: it fails, or sends a statement on a connection of the session -/
inductive Speaks (s : Session) : Session.Step → Prop where
  | fails (e : ConsoleError) : Speaks s (s.fail e)
  | sends {s' a b id request abort} (h : SameFrame s s')
    (hid : (b, id) ∈ s.store.connections.links) (ha : a.call = .query id request abort)
    (hf : ∀ f, a.flight? = some f → s.Serves f.tab f.sent.connection.id) :
    Speaks s (s', .waits a)

namespace Session

theorem serves_of_connectionOf {s : Session} {tab : TabId} {c : Connection}
    (h : s.connectionOf tab = .ok c) : s.Serves tab c.id := by
  unfold connectionOf at h
  split at h
  · cases h
  · split at h
    · cases h
    · next d hd =>
      cases h
      exact Connections.mem_links_of_bound? hd

theorem speaks_preview (s : Session) (tab : TabId) (target : String) (mode : Preview) :
    Speaks s (s.preview tab target mode) := by
  unfold preview
  split
  · exact .fails _
  · next c hc =>
    have hserves := serves_of_connectionOf hc
    refine .sends ((SameFrame.drawRequest s).trans (.remember ..)) hserves rfl fun f hf => ?_
    cases hf
    exact hserves

theorem speaks_query (s : Session) (tab : TabId) (sql : String) : Speaks s (s.query tab sql) := by
  unfold query
  split
  · exact .fails _
  · next c hc =>
    have hserves := serves_of_connectionOf hc
    refine .sends ((SameFrame.drawRequest s).trans (.remember ..)) hserves rfl fun f hf => ?_
    cases hf
    exact hserves

theorem speaks_stop (s : Session) (tab : TabId) : Speaks s (s.stop tab) := by
  unfold stop
  split
  · exact .fails _
  · split
    · exact .fails _
    · split
      · exact .fails _
      · next via hv =>
        refine .sends (.refl s) (Connections.mem_links_of_bound? hv) rfl fun f hf => ?_
        cases hf

end Session

/-! ## statements that are answered -/

/-- what follows the answer to a statement: the operation ends, or a query goes on to ask for the
new database of its connection while its tab is still there -/
inductive Heard (s : Session) : Await → Session.Step → Prop where
  | ends {a s' r} (h : SameFrame s s') : Heard s a (s', .ends r)
  | asks {q set duration} (hm : (s.memory? q.tab).isSome) :
    Heard s (.querying q) (s, .waits (.switching q set duration))

theorem Session.heard (s : Session) {a : Await} (ha : a.call.isStatement = true)
    (reply : a.call.Reply) : Heard s a (s.resume a reply) := by
  cases a with
  | refreshing c =>
    cases reply with
    | error e => exact .ends (.refl s)
    | ok set => exact .ends (.setDatabase s c set)
  | previewing q mode title =>
    cases reply with
    | error e => exact .ends (.remember ..)
    | ok set => exact .ends ((SameFrame.remember ..).trans (.record ..))
  | querying q =>
    simp only [resume, queried]
    split
    · exact .ends (.record ..)
    · exact .ends (.settleQuery ..)
    · exact .ends (.settleQuery ..)
    · next set hs =>
      split
      · refine .asks ?_
        unfold standing at hs
        split at hs
        · cases hs
        · next m hm => exact Option.isSome_of_eq_some hm
      · exact .ends (.settleQuery ..)
  | switching q set duration =>
    cases reply with
    | error e => exact .ends (.settleQuery ..)
    | ok answer => exact .ends ((SameFrame.setDatabase ..).trans (.settleQuery ..))
  | killing tab via thread target =>
    cases reply with
    | error e => exact .ends (.refl s)
    | ok set =>
      simp only [resume, killed]
      split
      · exact .ends (.notify ..)
      · exact .ends (.markKilled ..)
  | _ => cases ha

end QueryDesk
