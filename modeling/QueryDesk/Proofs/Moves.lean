import QueryDesk.Proofs.Calls
import QueryDesk.Proofs.Turnover

/-!
# What a stretch does to worksheets, tabs and connections

* `Await.claims`, `gains?`   the links that an operation still owes to its connections, and the one
  that a reply brings;
* `Await.leaving?`, `closing?`   the connection on record that is being given back, and the
  worksheet that is being closed, with the tabs that are still to be deleted;
* `Cause`                    what brings a stretch about;
* `Relinks s k l? r? s'`     first connections come and go;
* `Closes w tabs s st`       a worksheet is closed, up to the next call;
* `Moves s k l? st`          all that a stretch can do to worksheets, tabs and connections; `l?` is
  the link that it has been brought.

**`Session.moves_begin`**, **`Session.moves_resume`**: so it is for every stretch.
-/

namespace QueryDesk

namespace Await

/-- what a connection is to serve that has come and is not on record -/
def claims : Await → List (Binding × ConnectionId)
  | replacing _ _ c _ => [(c.binding, c.id)]
  | discarding clone tab _ => [(.tab tab, clone)]
  | _ => []

/-- the link that the reply brings -/
def gains? : (a : Await) → a.call.Reply → Option (Binding × ConnectionId)
  | opening w _ _, .ok info => some (.worksheet w, (info : ConnectionInfo).id)
  | cloning _ tab _, .ok info => some (.tab tab, (info : ConnectionInfo).id)
  | _, _ => none

theorem brings_of_gains {a : Await} {reply : a.call.Reply} {l : Binding × ConnectionId}
    (h : a.gains? reply = some l) : a.call.brings? reply = some l.2 := by
  unfold gains? at h
  split at h <;> cases h <;> rfl

/-- the connection on record that is being given back since its binding has gone, or has another -/
def leaving? : Await → Option ConnectionId
  | replacing _ old _ _ => some old
  | deleting c _ => some c
  | closing _ c => some c
  | _ => none

/-- the worksheet that is being closed, and its tabs that are still to be deleted -/
def closing? : Await → Option (WorksheetId × List TabId)
  | deleting _ (.close w rest) => some (w, rest)
  | closing w _ => some (w, [])
  | _ => none

/-- the record that goes with the reply -/
def forgets? : Await → Option ConnectionId
  | discarding clone _ _ => some clone
  | deleting c _ => some c
  | closing _ c => some c
  | releasing c => some c
  | _ => none

end Await

/-- what brings a stretch about -/
inductive Cause where
  | begins (o : Operation)
  | resumes (a : Await)
  | otherwise

/-- the worksheet that the operation closes -/
def Cause.closes? : Cause → Option WorksheetId
  | begins (.closeWorksheet w) => some w
  | resumes a => a.closing?.map (·.1)
  | _ => none

/-- a record goes with the reply -/
def Cause.relinks : Cause → Bool
  | resumes a => a.forgets?.isSome || a.leaving?.isSome
  | _ => false

/-- it gives back nothing that is on record, but by hand, closes nothing, and owes a connection this
link, if any -/
structure Await.Plain (k : Cause) (l? : Option (Binding × ConnectionId)) (a : Await) : Prop where
  leaving : a.leaving? = none
  closing : a.closing? = none
  claims : a.claims.Sublist l?.toList
  byHand : ∀ c, a = .releasing c → k = .begins (.release c)

theorem Await.plain_of_isStatement {a : Await} (h : a.call.isStatement = true) (k : Cause)
    (l? : Option (Binding × ConnectionId)) : a.Plain k l? := by
  have hclaims : a.claims = [] := by
    cases a <;> first | rfl | cases h
  refine ⟨?_, ?_, hclaims ▸ List.nil_sublist _, ?_⟩
  · cases a <;> first | rfl | cases h
  · cases a <;> first | rfl | cases h
  · rintro c rfl
    cases h

/-! ## what a stretch consists of -/

/-- connections come and go, first of all; of the link that is brought, what is not put on record
yet is left -/
inductive Relinks (s : Session) :
    Cause → Option (Binding × ConnectionId) → Option (Binding × ConnectionId) → Session → Prop where
  | same {k l?} (hk : k.relinks = false) : Relinks s k l? l? s
  | forgets {a id} (h : a.forgets? = some id) : Relinks s (.resumes a) none none (s.forget id)
  | opens {w params next c} (hb : c.binding = .worksheet w)
    (hno : .worksheet w ∉ s.store.connections.bindings) :
    Relinks s (.resumes (.opening w params next)) (some (.worksheet w, c.id)) none
      (s.mapConnections (·.insert c))
  | replaces {w old c next} : Relinks s (.resumes (.replacing w old c next)) none none
      ((s.forget old).mapConnections (·.insert c))
  | clones {source tab next c} (hb : c.binding = .tab tab) (ht : tab ∈ s.store.tabs.tabIds) :
    Relinks s (.resumes (.cloning source tab next)) (some (.tab tab, c.id)) none
      (s.mapConnections (·.insert c))

/-- a worksheet is closed that has these tabs to be deleted: up to a tab that is not there, a
connection that is given back, or the end -/
inductive Closes (w : WorksheetId) (tabs : List TabId) (s : Session) : Session.Step → Prop where
  | fails {s' e} (ht : Turnover tabs s s') : Closes w tabs s (s', .ends (.error e))
  | deletes {s' tab rest c} (ht : Turnover tabs s s') (hx : tab ∈ s'.store.tabs.tabIds)
    (hc : s'.store.connections.ofTab? tab = some c) :
    Closes w tabs s (s'.dropTab tab, .waits (.deleting c.id (.close w rest)))
  | looks {s' c} (ht : Turnover tabs s s') (hc : s'.store.connections.ofWorksheet? w = some c) :
    Closes w tabs s (s', .waits (.closing w c.id))
  | removes {s'} (ht : Turnover tabs s s')
    (hdone : Orderly s → ∀ tab ∈ tabs, tab.number ≤ s.tabsDrawn → tab ∉ s'.store.tabs.tabIds)
    (hno : .worksheet w ∉ s'.store.connections.bindings) :
    Closes w tabs s (s'.dropWorksheet w, .ends (.ok .done))

/-- the worksheet that is closed, its tabs to be deleted, and the session that they are deleted
in -/
inductive Empties (s : Session) : Cause → WorksheetId → List TabId → Session → Prop where
  | first {w} : Empties s (.begins (.closeWorksheet w)) w (s.store.tabs.idsOf w) s
  | next {c w tabs} : Empties s (.resumes (.deleting c (.close w tabs))) w tabs (s.forget c)

inductive Moves (s : Session) :
    Cause → Option (Binding × ConnectionId) → Session.Step → Prop where
  | turns {k l? r? s₁ s' p} (tabs : List TabId) (hk : k.closes? = none)
    (hr : Relinks s k l? r? s₁) (ht : Turnover tabs s₁ s')
    (hp : ∀ b ∈ p.awaits, b.Plain k r?) : Moves s k l? (s', p)
  /-- a tab is deleted, and its connection given back -/
  | deletes {tab c} (hx : tab ∈ s.store.tabs.tabIds)
    (hc : s.store.connections.ofTab? tab = some c) :
    Moves s (.begins (.deleteTab tab)) none (s.dropTab tab, .waits (.deleting c.id .done))
  /-- a worksheet gets another connection, and the one it had is given back -/
  | replaces {w params next old c} (hb : c.binding = .worksheet w)
    (hc : s.store.connections.ofWorksheet? w = some old) :
    Moves s (.resumes (.opening w params next)) (some (.worksheet w, c.id))
      (s, .waits (.replacing w old.id c next))
  | closes {k w tabs s₁ st} (hk : Empties s k w tabs s₁) (h : Closes w tabs s₁ st) :
    Moves s k none st
  /-- the connection of a worksheet that is closed was given back -/
  | removes {w c} : Moves s (.resumes (.closing w c)) none
      ((s.forget c).dropWorksheet w, .ends (.ok .done))

/-! ## every stretch is one -/

namespace Session
variable {s s₁ : Session} {k : Cause} {l? r? : Option (Binding × ConnectionId)}

theorem plain_ends (r : Except ConsoleError Outcome) :
    ∀ b ∈ (Progress.ends r).awaits, b.Plain k l? := by
  intro b hb
  cases hb

theorem plain_waits {a : Await} (ha : a.Plain k l?) :
    ∀ b ∈ (Progress.waits a).awaits, b.Plain k l? := by
  intro b hb
  rw [List.mem_singleton.mp hb]
  exact ha

theorem turns_ends (hk : k.closes? = none) (hr : Relinks s k l? r? s₁)
    (r : Except ConsoleError Outcome) : Moves s k l? (s₁, .ends r) :=
  .turns [] hk hr (.refl s₁) (plain_ends _)

theorem turns_waits (hk : k.closes? = none) (hr : Relinks s k l? r? s₁) {a : Await}
    (ha : a.Plain k r?) : Moves s k l? (s₁, .waits a) :=
  .turns [] hk hr (.refl s₁) (plain_waits ha)

theorem turns_afterClone (hk : k.closes? = none) (hr : Relinks s k l? r? s₁) (tab : TabId)
    (r : Except ConsoleError Connection) (next : AfterClone) :
    Moves s k l? (s₁.afterClone tab r next) := by
  cases next <;> exact turns_ends hk hr _

theorem turns_beginTab (hk : k.closes? = none) (hr : Relinks s k l? r? s₁) (w : WorksheetId)
    (name : Option String) (next : AfterClone) : Moves s k l? (s₁.beginTab w name next) := by
  unfold beginTab
  dsimp only
  split
  · exact .turns [] hk hr (.drawTab s₁) (plain_ends _)
  · next x hx =>
    have ht : Turnover [] s₁ (s₁.drawTab.2.insertTab ⟨s₁.drawTab.1, w, name.getD (defaultName
        (s₁.drawTab.2.store.tabs.nextCount w)), s₁.drawTab.2.store.tabs.nextCount w⟩) :=
      .insertTab rfl (Tabs.mem_worksheetIds hx)
    split
    · exact .turns [] hk hr ht (plain_waits ⟨rfl, rfl, List.nil_sublist _, nofun⟩)
    · cases next <;> exact .turns [] hk hr ht (plain_ends _)

theorem turns_beginOpen (tabs : List TabId) (hk : k.closes? = none) (hr : k.relinks = false)
    (ht : Turnover tabs s s₁) (w : WorksheetId) (params : ConnectionParams) (next : AfterOpen) :
    Moves s k l? (s₁.beginOpen w params next) := by
  unfold beginOpen
  split
  · exact .turns tabs hk (.same hr) ht (plain_ends _)
  · exact .turns tabs hk (.same hr) ht (plain_waits ⟨rfl, rfl, List.nil_sublist _, nofun⟩)

theorem turns_afterOpen (hk : k.closes? = none) {w : WorksheetId} {c : Connection}
    (hr : Relinks s k l? r? (s₁.mapConnections (·.insert c))) (next : AfterOpen) :
    Moves s k l? (s₁.afterOpen w c next) := by
  cases next with
  | connection => exact turns_ends hk hr _
  | firstTab => exact turns_beginTab hk hr w none _

theorem moves_deleteTab (s : Session) (tab : TabId) :
    Moves s (.begins (.deleteTab tab)) none (s.deleteTab tab) := by
  unfold deleteTab
  split
  · exact turns_ends rfl (.same rfl) _
  · next x hx =>
    split
    · next c hc => exact .deletes (Tabs.mem_tabIds hx) hc
    · next hc =>
      have ht : Turnover [tab] s (s.dropTab tab) := .dropTab (List.mem_singleton_self tab)
        (Tabs.mem_tabIds hx) (Connections.not_mem_bindings_of_bound? hc)
      exact .turns [tab] rfl (.same rfl) ht (plain_ends _)

theorem closes_closeTabs (s : Session) (w : WorksheetId) (tabs : List TabId) :
    Closes w tabs s (s.closeTabs w tabs) := by
  induction tabs generalizing s with
  | nil =>
    unfold closeTabs closeEmpty
    split
    · next c hc => exact .looks (.refl s) hc
    · next hc =>
      exact .removes (.refl s) (fun _ _ => nofun) (Connections.not_mem_bindings_of_bound? hc)
  | cons tab rest ih =>
    unfold closeTabs
    split
    · exact .fails (.refl s)
    · next x hx =>
      split
      · next c hc => exact .deletes (.refl s) (Tabs.mem_tabIds hx) hc
      · next hc =>
        have hdrop : Turnover (tab :: rest) s (s.dropTab tab) := .dropTab List.mem_cons_self
          (Tabs.mem_tabIds hx) (Connections.not_mem_bindings_of_bound? hc)
        have hmore : ∀ {s'}, Turnover rest (s.dropTab tab) s' → Turnover (tab :: rest) s s' :=
          fun ht => hdrop.trans (ht.mono (List.subset_cons_self tab rest))
        have hrest := ih (s.dropTab tab)
        generalize (s.dropTab tab).closeTabs w rest = st at hrest
        cases hrest with
        | fails ht => exact .fails (hmore ht)
        | deletes ht hx hc => exact .deletes (hmore ht) hx hc
        | looks ht hc => exact .looks (hmore ht) hc
        | removes ht hdone hno =>
          refine .removes (hmore ht) (fun ho other hin hd => ?_) hno
          have ho' := ho.dropTab tab
          rcases List.mem_cons.mp hin with rfl | hin
          · exact (ht.away ho' other hd (ho.gone_dropTab other).absent).1
          · exact hdone ho' other hin hd

theorem moves_of_speaks {o : Operation} (hk : (Cause.begins o).closes? = none) {st : Step}
    (h : Speaks s st) : Moves s (.begins o) none st := by
  cases h with
  | fails e => exact turns_ends hk (.same rfl) _
  | @sends s' a b id request abort hf _ ha _ =>
    have hp := a.plain_of_isStatement (by rw [ha]; rfl) (.begins o) none
    exact .turns [] hk (.same rfl) (.of_sameFrame hf) (plain_waits hp)

theorem moves_of_heard {a : Await} (ha : a.call.isStatement = true) {st : Step}
    (h : Heard s a st) : Moves s (.resumes a) l? st := by
  have hk : (Cause.resumes a).closes? = none := by
    have hclosing := (a.plain_of_isStatement ha .otherwise none).closing
    simp [Cause.closes?, hclosing]
  have hr : (Cause.resumes a).relinks = false := by
    cases a <;> first | rfl | cases ha
  cases h with
  | ends hf => exact .turns [] hk (.same hr) (.of_sameFrame hf) (plain_ends _)
  | asks _ => exact turns_waits hk (.same hr) ⟨rfl, rfl, List.nil_sublist _, nofun⟩

/-- **What an operation begins with.** -/
theorem moves_begin (s : Session) (o : Operation) : Moves s (.begins o) none (o.begin s) := by
  cases o with
  | openWorksheet name params =>
    exact turns_beginOpen [] rfl rfl (.createWorksheet s name) _ params _
  | openConnection w params => exact turns_beginOpen [] rfl rfl (.refl s) w params _
  | closeWorksheet w => exact .closes .first (s.closes_closeTabs w _)
  | addTab w name => exact turns_beginTab rfl (.same rfl) w name _
  | deleteTab tab => exact s.moves_deleteTab tab
  | preview tab target mode => exact moves_of_speaks rfl (s.speaks_preview tab target mode)
  | query tab sql => exact moves_of_speaks rfl (s.speaks_query tab sql)
  | stop tab => exact moves_of_speaks rfl (s.speaks_stop tab)
  | cloneConnection source tab =>
    exact turns_waits rfl (.same rfl) ⟨rfl, rfl, List.nil_sublist _, nofun⟩
  | release c =>
    refine turns_waits rfl (.same rfl) ⟨rfl, rfl, List.nil_sublist _, ?_⟩
    rintro c ⟨⟩
    rfl
  | refreshDatabase c => exact turns_waits rfl (.same rfl) ⟨rfl, rfl, List.nil_sublist _, nofun⟩

/-- **What follows a reply.** -/
theorem moves_resume (s : Session) (a : Await) (reply : a.call.Reply) :
    Moves s (.resumes a) (a.gains? reply) (s.resume a reply) := by
  cases a with
  | opening w params next =>
    cases reply with
    | error e => exact turns_ends rfl (.same rfl) _
    | ok info =>
      simp only [resume, opened]
      split
      · next old hold =>
        exact .replaces (c := .ofInfo info params.target params.db (.worksheet w)) rfl hold
      · next hno =>
        exact turns_afterOpen rfl
          (.opens (c := .ofInfo info params.target params.db (.worksheet w)) rfl
            (Connections.not_mem_bindings_of_bound? hno)) next
  | replacing w old c next =>
    have hr : Relinks s (.resumes (.replacing w old c next)) none none
        ((s.forget old).mapConnections (·.insert c)) := .replaces
    exact turns_afterOpen rfl hr next
  | cloning source tab next =>
    cases reply with
    | error e => exact turns_afterClone rfl (.same rfl) tab _ next
    | ok info =>
      simp only [resume, cloned]
      split
      · next x hx =>
        exact turns_afterClone rfl
          (.clones (c := .ofInfo info source.name source.db (.tab tab)) rfl (Tabs.mem_tabIds hx))
          tab _ next
      · exact turns_waits rfl (.same rfl) ⟨rfl, rfl, List.Sublist.refl _, fun _ h => by cases h⟩
  | discarding clone tab next => exact turns_afterClone rfl (.forgets rfl) tab _ next
  | deleting c next =>
    cases next with
    | done => exact turns_ends rfl (.forgets rfl) _
    | close w rest => exact .closes .next ((s.forget c).closes_closeTabs w rest)
  | closing w c => exact .removes
  | releasing c => exact turns_ends rfl (.forgets rfl) _
  | refreshing c => exact moves_of_heard rfl (s.heard rfl reply)
  | previewing q mode title => exact moves_of_heard rfl (s.heard rfl reply)
  | querying q => exact moves_of_heard rfl (s.heard rfl reply)
  | switching q set duration => exact moves_of_heard rfl (s.heard rfl reply)
  | killing tab via thread target => exact moves_of_heard rfl (s.heard rfl reply)

end Session

end QueryDesk
