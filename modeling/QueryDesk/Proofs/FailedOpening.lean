import QueryDesk.Proofs.Absence

/-!
# A worksheet that could not be opened

Opening a worksheet makes the worksheet, its connection, its first tab and the connection of the
tab, one after the other.  Here the server may answer each call as it likes, and while a call is out
others may do what they like with the session.

* `Hearing`              an operation hears the reply to its call;
* `Unfolds st hs s r`    an operation goes on from `st`, hears these replies, and ends with `r`;
* `Undisturbed`          nobody else was at work meanwhile;
* `opened`, `givenBack`  the connections that the operation was brought, and those that it gave
  back;
* `FailsToOpen`          the ways in which an opening fails;
* `LeavesNothing`        nothing is left of an opening;
* `Leftovers`            what is left of one that has failed.

**`failed_opening`**: an opening that fails leaves nothing if and only if its connection was refused
and others had removed its worksheet meanwhile.  With nobody else at work it leaves the worksheet,
and no more.
-/

namespace QueryDesk

/-! ## one operation among others -/

/-- an operation hears the reply to its call: the session as it was when the call was made, and as
it is when the reply comes -/
structure Hearing where
  left : Session
  found : Session
  await : Await
  reply : await.call.Reply

namespace Hearing

/-- how the operation goes on -/
def next (x : Hearing) : Session.Step := x.found.resume x.await x.reply

def brought? (x : Hearing) : Option ConnectionId := x.await.call.brings? x.reply

def IsRefused (x : Hearing) : Prop := ∃ e, x.reply = .error e

/-- up to its next call or its end the operation leaves worksheets, tabs, editors, files and
memories as they are -/
def KeepsTabs (x : Hearing) : Prop :=
  x.next.1.store.tabs = x.found.store.tabs ∧ x.next.1.store.memory = x.found.store.memory

end Hearing

/-- an operation goes on from a step, hears these replies, and ends; of the session that it finds
with a reply nothing is known -/
inductive Unfolds :
    Session.Step → List Hearing → Session → Except ConsoleError Outcome → Prop where
  | ends (s : Session) (r : Except ConsoleError Outcome) : Unfolds (s, .ends r) [] s r
  | hears {left found a reply hs s r} (h : Unfolds (found.resume a reply) hs s r) :
    Unfolds (left, .waits a) (⟨left, found, a, reply⟩ :: hs) s r

def Undisturbed (hs : List Hearing) : Prop := ∀ x ∈ hs, x.found = x.left

def opened (hs : List Hearing) : List ConnectionId := hs.filterMap Hearing.brought?

def givenBack (hs : List Hearing) : List ConnectionId := released (hs.map (·.await.call))

/-! ## openings -/

/-- the connection is refused, or it has come and its worksheet has gone; then it is on record -/
inductive FailsToOpen (w : WorksheetId) (params : ConnectionParams) (left : Session) :
    List Hearing → Session → Prop where
  | refused {found e} :
    FailsToOpen w params left [⟨left, found, .opening w params .firstTab, .error e⟩] found
  | vanished {found info c} (hc : c = .ofInfo info params.target params.db (.worksheet w))
    (hw : w ∉ found.store.tabs.worksheetIds)
    (hon : found.resume (.opening w params .firstTab) (.ok info) =
      (found.mapConnections (·.insert c)).drawTab.2.fail (.notFound (.worksheet w))) :
    FailsToOpen w params left [⟨left, found, .opening w params .firstTab, .ok info⟩]
      (found.mapConnections (·.insert c)).drawTab.2
  /-- the worksheet has gone while a connection was given back that others had opened for it -/
  | vanishedLater {found found' info c old reply}
    (hc : c = .ofInfo info params.target params.db (.worksheet w))
    (hw : w ∉ found'.store.tabs.worksheetIds)
    (hon : found.resume (.opening w params .firstTab) (.ok info) =
      (found, .waits (.replacing w old c .firstTab)))
    (hon' : found'.resume (.replacing w old c .firstTab) reply =
      ((found'.forget old).mapConnections (·.insert c)).drawTab.2.fail (.notFound (.worksheet w))) :
    FailsToOpen w params left [⟨left, found, .opening w params .firstTab, .ok info⟩,
      ⟨found, found', .replacing w old c .firstTab, reply⟩]
      ((found'.forget old).mapConnections (·.insert c)).drawTab.2

section
variable {s s' : Session} {w : WorksheetId} {hs : List Hearing} {e : ConsoleError}

/-- once a worksheet has its connection, a first tab that gets none does no harm -/
theorem not_unfolds_cloning {source : Connection} {tab : TabId} :
    ¬ Unfolds (s, .waits (.cloning source tab (.worksheet w))) hs s' (.error e) := by
  intro h
  cases h with
  | @hears _ found _ reply _ _ _ h =>
    cases reply with
    | error e' => cases h
    | ok info =>
      simp only [Session.resume, Session.cloned] at h
      split at h
      · cases h
      · cases h with
        | hears h => cases h

theorem fails_afterOpen {c : Connection}
    (h : Unfolds (s.afterOpen w c .firstTab) hs s' (.error e)) :
    w ∉ s.store.tabs.worksheetIds ∧ hs = [] ∧ s' = (s.mapConnections (·.insert c)).drawTab.2 ∧
      s.afterOpen w c .firstTab =
        (s.mapConnections (·.insert c)).drawTab.2.fail (.notFound (.worksheet w)) := by
  by_cases hw : w ∈ s.store.tabs.worksheetIds
  · exfalso
    obtain ⟨x, hx⟩ := Tabs.exists_worksheet? hw
    have hx' : (s.mapConnections (·.insert c)).drawTab.2.store.tabs.worksheet? w = some x := hx
    simp only [Session.afterOpen, Session.beginTab, hx'] at h
    split at h
    · exact not_unfolds_cloning h
    · cases h
  · have hon : s.afterOpen w c .firstTab =
        (s.mapConnections (·.insert c)).drawTab.2.fail (.notFound (.worksheet w)) :=
      Session.beginTab_of_absent (s := s.mapConnections (·.insert c)) hw none (.worksheet w)
    rw [hon] at h
    cases h
    exact ⟨hw, rfl, rfl, hon⟩

theorem openWorksheet_waits (s : Session) (name : String) (params : ConnectionParams) :
    s.openWorksheet name params =
      ((s.createWorksheet name).2, .waits (.opening s.drawWorksheet.1 params .firstTab)) := by
  have hw : s.drawWorksheet.1 ∈ (s.createWorksheet name).2.store.tabs.worksheetIds := by
    simp [Session.createWorksheet, Session.mapTabs]
  obtain ⟨x, hx⟩ := Tabs.exists_worksheet? hw
  show (s.createWorksheet name).2.beginOpen s.drawWorksheet.1 params .firstTab = _
  simp only [Session.beginOpen, hx]

theorem failsToOpen {name : String} {params : ConnectionParams}
    (h : Unfolds (s.openWorksheet name params) hs s' (.error e)) :
    FailsToOpen s.drawWorksheet.1 params (s.createWorksheet name).2 hs s' := by
  rw [openWorksheet_waits] at h
  cases h with
  | @hears _ found _ reply _ _ _ h =>
    cases reply with
    | error e' =>
      cases h
      exact .refused
    | ok info =>
      simp only [Session.resume, Session.opened] at h
      -- others may have opened a connection for the worksheet
      split at h
      · next old hold =>
        cases h with
        | hears h =>
          obtain ⟨hw, rfl, rfl, hon⟩ := fails_afterOpen h
          exact .vanishedLater rfl hw (by simp only [Session.resume, Session.opened, hold]) hon
      · next hno =>
        obtain ⟨hw, rfl, rfl, hon⟩ := fails_afterOpen h
        exact .vanished rfl hw (by simp only [Session.resume, Session.opened, hno, hon])

end

/-! ## what is left -/

/-- in the session `s` nothing is left of an opening that has made the worksheet `w` -/
structure LeavesNothing (w : WorksheetId) (hs : List Hearing) (s : Session) : Prop where
  worksheet : w ∉ s.store.tabs.worksheetIds
  recorded : ∀ id ∈ opened hs, id ∉ s.store.connections.ids
  released : ∀ id ∈ opened hs, id ∈ givenBack hs

/-- what is left in the session `s'` of an opening that has failed, and was begun in `s` -/
structure Leftovers (s : Session) (name : String) (hs : List Hearing) (s' : Session) : Prop where
  nothing_iff : LeavesNothing s.drawWorksheet.1 hs s' ↔
    ∃ x, hs = [x] ∧ x.IsRefused ∧ s.drawWorksheet.1 ∉ x.found.store.tabs.worksheetIds
  tabs : ∀ x ∈ hs, x.KeepsTabs
  /-- a connection that has come stays on record for a worksheet that has gone -/
  connection : ∀ id ∈ opened hs, (.worksheet s.drawWorksheet.1, id) ∈ s'.links ∧
    s.drawWorksheet.1 ∉ s'.store.tabs.worksheetIds
  undisturbed : Undisturbed hs → opened hs = [] ∧
    s'.store = { s.store with tabs := s.store.tabs.insertWorksheet s.drawWorksheet.1 name }

section
variable {s s' : Session} {w : WorksheetId} {name : String} {hs : List Hearing} {id : ConnectionId}

theorem opened_of_isRefused {x : Hearing} (h : x.IsRefused) : opened [x] = [] := by
  obtain ⟨left, found, a, reply⟩ := x
  obtain ⟨e, rfl : reply = .error e⟩ := h
  cases a <;> rfl

/-- a connection that has come is on record -/
theorem not_leavesNothing (hid : id ∈ opened hs) (hl : (.worksheet w, id) ∈ s.links) :
    ¬ LeavesNothing w hs s :=
  fun h => h.recorded id hid (Connections.mem_ids hl)

/-- the connection has come, and others have removed the worksheet -/
theorem leftovers_of_opened (ho : opened hs = [id])
    (hl : (.worksheet s.drawWorksheet.1, id) ∈ s'.links)
    (hw : s.drawWorksheet.1 ∉ s'.store.tabs.worksheetIds) (ht : ∀ x ∈ hs, x.KeepsTabs)
    (hd : ¬ Undisturbed hs) : Leftovers s name hs s' where
  nothing_iff := by
    have hid : id ∈ opened hs := ho ▸ List.mem_singleton_self id
    refine ⟨fun h => absurd h (not_leavesNothing hid hl), ?_⟩
    rintro ⟨x, rfl, hx, -⟩
    rw [opened_of_isRefused hx] at ho
    cases ho
  tabs := ht
  connection := by
    intro id' hid
    cases List.mem_singleton.mp (ho ▸ hid)
    exact ⟨hl, hw⟩
  undisturbed := fun hu => absurd hu hd

end

/-- **An opening that fails leaves nothing if and only if its connection was refused and others had
removed its worksheet.**  With nobody else at work it leaves the worksheet, and no more. -/
theorem failed_opening {s s' : Session} {name : String} {params : ConnectionParams}
    {hs : List Hearing} {e : ConsoleError}
    (h : Unfolds (s.openWorksheet name params) hs s' (.error e)) : Leftovers s name hs s' := by
  have hmade : s.drawWorksheet.1 ∈ (s.createWorksheet name).2.store.tabs.worksheetIds := by
    simp [Session.createWorksheet, Session.mapTabs]
  cases failsToOpen h with
  | @refused _ e' =>
    exact {
      nothing_iff := by
        refine ⟨fun hl => ⟨_, rfl, ⟨e', rfl⟩, hl.worksheet⟩, ?_⟩
        rintro ⟨x, hx, -, hw⟩
        cases hx
        exact ⟨hw, nofun, nofun⟩
      tabs := by
        intro x hx
        cases List.mem_singleton.mp hx
        exact ⟨rfl, rfl⟩
      connection := nofun
      undisturbed := by
        intro hu
        have hfound : s' = (s.createWorksheet name).2 := hu _ (List.mem_singleton_self _)
        exact ⟨rfl, congrArg Session.store hfound⟩ }
  | @vanished found info c hc hw hon =>
    subst hc
    refine leftovers_of_opened rfl (Connections.mem_links_insert_self ..) hw ?_ ?_
    · intro x hx
      cases List.mem_singleton.mp hx
      unfold Hearing.KeepsTabs Hearing.next
      rw [hon]
      exact ⟨rfl, rfl⟩
    · intro hu
      have hfound : found = (s.createWorksheet name).2 := hu _ (List.mem_singleton_self _)
      exact hw (hfound ▸ hmade)
  | @vanishedLater found found' info c old reply hc hw hon hon' =>
    subst hc
    refine leftovers_of_opened rfl (Connections.mem_links_insert_self ..) hw ?_ ?_
    · intro x hx
      unfold Hearing.KeepsTabs Hearing.next
      rcases List.mem_pair.mp hx with rfl | rfl
      · rw [hon]
        exact ⟨rfl, rfl⟩
      · rw [hon']
        exact ⟨rfl, rfl⟩
    · intro hu
      have hfound : found = (s.createWorksheet name).2 := hu _ List.mem_cons_self
      have hfound' : found' = found :=
        hu _ (List.mem_cons_of_mem _ (List.mem_singleton_self _))
      exact hw (hfound' ▸ hfound ▸ hmade)

/-- the server refuses the connection, and the worksheet stays -/
theorem failed_opening_of_refusal :
    let s := Session.empty 100 10 0
    let left := (s.createWorksheet "w").2
    let hs : List Hearing := [⟨left, left, .opening ⟨1⟩ (.fresh "server" "user") .firstTab,
      .error (.api 401 "denied")⟩]
    Unfolds (s.openWorksheet "w" (.fresh "server" "user")) hs left (.error (.api 401 "denied")) ∧
      Leftovers s "w" hs left := by
  intro s left hs
  have h : Unfolds (s.openWorksheet "w" (.fresh "server" "user")) hs left
      (.error (.api 401 "denied")) := .hears (.ends left _)
  exact ⟨h, failed_opening h⟩

/-- **A worksheet stays whose connection was refused, and a connection whose worksheet was closed
while it was opened.** -/
theorem opening_not_undone :
    let s := Session.empty 100 10 0
    let st := s.openWorksheet "w" (.fresh "server" "user")
    s.store.tabs.worksheetIds = [] ∧
    (∃ hs s' e, Unfolds st hs s' (.error e) ∧ Undisturbed hs ∧
      s'.store.tabs.worksheetIds = [⟨1⟩] ∧ ¬ LeavesNothing ⟨1⟩ hs s') ∧
    (∃ hs s' e, Unfolds st hs s' (.error e) ∧
      (∀ x ∈ hs, x.found = (x.left.closeWorksheet ⟨1⟩).1) ∧ opened hs = [⟨"conn-1"⟩] ∧
      givenBack hs = [] ∧ s'.links = [(.worksheet ⟨1⟩, ⟨"conn-1"⟩)] ∧
      s'.store.tabs.worksheetIds = [] ∧ ¬ LeavesNothing ⟨1⟩ hs s') := by
  intro s st
  let left := (s.createWorksheet "w").2
  let closed := (left.closeWorksheet ⟨1⟩).1
  let a : Await := .opening ⟨1⟩ (.fresh "server" "user") .firstTab
  let info : ConnectionInfo := ⟨⟨"conn-1"⟩, 101, none⟩
  refine ⟨rfl, ⟨[⟨left, left, a, .error (.api 401 "denied")⟩], left, .api 401 "denied",
    .hears (.ends left _), ?_, rfl, fun h => h.worksheet (List.mem_singleton_self _)⟩,
    [⟨left, closed, a, .ok info⟩], _, .notFound (.worksheet ⟨1⟩), .hears (.ends _ _), ?_, rfl, rfl,
    rfl, rfl, not_leavesNothing (List.mem_singleton_self _) (List.mem_singleton_self _)⟩
  · intro x hx
    cases List.mem_singleton.mp hx
    rfl
  · intro x hx
    cases List.mem_singleton.mp hx
    rfl

end QueryDesk
