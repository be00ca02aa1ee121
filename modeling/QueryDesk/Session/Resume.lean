import QueryDesk.Session.Querying

/-!
# Going on from a reply

* `Session.resume`   an operation from the reply to its call up to its next call or its end;
* `callsLeft_resume`   every reply brings an operation nearer to its end.
-/

namespace QueryDesk.Session

def resume (s : Session) : (a : Await) → a.call.Reply → Step
  | .opening w params next, reply => s.opened w params next reply
  | .replacing w old c next, _ => (s.forget old).afterOpen w c next
  | .cloning source tab next, reply => s.cloned source tab next reply
  | .discarding clone tab next, _ =>
    (s.forget clone).afterClone tab (.error (.notFound (.tab tab))) next
  | .deleting c next, _ => (s.forget c).afterDelete next
  | .closing w c, _ => ((s.forget c).mapTabs (·.removeWorksheet w)).finish .done
  | .releasing c, reply => (s.forget c, .ends (reply.map fun _ => .done))
  | .refreshing c, reply =>
    match (reply : Except ConsoleError ResultSet) with
    | .error e => s.fail e
    | .ok set => (s.setDatabase c set).finish (.database (databaseOf set))
  | .previewing q mode title, reply => s.previewed q mode title reply
  | .querying q, reply => s.queried q reply
  | .switching q set duration, reply => s.switched q set duration reply
  | .killing tab _ _ target, reply => s.killed tab target reply

/-! ## how many calls are left -/

/-- the calls that may still be made -/
def callsLeft : Progress → Nat
  | .waits a => a.callsLeft
  | .ends _ => 0

theorem callsLeft_afterClone (s : Session) (tab : TabId) (r : Except ConsoleError Connection)
    (next : AfterClone) : callsLeft (s.afterClone tab r next).2 = 0 := by
  cases next <;> rfl

theorem callsLeft_beginTab (s : Session) (w : WorksheetId) (name : Option String)
    (next : AfterClone) :
    callsLeft (s.beginTab w name next).2 ≤ 2 := by
  unfold beginTab
  dsimp only
  split
  · simp [fail, callsLeft]
  · split
    · simp [callsLeft, Await.callsLeft]
    · simp [callsLeft_afterClone]

theorem callsLeft_closeTabs (s : Session) (w : WorksheetId) (tabs : List TabId) :
    callsLeft (s.closeTabs w tabs).2 ≤ tabs.length + 1 := by
  induction tabs generalizing s with
  | nil =>
    unfold closeTabs closeEmpty
    split <;> simp [callsLeft, Await.callsLeft, finish]
  | cons tab rest ih =>
    unfold closeTabs
    split
    · simp [fail, callsLeft]
    · split
      · simp [callsLeft, Await.callsLeft]
      · have := ih (s.dropTab tab)
        simp only [List.length_cons]
        omega

theorem callsLeft_afterOpen (s : Session) (w : WorksheetId) (c : Connection) (next : AfterOpen) :
    callsLeft (s.afterOpen w c next).2 ≤ 2 := by
  unfold afterOpen
  cases next with
  | connection => simp [finish, callsLeft]
  | firstTab => exact callsLeft_beginTab _ _ _ _

/-- every reply brings an operation nearer to its end -/
theorem callsLeft_resume (s : Session) (a : Await) (reply : a.call.Reply) :
    callsLeft (s.resume a reply).2 < a.callsLeft := by
  cases a with
  | opening w params next =>
    simp only [resume, opened, Await.callsLeft]
    split
    · simp [fail, callsLeft]
    · split
      · simp [callsLeft, Await.callsLeft]
      · have := callsLeft_afterOpen s w
          (Connection.ofInfo ‹_› params.target params.db (.worksheet w)) next
        omega
  | replacing w old c next =>
    have := callsLeft_afterOpen (s.forget old) w c next
    simp only [resume, Await.callsLeft]
    omega
  | cloning source tab next =>
    simp only [resume, cloned, Await.callsLeft]
    split
    · simp [callsLeft_afterClone]
    · split
      · simp [callsLeft_afterClone]
      · simp [callsLeft, Await.callsLeft]
  | discarding clone tab next => simp [resume, callsLeft_afterClone, Await.callsLeft]
  | deleting c next =>
    cases next with
    | done => simp [resume, afterDelete, finish, callsLeft, Await.callsLeft]
    | close w rest =>
      have := callsLeft_closeTabs (s.forget c) w rest
      simp only [resume, afterDelete, Await.callsLeft]
      omega
  | closing w c => simp [resume, finish, callsLeft, Await.callsLeft]
  | releasing c => simp [resume, callsLeft, Await.callsLeft]
  | refreshing c =>
    simp only [resume]
    split <;> simp [fail, finish, callsLeft, Await.callsLeft]
  | previewing q mode title =>
    simp only [resume, previewed]
    split <;> simp [fail, finish, callsLeft, Await.callsLeft]
  | querying q =>
    simp only [resume, queried]
    split
    · simp [finish, callsLeft, Await.callsLeft]
    · simp [endQuery, finish, callsLeft, Await.callsLeft]
    · simp [endQuery, finish, callsLeft, Await.callsLeft]
    · split <;> simp [completeQuery, endQuery, finish, callsLeft, Await.callsLeft]
  | switching q set duration =>
    simp only [resume, switched]
    split <;> simp [completeQuery, endQuery, finish, callsLeft, Await.callsLeft]
  | killing tab via thread target =>
    simp only [resume, killed]
    split
    · simp [finish, callsLeft, Await.callsLeft]
    · split <;> simp [finish, callsLeft, Await.callsLeft]

end QueryDesk.Session
