import QueryDesk.Proofs.Traffic

/-!
# Places for results, and requests that are out

* `Place`, `TabMemory.slot`   the three places of a tab, and the slot at each;
* `Flight`                    a request that is out, and the place that its answer is meant for;
* `Stop`                      a stop that is out, with what it names;
* `TabMemory.launch`          a request takes its place over;
* `Lands f m m'`              a request that owns its place ends, and `m` becomes `m'`.

Launching and landing change the slot of one place, and of the rest only what belongs to the query
of the user: whether the connection is busy, the handle and the run state.
-/

namespace QueryDesk

/-- the places of a tab for results -/
inductive Place where
  | preview (mode : Preview)
  | query
deriving DecidableEq

/-- a request, and the place that its answer is meant for -/
structure Flight where
  sent : Sent
  place : Place

namespace Flight

def request (f : Flight) : RequestId := f.sent.request

def tab (f : Flight) : TabId := f.sent.tab

@[simp] theorem request_mk (q : Sent) (place : Place) :
    (⟨q, place⟩ : Flight).request = q.request := rfl

end Flight

/-- a stop that is out -/
structure Stop where
  tab : TabId
  /-- the connection that it is sent on -/
  via : ConnectionId
  thread : UInt64
  /-- the request that ran when it was sent -/
  target : Option RequestId

def Stop.await (x : Stop) : Await := .killing x.tab x.via x.thread x.target

namespace Await

/-- the request whose operation waits for this call -/
def flight? : Await → Option Flight
  | previewing q mode _ => some ⟨q, .preview mode⟩
  | querying q => some ⟨q, .query⟩
  | switching q _ _ => some ⟨q, .query⟩
  | _ => none

/-- the tab that waits for its connection -/
def clonesFor? : Await → Option TabId
  | cloning _ tab _ => some tab
  | _ => none

/-- what is to be stopped -/
def stop? : Await → Option Stop
  | killing tab via thread target => some ⟨tab, via, thread, target⟩
  | _ => none

theorem stop?_eq_some {a : Await} {x : Stop} : a.stop? = some x ↔ a = x.await := by
  obtain ⟨tab, via, thread, target⟩ := x
  cases a <;> simp [stop?, Stop.await]

end Await

/-- the requests that are out -/
def flights (as : List Await) : List Flight := as.filterMap Await.flight?

theorem flights_append (as bs : List Await) : flights (as ++ bs) = flights as ++ flights bs :=
  List.filterMap_append

theorem flights_cons_of_none {a : Await} (h : a.flight? = none) (as : List Await) :
    flights (a :: as) = flights as := by
  simp [flights, h]

theorem flights_cons_of_some {a : Await} {f : Flight} (h : a.flight? = some f) (as : List Await) :
    flights (a :: as) = f :: flights as := by
  simp [flights, h]

namespace TabMemory

def slot (m : TabMemory) : Place → Slot
  | .preview .data => m.data
  | .preview .details => m.details
  | .query => m.query.result

@[simp] theorem slot_empty (place : Place) : empty.slot place = Slot.empty := by
  cases place with
  | preview mode => cases mode <;> rfl
  | query => rfl

/-! ## previews -/

@[simp] theorem slot_modifyPreview (m : TabMemory) (mode : Preview) (g : Slot → Slot) :
    (m.modifyPreview mode g).slot (.preview mode) = g (m.slot (.preview mode)) := by
  cases mode <;> rfl

theorem slot_modifyPreview_of_ne (m : TabMemory) {mode : Preview} {place : Place} (g : Slot → Slot)
    (h : place ≠ .preview mode) : (m.modifyPreview mode g).slot place = m.slot place := by
  cases place with
  | query => cases mode <;> rfl
  | preview other =>
    cases mode <;> cases other <;> first | rfl | exact absurd rfl h

@[simp] theorem query_modifyPreview (m : TabMemory) (mode : Preview) (g : Slot → Slot) :
    (m.modifyPreview mode g).query = m.query := by
  cases mode <;> rfl

@[simp] theorem busy_modifyPreview (m : TabMemory) (mode : Preview) (g : Slot → Slot) :
    (m.modifyPreview mode g).busy = m.busy := by
  cases mode <;> rfl

theorem modifyPreview_id (m : TabMemory) {mode : Preview} {g : Slot → Slot}
    (h : g (m.slot (.preview mode)) = m.slot (.preview mode)) : m.modifyPreview mode g = m := by
  cases mode with
  | data => exact congrArg (fun slot => { m with data := slot }) h
  | details => exact congrArg (fun slot => { m with details := slot }) h

theorem slot_clearPreviews (m : TabMemory) (mode : Preview) :
    m.clearPreviews.slot (.preview mode) = Slot.empty := by
  cases mode <;> rfl

/-! ## a request goes out -/

/-- the request takes its place over -/
def launch (m : TabMemory) (f : Flight) : TabMemory :=
  match f.place with
  | .preview mode => m.modifyPreview mode (·.begin f.sent.request f.sent.time)
  | .query => m.beginQuery f.sent

theorem launch_preview (m : TabMemory) {f : Flight} {mode : Preview} (h : f.place = .preview mode) :
    m.launch f = m.modifyPreview mode (·.begin f.sent.request f.sent.time) := by
  simp [launch, h]

theorem launch_query (m : TabMemory) {f : Flight} (h : f.place = .query) :
    m.launch f = m.beginQuery f.sent := by
  simp [launch, h]

theorem owner_launch (m : TabMemory) (f : Flight) :
    ((m.launch f).slot f.place).owner = some f.request := by
  cases h : f.place with
  | preview mode =>
    rw [launch_preview m h, slot_modifyPreview]
    rfl
  | query =>
    rw [launch_query m h]
    rfl

theorem loading_launch (m : TabMemory) (f : Flight) :
    ((m.launch f).slot f.place).loading = true := by
  cases h : f.place with
  | preview mode =>
    rw [launch_preview m h, slot_modifyPreview]
    rfl
  | query =>
    rw [launch_query m h]
    rfl

theorem slot_launch_of_ne (m : TabMemory) {f : Flight} {place : Place} (h : place ≠ f.place) :
    (m.launch f).slot place = m.slot place := by
  cases hf : f.place with
  | preview mode =>
    rw [launch_preview m hf]
    exact slot_modifyPreview_of_ne m _ (hf ▸ h)
  | query =>
    rw [launch_query m hf]
    cases place with
    | query => exact absurd hf.symm h
    | preview mode => cases mode <;> rfl

end TabMemory

/-! ## a request comes to its end -/

/-- the request of `f` owns its place, ends, and leaves `m'` -/
structure Lands (f : Flight) (m m' : TabMemory) : Prop where
  owner : (m'.slot f.place).owner = (m.slot f.place).owner
  loading : (m'.slot f.place).loading = false
  other : ∀ place, place ≠ f.place → m'.slot place = m.slot place
  /-- a preview leaves the query of the user alone -/
  preview : f.place ≠ .query → m'.query = m.query ∧ m'.busy = m.busy
  query : f.place = .query → m'.query.state = .settled ∧ m'.query.abort = none ∧ m'.busy = false

theorem lands_modifyPreview {f : Flight} {mode : Preview} (m : TabMemory) (g : Slot → Slot)
    (h : f.place = .preview mode)
    (hg : (g (m.slot (.preview mode))).owner = (m.slot (.preview mode)).owner ∧
      (g (m.slot (.preview mode))).loading = false) :
    Lands f m (m.modifyPreview mode g) where
  owner := by rw [h, TabMemory.slot_modifyPreview, hg.1]
  loading := by rw [h, TabMemory.slot_modifyPreview, hg.2]
  other := fun place hne => TabMemory.slot_modifyPreview_of_ne m g (h ▸ hne)
  preview := fun _ => ⟨TabMemory.query_modifyPreview .., TabMemory.busy_modifyPreview ..⟩
  query := fun hq => by rw [h] at hq; cases hq

theorem lands_settleQuery {q : Sent} {m : TabMemory} (duration : Binary64) (data : Option ResultSet)
    (h : m.query.result.owner = some q.request) :
    Lands ⟨q, .query⟩ m (m.settleQuery q duration data) := by
  have hs : m.settleQuery q duration data =
      { m with busy := false, query := ⟨m.query.result.settle data duration, none, .settled⟩ } := by
    simp [TabMemory.settleQuery, Slot.ownedBy, h]
  rw [hs]
  exact {
    owner := rfl
    loading := rfl
    other := fun place hne => by
      cases place with
      | query => exact absurd rfl hne
      | preview mode => cases mode <;> rfl
    preview := fun hq => absurd rfl hq
    query := fun _ => ⟨rfl, rfl, rfl⟩ }

theorem settleQuery_of_stale {q : Sent} {m : TabMemory} (duration : Binary64)
    (data : Option ResultSet) (h : m.query.result.owner ≠ some q.request) :
    m.settleQuery q duration data = m := by
  simp [TabMemory.settleQuery, Slot.ownedBy, h]

end QueryDesk
