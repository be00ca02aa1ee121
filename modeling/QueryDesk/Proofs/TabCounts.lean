import Mathlib.Data.List.Infix
import QueryDesk.Proofs.Calls
import QueryDesk.Proofs.Frame
import QueryDesk.Proofs.Tabs

/-!
# Tabs that are told apart

A new tab gets one more than the largest number among the tabs of its worksheet, and unless it is
given a name it is called by that number.  Numbers are handed out while other tabs wait for their
connections, tabs go, and the last tab of a worksheet starts again at one.

* `Session.Counted`      the tabs stand in the order of their making, and so do the numbers of each
  worksheet;
* `Retabs name s s'`     what a stretch does to the tabs: some go, one comes, one starts again;
* `Traffic.retabs`       no event does anything else;
* `Traffic.givenName?`   the name that a tab was given when it was added, if any;
* `Traffic.ToldApart`    what is claimed of the tabs of a worksheet.

**`Traffic.tabs_told_apart`**: so they are after every run, whatever is under way, as long as only
the last tab of a worksheet is refreshed and no number is the largest there is.
-/

namespace QueryDesk

/-! ## the next number -/

theorem word_max_le_iff {a b bound : UInt32} : max a b ≤ bound ↔ a ≤ bound ∧ b ≤ bound := by
  show (if a ≤ b then b else a) ≤ bound ↔ _
  split <;> simp only [UInt32.le_iff_toNat_le] at * <;> omega

theorem foldl_max_le_iff (counts : List UInt32) (start bound : UInt32) :
    counts.foldl max start ≤ bound ↔ start ≤ bound ∧ ∀ c ∈ counts, c ≤ bound := by
  induction counts generalizing start with
  | nil => simp
  | cons c counts ih => simp [ih, word_max_le_iff, and_assoc]

namespace Tabs
variable {t : Tabs} {w : WorksheetId}

/-- no tab has the largest number there is -/
def BelowLast (t : Tabs) : Prop := ∀ x ∈ t.tabs, x.count < 4294967295

instance (t : Tabs) : Decidable t.BelowLast :=
  inferInstanceAs (Decidable (∀ x ∈ t.tabs, _))

theorem mem_tabsOf {x : QueryTab} : x ∈ t.tabsOf w ↔ x ∈ t.tabs ∧ x.worksheet = w := by
  simp [tabsOf]

/-- the largest number of a worksheet is not the largest there is, so that the next one is not
nought again -/
theorem toNat_nextCount (h : t.BelowLast) :
    (t.nextCount w).toNat = (((t.tabsOf w).map QueryTab.count).foldl max 0).toNat + 1 := by
  have hle : ((t.tabsOf w).map QueryTab.count).foldl max 0 ≤ 4294967294 := by
    refine (foldl_max_le_iff ..).mpr ⟨by decide, fun c hc => ?_⟩
    obtain ⟨x, hx, rfl⟩ := List.mem_map.mp hc
    have hlt := UInt32.lt_iff_toNat_lt.mp (h x (mem_tabsOf.mp hx).1)
    exact UInt32.le_iff_toNat_le.mpr (Nat.le_of_lt_succ hlt)
  have hnat := UInt32.le_iff_toNat_le.mp hle
  rw [nextCount, UInt32.toNat_add]
  refine Nat.mod_eq_of_lt (Nat.lt_of_le_of_lt (Nat.succ_le_succ hnat) ?_)
  decide

theorem lt_nextCount (h : t.BelowLast) {x : QueryTab} (hx : x ∈ t.tabsOf w) :
    x.count < t.nextCount w := by
  have hle : x.count ≤ ((t.tabsOf w).map QueryTab.count).foldl max 0 :=
    ((foldl_max_le_iff ..).mp (UInt32.le_refl _)).2 _ (List.mem_map_of_mem hx)
  rw [UInt32.lt_iff_toNat_lt, toNat_nextCount h]
  exact Nat.lt_succ_of_le (UInt32.le_iff_toNat_le.mp hle)

theorem one_le_nextCount (h : t.BelowLast) : 1 ≤ t.nextCount w := by
  rw [UInt32.le_iff_toNat_le, toNat_nextCount h]
  exact Nat.le_add_left 1 _

end Tabs

/-! ## what a stretch does to the tabs -/

/-- some tabs go -/
structure FewerTabs (s s' : Session) : Prop where
  drawn : s.tabsDrawn ≤ s'.tabsDrawn
  tabs : s'.store.tabs.tabs.Sublist s.store.tabs.tabs

namespace FewerTabs
variable {s s' s'' : Session}

theorem refl (s : Session) : FewerTabs s s := ⟨Nat.le_refl _, List.Sublist.refl _⟩

theorem trans (h : FewerTabs s s') (h' : FewerTabs s' s'') : FewerTabs s s'' :=
  ⟨Nat.le_trans h.drawn h'.drawn, h'.tabs.trans h.tabs⟩

theorem of_sameFrame (h : SameFrame s s') : FewerTabs s s' where
  drawn := Nat.le_of_eq h.tabsDrawn.symm
  tabs := by rw [h.tabs]

theorem mapConnections (s : Session) (g : Connections → Connections) :
    FewerTabs s (s.mapConnections g) :=
  ⟨Nat.le_refl _, List.Sublist.refl _⟩

end FewerTabs

/-- some tabs go, or one comes, under this name if it is given one -/
inductive Retabs (name : Option String) (s s' : Session) : Prop where
  | fewer (h : FewerTabs s s')
  | one (w : WorksheetId) (drawn : s'.tabsDrawn = s.tabsDrawn + 1)
    (tabs : s'.store.tabs.tabs = s.store.tabs.tabs ++
      [⟨⟨s.tabsDrawn + 1⟩, w, name.getD (Session.defaultName (s.store.tabs.nextCount w)),
        s.store.tabs.nextCount w⟩])

theorem Tabs.sublist_removeWorksheet (t : Tabs) (w : WorksheetId) :
    (t.removeWorksheet w).tabs.Sublist t.tabs := by
  unfold Tabs.removeWorksheet
  split
  · exact List.Sublist.refl _
  · exact t.sublist_foldl_removeTab _

namespace Session

theorem fewerTabs_dropTab (s : Session) (tab : TabId) : FewerTabs s (s.dropTab tab) :=
  ⟨Nat.le_refl _, s.store.tabs.sublist_removeTab tab⟩

theorem fewerTabs_removeWorksheet (s : Session) (w : WorksheetId) :
    FewerTabs s (s.mapTabs (·.removeWorksheet w)) :=
  ⟨Nat.le_refl _, s.store.tabs.sublist_removeWorksheet w⟩

theorem fewerTabs_closeTabs (s : Session) (w : WorksheetId) (tabs : List TabId) :
    FewerTabs s (s.closeTabs w tabs).1 := by
  induction tabs generalizing s with
  | nil =>
    unfold closeTabs closeEmpty
    split
    · exact .refl s
    · exact s.fewerTabs_removeWorksheet w
  | cons tab rest ih =>
    unfold closeTabs
    split
    · exact .refl s
    · split
      · exact s.fewerTabs_dropTab tab
      · exact (s.fewerTabs_dropTab tab).trans (ih _)

theorem fewerTabs_deleteTab (s : Session) (tab : TabId) : FewerTabs s (s.deleteTab tab).1 := by
  unfold deleteTab
  split
  · exact .refl s
  · split <;> exact s.fewerTabs_dropTab tab

theorem fewerTabs_beginOpen (s : Session) (w : WorksheetId) (params : ConnectionParams)
    (next : AfterOpen) : FewerTabs s (s.beginOpen w params next).1 := by
  unfold beginOpen
  split <;> exact .refl s

theorem fewerTabs_afterClone (s : Session) (tab : TabId) (r : Except ConsoleError Connection)
    (next : AfterClone) : FewerTabs s (s.afterClone tab r next).1 := by
  cases next <;> exact .refl s

theorem fewerTabs_speaks {s : Session} {st : Step} (h : Speaks s st) : FewerTabs s st.1 := by
  cases h with
  | fails e => exact .refl s
  | sends h => exact .of_sameFrame h

theorem fewerTabs_heard {s : Session} {a : Await} {st : Step} (h : Heard s a st) :
    FewerTabs s st.1 := by
  cases h with
  | ends h => exact .of_sameFrame h
  | asks => exact .refl s

/-- a tab comes if its worksheet is there -/
theorem retabs_beginTab (s : Session) (w : WorksheetId) (name : Option String) (next : AfterClone) :
    Retabs name s (s.beginTab w name next).1 := by
  unfold beginTab
  dsimp only
  split
  · exact .fewer ⟨Nat.le_succ _, List.Sublist.refl _⟩
  · split
    · exact .one w rfl rfl
    · cases next with
      | connection => exact .one w rfl rfl
      | tab => exact .one w rfl rfl
      | worksheet v => exact .one w rfl rfl

theorem retabs_afterOpen (s : Session) (w : WorksheetId) (c : Connection) (next : AfterOpen) :
    Retabs none s (s.afterOpen w c next).1 := by
  cases next with
  | connection => exact .fewer (.mapConnections s (·.insert c))
  | firstTab =>
    rcases retabs_beginTab (s.mapConnections (·.insert c)) w none (.worksheet w) with
      ⟨⟨hdrawn, htabs⟩⟩ | ⟨v, hdrawn, htabs⟩
    · exact .fewer ⟨hdrawn, htabs⟩
    · exact .one v hdrawn htabs

theorem retabs_opened (s : Session) (w : WorksheetId) (params : ConnectionParams) (next : AfterOpen)
    (reply : Except ConsoleError ConnectionInfo) :
    Retabs none s (s.opened w params next reply).1 := by
  cases reply with
  | error e => exact .fewer (.refl s)
  | ok info =>
    simp only [opened]
    split
    · exact .fewer (.refl s)
    · exact s.retabs_afterOpen w _ next

theorem fewerTabs_cloned (s : Session) (source : Connection) (tab : TabId) (next : AfterClone)
    (reply : Except ConsoleError ConnectionInfo) :
    FewerTabs s (s.cloned source tab next reply).1 := by
  cases reply with
  | error e => exact s.fewerTabs_afterClone tab _ next
  | ok info =>
    simp only [cloned]
    split
    · exact (FewerTabs.mapConnections s _).trans (fewerTabs_afterClone _ tab _ next)
    · exact .refl s

/-- only what goes on after the opening of a connection may bring a tab, and that has no name of its
own -/
theorem retabs_resume (s : Session) (a : Await) (reply : a.call.Reply) :
    Retabs none s (s.resume a reply).1 := by
  cases a with
  | opening w params next => exact s.retabs_opened w params next reply
  | replacing w old c next =>
    rcases retabs_afterOpen (s.forget old) w c next with ⟨⟨hdrawn, htabs⟩⟩ | ⟨v, hdrawn, htabs⟩
    · exact .fewer ⟨hdrawn, htabs⟩
    · exact .one v hdrawn htabs
  | cloning source tab next => exact .fewer (s.fewerTabs_cloned source tab next reply)
  | discarding clone tab next =>
    exact .fewer ((FewerTabs.mapConnections s _).trans (fewerTabs_afterClone _ tab _ next))
  | deleting c next =>
    cases next with
    | done => exact .fewer (.mapConnections s (·.remove c))
    | close w rest =>
      exact .fewer ((FewerTabs.mapConnections s _).trans (fewerTabs_closeTabs _ w rest))
  | closing w c =>
    exact .fewer ((FewerTabs.mapConnections s _).trans (fewerTabs_removeWorksheet _ w))
  | releasing c => exact .fewer (.mapConnections s (·.remove c))
  | refreshing c => exact .fewer (fewerTabs_heard (s.heard rfl reply))
  | previewing q mode title => exact .fewer (fewerTabs_heard (s.heard rfl reply))
  | querying q => exact .fewer (fewerTabs_heard (s.heard rfl reply))
  | switching q set duration => exact .fewer (fewerTabs_heard (s.heard rfl reply))
  | killing tab via thread target => exact .fewer (fewerTabs_heard (s.heard rfl reply))

end Session

/-- the name that an operation gives to a new tab -/
def Operation.newName? : Operation → Option String
  | .addTab _ name => name
  | _ => none

namespace Session

theorem retabs_begin (s : Session) (o : Operation) : Retabs o.newName? s (o.begin s).1 := by
  cases o with
  | openWorksheet name params =>
    have hdraw : FewerTabs s (s.createWorksheet name).2 := ⟨Nat.le_refl _, List.Sublist.refl _⟩
    exact .fewer (hdraw.trans (fewerTabs_beginOpen _ _ params _))
  | openConnection w params => exact .fewer (s.fewerTabs_beginOpen w params _)
  | closeWorksheet w => exact .fewer (s.fewerTabs_closeTabs w _)
  | addTab w name => exact s.retabs_beginTab w name _
  | deleteTab tab => exact .fewer (s.fewerTabs_deleteTab tab)
  | preview tab target mode => exact .fewer (fewerTabs_speaks (s.speaks_preview tab target mode))
  | query tab sql => exact .fewer (fewerTabs_speaks (s.speaks_query tab sql))
  | stop tab => exact .fewer (fewerTabs_speaks (s.speaks_stop tab))
  | cloneConnection source tab => exact .fewer (.refl s)
  | release c => exact .fewer (.refl s)
  | refreshDatabase c => exact .fewer (.refl s)

end Session

/-! ## what an event does to the tabs -/

/-- a tab as if it were the first one -/
def QueryTab.startAgain (x : QueryTab) : QueryTab := { x with name := Tabs.firstName, count := 1 }

namespace Tabs
variable {α : Type} {p : α → Bool} {f : α → α}

theorem modifyFirst_eq_self {l : List α} (h : ∀ a ∈ l, p a = false) : modifyFirst p f l = l := by
  induction l with
  | nil => rfl
  | cons a l ih =>
    rw [modifyFirst, if_neg (by simp [h a List.mem_cons_self]),
      ih fun b hb => h b (List.mem_cons_of_mem a hb)]

end Tabs

theorem Session.tabsDrawn_refreshLastTab (s : Session) (tab : TabId) :
    ((Deed.refreshLastTab tab).apply s).tabsDrawn = s.tabsDrawn := by
  simp only [Deed.apply, refreshLastTab]
  cases s.store.tabs.tab? tab <;> rfl

theorem Session.tabs_refreshLastTab (s : Session) (tab : TabId) :
    ((Deed.refreshLastTab tab).apply s).store.tabs.tabs =
      Tabs.modifyFirst (·.id = tab) QueryTab.startAgain s.store.tabs.tabs := by
  simp only [Deed.apply, refreshLastTab]
  cases hx : s.store.tabs.tab? tab with
  | none =>
    -- a tab that is gone is not refreshed
    refine (Tabs.modifyFirst_eq_self fun x hmem => ?_).symm
    simpa using List.find?_eq_none.mp hx x hmem
  | some x => rfl

namespace Traffic

/-- the name that an event gives to a new tab -/
def Event.newName? : Event → Option String
  | .begin o => o.newName?
  | _ => none

/-- **What an event does to the tabs**, if it does not refresh one. -/
theorem retabs (t : Traffic) {e : Event} (he : ∀ tab, e ≠ .deed (.refreshLastTab tab)) :
    Retabs e.newName? t.session (t.step e).session := by
  cases t.happens e with
  | begin o =>
    rw [session_begin]
    exact t.session.retabs_begin o
  | @hears _ p reply h =>
    have hnone : e.newName? = none := by cases h <;> rfl
    rw [h.session, hnone]
    exact t.session.retabs_resume p.await reply
  | deed d =>
    cases d with
    | refreshLastTab tab => exact absurd rfl (he tab)
    | _ => exact .fewer ⟨Nat.le_refl _, List.Sublist.refl _⟩
  | idle clock hs =>
    refine .fewer ?_
    rw [hs]
    exact ⟨Nat.le_refl _, List.Sublist.refl _⟩

end Traffic

/-! ## numbers that rise -/

/-- made before, and with the smaller number if both are of one worksheet -/
def QueryTab.Precedes (x y : QueryTab) : Prop :=
  x.id.number < y.id.number ∧ (x.worksheet = y.worksheet → x.count < y.count)

/-- the tabs stand in the order of their making, and so do the numbers of each worksheet -/
structure Session.Counted (s : Session) : Prop where
  drawn : ∀ x ∈ s.store.tabs.tabs, x.id.number ≤ s.tabsDrawn
  positive : ∀ x ∈ s.store.tabs.tabs, 1 ≤ x.count
  rising : s.store.tabs.tabs.Pairwise QueryTab.Precedes

/-- a tab that is refreshed is then the only one of its worksheet -/
def Session.RefreshesLast (s : Session) : Traffic.Event → Prop
  | .deed (.refreshLastTab tab) =>
    ∀ x ∈ s.store.tabs.tabs, x.id = tab → s.store.tabs.tabsOf x.worksheet = [x]
  | _ => True

instance (s : Session) (e : Traffic.Event) : Decidable (s.RefreshesLast e) := by
  unfold Session.RefreshesLast
  split <;> infer_instance

namespace Session.Counted
variable {s s' : Session}

theorem nodup_ids (h : s.Counted) : (s.store.tabs.tabs.map QueryTab.id).Nodup := by
  refine List.pairwise_map.mpr (h.rising.imp fun hlt heq => ?_)
  exact Nat.lt_irrefl _ (heq ▸ hlt.1)

theorem fewer (h : s.Counted) (hs : FewerTabs s s') : s'.Counted where
  drawn := fun x hx => Nat.le_trans (h.drawn x (hs.tabs.subset hx)) hs.drawn
  positive := fun x hx => h.positive x (hs.tabs.subset hx)
  rising := h.rising.sublist hs.tabs

theorem retabs (h : s.Counted) (hb : s.store.tabs.BelowLast) {name : Option String}
    (hs : Retabs name s s') : s'.Counted := by
  cases hs with
  | fewer hs => exact h.fewer hs
  | one w hdrawn htabs =>
    refine ⟨?_, ?_, ?_⟩
    · intro x hx
      rw [htabs] at hx
      rcases List.mem_append.mp hx with hx | hx
      · have := h.drawn x hx
        omega
      · rw [List.mem_singleton.mp hx, hdrawn]
    · intro x hx
      rw [htabs] at hx
      rcases List.mem_append.mp hx with hx | hx
      · exact h.positive x hx
      · rw [List.mem_singleton.mp hx]
        exact Tabs.one_le_nextCount hb
    · rw [htabs, List.pairwise_append]
      refine ⟨h.rising, List.pairwise_singleton .., fun x hx y hy => ?_⟩
      rw [List.mem_singleton.mp hy]
      refine ⟨Nat.lt_succ_of_le (h.drawn x hx), fun hw => ?_⟩
      exact Tabs.lt_nextCount hb (Tabs.mem_tabsOf.mpr ⟨hx, hw⟩)

/-- the last tab of its worksheet has no other to be compared with -/
theorem refreshLastTab (h : s.Counted) {tab : TabId}
    (hlast : s.RefreshesLast (.deed (.refreshLastTab tab))) :
    ((Deed.refreshLastTab tab).apply s).Counted := by
  have htabs := (s.tabs_refreshLastTab tab).trans (Tabs.modifyFirst_eq_map QueryTab.id h.nodup_ids)
  have halone : ∀ x ∈ s.store.tabs.tabs, ∀ y ∈ s.store.tabs.tabs, x.id = tab →
      x.worksheet = y.worksheet → y.id = tab := by
    intro x hx y hy hid hw
    have hmem : y ∈ s.store.tabs.tabsOf x.worksheet := Tabs.mem_tabsOf.mpr ⟨hy, hw.symm⟩
    rw [hlast x hx hid] at hmem
    rw [List.mem_singleton.mp hmem, hid]
  refine ⟨?_, ?_, ?_⟩
  · intro x hx
    rw [htabs] at hx
    obtain ⟨y, hy, rfl⟩ := List.mem_map.mp hx
    rw [s.tabsDrawn_refreshLastTab tab]
    split <;> exact h.drawn y hy
  · intro x hx
    rw [htabs] at hx
    obtain ⟨y, hy, rfl⟩ := List.mem_map.mp hx
    split
    · exact UInt32.le_refl 1
    · exact h.positive y hy
  · rw [htabs, List.pairwise_map]
    refine h.rising.imp_of_mem fun {x y} hx hy hxy => ?_
    have hne : x.id ≠ y.id := fun he => Nat.lt_irrefl _ (he ▸ hxy.1)
    by_cases hxid : x.id = tab
    · rw [if_pos hxid, if_neg fun hyid => hne (hxid.trans hyid.symm)]
      refine ⟨hxy.1, fun hw => absurd ?_ hne⟩
      exact hxid.trans (halone x hx y hy hxid hw).symm
    · rw [if_neg hxid]
      by_cases hyid : y.id = tab
      · rw [if_pos hyid]
        refine ⟨hxy.1, fun hw => absurd ?_ hxid⟩
        exact halone y hy x hx hyid hw.symm
      · rw [if_neg hyid]
        exact hxy

end Session.Counted

/-! ## the names of tabs -/

namespace Session

theorem defaultName_inj {m n : UInt32} (h : defaultName m = defaultName n) : m = n :=
  UInt32.toNat_inj.mp (eq_of_toString_eq ((String.append_right_inj _).mp h))

theorem firstName_eq : Tabs.firstName = defaultName 1 := by decide +kernel

end Session

namespace Traffic

/-- the name that a tab was given when it was added; a refresh takes it away -/
def givenName? (u : Setup) (tab : TabId) : List Event → Option String
  | [] => none
  | e :: run =>
    match e with
    | .deed (.refreshLastTab other) => if other = tab then none else givenName? u tab run
    | e =>
      if tab ∈ (after u (e :: run)).session.store.tabs.tabIds ∧
          tab ∉ (after u run).session.store.tabs.tabIds then e.newName?
      else givenName? u tab run

/-- tabs are called by the names that they were given, the others by their numbers -/
structure Named (u : Setup) (run : List Event) : Prop where
  undrawn : ∀ tab : TabId, (after u run).session.tabsDrawn < tab.number →
    givenName? u tab run = none
  names : ∀ x ∈ (after u run).session.store.tabs.tabs,
    x.name = (givenName? u x.id run).getD (Session.defaultName x.count)

section
variable {u : Setup} {run : List Event} {e : Event} {tab : TabId}

theorem givenName?_cons (he : ∀ tab, e ≠ .deed (.refreshLastTab tab)) :
    givenName? u tab (e :: run) =
      if tab ∈ (after u (e :: run)).session.store.tabs.tabIds ∧
          tab ∉ (after u run).session.store.tabs.tabIds then e.newName?
      else givenName? u tab run := by
  rw [givenName?]
  exact he

/-- an event that does not bring the tab does not name it -/
theorem givenName?_of_old (he : ∀ tab, e ≠ .deed (.refreshLastTab tab))
    (h : tab ∈ (after u (e :: run)).session.store.tabs.tabIds →
      tab ∈ (after u run).session.store.tabs.tabIds) :
    givenName? u tab (e :: run) = givenName? u tab run := by
  rw [givenName?_cons he]
  exact if_neg fun hnew => hnew.2 (h hnew.1)

theorem Session.Counted.not_mem_tabIds {s : Session} (h : s.Counted) {tab : TabId}
    (htab : s.tabsDrawn < tab.number) : tab ∉ s.store.tabs.tabIds := by
  intro hmem
  obtain ⟨x, hx, rfl⟩ := List.mem_map.mp hmem
  exact Nat.not_lt_of_le (h.drawn x hx) htab

theorem Named.fewer (h : Named u run) (he : ∀ tab, e ≠ .deed (.refreshLastTab tab))
    (hs : FewerTabs (after u run).session (after u (e :: run)).session) : Named u (e :: run) := by
  have hsame : ∀ tab, givenName? u tab (e :: run) = givenName? u tab run := fun tab =>
    givenName?_of_old he fun hmem => (hs.tabs.map QueryTab.id).subset hmem
  refine ⟨fun tab htab => ?_, fun x hx => ?_⟩
  · rw [hsame]
    exact h.undrawn tab (Nat.lt_of_le_of_lt hs.drawn htab)
  · rw [hsame]
    exact h.names x (hs.tabs.subset hx)

theorem Named.retabs (h : Named u run) (hc : (after u run).session.Counted)
    (he : ∀ tab, e ≠ .deed (.refreshLastTab tab)) : Named u (e :: run) := by
  rcases (after u run).retabs he with hs | ⟨w, hdrawn, htabs⟩
  · exact h.fewer he hs
  · rw [← after_cons] at hdrawn htabs
    have hids : (after u (e :: run)).session.store.tabs.tabIds =
        (after u run).session.store.tabs.tabIds ++ [⟨(after u run).session.tabsDrawn + 1⟩] := by
      rw [Tabs.tabIds, htabs, List.map_append]
      rfl
    refine ⟨fun tab htab => ?_, fun x hx => ?_⟩
    · rw [hdrawn] at htab
      rw [givenName?_of_old he fun hmem => ?_]
      · exact h.undrawn tab (Nat.lt_of_succ_lt htab)
      · rw [hids] at hmem
        rcases List.mem_append.mp hmem with hmem | hmem
        · exact hmem
        · rw [List.mem_singleton.mp hmem] at htab
          exact absurd htab (Nat.lt_irrefl _)
    · rw [htabs] at hx
      rcases List.mem_append.mp hx with hx | hx
      · rw [givenName?_of_old he fun _ => List.mem_map_of_mem hx]
        exact h.names x hx
      · rw [List.mem_singleton.mp hx, givenName?_cons he, if_pos]
        refine ⟨?_, Session.Counted.not_mem_tabIds hc (Nat.lt_succ_self _)⟩
        rw [hids]
        exact List.mem_append_right _ List.mem_cons_self

theorem Named.refreshLastTab (h : Named u run) (hc : (after u run).session.Counted) (tab : TabId) :
    Named u (.deed (.refreshLastTab tab) :: run) := by
  have hgiven : ∀ other, givenName? u other (.deed (.refreshLastTab tab) :: run) =
      if tab = other then none else givenName? u other run := fun _ => rfl
  refine ⟨fun other hother => ?_, fun x hx => ?_⟩
  · have hdrawn := ((after u run).session.tabsDrawn_refreshLastTab tab)
    rw [hgiven]
    split
    · rfl
    · exact h.undrawn other (hdrawn ▸ hother)
  · have htabs := ((after u run).session.tabs_refreshLastTab tab).trans
      (Tabs.modifyFirst_eq_map QueryTab.id hc.nodup_ids)
    obtain ⟨y, hy, rfl⟩ := List.mem_map.mp (htabs ▸ hx)
    rw [hgiven]
    by_cases hid : y.id = tab
    · have hagain : y.startAgain.id = tab := hid
      rw [if_pos hid, if_pos hagain.symm]
      exact Session.firstName_eq
    · rw [if_neg hid, if_neg fun he => hid he.symm]
      exact h.names y hy

end

theorem counted_and_named {u : Setup} {run : List Event}
    (hlast : (fresh u).Throughout (fun t => t.session.RefreshesLast) run)
    (hbelow : ∀ early, early <:+ run → (after u early).session.store.tabs.BelowLast) :
    (after u run).session.Counted ∧ Named u run := by
  induction run with
  | nil =>
    refine ⟨⟨?_, ?_, List.Pairwise.nil⟩, ⟨fun _ _ => rfl, ?_⟩⟩ <;> intro x hx <;> cases hx
  | cons e run ih =>
    obtain ⟨hc, hn⟩ := ih hlast.2 fun early h => hbelow early (h.trans (List.suffix_cons e run))
    by_cases he : ∀ tab, e ≠ .deed (.refreshLastTab tab)
    · exact ⟨hc.retabs (hbelow run (List.suffix_cons e run)) ((after u run).retabs he),
        hn.retabs hc he⟩
    · obtain ⟨tab, rfl⟩ : ∃ tab, e = .deed (.refreshLastTab tab) := by simpa using he
      exact ⟨hc.refreshLastTab hlast.1, hn.refreshLastTab hc tab⟩

/-- what is claimed of the tabs of a worksheet -/
structure ToldApart (u : Setup) (run : List Event) (w : WorksheetId) : Prop where
  positive : ∀ x ∈ (after u run).session.store.tabs.tabsOf w, 1 ≤ x.count
  /-- in the order of their making, which is that of their identities -/
  rising : ((after u run).session.store.tabs.tabsOf w).Pairwise fun x y =>
    x.id.number < y.id.number ∧ x.count < y.count
  next : ∀ x ∈ (after u run).session.store.tabs.tabsOf w,
    x.count < (after u run).session.store.tabs.nextCount w
  names : ∀ x ∈ (after u run).session.store.tabs.tabsOf w,
    x.name = (givenName? u x.id run).getD (Session.defaultName x.count)
  /-- two tabs that were not given a name are not called the same -/
  apart : ∀ x ∈ (after u run).session.store.tabs.tabsOf w,
    ∀ y ∈ (after u run).session.store.tabs.tabsOf w, x ≠ y →
      givenName? u x.id run = none → givenName? u y.id run = none → x.name ≠ y.name

/-- **The tabs of a worksheet are told apart**, by their numbers and by the names that come from
these, after every run that refreshes only last tabs, as long as no number is the largest. -/
theorem tabs_told_apart (u : Setup) (run : List Event)
    (hlast : (fresh u).Throughout (fun t => t.session.RefreshesLast) run)
    (hbelow : ∀ early, early <:+ run → (after u early).session.store.tabs.BelowLast)
    (w : WorksheetId) : ToldApart u run w := by
  obtain ⟨hc, hn⟩ := counted_and_named hlast hbelow
  have hrising : ((after u run).session.store.tabs.tabsOf w).Pairwise fun x y =>
      x.id.number < y.id.number ∧ x.count < y.count := by
    refine (hc.rising.filter _).imp_of_mem fun hx hy hxy => ⟨hxy.1, hxy.2 ?_⟩
    exact (Tabs.mem_tabsOf.mp hx).2.trans (Tabs.mem_tabsOf.mp hy).2.symm
  refine ⟨fun x hx => hc.positive x (Tabs.mem_tabsOf.mp hx).1, hrising,
    fun x hx => Tabs.lt_nextCount (hbelow run (List.suffix_refl run)) hx,
    fun x hx => hn.names x (Tabs.mem_tabsOf.mp hx).1, ?_⟩
  intro x hx y hy hne hgx hgy hname
  rw [hn.names x (Tabs.mem_tabsOf.mp hx).1, hn.names y (Tabs.mem_tabsOf.mp hy).1, hgx, hgy] at hname
  have hcounts : (((after u run).session.store.tabs.tabsOf w).map QueryTab.count).Nodup :=
    List.pairwise_map.mpr (hrising.imp fun hxy => UInt32.ne_of_lt hxy.2)
  exact hne (List.inj_on_of_nodup_map hcounts hx hy (Session.defaultName_inj hname))

/-- one tab waits for its connection while a second one comes and goes and a third one comes; the
last tab of another worksheet starts again -/
theorem tabs_told_apart_while_cloning :
    let u : Setup := ⟨100, 10, 0⟩
    let run : List Event :=
      [.deed (.refreshLastTab ⟨5⟩), .begin (.addTab ⟨2⟩ (some "Reports")),
        .deed (.createWorksheet "v"), .begin (.addTab ⟨1⟩ none), .begin (.deleteTab ⟨3⟩),
        .begin (.addTab ⟨1⟩ (some "Reports")), .begin (.addTab ⟨1⟩ none), .answer 0, .answer 0,
        .begin (.openWorksheet "w" (.fresh "server" "user"))]
    (fresh u).Throughout (fun t => t.session.RefreshesLast) run ∧
      (∀ early, early <:+ run → (after u early).session.store.tabs.BelowLast) ∧
      (after u run).awaits.length = 3 ∧ ToldApart u run ⟨1⟩ := by
  intro u run
  have hlast : (fresh u).Throughout (fun t => t.session.RefreshesLast) run := by decide +kernel
  have htails : ∀ early ∈ run.tails, (after u early).session.store.tabs.BelowLast := by
    decide +kernel
  have hbelow : ∀ early, early <:+ run → (after u early).session.store.tabs.BelowLast :=
    fun early h => htails early ((List.mem_tails ..).mpr h)
  have hout : (after u run).awaits.length = 3 := by decide +kernel
  exact ⟨hlast, hbelow, hout, tabs_told_apart u run hlast hbelow ⟨1⟩⟩

end Traffic

end QueryDesk
