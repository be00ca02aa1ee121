import QueryDesk.Proofs.Dialogue
import QueryDesk.Proofs.WorksheetConnection

/-!
# Connections that take the place of others

A tab or a worksheet that gets another connection loses the one that it had.

* `Session.Displaces s id a reply`   with the reply another connection takes the place of `id`, and
  `id` is not given back with it;
* `Traced s a reply id`              with the reply `id` is linked, given back or displaced;
* `Dialogue.Displaced u run id`      it was displaced in the run.

**`Dialogue.none_lost_iff`**: once every call is answered, each connection that the server has
handed out is on record or was given back if and only if each that was displaced was given back.
-/

namespace QueryDesk

/-! ## stretches -/

/-- another connection takes the place of this one on record: a copy comes for a tab that has it, or
a worksheet has got it while the one before was given back -/
def Session.Displaces (s : Session) (id : ConnectionId) : (a : Await) → a.call.Reply → Prop
  | .cloning _ tab _, .ok info =>
    tab ∈ s.store.tabs.tabIds ∧ (.tab tab, id) ∈ s.links ∧ (info : ConnectionInfo).id ≠ id
  | .replacing _ old c _, _ => (c.binding, id) ∈ s.links ∧ old ≠ id ∧ c.id ≠ id
  | _, _ => False

namespace Session
variable {s : Session} {id : ConnectionId} {l : Binding × ConnectionId} {a : Await}
  {reply : a.call.Reply}

theorem afterClone_fst (s : Session) (tab : TabId) (r : Except ConsoleError Connection)
    (next : AfterClone) : (s.afterClone tab r next).1 = s := by
  cases next <;> rfl

theorem links_beginTab (s : Session) (w : WorksheetId) (name : Option String)
    (next : AfterClone) : (s.beginTab w name next).1.links = s.links := by
  unfold beginTab
  dsimp only
  split
  · rfl
  · split
    · rfl
    · rw [afterClone_fst]
      rfl

theorem links_afterOpen (s : Session) (w : WorksheetId) (c : Connection) (next : AfterOpen) :
    (s.afterOpen w c next).1.links = (s.store.connections.insert c).links := by
  cases next with
  | connection => rfl
  | firstTab => exact links_beginTab ..

theorem links_cloned (s : Session) {tab : TabId} (h : tab ∈ s.store.tabs.tabIds)
    (source : Connection) (next : AfterClone) (info : ConnectionInfo) :
    (s.resume (.cloning source tab next) (.ok info)).1.links =
      (s.store.connections.insert (.ofInfo info source.name source.db (.tab tab))).links := by
  obtain ⟨x, hx⟩ := Tabs.exists_tab? h
  simp only [resume, cloned, hx]
  exact congrArg links (afterClone_fst ..)

theorem links_of_statement (s : Session) (h : a.call.isStatement = true) (reply : a.call.Reply) :
    (s.resume a reply).1.links = s.links := by
  have hst := s.heard h reply
  generalize s.resume a reply = st at hst
  cases hst with
  | ends hf => exact hf.links
  | asks _ => rfl

theorem links_of_forgets (s : Session) (h : a.forgets? = some id) (reply : a.call.Reply) :
    (s.resume a reply).1.links = (s.store.connections.remove id).links := by
  cases a with
  | discarding clone tab next =>
    cases h
    exact congrArg links (afterClone_fst ..)
  | deleting c next =>
    cases h
    cases next with
    | done => rfl
    | close w rest => exact ((s.forget id).closes_closeTabs w rest).links.1
  | closing w c =>
    cases h
    rfl
  | releasing c =>
    cases h
    rfl
  | _ => cases h

end Session

/-- what has become of a connection with the reply -/
inductive Traced (s : Session) (a : Await) (reply : a.call.Reply) (id : ConnectionId) : Prop where
  | linked (h : id ∈ (s.resume a reply).linked.map (·.2))
  | givenBack (h : a.call.released? = some id)
  | displaced (h : s.Displaces id a reply)

namespace Traced
variable {s : Session} {l : Binding × ConnectionId} {a : Await} {reply : a.call.Reply}
  {cs : Connections} {id : ConnectionId}

theorem recorded (hl : (s.resume a reply).1.links = cs.links) (hid : id ∈ cs.ids) :
    Traced s a reply id := by
  refine .linked ?_
  unfold Session.Step.linked
  rw [hl, List.map_append]
  exact List.mem_append_left _ hid

theorem kept (hl : (s.resume a reply).1.links = s.links) (h : l ∈ s.links) :
    Traced s a reply l.2 :=
  recorded hl (Connections.mem_ids h)

theorem inserted {c : Connection} (hl : (s.resume a reply).1.links = (cs.insert c).links) :
    Traced s a reply c.id :=
  recorded hl (Connections.mem_ids (cs.mem_links_insert_self c))

/-- another connection is inserted -/
theorem beside {c : Connection} (hl : (s.resume a reply).1.links = (cs.insert c).links)
    (h : l ∈ cs.links) (hd : l.1 = c.binding → c.id ≠ l.2 → Traced s a reply l.2) :
    Traced s a reply l.2 := by
  by_cases hid : l.2 = c.id
  · exact hid ▸ inserted hl
  · by_cases hb : l.1 = c.binding
    · exact hd hb (Ne.symm hid)
    · exact recorded hl (Connections.mem_ids (Connections.mem_links_insert_of_ne h hb hid))

theorem forgotten {c : ConnectionId} (hc : a.forgets? = some c) (h : l ∈ s.links) :
    Traced s a reply l.2 := by
  by_cases hid : l.2 = c
  · refine .givenBack ?_
    rw [hid]
    cases a <;> first | exact hc | cases hc
  · exact recorded (s.links_of_forgets hc reply)
      (Connections.mem_ids_remove.mpr ⟨Connections.mem_ids h, hid⟩)

theorem opened {w : WorksheetId} {params : ConnectionParams} {next : AfterOpen}
    {info : ConnectionInfo} (h : l ∈ s.links ∨ l = (.worksheet w, info.id)) :
    Traced s (.opening w params next) (.ok info) l.2 := by
  let c : Connection := .ofInfo info params.target params.db (.worksheet w)
  cases hold : s.store.connections.ofWorksheet? w with
  | some old =>
    have hst : s.resume (.opening w params next) (.ok info) =
        (s, .waits (.replacing w old.id c next)) := by
      simp only [Session.resume, Session.opened, hold]
      rfl
    refine .linked (List.mem_map_of_mem ?_)
    rw [hst]
    exact List.mem_append.mpr (h.imp_right List.mem_singleton.mpr)
  | none =>
    have hst : s.resume (.opening w params next) (.ok info) = s.afterOpen w c next := by
      simp only [Session.resume, Session.opened, hold]
      rfl
    have hl := s.links_afterOpen w c next
    rw [← hst] at hl
    rcases h with h | rfl
    · -- nobody had a connection for the worksheet
      refine beside hl h fun hb => ?_
      have hb : l.1 = .worksheet w := hb
      exact absurd (hb ▸ Connections.mem_bindings h) (Connections.bound?_eq_none.mp hold)
    · exact inserted hl

theorem cloned {source : Connection} {tab : TabId} {next : AfterClone} {info : ConnectionInfo}
    (h : l ∈ s.links ∨ l = (.tab tab, info.id)) :
    Traced s (.cloning source tab next) (.ok info) l.2 := by
  cases hx : s.store.tabs.tab? tab with
  | some x =>
    have hl := s.links_cloned (Tabs.mem_tabIds hx) source next info
    rcases h with h | rfl
    · refine beside hl h fun hb hne => .displaced ⟨Tabs.mem_tabIds hx, ?_, hne⟩
      have hb : l.1 = .tab tab := hb
      exact hb ▸ h
    · exact inserted hl
  | none =>
    have hst : s.resume (.cloning source tab next) (.ok info) =
        (s, .waits (.discarding info.id tab next)) := by
      simp only [Session.resume, Session.cloned, hx]
      rfl
    refine .linked (List.mem_map_of_mem ?_)
    rw [hst]
    exact List.mem_append.mpr (h.imp_right List.mem_singleton.mpr)

theorem replaced {w : WorksheetId} {old : ConnectionId} {c : Connection} {next : AfterOpen}
    {reply : (Await.replacing w old c next).call.Reply}
    (h : l ∈ s.links ∨ l = (c.binding, c.id)) : Traced s (.replacing w old c next) reply l.2 := by
  have hl := (s.forget old).links_afterOpen w c next
  rcases h with h | rfl
  · by_cases ho : old = l.2
    · exact .givenBack (congrArg some ho)
    · have hrest := Connections.mem_links_remove.mpr ⟨h, Ne.symm ho⟩
      exact beside hl hrest fun hb hne => .displaced ⟨hb ▸ h, ho, hne⟩
  · exact inserted hl

end Traced

/-- **What is on record or on its way there, and what the reply brings, is so afterwards, was given
back or is displaced.** -/
theorem Session.traced (s : Session) {a : Await} {reply : a.call.Reply}
    {l : Binding × ConnectionId} (h : l ∈ s.links ∨ l ∈ a.claims ∨ a.gains? reply = some l) :
    Traced s a reply l.2 := by
  cases a with
  | opening w params next =>
    cases reply with
    | error e => exact .kept rfl (h.resolve_right nofun)
    | ok info => exact .opened (h.imp_right fun h => by cases h.resolve_left nofun; rfl)
  | replacing w old c next =>
    refine .replaced (h.imp_right fun h => ?_)
    exact List.mem_singleton.mp (h.resolve_right nofun)
  | cloning source tab next =>
    cases reply with
    | error e =>
      exact .kept (congrArg links (afterClone_fst ..)) (h.resolve_right nofun)
    | ok info => exact .cloned (h.imp_right fun h => by cases h.resolve_left nofun; rfl)
  | discarding clone tab next =>
    rcases h with h | h | h
    · exact .forgotten rfl h
    · cases List.mem_singleton.mp h
      exact .givenBack rfl
    · cases h
  | deleting c next => exact .forgotten rfl (h.resolve_right nofun)
  | closing w c => exact .forgotten rfl (h.resolve_right nofun)
  | releasing c => exact .forgotten rfl (h.resolve_right nofun)
  | _ => exact .kept (s.links_of_statement rfl reply) (h.resolve_right nofun)

theorem Connections.not_mem_links_insert (cs : Connections) {c : Connection} {id : ConnectionId}
    (h : c.id ≠ id) : (c.binding, id) ∉ (cs.insert c).links := by
  rw [links_insert]
  simp [Ne.symm h]

/-- a connection that is displaced was on record, and has gone -/
theorem Session.Displaces.gone {s : Session} {id : ConnectionId} {a : Await}
    {reply : a.call.Reply} (h : s.Displaces id a reply) : ∃ b, (b, id) ∈ s.links ∧
      (b, id) ∉ (s.resume a reply).1.links ∧ ∀ l, a.gains? reply = some l → l.2 ≠ id := by
  cases a with
  | cloning source tab next =>
    cases reply with
    | error e => cases h
    | ok info =>
      obtain ⟨ht, hl, hne⟩ := h
      let c : Connection := .ofInfo info source.name source.db (.tab tab)
      have hlinks := s.links_cloned ht source next info
      have hgone : (.tab tab, id) ∉ (s.store.connections.insert c).links :=
        Connections.not_mem_links_insert _ hne
      refine ⟨.tab tab, hl, fun hmem => hgone (hlinks ▸ hmem), fun l hg => ?_⟩
      cases hg
      exact hne
  | replacing w old c next =>
    obtain ⟨hl, -, hne⟩ := h
    refine ⟨c.binding, hl, ?_, nofun⟩
    show _ ∉ ((s.forget old).afterOpen w c next).1.links
    rw [links_afterOpen]
    exact Connections.not_mem_links_insert _ hne
  | _ => cases h

theorem Session.links_begin (s : Session) (o : Operation) : (o.begin s).1.links = s.links := by
  have h := s.moves_begin o
  generalize o.begin s = st at h
  cases h with
  | turns _ _ hr ht _ =>
    cases hr with
    | same _ => exact ht.links
  | deletes _ _ => rfl
  | closes hk h =>
    cases hk with
    | first => exact h.links.1

namespace Dialogue
variable {x : Dialogue} {u : Setup} {run early : List Event} {e : Event} {id : ConnectionId}
  {l : Binding × ConnectionId}

/-! ## events -/

/-- in the event another connection takes the place of this one -/
inductive Displaces (x : Dialogue) (id : ConnectionId) : Event → Prop where
  | answer {i server a} (hi : x.awaits[i]? = some a)
    (h : x.session.Displaces id a (server a.call)) : x.Displaces id (.answer i server)

/-- so it was in an event of the run -/
def Displaced (u : Setup) (run : List Event) (id : ConnectionId) : Prop :=
  ∃ e early, e :: early <:+ run ∧ (after u early).Displaces id e

/-- no call is forgotten -/
theorem calls_subset_step (x : Dialogue) (e : Event) : x.calls ⊆ (x.step e).calls := by
  cases e with
  | begin o =>
    show _ ⊆ x.answered.map (·.call) ++ (x.awaits ++ (o.begin x.session).2.awaits).map (·.call)
    rw [List.map_append, ← List.append_assoc]
    exact List.subset_append_left _ _
  | answer i server =>
    cases hi : x.awaits[i]? with
    | none =>
      rw [step_answer_none hi]
      exact List.Subset.refl _
    | some a =>
      intro c hc
      rw [step_answer hi]
      unfold calls goOn hear
      -- the call that was out is now an answered one
      have hout := ((perm_eraseIdx hi).map (·.call)).mem_iff (a := c)
      simp only [calls, List.map_append, List.map_cons, List.mem_append, List.mem_cons] at hc hout ⊢
      rw [← hout] at hc
      tauto
  | _ => exact List.Subset.refl _

theorem givenBack_step (x : Dialogue) (e : Event) : x.givenBack ⊆ (x.step e).givenBack :=
  List.filterMap_subset _ (x.calls_subset_step e)

/-- nothing is done to the links -/
theorem linked_of_kept {x' : Dialogue} (hs : x'.session.links = x.session.links)
    (ha : x.awaits ⊆ x'.awaits) : x.linked ⊆ x'.linked := by
  intro l h
  unfold linked
  rw [hs]
  rcases List.mem_append.mp h with h | h
  · exact List.mem_append_left _ h
  · obtain ⟨b, hb, hl⟩ := List.mem_flatMap.mp h
    exact List.mem_append_right _ (List.mem_flatMap.mpr ⟨b, ha hb, hl⟩)

theorem traced_answer {i : Nat} {a : Await} {server : (c : Call) → c.Reply}
    (hi : x.awaits[i]? = some a) (h : l ∈ x.linked ∨ a.gains? (server a.call) = some l) :
    l.2 ∈ (x.step (.answer i server)).linked.map (·.2) ∨
      l.2 ∈ (x.step (.answer i server)).givenBack ∨ x.Displaces l.2 (.answer i server) := by
  have hlinked := (@linked_answer_perm x i a server hi).symm
  -- another operation has a claim to it, or the one that goes on has to do with it
  have hcases : l ∈ (x.awaits.eraseIdx i).flatMap Await.claims ∨
      (l ∈ x.session.links ∨ l ∈ a.claims ∨ a.gains? (server a.call) = some l) := by
    rcases h with h | h
    · have h := (linked_perm hi).subset h
      simp only [List.mem_append] at h
      tauto
    · exact .inr (.inr (.inr h))
  rcases hcases with h | h
  · exact .inl (List.mem_map_of_mem (hlinked.subset (List.mem_append_right _ h)))
  · cases x.session.traced h with
    | linked h =>
      obtain ⟨l', hl', hid⟩ := List.mem_map.mp h
      refine .inl (hid ▸ List.mem_map_of_mem ?_)
      exact hlinked.subset (List.mem_append_left _ hl')
    | givenBack h =>
      refine .inr (.inl (List.mem_filterMap.mpr ⟨a.call, ?_, h⟩))
      rw [step_answer hi]
      exact List.mem_append_left _ (by simp [goOn, hear])
    | displaced h => exact .inr (.inr (.answer hi h))

/-- a connection that is linked, or that the event brings, is linked after the event, given back or
displaced -/
theorem traced_step (x : Dialogue) (e : Event) (h : l ∈ x.linked ∨ x.gains e = some l) :
    l.2 ∈ (x.step e).linked.map (·.2) ∨ l.2 ∈ (x.step e).givenBack ∨ x.Displaces l.2 e := by
  have kept : (x.step e).session.links = x.session.links → x.awaits ⊆ (x.step e).awaits →
      l ∈ x.linked → l.2 ∈ (x.step e).linked.map (·.2) := fun hs ha h =>
    List.mem_map_of_mem (linked_of_kept hs ha h)
  have hnone : none ≠ some l := (Option.some_ne_none l).symm
  cases e with
  | begin o =>
    exact .inl (kept (x.session.links_begin o) (List.subset_append_left _ _)
      (h.resolve_right hnone))
  | answer i server =>
    cases hi : x.awaits[i]? with
    | none =>
      have hgains : x.gains (.answer i server) ≠ some l := by simp [gains, hi]
      rw [step_answer_none hi]
      exact .inl (List.mem_map_of_mem (h.resolve_right hgains))
    | some a =>
      have hgains : x.gains (.answer i server) = a.gains? (server a.call) := by simp [gains, hi]
      exact traced_answer hi (hgains ▸ h)
  | deed d =>
    exact .inl (kept (Traffic.links_deed x.session d) (List.Subset.refl _) (h.resolve_right hnone))
  | pass nanos => exact .inl (kept rfl (List.Subset.refl _) (h.resolve_right hnone))

/-! ## runs -/

theorem traced_after (u : Setup) (run : List Event) : ∀ id ∈ (after u run).handed,
    id ∈ (after u run).linked.map (·.2) ∨ id ∈ (after u run).givenBack ∨ Displaced u run id := by
  induction run with
  | nil => exact nofun
  | cons e run ih =>
    intro id hid
    show id ∈ ((after u run).step e).linked.map (·.2) ∨ id ∈ ((after u run).step e).givenBack ∨ _
    -- what an event does to a connection that was linked, or brought
    have traced : ∀ l, l ∈ (after u run).linked ∨ (after u run).gains e = some l →
        l.2 ∈ ((after u run).step e).linked.map (·.2) ∨ l.2 ∈ ((after u run).step e).givenBack ∨
          Displaced u (e :: run) l.2 := fun l h =>
      ((after u run).traced_step e h).imp_right (·.imp_right fun h =>
        ⟨e, run, List.suffix_refl _, h⟩)
    rw [show (after u (e :: run)).handed = _ from handed_step (after u run) e] at hid
    rcases List.mem_append.mp hid with hid | hid
    · rcases ih id hid with h | h | ⟨e', early, hsuf, h⟩
      · obtain ⟨l, hl, rfl⟩ := List.mem_map.mp h
        exact traced l (.inl hl)
      · exact .inr (.inl ((after u run).givenBack_step e h))
      · exact .inr (.inr ⟨e', early, hsuf.trans (List.suffix_cons e run), h⟩)
    · obtain ⟨l, hl, rfl⟩ := List.mem_map.mp hid
      exact traced l (.inr (Option.mem_toList.mp hl))

/-- a connection that is displaced was linked, and is not any more -/
theorem not_linked_of_displaces (hn : (x.linked.map (·.2)).Nodup) (h : x.Displaces id e) :
    id ∈ x.linked.map (·.2) ∧ id ∉ (x.step e).linked.map (·.2) := by
  cases h with
  | @answer i server a hi h =>
    obtain ⟨b, hl, hgone, hgains⟩ := h.gone
    have hlinked : (b, id) ∈ x.linked := List.mem_append_left _ hl
    refine ⟨List.mem_map_of_mem hlinked, fun hmem => ?_⟩
    obtain ⟨l, hl', hid⟩ := List.mem_map.mp hmem
    have hne : a.gains? (server a.call) ≠ some l := fun hg => hgains l hg hid
    -- it would be the link that has gone
    have hold : l ∈ x.linked := by
      rcases List.mem_append.mp ((linked_answer hi).subset hl') with h | h
      · exact h
      · exact absurd (Option.mem_toList.mp h) hne
    cases List.inj_on_of_nodup_map hn hold hlinked hid
    rcases List.mem_append.mp ((linked_answer_perm hi).subset hl') with h | h
    · rcases List.mem_append.mp h with h | h
      · exact hgone h
      · exact hne ((x.session.moves_resume a (server a.call)).claims h)
    · -- no other operation has a claim to it
      have hn' := ((linked_perm hi).map (·.2)).nodup_iff.mp hn
      rw [List.map_append] at hn'
      exact (List.nodup_append.mp hn').2.2 id (List.mem_map_of_mem hl) id
        (List.mem_map_of_mem (List.mem_append_right _ h)) rfl

/-- **None is lost if and only if each that was displaced was given back.**  Once every call is
answered, every connection that the server has handed out is on record, or its release was accepted
or refused, if and only if this is so of those that lost their place to another. -/
theorem none_lost_iff (u : Setup) (run : List Event) (hrest : (after u run).awaits = [])
    (hnew : (after u run).handed.Nodup) :
    (∀ id ∈ (after u run).handed, id ∈ (after u run).session.store.connections.ids ∨
      id ∈ (after u run).accepted ∨ id ∈ (after u run).refused) ↔
    ∀ id, Displaced u run id → id ∈ (after u run).accepted ∨ id ∈ (after u run).refused := by
  have hlinked : (after u run).linked.map (·.2) = (after u run).session.store.connections.ids := by
    unfold linked
    rw [hrest]
    exact congrArg _ (List.append_nil _)
  constructor
  · rintro hall id ⟨e, early, hsuf, h⟩
    have hearly := (List.suffix_cons e early).trans hsuf
    have hn := linked_nodup ((handed_grows hearly).sublist.nodup hnew)
    obtain ⟨hwas, hgone⟩ := not_linked_of_displaces hn h
    have hid := (linked_subperm u early).subset hwas
    refine (hall id ((handed_grows hearly).subset hid)).resolve_left fun hrec => ?_
    have hid' := (handed_grows (u := u) (List.suffix_cons e early)).subset hid
    exact not_linked_of_suffix hsuf hnew hid' hgone (hlinked ▸ hrec)
  · intro hall id hid
    rcases traced_after u run id hid with h | h | h
    · exact .inl (hlinked ▸ h)
    · exact .inr ((mem_givenBack hrest).mp h)
    · exact .inr (hall id h)

/-- a server that grants what it is asked for, and gives this name to a connection -/
def granting (name : String) : (c : Call) → c.Reply
  | .connect _ | .clone _ => .ok (⟨⟨name⟩, 0, none⟩ : ConnectionInfo)
  | .query .. => .error .cancelled
  | .release _ => .ok ()

/-- a worksheet that gets another connection has its old one given back -/
theorem none_lost_by_reopening :
    let u : Setup := ⟨100, 10, 0⟩
    let run : List Event :=
      [.answer 0 (granting ""), .answer 0 (granting "conn-3"),
        .begin (.openConnection ⟨1⟩ (.fresh "server" "user")), .answer 0 (granting "conn-2"),
        .answer 0 (granting "conn-1"), .begin (.openWorksheet "w" (.fresh "server" "user"))]
    (after u run).awaits = [] ∧ (after u run).handed.Nodup ∧
      (after u run).accepted = [⟨"conn-1"⟩] ∧
      (after u run).session.links = [(.tab ⟨1⟩, ⟨"conn-2"⟩), (.worksheet ⟨1⟩, ⟨"conn-3"⟩)] ∧
      ∀ id, Displaced u run id → id ∈ (after u run).accepted ∨ id ∈ (after u run).refused := by
  intro u run
  have hrest : (after u run).awaits = [] := List.eq_nil_of_length_eq_zero (by decide +kernel)
  have hnew : (after u run).handed.Nodup := by decide +kernel
  have hall : ∀ id ∈ (after u run).handed, id ∈ (after u run).session.store.connections.ids ∨
      id ∈ (after u run).accepted ∨ id ∈ (after u run).refused := by decide +kernel
  exact ⟨hrest, hnew, by decide +kernel, by decide +kernel,
    (none_lost_iff u run hrest hnew).mp hall⟩

/-- **A tab that gets another connection loses the one it had, and so does a worksheet for which two
connections are opened at a time.** -/
theorem lost_by_rebinding :
    let u : Setup := ⟨100, 10, 0⟩
    let opened : List Event :=
      [.answer 0 (granting "conn-2"), .answer 0 (granting "conn-1"),
        .begin (.openWorksheet "w" (.fresh "server" "user"))]
    let source : Connection := ⟨⟨"conn-1"⟩, "server", 0, none, .worksheet ⟨1⟩⟩
    let copied : List Event :=
      .answer 0 (granting "conn-3") :: .begin (.cloneConnection source ⟨1⟩) :: opened
    let reopened : List Event :=
      .answer 0 (granting "") :: .answer 0 (granting "") :: .answer 0 (granting "conn-4") ::
        .answer 0 (granting "conn-3") :: .begin (.openConnection ⟨1⟩ (.fresh "server" "user")) ::
        .begin (.openConnection ⟨1⟩ (.fresh "server" "user")) :: opened
    ((after u copied).awaits = [] ∧
      (after u copied).handed = [⟨"conn-1"⟩, ⟨"conn-2"⟩, ⟨"conn-3"⟩] ∧
      (after u copied).session.links =
        [(.worksheet ⟨1⟩, ⟨"conn-1"⟩), (.tab ⟨1⟩, ⟨"conn-3"⟩)] ∧
      (after u copied).givenBack = []) ∧
    ((after u reopened).awaits = [] ∧
      (after u reopened).handed = [⟨"conn-1"⟩, ⟨"conn-2"⟩, ⟨"conn-3"⟩, ⟨"conn-4"⟩] ∧
      (after u reopened).session.links =
        [(.tab ⟨1⟩, ⟨"conn-2"⟩), (.worksheet ⟨1⟩, ⟨"conn-4"⟩)] ∧
      (after u reopened).givenBack = [⟨"conn-1"⟩, ⟨"conn-1"⟩]) := by
  intro u opened source copied reopened
  have hcopied : (after u copied).awaits = [] := List.eq_nil_of_length_eq_zero (by decide +kernel)
  have hreopened : (after u reopened).awaits = [] :=
    List.eq_nil_of_length_eq_zero (by decide +kernel)
  exact ⟨⟨hcopied, by decide +kernel, by decide +kernel, by decide +kernel⟩,
    hreopened, by decide +kernel, by decide +kernel, by decide +kernel⟩

end Dialogue

end QueryDesk
