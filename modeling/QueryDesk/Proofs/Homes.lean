import QueryDesk.Proofs.Moves

/-!
# A connection serves one binding for good

The server never gives a name twice, and what a connection is to serve is settled when it comes.

* `Step.linked`, `Cause.claims`    the links that a stretch leaves, and those that it found beside
  the ones on record;
* `Session.linked_begin`, `linked_resume`   a stretch makes no link but the one that it is brought;
* `Traffic.linked`, `gains`        the links of all connections, on record or not, and the one that
  an event brings;
* `linked_step`                    an event makes no link but the one that it brings;
* `linked_nodup`                   no connection is linked twice at a time;
* `home_unique`                    in a run a connection is never linked to two bindings.
-/

namespace QueryDesk

/-- the links that a stretch leaves -/
def Session.Step.linked (st : Session.Step) : List (Binding × ConnectionId) :=
  st.1.links ++ st.2.awaits.flatMap Await.claims

def Cause.claims : Cause → List (Binding × ConnectionId)
  | resumes a => a.claims
  | _ => []

/-! ## stretches -/

section
variable {s s₁ : Session} {k : Cause} {l? r? : Option (Binding × ConnectionId)}

theorem Relinks.linked (h : Relinks s k l? r? s₁) :
    (s₁.links ++ r?.toList).Sublist (s.links ++ k.claims ++ l?.toList) := by
  have hleft : ∀ (l : List (Binding × ConnectionId)), s.links.Sublist (s.links ++ l) :=
    List.sublist_append_left s.links
  cases h with
  | same _ => exact (hleft _).append (.refl _)
  | @forgets a id _ =>
    have hrest := s.store.connections.links_remove_sublist id
    exact (hrest.trans (hleft _)).append (.refl _)
  | @opens w params next c hb _ =>
    have hnew := s.store.connections.links_insert_sublist c
    rw [hb] at hnew
    rw [Option.toList_none, List.append_nil]
    exact hnew.trans ((hleft _).append (.refl _))
  | @replaces w old c next =>
    have hnew := (s.store.connections.remove old).links_insert_sublist c
    have hrest := (s.store.connections.links_remove_sublist old).append_right [(c.binding, c.id)]
    exact (hnew.trans hrest).append (.refl [])
  | @clones source tab next c hb _ =>
    have hnew := s.store.connections.links_insert_sublist c
    rw [hb] at hnew
    rw [Option.toList_none, List.append_nil]
    exact hnew.trans ((hleft _).append (.refl _))

theorem claims_of_plain {p : Progress} (hp : ∀ b ∈ p.awaits, b.Plain k r?) :
    (p.awaits.flatMap Await.claims).Sublist r?.toList := by
  cases p with
  | ends r => exact List.nil_sublist _
  | waits a =>
    have ha := (hp a (List.mem_singleton_self a)).claims
    simpa [Progress.awaits] using ha

theorem Closes.links {w : WorksheetId} {tabs : List TabId} {st : Session.Step}
    (h : Closes w tabs s st) : st.1.links = s.links ∧ st.2.awaits.flatMap Await.claims = [] := by
  cases h with
  | fails ht => exact ⟨ht.links, rfl⟩
  | deletes ht _ _ => exact ⟨ht.links, rfl⟩
  | looks ht _ => exact ⟨ht.links, rfl⟩
  | removes ht _ _ => exact ⟨ht.links, rfl⟩

theorem Empties.links_sublist {w : WorksheetId} {tabs : List TabId} (h : Empties s k w tabs s₁) :
    s₁.links.Sublist s.links := by
  cases h with
  | first => exact .refl _
  | next => exact Connections.links_remove_sublist ..

/-- a stretch makes the link that it is brought, and no other -/
theorem Moves.linked {st : Session.Step} (h : Moves s k l? st) :
    st.linked.Sublist (s.links ++ k.claims ++ l?.toList) := by
  have hleft : ∀ {l : List (Binding × ConnectionId)}, l.Sublist s.links →
      (l ++ []).Sublist (s.links ++ k.claims ++ l?.toList) := by
    intro l hl
    rw [List.append_nil, List.append_assoc]
    exact hl.trans (List.sublist_append_left _ _)
  cases h with
  | turns _ _ hr ht hp =>
    refine List.Sublist.trans ?_ hr.linked
    unfold Session.Step.linked
    rw [ht.links]
    exact (claims_of_plain hp).append_left _
  | deletes _ _ => exact hleft (.refl _)
  | @replaces w params next old c hb _ =>
    unfold Session.Step.linked
    simp only [Progress.awaits, Await.claims, Cause.claims, hb, List.flatMap_cons, List.flatMap_nil,
      List.append_nil]
    exact .refl _
  | closes hk h =>
    obtain ⟨hl, hclaims⟩ := h.links
    unfold Session.Step.linked
    rw [hl, hclaims]
    exact hleft hk.links_sublist
  | removes => exact hleft (Connections.links_remove_sublist ..)

/-- the links that an operation begins with, beside those that others claim -/
theorem Session.linked_begin (s : Session) (o : Operation) (ls : List (Binding × ConnectionId)) :
    ((o.begin s).linked ++ ls).Subperm (s.links ++ ls) := by
  have hst := (s.moves_begin o).linked
  simp only [Cause.claims, Option.toList_none, List.append_nil] at hst
  exact (hst.append_right ls).subperm

/-- and those that it goes on with -/
theorem Session.linked_resume (s : Session) (a : Await) (reply : a.call.Reply)
    (ls : List (Binding × ConnectionId)) : ((s.resume a reply).linked ++ ls).Subperm
      (s.links ++ (a.claims ++ ls) ++ (a.gains? reply).toList) := by
  have hst := (s.moves_resume a reply).linked
  refine (hst.append_right ls).subperm.trans ?_
  rw [List.append_assoc, ← List.append_assoc s.links, List.append_assoc (s.links ++ _)]
  exact (List.perm_append_comm.append_left _).subperm

end

namespace Traffic

/-! ## events -/

/-- the links of all connections, on record or on the way there -/
def linked (t : Traffic) : List (Binding × ConnectionId) :=
  t.session.links ++ t.awaits.flatMap Await.claims

/-- the link that the event brings -/
def gains (t : Traffic) : Event → Option (Binding × ConnectionId)
  | .answer i =>
    match t.pending[i]? with
    | some p => p.await.gains? (t.server.reply p.await.call).1
    | none => none
  | _ => none

variable {u : Setup} {run early early' : List Event} {e e' : Event} {l l' : Binding × ConnectionId}

theorem linked_goOn (t : Traffic) (task : Nat) (st : Session.Step) :
    (t.goOn task st).linked.Perm (st.linked ++ t.awaits.flatMap Await.claims) := by
  unfold linked Session.Step.linked
  rw [session_goOn, awaits_goOn, List.flatMap_append, List.append_assoc]
  exact List.perm_append_comm.append_left _

theorem Hears.gains {t : Traffic} {p : Pending} {reply : p.await.call.Reply}
    (h : t.Hears e p reply) : t.gains e = p.await.gains? reply := by
  cases h with
  | answer hi => simp only [Traffic.gains, hi]
  | giveUp hi hup =>
    obtain ⟨task, a, gate⟩ := p
    cases a <;> rfl

theorem links_deed (s : Session) (d : Deed) : (d.apply s).links = s.links := by
  cases d with
  | refreshLastTab tab =>
    simp only [Deed.apply, Session.refreshLastTab]
    cases s.store.tabs.tab? tab <;> rfl
  | _ => rfl

/-- an event makes no link but the one that it brings -/
theorem linked_step (t : Traffic) (e : Event) :
    (t.step e).linked.Subperm (t.linked ++ (t.gains e).toList) := by
  cases t.happens e with
  | begin o =>
    rw [show (t.gains (.begin o)).toList = [] from rfl, List.append_nil]
    exact (linked_goOn ..).subperm.trans (t.session.linked_begin o _)
  | @hears _ p reply hh =>
    obtain ⟨i, server, hi, hstep⟩ := hh.step_eq
    have hrest := (perm_eraseIdx hi).flatMap_right Await.claims
    rw [hstep, hh.gains]
    refine (linked_goOn ..).subperm.trans ((t.session.linked_resume ..).trans ?_)
    -- the claims of the operation that goes on are among those that were there
    exact ((hrest.append_left t.session.links).append_right _).subperm
  | deed d =>
    have hl := links_deed t.session d
    unfold linked
    rw [show (t.step (.deed d)).session = d.apply t.session from rfl, hl,
      show (t.gains (.deed d)).toList = [] from rfl, List.append_nil]
    exact .refl _
  | idle clock hs hp _ _ _ =>
    have hlinked : (t.step e).linked = t.linked := by
      unfold linked awaits
      rw [hs, hp]
      rfl
    rw [hlinked]
    exact (List.sublist_append_left _ _).subperm

theorem mem_linked_step {t : Traffic} (h : l ∈ (t.step e).linked) :
    l ∈ t.linked ∨ t.gains e = some l := by
  rcases List.mem_append.mp ((linked_step t e).subset h) with h | h
  · exact .inl h
  · exact .inr (by simpa using h)

/-- a link that an event brings has a new name -/
theorem gains_new {t : Traffic} (h : t.gains e = some l) :
    l.2 ∉ t.server.ids ∧ l.2 ∈ (t.step e).server.ids := by
  have hnew : (t.step e).server.ids = t.server.ids ++ [l.2] := by
    rw [ids_step, ids_replied]
    cases e with
    | answer i =>
      cases hi : t.pending[i]? with
      | none => simp [gains, hi] at h
      | some p =>
        simp only [gains, hi] at h
        simp [hands, hi, Await.brings_of_gains h]
    | _ => cases h
  have hn := (t.step e).server.nodup_ids
  rw [hnew] at hn ⊢
  refine ⟨fun hmem => ?_, by simp⟩
  exact (List.nodup_append.mp hn).2.2 _ hmem _ (List.mem_singleton_self _) rfl

/-! ## runs -/

theorem ids_subset {u : Setup} {early run : List Event} (h : early <:+ run) :
    (after u early).server.ids ⊆ (after u run).server.ids := by
  obtain ⟨late, rfl⟩ := h
  induction late with
  | nil => exact fun _ hid => hid
  | cons e late ih =>
    intro id hid
    show id ∈ ((after u (late ++ early)).step e).server.ids
    rw [ids_step, ids_replied]
    exact List.mem_append_left _ (ih hid)

/-- every link was brought by an event -/
theorem exists_gains (h : l ∈ (after u run).linked) :
    ∃ e early, e :: early <:+ run ∧ (after u early).gains e = some l := by
  induction run with
  | nil => simp [linked, after, fresh, steps, Session.links, Setup.session, Session.empty,
      Connections.empty, Connections.links, awaits] at h
  | cons e run ih =>
    rcases mem_linked_step h with h | h
    · obtain ⟨e', early, hsuf, hg⟩ := ih h
      exact ⟨e', early, hsuf.trans (List.suffix_cons e run), hg⟩
    · exact ⟨e, run, List.suffix_refl _, h⟩

theorem mem_ids_of_linked (h : l ∈ (after u run).linked) : l.2 ∈ (after u run).server.ids := by
  obtain ⟨e, early, hsuf, hg⟩ := exists_gains h
  exact ids_subset hsuf (gains_new hg).2

/-- no connection is linked twice at a time -/
theorem linked_nodup (u : Setup) (run : List Event) : ((after u run).linked.map (·.2)).Nodup := by
  induction run with
  | nil => exact List.nodup_nil
  | cons e run ih =>
    have hall : (((after u run).linked ++ ((after u run).gains e).toList).map (·.2)).Nodup := by
      cases hg : (after u run).gains e with
      | none => simpa using ih
      | some l =>
        rw [List.map_append, List.nodup_append]
        refine ⟨ih, by simp, fun id hid id' hid' heq => ?_⟩
        obtain ⟨l', hl', rfl⟩ := List.mem_map.mp hid
        have hid'' : id' = l.2 := by simpa using hid'
        exact (gains_new hg).1 (hid'' ▸ heq ▸ mem_ids_of_linked hl')
    obtain ⟨l, hperm, hsub⟩ := linked_step (after u run) e
    exact (hperm.map _).nodup_iff.mp (hall.sublist (hsub.map _))

/-- two events of a run that bring the same name are one -/
theorem eq_of_gains (h : e :: early <:+ run) (h' : e' :: early' <:+ run)
    (hg : (after u early).gains e = some l) (hg' : (after u early').gains e' = some l')
    (hid : l.2 = l'.2) : l = l' := by
  -- the later one finds the name given already
  have later : ∀ {e e' early early'} {l l' : Binding × ConnectionId}, e :: early <:+ early' →
      (after u early).gains e = some l → (after u early').gains e' = some l' → l.2 ≠ l'.2 := by
    intro e e' early early' l l' hsuf hg hg' hid
    exact (gains_new hg').1 (hid ▸ ids_subset hsuf (gains_new hg).2)
  rcases List.suffix_or_suffix_of_suffix h h' with hle | hle
  · rcases List.suffix_cons_iff.mp hle with he | hlt
    · cases he
      exact Option.some.inj (hg.symm.trans hg')
    · exact absurd hid (later hlt hg hg')
  · rcases List.suffix_cons_iff.mp hle with he | hlt
    · cases he
      exact Option.some.inj (hg.symm.trans hg')
    · exact absurd hid.symm (later hlt hg' hg)

/-- **A connection is never linked to two bindings.** -/
theorem home_unique (h : early <:+ run) (h' : early' <:+ run) (hl : l ∈ (after u early).linked)
    (hl' : l' ∈ (after u early').linked) (hid : l.2 = l'.2) : l = l' := by
  obtain ⟨e, before, hsuf, hg⟩ := exists_gains hl
  obtain ⟨e', before', hsuf', hg'⟩ := exists_gains hl'
  exact eq_of_gains (hsuf.trans h) (hsuf'.trans h') hg hg' hid

end Traffic

end QueryDesk
