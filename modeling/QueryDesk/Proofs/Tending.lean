import QueryDesk.Proofs.Fates
import QueryDesk.Proofs.Integrity

/-!
# What is tended to at all times

At rest the store hangs together (`Traffic.store_sound`); while calls are out, and answered in any
order, less does.

* `Tended s as`               no name is taken twice, and a tab that has gone with its memory has no
  connection but one that is being given back;
* `Traffic.cause`             what brings an event about;
* `Traffic.Goes`              what goes on in an event, beside the calls that stay out.

**`Traffic.tended_after`**: so it is after every run that binds files only to tabs that are there.
-/

namespace QueryDesk

/-! ## at all times -/

def Cause.awaits : Cause → List Await
  | resumes a => [a]
  | _ => []

structure Tended (s : Session) (as : List Await) : Prop where
  orderly : Orderly s
  keyed : s.store.connections.Keyed
  /-- a tab that has gone with its memory has no connection but one that is being given back -/
  gone : ∀ tab id, s.Gone tab → (.tab tab, id) ∈ s.links → ∃ next, .deleting id next ∈ as
  replacing : ∀ w old c next, .replacing w old c next ∈ as → c.binding = .worksheet w

namespace Tended
variable {s : Session} {as bs : List Await} {k : Cause} {l? : Option (Binding × ConnectionId)}
  {st : Session.Step}

theorem start (u : Setup) : Tended u.session [] where
  orderly := .start u
  keyed := .empty
  gone := nofun
  replacing := nofun

theorem perm (hab : as.Perm bs) (h : Tended s as) : Tended s bs :=
  { h with
    gone := fun tab id hgone hl =>
      (h.gone tab id hgone hl).imp fun _ hmem => hab.mem_iff.mp hmem
    replacing := fun w old c next hmem => h.replacing w old c next (hab.mem_iff.mpr hmem) }

theorem moves (h : Tended s (k.awaits ++ as)) (hm : Moves s k l? st) :
    Tended st.1 (st.2.awaits ++ as) where
  orderly := hm.churns.orderly h.orderly
  keyed := hm.keyed h.keyed
  gone := by
    intro tab id hgone hl
    have hw : ∀ w old c next, k = .resumes (.replacing w old c next) →
        c.binding = .worksheet w := by
      rintro w old c next rfl
      exact h.replacing w old c next List.mem_cons_self
    rcases hm.tended h.orderly h.keyed hw hgone hl with ⟨next, hnew⟩ | ⟨hgone', hl', hk⟩
    · exact ⟨next, List.mem_append_left _ hnew⟩
    · -- the release goes on, for it is not what was answered
      obtain ⟨next, hmem⟩ := h.gone tab id hgone' hl'
      refine ⟨next, List.mem_append_right _ ?_⟩
      rcases List.mem_append.mp hmem with hmem | hmem
      · cases k with
        | resumes a =>
          exact absurd (congrArg Cause.resumes (List.mem_singleton.mp hmem).symm) (hk next)
        | begins o => cases hmem
        | otherwise => cases hmem
      · exact hmem
  replacing := by
    intro w old c next hmem
    rcases List.mem_append.mp hmem with hmem | hmem
    · exact hm.replacing hmem
    · exact h.replacing w old c next (List.mem_append_right _ hmem)

end Tended

/-! ## events -/

theorem Session.turnover_deed {s : Session} (d : Deed) (hd : s.Files (.deed d)) :
    Turnover [] s (d.apply s) := by
  cases d with
  | createWorksheet name => exact .createWorksheet s name
  | refreshLastTab tab =>
    simp only [Deed.apply, refreshLastTab]
    cases s.store.tabs.tab? tab with
    | none => exact .refl s
    | some x =>
      have hof : ∀ w, (s.store.tabs.refreshTab tab).idsOf w = s.store.tabs.idsOf w := by
        intro w
        refine Tabs.filter_modifyFirst QueryTab.id ?_ ?_ _
        · exact fun _ => rfl
        · exact fun _ => rfl
      have ht : Turnover [] s (s.mapTabs (·.refreshTab tab)) :=
        .of_names (fun h => h.refreshTab tab) rfl hof (Tabs.tabIds_refreshTab _ tab) (fun _ => rfl)
          rfl rfl (Nat.le_refl _)
      exact ht.trans (.of_sameFrame (.remember _ tab fun _ => TabMemory.empty))
  | clearPreviews tab => exact .of_sameFrame (.remember ..)
  | edit tab e =>
    exact .of_names (fun h => h.edit tab e) rfl (fun _ => rfl) rfl (fun _ => rfl) rfl rfl
      (Nat.le_refl _)
  | bindFile tab path =>
    exact .of_names (fun h => h.bindFile hd path) rfl (fun _ => rfl) rfl (fun _ => rfl) rfl rfl
      (Nat.le_refl _)
  | drainNotices => exact .of_sameFrame { SameFrame.refl s with }

namespace Traffic

/-- what brings the event about -/
def cause (t : Traffic) : Event → Cause
  | .begin o => .begins o
  | .answer i =>
    match t.pending[i]? with
    | some p => .resumes p.await
    | none => .otherwise
  | .giveUp i =>
    match t.pending[i]? with
    | some p => if t.isGivenUp p.await then .resumes p.await else .otherwise
    | none => .otherwise
  | _ => .otherwise

section
variable {t : Traffic} {e : Event}

theorem Hears.cause {p : Pending} {reply : p.await.call.Reply} (h : t.Hears e p reply) :
    t.cause e = .resumes p.await := by
  cases h with
  | answer hi => simp only [Traffic.cause, hi]
  | giveUp hi hup => simp only [Traffic.cause, hi, hup, if_true]

theorem exists_hears {a : Await} (h : t.cause e = .resumes a) :
    ∃ p reply, t.Hears e p reply ∧ p.await = a := by
  cases e with
  | answer i =>
    simp only [cause] at h
    split at h
    · next p hi =>
      cases h
      exact ⟨p, _, .answer hi, rfl⟩
    · cases h
  | giveUp i =>
    simp only [cause] at h
    split at h
    · next p hi =>
      split at h
      · next hup =>
        cases h
        exact ⟨p, _, .giveUp hi hup, rfl⟩
      · cases h
    · cases h
  | _ => cases h

theorem eq_begin_of_cause {o : Operation} (h : t.cause e = .begins o) : e = .begin o := by
  cases e with
  | begin o' =>
    cases h
    rfl
  | answer i =>
    simp only [cause] at h
    split at h <;> cases h
  | giveUp i =>
    simp only [cause] at h
    split at h
    · split at h <;> cases h
    · cases h
  | _ => cases h

theorem mem_claims_of_cause {l : Binding × ConnectionId} (h : l ∈ (t.cause e).claims) :
    l ∈ t.awaits.flatMap Await.claims := by
  cases hc : t.cause e with
  | resumes a =>
    obtain ⟨p, reply, hh, rfl⟩ := exists_hears hc
    rw [hc] at h
    exact List.mem_flatMap.mpr ⟨_, List.mem_map_of_mem hh.mem, h⟩
  | begins o =>
    rw [hc] at h
    cases h
  | otherwise =>
    rw [hc] at h
    cases h

theorem mem_awaits_of_cause {a : Await} (h : t.cause e = .resumes a) : a ∈ t.awaits := by
  obtain ⟨p, reply, hh, rfl⟩ := exists_hears h
  exact List.mem_map_of_mem hh.mem

end

/-- what goes on in an event, beside the calls that stay out -/
structure Goes (t : Traffic) (e : Event) (st : Session.Step) (as : List Await) : Prop where
  session : (t.step e).session = st.1
  before : t.awaits.Perm ((t.cause e).awaits ++ as)
  later : (t.step e).awaits.Perm (st.2.awaits ++ as)
  moves : Moves t.session (t.cause e) (t.gains e) st

section
variable {t : Traffic} {e : Event}

namespace Goes
variable {st : Session.Step} {as : List Await}

theorem mem_later (hg : t.Goes e st as) {a : Await} :
    a ∈ (t.step e).awaits ↔ a ∈ st.2.awaits ∨ a ∈ as := by
  rw [hg.later.mem_iff, List.mem_append]

theorem mem_before (hg : t.Goes e st as) {a : Await} (ha : a ∈ as) : a ∈ t.awaits :=
  hg.before.mem_iff.mpr (List.mem_append_right _ ha)

/-- a call that is not answered stays out -/
theorem mem_stays (hg : t.Goes e st as) {a : Await} (ha : a ∈ t.awaits) :
    t.cause e = .resumes a ∨ a ∈ as := by
  rcases List.mem_append.mp (hg.before.mem_iff.mp ha) with hmem | hmem
  · cases hc : t.cause e with
    | resumes b =>
      rw [hc] at hmem
      rw [List.mem_singleton.mp hmem]
      exact .inl rfl
    | begins o =>
      rw [hc] at hmem
      cases hmem
    | otherwise =>
      rw [hc] at hmem
      cases hmem
  · exact .inr hmem

end Goes

theorem goes_begin (t : Traffic) (o : Operation) :
    t.Goes (.begin o) (o.begin t.session) t.awaits where
  session := session_begin t o
  before := .refl _
  later := by
    show (goOn _ _ _).awaits.Perm _
    rw [awaits_goOn]
    exact List.perm_append_comm
  moves := t.session.moves_begin o

theorem Hears.goes {p : Pending} {reply : p.await.call.Reply} (hh : t.Hears e p reply) :
    ∃ as, t.Goes e (t.session.resume p.await reply) as := by
  obtain ⟨i, server, hi, hstep⟩ := hh.step_eq
  refine ⟨(t.pending.eraseIdx i).map Pending.await, hh.session, ?_, ?_, ?_⟩
  · rw [hh.cause]
    exact (perm_eraseIdx hi).symm
  · rw [hstep, awaits_goOn]
    exact List.perm_append_comm
  · rw [hh.cause, hh.gains]
    exact t.session.moves_resume p.await reply

/-- worksheets and tabs may come and go, while no operation goes on -/
theorem goes_otherwise (hc : t.cause e = .otherwise) (hg : t.gains e = none)
    (hp : (t.step e).pending = t.pending) (ht : Turnover [] t.session (t.step e).session) :
    t.Goes e ((t.step e).session, .ends (.ok .done)) t.awaits where
  session := rfl
  before := by
    rw [hc]
    exact .refl _
  later := by
    unfold awaits
    rw [hp]
    exact .refl _
  moves := by
    rw [hc, hg]
    exact .turns [] rfl (.same rfl) ht (Session.plain_ends _)

theorem goes_idle (hs : t.step e = t) (hc : t.cause e = .otherwise) (hg : t.gains e = none) :
    ∃ st as, t.Goes e st as := by
  refine ⟨_, _, goes_otherwise hc hg (by rw [hs]) ?_⟩
  rw [hs]
  exact .refl _

end

/-- **So it is in every event.** -/
theorem goes (t : Traffic) (e : Event) (hf : t.session.Files e) : ∃ st as, t.Goes e st as := by
  cases e with
  | begin o => exact ⟨_, _, t.goes_begin o⟩
  | answer i =>
    cases hi : t.pending[i]? with
    | none =>
      exact goes_idle (by simp only [step, hi]) (by simp only [cause, hi])
        (by simp only [gains, hi])
    | some p => exact ⟨_, (Hears.answer hi).goes⟩
  | giveUp i =>
    cases hi : t.pending[i]? with
    | none => exact goes_idle (by simp only [step, hi]) (by simp only [cause, hi]) rfl
    | some p =>
      cases hup : t.isGivenUp p.await with
      | false => exact goes_idle (by simp [step, hi, hup]) (by simp [cause, hi, hup]) rfl
      | true => exact ⟨_, (Hears.giveUp hi hup).goes⟩
  | deed d => exact ⟨_, _, goes_otherwise rfl rfl rfl (Session.turnover_deed d hf)⟩
  | cue c => exact ⟨_, _, goes_otherwise rfl rfl rfl (.refl _)⟩
  | pass nanos =>
    exact ⟨_, _, goes_otherwise rfl rfl rfl (.of_sameFrame (.advance t.session nanos))⟩

variable {u : Setup} {run : List Event}

/-- **What is tended to after every run that binds files only to tabs that are there.** -/
theorem tended_after (hf : (fresh u).Throughout (fun t => t.session.Files) run) :
    Tended (after u run).session (after u run).awaits := by
  induction run with
  | nil => exact .start u
  | cons e run ih =>
    obtain ⟨st, as, hg⟩ := (after u run).goes e hf.1
    have hbefore := (ih hf.2).perm hg.before
    rw [after_cons, hg.session]
    exact (hbefore.moves hg.moves).perm hg.later.symm

/-! ## what has gone stays away -/

section
variable {early : List Event} (hf : (fresh u).Throughout (fun t => t.session.Files) run)
  (h : early <:+ run)

include hf h

theorem drawn_le :
    (after u early).session.worksheetsDrawn ≤ (after u run).session.worksheetsDrawn ∧
      (after u early).session.tabsDrawn ≤ (after u run).session.tabsDrawn := by
  obtain ⟨late, rfl⟩ := h
  induction late with
  | nil => exact ⟨Nat.le_refl _, Nat.le_refl _⟩
  | cons e late ih =>
    obtain ⟨st, as, hg⟩ := (after u (late ++ early)).goes e hf.1
    have hd := hg.moves.churns.drawn
    rw [List.cons_append, after_cons, hg.session]
    exact ⟨Nat.le_trans (ih hf.2).1 hd.1, Nat.le_trans (ih hf.2).2 hd.2⟩

theorem worksheet_away {w : WorksheetId} (hd : w.number ≤ (after u early).session.worksheetsDrawn)
    (hw : w ∉ (after u early).session.store.tabs.worksheetIds) :
    w ∉ (after u run).session.store.tabs.worksheetIds := by
  obtain ⟨late, rfl⟩ := h
  induction late with
  | nil => exact hw
  | cons e late ih =>
    obtain ⟨st, as, hg⟩ := (after u (late ++ early)).goes e hf.1
    have hd' := Nat.le_trans hd (drawn_le hf.2 (List.suffix_append late early)).1
    rw [List.cons_append, after_cons, hg.session]
    exact fun hmem => ih hf.2 (hg.moves.churns.worksheet_old (tended_after hf.2).orderly hd' hmem)

theorem tab_away {tab : TabId} (hd : tab.number ≤ (after u early).session.tabsDrawn)
    (ht : tab ∉ (after u early).session.store.tabs.tabIds) :
    tab ∉ (after u run).session.store.tabs.tabIds ∧ ((after u run).session.memory? tab).isSome =
      ((after u early).session.memory? tab).isSome := by
  obtain ⟨late, rfl⟩ := h
  induction late with
  | nil => exact ⟨ht, rfl⟩
  | cons e late ih =>
    obtain ⟨st, as, hg⟩ := (after u (late ++ early)).goes e hf.1
    have hd' := Nat.le_trans hd (drawn_le hf.2 (List.suffix_append late early)).2
    obtain ⟨hno, hm⟩ := ih hf.2
    obtain ⟨hno', hm'⟩ := hg.moves.churns.away (tended_after hf.2).orderly hd' hno
    rw [List.cons_append, after_cons, hg.session]
    exact ⟨hno', hm'.trans hm⟩

end

end Traffic

end QueryDesk
