import QueryDesk.Proofs.ClosingStages

/-!
# The connection of a worksheet that is closed

A closing gives back the connection that it finds.  Another may come while it waits, or later.

* `Traffic.Settled`        a connection that was handed out, and is not on its way to the record;
* `Traffic.HasLooked`      the connection of the worksheet is being given back, or the worksheet has
  gone;
* `Traffic.ComesTooLate`   after that another connection comes for it;
* `Traffic.Sole`           the worksheet has no connection but the one that is being given back;
* `Traffic.Late`           it has one that will not be given back, but for another.

**`Traffic.connection_after`**: once its closing has looked, a worksheet has no connection but that
one, unless another has come too late; then it has one for good.
-/

namespace QueryDesk

/-! ## stretches -/

section
variable {s s₁ : Session} {k : Cause} {l? r? : Option (Binding × ConnectionId)} {st : Session.Step}
  {w : WorksheetId} {id : ConnectionId} {l : Binding × ConnectionId}

/-- a closing that has looked for the connection of its worksheet gives it back -/
theorem Moves.sole (h : Moves s k l? st) (ho : Orderly s) (hk : s.store.connections.Keyed)
    (hno : ∀ c, k ≠ .resumes (.closing w c)) (hw : w ∈ s.store.tabs.worksheetIds)
    (hlook : (∃ c, .closing w c ∈ st.2.awaits) ∨ w ∉ st.1.store.tabs.worksheetIds)
    (hl : (.worksheet w, id) ∈ st.1.links) : .closing w id ∈ st.2.awaits := by
  have hclose : k.closes? = some w := by
    rcases hlook with ⟨c, hc⟩ | hgone
    · exact h.closes_of_mem hc rfl
    · by_contra hne
      exact hgone (h.churns.worksheet ho hne hw)
  cases h with
  | turns _ hk _ _ _ =>
    rw [hk] at hclose
    cases hclose
  | deletes _ _ => cases hclose
  | replaces _ _ => cases hclose
  | closes he h =>
    cases Option.some.inj (he.closes.symm.trans hclose)
    have hk₁ := he.keyed hk
    obtain ⟨g, rfl⟩ := he.exists_map
    cases h with
    | fails ht =>
      rcases hlook with ⟨c, hc⟩ | hgone
      · cases hc
      · exact absurd (ht.worksheet w hw) hgone
    | @deletes s' tab rest c ht _ _ =>
      rcases hlook with ⟨c', hc⟩ | hgone
      · cases List.mem_singleton.mp hc
      · exact absurd (s'.worksheetIds_dropTab tab ▸ ht.worksheet w hw) hgone
    | looks ht hc =>
      have hkeyed := hk₁.of_links ht.links
      have hsame := List.inj_on_of_nodup_map hkeyed.bindings hl (Connections.mem_links_of_bound? hc)
        rfl
      cases congrArg Prod.snd hsame
      exact List.mem_singleton_self _
    | removes _ _ hnone => exact absurd (Connections.mem_bindings hl) hnone
  | @removes w' c =>
    cases hclose
    exact absurd rfl (hno c)

/-- a link that was not there was claimed, or brought -/
theorem Moves.comes (h : Moves s k l? st) (hnew : l ∈ st.1.links) (hold : l ∉ s.links) :
    (l ∈ k.claims ∨ l? = some l) ∧ ∀ b ∈ st.2.awaits, b.leaving? = none := by
  constructor
  · have hmem := h.linked.subset (List.mem_append_left _ hnew)
    simp only [List.mem_append, Option.mem_toList] at hmem
    rcases hmem with (hmem | hmem) | hmem
    · exact absurd hmem hold
    · exact .inl hmem
    · exact .inr hmem
  · cases h with
    | turns _ _ _ _ hp => exact fun b hb => (hp b hb).leaving
    | deletes _ _ => exact absurd hnew hold
    | replaces _ _ => exact absurd hnew hold
    | closes he h => exact absurd (he.links_sublist.subset (h.links.1 ▸ hnew)) hold
    | removes => exact absurd (Connections.mem_links_remove.mp hnew).1 hold

/-- what is to be given back was on record -/
theorem Moves.leaving {b : Await} (h : Moves s k l? st) (hb : b ∈ st.2.awaits)
    (hid : b.leaving? = some id) : ∃ l ∈ s.links, l.2 = id := by
  cases h with
  | turns _ _ _ _ hp =>
    rw [(hp b hb).leaving] at hid
    cases hid
  | deletes _ hc =>
    cases List.mem_singleton.mp hb
    cases hid
    exact ⟨_, Connections.mem_links_of_bound? hc, rfl⟩
  | replaces _ hc =>
    cases List.mem_singleton.mp hb
    cases hid
    exact ⟨_, Connections.mem_links_of_bound? hc, rfl⟩
  | @closes k w tabs s₁ st he h =>
    have hold : ∀ {s' : Session} {b c}, s'.links = s₁.links →
        s'.store.connections.bound? b = some c → ∃ l ∈ s.links, l.2 = c.id := by
      intro s' b c hl hc
      have hmem : (b, c.id) ∈ s'.links := Connections.mem_links_of_bound? hc
      exact ⟨_, he.links_sublist.subset (hl ▸ hmem), rfl⟩
    cases h with
    | fails _ => cases hb
    | deletes ht _ hc =>
      cases List.mem_singleton.mp hb
      cases hid
      exact hold ht.links hc
    | looks ht hc =>
      cases List.mem_singleton.mp hb
      cases hid
      exact hold ht.links hc
    | removes _ _ _ => cases hb
  | removes => cases hb

theorem Relinks.rest (h : Relinks s k l? r? s₁) : r? = l? ∨ r? = none := by
  cases h with
  | same _ => exact .inl rfl
  | _ => exact .inr rfl

/-- a claim that is new was brought -/
theorem Moves.claims (h : Moves s k l? st) (hl : l ∈ st.2.awaits.flatMap Await.claims) :
    l? = some l := by
  cases h with
  | turns _ _ hr _ hp =>
    have hmem : l ∈ _ := (claims_of_plain hp).subset hl
    rcases hr.rest with he | he
    · simpa [he] using hmem
    · simp [he] at hmem
  | deletes _ _ => cases hl
  | replaces hb _ =>
    simp only [Progress.awaits, Await.claims, List.flatMap_cons, List.flatMap_nil, List.append_nil,
      List.mem_singleton] at hl
    rw [hl, hb]
  | closes _ h =>
    rw [h.links.2] at hl
    cases hl
  | removes => cases hl

/-- a connection is given back by hand only when that is asked for -/
theorem Moves.byHand (h : Moves s k l? st) (hb : .releasing id ∈ st.2.awaits) :
    k = .begins (.release id) := by
  cases h with
  | turns _ _ _ _ hp => exact (hp _ hb).byHand id rfl
  | deletes _ _ => cases List.mem_singleton.mp hb
  | replaces _ _ => cases List.mem_singleton.mp hb
  | closes _ h =>
    cases h with
    | fails _ => cases hb
    | deletes _ _ _ => cases List.mem_singleton.mp hb
    | looks _ _ => cases List.mem_singleton.mp hb
    | removes _ _ _ => cases hb
  | removes => cases hb

/-- the worksheet and its connection go -/
theorem Moves.removed {c : ConnectionId} (h : Moves s (.resumes (.closing w c)) l? st)
    (ho : Orderly s) : w ∉ st.1.store.tabs.worksheetIds ∧ (.worksheet w, c) ∉ st.1.links := by
  cases h with
  | turns _ hk _ _ _ => cases hk
  | closes he _ => cases he
  | removes =>
    have ho' : Orderly (s.forget c) := ho.mapConnections _
    refine ⟨ho'.not_mem_dropWorksheet w, fun hmem => ?_⟩
    exact (Connections.mem_links_remove.mp hmem).2 rfl

/-- only a connection that comes in its place takes a link from a worksheet that is not closed -/
theorem Relinks.keeps (h : Relinks s k l? r? s₁)
    (hb : ∀ w old c next, k = .resumes (.replacing w old c next) → c.binding = .worksheet w)
    (hhand : ∀ c, k ≠ .resumes (.releasing c)) (hl : (.worksheet w, id) ∈ s.links)
    (hleave : ∀ a, k = .resumes a → a.leaving? = some id → ∃ c next, a = .replacing w id c next)
    (hnew : ∀ l ∈ k.claims, l.2 ≠ id) (hfresh : ∀ l, l? = some l → l.2 ≠ id) :
    (∃ old c next, k = .resumes (.replacing w old c next) ∧ (.worksheet w, c.id) ∈ s₁.links) ∨
    (.worksheet w, id) ∈ s₁.links := by
  cases h with
  | same _ => exact .inr hl
  | @forgets a id' hf =>
    refine .inr (Connections.mem_links_remove.mpr ⟨hl, ?_⟩)
    rintro rfl
    cases a with
    | discarding clone tab next =>
      cases hf
      exact hnew _ (List.mem_singleton_self _) rfl
    | deleting c next =>
      obtain ⟨c', next', he⟩ := hleave _ rfl hf
      cases he
    | closing w' c =>
      obtain ⟨c', next', he⟩ := hleave _ rfl hf
      cases he
    | releasing c => exact hhand c rfl
    | _ => cases hf
  | @opens w' params next c hc hno =>
    refine .inr (Connections.mem_links_insert_of_ne hl ?_ (hfresh _ rfl).symm)
    rw [hc]
    rintro ⟨⟩
    exact hno (Connections.mem_bindings hl)
  | @replaces w' old c next =>
    have hc := hb w' old c next rfl
    by_cases hw : w' = w
    · subst hw
      have hin := Connections.mem_links_insert_self (s.forget old).store.connections c
      rw [hc] at hin
      exact .inl ⟨old, c, next, rfl, hin⟩
    · refine .inr (Connections.mem_links_insert_of_ne (Connections.mem_links_remove.mpr ⟨hl, ?_⟩)
        ?_ (hnew _ (List.mem_singleton_self _)).symm)
      · rintro rfl
        obtain ⟨c', next', he⟩ := hleave _ rfl rfl
        cases he
        exact hw rfl
      · rw [hc]
        rintro ⟨⟩
        exact hw rfl
  | @clones source tab next c hc _ =>
    refine .inr (Connections.mem_links_insert_of_ne hl ?_ (hfresh _ rfl).symm)
    rw [hc]
    exact nofun

theorem Moves.keeps (h : Moves s k l? st) (hk : s.store.connections.Keyed)
    (hb : ∀ w old c next, k = .resumes (.replacing w old c next) → c.binding = .worksheet w)
    (hhand : ∀ c, k ≠ .resumes (.releasing c))
    (hclose : k.closes? = some w → ∃ c, k = .resumes (.closing w c))
    (hl : (.worksheet w, id) ∈ s.links)
    (hleave : ∀ a, k = .resumes a → a.leaving? = some id → ∃ c next, a = .replacing w id c next)
    (hnew : ∀ l ∈ k.claims, l.2 ≠ id) (hfresh : ∀ l, l? = some l → l.2 ≠ id) :
    (∃ old c next, k = .resumes (.replacing w old c next) ∧ (.worksheet w, c.id) ∈ st.1.links ∧
      ∀ b ∈ st.2.awaits, b.leaving? = none) ∨
    ((.worksheet w, id) ∈ st.1.links ∧
      ∀ b ∈ st.2.awaits, b.leaving? = some id → ∃ c next, b = .replacing w id c next) := by
  have hforget : ∀ {c a}, k = .resumes a → a.leaving? = some c →
      (∀ old c' next, a ≠ .replacing w old c' next) → (.worksheet w, id) ∈ (s.forget c).links := by
    intro c a ha hc hne
    refine Connections.mem_links_remove.mpr ⟨hl, ?_⟩
    rintro rfl
    obtain ⟨c', next, he⟩ := hleave a ha hc
    exact hne _ _ _ he
  cases h with
  | turns _ _ hr ht hp =>
    have hnone := fun b hmem => (hp b hmem).leaving
    rw [ht.links]
    rcases hr.keeps hb hhand hl hleave hnew hfresh with ⟨old, c, next, he, hin⟩ | hin
    · exact .inl ⟨old, c, next, he, hin, hnone⟩
    · refine .inr ⟨hin, fun b hmem hid => ?_⟩
      rw [hnone b hmem] at hid
      cases hid
  | @deletes tab c _ hc =>
    refine .inr ⟨hl, fun b hmem hid => ?_⟩
    cases List.mem_singleton.mp hmem
    cases hid
    cases hk.eq_of_mem_links hl (Connections.mem_links_of_bound? hc) rfl
  | @replaces w' params next old c _ hc =>
    refine .inr ⟨hl, fun b hmem hid => ?_⟩
    cases List.mem_singleton.mp hmem
    cases hid
    cases hk.eq_of_mem_links hl (Connections.mem_links_of_bound? hc) rfl
    exact ⟨_, _, rfl⟩
  | @closes k w' tabs s₁ st he h =>
    have hne : w ≠ w' := by
      rintro rfl
      obtain ⟨c, hk'⟩ := hclose he.closes
      subst hk'
      cases he
    have hin : (.worksheet w, id) ∈ s₁.links := by
      cases he with
      | first => exact hl
      | next => exact hforget rfl rfl fun _ _ _ => nofun
    have hbound : ∀ {s' : Session} {b : Binding} {c : Connection}, s'.links = s₁.links →
        s'.store.connections.bound? b = some c → c.id = id → b = .worksheet w := by
      intro s' b c hs hc hid
      have hc' : (b, c.id) ∈ s'.links := Connections.mem_links_of_bound? hc
      rw [hs] at hc'
      exact congrArg Prod.fst ((he.keyed hk).eq_of_mem_links hc' hin hid)
    refine .inr ⟨h.links.1 ▸ hin, fun b hmem hid => ?_⟩
    cases h with
    | fails _ => cases hmem
    | deletes ht _ hc =>
      cases List.mem_singleton.mp hmem
      cases hbound ht.links hc (Option.some.inj hid)
    | looks ht hc =>
      cases List.mem_singleton.mp hmem
      cases hbound ht.links hc (Option.some.inj hid)
      exact absurd rfl hne
    | removes _ _ _ => cases hmem
  | @removes w' c =>
    refine .inr ⟨hforget rfl rfl fun _ _ _ => nofun, ?_⟩
    intro b hmem
    cases hmem

end

/-! ## at all times -/

/-- the worksheet whose connection is being given back since it is closed -/
def Await.looked? : Await → Option WorksheetId
  | closing w _ => some w
  | _ => none

namespace Traffic

/-- the connection was handed out, and is not on its way to the record -/
structure Settled (t : Traffic) (id : ConnectionId) : Prop where
  known : id ∈ t.server.ids
  unclaimed : ∀ l ∈ t.awaits.flatMap Await.claims, l.2 ≠ id

/-- the connection of the worksheet is being given back, or the worksheet is not there -/
def HasLooked (t : Traffic) (w : WorksheetId) : Prop :=
  (∃ a ∈ t.awaits, a.looked? = some w) ∨ w ∉ t.session.store.tabs.worksheetIds

instance (t : Traffic) (w : WorksheetId) : Decidable (t.HasLooked w) :=
  inferInstanceAs (Decidable (_ ∨ _))

/-- a connection comes for a worksheet whose closing looks for none any more -/
def ComesTooLate (t : Traffic) (e : Event) (w : WorksheetId) : Prop :=
  t.HasLooked w ∧ ∃ l ∈ (t.step e).session.links, l.1 = .worksheet w ∧ l ∉ t.session.links

instance (t : Traffic) (e : Event) (w : WorksheetId) : Decidable (t.ComesTooLate e w) :=
  inferInstanceAs (Decidable (_ ∧ _))

def Sole (t : Traffic) (w : WorksheetId) : Prop :=
  ∀ id, (.worksheet w, id) ∈ t.session.links → .closing w id ∈ t.awaits

def Late (t : Traffic) (w : WorksheetId) : Prop :=
  ∃ id, (.worksheet w, id) ∈ t.session.links ∧
    ∀ a ∈ t.awaits, a.leaving? = some id → ∃ c next, a = .replacing w id c next

section
variable {t : Traffic} {e : Event} {w : WorksheetId} {task : Nat}

theorem exists_closing {as : List Await} :
    (∃ a ∈ as, a.looked? = some w) ↔ ∃ c, .closing w c ∈ as := by
  constructor
  · rintro ⟨a, ha, hw⟩
    cases a with
    | closing v c =>
      cases hw
      exact ⟨c, ha⟩
    | _ => cases hw
  · rintro ⟨c, hc⟩
    exact ⟨_, hc, rfl⟩

theorem hasLooked_of_mem {c : ConnectionId} (h : .closing w c ∈ t.awaits) : t.HasLooked w :=
  .inl ⟨_, h, rfl⟩

theorem HasLooked.step (h : t.HasLooked w) (ho : Orderly t.session) (hf : t.session.Files e)
    (hd : w.number ≤ t.session.worksheetsDrawn) : (t.step e).HasLooked w := by
  obtain ⟨st, as, hg⟩ := t.goes e hf
  rcases h with hlook | hgone
  · obtain ⟨c, hc⟩ := exists_closing.mp hlook
    rcases hg.mem_stays hc with hcause | hstays
    · have hm := hg.moves
      rw [hcause] at hm
      refine .inr ?_
      rw [hg.session]
      exact (hm.removed ho).1
    · exact hasLooked_of_mem (hg.mem_later.mpr (.inr hstays))
  · refine .inr ?_
    rw [hg.session]
    exact fun hmem => hgone (hg.moves.churns.worksheet_old ho hd hmem)

/-- once it has looked, the closing of a worksheet waits for its connection only -/
theorem Stage.closing_of_looked (h : t.Stage w task) (hlook : t.HasLooked w)
    (hb : e ≠ .begin (.closeWorksheet w)) (hk : (t.cause e).closes? = some w) :
    ∃ c, t.cause e = .resumes (.closing w c) := by
  obtain ⟨p, reply, hh, hkp⟩ := exists_hears_of_closes hk hb
  obtain ⟨hone, _, hw⟩ := h.closers_eq (mem_closers.mpr ⟨hh.mem, hkp⟩)
  obtain ⟨c, hc⟩ := exists_closing.mp (hlook.resolve_right fun hgone => hgone hw)
  obtain ⟨q, hq, hqc⟩ := List.mem_map.mp hc
  have hmem : q ∈ t.closers w := mem_closers.mpr ⟨hq, by rw [hqc]; rfl⟩
  rw [hone] at hmem
  cases List.mem_singleton.mp hmem
  exact ⟨c, hh.cause.trans (congrArg Cause.resumes hqc)⟩

/-- **The worksheet keeps no other connection**, as long as none comes too late. -/
theorem sole_step (ht : Tended t.session t.awaits) (hf : t.session.Files e)
    (h : t.HasLooked w → t.Sole w) (hnot : ¬ t.ComesTooLate e w)
    (hlook : (t.step e).HasLooked w) : (t.step e).Sole w := by
  obtain ⟨st, as, hg⟩ := t.goes e hf
  intro id hl
  by_cases hbefore : t.HasLooked w
  · have hold : (.worksheet w, id) ∈ t.session.links := by
      by_contra hnew
      exact hnot ⟨hbefore, _, hl, rfl, hnew⟩
    rcases hg.mem_stays (h hbefore id hold) with hcause | hstays
    · have hm := hg.moves
      rw [hcause] at hm
      rw [hg.session] at hl
      exact absurd hl (hm.removed ht.orderly).2
    · exact hg.mem_later.mpr (.inr hstays)
  · -- it looks now
    have hw : w ∈ t.session.store.tabs.worksheetIds := by
      by_contra hgone
      exact hbefore (.inr hgone)
    have hnow : (∃ c, .closing w c ∈ st.2.awaits) ∨ w ∉ st.1.store.tabs.worksheetIds := by
      rcases hlook with hlook | hgone
      · obtain ⟨c, hc⟩ := exists_closing.mp hlook
        rcases hg.mem_later.mp hc with hc | hc
        · exact .inl ⟨c, hc⟩
        · exact absurd (hasLooked_of_mem (hg.mem_before hc)) hbefore
      · rw [hg.session] at hgone
        exact .inr hgone
    have hno : ∀ c, t.cause e ≠ .resumes (.closing w c) := fun c hc =>
      hbefore (hasLooked_of_mem (mem_awaits_of_cause hc))
    rw [hg.session] at hl
    exact hg.mem_later.mpr (.inl (hg.moves.sole ht.orderly ht.keyed hno hw hnow hl))

end

section
variable {u : Setup} {run : List Event} {w : WorksheetId} {task : Nat}

theorem settled_of_mem {b : Binding} {id : ConnectionId}
    (h : (b, id) ∈ (after u run).session.links) : (after u run).Settled id where
  known := mem_ids_of_linked (List.mem_append_left _ h)
  unclaimed := by
    have hn := linked_nodup u run
    unfold linked at hn
    rw [List.map_append, List.nodup_append] at hn
    intro l hl heq
    exact hn.2.2 _ (List.mem_map_of_mem h) _ (List.mem_map_of_mem hl) heq.symm

theorem Settled.step {e : Event} {st : Session.Step} {as : List Await} {id : ConnectionId}
    (h : (after u run).Settled id) (hg : (after u run).Goes e st as) :
    (after u (e :: run)).Settled id where
  known := ids_subset (List.suffix_cons e run) h.known
  unclaimed := by
    intro l hl heq
    obtain ⟨b, hb, hlb⟩ := List.mem_flatMap.mp hl
    rcases hg.mem_later.mp hb with hb | hb
    · -- a claim that is new is to a connection that is
      have hgain := hg.moves.claims (List.mem_flatMap.mpr ⟨b, hb, hlb⟩)
      exact (gains_new hgain).1 (heq ▸ h.known)
    · exact h.unclaimed l (List.mem_flatMap.mpr ⟨b, hg.mem_before hb, hlb⟩) heq

/-- what is being given back was handed out, and is not on its way to the record -/
theorem settled_of_leaving (hf : (fresh u).Throughout (fun t => t.session.Files) run) {a : Await}
    {id : ConnectionId} (ha : a ∈ (after u run).awaits) (hid : a.leaving? = some id) :
    (after u run).Settled id := by
  induction run generalizing a id with
  | nil => cases ha
  | cons e run ih =>
    obtain ⟨st, as, hg⟩ := (after u run).goes e hf.1
    rcases hg.mem_later.mp ha with ha | ha
    · obtain ⟨l, hl, rfl⟩ := hg.moves.leaving ha hid
      exact (settled_of_mem hl).step hg
    · exact (ih hf.2 (hg.mem_before ha) hid).step hg

theorem not_releasing (hf : (fresh u).Throughout (fun t => t.session.Files) run)
    (hr : ∀ c, .begin (.release c) ∉ run) (c : ConnectionId) :
    .releasing c ∉ (after u run).awaits := by
  induction run with
  | nil => exact nofun
  | cons e run ih =>
    obtain ⟨st, as, hg⟩ := (after u run).goes e hf.1
    intro hmem
    rcases hg.mem_later.mp hmem with hmem | hmem
    · have he := eq_begin_of_cause (hg.moves.byHand hmem)
      exact hr c (he ▸ List.mem_cons_self)
    · exact ih hf.2 (fun c h => hr c (List.mem_cons_of_mem e h)) (hg.mem_before hmem)

/-- a connection that comes too late is there to stay -/
theorem late_of_comes {e : Event} (hf : (fresh u).Throughout (fun t => t.session.Files) (e :: run))
    (h : (after u run).ComesTooLate e w) : (after u (e :: run)).Late w := by
  obtain ⟨_, ⟨b, id⟩, hl, rfl, hnew⟩ := h
  obtain ⟨st, as, hg⟩ := (after u run).goes e hf.1
  have hl' : (.worksheet w, id) ∈ st.1.links := hg.session ▸ hl
  obtain ⟨hfrom, hnone⟩ := hg.moves.comes hl' hnew
  refine ⟨id, hl, fun a ha hid => ?_⟩
  rcases hg.mem_later.mp ha with ha | ha
  · rw [hnone a ha] at hid
    cases hid
  · have hs := settled_of_leaving hf.2 (hg.mem_before ha) hid
    rcases hfrom with hclaim | hgain
    · exact absurd rfl (hs.unclaimed _ (mem_claims_of_cause hclaim))
    · exact absurd hs.known (gains_new hgain).1

/-- **A worksheet keeps a connection that came too late**, or the one that took its place. -/
theorem late_step {e : Event} (hf : (fresh u).Throughout (fun t => t.session.Files) (e :: run))
    (hr : ∀ c, .begin (.release c) ∉ run) (hs : (after u run).Stage w task)
    (hlook : (after u run).HasLooked w) (hb : e ≠ .begin (.closeWorksheet w))
    (h : (after u run).Late w) : (after u (e :: run)).Late w := by
  obtain ⟨id, hl, hleave⟩ := h
  obtain ⟨st, as, hg⟩ := (after u run).goes e hf.1
  have ht := tended_after hf.2
  have hid := settled_of_mem hl
  have hkeeps := hg.moves.keeps ht.keyed
    (fun v old c next hc => ht.replacing v old c next (mem_awaits_of_cause hc))
    (fun c hc => not_releasing hf.2 hr c (mem_awaits_of_cause hc))
    (hs.closing_of_looked hlook hb) hl
    (fun a hc hid => hleave a (mem_awaits_of_cause hc) hid)
    (fun l hl' => hid.unclaimed l (mem_claims_of_cause hl'))
    (fun l hgain heq => (gains_new hgain).1 (heq ▸ hid.known))
  rw [← hg.session] at hkeeps
  rcases hkeeps with ⟨old, c, next, hc, hin, hnone⟩ | ⟨hin, hstay⟩
  · -- the one that takes its place was not on record
    refine ⟨c.id, hin, fun a ha hid => ?_⟩
    rcases hg.mem_later.mp ha with ha | ha
    · rw [hnone a ha] at hid
      cases hid
    · have hs := settled_of_leaving hf.2 (hg.mem_before ha) hid
      have hclaim : (c.binding, c.id) ∈ ((after u run).cause e).claims := by
        rw [hc]
        exact List.mem_singleton_self _
      exact absurd rfl (hs.unclaimed _ (mem_claims_of_cause hclaim))
  · refine ⟨id, hin, fun a ha hid => ?_⟩
    rcases hg.mem_later.mp ha with ha | ha
    · exact hstay a ha hid
    · exact hleave a (hg.mem_before ha) hid

end

variable {u : Setup} {early late : List Event} {w : WorksheetId}

/-- **What connection a worksheet has once its closing has looked.** -/
theorem connection_after (h : ClosesOnce u w late early)
    (hr : ∀ c, .begin (.release c) ∉ closingRun w late early) :
    ((after u (closingRun w [] early)).Throughout (fun t e => ¬ t.ComesTooLate e w) late ∧
      ((after u (closingRun w late early)).HasLooked w →
        (after u (closingRun w late early)).Sole w)) ∨
    (¬ (after u (closingRun w [] early)).Throughout (fun t e => ¬ t.ComesTooLate e w) late ∧
      (after u (closingRun w late early)).HasLooked w ∧
      (after u (closingRun w late early)).Late w) := by
  induction late with
  | nil =>
    have hnot : ¬ (after u early).HasLooked w := by
      rintro (hlook | hgone)
      · obtain ⟨c, hc⟩ := exists_closing.mp hlook
        obtain ⟨q, hq, hqc⟩ := List.mem_map.mp hc
        have hmem : q ∈ (after u early).closers w := mem_closers.mpr ⟨hq, by rw [hqc]; rfl⟩
        rw [h.alone] at hmem
        cases hmem
      · exact hgone h.there
    refine .inl ⟨trivial, sole_step h.tended_early h.files.1 (fun h => absurd h hnot) ?_⟩
    exact fun hcomes => hnot hcomes.1
  | cons e late ih =>
    have h' := h.of_cons
    have hr' : ∀ c, .begin (.release c) ∉ closingRun w late early := fun c hmem =>
      hr c (List.mem_cons_of_mem e hmem)
    simp only [Throughout, steps_closingRun]
    rcases ih h' hr' with ⟨hall, hsole⟩ | ⟨hsome, hlook, hlate⟩
    · by_cases hcomes : (after u (closingRun w late early)).ComesTooLate e w
      · exact .inr ⟨fun h => h.1 hcomes, hcomes.1.step h'.tended.orderly h.files.1 h'.drawn,
          late_of_comes h.files hcomes⟩
      · exact .inl ⟨⟨hcomes, hall⟩, sole_step h'.tended h.files.1 hsole hcomes⟩
    · exact .inr ⟨fun h => hsome h.2, hlook.step h'.tended.orderly h.files.1 h'.drawn,
        late_step h.files hr' (stage_after h') hlook h.ne hlate⟩

end Traffic

end QueryDesk
