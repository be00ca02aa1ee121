import QueryDesk.Proofs.Links
import QueryDesk.Proofs.Removal

/-!
# Connections under two keys

A connection is found by its name and by whom it serves.

* `Connection.Apart c d`         two connections share neither name nor binding;
* `Connections.Change`, `after`  what is done to the connections of a session;
* `Replaces c cs cs'`            a connection takes the place of all that are not apart from it;
* `Edits id f cs cs'`            the one record under a name becomes what `f` makes of it;
* `Alike cs cs'`                 every look-up finds the same in both.

Every change keeps both keys (`Keyed.after`).  So a look-up, which stops at the first record that
it meets, finds the only one there is, wherever it stands (`Keyed.find?_eq_some`,
`Keyed.bound?_eq_some`), and a change under a name concerns this one record (`Keyed.split`), which is
the first (`Keyed.setDb_eq_modifyFirst`, `Keyed.remove_eq_eraseP`).  Setting a database and removing
a connection are one kind of change, and one lemma serves both (`Keyed.edits`).

**`two_keys`**: what each change does to the table, and that its order is never seen.
-/

namespace QueryDesk

/-- neither of one name nor of one binding -/
def Connection.Apart (c d : Connection) : Prop := c.id ≠ d.id ∧ c.binding ≠ d.binding

theorem Connection.Apart.symm {c d : Connection} (h : c.Apart d) : d.Apart c :=
  ⟨h.1.symm, h.2.symm⟩

namespace Connections
variable {cs cs' : Connections} {c d : Connection} {id : ConnectionId} {b : Binding}

/-! ## changes -/

inductive Change where
  | insert (c : Connection)
  | setDb (id : ConnectionId) (db : Option String)
  | remove (id : ConnectionId)

def change (cs : Connections) : Change → Connections
  | .insert c => cs.insert c
  | .setDb id db => cs.setDb id db
  | .remove id => cs.remove id

def after (cs : Connections) (changes : List Change) : Connections := changes.foldl change cs

theorem Keyed.change (h : cs.Keyed) (x : Change) : (cs.change x).Keyed := by
  cases x with
  | insert c => exact h.insert c
  | setDb id db => exact h.of_links (links_setDb cs id db)
  | remove id => exact h.remove id

theorem Keyed.after (h : cs.Keyed) (changes : List Change) : (cs.after changes).Keyed := by
  induction changes generalizing cs with
  | nil => exact h
  | cons x rest ih => exact ih (h.change x)

/-! ## looking up -/

/-- when no two items have one key, whatever has the key is found -/
theorem find?_key_eq_some {α κ : Type} [DecidableEq κ] (key : α → κ) {l : List α}
    (hn : (l.map key).Nodup) {k : κ} {a : α} :
    l.find? (fun x => key x = k) = some a ↔ a ∈ l ∧ key a = k := by
  refine ⟨fun h => ⟨List.mem_of_find?_eq_some h, by simpa using List.find?_some h⟩, ?_⟩
  rintro ⟨ha, rfl⟩
  induction l with
  | nil => cases ha
  | cons x l ih =>
    rw [List.map_cons, List.nodup_cons] at hn
    rcases List.mem_cons.mp ha with rfl | ha
    · exact List.find?_cons_of_pos (by simp)
    · have hne : key x ≠ key a := fun he => hn.1 (he ▸ List.mem_map_of_mem ha)
      rw [List.find?_cons_of_neg (by simp [hne])]
      exact ih hn.2 ha

theorem Keyed.find?_eq_some (h : cs.Keyed) :
    cs.find? id = some c ↔ c ∈ cs.records ∧ c.id = id :=
  find?_key_eq_some Connection.id (cs.ids_eq ▸ h.ids)

theorem Keyed.bound?_eq_some (h : cs.Keyed) :
    cs.bound? b = some c ↔ c ∈ cs.records ∧ c.binding = b :=
  find?_key_eq_some Connection.binding (cs.bindings_eq ▸ h.bindings)

/-- every look-up finds the same in both -/
structure Alike (cs cs' : Connections) : Prop where
  find? : ∀ id, cs.find? id = cs'.find? id
  ofTab? : ∀ tab, cs.ofTab? tab = cs'.ofTab? tab
  ofWorksheet? : ∀ w, cs.ofWorksheet? w = cs'.ofWorksheet? w

/-- what is found does not depend on where it stands -/
theorem Keyed.alike (h : cs.Keyed) (h' : cs'.Keyed)
    (hsame : ∀ c, c ∈ cs.records ↔ c ∈ cs'.records) : Alike cs cs' := by
  have hbound : ∀ b, cs.bound? b = cs'.bound? b := by
    intro b
    ext c
    rw [h.bound?_eq_some, h'.bound?_eq_some, hsame]
  refine ⟨fun id => ?_, fun tab => hbound (.tab tab), fun w => hbound (.worksheet w)⟩
  ext c
  rw [h.find?_eq_some, h'.find?_eq_some, hsame]

/-! ## a connection is inserted -/

theorem mem_insert_iff : d ∈ (cs.insert c).records ↔ d ∈ cs.records ∧ d.Apart c ∨ d = c := by
  simp [insert, Connection.Apart, and_comm]

/-- an item behind those under other keys is found under its key, and the others are as before -/
theorem find?_filter_append {α κ : Type} [DecidableEq κ] (key : α → κ) (q : α → Bool) {l : List α}
    (hn : (l.map key).Nodup) (a : α) (k : κ) :
    (l.filter (fun x => key x ≠ key a && q x) ++ [a]).find? (fun x => key x = k) =
      if k = key a then some a else (l.find? fun x => key x = k).filter q := by
  rw [List.find?_append]
  split
  · next hk =>
    have hnone : (l.filter fun x => key x ≠ key a && q x).find? (fun x => key x = k) = none := by
      refine List.find?_eq_none.mpr fun x hx => ?_
      have hne := (List.mem_filter.mp hx).2
      simp_all
    rw [hnone, Option.none_or, List.find?_cons_of_pos (by simp [hk])]
  · next hk =>
    rw [List.find?_cons_of_neg (by simpa using Ne.symm hk), List.find?_nil, Option.or_none]
    ext x
    rw [find?_key_eq_some key (hn.sublist (List.filter_sublist.map key)), List.mem_filter,
      Option.filter_eq_some_iff, find?_key_eq_some key hn, Bool.and_eq_true, decide_eq_true_eq]
    constructor
    · rintro ⟨⟨hx, _, hq⟩, hkey⟩
      exact ⟨⟨hx, hkey⟩, hq⟩
    · rintro ⟨⟨hx, rfl⟩, hq⟩
      exact ⟨⟨hx, hk, hq⟩, rfl⟩

/-- from `cs` to `cs'` a connection takes the place of those with its name or its binding -/
structure Replaces (c : Connection) (cs cs' : Connections) : Prop where
  find? : ∀ id, cs'.find? id =
    if id = c.id then some c else (cs.find? id).filter (·.binding ≠ c.binding)
  bound? : ∀ b, cs'.bound? b =
    if b = c.binding then some c else (cs.bound? b).filter (·.id ≠ c.id)
  records : ∃ kept, cs'.records = kept ++ [c] ∧ kept.Sublist cs.records ∧
    ∀ d, d ∈ kept ↔ d ∈ cs.records ∧ d.Apart c

theorem Keyed.replaces (h : cs.Keyed) (c : Connection) : Replaces c cs (cs.insert c) where
  find? := by
    intro id
    -- the test for the key that is looked up comes first
    have hcomm : cs.records.filter (fun d => d.binding ≠ c.binding && d.id ≠ c.id) =
        cs.records.filter fun d => d.id ≠ c.id && d.binding ≠ c.binding :=
      List.filter_congr fun d _ => Bool.and_comm ..
    rw [Connections.insert, hcomm]
    exact find?_filter_append Connection.id _ (cs.ids_eq ▸ h.ids) c id
  bound? := fun b => find?_filter_append Connection.binding _ (cs.bindings_eq ▸ h.bindings) c b
  records := by
    refine ⟨_, rfl, List.filter_sublist, fun d => ?_⟩
    simp [Connection.Apart, and_comm]

/-- of connections that are all apart, none takes the place of another -/
theorem mem_after_inserts {l : List Connection} (hl : l.Pairwise Connection.Apart) :
    d ∈ (cs.after (l.map .insert)).records ↔
      d ∈ cs.records ∧ (∀ c ∈ l, d.Apart c) ∨ d ∈ l := by
  induction l generalizing cs with
  | nil => simp [after]
  | cons c l ih =>
    obtain ⟨hc, hl⟩ := List.pairwise_cons.mp hl
    show d ∈ ((cs.insert c).after (l.map .insert)).records ↔ _
    rw [ih hl, mem_insert_iff, List.forall_mem_cons, List.mem_cons]
    constructor
    · rintro (⟨⟨hd, hdc⟩ | rfl, hrest⟩ | hd)
      · exact .inl ⟨hd, hdc, hrest⟩
      · exact .inr (.inl rfl)
      · exact .inr (.inr hd)
    · rintro (⟨hd, hdc, hrest⟩ | rfl | hd)
      · exact .inl ⟨.inl ⟨hd, hdc⟩, hrest⟩
      · exact .inl ⟨.inr rfl, hc⟩
      · exact .inr hd

/-! ## a record is edited -/

/-- the first record of a name is the only one, so its database is set -/
theorem Keyed.setDb_eq_modifyFirst (h : cs.Keyed) (id : ConnectionId) (db : Option String) :
    cs.setDb id db = ⟨Tabs.modifyFirst (·.id = id) (fun c => { c with db }) cs.records⟩ :=
  congrArg Connections.mk (Tabs.modifyFirst_eq_map Connection.id (cs.ids_eq ▸ h.ids)).symm

/-- ... and it is the one that is removed -/
theorem Keyed.remove_eq_eraseP (h : cs.Keyed) (id : ConnectionId) :
    cs.remove id = ⟨cs.records.eraseP (·.id = id)⟩ :=
  congrArg Connections.mk (Tabs.eraseP_eq_filter Connection.id (cs.ids_eq ▸ h.ids)).symm

/-- a record under the name becomes what `f` makes of it -/
def edit (id : ConnectionId) (f : Connection → Option Connection) (c : Connection) :
    Option Connection :=
  if c.id = id then f c else some c

/-- from `cs` to `cs'` the record under the name becomes what `f` makes of it, in its place; if
there is none, nothing changes -/
structure Edits (id : ConnectionId) (f : Connection → Option Connection) (cs cs' : Connections) :
    Prop where
  find? : ∀ other, cs'.find? other = if other = id then (cs.find? id).bind f else cs.find? other
  bound? : ∀ b, cs'.bound? b = (cs.bound? b).bind (edit id f)
  known : ∀ c, cs.find? id = some c → ∃ front back, cs.records = front ++ c :: back ∧
    cs'.records = front ++ (f c).toList ++ back
  unknown : cs.find? id = none → cs' = cs

/-- the record under a name stands among records under other names -/
theorem Keyed.split (h : cs.Keyed) (hc : cs.find? id = some c) :
    ∃ front back, cs.records = front ++ c :: back ∧ c.id = id ∧
      (∀ d ∈ front, d.id ≠ id) ∧ ∀ d ∈ back, d.id ≠ id := by
  obtain ⟨hmem, rfl⟩ := h.find?_eq_some.mp hc
  obtain ⟨front, back, hsplit⟩ := List.append_of_mem hmem
  have hn := h.ids
  rw [ids_eq, hsplit, List.map_append, List.map_cons, List.nodup_middle, List.nodup_cons,
    List.mem_append, not_or] at hn
  exact ⟨front, back, hsplit, rfl,
    fun d hd he => hn.1.1 (he ▸ List.mem_map_of_mem hd),
    fun d hd he => hn.1.2 (he ▸ List.mem_map_of_mem hd)⟩

section
variable {f : Connection → Option Connection}

theorem filterMap_edit_of_ne {l : List Connection} (h : ∀ d ∈ l, d.id ≠ id) :
    l.filterMap (edit id f) = l :=
  (List.filterMap_congr fun d hd => if_neg (h d hd)).trans List.filterMap_some

/-- if `f` keeps the keys of a record, so does the edit -/
theorem keys_of_edit (hf : ∀ c d, f c = some d → d.id = c.id ∧ d.binding = c.binding)
    (h : edit id f c = some d) : d.id = c.id ∧ d.binding = c.binding := by
  unfold edit at h
  split at h
  · exact hf c d h
  · cases h
    exact ⟨rfl, rfl⟩

theorem Keyed.edits (h : cs.Keyed) (h' : cs'.Keyed)
    (hf : ∀ c d, f c = some d → d.id = c.id ∧ d.binding = c.binding)
    (hrecords : cs'.records = cs.records.filterMap (edit id f)) : Edits id f cs cs' where
  find? := by
    intro other
    ext d
    rw [h'.find?_eq_some, hrecords, List.mem_filterMap]
    split
    · next hid =>
      subst hid
      rw [Option.bind_eq_some_iff]
      constructor
      · rintro ⟨⟨c, hc, hd⟩, rfl⟩
        have hid := (keys_of_edit hf hd).1.symm
        exact ⟨c, h.find?_eq_some.mpr ⟨hc, hid⟩, (if_pos hid).symm.trans hd⟩
      · rintro ⟨c, hc, hd⟩
        obtain ⟨hmem, rfl⟩ := h.find?_eq_some.mp hc
        exact ⟨⟨c, hmem, (if_pos rfl).trans hd⟩, (hf c d hd).1⟩
    · next hne =>
      rw [h.find?_eq_some]
      constructor
      · rintro ⟨⟨c, hc, hd⟩, rfl⟩
        have hid := (keys_of_edit hf hd).1
        obtain rfl := Option.some.inj ((if_neg (hid ▸ hne)).symm.trans hd)
        exact ⟨hc, rfl⟩
      · rintro ⟨hd, rfl⟩
        exact ⟨⟨d, hd, if_neg hne⟩, rfl⟩
  bound? := by
    intro b
    ext d
    rw [h'.bound?_eq_some, hrecords, List.mem_filterMap, Option.bind_eq_some_iff]
    constructor
    · rintro ⟨⟨c, hc, hd⟩, rfl⟩
      exact ⟨c, h.bound?_eq_some.mpr ⟨hc, (keys_of_edit hf hd).2.symm⟩, hd⟩
    · rintro ⟨c, hc, hd⟩
      obtain ⟨hmem, rfl⟩ := h.bound?_eq_some.mp hc
      exact ⟨⟨c, hmem, hd⟩, (keys_of_edit hf hd).2⟩
  known := by
    intro c hc
    obtain ⟨front, back, hsplit, hid, hfront, hback⟩ := h.split hc
    refine ⟨front, back, hsplit, ?_⟩
    have hedit : edit id f c = f c := if_pos hid
    rw [hrecords, hsplit, List.filterMap_append, List.filterMap_cons, hedit,
      filterMap_edit_of_ne hfront, filterMap_edit_of_ne hback, List.append_assoc]
    cases f c <;> rfl
  unknown := by
    intro hno
    have hne : ∀ d ∈ cs.records, d.id ≠ id := fun d hd => by
      simpa using List.find?_eq_none.mp hno d hd
    have hsame := hrecords.trans (filterMap_edit_of_ne hne)
    exact congrArg Connections.mk hsame

end

theorem Keyed.edits_setDb (h : cs.Keyed) (id : ConnectionId) (db : Option String) :
    Edits id (fun c => some { c with db }) cs (cs.setDb id db) := by
  refine h.edits (h.change (.setDb id db)) ?_ ?_
  · rintro c d ⟨⟩
    exact ⟨rfl, rfl⟩
  · rw [setDb, ← List.filterMap_eq_map]
    refine List.filterMap_congr fun c _ => ?_
    unfold edit
    split
    · next hid => simp [hid]
    · next hne => simp [hne]

theorem Keyed.edits_remove (h : cs.Keyed) (id : ConnectionId) :
    Edits id (fun _ => none) cs (cs.remove id) := by
  refine h.edits (h.remove id) nofun ?_
  rw [Connections.remove, ← List.filterMap_eq_filter]
  refine List.filterMap_congr fun c _ => ?_
  unfold edit
  split
  · next hid => simp [hid]
  · next hne => simp [hne]

/-- **A table with two keys.**  After any changes no two connections have one name, and no two one
binding.  A connection that is inserted is found by both, the records that share its name or its
binding are gone, and all others stay as they are.  Setting the database changes the one record of
that name, removing takes out that one.  What is found depends on which records there are, however
they came; so connections that are apart may be inserted in any order. -/
theorem two_keys (changes : List Change) :
    let cs := empty.after changes
    cs.Keyed ∧
    (∀ c, Replaces c cs (cs.insert c)) ∧
    (∀ id db, Edits id (fun c => some { c with db }) cs (cs.setDb id db)) ∧
    (∀ id, Edits id (fun _ => none) cs (cs.remove id)) ∧
    (∀ others, (∀ c, c ∈ (empty.after others).records ↔ c ∈ cs.records) →
      Alike (empty.after others) cs) ∧
    ∀ l l' : List Connection, l.Perm l' → l.Pairwise Connection.Apart →
      Alike (cs.after (l.map .insert)) (cs.after (l'.map .insert)) := by
  intro cs
  have h : cs.Keyed := Keyed.empty.after changes
  refine ⟨h, h.replaces, h.edits_setDb, h.edits_remove, fun others hsame => ?_,
    fun l l' hperm hapart => ?_⟩
  · exact (Keyed.empty.after others).alike h hsame
  · have hapart' := (hperm.pairwise_iff Connection.Apart.symm).mp hapart
    refine (h.after _).alike (h.after _) fun c => ?_
    simp only [mem_after_inserts hapart, mem_after_inserts hapart', hperm.mem_iff]

/-- one connection takes the place of two: of one by its name, of the other by its binding -/
example (t u v : UInt64) :
    (empty.after [.insert ⟨⟨"a"⟩, "s", t, none, .tab ⟨1⟩⟩, .insert ⟨⟨"b"⟩, "s", u, none, .tab ⟨2⟩⟩,
      .insert ⟨⟨"a"⟩, "s", v, none, .tab ⟨2⟩⟩]).records =
    [⟨⟨"a"⟩, "s", v, none, .tab ⟨2⟩⟩] := by
  rfl

end Connections

end QueryDesk
