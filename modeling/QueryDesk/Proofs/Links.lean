import Mathlib.Data.List.Nodup
import Mathlib.Data.List.Perm.Basic
import QueryDesk.Session.Connections

/-!
# Connections and whom they serve

Of the connections of a session it mostly matters whom each one serves.

* `Connections.links`   the bindings and names of all connections;
* `Connections.Keyed`   no two connections have one name, and no two one binding;
* `links_insert`, `links_remove`, `links_setDb`   what the operations do to the links.
-/

namespace QueryDesk.Connections

/-- whom each connection serves -/
def links (cs : Connections) : List (Binding × ConnectionId) :=
  cs.records.map fun c => (c.binding, c.id)

def bindings (cs : Connections) : List Binding := cs.links.map (·.1)

def ids (cs : Connections) : List ConnectionId := cs.links.map (·.2)

theorem bindings_eq (cs : Connections) : cs.bindings = cs.records.map (·.binding) := by
  rw [bindings, links, List.map_map]
  rfl

theorem ids_eq (cs : Connections) : cs.ids = cs.records.map (·.id) := by
  rw [ids, links, List.map_map]
  rfl

/-! ## operations -/

theorem links_insert (cs : Connections) (c : Connection) :
    (cs.insert c).links =
      cs.links.filter (fun l => l.1 ≠ c.binding && l.2 ≠ c.id) ++ [(c.binding, c.id)] := by
  simp [links, insert, List.filter_map, Function.comp_def]

theorem links_remove (cs : Connections) (id : ConnectionId) :
    (cs.remove id).links = cs.links.filter (·.2 ≠ id) := by
  simp [links, remove, List.filter_map, Function.comp_def]

theorem links_insert_sublist (cs : Connections) (c : Connection) :
    (cs.insert c).links.Sublist (cs.links ++ [(c.binding, c.id)]) := by
  rw [links_insert]
  exact List.filter_sublist.append (.refl _)

theorem links_remove_sublist (cs : Connections) (id : ConnectionId) :
    (cs.remove id).links.Sublist cs.links := by
  rw [links_remove]
  exact List.filter_sublist

theorem links_setDb (cs : Connections) (id : ConnectionId) (db : Option String) :
    (cs.setDb id db).links = cs.links := by
  simp only [links, setDb, List.map_map]
  refine List.map_congr_left fun c _ => ?_
  simp only [Function.comp]
  split <;> rfl

/-- a connection with a new name and a new binding takes no other's place -/
theorem links_insert_of_new {cs : Connections} {c : Connection} (hb : c.binding ∉ cs.bindings)
    (hid : c.id ∉ cs.ids) : (cs.insert c).links = cs.links ++ [(c.binding, c.id)] := by
  rw [links_insert, List.filter_eq_self.mpr]
  intro l hl
  have hb' : l.1 ≠ c.binding := fun h => hb (h ▸ List.mem_map_of_mem hl)
  have hid' : l.2 ≠ c.id := fun h => hid (h ▸ List.mem_map_of_mem hl)
  simp [hb', hid']

/-! ## looking up -/

theorem mem_links_of_bound? {cs : Connections} {b : Binding} {c : Connection}
    (h : cs.bound? b = some c) : (b, c.id) ∈ cs.links := by
  have hb : c.binding = b := by simpa using List.find?_some h
  exact hb ▸ List.mem_map_of_mem (List.mem_of_find?_eq_some h)

theorem not_mem_bindings_of_bound? {cs : Connections} {b : Binding} (h : cs.bound? b = none) :
    b ∉ cs.bindings := by
  intro hb
  obtain ⟨l, hl, rfl⟩ := List.mem_map.mp hb
  obtain ⟨c, hc, rfl⟩ := List.mem_map.mp hl
  have hno := List.find?_eq_none.mp h c hc
  simp at hno

theorem bound?_eq_none {cs : Connections} {b : Binding} : cs.bound? b = none ↔ b ∉ cs.bindings := by
  refine ⟨not_mem_bindings_of_bound?, fun h => List.find?_eq_none.mpr fun c hc he => h ?_⟩
  have hb : c.binding = b := of_decide_eq_true he
  exact hb ▸ List.mem_map_of_mem (List.mem_map_of_mem hc)

theorem exists_bound? {cs : Connections} {b : Binding} (h : b ∈ cs.bindings) :
    ∃ c, cs.bound? b = some c :=
  Option.ne_none_iff_exists'.mp fun hc => not_mem_bindings_of_bound? hc h

theorem mem_ids {cs : Connections} {l : Binding × ConnectionId} (h : l ∈ cs.links) :
    l.2 ∈ cs.ids := List.mem_map_of_mem h

theorem mem_bindings {cs : Connections} {l : Binding × ConnectionId} (h : l ∈ cs.links) :
    l.1 ∈ cs.bindings := List.mem_map_of_mem h

theorem mem_links_remove {cs : Connections} {id : ConnectionId} {l : Binding × ConnectionId} :
    l ∈ (cs.remove id).links ↔ l ∈ cs.links ∧ l.2 ≠ id := by
  simp [links_remove]

theorem mem_ids_remove {cs : Connections} {id other : ConnectionId} :
    other ∈ (cs.remove id).ids ↔ other ∈ cs.ids ∧ other ≠ id := by
  constructor
  · intro h
    obtain ⟨l, hl, rfl⟩ := List.mem_map.mp h
    obtain ⟨hmem, hne⟩ := mem_links_remove.mp hl
    exact ⟨mem_ids hmem, hne⟩
  · rintro ⟨h, hne⟩
    obtain ⟨l, hl, rfl⟩ := List.mem_map.mp h
    exact mem_ids (mem_links_remove.mpr ⟨hl, hne⟩)

theorem bindings_remove_subset {cs : Connections} (id : ConnectionId) :
    (cs.remove id).bindings ⊆ cs.bindings := by
  intro b hb
  obtain ⟨l, hl, rfl⟩ := List.mem_map.mp hb
  exact mem_bindings (mem_links_remove.mp hl).1

theorem mem_links_insert {cs : Connections} {c : Connection} {l : Binding × ConnectionId}
    (h : l ∈ (cs.insert c).links) : l ∈ cs.links ∨ l = (c.binding, c.id) :=
  (List.mem_append.mp ((cs.links_insert_sublist c).subset h)).imp_right List.mem_singleton.mp

theorem mem_bindings_insert {cs : Connections} {c : Connection} {b : Binding}
    (h : b ∈ (cs.insert c).bindings) : b = c.binding ∨ b ∈ cs.bindings := by
  obtain ⟨l, hl, rfl⟩ := List.mem_map.mp h
  rcases mem_links_insert hl with hl | rfl
  · exact .inr (mem_bindings hl)
  · exact .inl rfl

theorem mem_links_insert_self (cs : Connections) (c : Connection) :
    (c.binding, c.id) ∈ (cs.insert c).links := by
  rw [links_insert]
  exact List.mem_append_right _ (List.mem_singleton_self _)

theorem mem_links_insert_of_ne {cs : Connections} {c : Connection} {l : Binding × ConnectionId}
    (h : l ∈ cs.links) (hb : l.1 ≠ c.binding) (hid : l.2 ≠ c.id) : l ∈ (cs.insert c).links := by
  rw [links_insert]
  refine List.mem_append_left _ (List.mem_filter.mpr ⟨h, ?_⟩)
  simp [hb, hid]

/-- a connection with a new binding takes the place of no other name than its own -/
theorem mem_ids_insert {cs : Connections} {c : Connection} (hb : c.binding ∉ cs.bindings)
    {id : ConnectionId} : id ∈ (cs.insert c).ids ↔ id ∈ cs.ids ∨ id = c.id := by
  have hself := mem_ids (cs.mem_links_insert_self c)
  constructor
  · intro h
    obtain ⟨l, hl, rfl⟩ := List.mem_map.mp h
    rcases mem_links_insert hl with hl | rfl
    · exact .inl (mem_ids hl)
    · exact .inr rfl
  · rintro (h | rfl)
    · by_cases he : id = c.id
      · exact he ▸ hself
      · obtain ⟨l, hl, rfl⟩ := List.mem_map.mp h
        have hne : l.1 ≠ c.binding := fun hlb => hb (hlb ▸ mem_bindings hl)
        exact mem_ids (mem_links_insert_of_ne hl hne he)
    · exact hself

/-! ## keys -/

/-- no two connections have one name, and no two one binding -/
structure Keyed (cs : Connections) : Prop where
  ids : cs.ids.Nodup
  bindings : cs.bindings.Nodup

namespace Keyed
variable {cs : Connections}

theorem empty : Keyed Connections.empty := ⟨List.nodup_nil, List.nodup_nil⟩

theorem of_links {cs' : Connections} (h : cs.Keyed) (hs : cs'.links = cs.links) : cs'.Keyed := by
  constructor
  · unfold Connections.ids
    rw [hs]
    exact h.ids
  · unfold Connections.bindings
    rw [hs]
    exact h.bindings

theorem remove (h : cs.Keyed) (id : ConnectionId) : (cs.remove id).Keyed := by
  have hsub := cs.links_remove_sublist id
  exact ⟨h.ids.sublist (hsub.map _), h.bindings.sublist (hsub.map _)⟩

/-- a connection that is inserted leaves none with its name or its binding beside it -/
theorem insert (h : cs.Keyed) (c : Connection) : (cs.insert c).Keyed := by
  have key : ∀ {β : Type} (f : Binding × ConnectionId → β), (cs.links.map f).Nodup →
      (∀ l ∈ cs.links, l.1 ≠ c.binding → l.2 ≠ c.id → f l ≠ f (c.binding, c.id)) →
      ((cs.insert c).links.map f).Nodup := by
    intro β f hn hne
    rw [links_insert, List.map_append, List.nodup_append]
    refine ⟨hn.sublist (List.filter_sublist.map f), by simp, ?_⟩
    intro x hx y hy
    obtain ⟨l, hl, rfl⟩ := List.mem_map.mp hx
    rw [List.mem_singleton.mp hy]
    obtain ⟨hl, hkeep⟩ := List.mem_filter.mp hl
    simp only [Bool.and_eq_true, decide_eq_true_eq] at hkeep
    exact hne l hl hkeep.1 hkeep.2
  exact ⟨key (·.2) h.ids fun _ _ _ hid => hid, key (·.1) h.bindings fun _ _ hb _ => hb⟩

/-- without a connection nobody is served under its binding -/
theorem not_mem_bindings_remove (h : cs.Keyed) {b : Binding} {id : ConnectionId}
    (hl : (b, id) ∈ cs.links) : b ∉ (cs.remove id).bindings := by
  intro hb
  obtain ⟨l, hmem, hlb⟩ := List.mem_map.mp hb
  obtain ⟨hmem, hne⟩ := mem_links_remove.mp hmem
  have he := List.inj_on_of_nodup_map h.bindings hmem hl hlb
  exact hne (congrArg Prod.snd he)

theorem eq_of_mem_links (h : cs.Keyed) {l l' : Binding × ConnectionId} (hl : l ∈ cs.links)
    (hl' : l' ∈ cs.links) (hid : l.2 = l'.2) : l = l' :=
  List.inj_on_of_nodup_map h.ids hl hl' hid

/-- a connection taken out, and put behind the others -/
theorem perm_ids_remove (h : cs.Keyed) {id : ConnectionId} (hid : id ∈ cs.ids) :
    ((cs.remove id).ids ++ [id]).Perm cs.ids := by
  have hids : (cs.remove id).ids = cs.ids.erase id := by
    rw [h.ids.erase_eq_filter]
    unfold Connections.ids
    rw [links_remove, List.filter_map]
    refine congrArg (List.map _) (List.filter_congr fun l _ => ?_)
    simp [bne, Function.comp, beq_eq_decide]
  rw [hids]
  exact (List.perm_append_comm.trans (List.perm_cons_erase hid).symm)

end Keyed

end QueryDesk.Connections
