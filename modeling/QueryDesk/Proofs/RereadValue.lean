import QueryDesk.Json.Reading
import QueryDesk.Proofs.JsonText
import QueryDesk.Proofs.PrintedDouble

/-!
# Values that are written and read again

* `Json.nesting`     how deep the brackets of a value go;
* `Json.rereading`   what a value becomes when it is written and read;
* `Json.Part`        the values inside a value, and the value itself;
* `Json.Lasting`     keys are distinct and doubles are read back.

**`Reading.value_source`**: a written value is read, as its rereading, exactly when there is room for
its brackets.  A lasting value is its own rereading (`Lasting.rereading_eq`).
-/

namespace QueryDesk.Json

/-! ## brackets -/

mutual

def nesting : Json → Nat
  | null | bool _ | number _ | string _ => 0
  | array items => 1 + nestings items
  | object members => 1 + memberNestings members

def nestings : List Json → Nat
  | [] => 0
  | j :: rest => max j.nesting (nestings rest)

def memberNestings : List (String × Json) → Nat
  | [] => 0
  | (_, j) :: rest => max j.nesting (memberNestings rest)

end

theorem nestings_le_iff {items : List Json} {n : Nat} :
    nestings items ≤ n ↔ ∀ j ∈ items, j.nesting ≤ n := by
  induction items with
  | nil => exact ⟨fun _ => nofun, fun _ => Nat.zero_le n⟩
  | cons j items ih => rw [nestings, Nat.max_le, ih, List.forall_mem_cons]

theorem memberNestings_le_iff {members : List (String × Json)} {n : Nat} :
    memberNestings members ≤ n ↔ ∀ m ∈ members, m.2.nesting ≤ n := by
  induction members with
  | nil => exact ⟨fun _ => nofun, fun _ => Nat.zero_le n⟩
  | cons m members ih =>
    obtain ⟨key, j⟩ := m
    rw [memberNestings, Nat.max_le, ih, List.forall_mem_cons]

theorem nesting_array_le_iff {items : List Json} {n : Nat} :
    (array items).nesting ≤ n + 1 ↔ ∀ j ∈ items, j.nesting ≤ n := by
  rw [nesting, Nat.add_comm, Nat.add_le_add_iff_right, nestings_le_iff]

theorem nesting_object_le_iff {members : List (String × Json)} {n : Nat} :
    (object members).nesting ≤ n + 1 ↔ ∀ m ∈ members, m.2.nesting ≤ n := by
  rw [nesting, Nat.add_comm, Nat.add_le_add_iff_right, memberNestings_le_iff]

/-! ## members put together -/

theorem mem_put {key : String} {j : Json} {ms : List (String × Json)} {m : String × Json}
    (h : m ∈ put key j ms) : m ∈ ms ∨ m = (key, j) := by
  induction ms with
  | nil => exact .inr (List.mem_singleton.mp h)
  | cons m' ms ih =>
    obtain ⟨k, v⟩ := m'
    rw [put] at h
    split at h
    next hk =>
      rcases List.mem_cons.mp h with rfl | hm
      · exact .inr (by rw [hk])
      · exact .inl (List.mem_cons_of_mem _ hm)
    next =>
      rcases List.mem_cons.mp h with rfl | hm
      · exact .inl List.mem_cons_self
      · exact (ih hm).imp_left (List.mem_cons_of_mem _)

theorem mem_foldl_put {members acc : List (String × Json)} {m : String × Json}
    (h : m ∈ members.foldl (fun ms m => put m.1 m.2 ms) acc) : m ∈ acc ∨ m ∈ members := by
  induction members generalizing acc with
  | nil => exact .inl h
  | cons m' members ih =>
    rcases ih h with hacc | hm
    · rcases mem_put hacc with hold | rfl
      · exact .inl hold
      · exact .inr List.mem_cons_self
    · exact .inr (List.mem_cons_of_mem _ hm)

theorem nesting_ofMembers_le {members : List (String × Json)} {n : Nat}
    (h : memberNestings members ≤ n) : (ofMembers members).nesting ≤ n + 1 := by
  rw [ofMembers, nesting_object_le_iff]
  intro m hm
  exact memberNestings_le_iff.mp h m ((mem_foldl_put hm).resolve_left List.not_mem_nil)

/-- distinct keys stay in their places -/
theorem ofMembers_of_nodup {members : List (String × Json)} (h : (members.map (·.1)).Nodup) :
    ofMembers members = object members := by
  have foldl_put : ∀ (members acc : List (String × Json)), ((acc ++ members).map (·.1)).Nodup →
      members.foldl (fun ms m => put m.1 m.2 ms) acc = acc ++ members := by
    intro members
    induction members with
    | nil => exact fun acc _ => (List.append_nil acc).symm
    | cons m members ih =>
      intro acc hnodup
      have hnew : ∀ x ∈ acc, x.1 ≠ m.1 := by
        intro x hx heq
        rw [List.map_append, List.map_cons] at hnodup
        exact (List.nodup_append.mp hnodup).2.2 _ (List.mem_map_of_mem hx) _ List.mem_cons_self
          heq
      rw [List.foldl_cons, put_of_not_mem hnew,
        ih (acc ++ [m]) (by rwa [List.append_assoc, List.singleton_append]), List.append_assoc,
        List.singleton_append]
  rw [ofMembers, foldl_put members [] h, List.nil_append]

/-! ## what is read -/

mutual

def rereading : Json → Json
  | null => null
  | bool b => bool b
  | number n => number (n.numeral.number?.getD n)
  | string s => string s
  | array items => array (rereadings items)
  | object members => ofMembers (memberRereadings members)

def rereadings : List Json → List Json
  | [] => []
  | j :: rest => j.rereading :: rereadings rest

def memberRereadings : List (String × Json) → List (String × Json)
  | [] => []
  | (key, j) :: rest => (key, j.rereading) :: memberRereadings rest

end

theorem rereadings_eq (items : List Json) : rereadings items = items.map rereading := by
  induction items with
  | nil => rfl
  | cons j items ih => rw [rereadings, ih, List.map_cons]

theorem Piece.text?_map_char (s : String) : Piece.text? (s.toList.map .char) = some s := by
  rw [Piece.text?, Piece.chars?_map_char, Option.map_some, String.ofList_toList]

namespace Reading

mutual

/-- **A written value is read when there is room for it.** -/
theorem value_source (j : Json) (room : Nat) :
    value room j.source = if j.nesting ≤ room then some j.rereading else none := by
  match j with
  | .null => rw [source, value, nesting, if_pos (Nat.zero_le room), rereading]
  | .bool b => rw [source, value, nesting, if_pos (Nat.zero_le room), rereading]
  | .number n =>
    obtain ⟨m, hm⟩ := Option.isSome_iff_exists.mp n.number?_numeral_isSome
    rw [source, value, nesting, if_pos (Nat.zero_le room), rereading, hm, Option.map_some,
      Option.getD_some]
  | .string s =>
    rw [source, value, nesting, if_pos (Nat.zero_le room), rereading, Piece.text?_map_char,
      Option.map_some]
  | .array items =>
    rw [source, nesting, rereading]
    cases room with
    | zero => rw [value, if_neg (by omega)]
    | succ room =>
      rw [value, values_source items room]
      simp only [apply_ite (Option.map Json.array), Option.map_some, Option.map_none,
        Nat.add_comm 1, Nat.add_le_add_iff_right]
  | .object members =>
    rw [source, nesting, rereading]
    cases room with
    | zero => rw [value, if_neg (by omega)]
    | succ room =>
      rw [value, members?_source members room]
      simp only [apply_ite (Option.map ofMembers), Option.map_some, Option.map_none,
        Nat.add_comm 1, Nat.add_le_add_iff_right]

theorem values_source (items : List Json) (room : Nat) :
    values room (sources items) =
      if nestings items ≤ room then some (rereadings items) else none := by
  match items with
  | [] => rw [sources, values, nestings, if_pos (Nat.zero_le room), rereadings]
  | j :: rest =>
    rw [sources, values, value_source j room, values_source rest room, nestings, rereadings]
    by_cases hj : j.nesting ≤ room
    · by_cases hrest : nestings rest ≤ room
      · rw [if_pos hj, if_pos hrest, if_pos (Nat.max_le.mpr ⟨hj, hrest⟩)]
        rfl
      · rw [if_neg hrest, if_neg fun h => hrest (Nat.max_le.mp h).2, if_pos hj]
        rfl
    · rw [if_neg hj, if_neg fun h => hj (Nat.max_le.mp h).1]
      rfl

theorem members?_source (members : List (String × Json)) (room : Nat) :
    members? room (memberSources members) =
      if memberNestings members ≤ room then some (memberRereadings members) else none := by
  match members with
  | [] => rw [memberSources, members?, memberNestings, if_pos (Nat.zero_le room), memberRereadings]
  | (key, j) :: rest =>
    rw [memberSources, members?, Piece.text?_map_char, value_source j room,
      members?_source rest room, memberNestings, memberRereadings]
    by_cases hj : j.nesting ≤ room
    · by_cases hrest : memberNestings rest ≤ room
      · rw [if_pos hj, if_pos hrest, if_pos (Nat.max_le.mpr ⟨hj, hrest⟩)]
        rfl
      · rw [if_neg hrest, if_neg fun h => hrest (Nat.max_le.mp h).2, if_pos hj]
        rfl
    · rw [if_neg hj, if_neg fun h => hj (Nat.max_le.mp h).1]
      rfl

end

/-! ## what is read fits -/

mutual

theorem nesting_le_of_value (s : Source) {room : Nat} {j : Json} (h : value room s = some j) :
    j.nesting ≤ room := by
  match s with
  | .null | .bool _ =>
    rw [value] at h
    rw [← Option.some.inj h, nesting]
    exact Nat.zero_le room
  | .number _ | .string _ =>
    rw [value] at h
    obtain ⟨_, -, rfl⟩ := Option.map_eq_some_iff.mp h
    rw [nesting]
    exact Nat.zero_le room
  | .array items =>
    cases room with
    | zero =>
      rw [value] at h
      cases h
    | succ room =>
      rw [value] at h
      obtain ⟨js, hjs, rfl⟩ := Option.map_eq_some_iff.mp h
      have := nestings_le_of_values items hjs
      rw [nesting]
      omega
  | .object members =>
    cases room with
    | zero =>
      rw [value] at h
      cases h
    | succ room =>
      rw [value] at h
      obtain ⟨ms, hms, rfl⟩ := Option.map_eq_some_iff.mp h
      exact nesting_ofMembers_le (memberNestings_le_of_members? members hms)

theorem nestings_le_of_values (items : List Source) {room : Nat} {js : List Json}
    (h : values room items = some js) : nestings js ≤ room := by
  match items with
  | [] =>
    rw [values] at h
    rw [← Option.some.inj h, nestings]
    exact Nat.zero_le room
  | s :: rest =>
    rw [values] at h
    obtain ⟨j, hj, h⟩ := Option.bind_eq_some_iff.mp h
    obtain ⟨js', hjs, h⟩ := Option.bind_eq_some_iff.mp h
    rw [← Option.some.inj h, nestings]
    exact Nat.max_le.mpr ⟨nesting_le_of_value s hj, nestings_le_of_values rest hjs⟩

theorem memberNestings_le_of_members? (members : List (List Piece × Source)) {room : Nat}
    {ms : List (String × Json)} (h : members? room members = some ms) :
    memberNestings ms ≤ room := by
  match members with
  | [] =>
    rw [members?] at h
    rw [← Option.some.inj h, memberNestings]
    exact Nat.zero_le room
  | (key, s) :: rest =>
    rw [members?] at h
    obtain ⟨k, -, h⟩ := Option.bind_eq_some_iff.mp h
    obtain ⟨j, hj, h⟩ := Option.bind_eq_some_iff.mp h
    obtain ⟨ms', hms, h⟩ := Option.bind_eq_some_iff.mp h
    rw [← Option.some.inj h, memberNestings]
    exact Nat.max_le.mpr ⟨nesting_le_of_value s hj, memberNestings_le_of_members? rest hms⟩

end

end Reading

/-! ## values that last -/

inductive Part : Json → Json → Prop
  | self (j : Json) : Part j j
  | item {p j : Json} {items : List Json} (mem : j ∈ items) (inner : Part p j) :
      Part p (array items)
  | member {p : Json} {m : String × Json} {members : List (String × Json)} (mem : m ∈ members)
      (inner : Part p m.2) : Part p (object members)

structure Lasting (j : Json) : Prop where
  /-- no object has two members of one key -/
  keys : ∀ members, Part (object members) j → (members.map (·.1)).Nodup
  /-- every double is printed with digits that are read as that double -/
  doubles : ∀ x : Binary64, Part (number (.real x)) j →
    parse? (String.ofList x.text) = some (number (.real x))

theorem Lasting.item {items : List Json} (h : Lasting (array items)) {j : Json} (hj : j ∈ items) :
    Lasting j :=
  ⟨fun _ hp => h.keys _ (.item hj hp), fun _ hp => h.doubles _ (.item hj hp)⟩

theorem Lasting.member {members : List (String × Json)} (h : Lasting (object members))
    {m : String × Json} (hm : m ∈ members) : Lasting m.2 :=
  ⟨fun _ hp => h.keys _ (.member hm hp), fun _ hp => h.doubles _ (.member hm hp)⟩

theorem parse?_write (layout : Layout) (j : Json) : parse? (String.ofList (write layout j)) =
    if j.nesting ≤ depth then some j.rereading else none := by
  rw [parse?, Reading.parse, Source.read_write, Option.bind_some, Reading.value_source]

/-- a double that its numeral stands for is read back -/
theorem parse?_text {x : Binary64} (h : x.numeral.number? = some (.real x)) :
    parse? (String.ofList x.text) = some (number (.real x)) := by
  refine (parse?_write none (number (.real x))).trans ?_
  rw [nesting, if_pos (Nat.zero_le depth), rereading, Number.numeral, h, Option.getD_some]

theorem Lasting.rereading_real {x : Binary64} (h : Lasting (number (.real x))) :
    (number (.real x)).rereading = number (.real x) := by
  have hread := parse?_write none (number (.real x))
  rw [nesting, if_pos (Nat.zero_le depth)] at hread
  exact Option.some.inj (hread.symm.trans (h.doubles x (.self _)))

mutual

theorem Lasting.rereading_eq (j : Json) (h : Lasting j) : j.rereading = j := by
  match j with
  | .null | .bool _ | .string _ => rw [rereading]
  | .number (.whole n fits) => rw [rereading, Number.number?_numeral_whole, Option.getD_some]
  | .number (.real x) => exact h.rereading_real
  | .array items => rw [rereading, Lasting.rereadings_eq items fun j hj => h.item hj]
  | .object members =>
    rw [rereading, Lasting.memberRereadings_eq members fun m hm => h.member hm,
      ofMembers_of_nodup (h.keys members (.self _))]

theorem Lasting.rereadings_eq (items : List Json) (h : ∀ j ∈ items, Lasting j) :
    rereadings items = items := by
  match items with
  | [] => rw [rereadings]
  | j :: rest =>
    obtain ⟨hj, hrest⟩ := List.forall_mem_cons.mp h
    rw [rereadings, Lasting.rereading_eq j hj, Lasting.rereadings_eq rest hrest]

theorem Lasting.memberRereadings_eq (members : List (String × Json))
    (h : ∀ m ∈ members, Lasting m.2) : memberRereadings members = members := by
  match members with
  | [] => rw [memberRereadings]
  | (key, j) :: rest =>
    obtain ⟨hj, hrest⟩ := List.forall_mem_cons.mp h
    rw [memberRereadings, Lasting.rereading_eq j hj, Lasting.memberRereadings_eq rest hrest]

end

end QueryDesk.Json
