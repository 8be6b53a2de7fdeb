import HostNet.Proofs.Interface.Grouping

/-!
Where grouping puts each entry: into the first record of its name, or into a new one behind all
others. Records keep their places, so two entries share a record just if they share a name.
-/

namespace HostNet.Interface

open Entry

variable {records : List Interface} {entries : List Entry} {e f : Entry} {name : String}

/-- The place of the record that takes the next entry of this name; a new record stands last. -/
def placeOf (records : List Interface) (name : String) : Nat :=
  (records.map (·.name)).idxOf name

/-- The places that entries go to as they are added one by one. -/
def placesFrom (records : List Interface) : List Entry → List Nat
  | [] => []
  | e :: rest => placeOf records e.name :: placesFrom (addEntry records e) rest

def places (entries : List Entry) : List Nat :=
  placesFrom [] entries

/-- The bindings of the record at a place; there are none behind the last record. -/
def bindingsAt (records : List Interface) (place : Nat) : List Binding :=
  (records[place]?.map (·.bindings)).getD []

/-! ### One entry -/

theorem names_addEntry (records : List Interface) (e : Entry) :
    (addEntry records e).map (·.name) =
      if e.name ∈ records.map (·.name) then records.map (·.name)
      else records.map (·.name) ++ [e.name] := by
  induction records with
  | nil => rfl
  | cons i records ih =>
    rw [addEntry]
    by_cases same : i.name = e.name
    · simp [same]
    · rw [if_neg same, List.map_cons, ih]
      by_cases known : e.name ∈ records.map (·.name)
      · have still : e.name ∈ (i :: records).map (·.name) := List.mem_cons_of_mem _ known
        rw [if_pos known, if_pos still]
        rfl
      · have new : e.name ∉ (i :: records).map (·.name) := by
          rw [List.map_cons, List.mem_cons, not_or]
          exact ⟨Ne.symm same, known⟩
        rw [if_neg known, if_neg new]
        rfl

theorem mem_names_addEntry (known : name ∈ records.map (·.name) ∨ name = e.name) :
    name ∈ (addEntry records e).map (·.name) := by
  rw [names_addEntry]
  split
  · rcases known with known | rfl
    · exact known
    · assumption
  · simpa using known

/-- One more entry grows the record at its place and leaves the others alone. -/
theorem bindingsAt_addEntry (records : List Interface) (e : Entry) (place : Nat) :
    bindingsAt (addEntry records e) place =
      bindingsAt records place ++ if placeOf records e.name = place then [e.binding] else [] := by
  induction records generalizing place with
  | nil => cases place <;> simp [bindingsAt, addEntry, ofEntry, placeOf]
  | cons i records ih =>
    rw [addEntry, placeOf, List.map_cons]
    by_cases same : i.name = e.name
    · rw [if_pos same, ← same, List.idxOf_cons_self]
      cases place <;> simp [bindingsAt]
    · rw [if_neg same, List.idxOf_cons_ne _ same]
      cases place with
      | zero => simp [bindingsAt]
      | succ place =>
        simp only [Nat.succ_eq_add_one, Nat.add_right_cancel_iff]
        exact ih place

theorem placeOf_addEntry (known : name ∈ records.map (·.name) ∨ name = e.name) :
    placeOf (addEntry records e) name = placeOf records name := by
  rw [placeOf, placeOf, names_addEntry]
  split
  · rfl
  · -- A new record stands behind the others: no known name moves, and its own was sought just there.
    rename_i new
    rcases known with known | rfl
    · exact List.idxOf_append_of_mem known
    · rw [List.idxOf_append_of_notMem new, List.idxOf_cons_self, List.idxOf_eq_length new,
        Nat.add_zero]

/-! ### All entries -/

theorem placeOf_foldl_addEntry (known : name ∈ records.map (·.name)) :
    placeOf (entries.foldl addEntry records) name = placeOf records name := by
  induction entries generalizing records with
  | nil => rfl
  | cons e entries ih =>
    rw [List.foldl_cons, ih (mem_names_addEntry (.inl known)), placeOf_addEntry (.inl known)]

theorem placesFrom_eq (records : List Interface) (entries : List Entry) :
    placesFrom records entries =
      entries.map fun e => placeOf (entries.foldl addEntry records) e.name := by
  induction entries generalizing records with
  | nil => rfl
  | cons e entries ih =>
    have own : placeOf (entries.foldl addEntry (addEntry records e)) e.name =
        placeOf records e.name := by
      rw [placeOf_foldl_addEntry (mem_names_addEntry (.inr rfl)), placeOf_addEntry (.inr rfl)]
    rw [placesFrom, ih, List.map_cons, List.foldl_cons, own]

theorem places_eq (entries : List Entry) :
    places entries = entries.map fun e => placeOf (group entries) e.name :=
  placesFrom_eq [] entries

theorem bindingsAt_foldl_addEntry (records : List Interface) (entries : List Entry) (place : Nat) :
    bindingsAt (entries.foldl addEntry records) place = bindingsAt records place ++
      ((entries.zip (placesFrom records entries)).filter (·.2 = place)).map (·.1.binding) := by
  induction entries generalizing records with
  | nil => simp [placesFrom]
  | cons e entries ih =>
    rw [List.foldl_cons, ih, bindingsAt_addEntry, placesFrom, List.zip_cons_cons]
    by_cases here : placeOf records e.name = place <;> simp [here]

/-- A record has the bindings of the entries that went to its place, in their order. -/
theorem bindingsAt_group (entries : List Entry) (place : Nat) :
    bindingsAt (group entries) place =
      ((entries.zip (places entries)).filter (·.2 = place)).map (·.1.binding) :=
  bindingsAt_foldl_addEntry [] entries place

theorem placeOf_lt (present : e ∈ entries) :
    placeOf (group entries) e.name < (group entries).length := by
  rw [← List.length_map (·.name)]
  exact List.idxOf_lt_length_iff.mpr (mem_names_group present)

theorem placeOf_inj (present : e ∈ entries) :
    placeOf (group entries) e.name = placeOf (group entries) f.name ↔ e.name = f.name :=
  List.idxOf_inj (mem_names_group present)

end HostNet.Interface
