import Mathlib.Algebra.GroupWithZero.Nat
import Mathlib.Data.List.Basic
import HostNet.Interface.Grouping

/-!
Grouping keeps all of a list of entries. Each name has one record, with the bindings of all entries
of that name in their order; the records stand in the order in which their names first appear.
-/

namespace HostNet

namespace Entry

variable {entries : List Entry} {name : String} {e : Entry}

/-- The entries of one name, in their order. -/
def named (entries : List Entry) (name : String) : List Entry :=
  entries.filter (·.name = name)

def others (entries : List Entry) (name : String) : List Entry :=
  entries.filter (·.name ≠ name)

theorem mem_named : e ∈ named entries name ↔ e ∈ entries ∧ e.name = name := by
  simp [named]

theorem mem_others : e ∈ others entries name ↔ e ∈ entries ∧ e.name ≠ name := by
  simp [others]

theorem named_cons_self (e : Entry) (entries : List Entry) :
    named (e :: entries) e.name = e :: named entries e.name :=
  List.filter_cons_of_pos (decide_eq_true rfl)

theorem named_cons_other (other : e.name ≠ name) : named (e :: entries) name = named entries name :=
  List.filter_cons_of_neg (by simpa using other)

theorem named_others {other : String} (different : name ≠ other) :
    named (others entries other) name = named entries name := by
  rw [named, others, List.filter_filter, named]
  apply List.filter_congr
  intro e _
  by_cases same : e.name = name <;> simp [same, different]

theorem length_named_add_others (entries : List Entry) (name : String) :
    (named entries name).length + (others entries name).length = entries.length := by
  have parts := List.length_eq_length_filter_add (l := entries) fun e => decide (e.name = name)
  rw [parts, named, others]
  simp only [ne_eq, decide_not]

/-- Where the first entry of a name stands. -/
def firstPlace (entries : List Entry) (name : String) : Nat :=
  entries.findIdx (·.name = name)

theorem firstPlace_cons_self (e : Entry) (entries : List Entry) :
    firstPlace (e :: entries) e.name = 0 := by
  simp [firstPlace, List.findIdx_cons]

theorem firstPlace_cons_other (other : e.name ≠ name) :
    firstPlace (e :: entries) name = firstPlace entries name + 1 := by
  simp [firstPlace, List.findIdx_cons, other]

theorem firstPlace_of_others {left right gone : String} (keepLeft : gone ≠ left)
    (keepRight : gone ≠ right)
    (before : firstPlace (others entries gone) left < firstPlace (others entries gone) right) :
    firstPlace entries left < firstPlace entries right := by
  induction entries with
  | nil => exact before
  | cons e entries ih =>
    -- An entry that is left out moves both places by one, and one that stays is first or moves both.
    by_cases removed : e.name = gone
    · have skipped : others (e :: entries) gone = others entries gone :=
        List.filter_cons_of_neg (by simpa using removed)
      rw [skipped] at before
      rw [firstPlace_cons_other (removed ▸ keepLeft), firstPlace_cons_other (removed ▸ keepRight)]
      exact Nat.succ_lt_succ (ih before)
    · have kept : others (e :: entries) gone = e :: others entries gone :=
        List.filter_cons_of_pos (by simpa using removed)
      rw [kept] at before
      by_cases right_here : e.name = right
      · rw [← right_here, firstPlace_cons_self] at before
        exact absurd before (Nat.not_lt_zero _)
      rw [firstPlace_cons_other right_here] at before ⊢
      by_cases left_here : e.name = left
      · rw [← left_here, firstPlace_cons_self]
        exact Nat.succ_pos _
      rw [firstPlace_cons_other left_here] at before ⊢
      exact Nat.succ_lt_succ (ih (Nat.lt_of_succ_lt_succ before))

/-- Induction that follows grouping: after an entry come those of other names. -/
theorem induction_by_name {motive : List Entry → Prop} (nil : motive [])
    (cons : ∀ e entries, motive (others entries e.name) → motive (e :: entries))
    (entries : List Entry) : motive entries := by
  match entries with
  | [] => exact nil
  | e :: entries => exact cons e entries (induction_by_name nil cons (others entries e.name))
termination_by entries.length
decreasing_by
  have parts := length_named_add_others entries e.name
  rw [List.length_cons]
  omega

end Entry

namespace Interface

open Entry

variable {entries : List Entry} {e : Entry} {i : Interface}

/-- The record at the front takes the entries of its name, and the records behind it get no others. -/
theorem foldl_addEntry_cons (entries : List Entry) (i : Interface) (rest : List Interface) :
    entries.foldl addEntry (i :: rest) =
      { i with bindings := i.bindings ++ (named entries i.name).map (·.binding) } ::
        (others entries i.name).foldl addEntry rest := by
  induction entries generalizing i rest with
  | nil => simp [named, others]
  | cons e entries ih =>
    rw [List.foldl_cons, addEntry]
    by_cases same : i.name = e.name
    · rw [if_pos same, ih]
      simp [named, others, same]
    · have other : e.name ≠ i.name := Ne.symm same
      rw [if_neg same, ih]
      simp [named, others, other]

/-- The record that an entry begins, completed by the later entries of its name. -/
def begunBy (e : Entry) (entries : List Entry) : Interface where
  name := e.name
  displayName := e.name
  index := e.index
  bindings := e.binding :: (named entries e.name).map (·.binding)

theorem group_cons (e : Entry) (entries : List Entry) :
    group (e :: entries) = begunBy e entries :: group (others entries e.name) :=
  foldl_addEntry_cons entries (ofEntry e) []

/-- What a record has of the entries: the index of the first one of its name, and the bindings of
all of them. -/
structure Gathers (entries : List Entry) (i : Interface) : Prop where
  displayName : i.displayName = i.name
  index : (named entries i.name).head?.map (·.index) = some i.index
  bindings : i.bindings = (named entries i.name).map (·.binding)

theorem Gathers.mem_names (gathers : Gathers entries i) : ∃ e ∈ entries, e.name = i.name := by
  cases found : named entries i.name with
  | nil =>
    have index := gathers.index
    rw [found] at index
    cases index
  | cons e _ => exact ⟨e, mem_named.mp (found ▸ List.mem_cons_self)⟩

theorem Gathers.nonempty (gathers : Gathers entries i) : i.bindings ≠ [] := by
  obtain ⟨e, present, same⟩ := gathers.mem_names
  have bound : e.binding ∈ i.bindings := by
    rw [gathers.bindings]
    exact List.mem_map_of_mem (mem_named.mpr ⟨present, same⟩)
  exact List.ne_nil_of_mem bound

theorem Gathers.front (e : Entry) (entries : List Entry) :
    Gathers (e :: entries) (begunBy e entries) where
  displayName := rfl
  index := by
    rw [begunBy, named_cons_self, List.head?_cons, Option.map_some]
  bindings := by
    rw [begunBy, named_cons_self, List.map_cons]

theorem Gathers.behind (gathers : Gathers (others entries e.name) i) : Gathers (e :: entries) i := by
  obtain ⟨f, present, same⟩ := gathers.mem_names
  have different : i.name ≠ e.name := same ▸ (mem_others.mp present).2
  have selected : named (e :: entries) i.name = named (others entries e.name) i.name := by
    rw [named_cons_other different.symm, named_others different]
  exact ⟨gathers.displayName, selected ▸ gathers.index, selected ▸ gathers.bindings⟩

theorem gathers_of_mem (member : i ∈ group entries) : Gathers entries i := by
  induction entries using induction_by_name with
  | nil => cases member
  | cons e entries ih =>
    rw [group_cons] at member
    rcases List.mem_cons.mp member with rfl | member
    · exact .front e entries
    · exact (ih member).behind

theorem names_group (entries : List Entry) :
    (group entries).map (·.name) = (entries.map (·.name)).eraseDups := by
  induction entries using induction_by_name with
  | nil => rfl
  | cons e entries ih =>
    have later : (entries.map (·.name)).filter (fun name => !name == e.name) =
        (others entries e.name).map (·.name) := by
      rw [others, List.filter_map]
      congr 2
      funext f
      by_cases same : f.name = e.name <;> simp [same]
    rw [group_cons, List.map_cons, ih, List.map_cons, List.eraseDups_cons, later, begunBy]

theorem mem_names_group (present : e ∈ entries) : e.name ∈ (group entries).map (·.name) := by
  rw [names_group, List.mem_eraseDups]
  exact List.mem_map_of_mem present

theorem order_group (entries : List Entry) :
    (group entries).Pairwise fun i j => firstPlace entries i.name < firstPlace entries j.name := by
  induction entries using induction_by_name with
  | nil => exact .nil
  | cons e entries ih =>
    have different : ∀ i ∈ group (others entries e.name), e.name ≠ i.name := by
      intro i member
      obtain ⟨f, present, same⟩ := (gathers_of_mem member).mem_names
      exact same ▸ (mem_others.mp present).2.symm
    rw [group_cons, List.pairwise_cons]
    constructor
    · intro i member
      rw [begunBy, firstPlace_cons_self, firstPlace_cons_other (different i member)]
      exact Nat.succ_pos _
    · refine ih.imp_of_mem ?_
      intro i j first second before
      rw [firstPlace_cons_other (different i first), firstPlace_cons_other (different j second)]
      exact Nat.succ_lt_succ
        (firstPlace_of_others (different i first) (different j second) before)

theorem nodup_names_group (entries : List Entry) : ((group entries).map (·.name)).Nodup := by
  rw [List.nodup_iff_pairwise_ne, List.pairwise_map]
  refine (order_group entries).imp ?_
  intro i j before same
  rw [same] at before
  exact Nat.lt_irrefl _ before

theorem sum_lengths_group (entries : List Entry) :
    ((group entries).map (·.bindings.length)).sum = entries.length := by
  induction entries using induction_by_name with
  | nil => rfl
  | cons e entries ih =>
    have parts := length_named_add_others entries e.name
    rw [group_cons, List.map_cons, List.sum_cons, ih, begunBy, List.length_cons, List.length_cons,
      List.length_map]
    omega

/-- Grouping loses, doubles and reorders nothing: there is one record for each name, in the order of
first appearance, and it has the first index and all bindings of that name. -/
theorem group_keeps_all (entries : List Entry) :
    ((group entries).map (·.name)).Nodup ∧
    (group entries).map (·.name) = (entries.map (·.name)).eraseDups ∧
    (∀ i ∈ group entries,
      ((entries.filter (·.name = i.name)).head?.map (·.index) = some i.index) ∧
      i.displayName = i.name ∧
      i.bindings = (entries.filter (·.name = i.name)).map (·.binding) ∧
      i.bindings ≠ []) ∧
    ((group entries).map (·.bindings.length)).sum = entries.length := by
  refine ⟨nodup_names_group entries, names_group entries, ?_, sum_lengths_group entries⟩
  intro i member
  have gathers := gathers_of_mem member
  exact ⟨gathers.index, gathers.displayName, gathers.bindings, gathers.nonempty⟩

end Interface

end HostNet
