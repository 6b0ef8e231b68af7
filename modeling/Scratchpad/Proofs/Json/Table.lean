import Mathlib.Data.List.Induction
import Mathlib.Data.List.Nodup
import Scratchpad.Json.Value

/-!
# The table of an object

What the members of an object come to as a table, read off the members themselves: a name has an
entry exactly if it has a member, the value is that of the last one, and no name has two entries.
-/
namespace Scratchpad.Json

/-- A name has a value as that of its last member. -/
def IsLast (name : String) (value : Value) (members : List (String × Value)) : Prop :=
  ∃ earlier later, members = earlier ++ (name, value) :: later ∧ ∀ member ∈ later, member.1 ≠ name

/-- A member that is put last is the last of its name, and leaves the other names as they were. -/
theorem isLast_concat {name : String} {value : Value} {members : List (String × Value)}
    {latest : String × Value} :
    IsLast name value (members ++ [latest]) ↔
      latest = (name, value) ∨ latest.1 ≠ name ∧ IsLast name value members := by
  constructor
  · rintro ⟨earlier, later, split, others⟩
    rcases List.eq_nil_or_concat later with rfl | ⟨before, last, rfl⟩
    · exact .inl (List.append_inj_right' split rfl |> List.singleton_inj.mp)
    · rw [List.concat_eq_append, ← List.cons_append, ← List.append_assoc] at split
      obtain ⟨rfl, same⟩ := List.append_inj' split rfl
      rw [List.singleton_inj] at same
      subst same
      refine .inr ⟨others latest (by simp), earlier, before, rfl, ?_⟩
      exact fun member among => others member (by simp [among])
  · rintro (rfl | ⟨other, earlier, later, rfl, others⟩)
    · exact ⟨members, [], rfl, nofun⟩
    · refine ⟨earlier, later ++ [latest], by simp, ?_⟩
      intro member among
      rcases List.mem_append.mp among with among | among
      · exact others member among
      · rwa [List.mem_singleton.mp among]

/-- An entry that is put into a table is found by its name, and other names find what they found
before. -/
theorem lookup_putEntry (name : String) (entry : String × Value) (entries : List (String × Value)) :
    (putEntry entry entries).lookup name =
      if entry.1 = name then some entry.2 else entries.lookup name := by
  induction entries with
  | nil =>
    rw [putEntry, List.lookup_cons, List.lookup_nil]
    by_cases same : entry.1 = name
    · simp [same]
    · simp [same, beq_false_of_ne (Ne.symm same)]
  | cons first rest ih =>
    rw [putEntry]
    by_cases replaced : first.1 = entry.1
    · rw [if_pos replaced, List.lookup_cons, List.lookup_cons, replaced]
      by_cases same : entry.1 = name
      · simp [same]
      · simp [same, beq_false_of_ne (Ne.symm same)]
    · rw [if_neg replaced, List.lookup_cons, List.lookup_cons, ih]
      by_cases found : name = first.1
      · simp [found, Ne.symm replaced]
      · simp [beq_false_of_ne found]

/-- The names of a table after an entry was put into it. -/
theorem names_putEntry (entry : String × Value) (entries : List (String × Value)) :
    (putEntry entry entries).map Prod.fst =
      if entry.1 ∈ entries.map Prod.fst then entries.map Prod.fst
      else entries.map Prod.fst ++ [entry.1] := by
  induction entries with
  | nil => rfl
  | cons first rest ih =>
    rw [putEntry]
    by_cases replaced : first.1 = entry.1
    · simp [replaced]
    · rw [if_neg replaced, List.map_cons, ih, List.map_cons]
      by_cases among : entry.1 ∈ rest.map Prod.fst
      · rw [if_pos among, if_pos (List.mem_cons_of_mem _ among)]
      · have absent : entry.1 ∉ first.1 :: rest.map Prod.fst :=
          List.not_mem_cons_of_ne_of_not_mem (Ne.symm replaced) among
        rw [if_neg among, if_neg absent, List.cons_append]

/-- A table grows by the member that is put last. -/
theorem table_concat (members : List (String × Value)) (latest : String × Value) :
    table (members ++ [latest]) = putEntry latest (table members) := by
  rw [table, List.foldl_append]
  rfl

/-- No name has two entries in a table. -/
theorem nodup_table (members : List (String × Value)) : ((table members).map Prod.fst).Nodup := by
  induction members using List.reverseRecOn with
  | nil => exact List.nodup_nil
  | append_singleton members latest ih =>
    rw [table_concat, names_putEntry]
    split_ifs with among
    · exact ih
    · exact List.Nodup.append ih (List.nodup_singleton _) (by simpa using among)

/-- A table has the value of the last member of each name. -/
theorem lookup_table {name : String} {value : Value} {members : List (String × Value)} :
    (table members).lookup name = some value ↔ IsLast name value members := by
  induction members using List.reverseRecOn with
  | nil =>
    constructor
    · intro found
      cases found
    · rintro ⟨earlier, later, split, others⟩
      simp at split
  | append_singleton members latest ih =>
    rw [table_concat, lookup_putEntry, isLast_concat, ← ih]
    by_cases same : latest.1 = name
    · subst same
      simp [Prod.ext_iff]
    · have other : latest ≠ (name, value) := fun pair => same (congrArg Prod.fst pair)
      simp [same, other]

end Scratchpad.Json
