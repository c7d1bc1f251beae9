/-!
Values by name, ascending by name. A name that is given again takes its new value.
-/

namespace BulkIngest

abbrev Entries (α : Type) := List (String × α)

namespace Entries

variable {α : Type}

def put (name : String) (value : α) : Entries α → Entries α
  | [] => [(name, value)]
  | (n, v) :: rest =>
    if name < n then (name, value) :: (n, v) :: rest
    else if name = n then (name, value) :: rest
    else (n, v) :: put name value rest

def get? (entries : Entries α) (name : String) : Option α := entries.lookup name

def ofList (pairs : List (String × α)) : Entries α :=
  pairs.foldl (fun entries pair => put pair.1 pair.2 entries) []

/-- A name behind all others goes to the end. -/
theorem put_eq_append {name : String} {entries : Entries α}
    (behind : ∀ entry ∈ entries, entry.1 < name)
    (value : α) : put name value entries = entries ++ [(name, value)] := by
  induction entries with
  | nil => rfl
  | cons entry rest ih =>
      obtain ⟨n, v⟩ := entry
      have before : n < name := behind (n, v) List.mem_cons_self
      have distinct : name ≠ n := fun same => String.lt_irrefl n (same ▸ before)
      rw [put, if_neg (String.lt_asymm before), if_neg distinct,
        ih fun entry mem => behind entry (List.mem_cons_of_mem _ mem), List.cons_append]

theorem get?_put (name other : String) (value : α) (entries : Entries α) :
    (put name value entries).get? other =
      if other = name then some value else entries.get? other := by
  induction entries with
  | nil =>
      simp only [put, get?, List.lookup_cons, List.lookup_nil]
      split <;> simp_all
  | cons entry rest ih =>
      obtain ⟨n, v⟩ := entry
      simp only [get?] at ih
      simp only [put, get?]
      split
      · simp only [List.lookup_cons]
        split <;> simp_all
      · split
        · subst_vars
          simp only [List.lookup_cons]
          split <;> simp_all
        · simp only [List.lookup_cons]
          split
          · rename_i h
            have : other = n := by simpa using h
            subst this
            rename_i _ different
            simp [Ne.symm different]
          · exact ih

end Entries

end BulkIngest
