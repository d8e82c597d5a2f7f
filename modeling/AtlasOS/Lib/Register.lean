import Mathlib.Data.List.Induction

/-!
# Registers

A register is a table that is written by a sequence of calls: each call changes the
rows there are one by one, and may then append one row of its own. A row of the
register is what a call appended, as the later calls have changed it.
-/

namespace AtlasOS.Register

variable {ι ρ : Type} (evolve : ι → ρ → ρ) (spawn : ι → Option ρ)

/-- The table after a call. -/
def write (rows : List ρ) (call : ι) : List ρ := rows.map (evolve call) ++ (spawn call).toList

/-- The table after the calls. -/
def table (calls : List ι) : List ρ := calls.foldl (write evolve spawn) []

/-- A row after the calls. -/
def evolved (row : ρ) (calls : List ι) : ρ := calls.foldl (fun row call => evolve call row) row

@[simp] theorem table_nil : table evolve spawn [] = [] := rfl

theorem table_concat (calls : List ι) (call : ι) :
    table evolve spawn (calls ++ [call]) = write evolve spawn (table evolve spawn calls) call := by
  rw [table, List.foldl_append]
  rfl

@[simp] theorem evolved_nil (row : ρ) : evolved evolve row [] = row := rfl

@[simp] theorem evolved_concat (row : ρ) (calls : List ι) (call : ι) :
    evolved evolve row (calls ++ [call]) = evolve call (evolved evolve row calls) := by
  rw [evolved, List.foldl_append]
  rfl

variable {evolve spawn} {calls : List ι} {row : ρ}

/-- Where a row of the table comes from. -/
theorem mem_table : row ∈ table evolve spawn calls ↔
    ∃ before call later first, calls = before ++ call :: later ∧ spawn call = some first ∧
      evolved evolve first later = row := by
  induction calls using List.reverseRecOn generalizing row with
  | nil => simp
  | append_singleton calls last ih =>
    rw [table_concat, write, List.mem_append, List.mem_map, Option.mem_toList]
    constructor
    · rintro (⟨old, hold, rfl⟩ | hspawn)
      · obtain ⟨before, call, later, first, rfl, hfirst, rfl⟩ := ih.mp hold
        exact ⟨before, call, later ++ [last], first, by simp, hfirst, evolved_concat ..⟩
      · exact ⟨calls, last, [], row, rfl, hspawn, rfl⟩
    · rintro ⟨before, call, later, first, hcalls, hfirst, rfl⟩
      induction later using List.reverseRecOn with
      | nil =>
        obtain ⟨rfl, hlast⟩ := List.append_inj' hcalls rfl
        obtain rfl := List.singleton_inj.mp hlast
        exact .inr hfirst
      | append_singleton later next _ =>
        rw [← List.cons_append, ← List.append_assoc] at hcalls
        obtain ⟨rfl, hlast⟩ := List.append_inj' hcalls rfl
        obtain rfl := List.singleton_inj.mp hlast
        refine .inl ⟨_, ih.mpr ⟨before, call, later, first, rfl, hfirst, rfl⟩, ?_⟩
        rw [evolved_concat]

/-- What no call changes of a row stays what it was. -/
theorem apply_evolved {κ : Type} {key : ρ → κ} (h : ∀ call row, key (evolve call row) = key row)
    (row : ρ) (later : List ι) : key (evolved evolve row later) = key row := by
  induction later using List.reverseRecOn with
  | nil => rfl
  | append_singleton later call ih => rw [evolved_concat, h, ih]

end AtlasOS.Register
