/-!
Finite maps from texts, kept in the order of their keys.

Two maps with the same bindings are equal, so the order in which bindings were made is forgotten.
-/

namespace Routewright

def upsert {α : Type} (key : String) (value : α) : List (String × α) → List (String × α)
  | [] => [(key, value)]
  | e :: r =>
    if key < e.1 then (key, value) :: e :: r
    else if key = e.1 then (key, value) :: r
    else e :: upsert key value r

theorem mem_upsert_fst {α : Type} {key : String} {value : α} {l : List (String × α)}
    {e : String × α} (h : e ∈ upsert key value l) : e = (key, value) ∨ e ∈ l := by
  induction l with
  | nil => simpa [upsert] using h
  | cons d r ih =>
    rw [upsert] at h
    split at h
    · simpa using h
    · split at h
      · rcases List.mem_cons.1 h with h | h
        · exact .inl h
        · exact .inr (List.mem_cons_of_mem _ h)
      · rcases List.mem_cons.1 h with rfl | h
        · simp
        · rcases ih h with h | h
          · exact .inl h
          · exact .inr (List.mem_cons_of_mem _ h)

theorem upsert_sorted {α : Type} {key : String} {value : α} {l : List (String × α)}
    (h : l.Pairwise (·.1 < ·.1)) : (upsert key value l).Pairwise (·.1 < ·.1) := by
  induction l with
  | nil => simp [upsert]
  | cons d r ih =>
    have hr := List.pairwise_cons.1 h
    rw [upsert]
    split
    · rename_i hk
      refine List.pairwise_cons.2 ⟨fun e he => ?_, h⟩
      rcases List.mem_cons.1 he with rfl | he
      · exact hk
      · exact String.lt_trans hk (hr.1 e he)
    · split
      · rename_i hk
        exact List.pairwise_cons.2 ⟨fun e he => hk ▸ hr.1 e he, hr.2⟩
      · rename_i hlt hne
        refine List.pairwise_cons.2 ⟨fun e he => ?_, ih hr.2⟩
        rcases mem_upsert_fst he with rfl | he
        · exact Std.lt_of_le_of_ne (Std.not_lt.1 hlt) (Ne.symm hne)
        · exact hr.1 e he

/-- A map whose bindings are listed in increasing order of their keys. -/
structure Dict (α : Type) where
  entries : List (String × α)
  sorted : entries.Pairwise (·.1 < ·.1) := by simp
deriving DecidableEq, Repr

namespace Dict

variable {α : Type}

def empty : Dict α where
  entries := []

instance : EmptyCollection (Dict α) := ⟨empty⟩

instance : Inhabited (Dict α) := ⟨empty⟩

def insert (d : Dict α) (key : String) (value : α) : Dict α where
  entries := upsert key value d.entries
  sorted := upsert_sorted d.sorted

def get? (d : Dict α) (key : String) : Option α :=
  (d.entries.find? (·.1 == key)).map (·.2)

def contains (d : Dict α) (key : String) : Bool :=
  d.entries.any (·.1 == key)

def keys (d : Dict α) : List String :=
  d.entries.map (·.1)

def values (d : Dict α) : List α :=
  d.entries.map (·.2)

def isEmpty (d : Dict α) : Bool :=
  d.entries.isEmpty

def mapValues {β : Type} (f : α → β) (d : Dict α) : Dict β where
  entries := d.entries.map fun e => (e.1, f e.2)
  sorted := by simpa [List.pairwise_map] using d.sorted

def ofList (l : List (String × α)) : Dict α :=
  l.foldl (fun d e => d.insert e.1 e.2) empty

def modify (d : Dict α) (key : String) (start : α) (f : α → α) : Dict α :=
  d.insert key (f ((d.get? key).getD start))

@[ext] theorem ext {d e : Dict α} (h : d.entries = e.entries) : d = e := by
  cases d; cases e; simp_all

end Dict

end Routewright
