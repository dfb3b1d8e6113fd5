import Mathlib.Data.List.Basic
import Mathlib.Data.List.Induction
import Routewright.Dict

namespace Routewright

variable {α : Type}

lemma find?_upsert_self (key : String) (value : α) (l : List (String × α)) :
    (upsert key value l).find? (·.1 == key) = some (key, value) := by
  induction l with
  | nil => simp [upsert]
  | cons e r ih =>
    rw [upsert]
    split
    · simp
    · split
      · simp
      · rename_i hne
        have hne' : (e.1 == key) = false := by simpa using Ne.symm hne
        simp only [List.find?_cons, hne', ih]

lemma find?_upsert_of_ne {key other : String} (hk : other ≠ key) (value : α)
    (l : List (String × α)) :
    (upsert key value l).find? (·.1 == other) = l.find? (·.1 == other) := by
  have hk' : (key == other) = false := by simpa using Ne.symm hk
  induction l with
  | nil => simp [upsert, hk']
  | cons e r ih =>
    rw [upsert]
    split
    · simp only [List.find?_cons, hk']
    · split
      · rename_i heq
        simp only [List.find?_cons, hk', ← heq]
      · simp only [List.find?_cons, ih]

lemma length_upsert {key : String} {l : List (String × α)} (h : ∀ e ∈ l, e.1 ≠ key)
    (value : α) : (upsert key value l).length = l.length + 1 := by
  induction l with
  | nil => rfl
  | cons e r ih =>
    rw [upsert]
    split
    · rfl
    · rw [if_neg (Ne.symm (h e List.mem_cons_self)), List.length_cons, List.length_cons,
        ih fun d hd => h d (List.mem_cons_of_mem _ hd)]

lemma find?_eq_some_of_mem {l : List (String × α)} (h : l.Pairwise (·.1 < ·.1))
    {x : String × α} (hx : x ∈ l) : l.find? (·.1 == x.1) = some x := by
  induction l with
  | nil => simp at hx
  | cons y l ih =>
    obtain ⟨hy, hl⟩ := List.pairwise_cons.mp h
    rcases List.mem_cons.mp hx with rfl | hx
    · simp
    · have hne : (y.1 == x.1) = false := beq_false_of_ne (String.ne_of_lt (hy x hx))
      rw [List.find?_cons, hne]
      exact ih hl hx

lemma upsert_of_forall_lt {key : String} {l : List (String × α)} (h : ∀ x ∈ l, x.1 < key)
    (value : α) : upsert key value l = l ++ [(key, value)] := by
  induction l with
  | nil => rfl
  | cons y l ih =>
    have hy := h y List.mem_cons_self
    rw [upsert, if_neg (String.lt_asymm hy), if_neg (String.ne_of_lt hy).symm,
      ih fun x hx => h x (List.mem_cons_of_mem y hx)]
    rfl

namespace Dict

variable (d : Dict α) (key other : String) (value : α)

@[simp] lemma get?_empty : (∅ : Dict α).get? key = none := rfl

lemma get?_insert :
    (d.insert key value).get? other = if other = key then some value else d.get? other := by
  split
  · rename_i h
    simp [h, get?, insert, find?_upsert_self]
  · rename_i h
    simp [get?, insert, find?_upsert_of_ne h]

lemma contains_iff : d.contains key = true ↔ ∃ value, d.get? key = some value := by
  rw [← Option.isSome_iff_exists, get?, Option.isSome_map, List.isSome_find?, contains]

lemma contains_insert :
    (d.insert key value).contains other = true ↔ other = key ∨ d.contains other = true := by
  simp only [contains_iff, get?_insert]
  split <;> simp_all

lemma size_insert (h : d.get? key = none) :
    (d.insert key value).entries.length = d.entries.length + 1 := by
  refine length_upsert (fun e he hk => ?_) value
  have hc := (d.contains_iff key).mp (List.any_eq_true.mpr ⟨e, he, by simp [hk]⟩)
  simp [h] at hc

lemma mem_entries_iff : (key, value) ∈ d.entries ↔ d.get? key = some value := by
  constructor
  · intro h
    rw [get?, find?_eq_some_of_mem d.sorted h]
    rfl
  · intro h
    obtain ⟨x, hx, rfl⟩ := Option.map_eq_some_iff.mp h
    have hkey : x.1 = key := by simpa using List.find?_some hx
    exact hkey ▸ List.mem_of_find?_eq_some hx

theorem ext_get? {d e : Dict α} (h : ∀ key, d.get? key = e.get? key) : d = e := by
  have hnodup : ∀ c : Dict α, c.entries.Nodup := fun c =>
    c.sorted.imp fun hlt heq => String.ne_of_lt hlt (congrArg Prod.fst heq)
  have hperm : d.entries.Perm e.entries := by
    refine (List.perm_ext_iff_of_nodup (hnodup d) (hnodup e)).mpr ?_
    rintro ⟨key, value⟩
    rw [mem_entries_iff, mem_entries_iff, h]
  exact Dict.ext (hperm.eq_of_pairwise
    (fun _ _ _ _ hlt hgt => absurd hgt (String.lt_asymm hlt)) d.sorted e.sorted)

lemma insert_insert (value' : α) :
    (d.insert key value).insert key value' = d.insert key value' := by
  apply ext_get?
  intro x
  simp only [get?_insert]
  split_ifs <;> rfl

lemma get?_mapValues {β : Type} (f : α → β) :
    (d.mapValues f).get? key = (d.get? key).map f := by
  rw [get?, get?, mapValues, List.find?_map, Option.map_map, Option.map_map]
  rfl

lemma mem_keys_iff : key ∈ d.keys ↔ ∃ value, d.get? key = some value := by
  rw [← contains_iff, contains, keys, List.mem_map, List.any_eq_true]
  simp

lemma get?_modify (start : α) (f : α → α) : (d.modify key start f).get? other =
    if other = key then some (f ((d.get? key).getD start)) else d.get? other :=
  get?_insert ..

lemma modify_modify (start : α) (f g : α → α) :
    (d.modify key start f).modify key start g = d.modify key start fun a => g (f a) := by
  rw [modify, get?_modify, if_pos rfl, Option.getD_some, modify, insert_insert]
  rfl

lemma insert_comm (value' : α) (h : key = other → value = value') :
    (d.insert key value).insert other value' = (d.insert other value').insert key value := by
  apply ext_get?
  intro x
  simp only [get?_insert]
  by_cases hother : x = other
  · by_cases hkey : x = key
    · rw [if_pos hother, if_pos hkey, h (hkey.symm.trans hother)]
    · rw [if_pos hother, if_neg hkey, if_pos hother]
  · rw [if_neg hother, if_neg hother]

lemma ofList_perm {l m : List (String × α)} (h : l.Perm m)
    (hkeys : ∀ x ∈ l, ∀ y ∈ l, x.1 = y.1 → x.2 = y.2) : ofList l = ofList m :=
  h.foldl_eq' (fun x hx y hy d => insert_comm d x.1 y.1 x.2 y.2 (hkeys x hx y hy)) _

lemma ofList_concat (l : List (String × α)) (e : String × α) :
    ofList (l ++ [e]) = (ofList l).insert e.1 e.2 := by
  rw [ofList, List.foldl_append]
  rfl

lemma get?_ofList_eq (l : List (String × α)) (key : String) :
    (ofList l).get? key =
      (l.filterMap fun e => if e.1 = key then some e.2 else none).getLast? := by
  induction l using List.reverseRecOn with
  | nil => rfl
  | append_singleton l e ih =>
    rw [ofList_concat, get?_insert, List.filterMap_append, ih]
    by_cases hkey : e.1 = key
    · simp [hkey]
    · rw [if_neg (Ne.symm hkey)]
      simp [hkey]

lemma exists_get?_ofList {l : List (String × α)} {e : String × α} (h : e ∈ l) :
    ∃ value, (ofList l).get? e.1 = some value := by
  rw [get?_ofList_eq, ← Option.isSome_iff_exists, List.getLast?_isSome, ne_eq,
    List.filterMap_eq_nil_iff]
  intro hnone
  simpa using hnone e h

lemma forall_mem_ofList {p : String → α → Prop} {l : List (String × α)}
    (h : ∀ e ∈ l, p e.1 e.2) : ∀ key value, (ofList l).get? key = some value → p key value := by
  induction l using List.reverseRecOn with
  | nil => exact fun _ _ hget => nomatch hget
  | append_singleton l e ih =>
    obtain ⟨hl, he⟩ := List.forall_mem_append.mp h
    intro key value hget
    rw [ofList_concat, get?_insert] at hget
    split_ifs at hget with hkey
    · rw [hkey, ← Option.some.inj hget]
      exact he e List.mem_cons_self
    · exact ih hl key value hget

end Dict

end Routewright
