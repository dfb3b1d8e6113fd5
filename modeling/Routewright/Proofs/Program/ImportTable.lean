import Mathlib.Data.List.Induction
import Routewright.Program.Source
import Routewright.Proofs.Dict
import Routewright.Proofs.Except
import Routewright.Proofs.Server.Assembly

namespace Routewright

namespace Dict

variable {α : Type}

lemma get?_ofList {l : List (String × α)} (h : ∀ x ∈ l, ∀ y ∈ l, x.1 = y.1 → x.2 = y.2)
    {key : String} {value : α} : (ofList l).get? key = some value ↔ (key, value) ∈ l := by
  induction l using List.reverseRecOn with
  | nil =>
    have hempty : (ofList ([] : List (String × α))).get? key = none := rfl
    simp [hempty]
  | append_singleton l e ih =>
    have hbefore := ih fun x hx y hy =>
      h x (List.mem_append_left _ hx) y (List.mem_append_left _ hy)
    have he : e ∈ l ++ [e] := List.mem_append_right _ List.mem_cons_self
    rw [ofList_concat, get?_insert, List.mem_append, List.mem_singleton]
    split_ifs with hkey
    · rw [Option.some.injEq]
      constructor
      · rintro rfl
        exact .inr (Prod.ext hkey rfl)
      · rintro (hmem | heq)
        · exact (h _ (List.mem_append_left _ hmem) e he hkey).symm
        · exact congrArg Prod.snd heq.symm
    · rw [hbefore]
      exact ⟨.inl, fun hmem => hmem.resolve_right fun heq => hkey (congrArg Prod.fst heq)⟩

end Dict

namespace Program

variable {modulePath path name : String} {imports : List GoImport} {t u : ImportTable}
  {i : GoImport}

def ImportTable.with (t : ImportTable) (i : GoImport) : ImportTable :=
  ⟨t.names.insert i.path i.name, t.paths.insert i.name i.path⟩

def IsReserved (modulePath : String) (i : GoImport) : Prop :=
  isProjectImport i.path modulePath = true ∧ i.name ∈ reservedNames

lemma add_eq_ok_iff : t.add modulePath i = .ok u ↔
    ((∃ name, t.names.get? i.path = some name) ∧ u = t) ∨
      (t.names.get? i.path = none ∧ t.paths.get? i.name = none ∧ ¬IsReserved modulePath i ∧
        u = t.with i) := by
  have hcontains := t.names.contains_iff i.path
  rw [ImportTable.add]
  cases hpath : t.names.get? i.path with
  | some other =>
    rw [if_pos (hcontains.mpr ⟨other, hpath⟩)]
    simp [eq_comm]
  | none =>
    have hunknown : ¬t.names.contains i.path = true := by
      rw [hcontains, hpath]
      simp
    rw [if_neg hunknown]
    cases hname : t.paths.get? i.name with
    | some other => simp
    | none =>
      have hreserved : (isProjectImport i.path modulePath && reservedNames.contains i.name) = true ↔
          IsReserved modulePath i := by
        simp [IsReserved]
      dsimp only
      by_cases hi : IsReserved modulePath i
      · rw [if_pos (hreserved.mpr hi)]
        simp [hi]
      · rw [if_neg (mt hreserved.mp hi)]
        simp [hi, ImportTable.with, eq_comm]

structure Unambiguous (t : ImportTable) (imports : List GoImport) : Prop where
  listed : ∀ i ∈ imports, ∀ j ∈ imports, i.path = j.path → i.name = j.name
  known : ∀ i ∈ imports, ∀ name, t.names.get? i.path = some name → i.name = name

lemma Unambiguous.of_add (h : Unambiguous t (i :: imports)) (hu : t.add modulePath i = .ok u) :
    Unambiguous u imports := by
  refine ⟨fun j hj k hk => h.listed j (List.mem_cons_of_mem i hj) k (List.mem_cons_of_mem i hk), ?_⟩
  intro j hj name hname
  have hmem := List.mem_cons_of_mem i hj
  rcases add_eq_ok_iff.mp hu with ⟨-, rfl⟩ | ⟨-, -, -, rfl⟩
  · exact h.known j hmem name hname
  · rw [ImportTable.with, Dict.get?_insert] at hname
    split_ifs at hname with hpath
    · rw [← Option.some.inj hname]
      exact h.listed j hmem i List.mem_cons_self hpath
    · exact h.known j hmem name hname

lemma get?_add (h : Unambiguous t (i :: imports)) (hu : t.add modulePath i = .ok u) :
    u.names.get? path = some name ↔ t.names.get? path = some name ∨ ⟨path, name⟩ = i := by
  rcases add_eq_ok_iff.mp hu with ⟨⟨other, hother⟩, rfl⟩ | ⟨hnone, -, -, rfl⟩
  · refine ⟨.inl, fun hname => hname.elim id ?_⟩
    rintro rfl
    exact hother.trans (congrArg some (h.known _ List.mem_cons_self other hother).symm)
  · rw [ImportTable.with, Dict.get?_insert]
    split_ifs with hpath
    · subst hpath
      rw [hnone, Option.some.injEq]
      constructor
      · rintro rfl
        exact .inr rfl
      · rintro (hname | heq)
        · cases hname
        · exact (congrArg GoImport.name heq).symm
    · refine ⟨.inl, fun hname => hname.resolve_right ?_⟩
      rintro rfl
      exact hpath rfl

lemma get?_foldlM (h : Unambiguous t imports)
    (hu : imports.foldlM (ImportTable.add modulePath) t = .ok u) :
    u.names.get? path = some name ↔ t.names.get? path = some name ∨ ⟨path, name⟩ ∈ imports := by
  induction imports generalizing t with
  | nil =>
    obtain rfl : t = u := Except.ok.inj hu
    simp
  | cons i imports ih =>
    rw [List.foldlM_cons] at hu
    obtain ⟨t', ht', hu⟩ := except_bind_eq_ok_iff.mp hu
    rw [ih (h.of_add ht') hu, get?_add h ht', or_assoc, List.mem_cons]

lemma forall_of_foldlM {p : GoImport → Prop}
    (h : ∀ path name, t.names.get? path = some name → p ⟨path, name⟩)
    (hadd : ∀ i ∈ imports, ¬IsReserved modulePath i → p i)
    (hu : imports.foldlM (ImportTable.add modulePath) t = .ok u) :
    ∀ path name, u.names.get? path = some name → p ⟨path, name⟩ := by
  induction imports generalizing t with
  | nil =>
    obtain rfl : t = u := Except.ok.inj hu
    exact h
  | cons i imports ih =>
    rw [List.foldlM_cons] at hu
    obtain ⟨t', ht', hu⟩ := except_bind_eq_ok_iff.mp hu
    obtain ⟨hi, hadd⟩ := List.forall_mem_cons.mp hadd
    refine ih (fun path name hname => ?_) hadd hu
    rcases add_eq_ok_iff.mp ht' with ⟨-, rfl⟩ | ⟨-, -, hfree, rfl⟩
    · exact h path name hname
    · rw [ImportTable.with, Dict.get?_insert] at hname
      split_ifs at hname with hpath
      · rw [hpath, ← Option.some.inj hname]
        exact hi hfree
      · exact h path name hname

variable {bootstraps : List Bootstrap} {groups : ImportGroups}

lemma importGroups_eq_ok (h : importGroups bootstraps modulePath = .ok groups) :
    ∃ t, (allImports bootstraps).foldlM (ImportTable.add modulePath) {} = .ok t ∧
      (∀ i, i ∈ groups.standard ↔
        t.names.get? i.path = some i.name ∧ isProjectImport i.path modulePath = false) ∧
      (∀ i, i ∈ groups.project ↔
        t.names.get? i.path = some i.name ∧ isProjectImport i.path modulePath = true) ∧
      groups.standard.Pairwise (·.path < ·.path) ∧ groups.project.Pairwise (·.path < ·.path) := by
  obtain ⟨t, ht, hgroups⟩ := except_bind_eq_ok_iff.mp h
  obtain rfl := Except.ok.inj hgroups
  have hmem : ∀ i : GoImport,
      i ∈ t.names.entries.map (fun e => (⟨e.1, e.2⟩ : GoImport)) ↔
        t.names.get? i.path = some i.name := by
    intro i
    rw [← Dict.mem_entries_iff, List.mem_map]
    constructor
    · rintro ⟨e, he, rfl⟩
      exact he
    · exact fun hi => ⟨_, hi, rfl⟩
  have hsorted : (t.names.entries.map fun e => (⟨e.1, e.2⟩ : GoImport)).Pairwise
      (·.path < ·.path) :=
    List.pairwise_map.mpr t.names.sorted
  refine ⟨t, ht, fun i => ?_, fun i => ?_, hsorted.filter _, hsorted.filter _⟩
  · simp [List.mem_filter, hmem]
  · rw [List.mem_filter, hmem]

lemma mem_importGroups (h : importGroups bootstraps modulePath = .ok groups)
    (hnames : ∀ i ∈ allImports bootstraps, ∀ j ∈ allImports bootstraps,
      i.path = j.path → i.name = j.name) (i : GoImport) :
    (i ∈ groups.standard ↔
        i ∈ allImports bootstraps ∧ isProjectImport i.path modulePath = false) ∧
      (i ∈ groups.project ↔
        i ∈ allImports bootstraps ∧ isProjectImport i.path modulePath = true) := by
  obtain ⟨t, ht, hstandard, hproject, -⟩ := importGroups_eq_ok h
  have hempty : ∀ path : String, ({} : ImportTable).names.get? path = none := fun _ => rfl
  have hknown : t.names.get? i.path = some i.name ↔ i ∈ allImports bootstraps := by
    rw [get?_foldlM ⟨hnames, by simp [hempty]⟩ ht, hempty]
    simp
  rw [hstandard, hproject, hknown]
  exact ⟨Iff.rfl, Iff.rfl⟩

lemma forall_mem_importGroups {p : GoImport → Prop}
    (h : importGroups bootstraps modulePath = .ok groups)
    (hadd : ∀ i ∈ allImports bootstraps, ¬IsReserved modulePath i → p i) :
    ∀ i ∈ groups.standard ++ groups.project, p i := by
  obtain ⟨t, ht, hstandard, hproject, -⟩ := importGroups_eq_ok h
  have hempty : ∀ path : String, ({} : ImportTable).names.get? path = none := fun _ => rfl
  have hknown := forall_of_foldlM (by simp [hempty]) hadd ht
  refine List.forall_mem_append.mpr ⟨fun i hi => ?_, fun i hi => ?_⟩
  · exact hknown i.path i.name ((hstandard i).mp hi).1
  · exact hknown i.path i.name ((hproject i).mp hi).1

lemma not_reserved_of_importGroups (h : importGroups bootstraps modulePath = .ok groups) :
    ∀ i ∈ groups.project, i.name ∉ reservedNames := by
  intro i hi hname
  obtain ⟨t, -, -, hproject, -⟩ := importGroups_eq_ok h
  have hfree := forall_mem_importGroups h (fun _ _ hfree => hfree) i (List.mem_append_right _ hi)
  exact hfree ⟨((hproject i).mp hi).2, hname⟩

end Program

end Routewright
