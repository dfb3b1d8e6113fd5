import Mathlib.Data.List.Forall2
import Mathlib.Logic.Relation
import Routewright.Proofs.Program.ImportBlock
import Routewright.Proofs.Program.ImportTable

/-! When the imports of a program can be grouped, and what the groups are. Imports are added to the
table first come, first served, but where a path always comes with the same name, neither their
success nor their groups depend on the order. -/

namespace Routewright

def Bootstrap.Rearranged (b c : Bootstrap) : Prop :=
  b.imports.Perm c.imports

namespace Program

structure CollisionFree (modulePath : String) (known : GoImport → Prop) : Prop where
  names : ∀ i j, known i → known j → i.name = j.name → i.path = j.path
  free : ∀ i, known i → ¬IsReserved modulePath i

def ImportTable.Knows (t : ImportTable) (i : GoImport) : Prop :=
  t.names.get? i.path = some i.name

def ImportTable.IsMirrored (t : ImportTable) : Prop :=
  ∀ path name, t.paths.get? name = some path ↔ t.names.get? path = some name

variable {modulePath : String} {imports : List GoImport} {t u : ImportTable} {i : GoImport}

section Table

lemma CollisionFree.mono {known known' : GoImport → Prop} (h : CollisionFree modulePath known')
    (hsub : ∀ i, known i → known' i) : CollisionFree modulePath known where
  names i j hi hj := h.names i j (hsub i hi) (hsub j hj)
  free i hi := h.free i (hsub i hi)

lemma isMirrored_empty : ({} : ImportTable).IsMirrored := by
  intro path name
  change (none : Option String) = some path ↔ (none : Option String) = some name
  simp

lemma ImportTable.IsMirrored.with (ht : t.IsMirrored) (hpath : t.names.get? i.path = none)
    (hname : t.paths.get? i.name = none) : (t.with i).IsMirrored := by
  intro path name
  rw [ImportTable.with, Dict.get?_insert, Dict.get?_insert]
  by_cases hn : name = i.name
  · by_cases hp : path = i.path
    · simp [hn, hp]
    · have hother := ht path i.name
      rw [hname] at hother
      simp only [hn, hp, if_true, if_false, Option.some.injEq, ← hother]
      simp [Ne.symm hp]
  · by_cases hp : path = i.path
    · have hother := ht i.path name
      rw [hpath] at hother
      simp only [hn, hp, if_true, if_false, Option.some.injEq, hother]
      simp [Ne.symm hn]
    · rw [if_neg hn, if_neg hp, ht]

lemma ImportTable.IsMirrored.add (ht : t.IsMirrored) (hu : t.add modulePath i = .ok u) :
    u.IsMirrored := by
  rcases add_eq_ok_iff.mp hu with ⟨-, rfl⟩ | ⟨hpath, hname, -, rfl⟩
  · exact ht
  · exact ht.with hpath hname

lemma knows_add (h : Unambiguous t (i :: imports)) (hu : t.add modulePath i = .ok u)
    (j : GoImport) : u.Knows j ↔ t.Knows j ∨ j = i :=
  get?_add h hu

lemma exists_add_iff (ht : t.IsMirrored) (hfree : CollisionFree modulePath t.Knows)
    (h : Unambiguous t (i :: imports)) : (∃ u, t.add modulePath i = .ok u) ↔
      CollisionFree modulePath fun j => t.Knows j ∨ j = i := by
  cases hpath : t.names.get? i.path with
  | some name =>
    have hknown : t.Knows i := by
      rw [ImportTable.Knows, h.known i List.mem_cons_self name hpath]
      exact hpath
    refine ⟨fun _ => hfree.mono fun j hj => ?_, fun _ => ?_⟩
    · rcases hj with hj | rfl
      · exact hj
      · exact hknown
    · exact ⟨t, add_eq_ok_iff.mpr (.inl ⟨⟨name, hpath⟩, rfl⟩)⟩
  | none =>
    constructor
    · rintro ⟨u, hu⟩
      rcases add_eq_ok_iff.mp hu with ⟨⟨name, hname⟩, -⟩ | ⟨-, hname, hi, -⟩
      · rw [hpath] at hname
        cases hname
      have hnew : ∀ j, t.Knows j → j.name ≠ i.name := by
        intro j hj heq
        have hj := (ht j.path j.name).mpr hj
        rw [heq, hname] at hj
        cases hj
      refine ⟨fun j k hj hk heq => ?_, fun j hj => ?_⟩
      · rcases hj with hj | rfl <;> rcases hk with hk | rfl
        · exact hfree.names j k hj hk heq
        · exact absurd heq (hnew j hj)
        · exact absurd heq.symm (hnew k hk)
        · rfl
      · rcases hj with hj | rfl
        · exact hfree.free j hj
        · exact hi
    · intro hall
      have hname : t.paths.get? i.name = none := by
        cases hname : t.paths.get? i.name with
        | none => rfl
        | some path =>
          -- Another package of this name would have the path of the import.
          have hknown : t.Knows ⟨path, i.name⟩ := (ht path i.name).mp hname
          have heq : path = i.path := hall.names _ i (.inl hknown) (.inr rfl) rfl
          rw [ImportTable.Knows, heq, hpath] at hknown
          cases hknown
      exact ⟨t.with i, add_eq_ok_iff.mpr (.inr ⟨hpath, hname, hall.free i (.inr rfl), rfl⟩)⟩

lemma exists_foldlM_iff (ht : t.IsMirrored) (hfree : CollisionFree modulePath t.Knows)
    (h : Unambiguous t imports) :
    (∃ u, imports.foldlM (ImportTable.add modulePath) t = .ok u) ↔
      CollisionFree modulePath fun j => t.Knows j ∨ j ∈ imports := by
  induction imports generalizing t with
  | nil =>
    refine ⟨fun _ => hfree.mono fun j hj => ?_, fun _ => ⟨t, rfl⟩⟩
    simpa using hj
  | cons i imports ih =>
    have hrest : ∀ u, t.add modulePath i = .ok u →
        ((∃ v, imports.foldlM (ImportTable.add modulePath) u = .ok v) ↔
          CollisionFree modulePath fun j => t.Knows j ∨ j ∈ i :: imports) := by
      intro u hu
      have hknows := knows_add h hu
      have hstep := (exists_add_iff ht hfree h).mp ⟨u, hu⟩
      rw [ih (ht.add hu) (hstep.mono fun j => (hknows j).mp) (h.of_add hu)]
      have hsame : ∀ j, (u.Knows j ∨ j ∈ imports) ↔ t.Knows j ∨ j ∈ i :: imports := by
        intro j
        rw [hknows, or_assoc, List.mem_cons]
      exact ⟨fun hall => hall.mono fun j => (hsame j).mpr,
        fun hall => hall.mono fun j => (hsame j).mp⟩
    constructor
    · rintro ⟨v, hv⟩
      rw [List.foldlM_cons] at hv
      obtain ⟨u, hu, hv⟩ := except_bind_eq_ok_iff.mp hv
      exact (hrest u hu).mp ⟨v, hv⟩
    · intro hall
      have hstep : CollisionFree modulePath fun j => t.Knows j ∨ j = i :=
        hall.mono fun j hj => hj.imp_right fun heq => List.mem_cons.mpr (.inl heq)
      obtain ⟨u, hu⟩ := (exists_add_iff ht hfree h).mpr hstep
      obtain ⟨v, hv⟩ := (hrest u hu).mpr hall
      exact ⟨v, by rw [List.foldlM_cons, hu, except_ok_bind, hv]⟩

end Table

section Groups

variable {bootstraps others : List Bootstrap} {groups : ImportGroups}

lemma unambiguous_empty (hnames : ∀ i ∈ allImports bootstraps, ∀ j ∈ allImports bootstraps,
    i.path = j.path → i.name = j.name) : Unambiguous {} (allImports bootstraps) :=
  ⟨hnames, fun _ _ _ h => nomatch h⟩

lemma exists_importGroups_iff (hnames : ∀ i ∈ allImports bootstraps, ∀ j ∈ allImports bootstraps,
    i.path = j.path → i.name = j.name) :
    (∃ groups, importGroups bootstraps modulePath = .ok groups) ↔
      CollisionFree modulePath (· ∈ allImports bootstraps) := by
  have hempty : ∀ i, ¬({} : ImportTable).Knows i := fun i h => nomatch h
  have hfold : (∃ t, (allImports bootstraps).foldlM (ImportTable.add modulePath) {} = .ok t) ↔
      CollisionFree modulePath fun i => ({} : ImportTable).Knows i ∨ i ∈ allImports bootstraps :=
    exists_foldlM_iff isMirrored_empty
      ⟨fun i _ hi => absurd hi (hempty i), fun i hi => absurd hi (hempty i)⟩
      (unambiguous_empty hnames)
  simp only [hempty, false_or] at hfold
  rw [← hfold]
  constructor
  · rintro ⟨groups, h⟩
    obtain ⟨t, ht, -⟩ := importGroups_eq_ok h
    exact ⟨t, ht⟩
  · rintro ⟨t, ht⟩
    exact ⟨_, except_bind_eq_ok_iff.mpr ⟨t, ht, rfl⟩⟩

lemma importGroups_of_mem_iff (hnames : ∀ i ∈ allImports bootstraps, ∀ j ∈ allImports bootstraps,
    i.path = j.path → i.name = j.name)
    (hmem : ∀ i, i ∈ allImports bootstraps ↔ i ∈ allImports others)
    (h : importGroups bootstraps modulePath = .ok groups) :
    importGroups others modulePath = .ok groups := by
  have hnames' : ∀ i ∈ allImports others, ∀ j ∈ allImports others,
      i.path = j.path → i.name = j.name := fun i hi j hj =>
    hnames i ((hmem i).mpr hi) j ((hmem j).mpr hj)
  have hfree := (exists_importGroups_iff hnames).mp ⟨groups, h⟩
  obtain ⟨groups', h'⟩ := (exists_importGroups_iff hnames').mpr
    (hfree.mono fun i => (hmem i).mpr)
  obtain ⟨t, ht, hgroups⟩ := except_bind_eq_ok_iff.mp h
  obtain ⟨t', ht', hgroups'⟩ := except_bind_eq_ok_iff.mp h'
  have hsame : t'.names = t.names := by
    refine Dict.ext_get? fun path => Option.ext fun name => ?_
    rw [get?_foldlM (unambiguous_empty hnames') ht', get?_foldlM (unambiguous_empty hnames) ht,
      hmem]
  rw [h', ← hgroups', ← hgroups, hsame]

lemma allImports_perm
    (h : Relation.Comp List.Perm (List.Forall₂ Bootstrap.Rearranged) bootstraps others) :
    (allImports bootstraps).Perm (allImports others) := by
  obtain ⟨between, hperm, hforall⟩ := h
  have hinside : (between.flatMap Bootstrap.imports).Perm (others.flatMap Bootstrap.imports) := by
    clear hperm
    induction hforall with
    | nil => rfl
    | cons hbc _ ih =>
      rw [List.flatMap_cons, List.flatMap_cons]
      exact List.Perm.append hbc ih
  exact ((hperm.flatMap_right _).trans hinside).append_left _

lemma isReadable_of_mem
    (hid : ∀ b ∈ bootstraps, ∀ i ∈ b.imports, Pattern.isIdentifier i.name.toList = true) :
    ∀ i ∈ allImports bootstraps, IsReadable i := by
  intro i hi
  rcases List.mem_append.mp hi with hi | hi
  · obtain ⟨path, -, rfl⟩ := List.mem_map.mp hi
    exact .inl rfl
  · obtain ⟨b, hb, hi⟩ := List.mem_flatMap.mp hi
    exact .inr (hid b hb i hi)

lemma nodup_paths (h : importGroups bootstraps modulePath = .ok groups) :
    ((groups.standard ++ groups.project).map GoImport.path).Nodup := by
  obtain ⟨t, -, hstandard, hproject, hsorted, hsorted'⟩ := importGroups_eq_ok h
  have hnodup : ∀ l : List GoImport, l.Pairwise (·.path < ·.path) → (l.map GoImport.path).Nodup :=
    fun l hl => List.pairwise_map.mpr (hl.imp String.ne_of_lt)
  rw [List.map_append, List.nodup_append]
  refine ⟨hnodup _ hsorted, hnodup _ hsorted', ?_⟩
  intro path hpath path' hpath' heq
  obtain ⟨i, hi, rfl⟩ := List.mem_map.mp hpath
  obtain ⟨j, hj, rfl⟩ := List.mem_map.mp hpath'
  have hi := ((hstandard i).mp hi).2
  rw [heq, ((hproject j).mp hj).2] at hi
  cases hi

theorem importGroups_exact
    (hid : ∀ b ∈ bootstraps, ∀ i ∈ b.imports, Pattern.isIdentifier i.name.toList = true)
    (hnames : ∀ i ∈ allImports bootstraps, ∀ j ∈ allImports bootstraps,
      i.path = j.path → i.name = j.name) (modulePath : String) :
    ((∃ groups, importGroups bootstraps modulePath = .ok groups) ↔
        (∀ i ∈ allImports bootstraps, ∀ j ∈ allImports bootstraps,
            i.name = j.name → i.path = j.path) ∧
          ∀ i ∈ allImports bootstraps, isProjectImport i.path modulePath = true →
            i.name ∉ reservedNames) ∧
      (∀ groups, importGroups bootstraps modulePath = .ok groups →
        let listed := groups.standard ++ groups.project
        (listed.map GoImport.path).Nodup ∧ (∀ i, i ∈ listed ↔ i ∈ allImports bootstraps) ∧
          (∀ i ∈ listed, i ∈ groups.project ↔ isProjectImport i.path modulePath = true) ∧
          groups.standard.Pairwise (·.path < ·.path) ∧ groups.project.Pairwise (·.path < ·.path) ∧
            ∀ i ∈ listed, importOfLine? ("\t" ++ importSpec i).toList = some i) ∧
      ∀ others, Relation.Comp List.Perm (List.Forall₂ Bootstrap.Rearranged) bootstraps others →
        ∀ groups, importGroups bootstraps modulePath = .ok groups ↔
          importGroups others modulePath = .ok groups := by
  refine ⟨?_, fun groups h => ?_, fun others h groups => ?_⟩
  · rw [exists_importGroups_iff hnames]
    constructor
    · rintro ⟨hdistinct, hfree⟩
      exact ⟨fun i hi j hj => hdistinct i j hi hj, fun i hi hp hr => hfree i hi ⟨hp, hr⟩⟩
    · rintro ⟨hdistinct, hfree⟩
      exact ⟨fun i j hi hj => hdistinct i hi j hj, fun i hi hr => hfree i hi hr.1 hr.2⟩
  · intro listed
    have hmem := mem_importGroups h hnames
    have hlisted : ∀ i, i ∈ listed ↔ i ∈ allImports bootstraps := by
      intro i
      rw [List.mem_append, (hmem i).1, (hmem i).2]
      cases isProjectImport i.path modulePath <;> simp
    obtain ⟨-, -, -, -, hsorted, hsorted'⟩ := importGroups_eq_ok h
    refine ⟨nodup_paths h, hlisted, fun i hi => ?_, hsorted, hsorted', fun i hi => ?_⟩
    · rw [(hmem i).2]
      exact and_iff_right ((hlisted i).mp hi)
    · exact importOfLine?_importSpec (isReadable_of_mem hid i ((hlisted i).mp hi))
  · have hperm := allImports_perm h
    have hmem : ∀ i, i ∈ allImports bootstraps ↔ i ∈ allImports others := fun i => hperm.mem_iff
    refine ⟨importGroups_of_mem_iff hnames hmem, importGroups_of_mem_iff ?_ fun i => (hmem i).symm⟩
    exact fun i hi j hj => hnames i ((hmem i).mpr hi) j ((hmem j).mpr hj)

theorem importGroups_shop :
    let items : GoImport := ⟨"shop/items", "items"⟩
    let users : GoImport := ⟨"shop/users/v2", "users"⟩
    let http : Bootstrap := ⟨[.standard "net/http", items], "RunHttpServer", ""⟩
    let params : Bootstrap := ⟨[items, users, .standard "net/http"], "RunParamsServer", ""⟩
    let groups : ImportGroups := ⟨["errors", "log", "net/http", "os", "os/signal", "syscall"].map
      GoImport.standard, [items, users]⟩
    importGroups [http, params] "shop" = .ok groups ∧
      importGroups [⟨[users, .standard "net/http", items], "RunParamsServer", ""⟩, http] "shop" =
        .ok groups ∧
      importOfLine? ("\t" ++ importSpec users).toList = some users := by
  intro items users http params groups
  have hid : ∀ b ∈ [http, params], ∀ i ∈ b.imports,
      Pattern.isIdentifier i.name.toList = true := by
    decide +kernel
  have hnames : ∀ i ∈ allImports [http, params], ∀ j ∈ allImports [http, params],
      i.path = j.path → i.name = j.name := by
    decide +kernel
  have hgroups : importGroups [http, params] "shop" = .ok groups := by
    decide +kernel
  obtain ⟨-, hread, hperm⟩ := importGroups_exact hid hnames "shop"
  refine ⟨hgroups, (hperm _ ⟨[params, http], .swap _ _ _, .cons ?_ (.cons ?_ .nil)⟩ groups).mp
    hgroups, (hread groups hgroups).2.2.2.2.2 users (by simp [groups])⟩
  · change ([items] ++ [users, .standard "net/http"]).Perm _
    exact List.perm_append_comm
  · exact .refl _

end Groups

end Program

end Routewright
