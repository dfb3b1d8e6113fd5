import Mathlib.Data.List.Forall2
import Routewright.Proofs.Except
import Routewright.Proofs.Files.Tree

namespace Routewright

namespace FileTree

variable {t u : FileTree}

lemma view_append {v : FileTree} {names : List String} (h : t.find names = .ok v)
    (rest : List String) : t.view (names ++ rest) = v.view rest := by
  rw [view, view, find_append, h]
  rfl

lemma map_node_find_eq {names : List String}
    (h : ∀ place, place <+: names → t.view place = u.view place) :
    (t.find names).map node = (u.find names).map node := by
  induction names generalizing t u with
  | nil =>
    have hself := h [] (List.prefix_refl [])
    rw [view_nil, view_nil, Option.some.injEq] at hself
    cases t <;> cases u <;> exact congrArg Except.ok hself
  | cons name rest ih =>
    have hself := h [] List.nil_prefix
    rw [view_nil, view_nil, Option.some.injEq] at hself
    cases t with
    | file content executable =>
      cases u with
      | file content' executable' => rfl
      | directory entries => cases hself
    | directory entries =>
      cases u with
      | file content executable => cases hself
      | directory entries' =>
        have hname := h [name] (by simp)
        rw [view_directory_cons, view_directory_cons] at hname
        rw [find, find]
        cases hchild : child? entries name with
        | none =>
          cases hchild' : child? entries' name with
          | none => rfl
          | some v => simp [hchild, hchild'] at hname
        | some v =>
          cases hchild' : child? entries' name with
          | none => simp [hchild, hchild'] at hname
          | some v' =>
            refine ih fun place hplace => ?_
            have hbelow := h (name :: place) (List.cons_prefix_cons.mpr ⟨rfl, hplace⟩)
            rwa [view_directory_cons, view_directory_cons, hchild, hchild'] at hbelow

def Node.content : Node → Except OsError ByteArray
  | file content _ => .ok content
  | directory => .error .isDirectory

lemma read_eq_content (t : FileTree) (path : String) :
    t.read path = (t.lookup path).map node >>= Node.content := by
  rw [read]
  cases t.lookup path with
  | error cause => rfl
  | ok v => cases v <;> rfl

lemma read_eq_of_names {path : String} {names : List String} (ht : t.names path = .ok names)
    (hu : u.names path = .ok names)
    (h : ∀ place, place <+: names → t.view place = u.view place) :
    t.read path = u.read path := by
  rw [read_eq_content, read_eq_content, lookup_of_names ht, lookup_of_names hu, map_node_find_eq h]

lemma view_eq_cases (h : t.view = u.view) :
    (∃ content executable, t = file content executable ∧ u = file content executable) ∨
      ∃ entries entries', t = directory entries ∧ u = directory entries' ∧
        (directory entries).view = (directory entries').view := by
  have hself := congrFun h []
  rw [view_nil, view_nil, Option.some.injEq] at hself
  cases t with
  | file content executable =>
    cases u with
    | file content' executable' =>
      cases hself
      exact .inl ⟨content, executable, rfl, rfl⟩
    | directory entries => cases hself
  | directory entries =>
    cases u with
    | file content executable => cases hself
    | directory entries' => exact .inr ⟨entries, entries', rfl, rfl, h⟩

section View

variable (h : t.view = u.view)

include h

lemma find_cases (names : List String) :
    (∃ cause, t.find names = .error cause ∧ u.find names = .error cause) ∨
      (∃ content executable, t.find names = .ok (file content executable) ∧
        u.find names = .ok (file content executable)) ∨
      ∃ entries entries', t.find names = .ok (directory entries) ∧
        u.find names = .ok (directory entries') ∧
          (directory entries).view = (directory entries').view := by
  have hnode : (t.find names).map node = (u.find names).map node :=
    map_node_find_eq fun place _ => congrFun h place
  cases ht : t.find names with
  | error cause =>
    rw [ht] at hnode
    exact .inl ⟨cause, rfl, except_map_eq_error_iff.mp hnode.symm⟩
  | ok v =>
    rw [ht] at hnode
    obtain ⟨v', hu, -⟩ := except_map_eq_ok_iff.mp hnode.symm
    have hview : v.view = v'.view := by
      funext rest
      rw [← view_append ht, ← view_append hu, h]
    rcases view_eq_cases hview with
      ⟨content, executable, rfl, rfl⟩ | ⟨entries, entries', rfl, rfl, hentries⟩
    · exact .inr (.inl ⟨content, executable, rfl, hu⟩)
    · exact .inr (.inr ⟨entries, entries', rfl, hu, hentries⟩)

lemma namesFrom_eq_of_view (passed parts : List String) :
    t.namesFrom passed parts = u.namesFrom passed parts := by
  induction parts generalizing passed with
  | nil => rfl
  | cons part rest ih =>
    rw [namesFrom, namesFrom]
    rcases find_cases h passed.reverse with
      ⟨cause, ht, hu⟩ | ⟨content, executable, ht, hu⟩ | ⟨entries, entries', ht, hu, -⟩
    all_goals simp only [ht, hu, ih]

lemma names_eq_of_view (path : String) : t.names path = u.names path := by
  rw [names, names, namesFrom_eq_of_view h]

lemma lookup_cases (path : String) :
    (∃ cause, t.lookup path = .error cause ∧ u.lookup path = .error cause) ∨
      (∃ content executable, t.lookup path = .ok (file content executable) ∧
        u.lookup path = .ok (file content executable)) ∨
      ∃ entries entries', t.lookup path = .ok (directory entries) ∧
        u.lookup path = .ok (directory entries') ∧
          (directory entries).view = (directory entries').view := by
  cases hu : u.names path with
  | error cause =>
    have ht := (names_eq_of_view h path).trans hu
    exact .inl ⟨cause, lookup_of_error ht, lookup_of_error hu⟩
  | ok names =>
    have ht := (names_eq_of_view h path).trans hu
    rw [lookup_of_names ht, lookup_of_names hu]
    exact find_cases h names

lemma read_eq_of_view (path : String) : t.read path = u.read path := by
  rw [read_eq_content, read_eq_content]
  rcases lookup_cases h path with
    ⟨cause, ht, hu⟩ | ⟨content, executable, ht, hu⟩ | ⟨entries, entries', ht, hu, -⟩
  · rw [ht, hu]
  · rw [ht, hu]
  · rw [ht, hu]
    rfl

lemma pathExists_eq_of_view (path : String) : t.pathExists path = u.pathExists path := by
  rw [pathExists, pathExists]
  rcases lookup_cases h path with
    ⟨cause, ht, hu⟩ | ⟨content, executable, ht, hu⟩ | ⟨entries, entries', ht, hu, -⟩
  all_goals rw [ht, hu]

end View

lemma listing_get? (entries : List (String × FileTree)) (name : String) :
    (listing entries).get? name = child? entries name := by
  induction entries with
  | nil => rfl
  | cons e entries ih =>
    have hlast : listing (e :: entries) = (listing entries).insert e.1 e.2 := by
      rw [listing, listing, Dict.ofList, Dict.ofList, List.reverse_cons, List.foldl_append]
      rfl
    rw [hlast, Dict.get?_insert, ih, child?, child?, List.find?_cons]
    by_cases hname : name = e.1
    · simp [hname]
    · simp [hname, beq_false_of_ne (Ne.symm hname)]

lemma mem_listing_iff {entries : List (String × FileTree)} {name : String} {t : FileTree} :
    (name, t) ∈ (listing entries).entries ↔ child? entries name = some t := by
  rw [Dict.mem_entries_iff, listing_get?]

lemma mem_of_mem_listing {entries : List (String × FileTree)} {e : String × FileTree}
    (he : e ∈ (listing entries).entries) : e ∈ entries := by
  have hchild : child? entries e.1 = some e.2 := mem_listing_iff.mp he
  obtain ⟨x, hx, hvalue⟩ := Option.map_eq_some_iff.mp hchild
  have hname : x.1 = e.1 := by simpa using List.find?_some hx
  obtain rfl : x = e := Prod.ext hname hvalue
  exact List.mem_of_find?_eq_some hx

section Listing

variable {entries entries' : List (String × FileTree)}
  (h : (directory entries).view = (directory entries').view)

include h

lemma child?_map_view_eq (name : String) :
    (child? entries name).map view = (child? entries' name).map view := by
  have hname := fun rest => congrFun h (name :: rest)
  simp only [view_directory_cons] at hname
  cases hchild : child? entries name with
  | none =>
    cases hchild' : child? entries' name with
    | none => rfl
    | some v => simpa [hchild, hchild'] using hname []
  | some v =>
    cases hchild' : child? entries' name with
    | none => simpa [hchild, hchild'] using hname []
    | some v' =>
      refine congrArg some (funext fun rest => ?_)
      simpa [hchild, hchild'] using hname rest

lemma listing_mapValues_view_eq :
    (listing entries).mapValues view = (listing entries').mapValues view := by
  apply Dict.ext_get?
  intro name
  rw [Dict.get?_mapValues, Dict.get?_mapValues, listing_get?, listing_get?,
    child?_map_view_eq h name]

lemma forall₂_listing :
    List.Forall₂ (fun x y : String × FileTree => x.1 = y.1 ∧ x.2.view = y.2.view)
      (listing entries).entries (listing entries').entries := by
  have hentries := congrArg Dict.entries (listing_mapValues_view_eq h)
  rw [Dict.mapValues, Dict.mapValues, ← List.forall₂_eq_eq_eq, List.forall₂_map_left_iff,
    List.forall₂_map_right_iff] at hentries
  exact hentries.imp fun x y hxy => Prod.mk.inj hxy

end Listing

end FileTree

end Routewright
