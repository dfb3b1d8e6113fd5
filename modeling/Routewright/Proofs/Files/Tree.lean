import Routewright.Files.Tree
import Routewright.Proofs.Dict
import Routewright.Proofs.Files.Path

namespace Routewright.FileTree

inductive Node
  | file (content : ByteArray) (executable : Bool)
  | directory

def node : FileTree → Node
  | file content executable => .file content executable
  | directory _ => .directory

abbrev View := List String → Option Node

def view (t : FileTree) : View := fun names =>
  match t.find names with
  | .ok u => some u.node
  | .error _ => none

def View.without (v : View) (names : List String) : View := fun other =>
  if names <+: other then none else v other

def View.put (v : View) (names : List String) (n : Node) : View := fun other =>
  if other = names then some n else v other

@[simp]
lemma view_nil (t : FileTree) : t.view [] = some t.node := by
  cases t <;> rfl

@[simp]
lemma view_file_cons (content : ByteArray) (executable : Bool) (name : String)
    (names : List String) : (file content executable).view (name :: names) = none :=
  rfl

lemma view_directory_cons (entries : List (String × FileTree)) (name : String)
    (names : List String) :
    (directory entries).view (name :: names) = (child? entries name).bind (·.view names) := by
  rw [view, find]
  cases child? entries name <;> rfl

lemma child?_upsert (entries : List (String × FileTree)) (name other : String) (t : FileTree) :
    child? (upsert name t entries) other = if other = name then some t else child? entries other := by
  by_cases h : other = name
  · rw [child?, h, find?_upsert_self, if_pos rfl]
    rfl
  · rw [child?, find?_upsert_of_ne h, if_neg h]
    rfl

lemma child?_filter (entries : List (String × FileTree)) (name other : String) :
    child? (entries.filter (·.1 != name)) other =
      if other = name then none else child? entries other := by
  rw [child?, List.find?_filter]
  by_cases h : other = name
  · rw [if_pos h, List.find?_eq_none.mpr fun e _ => by simp [h]]
    rfl
  · have hsame : (fun e : String × FileTree => decide (e.1 != name ∧ e.1 == other)) =
        (·.1 == other) := by
      funext e
      by_cases he : e.1 = other
      · simp [he, h]
      · simp [he]
    rw [if_neg h, hsame, child?]

lemma alter_cons {change : Option FileTree → Except OsError (Option FileTree)} {name : String}
    {names : List String} (hnames : names ≠ []) (entries : List (String × FileTree)) :
    alter change (name :: names) (directory entries) =
      match child? entries name with
      | none => .error .notFound
      | some t => (alter change names t).map fun t => directory (upsert name t entries) := by
  cases names with
  | nil => exact absurd rfl hnames
  | cons next rest => cases hchild : child? entries name <;> simp only [alter, hchild]

lemma find_cons_eq_ok_iff {entries : List (String × FileTree)} {name : String}
    {names : List String} {t : FileTree} : (directory entries).find (name :: names) = .ok t ↔
      ∃ u, child? entries name = some u ∧ u.find names = .ok t := by
  rw [find]
  cases child? entries name <;> simp

lemma exists_of_find_cons {t u : FileTree} {name : String} {names : List String}
    (h : t.find (name :: names) = .ok u) :
    ∃ entries inner, t = directory entries ∧ child? entries name = some inner ∧
      inner.find names = .ok u := by
  cases t with
  | file content executable => simp [find] at h
  | directory entries =>
    obtain ⟨inner, hchild, hfind⟩ := find_cons_eq_ok_iff.mp h
    exact ⟨entries, inner, rfl, hchild, hfind⟩

lemma alter_of_directory {change : Option FileTree → Except OsError (Option FileTree)}
    {base : List String} {name : String} {t : FileTree} {entries : List (String × FileTree)}
    {result : Option FileTree} (hbase : t.find base = .ok (directory entries))
    (hchange : change (child? entries name) = .ok result) :
    ∃ u, alter change (base ++ [name]) t = .ok u ∧
      ∀ other, u.view other =
        if base ++ [name] <+: other then result.bind (·.view (other.drop (base.length + 1)))
        else t.view other := by
  induction base generalizing t with
  | nil =>
    obtain rfl : t = directory entries := by
      simpa [find] using hbase
    cases result with
    | none =>
      refine ⟨directory (entries.filter (·.1 != name)), by simp [alter, hchange], ?_⟩
      rintro (_ | ⟨first, rest⟩)
      · simp [node]
      · by_cases h : first = name
        · simp [view_directory_cons, child?_filter, h]
        · simp [view_directory_cons, child?_filter, h, Ne.symm h]
    | some u =>
      refine ⟨directory (upsert name u entries), by simp [alter, hchange], ?_⟩
      rintro (_ | ⟨first, rest⟩)
      · simp [node]
      · by_cases h : first = name
        · simp [view_directory_cons, child?_upsert, h]
        · simp [view_directory_cons, child?_upsert, h, Ne.symm h]
  | cons first rest ih =>
    obtain ⟨outer, inner, rfl, hfirst, hinner⟩ := exists_of_find_cons hbase
    obtain ⟨u, hu, hview⟩ := ih hinner
    refine ⟨directory (upsert first u outer), ?_, ?_⟩
    · rw [List.cons_append, alter_cons (by simp), hfirst]
      simp only [hu]
      rfl
    · rintro (_ | ⟨other, others⟩)
      · simp [node]
      · by_cases h : other = first
        · simp [view_directory_cons, child?_upsert, h, hview, hfirst]
        · simp [view_directory_cons, child?_upsert, h, Ne.symm h]

lemma find_append (t : FileTree) (names rest : List String) :
    t.find (names ++ rest) = t.find names >>= (·.find rest) := by
  induction names generalizing t with
  | nil => cases t <;> rfl
  | cons name names ih =>
    cases t with
    | file content executable => rfl
    | directory entries =>
      rw [List.cons_append, find, find]
      cases child? entries name with
      | none => rfl
      | some u => exact ih u

lemma view_eq_directory_iff {t : FileTree} {names : List String} :
    t.view names = some .directory ↔ ∃ entries, t.find names = .ok (directory entries) := by
  rw [view]
  cases t.find names with
  | error cause => simp
  | ok u => cases u <;> simp [node]

lemma view_eq_file_iff {t : FileTree} {names : List String} {content : ByteArray}
    {executable : Bool} : t.view names = some (.file content executable) ↔
      t.find names = .ok (file content executable) := by
  rw [view]
  cases t.find names with
  | error cause => simp
  | ok u => cases u <;> simp [node]

lemma view_of_isPrefix {t : FileTree} {names other : List String} (h : t.view names = none)
    (hunder : names <+: other) : t.view other = none := by
  obtain ⟨rest, rfl⟩ := hunder
  rw [view] at h ⊢
  rw [find_append]
  cases hfind : t.find names with
  | error cause => rfl
  | ok u => simp [hfind] at h

lemma child?_eq_find {t : FileTree} {base : List String} {entries : List (String × FileTree)}
    (hbase : t.find base = .ok (directory entries)) (name : String) :
    child? entries name = (t.find (base ++ [name])).toOption := by
  have hone : (directory entries).find [name] =
      match child? entries name with
      | none => .error .notFound
      | some u => .ok u := by
    rw [find]
    cases child? entries name with
    | none => rfl
    | some u => cases u <;> rfl
  rw [find_append, hbase]
  refine Eq.trans ?_ (congrArg Except.toOption hone.symm)
  cases child? entries name <;> rfl

lemma view_base_of_some {t : FileTree} {base : List String} {name : String} {n : Node}
    (h : t.view (base ++ [name]) = some n) : t.view base = some .directory := by
  rw [view, find_append] at h
  rw [view]
  cases hbase : t.find base with
  | error cause => simp [hbase, Bind.bind, Except.bind] at h
  | ok u =>
    cases u with
    | file content executable => simp [hbase, Bind.bind, Except.bind, find] at h
    | directory entries => rfl

section Alter

variable {change : Option FileTree → Except OsError (Option FileTree)} {base : List String}
  {name : String} {t : FileTree} {entries : List (String × FileTree)}

lemma alter_without (hbase : t.find base = .ok (directory entries))
    (hchange : change (child? entries name) = .ok none) :
    ∃ u, alter change (base ++ [name]) t = .ok u ∧
      u.view = View.without t.view (base ++ [name]) := by
  obtain ⟨u, hu, hview⟩ := alter_of_directory hbase hchange
  exact ⟨u, hu, funext hview⟩

lemma alter_put {leaf : FileTree} (hbase : t.find base = .ok (directory entries))
    (hchange : change (child? entries name) = .ok (some leaf))
    (hleaf : ∀ next rest, leaf.view (next :: rest) = none)
    (habsent : t.view (base ++ [name]) = none) :
    ∃ u, alter change (base ++ [name]) t = .ok u ∧
      u.view = View.put t.view (base ++ [name]) leaf.node := by
  obtain ⟨u, hu, hview⟩ := alter_of_directory hbase hchange
  refine ⟨u, hu, funext fun other => ?_⟩
  rw [hview, View.put]
  by_cases hunder : base ++ [name] <+: other
  · obtain ⟨rest, rfl⟩ := hunder
    cases rest with
    | nil => simp
    | cons next rest =>
      rw [view_of_isPrefix habsent (List.prefix_append _ (next :: rest))]
      simp [hleaf]
  · have hne : other ≠ base ++ [name] := by
      rintro rfl
      exact hunder (List.prefix_refl _)
    rw [if_neg hunder, if_neg hne]

end Alter

lemma removeDirectory_of_directory {t : FileTree} {path name : String} {base : List String}
    (hnames : t.names path = .ok (base ++ [name]))
    (h : t.view (base ++ [name]) = some .directory) :
    ∃ u, t.removeDirectory path = .ok u ∧ u.view = View.without t.view (base ++ [name]) := by
  obtain ⟨entries, hbase⟩ := view_eq_directory_iff.mp (view_base_of_some h)
  obtain ⟨inner, hfind⟩ := view_eq_directory_iff.mp h
  have hchild : child? entries name = some (directory inner) := by
    rw [child?_eq_find hbase, hfind]
    rfl
  rw [removeDirectory, hnames]
  exact alter_without hbase (by rw [hchild])

lemma child?_of_view {t : FileTree} {name : String} {base : List String}
    {entries : List (String × FileTree)} (hbase : t.find base = .ok (directory entries))
    (h : t.view (base ++ [name]) = none) : child? entries name = none := by
  rw [child?_eq_find hbase]
  rw [view] at h
  cases hfind : t.find (base ++ [name]) with
  | error cause => rfl
  | ok u => simp [hfind] at h

lemma makeDirectoryAt_eq_alter {t : FileTree} {name : String} {base : List String}
    {entries : List (String × FileTree)} (hbase : t.find base = .ok (directory entries))
    (hchild : child? entries name = none) :
    makeDirectoryAt (base ++ [name]) t =
      alter (fun _ => .ok (some (directory []))) (base ++ [name]) t := by
  induction base generalizing t with
  | nil =>
    obtain rfl : t = directory entries := by
      simpa [find] using hbase
    simp [makeDirectoryAt, alter, hchild, Except.map]
  | cons first rest ih =>
    obtain ⟨outer, inner, rfl, hfirst, hinner⟩ := exists_of_find_cons hbase
    rw [List.cons_append, makeDirectoryAt, alter_cons (by simp), hfirst]
    simp only [Option.getD_some, ih hinner]

lemma makeDirectory_of_absent {t : FileTree} {path name : String} {base : List String}
    (hnames : t.names path = .ok (base ++ [name])) (hbase : t.view base = some .directory)
    (habsent : t.view (base ++ [name]) = none) :
    ∃ u, t.makeDirectory path = .ok u ∧ u.view = View.put t.view (base ++ [name]) .directory := by
  obtain ⟨entries, hfind⟩ := view_eq_directory_iff.mp hbase
  have halter : t.makeDirectory path =
      alter (fun _ => .ok (some (directory []))) (base ++ [name]) t := by
    rw [makeDirectory, hnames]
    exact makeDirectoryAt_eq_alter hfind (child?_of_view hfind habsent)
  rw [halter]
  exact @alter_put _ _ _ _ _ (directory []) hfind rfl (fun _ _ => rfl) habsent

lemma write_of_absent {t : FileTree} {path name : String} {base : List String}
    (hnames : t.names path = .ok (base ++ [name])) (hbase : t.view base = some .directory)
    (habsent : t.view (base ++ [name]) = none) (content : ByteArray) (executable : Bool) :
    ∃ u, t.write path content executable = .ok u ∧
      u.view = View.put t.view (base ++ [name]) (.file content executable) := by
  obtain ⟨entries, hfind⟩ := view_eq_directory_iff.mp hbase
  have hchild := child?_of_view hfind habsent
  rw [write, hnames]
  exact @alter_put _ _ _ _ _ (file content executable) hfind (by rw [hchild]) (fun _ _ => rfl)
    habsent

lemma put_eq_directory {t : FileTree} {place names : List String} (n : Node)
    (habsent : t.view place = none) (h : t.view names = some .directory) :
    View.put t.view place n names = some .directory := by
  rw [View.put, if_neg, h]
  rintro rfl
  rw [habsent] at h
  exact absurd h (by simp)

section Names

lemma lookup_of_names {t : FileTree} {path : String} {names : List String}
    (h : t.names path = .ok names) : t.lookup path = t.find names := by
  rw [lookup, h]
  rfl

lemma lookup_of_error {t : FileTree} {path : String} {cause : OsError}
    (h : t.names path = .error cause) : t.lookup path = .error cause := by
  rw [lookup, h]
  rfl

lemma namesFrom_append_plain (t : FileTree) {name : String} (hname : Path.isPlainName name = true)
    (passed parts : List String) :
    t.namesFrom passed (parts ++ [name]) = (t.namesFrom passed parts).map (· ++ [name]) := by
  simp only [Path.isPlainName, Bool.and_eq_true, bne_iff_ne, ne_eq] at hname
  obtain ⟨⟨⟨-, hdot⟩, hdots⟩, -⟩ := hname
  induction parts generalizing passed with
  | nil => simp [namesFrom, hdot, hdots, Except.map]
  | cons part rest ih =>
    rw [List.cons_append, namesFrom, namesFrom]
    split_ifs with h h
    · exact ih passed
    · cases t.find passed.reverse with
      | error cause => rfl
      | ok u =>
        cases u with
        | file content executable => rfl
        | directory entries => exact ih (above passed)
    · exact ih (part :: passed)

lemma names_join (t : FileTree) {name : String} (hname : Path.isPlainName name = true)
    (root : String) :
    t.names (Path.join root name) =
      (t.namesFrom [] (Path.components root)).map (· ++ [name]) := by
  rw [names, Path.isEmpty_join hname, Path.components_join hname]
  exact namesFrom_append_plain t hname [] _

lemma namesFrom_of_directories {t u : FileTree}
    (h : ∀ names, t.view names = some .directory → u.view names = some .directory)
    {passed parts names : List String} (ht : t.namesFrom passed parts = .ok names) :
    u.namesFrom passed parts = .ok names := by
  induction parts generalizing passed with
  | nil => exact ht
  | cons part rest ih =>
    rw [namesFrom] at ht ⊢
    split_ifs at ht ⊢ with hdot hdots
    · exact ih ht
    · cases hfind : t.find passed.reverse with
      | error cause => simp [hfind] at ht
      | ok v =>
        cases v with
        | file content executable => simp [hfind] at ht
        | directory entries =>
          obtain ⟨entries', hu⟩ := view_eq_directory_iff.mp
            (h passed.reverse (view_eq_directory_iff.mpr ⟨entries, hfind⟩))
          rw [hfind] at ht
          rw [hu]
          exact ih ht
    · exact ih ht

end Names

end Routewright.FileTree
