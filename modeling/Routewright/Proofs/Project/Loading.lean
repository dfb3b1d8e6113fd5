import Routewright.Project.Loading
import Routewright.Project.Settings
import Routewright.Doc.Markdown
import Routewright.Proofs.Files.Agreement

namespace Routewright

open FileTree Loading

namespace Loading

namespace Directory

structure Alike (d e : Directory) : Prop where
  path_eq : d.path = e.path
  view_eq : (directory d.entries).view = (directory e.entries).view

variable {d e : Directory}

lemma Alike.sources_eq (h : d.Alike e) : d.sources = e.sources := by
  have hrel : List.Forall₂ Eq d.sources e.sources := by
    refine List.rel_filterMap ?_ (forall₂_listing h.view_eq)
    rintro ⟨name, t⟩ ⟨name', u⟩ ⟨rfl, hview⟩
    rcases view_eq_cases hview with
      ⟨content, executable, rfl, rfl⟩ | ⟨entries, entries', rfl, rfl, -⟩
    · rw [h.path_eq]
      by_cases hsource : isSource name = true
      · simp only [hsource, if_true]
        exact .some rfl
      · simp only [hsource]
        exact .none
    · exact .none
  rwa [List.forall₂_eq_eq_eq] at hrel

lemma Alike.forall₂_subdirectories (h : d.Alike e) (left : Option String) :
    List.Forall₂ Alike (subdirectories left d) (subdirectories left e) := by
  refine List.rel_filterMap ?_ (forall₂_listing h.view_eq)
  rintro ⟨name, t⟩ ⟨name', u⟩ ⟨rfl, hview⟩
  rcases view_eq_cases hview with
    ⟨content, executable, rfl, rfl⟩ | ⟨entries, entries', rfl, rfl, hentries⟩
  · exact .none
  · rw [h.path_eq]
    by_cases hskip : (isHidden name || left == some name) = true
    · simp only [hskip, if_true]
      exact .none
    · simp only [hskip]
      exact .some ⟨rfl, hentries⟩

lemma Alike.scan_eq {read : FileReader} (h : d.Alike e) : scan read d = scan read e := by
  rw [scan, scan, h.sources_eq, h.path_eq]

lemma depth_le_depthOf {name : String} {t : FileTree} {entries : List (String × FileTree)}
    (h : (name, t) ∈ entries) : t.depth ≤ depthOf entries := by
  induction entries with
  | nil => simp at h
  | cons x entries ih =>
    rw [depthOf]
    rcases List.mem_cons.mp h with rfl | h
    · exact Nat.le_max_left _ _
    · exact Nat.le_trans (ih h) (Nat.le_max_right _ _)

lemma depth_of_mem_subdirectories {left : Option String} (h : e ∈ subdirectories left d) :
    (directory e.entries).depth ≤ depthOf d.entries := by
  obtain ⟨⟨name, t⟩, hlisting, he⟩ := List.mem_filterMap.mp h
  have hmem := mem_of_mem_listing hlisting
  cases t with
  | file content executable => cases he
  | directory entries =>
    simp only at he
    split_ifs at he
    obtain rfl := Option.some.inj he
    exact depth_le_depthOf hmem

end Directory

variable {ds es : List Directory}

lemma forall₂_levels (n : ℕ) (left : Option String) (h : List.Forall₂ Directory.Alike ds es) :
    List.Forall₂ Directory.Alike (levels left n ds) (levels left n es) := by
  induction n generalizing left ds es with
  | zero => exact .nil
  | succ n ih =>
    rw [levels, levels]
    exact List.rel_append h
      (ih none (List.rel_flatMap h fun d e hde => hde.forall₂_subdirectories left))

lemma levels_succ {n : ℕ} {left : Option String}
    (h : ∀ d ∈ ds, (directory d.entries).depth ≤ n) :
    levels left (n + 1) ds = levels left n ds := by
  induction n generalizing left ds with
  | zero =>
    have hnil : ds = [] := by
      refine List.eq_nil_iff_forall_not_mem.mpr fun d hd => ?_
      have hdepth := h d hd
      simp [depth] at hdepth
    subst hnil
    rfl
  | succ n ih =>
    have hbelow : ∀ e ∈ ds.flatMap (Directory.subdirectories left),
        (directory e.entries).depth ≤ n := by
      intro e he
      obtain ⟨d, hd, he⟩ := List.mem_flatMap.mp he
      have hdepth := h d hd
      have hle := Directory.depth_of_mem_subdirectories he
      rw [depth] at hdepth
      omega
    exact congrArg (ds ++ ·) (ih hbelow)

lemma levels_of_depth_le {n : ℕ} {left : Option String}
    (h : ∀ d ∈ ds, (directory d.entries).depth ≤ n) (k : ℕ) :
    levels left (n + k) ds = levels left n ds := by
  induction k with
  | zero => rfl
  | succ k ih =>
    rw [← ih]
    exact levels_succ fun d hd => Nat.le_add_right_of_le (h d hd)

lemma forall₂_directories (scratch root : String) {entries entries' : List (String × FileTree)}
    (h : (directory entries).view = (directory entries').view) :
    List.Forall₂ Directory.Alike (directories scratch root entries)
      (directories scratch root entries') := by
  have hlevels : ∀ (inner : List (String × FileTree)) (k : ℕ),
      directories scratch root inner =
        levels (some scratch) ((directory inner).depth + k) [⟨root, inner⟩] := by
    intro inner k
    refine (levels_of_depth_le ?_ k).symm
    simp
  rw [hlevels entries (directory entries').depth, hlevels entries' (directory entries).depth,
    Nat.add_comm]
  exact forall₂_levels _ _ (.cons ⟨rfl, h⟩ .nil)

lemma failure_eq {read : FileReader} (h : List.Forall₂ Directory.Alike ds es) :
    ds.findSome? (fun d => (scan read d).failure) =
      es.findSome? fun d => (scan read d).failure := by
  induction h with
  | nil => rfl
  | cons hde _ ih => rw [List.findSome?_cons, List.findSome?_cons, hde.scan_eq, ih]

lemma packages_eq {read : FileReader} {modulePath root : String}
    (h : List.Forall₂ Directory.Alike ds es) :
    ds.map (fun d => package modulePath root d (scan read d)) =
      es.map fun d => package modulePath root d (scan read d) := by
  induction h with
  | nil => rfl
  | cons hde _ ih =>
    rw [List.map_cons, List.map_cons, ih, hde.scan_eq, package, package, hde.path_eq]

end Loading

variable {t u : FileTree}

lemma Project.Manifest.modulePath_eq_of_read {root : String}
    (h : t.read (pathIn root) = u.read (pathIn root)) : modulePath t root = modulePath u root := by
  rw [modulePath, modulePath, read, read, h]

lemma Project.Manifest.version_eq_of_read {root : String}
    (h : t.read (pathIn root) = u.read (pathIn root)) : version t root = version u root := by
  rw [version, version, read, read, h]

lemma Project.load_eq_ok_iff {read : FileReader} {root scratch : String} {project : Project} :
    Project.load read t root scratch = .ok project ↔ ∃ modulePath entries,
      Manifest.modulePath t root = .ok modulePath ∧ t.lookup root = .ok (directory entries) ∧
      (∀ d ∈ directories scratch root entries, (scan read d).failure = none) ∧
      (⟨root, modulePath, (directories scratch root entries).map fun d =>
        package modulePath root d (scan read d)⟩ : Project) = project := by
  rw [Project.load, except_bind_eq_ok_iff]
  refine exists_congr fun modulePath => ?_
  cases t.lookup root with
  | error cause => simp
  | ok u =>
    cases u with
    | file content executable => simp
    | directory entries =>
      simp only [List.findSome?_map, List.map_map, Function.comp_def, Except.ok.injEq,
        FileTree.directory.injEq, exists_and_left, exists_eq_left', ← List.findSome?_eq_none_iff]
      cases (directories scratch root entries).findSome? fun d => (scan read d).failure <;> simp

lemma Project.load_eq_of_view (h : t.view = u.view) (read : FileReader) (root scratch : String) :
    Project.load read t root scratch = Project.load read u root scratch := by
  rw [Project.load, Project.load, Manifest.modulePath_eq_of_read (read_eq_of_view h _)]
  rcases lookup_cases h root with
    ⟨cause, ht, hu⟩ | ⟨content, executable, ht, hu⟩ | ⟨entries, entries', ht, hu, hview⟩
  · rw [ht, hu]
  · rw [ht, hu]
  · have hall := Loading.forall₂_directories scratch root hview
    simp only [ht, hu, List.findSome?_map, List.map_map, Function.comp_def,
      Loading.failure_eq hall, Loading.packages_eq hall]

lemma Settings.load_eq_of_view (h : t.view = u.view) (root : String) :
    Settings.load t root = Settings.load u root := by
  rw [Settings.load, Settings.load, pathExists_eq_of_view h, read_eq_of_view h]

lemma MarkdownDirectory.mapValues_contentOf_eq {entries entries' : List (String × FileTree)}
    (h : (directory entries).view = (directory entries').view) :
    (listing entries).mapValues contentOf = (listing entries').mapValues contentOf := by
  apply Dict.ext
  rw [Dict.mapValues, Dict.mapValues, ← List.forall₂_eq_eq_eq, List.forall₂_map_left_iff,
    List.forall₂_map_right_iff]
  refine (forall₂_listing h).imp ?_
  rintro ⟨name, t⟩ ⟨name', u⟩ ⟨rfl, hview⟩
  rcases view_eq_cases hview with
    ⟨content, executable, rfl, rfl⟩ | ⟨inner, inner', rfl, rfl, -⟩
  · rfl
  · rfl

lemma MarkdownDirectory.ofTree_eq_of_view (h : t.view = u.view) (path : String) :
    ofTree t path = ofTree u path := by
  rw [ofTree, ofTree, FileTree.entries, FileTree.entries]
  rcases lookup_cases h path with
    ⟨cause, ht, hu⟩ | ⟨content, executable, ht, hu⟩ | ⟨entries, entries', ht, hu, hview⟩
  · rw [ht, hu]
  · rw [ht, hu]
  · rw [ht, hu]
    exact congrArg (fun d => MarkdownDirectory.mk path (.ok d)) (mapValues_contentOf_eq hview)

end Routewright
