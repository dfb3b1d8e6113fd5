import Routewright.Build.Scratch
import Routewright.Proofs.Except
import Routewright.Proofs.Files.Tree
import Routewright.Proofs.Files.Workspace

namespace Routewright.Scratch

open FileTree

def cleared (t : FileTree) (root : String) : View :=
  match t.names (pathIn root) with
  | .ok names => View.without t.view names
  | .error _ => t.view

def holding (t : FileTree) (names : List String) (source : String) : View :=
  View.put (View.put (View.without t.view names) names .directory) (names ++ [programName])
    (.file source.toUTF8 false)

lemma names_pathIn (t : FileTree) (root : String) :
    t.names (pathIn root) =
      (t.namesFrom [] (Path.components root)).map (· ++ [directoryName]) :=
  names_join t (by decide) root

lemma without_of_absent {t : FileTree} {names : List String} (h : t.view names = none) :
    View.without t.view names = t.view := by
  funext other
  rw [View.without]
  split_ifs with hunder
  · exact (view_of_isPrefix h hunder).symm
  · rfl

lemma outcome_clean_of_absent {w : Workspace} {path : String}
    (h : w.tree.pathExists path = false) : Work.outcome (clean path) w = (.ok (), w) := by
  rw [clean, Work.outcome_bind_of_ok (Work.outcome_tree w), h]
  rfl

lemma outcome_clean_of_directory {w : Workspace} {path : String} {t : FileTree}
    (h : w.tree.pathExists path = true) (ht : w.tree.removeDirectory path = .ok t) :
    Work.outcome (clean path) w = (.ok (), ⟨t, w.changes ++ [.removeDirectory path]⟩) := by
  rw [clean, Work.outcome_bind_of_ok (Work.outcome_tree w), h]
  exact Work.outcome_perform_of_ok ht

lemma outcome_clean {w : Workspace} {root : String}
    (hscratch : ∀ content executable,
      w.tree.lookup (pathIn root) ≠ .ok (.file content executable)) :
    ∃ u, Work.outcome (clean (pathIn root)) w = (.ok (), u) ∧
      u.tree.view = cleared w.tree root := by
  cases hnames : w.tree.names (pathIn root) with
  | error cause =>
    have habsent : w.tree.pathExists (pathIn root) = false := by
      rw [pathExists, lookup_of_error hnames]
    exact ⟨w, outcome_clean_of_absent habsent, by rw [cleared, hnames]⟩
  | ok names =>
    have hlookup := lookup_of_names hnames
    cases hfind : w.tree.find names with
    | error cause =>
      have habsent : w.tree.pathExists (pathIn root) = false := by
        rw [pathExists, hlookup, hfind]
      have hview : w.tree.view names = none := by
        rw [view, hfind]
      refine ⟨w, outcome_clean_of_absent habsent, ?_⟩
      rw [cleared, hnames]
      exact (without_of_absent hview).symm
    | ok t =>
      cases t with
      | file content executable => exact absurd (hlookup.trans hfind) (hscratch _ _)
      | directory entries =>
        have hexists : w.tree.pathExists (pathIn root) = true := by
          rw [pathExists, hlookup, hfind]
        obtain ⟨base, -, rfl⟩ := except_map_eq_ok_iff.mp ((names_pathIn w.tree root).symm.trans hnames)
        obtain ⟨t, ht, hview⟩ := removeDirectory_of_directory hnames
          (view_eq_directory_iff.mpr ⟨entries, hfind⟩)
        refine ⟨_, outcome_clean_of_directory hexists ht, ?_⟩
        rw [hview, cleared, hnames]

lemma outcome_writeProgram {w : Workspace} {root : String} {base : List String}
    (hroot : w.tree.namesFrom [] (Path.components root) = .ok base)
    (hbase : w.tree.view base = some .directory)
    (habsent : w.tree.view (base ++ [directoryName]) = none) (source : String) :
    ∃ u, Work.outcome (writeProgram (pathIn root) source) w =
        (.ok (Path.join (pathIn root) programName), u) ∧
      u.tree.view = View.put (View.put w.tree.view (base ++ [directoryName]) .directory)
        (base ++ [directoryName] ++ [programName]) (.file source.toUTF8 false) ∧
      ∃ entries, u.tree.lookup (pathIn root) = .ok (directory entries) := by
  have hnames : w.tree.names (pathIn root) = .ok (base ++ [directoryName]) := by
    rw [names_pathIn, hroot]
    rfl
  have hclean : w.tree.pathExists (pathIn root) = false := by
    rw [pathExists, lookup_of_names hnames]
    rw [view] at habsent
    cases hfind : w.tree.find (base ++ [directoryName]) with
    | error cause => rfl
    | ok t => simp [hfind] at habsent
  obtain ⟨t, ht, hview⟩ := makeDirectory_of_absent hnames hbase habsent
  have hself : t.view (base ++ [directoryName]) = some .directory := by
    rw [hview, View.put, if_pos rfl]
  have hbelow : t.view (base ++ [directoryName] ++ [programName]) = none := by
    rw [hview, View.put, if_neg (by simp)]
    exact view_of_isPrefix habsent (List.prefix_append ..)
  have hroot' : t.namesFrom [] (Path.components root) = .ok base :=
    namesFrom_of_directories (fun names h => hview ▸ put_eq_directory _ habsent h) hroot
  have hnames' : t.names (Path.join (pathIn root) programName) =
      .ok (base ++ [directoryName] ++ [programName]) := by
    rw [names_join t (by decide), pathIn, Path.components_join (by decide),
      namesFrom_append_plain t (by decide), hroot']
    rfl
  obtain ⟨u, hu, hview'⟩ := write_of_absent hnames' hself hbelow source.toUTF8 false
  have hmake : FileChange.apply w.tree (.makeDirectory (pathIn root)) = .ok t := ht
  have hwrite : FileChange.apply t (.write (Path.join (pathIn root) programName) source) = .ok u :=
    hu
  refine ⟨⟨u, w.changes ++ [.makeDirectory (pathIn root)] ++
    [.write (Path.join (pathIn root) programName) source]⟩, ?_, by rw [hview', hview], ?_⟩
  · rw [writeProgram, Work.outcome_bind_of_ok (outcome_clean_of_absent hclean),
      Work.outcome_bind_of_ok (Work.outcome_perform_of_ok hmake)]
    exact Work.outcome_bind_of_ok (Work.outcome_perform_of_ok hwrite) _
  · have hdirectories : ∀ names, t.view names = some .directory → u.view names = some .directory :=
      fun names h => hview' ▸ put_eq_directory _ hbelow h
    have hnames'' : u.names (pathIn root) = .ok (base ++ [directoryName]) := by
      rw [names_pathIn, namesFrom_of_directories hdirectories hroot']
      rfl
    rw [lookup_of_names hnames'']
    exact view_eq_directory_iff.mp (hdirectories _ hself)

end Routewright.Scratch
