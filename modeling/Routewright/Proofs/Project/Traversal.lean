import Mathlib.Data.List.Lex
import Routewright.Proofs.Project.Loading
import Routewright.Proofs.Text.ByteOrder

namespace Routewright

open FileTree Text

namespace Loading

structure Place where
  names : List String
  entries : List (String × FileTree)

structure Visible (left : Option String) (names : List String) : Prop where
  shown : ∀ name ∈ names, isHidden name = false
  head_ne : ∀ name ∈ names.head?, left ≠ some name

abbrev NamesLt : List String → List String → Prop :=
  List.Lex fun x y => bytes x < bytes y

/-- Whether a directory is loaded before another one: it is nearer to the root, or it is as near and
its names come first. -/
def Earlier (names names' : List String) : Prop :=
  names.length < names'.length ∨ names.length = names'.length ∧ NamesLt names names'

namespace Place

variable {p q : Place} {left : Option String}

def directory (root : String) (p : Place) : Directory :=
  ⟨p.names.foldl Path.join root, p.entries⟩

def below (left : Option String) (p : Place) : List Place :=
  (FileTree.listing p.entries).entries.filterMap fun
    | (name, .directory entries) =>
      if isHidden name || left == some name then none else some ⟨p.names ++ [name], entries⟩
    | _ => none

lemma subdirectories_directory (root : String) (p : Place) :
    (p.directory root).subdirectories left = (p.below left).map (directory root) := by
  rw [below, List.map_filterMap, Directory.subdirectories, Directory.listing]
  refine List.filterMap_congr ?_
  rintro ⟨name, t⟩ -
  cases t with
  | file content executable => rfl
  | directory entries =>
    dsimp only
    split_ifs
    · rfl
    · simp [directory]

lemma mem_below_iff : q ∈ p.below left ↔ ∃ name, q.names = p.names ++ [name] ∧
    isHidden name = false ∧ left ≠ some name ∧
      child? p.entries name = some (.directory q.entries) := by
  rw [below, List.mem_filterMap]
  constructor
  · rintro ⟨⟨name, t⟩, hmem, hq⟩
    have hchild := mem_listing_iff.mp hmem
    cases t with
    | file content executable => cases hq
    | directory entries =>
      dsimp only at hq
      split_ifs at hq with hskip
      obtain rfl := Option.some.inj hq
      simp only [Bool.or_eq_true, beq_iff_eq, not_or, Bool.not_eq_true] at hskip
      exact ⟨name, rfl, hskip.1, hskip.2, hchild⟩
  · rintro ⟨name, hnames, hshown, hleft, hchild⟩
    refine ⟨(name, .directory q.entries), mem_listing_iff.mpr hchild, ?_⟩
    obtain ⟨names, entries⟩ := q
    simp only at hnames
    simp [hshown, hleft, hnames]

lemma pairwise_below (left : Option String) (p : Place) :
    (p.below left).Pairwise fun a b => ∃ x y, a.names = p.names ++ [x] ∧ b.names = p.names ++ [y] ∧
      x < y := by
  rw [below, List.pairwise_filterMap]
  refine (FileTree.listing p.entries).sorted.imp ?_
  rintro ⟨x, t⟩ ⟨y, u⟩ hlt a ha b hb
  cases t with
  | file content executable => cases ha
  | directory entries =>
    cases u with
    | file content executable => cases hb
    | directory entries' =>
      dsimp only at ha hb
      split_ifs at ha hb
      obtain rfl := Option.some.inj ha
      obtain rfl := Option.some.inj hb
      exact ⟨x, y, rfl, rfl, hlt⟩

def levels (left : Option String) : ℕ → List Place → List Place
  | 0, _ => []
  | n + 1, ps => ps ++ levels none n (ps.flatMap (below left))

variable {ps : List Place}

lemma levels_map_directory (root : String) (n : ℕ) (left : Option String) (ps : List Place) :
    Loading.levels left n (ps.map (directory root)) = (levels left n ps).map (directory root) := by
  induction n generalizing left ps with
  | zero => rfl
  | succ n ih =>
    have hnext : (ps.map (directory root)).flatMap (Directory.subdirectories left) =
        (ps.flatMap (below left)).map (directory root) := by
      rw [List.flatMap_map, List.map_flatMap]
      exact List.flatMap_congr fun p _ => subdirectories_directory root p
    rw [Loading.levels, levels, hnext, ih, List.map_append]

section Membership

lemma visible_nil (left : Option String) : Visible left [] :=
  ⟨by simp, by simp⟩

lemma visible_cons_iff {name : String} {names : List String} :
    Visible left (name :: names) ↔
      isHidden name = false ∧ left ≠ some name ∧ Visible none names := by
  constructor
  · rintro ⟨hshown, hhead⟩
    obtain ⟨hname, hnames⟩ := List.forall_mem_cons.mp hshown
    exact ⟨hname, hhead name rfl, hnames, by simp⟩
  · rintro ⟨hname, hleft, hnames, -⟩
    exact ⟨List.forall_mem_cons.mpr ⟨hname, hnames⟩, by simpa using hleft⟩

lemma mem_levels_iff {n : ℕ} : q ∈ levels left n ps ↔ ∃ p ∈ ps, ∃ rest, q.names = p.names ++ rest ∧
    rest.length < n ∧ Visible left rest ∧
      (FileTree.directory p.entries).find rest = .ok (.directory q.entries) := by
  -- Below the first level nothing more is left out, so the induction is for every `left`.
  induction n generalizing left ps with
  | zero => simp [levels]
  | succ n ih =>
    rw [levels, List.mem_append, ih]
    constructor
    · rintro (hq | ⟨p', hp', rest, hnames, hlength, hvisible, hfind⟩)
      · exact ⟨q, hq, [], by simp, Nat.succ_pos n, visible_nil left, rfl⟩
      · obtain ⟨p, hp, hbelow⟩ := List.mem_flatMap.mp hp'
        obtain ⟨name, hname, hshown, hleft, hchild⟩ := mem_below_iff.mp hbelow
        refine ⟨p, hp, name :: rest, ?_, Nat.succ_lt_succ hlength,
          visible_cons_iff.mpr ⟨hshown, hleft, hvisible⟩,
          find_cons_eq_ok_iff.mpr ⟨_, hchild, hfind⟩⟩
        rw [hnames, hname, List.append_assoc]
        rfl
    · rintro ⟨p, hp, rest, hnames, hlength, hvisible, hfind⟩
      cases rest with
      | nil =>
        left
        have hentries : p.entries = q.entries := by
          simpa [find] using hfind
        rw [List.append_nil] at hnames
        obtain ⟨names, entries⟩ := q
        obtain rfl : names = p.names := hnames
        obtain rfl : p.entries = entries := hentries
        exact hp
      | cons name rest =>
        right
        obtain ⟨hshown, hleft, hvisible⟩ := visible_cons_iff.mp hvisible
        obtain ⟨u, hchild, hfind⟩ := find_cons_eq_ok_iff.mp hfind
        cases u with
        | file content executable => cases rest <;> cases hfind
        | directory entries =>
          refine ⟨⟨p.names ++ [name], entries⟩, List.mem_flatMap.mpr ⟨p, hp, mem_below_iff.mpr
            ⟨name, rfl, hshown, hleft, hchild⟩⟩, rest, ?_, Nat.lt_of_succ_lt_succ hlength,
            hvisible, hfind⟩
          rw [hnames, List.append_assoc]
          rfl

end Membership

section Order

lemma lex_append_of_length_eq {α : Type} {r : α → α → Prop} {s s' : List α} (h : List.Lex r s s')
    (hlength : s.length = s'.length) (t t' : List α) : List.Lex r (s ++ t) (s' ++ t') := by
  induction h with
  | nil => cases hlength
  | rel hr => exact .rel hr
  | cons _ ih => exact .cons (ih (Nat.succ_inj.mp hlength))

lemma pairwise_flatMap_below {k : ℕ} (hlength : ∀ p ∈ ps, p.names.length = k)
    (hps : ps.Pairwise fun a b => NamesLt a.names b.names)
    (left : Option String) :
    (ps.flatMap (below left)).Pairwise fun a b => NamesLt a.names b.names := by
  rw [List.pairwise_flatMap]
  constructor
  · intro p _
    refine (pairwise_below left p).imp ?_
    rintro a b ⟨x, y, ha, hb, hlt⟩
    rw [ha, hb]
    exact List.Lex.append_left (fun x y => bytes x < bytes y) (.rel (bytes_lt_iff.mpr hlt)) p.names
  · -- Names of one level are as many, so what is appended to them does not change their order.
    refine List.Pairwise.imp_of_mem (fun {p p'} hp hp' hlex a ha b hb => ?_) hps
    obtain ⟨x, hx, -⟩ := mem_below_iff.mp ha
    obtain ⟨y, hy, -⟩ := mem_below_iff.mp hb
    rw [hx, hy]
    exact lex_append_of_length_eq hlex ((hlength p hp).trans (hlength p' hp').symm) _ _

lemma pairwise_levels {k n : ℕ} (hlength : ∀ p ∈ ps, p.names.length = k)
    (hps : ps.Pairwise fun a b => NamesLt a.names b.names)
    (left : Option String) :
    (levels left n ps).Pairwise fun a b => Earlier a.names b.names := by
  induction n generalizing left ps k with
  | zero => exact .nil
  | succ n ih =>
    have hnext : ∀ p ∈ ps.flatMap (below left), p.names.length = k + 1 := by
      intro p hp
      obtain ⟨p', hp', hbelow⟩ := List.mem_flatMap.mp hp
      obtain ⟨name, hname, -⟩ := mem_below_iff.mp hbelow
      rw [hname, List.length_append, hlength p' hp']
      rfl
    rw [levels, List.pairwise_append]
    refine ⟨?_, ih hnext (pairwise_flatMap_below hlength hps left) none, fun a ha b hb => ?_⟩
    · refine List.Pairwise.imp_of_mem (fun {p p'} hp hp' hlex => ?_) hps
      exact .inr ⟨(hlength p hp).trans (hlength p' hp').symm, hlex⟩
    · obtain ⟨p, hp, rest, hnames, -⟩ := mem_levels_iff.mp hb
      left
      rw [hlength a ha, hnames, List.length_append, hnext p hp]
      omega

end Order

section All

variable {entries : List (String × FileTree)}

def all (scratch : String) (entries : List (String × FileTree)) : List Place :=
  levels (some scratch) (FileTree.directory entries).depth [⟨[], entries⟩]

lemma length_add_depth_le {t u : FileTree} {names : List String} (h : t.find names = .ok u) :
    names.length + u.depth ≤ t.depth := by
  induction names generalizing t with
  | nil =>
    obtain rfl : t = u := by
      simpa [find] using h
    simp
  | cons name names ih =>
    cases t with
    | file content executable => cases h
    | directory entries =>
      obtain ⟨v, hchild, hfind⟩ := find_cons_eq_ok_iff.mp h
      obtain ⟨x, hx, rfl⟩ := Option.map_eq_some_iff.mp hchild
      have hle := ih hfind
      have hdepth := Directory.depth_le_depthOf (List.mem_of_find?_eq_some hx)
      rw [depth, List.length_cons]
      omega

lemma mem_all_iff {scratch : String} : q ∈ all scratch entries ↔
    Visible (some scratch) q.names ∧
      (FileTree.directory entries).find q.names = .ok (.directory q.entries) := by
  rw [all, mem_levels_iff]
  constructor
  · rintro ⟨p, hp, rest, hnames, -, hvisible, hfind⟩
    obtain rfl := List.mem_singleton.mp hp
    obtain rfl : q.names = rest := hnames
    exact ⟨hvisible, hfind⟩
  · rintro ⟨hvisible, hfind⟩
    refine ⟨_, List.mem_singleton_self _, q.names, rfl, ?_, hvisible, hfind⟩
    have hle := length_add_depth_le hfind
    rw [depth] at hle
    omega

lemma pairwise_all (scratch : String) (entries : List (String × FileTree)) :
    (all scratch entries).Pairwise fun a b => Earlier a.names b.names :=
  pairwise_levels (k := 0) (by simp) (List.pairwise_singleton _ _) (some scratch)

lemma directories_eq (scratch root : String) (entries : List (String × FileTree)) :
    directories scratch root entries = (all scratch entries).map (directory root) :=
  levels_map_directory root _ (some scratch) [⟨[], entries⟩]

end All

section Paths

variable {names : List String}

lemma components_foldl_join (hnames : ∀ name ∈ names, Path.isPlainName name = true)
    (root : String) :
    Path.components (names.foldl Path.join root) = Path.components root ++ names := by
  induction names generalizing root with
  | nil => simp
  | cons name names ih =>
    obtain ⟨hname, hnames⟩ := List.forall_mem_cons.mp hnames
    rw [List.foldl_cons, ih hnames, Path.components_join hname, List.append_assoc]
    rfl

lemma relative_append (root names : List String) : Path.relative root (root ++ names) = names := by
  rw [Path.relative, List.isPrefixOf?_eq_some_iff_append_eq.mpr rfl, Option.getD_some]

lemma importPath_foldl_join (hnames : ∀ name ∈ names, Path.isPlainName name = true)
    (modulePath root : String) :
    importPath modulePath root (names.foldl Path.join root) =
      "/".intercalate (modulePath :: names) := by
  have hdots : names.filter (· ≠ ".") = names := by
    refine List.filter_eq_self.mpr fun name hname => ?_
    have hplain := hnames name hname
    simp only [Path.isPlainName, Bool.and_eq_true, bne_iff_ne] at hplain
    simpa using hplain.1.1.2
  simp only [importPath, components_foldl_join hnames, relative_append, hdots]
  cases names with
  | nil => rfl
  | cons name names => rw [String.intercalate_cons_cons]

end Paths

end Place

end Loading

end Routewright
