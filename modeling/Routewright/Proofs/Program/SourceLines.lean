import Routewright.Proofs.Program.ImportBlock

namespace Routewright.Program

open Go Text

variable {groups : ImportGroups} {bs : List Bootstrap}

def supervisorDeclarations : String :=
  .ofList (supervisorTypes.toList.drop 3)

lemma supervisorTypes_eq : supervisorTypes = "\n" ++ (")" ++ "\n" ++ supervisorDeclarations) := by
  obtain ⟨rest, hrest⟩ := supervisorTypes_eq_append
  have hdeclarations : supervisorDeclarations = rest := by
    rw [supervisorDeclarations, hrest, String.toList_append]
    exact String.ofList_toList
  have hclose : "\n)\n" = "\n" ++ (")" ++ "\n") :=
    ofList_eq_append (append_eq_ofList rfl) rfl
  rw [hdeclarations, hrest, hclose]
  simp only [String.append_assoc]

lemma linesOf_types :
    linesOf supervisorTypes = [[], ")".toList] ++ linesOf supervisorDeclarations := by
  have hempty : linesOf "" = [[]] := rfl
  have hparenthesis : linesOf ")" = [")".toList] := by
    decide
  have hlines : ∀ rest,
      linesOf ("\n" ++ (")" ++ "\n" ++ rest)) = [[], ")".toList] ++ linesOf rest := by
    intro rest
    rw [← String.empty_append (s := "\n" ++ (")" ++ "\n" ++ rest)), ← String.append_assoc,
      linesOf_append, linesOf_append, hempty, hparenthesis]
    simp only [List.cons_append, List.nil_append]
  rw [supervisorTypes_eq, hlines]

lemma linesOf_bodies (bs : List Bootstrap) (rest : String) :
    linesOf (String.join (bs.map fun b => "\n" ++ b.body ++ "\n") ++ rest) =
      bs.flatMap (fun b => [] :: linesOf b.body) ++ linesOf rest := by
  induction bs with
  | nil =>
    rw [List.map_nil, String.join_nil, String.empty_append, List.flatMap_nil, List.nil_append]
  | cons b bs ih =>
    have htext : String.join ((b :: bs).map fun b => "\n" ++ b.body ++ "\n") ++ rest =
        "" ++ "\n" ++ (b.body ++ "\n" ++
          (String.join (bs.map fun b => "\n" ++ b.body ++ "\n") ++ rest)) := by
      rw [List.map_cons, String.join_cons, String.empty_append]
      simp only [String.append_assoc]
    have hempty : linesOf "" = [[]] := rfl
    rw [htext, linesOf_append, linesOf_append, ih, hempty, List.flatMap_cons]
    simp only [List.cons_append, List.nil_append, List.append_assoc]

def closingLines (bs : List Bootstrap) : List (List Char) :=
  linesOf supervisorDeclarations ++ bs.map (fun b => ("\t" ++ b.functionName ++ ",").toList) ++
    "\x7d".toList :: (bs.flatMap (fun b => [] :: linesOf b.body) ++ linesOf supervisorMain)

lemma flatMap_closingLines {α : Type} {find : List Char → List α} (hempty : find [] = [])
    (hbrace : find "\x7d".toList = [])
    (hentries : ∀ b ∈ bs, find ("\t" ++ b.functionName ++ ",").toList = []) :
    (closingLines bs).flatMap find = (linesOf supervisorDeclarations).flatMap find ++
      (bs.flatMap (fun b => (linesOf b.body).flatMap find) ++
        (linesOf supervisorMain).flatMap find) := by
  have hlist : (bs.map fun b => ("\t" ++ b.functionName ++ ",").toList).flatMap find = [] :=
    List.flatMap_eq_nil_iff.mpr (List.forall_mem_map.mpr hentries)
  have hbodies : (bs.flatMap fun b => [] :: linesOf b.body).flatMap find =
      bs.flatMap fun b => (linesOf b.body).flatMap find := by
    rw [List.flatMap_assoc]
    simp only [List.flatMap_cons, hempty, List.nil_append]
  rw [closingLines, List.flatMap_append, List.flatMap_append, hlist, List.flatMap_cons, hbrace,
    List.flatMap_append, hbodies, List.append_nil, List.nil_append]

lemma linesOf_text (h : ∀ i ∈ groups.standard ++ groups.project, IsReadable i)
    (hnames : ∀ b ∈ bs, IsLine b.functionName) :
    linesOf (text groups bs) = openingLines groups ++ ")".toList :: closingLines bs := by
  have hlist : String.join (bs.map fun b => "\n\t" ++ b.functionName ++ ",") =
      String.join ((bs.map fun b => "\t" ++ b.functionName ++ ",").map ("\n" ++ ·)) := by
    have htab : "\n\t" = "\n" ++ "\t" :=
      ofList_eq_append rfl rfl
    rw [List.map_map]
    simp only [htab, Function.comp_def, String.append_assoc]
  have hclose : "\n\x7d\n" = "\n" ++ ("\x7d" ++ "\n") :=
    ofList_eq_append (append_eq_ofList rfl) rfl
  have hlines : (bs.map fun b => "\t" ++ b.functionName ++ ",").flatMap linesOf =
      bs.map fun b => ("\t" ++ b.functionName ++ ",").toList := by
    rw [List.flatMap_map, ← List.flatMap_pure_eq_map]
    refine List.flatMap_congr fun b hb => linesOf_of_not_mem ?_
    have hline : IsLine ("\t" ++ b.functionName ++ ",") := by
      simpa [hnames b hb] using by decide
    exact hline
  have hparenthesis : linesOf ")" = [")".toList] := by
    decide
  have hbrace : linesOf "\x7d" = ["\x7d".toList] := by
    decide
  have hassoc : ∀ opening declarations list bodies main : String,
      opening ++ ("\n" ++ (")" ++ "\n" ++ declarations)) ++ list ++ ("\n" ++ ("\x7d" ++ "\n")) ++
          bodies ++ main =
        opening ++ "\n" ++ (")" ++ "\n" ++ (declarations ++ list ++ "\n" ++
          ("\x7d" ++ "\n" ++ (bodies ++ main)))) := by
    intros
    simp only [String.append_assoc]
  unfold text closingLines
  rw [supervisorTypes_eq]
  -- The long texts are not to be opened.
  generalize supervisorDeclarations = declarations
  generalize supervisorMain = main
  rw [hlist, hclose, hassoc, linesOf_append, linesOf_append, linesOf_append, linesOf_append,
    linesOf_opening h, linesOf_join, linesOf_bodies, hlines, hparenthesis, hbrace]
  simp only [List.cons_append, List.nil_append, List.append_assoc]

lemma linesOf_body_isInfix {b : Bootstrap} (hb : b ∈ bs) :
    linesOf b.body <:+: linesOf (text groups bs) := by
  obtain ⟨l, r, rfl⟩ := List.append_of_mem hb
  have hbodies : String.join ((l ++ b :: r).map fun b => "\n" ++ b.body ++ "\n") =
      String.join (l.map fun b => "\n" ++ b.body ++ "\n") ++ "\n" ++ (b.body ++ "\n" ++
        String.join (r.map fun b => "\n" ++ b.body ++ "\n")) := by
    rw [List.map_append, String.join_append, List.map_cons, String.join_cons]
    simp only [String.append_assoc]
  have hassoc : ∀ opening before rest main : String,
      opening ++ (before ++ "\n" ++ (b.body ++ "\n" ++ rest)) ++ main =
        opening ++ before ++ "\n" ++ (b.body ++ "\n" ++ (rest ++ main)) := by
    intros
    simp only [String.append_assoc]
  unfold text
  generalize supervisorTypes = types
  generalize supervisorMain = main
  rw [hbodies, hassoc, linesOf_append, linesOf_append, ← List.append_assoc]
  exact List.infix_append _ _ _

end Routewright.Program
