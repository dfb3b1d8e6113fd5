import Routewright.Proofs.Go.Selectors
import Routewright.Proofs.Program.SourceLines

namespace Routewright.Program

open Go Go.Selector Text

variable {groups : ImportGroups} {bs : List Bootstrap} {found : List Selector}

def mainSelectors : List Selector :=
  [⟨"os", "Signal"⟩, ⟨"os", "Signal"⟩, ⟨"signal", "Notify"⟩, ⟨"os", "Interrupt"⟩,
    ⟨"syscall", "SIGTERM"⟩, ⟨"log", "Fatalf"⟩, ⟨"log", "Printf"⟩, ⟨"errors", "Join"⟩,
    ⟨"log", "Printf"⟩, ⟨"os", "Exit"⟩]

lemma selectors_of_eq_ofList {t : String} {l : List Char} (ht : t = .ofList l)
    (hascii : ∀ line ∈ splitOnChar '\n' l, ∀ c ∈ line, c.toNat < 128)
    (h : (splitOnChar '\n' l).flatMap onAsciiLine = found) :
    (linesOf t).flatMap onLine = found := by
  rw [linesOf_eq_ofList ht, flatMap_onLine hascii h]

lemma selectors_main : (linesOf supervisorMain).flatMap onLine = mainSelectors := by
  apply selectors_of_eq_ofList
  · unfold supervisorMain
    simp only [String.append_assoc, -String.reduceAppend]
    iterate 32 apply append_eq_ofList
    rfl
  · decide +kernel
  · decide +kernel

lemma selectors_types : (linesOf supervisorTypes).flatMap onLine = [] := by
  apply selectors_of_eq_ofList
  · unfold supervisorTypes
    simp only [String.append_assoc, -String.reduceAppend]
    iterate 6 apply append_eq_ofList
    rfl
  · decide +kernel
  · decide +kernel

lemma selectors_declarations : (linesOf supervisorDeclarations).flatMap onLine = [] := by
  have htypes := selectors_types
  rw [linesOf_types, List.flatMap_append, List.append_eq_nil_iff] at htypes
  exact htypes.2

lemma onLine_import {i : GoImport}
    (h : GoImport.lastElement i.path = i.name ∨ isIdentifier i.name.toList = true) :
    onLine ("\t" ++ importSpec i).toList = [] := by
  have htab : AreIn [] "\t".toList :=
    areIn_of_ascii (by decide)
  have hpath := (areIn_quoteChars i.path.toList).append areIn_lineEnd
  refine onLine_of_areIn ?_
  rw [String.toList_append, List.append_assoc]
  refine htab.append ?_
  rw [toList_importSpec]
  split_ifs with hlast
  · exact hpath
  · have hblank : AreIn [] [' '] :=
      areIn_of_ascii (by decide)
    rw [List.append_assoc, List.append_assoc]
    exact .word (h.resolve_left hlast) ⟨' ', _, rfl, isNameChar_of_ascii (by decide), by decide⟩
      (hblank.append hpath)

lemma selectors_openingLines (h : ∀ i ∈ groups.standard ++ groups.project,
    GoImport.lastElement i.path = i.name ∨ isIdentifier i.name.toList = true) :
    (openingLines groups).flatMap onLine = [] := by
  have hbefore : (["// Code generated by matte. DO NOT EDIT.".toList, [],
      "package main".toList, []] ++ ["import (".toList]).flatMap onLine = [] :=
    flatMap_onLine (by decide +kernel) (by decide +kernel)
  have himports : ((importLines groups).map String.toList).flatMap onLine = [] := by
    refine List.flatMap_eq_nil_iff.mpr (List.forall_mem_map.mpr fun line hline => ?_)
    rcases mem_importLines hline with rfl | ⟨i, hi, rfl⟩
    · rfl
    · exact onLine_import (h i hi)
  have hopening : openingLines groups = ["// Code generated by matte. DO NOT EDIT.".toList, [],
      "package main".toList, []] ++ ["import (".toList] ++
        (importLines groups).map String.toList := by
    simp [openingLines]
  rw [hopening, List.flatMap_append, hbefore, himports, List.append_nil]

lemma selectors_text (h : ∀ i ∈ groups.standard ++ groups.project,
      GoImport.lastElement i.path = i.name ∨ isIdentifier i.name.toList = true)
    (hnames : ∀ b ∈ bs, IsLine b.functionName ∧
      onLine ("\t" ++ b.functionName ++ ",").toList = []) :
    Selector.all (text groups bs) =
      bs.flatMap (fun b => (linesOf b.body).flatMap onLine) ++ mainSelectors := by
  have hread : ∀ i ∈ groups.standard ++ groups.project, IsReadable i := fun i hi =>
    (h i hi).imp_right isIdentifier_of_go
  have hclose : onLine ")".toList = [] :=
    onLine_of_areIn (areIn_of_ascii (by decide))
  have hbrace : onLine "\x7d".toList = [] :=
    onLine_of_areIn (areIn_of_ascii (by decide))
  rw [Selector.all, linesOf_text hread fun b hb => (hnames b hb).1, List.flatMap_append,
    selectors_openingLines h, List.flatMap_cons, hclose,
    flatMap_closingLines rfl hbrace fun b hb => (hnames b hb).2, selectors_declarations,
    selectors_main]
  rfl

end Routewright.Program
