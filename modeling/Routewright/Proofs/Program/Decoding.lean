import Routewright.Proofs.Program.SourceLines
import Routewright.Proofs.Server.Decoding

namespace Routewright.Program

open Go Text

variable {groups : ImportGroups} {bs : List Bootstrap}

lemma any_opensDecoding_of_eq_ofList {t : String} {l : List Char} (ht : t = .ofList l)
    (h : (splitOnChar '\n' l).any opensDecoding = false) :
    (linesOf t).any opensDecoding = false := by
  rwa [linesOf_eq_ofList ht]

lemma any_opensDecoding_main : (linesOf supervisorMain).any opensDecoding = false := by
  apply any_opensDecoding_of_eq_ofList
  · unfold supervisorMain
    simp only [String.append_assoc, -String.reduceAppend]
    iterate 32 apply append_eq_ofList
    rfl
  · decide +kernel

lemma any_opensDecoding_types : (linesOf supervisorTypes).any opensDecoding = false := by
  apply any_opensDecoding_of_eq_ofList
  · unfold supervisorTypes
    simp only [String.append_assoc, -String.reduceAppend]
    iterate 6 apply append_eq_ofList
    rfl
  · decide +kernel

lemma any_opensDecoding_declarations :
    (linesOf supervisorDeclarations).any opensDecoding = false := by
  have htypes := any_opensDecoding_types
  rw [linesOf_types, List.any_append, Bool.or_eq_false_iff] at htypes
  exact htypes.2

lemma opensDecoding_import {i : GoImport}
    (h : GoImport.lastElement i.path = i.name ∨ IsName i.name) :
    opensDecoding ("\t" ++ importSpec i).toList = false := by
  have hindent : "\t" ++ importSpec i = indent 1 (importSpec i) := rfl
  rw [hindent, opensDecoding_indent, toList_importSpec]
  split_ifs with hlast
  · exact opensDecoding_of_head (by decide) (by decide)
  · rw [List.append_assoc]
    exact opensDecoding_name (h.resolve_left hlast) (endsName_cons (by decide) _)

lemma any_opensDecoding_openingLines (h : ∀ i ∈ groups.standard ++ groups.project,
    GoImport.lastElement i.path = i.name ∨ IsName i.name) :
    (openingLines groups).any opensDecoding = false := by
  have hbefore : ["// Code generated by matte. DO NOT EDIT.".toList, [],
      "package main".toList, []].any opensDecoding = false := by
    decide +kernel
  have himport : opensDecoding "import (".toList = false := by
    decide
  have himports : ((importLines groups).map String.toList).any opensDecoding = false := by
    simp only [List.any_eq_false, Bool.not_eq_true]
    refine List.forall_mem_map.mpr fun line hline => ?_
    rcases mem_importLines hline with rfl | ⟨i, hi, rfl⟩
    · rfl
    · exact opensDecoding_import (h i hi)
  rw [openingLines, List.any_append, hbefore, List.any_cons, himport, himports]
  rfl

lemma any_opensDecoding_text (h : ∀ i ∈ groups.standard ++ groups.project,
      GoImport.lastElement i.path = i.name ∨ IsName i.name)
    (hnames : ∀ b ∈ bs, IsLine b.functionName ∧
      opensDecoding ("\t" ++ b.functionName ++ ",").toList = false) :
    (linesOf (text groups bs)).any opensDecoding =
      bs.any fun b => (linesOf b.body).any opensDecoding := by
  have hread : ∀ i ∈ groups.standard ++ groups.project, IsReadable i := fun i hi =>
    (h i hi).imp_right fun hname => isIdentifier_of_go hname.1
  have hclose : opensDecoding ")".toList = false := by
    decide
  have hbrace : opensDecoding "\x7d".toList = false := by
    decide
  have hempty : opensDecoding [] = false := rfl
  have hentries :
      (bs.map fun b => ("\t" ++ b.functionName ++ ",").toList).any opensDecoding = false := by
    simp only [List.any_eq_false, Bool.not_eq_true]
    exact List.forall_mem_map.mpr fun b hb => (hnames b hb).2
  have hbodies : (bs.flatMap fun b => [] :: linesOf b.body).any opensDecoding =
      bs.any fun b => (linesOf b.body).any opensDecoding := by
    simp only [List.any_flatMap, List.any_cons, hempty, Bool.false_or]
  rw [linesOf_text hread fun b hb => (hnames b hb).1, List.any_append,
    any_opensDecoding_openingLines h, List.any_cons, hclose, closingLines, List.any_append,
    List.any_append, any_opensDecoding_declarations, hentries, List.any_cons, hbrace,
    List.any_append, hbodies, any_opensDecoding_main]
  simp only [Bool.false_or, Bool.or_false]

end Routewright.Program
