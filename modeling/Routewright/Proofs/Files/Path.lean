import Mathlib.Data.List.Basic
import Routewright.Files.Path

namespace Routewright

open Text

lemma splitWhere_append {p : Char → Bool} {c : Char} (hc : p c = true) (s t : List Char) :
    splitWhere p (s ++ c :: t) = splitWhere p s ++ splitWhere p t := by
  induction s with
  | nil => simp [splitWhere, hc]
  | cons d r ih =>
    rw [List.cons_append, splitWhere, splitWhere, ih]
    by_cases hd : p d = true
    · simp [hd]
    · cases hr : splitWhere p r with
      | nil => exact absurd hr (splitWhere_ne_nil p r)
      | cons w ws => simp [hd]

lemma splitWhere_of_none {p : Char → Bool} {s : List Char} (h : ∀ c ∈ s, p c = false) :
    splitWhere p s = [s] := by
  induction s with
  | nil => rfl
  | cons c r ih =>
    have hc := h c List.mem_cons_self
    simp [splitWhere, hc, ih fun d hd => h d (List.mem_cons_of_mem c hd)]

namespace Path

def isPlainName (name : String) : Bool :=
  name != "" && name != "." && name != ".." && name.toList.all (· != '/')

def significant (absolute : Bool) (parts : List String) : List String :=
  let counts (part : String) := part ≠ "" ∧ part ≠ "."
  if absolute then "/" :: parts.filter (counts ·)
  else
    match parts with
    | "." :: rest => "." :: rest.filter (counts ·)
    | _ => parts.filter (counts ·)

lemma components_eq (path : String) :
    components path = significant (path.toList.head? = some '/')
      ((splitOnChar '/' path.toList).map String.ofList) := by
  by_cases h : path.toList.head? = some '/'
  · exact (if_pos h).trans (if_pos (decide_eq_true h)).symm
  · exact (if_neg h).trans (if_neg (by simp [h])).symm

lemma significant_append_empty (absolute : Bool) (parts : List String) :
    significant absolute (parts ++ [""]) = significant absolute parts := by
  cases absolute
  · cases parts with
    | nil => decide
    | cons part rest =>
      by_cases hdot : part = "."
      · simp [significant, hdot]
      · by_cases hempty : part = "" <;> simp [significant, hdot, hempty]
  · simp [significant]

lemma significant_append_plain {name : String} (hname : isPlainName name = true) (absolute : Bool)
    (parts : List String) :
    significant absolute (parts ++ [name]) = significant absolute parts ++ [name] := by
  simp only [isPlainName, Bool.and_eq_true, bne_iff_ne, ne_eq] at hname
  obtain ⟨⟨⟨hempty, hdot⟩, -⟩, -⟩ := hname
  cases absolute
  · cases parts with
    | nil => simp [significant, hempty, hdot]
    | cons part rest =>
      by_cases hpart : part = "."
      · simp [significant, hpart, hempty, hdot]
      · by_cases hnone : part = "" <;> simp [significant, hpart, hnone, hempty, hdot]
  · simp [significant, hempty, hdot]

lemma components_join {name : String} (hname : isPlainName name = true) (root : String) :
    components (join root name) = components root ++ [name] := by
  have hslash : ∀ c ∈ name.toList, (c == '/') = false := by
    simp only [isPlainName, Bool.and_eq_true, List.all_eq_true, bne_iff_ne] at hname
    exact fun c hc => beq_false_of_ne (hname.2 c hc)
  have hpieces : splitOnChar '/' name.toList = [name.toList] := splitWhere_of_none hslash
  have hhead : name.toList.head? ≠ some '/' := fun h =>
    absurd (hslash '/' (List.mem_of_head? h)) (by decide)
  have hafter : ∀ before : List Char, (splitOnChar '/' (before ++ '/' :: name.toList)).map
      String.ofList = (splitOnChar '/' before).map String.ofList ++ [name] := by
    intro before
    rw [splitOnChar, splitWhere_append (by decide), ← splitOnChar, ← splitOnChar, hpieces]
    simp
  rw [join, components_eq, components_eq]
  split_ifs with hroot hlast
  · obtain rfl : root = "" := by
      simpa [hhead] using hroot
    have hparts : (splitOnChar '/' name.toList).map String.ofList = [name] := by
      simp [hpieces]
    rw [hparts, decide_eq_false hhead]
    exact significant_append_plain hname false []
  · obtain ⟨before, hbefore⟩ := List.getLast?_eq_some_iff.mp hlast
    have hempty : (splitOnChar '/' (before ++ ['/'])).map String.ofList =
        (splitOnChar '/' before).map String.ofList ++ [""] := by
      rw [splitOnChar, splitWhere_append (by decide), ← splitOnChar]
      simp [splitWhere]
    rw [String.toList_append, hbefore, List.append_assoc, List.singleton_append, hafter, hempty,
      significant_append_empty, ← significant_append_plain hname]
    cases before <;> rfl
  · have hne : root.toList ≠ [] := by
      simpa using (not_or.mp hroot).2
    rw [String.toList_append, String.toList_append, List.append_assoc]
    have hseparator : "/".toList ++ name.toList = '/' :: name.toList := rfl
    rw [hseparator, hafter, ← significant_append_plain hname, List.head?_append_of_ne_nil _ hne]

lemma isEmpty_join {name : String} (hname : isPlainName name = true) (root : String) :
    (join root name).isEmpty = false := by
  simp only [isPlainName, Bool.and_eq_true, bne_iff_ne, ne_eq] at hname
  obtain ⟨⟨⟨hempty, -⟩, -⟩, -⟩ := hname
  rw [join]
  split_ifs <;> simp [hempty]

end Path

end Routewright
