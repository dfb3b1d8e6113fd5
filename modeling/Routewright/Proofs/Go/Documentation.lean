import Mathlib.Data.List.Chain
import Mathlib.Data.List.Induction
import Mathlib.Tactic.Lemma
import Routewright.Go.FileParser
import Routewright.Proofs.Text.Pieces

namespace Routewright.Go

open Text

namespace DocComment

variable {t u : TopLevel} {group before rest : List TopLevel} {row : ℕ}

/-- Whether things in source order are comments above a row: each is the first thing on its line and
ends on the row just above the next one, and the last one just above the row. -/
structure IsGroup (row : ℕ) (group : List TopLevel) : Prop where
  isComment : ∀ t ∈ group, t.isComment = true
  startsLine : ∀ t ∈ group, t.startsLine = true
  chain : group.IsChain fun t u => t.lastRow + 1 = u.firstRow
  last : ∀ t, group.getLast? = some t → t.lastRow + 1 = row

lemma documents_iff : documents t row = true ↔
    t.isComment = true ∧ t.startsLine = true ∧ t.lastRow + 1 = row := by
  rw [documents, Bool.and_eq_true, Bool.and_eq_true, beq_iff_eq, and_assoc]

lemma isGroup_nil : IsGroup row [] :=
  ⟨by simp, by simp, .nil, by simp⟩

lemma isGroup_concat : IsGroup row (group ++ [t]) ↔
    documents t row = true ∧ IsGroup t.firstRow group := by
  rw [documents_iff]
  constructor
  · rintro ⟨hcomment, hline, hchain, hlast⟩
    obtain ⟨hchain, -, hnext⟩ := List.isChain_append.mp hchain
    refine ⟨⟨hcomment t (by simp), hline t (by simp), hlast t List.getLast?_concat⟩,
      fun u hu => hcomment u (by simp [hu]), fun u hu => hline u (by simp [hu]), hchain, ?_⟩
    exact fun u hu => hnext u hu t rfl
  · rintro ⟨⟨hcomment, hline, hrow⟩, hgroup⟩
    refine ⟨List.forall_mem_append.mpr ⟨hgroup.isComment, by simpa using hcomment⟩,
      List.forall_mem_append.mpr ⟨hgroup.startsLine, by simpa using hline⟩,
      List.isChain_append.mpr ⟨hgroup.chain, .singleton t, ?_⟩, ?_⟩
    · rintro u hu v ⟨⟩
      exact hgroup.last u hu
    · rw [List.getLast?_concat]
      rintro u ⟨⟩
      exact hrow

/-- The row that a group begins on; nothing begins where it ends. -/
def startOf (row : ℕ) (group : List TopLevel) : ℕ :=
  (group.head?.map TopLevel.firstRow).getD row

lemma startOf_concat : startOf row (group ++ [t]) = startOf t.firstRow group := by
  cases group <;> rfl

lemma run_append (h : IsGroup row group) (ls : List TopLevel) :
    run row (group.reverse ++ ls) = group.reverse ++ run (startOf row group) ls := by
  induction group using List.reverseRecOn generalizing row with
  | nil => rfl
  | append_singleton group t ih =>
    obtain ⟨hdocuments, hgroup⟩ := isGroup_concat.mp h
    rw [List.reverse_concat, List.cons_append, run, if_pos hdocuments, ih hgroup, startOf_concat,
      List.cons_append]

lemma run_of_not_documents (h : documents t row = false) (ls : List TopLevel) :
    run row (t :: ls) = [] := by
  rw [run, h]
  rfl

lemma exists_run (row : ℕ) (ls : List TopLevel) :
    ∃ rest, ls = run row ls ++ rest ∧ IsGroup row (run row ls).reverse := by
  induction ls generalizing row with
  | nil => exact ⟨[], rfl, isGroup_nil⟩
  | cons t ls ih =>
    rw [run]
    split_ifs with hdocuments
    · obtain ⟨rest, hls, hgroup⟩ := ih t.firstRow
      refine ⟨rest, by rw [List.cons_append, ← hls], ?_⟩
      rw [List.reverse_cons]
      exact isGroup_concat.mpr ⟨hdocuments, hgroup⟩
    · exact ⟨t :: ls, rfl, isGroup_nil⟩

lemma reverse_prefix_run (h : IsGroup row group) {ls : List TopLevel} (hls : group.reverse <+: ls) :
    group.reverse <+: run row ls := by
  obtain ⟨rest, rfl⟩ := hls
  rw [run_append h]
  exact List.prefix_append _ _

def linesOf? (group : List TopLevel) : Option (List String) :=
  if group = [] then none else some (group.flatMap fun t => lines t.text)

lemma ofPreceding_eq (before : List TopLevel) (row : ℕ) :
    ofPreceding before row = linesOf? (run row before.reverse).reverse := by
  rw [ofPreceding, linesOf?]
  cases run row before.reverse with
  | nil => rfl
  | cons t rest =>
    rw [if_neg (by simp)]

section Comments

lemma lines_line (rest : String) : lines ("//" ++ rest) = [rest] := by
  have hdrop : dropStart? "//".toList ("//" ++ rest).toList = some rest.toList := by
    rw [String.toList_append]
    exact dropStart?_append _ _
  rw [lines, hdrop]
  simp

lemma lines_block (body : String) :
    lines ("/*" ++ body ++ "*/") = (Text.lines body.toList).map String.ofList := by
  have htext : ("/*" ++ body ++ "*/").toList = "/*".toList ++ (body.toList ++ "*/".toList) := by
    rw [String.toList_append, String.toList_append, List.append_assoc]
  have hline : dropStart? "//".toList ("/*" ++ body ++ "*/").toList = none := by
    rw [htext]
    rfl
  have hopen : dropStart? "/*".toList ("/*" ++ body ++ "*/").toList =
      some (body.toList ++ "*/".toList) := by
    rw [htext]
    exact dropStart?_append _ _
  have hclose : dropEnd? "*/".toList (body.toList ++ "*/".toList) = some body.toList :=
    dropEnd?_eq_some_iff.mpr rfl
  simp only [lines, hline, hopen, Option.bind_some, hclose, Option.getD_some]

end Comments

end DocComment

namespace FileParser

section Results

variable {α β : Type} {P : α → Prop} {Q : β → Prop}

def Yields (x : Parser α) (P : α → Prop) : Prop :=
  ∀ c a c', x.run c = some (a, c') → P a

lemma Yields.pure {a : α} (h : P a) : Yields (pure a) P := by
  rintro c b c' ⟨⟩
  exact h

lemma Yields.bind_of {x : Parser α} {f : α → Parser β} (hx : Yields x P)
    (h : ∀ a, P a → Yields (f a) Q) : Yields (x >>= f) Q := by
  intro c b c' hrun
  rw [StateT.run_bind] at hrun
  obtain ⟨⟨a, c''⟩, ha, hb⟩ := Option.bind_eq_some_iff.mp hrun
  exact h a (hx c a c'' ha) c'' b c' hb

lemma Yields.bind {x : Parser α} {f : α → Parser β} (h : ∀ a, Yields (f a) Q) :
    Yields (x >>= f) Q :=
  .bind_of (P := fun _ => True) (fun _ _ _ _ => trivial) fun a _ => h a

lemma yields_failure : Yields (failure : Parser α) P := by
  rintro c a c' ⟨⟩

lemma Yields.ite {c : Prop} [Decidable c] {x y : Parser α} (hx : Yields x P) (hy : Yields y P) :
    Yields (if c then x else y) P := by
  split_ifs
  · exact hx
  · exact hy

lemma yields_function (g : Grammar) (row : ℕ) (doc : Option (List String)) :
    Yields (function g row doc) fun f => f.doc = doc ∧ f.line = row + 1 := by
  rw [function]
  dsimp only
  -- Every path through the parts of a function ends with the same value.
  repeat' first
    | exact .pure ⟨rfl, rfl⟩
    | refine .ite ?_ ?_
    | refine .bind fun _ => ?_

lemma yields_item (g : Grammar) (t : Token) (before : List TopLevel) :
    Yields (item g t before) fun i => ∀ f, i = .function f →
      f.doc = DocComment.ofPreceding before t.row ∧ f.line = t.row + 1 := by
  rw [item]
  refine .ite (.bind_of (P := fun _ => False) yields_failure fun _ h => h.elim) ?_
  dsimp only
  split
  · exact .bind fun _ => .bind fun _ => .pure nofun
  · exact .bind fun _ => .bind fun _ => .pure nofun
  · refine (yields_function g t.row _).bind_of fun f hf => .pure ?_
    rintro _ ⟨⟩
    exact hf
  · exact .bind fun _ => .pure nofun

end Results

end FileParser

namespace DocComment

/-- A declaration is documented by the longest run of comments directly above it, line by line; whatever
else stands between cuts the run. A function that is parsed has the documentation of its row. -/
theorem ofPreceding_attaches (before : List TopLevel) (row : ℕ) :
    (∃ rest group, before = rest ++ group ∧ IsGroup row group ∧
      (∀ other longer, before = other ++ longer → IsGroup row longer → longer <:+ group) ∧
      (ofPreceding before row = none ↔ group = []) ∧
      (group ≠ [] → ofPreceding before row = some (group.flatMap fun t => lines t.text))) ∧
    (∀ rest t group, before = rest ++ t :: group → IsGroup row group →
      (t.isComment = false ∨ t.startsLine = false ∨ t.lastRow + 1 ≠ startOf row group) →
      ofPreceding before row = linesOf? group) ∧
    (∀ rest, lines ("//" ++ rest) = [rest]) ∧
    (∀ body, lines ("/*" ++ body ++ "*/") = (Text.lines body.toList).map String.ofList) ∧
    ∀ (g : Grammar) (t : Token) (c c' : Cursor) (f : FuncDecl), t.row = row →
      (FileParser.item g t before).run c = some (.function f, c') →
      f.doc = ofPreceding before row := by
  refine ⟨?_, ?_, lines_line, lines_block, ?_⟩
  · obtain ⟨rest, hbefore, hgroup⟩ := exists_run row before.reverse
    refine ⟨rest.reverse, (run row before.reverse).reverse, ?_, hgroup, ?_, ?_, ?_⟩
    · rw [← List.reverse_append, ← hbefore, List.reverse_reverse]
    · rintro other longer rfl hlonger
      have hprefix := reverse_prefix_run hlonger
        (List.reverse_append ▸ List.prefix_append longer.reverse other.reverse)
      exact List.reverse_prefix.mp (by rwa [List.reverse_reverse])
    · rw [ofPreceding_eq, linesOf?]
      split_ifs with hnil <;> simp [hnil]
    · intro hne
      rw [ofPreceding_eq, linesOf?, if_neg hne]
  · rintro rest t group rfl hgroup hcut
    have hstop : documents t (startOf row group) = false := by
      rw [← Bool.not_eq_true, documents_iff]
      rintro ⟨hcomment, hline, hrow⟩
      rcases hcut with h | h | h
      · rw [hcomment] at h
        cases h
      · rw [hline] at h
        cases h
      · exact h hrow
    have hreverse : (rest ++ t :: group).reverse = group.reverse ++ t :: rest.reverse := by
      simp
    rw [ofPreceding_eq, hreverse, run_append hgroup, run_of_not_documents hstop, List.append_nil,
      List.reverse_reverse]
  · rintro g t c c' f rfl hrun
    exact (FileParser.yields_item g t before c _ c' hrun f rfl).1

def aboveSix : List TopLevel := [
  ⟨true, "// far", 0, 0, true⟩,
  ⟨false, "", 2, 2, true⟩,
  ⟨true, "// behind", 2, 2, false⟩,
  ⟨true, "// first", 3, 3, true⟩,
  ⟨true, "/* second\nthird */", 4, 5, true⟩]

def rowSix : List Token := [
  ⟨.keyword, "func", 0, 4, 6, []⟩,
  ⟨.name, "F", 5, 6, 6, []⟩,
  ⟨.operator, "(", 6, 7, 6, []⟩,
  ⟨.operator, ")", 7, 8, 6, []⟩]

theorem ofPreceding_attaches_aboveSix :
    ofPreceding aboveSix 6 = some [" first", " second", "third "] ∧
      ∃ c f, (FileParser.item .empty ⟨.keyword, "func", 0, 4, 6, []⟩ aboveSix).run ⟨#[], rowSix, 0⟩ =
        some (.function f, c) ∧ f.doc = some [" first", " second", "third "] := by
  obtain ⟨-, hcut, -, -, hitem⟩ := ofPreceding_attaches aboveSix 6
  have hgroup : IsGroup 6 (aboveSix.drop 3) :=
    ⟨by decide, by decide, by decide, by decide⟩
  have hdoc : ofPreceding aboveSix 6 = some [" first", " second", "third "] :=
    (hcut (aboveSix.take 2) _ _ rfl hgroup (.inr (.inl rfl))).trans (by decide +kernel)
  obtain ⟨c, f, hrun⟩ : ∃ c f, (FileParser.item .empty ⟨.keyword, "func", 0, 4, 6, []⟩ aboveSix).run
      ⟨#[], rowSix, 0⟩ = some (.function f, c) := ⟨_, _, rfl⟩
  exact ⟨hdoc, c, f, hrun, (hitem _ _ _ _ _ rfl hrun).trans hdoc⟩

end DocComment

end Routewright.Go
