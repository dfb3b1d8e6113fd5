import Routewright.Proofs.Go.Quoting
import Routewright.Proofs.Text.Pieces
import Routewright.Server.Statement

namespace Routewright.Go

open Text

def IsLine (s : String) : Prop :=
  '\n' ∉ s.toList

instance (s : String) : Decidable (IsLine s) :=
  inferInstanceAs (Decidable (_ ∉ _))

@[simp]
lemma isLine_append {s t : String} : IsLine (s ++ t) ↔ IsLine s ∧ IsLine t := by
  simp [IsLine]

lemma isLine_quote (s : String) : IsLine (quote s) := by
  rw [IsLine, quote, String.toList_ofList]
  exact newline_not_mem_quoteChars s.toList

lemma isLine_intercalate {sep : String} {items : List String} (hsep : IsLine sep)
    (h : ∀ item ∈ items, IsLine item) : IsLine (sep.intercalate items) := by
  rw [IsLine, String.toList_intercalate]
  intro hmem
  rcases mem_intercalate hmem with hmem | ⟨x, hx, hmem⟩
  · exact hsep hmem
  · obtain ⟨item, hitem, rfl⟩ := List.mem_map.mp hx
    exact h item hitem hmem

lemma isLine_indent {depth : ℕ} {s : String} (h : IsLine s) : IsLine (indent depth s) := by
  simpa [IsLine, indent] using h

mutual

def Statement.IsPlain : Statement → Prop
  | .declare name value => IsLine name ∧ IsLine value.source
  | .assign name value => IsLine name ∧ IsLine value.source
  | .append name value => IsLine name ∧ IsLine value.source
  | .allocate name type => IsLine name ∧ IsLine type
  | .store pointer value => IsLine pointer ∧ IsLine value.source
  | .whenEmpty name body => IsLine name ∧ ArePlain body
  | .whenPresent name body => IsLine name ∧ ArePlain body
  | .decode raw pointer onFailure => IsLine raw ∧ IsLine pointer ∧ ArePlain onFailure
  | .refuse name => IsLine name
  | .leave => True
  | .call function args => IsLine function ∧ ∀ a ∈ args, IsLine a.source

def ArePlain : List Statement → Prop
  | [] => True
  | s :: rest => s.IsPlain ∧ ArePlain rest

end

def IsIndented (depth : ℕ) (line : String) : Prop :=
  IsLine line ∧ List.replicate depth '\t' <+: line.toList

variable {depth : ℕ}

lemma isIndented_indent {s : String} (h : IsLine s) : IsIndented depth (indent depth s) :=
  ⟨isLine_indent h, s.toList, by simp [indent]⟩

lemma isIndented_line {s : String} (h : IsLine s) :
    ∀ line ∈ [indent depth s], IsIndented depth line := by
  intro line hline
  rw [List.mem_singleton.mp hline]
  exact isIndented_indent h

lemma IsIndented.of_succ {line : String} (h : IsIndented (depth + 1) line) :
    IsIndented depth line := by
  refine ⟨h.1, List.IsPrefix.trans ?_ h.2⟩
  rw [List.replicate_succ']
  exact List.prefix_append _ _

-- A block is its opening, its statements one step deeper, and its closing.
lemma isIndented_block {opening : String} {lines : List String} (hopening : IsLine opening)
    (h : ∀ line ∈ lines, IsIndented (depth + 1) line) :
    ∀ line ∈ indent depth opening :: (lines ++ [indent depth "\x7d"]),
      IsIndented depth line := by
  intro line hline
  rcases List.mem_cons.mp hline with rfl | hline
  · exact isIndented_indent hopening
  · rcases List.mem_append.mp hline with hline | hline
    · exact (h line hline).of_succ
    · exact isIndented_line (by decide) line hline

mutual

lemma Statement.isIndented_lines (s : Statement) (depth : ℕ) (h : s.IsPlain) :
    ∀ line ∈ s.lines depth, IsIndented depth line := by
  cases s with
  | declare name value =>
    obtain ⟨hname, hvalue⟩ : IsLine name ∧ IsLine value.source := h
    exact isIndented_line (by simpa [hname, hvalue] using by decide)
  | assign name value =>
    obtain ⟨hname, hvalue⟩ : IsLine name ∧ IsLine value.source := h
    exact isIndented_line (by simpa [hname, hvalue] using by decide)
  | append name value =>
    obtain ⟨hname, hvalue⟩ : IsLine name ∧ IsLine value.source := h
    exact isIndented_line (by simpa [hname, hvalue] using by decide)
  | allocate name type =>
    obtain ⟨hname, htype⟩ : IsLine name ∧ IsLine type := h
    exact isIndented_line (by simpa [hname, htype] using by decide)
  | store pointer value =>
    obtain ⟨hpointer, hvalue⟩ : IsLine pointer ∧ IsLine value.source := h
    exact isIndented_line (by simpa [hpointer, hvalue] using by decide)
  | whenEmpty name body =>
    obtain ⟨hname, hbody⟩ : IsLine name ∧ ArePlain body := h
    exact isIndented_block (by simpa [hname] using by decide)
      (isIndented_statementLines body (depth + 1) hbody)
  | whenPresent name body =>
    obtain ⟨hname, hbody⟩ : IsLine name ∧ ArePlain body := h
    exact isIndented_block (by simpa [hname] using by decide)
      (isIndented_statementLines body (depth + 1) hbody)
  | decode raw pointer onFailure =>
    obtain ⟨hraw, hpointer, hbody⟩ : IsLine raw ∧ IsLine pointer ∧ ArePlain onFailure := h
    exact isIndented_block (by simpa [hraw, hpointer] using by decide)
      (isIndented_statementLines onFailure (depth + 1) hbody)
  | refuse name =>
    have hname : IsLine name := h
    exact isIndented_line (by simpa [hname] using by decide)
  | leave => exact isIndented_line (by decide)
  | call function args =>
    obtain ⟨hfunction, hargs⟩ : IsLine function ∧ ∀ a ∈ args, IsLine a.source := h
    have hlist : IsLine (", ".intercalate (args.map Argument.source)) :=
      isLine_intercalate (by decide) (List.forall_mem_map.mpr hargs)
    exact isIndented_line (by simpa [hfunction, hlist] using by decide)

lemma isIndented_statementLines (l : List Statement) (depth : ℕ) (h : ArePlain l) :
    ∀ line ∈ statementLines depth l, IsIndented depth line := by
  cases l with
  | nil => simp [statementLines]
  | cons s rest =>
    obtain ⟨hs, hrest⟩ : s.IsPlain ∧ ArePlain rest := h
    rw [statementLines, List.forall_mem_append]
    exact ⟨s.isIndented_lines depth hs, isIndented_statementLines rest depth hrest⟩

end

lemma statementLines_append (depth : ℕ) (l m : List Statement) :
    statementLines depth (l ++ m) = statementLines depth l ++ statementLines depth m := by
  induction l with
  | nil => rfl
  | cons s l ih => rw [List.cons_append, statementLines, statementLines, ih, List.append_assoc]

lemma arePlain_append {l m : List Statement} : ArePlain (l ++ m) ↔ ArePlain l ∧ ArePlain m := by
  induction l with
  | nil => simp [ArePlain]
  | cons s l ih => simp [ArePlain, ih, and_assoc]

end Routewright.Go
