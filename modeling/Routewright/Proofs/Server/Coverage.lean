import Mathlib.Data.Set.BooleanAlgebra
import Mathlib.Order.CompletePartialOrder
import Routewright.Proofs.Server.Consistency
import Routewright.Proofs.Server.Grammar
import Routewright.Proofs.Text.Pieces

/-! The requests that a path stands for. Bound paths that stand for the same requests differ only in
how they write the remainder of a request; paths whose requests overlap without one being part of
the other can be bound side by side. -/

namespace Routewright

open Text

namespace Mux

inductive Part
  | exact (text : List Char)
  | one
  | rest
deriving DecidableEq

/-- Behind the last slash of a path, nothing stands for all that is left. -/
def part (last : Bool) : Segment → Part
  | .literal text => if last ∧ text = "" then .rest else .exact text.toList
  | .wildcard _ => .one
  | .remainder _ => .rest
  | .endMark => .exact []

def parts : List Segment → List Part
  | [] => []
  | seg :: segs => part segs.isEmpty seg :: parts segs

def covers : List Part → List (List Char) → Bool
  | [], [] => true
  | .exact t :: ps, r :: rs => r == t && covers ps rs
  | .one :: ps, r :: rs => !r.isEmpty && covers ps rs
  | .rest :: _, _ :: _ => true
  | _, _ => false

def requests (path : String) : Set String :=
  {request | ∃ segs, Pattern.segments path = .ok segs ∧
    covers (parts segs) (splitOnChar '/' request.toList) = true}

lemma requests_eq {path : String} {segs : List Segment} (h : Pattern.segments path = .ok segs) :
    requests path = {request | covers (parts segs) (splitOnChar '/' request.toList) = true} := by
  ext request
  constructor
  · rintro ⟨others, ho, hc⟩
    obtain rfl := Except.ok.inj (h.symm.trans ho)
    exact hc
  · exact fun hc => ⟨segs, h, hc⟩

section Parts

variable {ps qs : List Part} {p q : Part}

structure Regular (ps : List Part) : Prop where
  exact : ∀ t, .exact t ∈ ps → '/' ∉ t
  rest : ∀ p ∈ ps.dropLast, p ≠ .rest

lemma Regular.tail (h : Regular (p :: ps)) : Regular ps where
  exact t ht := h.exact t (List.mem_cons_of_mem p ht)
  rest q hq := by
    cases ps with
    | nil => cases hq
    | cons next ps => exact h.rest q (List.mem_cons_of_mem p hq)

lemma Regular.eq_nil (h : Regular (.rest :: ps)) : ps = [] := by
  cases ps with
  | nil => rfl
  | cons next ps => exact (h.rest .rest List.mem_cons_self rfl).elim

lemma exists_covers (h : Regular ps) :
    ∃ rs, (∀ r ∈ rs, '/' ∉ r) ∧ covers ps rs = true := by
  induction ps with
  | nil => exact ⟨[], by simp, rfl⟩
  | cons p ps ih =>
    obtain ⟨rs, hrs, hc⟩ := ih h.tail
    cases p with
    | exact t =>
      refine ⟨t :: rs, List.forall_mem_cons.mpr ⟨h.exact t List.mem_cons_self, hrs⟩, ?_⟩
      rw [covers, hc, beq_self_eq_true, Bool.and_true]
    | one => exact ⟨['x'] :: rs, List.forall_mem_cons.mpr ⟨by decide, hrs⟩, hc⟩
    | rest => exact ⟨[[]], by simp, rfl⟩

lemma exists_other (t : List Char) : ∃ r, r ≠ t ∧ r.isEmpty = false ∧ '/' ∉ r := by
  by_cases ht : t = ['x']
  · exact ⟨['y'], by simp [ht], rfl, by decide⟩
  · exact ⟨['x'], Ne.symm ht, rfl, by decide⟩

def Agree (ps qs : List Part) : Prop :=
  ∀ rs, (∀ r ∈ rs, '/' ∉ r) → (covers ps rs = true ↔ covers qs rs = true)

lemma Agree.symm (h : Agree ps qs) : Agree qs ps :=
  fun rs hrs => (h rs hrs).symm

lemma Agree.covers (h : Agree ps qs) (rs : List (List Char)) (hrs : ∀ r ∈ rs, '/' ∉ r)
    (hc : Mux.covers ps rs = true) : Mux.covers qs rs = true :=
  (h rs hrs).mp hc

lemma not_agree_exact_one {t : List Char} (hqs : Regular (.one :: qs)) :
    ¬Agree (.exact t :: ps) (.one :: qs) := by
  intro h
  obtain ⟨r, hne, hr, hfree⟩ := exists_other t
  obtain ⟨rs, hrs, hc⟩ := exists_covers hqs.tail
  have hboth := h.symm.covers (r :: rs) (List.forall_mem_cons.mpr ⟨hfree, hrs⟩)
    (by rw [Mux.covers, hr, hc]; rfl)
  rw [Mux.covers, Bool.and_eq_true, beq_iff_eq] at hboth
  exact hne hboth.1

lemma not_agree_exact_rest {t : List Char} : ¬Agree (.exact t :: ps) (.rest :: qs) := by
  intro h
  obtain ⟨r, hne, -, hfree⟩ := exists_other t
  have hboth := h.symm.covers [r] (by simpa using hfree) rfl
  rw [Mux.covers, Bool.and_eq_true, beq_iff_eq] at hboth
  exact hne hboth.1

lemma not_agree_one_rest : ¬Agree (.one :: ps) (.rest :: qs) := by
  intro h
  have hboth := h.symm.covers [[]] (by simp) rfl
  cases hboth

lemma Agree.exact_eq {t u : List Char} (h : Agree (.exact t :: ps) (.exact u :: qs))
    (hps : Regular (.exact t :: ps)) : t = u := by
  obtain ⟨rs, hrs, hc⟩ := exists_covers hps.tail
  have hfree := hps.exact t List.mem_cons_self
  have hboth := h.covers (t :: rs) (List.forall_mem_cons.mpr ⟨hfree, hrs⟩)
    (by rw [Mux.covers, hc, beq_self_eq_true]; rfl)
  rw [Mux.covers, Bool.and_eq_true, beq_iff_eq] at hboth
  exact hboth.1

lemma Agree.exact_tail {t : List Char} (h : Agree (.exact t :: ps) (.exact t :: qs))
    (hfree : '/' ∉ t) : Agree ps qs := by
  intro rs hrs
  have hboth := h (t :: rs) (List.forall_mem_cons.mpr ⟨hfree, hrs⟩)
  simpa [Mux.covers] using hboth

lemma Agree.one_tail (h : Agree (.one :: ps) (.one :: qs)) : Agree ps qs := by
  intro rs hrs
  have hboth := h (['x'] :: rs) (List.forall_mem_cons.mpr ⟨by decide, hrs⟩)
  simpa [Mux.covers] using hboth

lemma Agree.nil_eq (h : Agree [] ps) : ps = [] := by
  cases ps with
  | nil => rfl
  | cons p ps =>
    have hboth := h.covers [] (by simp) rfl
    cases p <;> cases hboth

lemma Agree.eq (hps : Regular ps) (hqs : Regular qs) (h : Agree ps qs) : ps = qs := by
  induction ps generalizing qs with
  | nil => exact h.nil_eq.symm
  | cons p ps ih =>
    cases qs with
    | nil => exact h.symm.nil_eq
    | cons q qs =>
      cases p with
      | exact t =>
        cases q with
        | exact u =>
          obtain rfl := h.exact_eq hps
          rw [ih hps.tail hqs.tail (h.exact_tail (hps.exact t List.mem_cons_self))]
        | one => exact (not_agree_exact_one hqs h).elim
        | rest => exact (not_agree_exact_rest h).elim
      | one =>
        cases q with
        | exact u => exact (not_agree_exact_one hps h.symm).elim
        | one => rw [ih hps.tail hqs.tail h.one_tail]
        | rest => exact (not_agree_one_rest h).elim
      | rest =>
        cases q with
        | exact u => exact (not_agree_exact_rest h.symm).elim
        | one => exact (not_agree_one_rest h.symm).elim
        | rest => rw [hps.eq_nil, hqs.eq_nil]

end Parts

section Segments

variable {segs others : List Segment} {seg other : Segment} {names : List String}

lemma text_of_part_exact {last : Bool} {t : List Char} (h : part last seg = .exact t) :
    t = [] ∨ seg.text = t := by
  cases seg with
  | literal text =>
    rw [part] at h
    split at h
    · cases h
    · exact .inr (Part.exact.inj h)
  | wildcard name => cases h
  | remainder name => cases h
  | endMark => exact .inl (Part.exact.inj h).symm

lemma part_ne_rest (hs : seg.isFinal = false) : part false seg ≠ .rest := by
  cases seg with
  | literal text => simp [part]
  | wildcard name => simp [part]
  | remainder name => cases hs
  | endMark => cases hs

lemma regular_parts (hl : ∀ seg ∈ segs.dropLast, seg.isFinal = false)
    (hfree : ∀ seg ∈ segs, '/' ∉ seg.text) : Regular (parts segs) := by
  induction segs with
  | nil => exact ⟨by simp [parts], by simp [parts]⟩
  | cons seg segs ih =>
    obtain ⟨hseg, hsegs⟩ := List.forall_mem_cons.mp hfree
    obtain ⟨hfinal, hl⟩ := Pattern.final_cons_iff.mp hl
    have hrest := ih hl hsegs
    refine ⟨fun t ht => ?_, fun p hp => ?_⟩
    · rcases List.mem_cons.mp ht with ht | ht
      · rcases text_of_part_exact ht.symm with rfl | rfl
        · exact List.not_mem_nil
        · exact hseg
      · exact hrest.exact t ht
    · cases segs with
      | nil => cases hp
      | cons next segs =>
        rcases List.mem_cons.mp hp with rfl | hp
        · refine part_ne_rest (Bool.eq_false_iff.mpr fun hf => ?_)
          cases hfinal hf
        · exact hrest.rest p hp

lemma erase_eq_of_part (hs : seg.isFinal = false) (ho : other.isFinal = false)
    (h : part false seg = part false other) : seg.erase = other.erase := by
  cases seg with
  | literal text =>
    cases other with
    | literal text' =>
      have htext : text = text' := by simpa [part, String.toList_inj] using h
      rw [htext]
    | wildcard name => simp [part] at h
    | remainder name => cases ho
    | endMark => cases ho
  | wildcard name =>
    cases other with
    | literal text => simp [part] at h
    | wildcard name' => rfl
    | remainder name' => cases ho
    | endMark => cases ho
  | remainder name => cases hs
  | endMark => cases hs

lemma part_true_literal (text : String) :
    (text = "" ∧ part true (.literal text) = .rest) ∨
      (text ≠ "" ∧ part true (.literal text) = .exact text.toList) := by
  by_cases ht : text = ""
  · exact .inl ⟨ht, by simp [part, ht]⟩
  · exact .inr ⟨ht, by simp [part, ht]⟩

/-- Lists that differ only in how they write what is left of a request: by a slash at the end or by
a name. -/
def Twins (segs others : List Segment) : Prop :=
  ∃ front front' name, segs = front ++ [.literal ""] ∧ others = front' ++ [.remainder name] ∧
    front.map Segment.erase = front'.map Segment.erase

lemma Twins.cons (he : seg.erase = other.erase) (h : Twins segs others) :
    Twins (seg :: segs) (other :: others) := by
  obtain ⟨front, front', name, rfl, rfl, hfront⟩ := h
  refine ⟨seg :: front, other :: front', name, rfl, rfl, ?_⟩
  rw [List.map_cons, List.map_cons, he, hfront]

lemma erase_eq_or_twins_last (h : part true seg = part true other) :
    seg.erase = other.erase ∨ Twins [seg] [other] ∨ Twins [other] [seg] := by
  cases seg with
  | literal text =>
    rcases part_true_literal text with ⟨rfl, hp⟩ | ⟨hne, hp⟩
    · rw [hp] at h
      cases other with
      | literal text' =>
        rcases part_true_literal text' with ⟨rfl, -⟩ | ⟨-, hp'⟩
        · exact .inl rfl
        · cases h.trans hp'
      | wildcard name => cases h
      | remainder name => exact .inr (.inl ⟨[], [], name, rfl, rfl, rfl⟩)
      | endMark => cases h
    · rw [hp] at h
      cases other with
      | literal text' =>
        rcases part_true_literal text' with ⟨-, hp'⟩ | ⟨-, hp'⟩
        · cases h.trans hp'
        · exact .inl (String.toList_inj.mp (Part.exact.inj (h.trans hp')))
      | wildcard name => cases h
      | remainder name => cases h
      | endMark => exact (hne (String.toList_inj.mp (Part.exact.inj h))).elim
  | wildcard name =>
    cases other with
    | literal text =>
      rcases part_true_literal text with ⟨-, hp⟩ | ⟨-, hp⟩
      · cases h.trans hp
      · cases h.trans hp
    | wildcard name' => exact .inl rfl
    | remainder name' => cases h
    | endMark => cases h
  | remainder name =>
    cases other with
    | literal text =>
      rcases part_true_literal text with ⟨rfl, -⟩ | ⟨-, hp⟩
      · exact .inr (.inr ⟨[], [], name, rfl, rfl, rfl⟩)
      · cases h.trans hp
    | wildcard name' => cases h
    | remainder name' => exact .inl rfl
    | endMark => cases h
  | endMark =>
    cases other with
    | literal text =>
      rcases part_true_literal text with ⟨-, hp⟩ | ⟨hne, hp⟩
      · cases h.trans hp
      · exact (hne (String.toList_inj.mp (Part.exact.inj (h.trans hp)).symm)).elim
    | wildcard name => cases h
    | remainder name => cases h
    | endMark => exact .inl rfl

lemma erase_eq_or_twins (hs : ∀ seg ∈ segs.dropLast, seg.isFinal = false)
    (ho : ∀ seg ∈ others.dropLast, seg.isFinal = false) (h : parts segs = parts others) :
    segs.map Segment.erase = others.map Segment.erase ∨ Twins segs others ∨ Twins others segs := by
  induction segs generalizing others with
  | nil =>
    cases others with
    | nil => exact .inl rfl
    | cons other others => cases h
  | cons seg segs ih =>
    cases others with
    | nil => cases h
    | cons other others =>
      obtain ⟨hsfinal, hs⟩ := Pattern.final_cons_iff.mp hs
      obtain ⟨hofinal, ho⟩ := Pattern.final_cons_iff.mp ho
      rw [parts, parts, List.cons.injEq] at h
      obtain ⟨hpart, h⟩ := h
      cases segs with
      | nil =>
        cases others with
        | nil =>
          refine (erase_eq_or_twins_last hpart).imp_left fun he => ?_
          rw [List.map_singleton, List.map_singleton, he]
        | cons next others => cases h
      | cons next segs =>
        cases others with
        | nil => cases h
        | cons next' others =>
          have he : seg.erase = other.erase := by
            refine erase_eq_of_part (Bool.eq_false_iff.mpr fun hf => ?_)
              (Bool.eq_false_iff.mpr fun hf => ?_) hpart
            · cases hsfinal hf
            · cases hofinal hf
          rcases ih hs ho h with hmap | htwins | htwins
          · exact .inl (by rw [List.map_cons, he, hmap]; rfl)
          · exact .inr (.inl (htwins.cons he))
          · exact .inr (.inr (htwins.cons he.symm))

def erasedPart (erased : String) : Part :=
  if erased = "\x7b\x7d" then .one
  else if erased = "\x7b...\x7d" then .rest
  else if erased = "\x7b$\x7d" then .exact []
  else .exact erased.toList

lemma part_eq_erasedPart (hs : seg.IsSound) : part false seg = erasedPart seg.erase := by
  cases seg with
  | literal text =>
    have hone : text ≠ "\x7b\x7d" := by rintro rfl; cases hs
    have hrest : text ≠ "\x7b...\x7d" := by rintro rfl; cases hs
    have hend : text ≠ "\x7b$\x7d" := by rintro rfl; cases hs
    simp [part, Segment.erase, erasedPart, hone, hrest, hend]
  | wildcard name => rfl
  | remainder name => rfl
  | endMark => rfl

lemma parts_append_singleton (segs : List Segment) (seg : Segment) :
    parts (segs ++ [seg]) = segs.map (part false) ++ [part true seg] := by
  induction segs with
  | nil => rfl
  | cons first segs ih =>
    have hempty : (segs ++ [seg]).isEmpty = false := by
      cases segs <;> rfl
    rw [List.cons_append, parts, ih, hempty]
    rfl

lemma Twins.parts_eq (h : Twins segs others) (hs : ∀ seg ∈ segs, seg.IsSound)
    (ho : ∀ seg ∈ others, seg.IsSound) : parts segs = parts others := by
  obtain ⟨front, front', name, rfl, rfl, hfront⟩ := h
  have herased : ∀ segs : List Segment, (∀ seg ∈ segs, seg.IsSound) →
      segs.map (part false) = (segs.map Segment.erase).map erasedPart := by
    intro segs hsound
    rw [List.map_map]
    exact List.map_congr_left fun seg hseg => part_eq_erasedPart (hsound seg hseg)
  rw [parts_append_singleton, parts_append_singleton,
    herased front fun seg hseg => hs seg (List.mem_append_left _ hseg),
    herased front' fun seg hseg => ho seg (List.mem_append_left _ hseg), hfront]
  rfl

end Segments

section Requests

variable {path other : String} {segs others : List Segment}

lemma free_of_segments (h : Pattern.segments path = .ok segs) : ∀ seg ∈ segs, '/' ∉ seg.text := by
  intro seg hseg
  obtain ⟨hwritten, -⟩ := Pattern.segments_eq_ok_iff.mp h
  refine not_mem_of_mem_splitOnChar (s := path.toList) ?_
  rw [hwritten]
  exact List.mem_map_of_mem hseg

lemma ne_nil_of_segments (h : Pattern.segments path = .ok segs) : segs ≠ [] := by
  rintro rfl
  obtain ⟨hwritten, -⟩ := Pattern.segments_eq_ok_iff.mp h
  exact splitWhere_ne_nil _ _ hwritten

lemma covers_nil (h : segs ≠ []) : covers (parts segs) [] = false := by
  cases segs with
  | nil => exact (h rfl).elim
  | cons seg segs =>
    rw [parts]
    cases part segs.isEmpty seg <;> rfl

lemma agree_of_requests_eq (hp : Pattern.segments path = .ok segs)
    (ho : Pattern.segments other = .ok others) (h : requests path = requests other) :
    Agree (parts segs) (parts others) := by
  intro rs hrs
  cases rs with
  | nil =>
    rw [covers_nil (ne_nil_of_segments hp), covers_nil (ne_nil_of_segments ho)]
  | cons r rs =>
    have hsplit := splitOnChar_intercalate (by simp) hrs
    have hmem : String.ofList (['/'].intercalate (r :: rs)) ∈ requests path ↔
        String.ofList (['/'].intercalate (r :: rs)) ∈ requests other := by
      rw [h]
    rwa [requests_eq hp, requests_eq ho, Set.mem_ofPred_eq, Set.mem_ofPred_eq,
      String.toList_ofList, hsplit] at hmem

lemma requests_nonempty (hp : Pattern.segments path = .ok segs) : (requests path).Nonempty := by
  have hregular := regular_parts (Pattern.segments_eq_ok_iff.mp hp).2.final (free_of_segments hp)
  obtain ⟨rs, hrs, hc⟩ := exists_covers hregular
  have hne : rs ≠ [] := by
    rintro rfl
    rw [covers_nil (ne_nil_of_segments hp)] at hc
    cases hc
  refine ⟨.ofList (['/'].intercalate rs), ?_⟩
  rwa [requests_eq hp, Set.mem_ofPred_eq, String.toList_ofList, splitOnChar_intercalate hne hrs]

lemma requests_eq_cases (hp : Pattern.segments path = .ok segs)
    (ho : Pattern.segments other = .ok others) (h : requests path = requests other) :
    segs.map Segment.erase = others.map Segment.erase ∨ Twins segs others ∨ Twins others segs := by
  have hps := (Pattern.segments_eq_ok_iff.mp hp).2.final
  have hos := (Pattern.segments_eq_ok_iff.mp ho).2.final
  refine erase_eq_or_twins hps hos (Agree.eq ?_ ?_ (agree_of_requests_eq hp ho h))
  · exact regular_parts hps (free_of_segments hp)
  · exact regular_parts hos (free_of_segments ho)

def TwinPaths (path other : String) : Prop :=
  ∃ segs others, Pattern.segments path = .ok segs ∧ Pattern.segments other = .ok others ∧
    Twins segs others

lemma TwinPaths.requests_eq (h : TwinPaths path other) : requests path = requests other := by
  obtain ⟨segs, others, hp, ho, htwins⟩ := h
  have hparts := htwins.parts_eq (Pattern.segments_eq_ok_iff.mp hp).2.sound
    (Pattern.segments_eq_ok_iff.mp ho).2.sound
  rw [Mux.requests_eq hp, Mux.requests_eq ho, hparts]

end Requests

/-- Why the mux refuses two patterns: there are requests for both, and neither is the more
specific. -/
def Conflict (r s : Route) : Prop :=
  r.method = s.method ∧ (requests r.path ∩ requests s.path).Nonempty ∧
    ¬requests r.path ⊂ requests s.path ∧ ¬requests s.path ⊂ requests r.path

def Overlap (path other : String) : Prop :=
  (requests path ∩ requests other).Nonempty ∧ (requests path \ requests other).Nonempty ∧
    (requests other \ requests path).Nonempty

lemma conflict_iff {r s : Route} : Conflict r s ↔ r.method = s.method ∧
    ((requests r.path).Nonempty ∧ requests r.path = requests s.path ∨ Overlap r.path s.path) := by
  constructor
  · rintro ⟨hmethod, hboth, hleft, hright⟩
    refine ⟨hmethod, ?_⟩
    by_cases hsame : requests r.path = requests s.path
    · exact .inl ⟨hboth.mono Set.inter_subset_left, hsame⟩
    · refine .inr ⟨hboth, Set.nonempty_of_not_subset fun hsub => hleft ?_,
        Set.nonempty_of_not_subset fun hsub => hright ?_⟩
      · exact hsub.ssubset_of_ne hsame
      · exact hsub.ssubset_of_ne (Ne.symm hsame)
  · rintro ⟨hmethod, ⟨hne, hsame⟩ | ⟨hboth, ⟨p, hp, hnot⟩, ⟨q, hq, hnot'⟩⟩⟩
    · refine ⟨hmethod, ?_, ?_, ?_⟩
      · rwa [← hsame, Set.inter_self]
      · exact fun hsub => hsub.ne hsame
      · exact fun hsub => hsub.ne hsame.symm
    · exact ⟨hmethod, hboth, fun hsub => hnot (hsub.subset hp), fun hsub => hnot' (hsub.subset hq)⟩

end Mux

namespace Framework

theorem bindings_conflict_iff (kind : FrameworkKind) (calls : List Call) :
    ((new kind).run calls).mux.bindings.Pairwise fun b c =>
      let twins := Mux.TwinPaths b.route.path c.route.path ∨
        Mux.TwinPaths c.route.path b.route.path
      (Mux.requests b.route.path = Mux.requests c.route.path ↔ twins) ∧
        (Mux.Conflict b.route c.route ↔ b.route.method = c.route.method ∧
          (twins ∨ Mux.Overlap b.route.path c.route.path)) := by
  have hf := run_consistent (new_consistent kind) calls
  have hdistinct := List.pairwise_map.mp hf.keys_distinct
  refine hdistinct.imp_of_mem fun {b c} hb hc hne => ?_
  obtain ⟨key, hkey⟩ := hf.keyed b hb
  obtain ⟨segs, hp, -⟩ := except_map_eq_ok_iff.mp hkey
  obtain ⟨key', hkey'⟩ := hf.keyed c hc
  obtain ⟨others, ho, -⟩ := except_map_eq_ok_iff.mp hkey'
  have hsame : Mux.requests b.route.path = Mux.requests c.route.path ↔
      Mux.TwinPaths b.route.path c.route.path ∨ Mux.TwinPaths c.route.path b.route.path := by
    constructor
    · intro h
      rcases Mux.requests_eq_cases hp ho h with he | htwins | htwins
      · refine (hne ?_).elim
        rw [Binding.key, Binding.key, Pattern.key, Pattern.key, hp, ho]
        exact congrArg (fun erased => Except.ok ("/".intercalate erased)) he
      · exact .inl ⟨segs, others, hp, ho, htwins⟩
      · exact .inr ⟨others, segs, ho, hp, htwins⟩
    · rintro (h | h)
      · exact h.requests_eq
      · exact h.requests_eq.symm
  refine ⟨hsame, ?_⟩
  rw [Mux.conflict_iff, and_iff_right (Mux.requests_nonempty hp), hsame]

/-- None of these four paths is refused, though the mux refuses the first two together and the last
two together. -/
theorem bindings_conflicting :
    let h : Handler := ⟨"shop/shelf", "shelf", "Read", []⟩
    let item : Route := ⟨.get, "/a/\x7bx\x7d"⟩
    let any : Route := ⟨.get, "/\x7by\x7d/b"⟩
    let slash : Route := ⟨.get, "/c/"⟩
    let named : Route := ⟨.get, "/c/\x7bz...\x7d"⟩
    let calls : List Call := [.bind item h, .bind any h, .bind slash h, .bind named h]
    ((new .http).run calls).mux.bindings = [⟨item, h⟩, ⟨any, h⟩, ⟨slash, h⟩, ⟨named, h⟩] ∧
      Mux.Conflict item any ∧
        Mux.requests slash.path = Mux.requests named.path ∧ Mux.Conflict slash named := by
  intro h item any slash named calls
  have hitem : Pattern.segments item.path = .ok [.literal "", .literal "a", .wildcard "x"] := by
    decide +kernel
  have hany : Pattern.segments any.path = .ok [.literal "", .wildcard "y", .literal "b"] := by
    decide +kernel
  have hslash : Pattern.segments slash.path = .ok [.literal "", .literal "c", .literal ""] := by
    decide +kernel
  have hnamed : Pattern.segments named.path = .ok [.literal "", .literal "c", .remainder "z"] := by
    decide +kernel
  have hsame : Mux.requests slash.path = Mux.requests named.path := by
    rw [Mux.requests_eq hslash, Mux.requests_eq hnamed]
    rfl
  refine ⟨by decide +kernel, Mux.conflict_iff.mpr ⟨rfl, .inr ?_⟩, hsame,
    Mux.conflict_iff.mpr ⟨rfl, .inl ⟨Mux.requests_nonempty hslash, hsame⟩⟩⟩
  rw [Mux.Overlap, Mux.requests_eq hitem, Mux.requests_eq hany]
  refine ⟨⟨"/a/b", ?_⟩, ⟨"/a/c", ?_⟩, ⟨"/c/b", ?_⟩⟩
  · decide +kernel
  · decide +kernel
  · decide +kernel

end Framework

end Routewright
