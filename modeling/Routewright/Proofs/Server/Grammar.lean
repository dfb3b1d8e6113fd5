import Mathlib.Data.List.Basic
import Mathlib.Data.List.Nodup
import Routewright.Proofs.Except
import Routewright.Proofs.Go.Literal
import Routewright.Proofs.Text.Pieces
import Routewright.Server.Pattern

namespace Routewright

open Text

namespace Segment

def text : Segment → List Char
  | literal text => text.toList
  | wildcard name => '\x7b' :: name.toList ++ ['\x7d']
  | remainder name => '\x7b' :: (name.toList ++ "...".toList) ++ ['\x7d']
  | endMark => '\x7b' :: ['$'] ++ ['\x7d']

def IsSound : Segment → Prop
  | literal text => text.toList.any Pattern.isBrace = false
  | wildcard name => Pattern.isIdentifier name.toList = true
  | remainder name => Pattern.isIdentifier name.toList = true
  | endMark => True

variable {seg : Segment} {name : String}

lemma isIdentifier_of_name (hs : seg.IsSound) (hn : seg.name? = some name) :
    Pattern.isIdentifier name.toList = true := by
  cases seg with
  | literal text => cases hn
  | wildcard other =>
    obtain rfl := Option.some.inj hn
    exact hs
  | remainder other =>
    obtain rfl := Option.some.inj hn
    exact hs
  | endMark => cases hn

lemma mem_text_of_name (hn : seg.name? = some name) : ∀ c ∈ name.toList, c ∈ seg.text := by
  intro c hc
  cases seg with
  | literal text => cases hn
  | wildcard other =>
    obtain rfl := Option.some.inj hn
    simp [text, hc]
  | remainder other =>
    obtain rfl := Option.some.inj hn
    simp [text, hc]
  | endMark => cases hn

end Segment

namespace Pattern

variable {s inner : List Char} {seg : Segment} {last : Bool}

lemma inner?_eq_some_iff :
    inner? s = some inner ↔ s = '\x7b' :: inner ++ ['\x7d'] ∧ inner.any isBrace = false := by
  constructor
  · intro h
    unfold inner? at h
    split at h
    · rename_i r
      rw [Option.ite_none_right_eq_some, Option.some.injEq] at h
      obtain ⟨⟨hlast, hbare⟩, rfl⟩ := h
      refine ⟨?_, Bool.eq_false_iff.mpr hbare⟩
      rw [List.cons_append, List.dropLast_append_getLast? _ hlast]
    · cases h
  · rintro ⟨rfl, hbare⟩
    simp [inner?, hbare]

lemma any_isBrace_of_identifier (h : isIdentifier s = true) : s.any isBrace = false := by
  refine List.any_eq_false.mpr fun c hc => ?_
  have hopen : c ≠ '\x7b' := Go.ne_of_mem_identifier h hc (by decide)
  have hclose : c ≠ '\x7d' := Go.ne_of_mem_identifier h hc (by decide)
  simp [isBrace, hopen, hclose]

lemma inner?_braces (h : inner.any isBrace = false) :
    inner? ('\x7b' :: inner ++ ['\x7d']) = some inner :=
  inner?_eq_some_iff.mpr ⟨rfl, h⟩

lemma segment_eq_ok (h : segment last s = .ok seg) :
    s = seg.text ∧ seg.IsSound ∧ (seg.isFinal = true → last = true) := by
  rw [segment] at h
  split at h
  · rename_i hbare
    obtain rfl := Except.ok.inj h
    have hsound : (Segment.literal (.ofList s)).IsSound := by
      rw [Segment.IsSound, String.toList_ofList]
      simpa using hbare
    exact ⟨String.toList_ofList.symm, hsound, fun hfinal => nomatch hfinal⟩
  split at h
  · cases h
  rename_i inner hi
  obtain ⟨rfl, -⟩ := inner?_eq_some_iff.mp hi
  split at h
  · rename_i hmark
    split at h
    · rename_i hlast
      obtain rfl := Except.ok.inj h
      exact ⟨by rw [hmark]; rfl, trivial, fun _ => hlast⟩
    · cases h
  split at h
  · rename_i name hname
    obtain rfl := dropEnd?_eq_some_iff.mp hname
    split at h
    · cases h
    rename_i hlast
    split at h
    · rename_i hid
      obtain rfl := Except.ok.inj h
      refine ⟨?_, ?_, fun _ => by simpa using hlast⟩
      · simp only [Segment.text, String.toList_ofList]
      · rwa [Segment.IsSound, String.toList_ofList]
    · cases h
  · split at h
    · rename_i hid
      obtain rfl := Except.ok.inj h
      refine ⟨?_, ?_, fun hfinal => nomatch hfinal⟩
      · simp only [Segment.text, String.toList_ofList]
      · rwa [Segment.IsSound, String.toList_ofList]
    · cases h

lemma segment_text (hs : seg.IsSound) (hfinal : seg.isFinal = true → last = true) :
    segment last seg.text = .ok seg := by
  cases seg with
  | literal text =>
    have hs : text.toList.any isBrace = false := hs
    simp [segment, Segment.text, hs]
  | wildcard name =>
    have hid : isIdentifier name.toList = true := hs
    have hmark : name.toList ≠ ['$'] := fun heq =>
      Go.ne_of_mem_identifier hid (c := '$') (by simp [heq]) (by decide) rfl
    have hdots : dropEnd? "...".toList name.toList = none := by
      refine Option.eq_none_iff_forall_not_mem.mpr fun t ht => ?_
      have ht : t ++ "...".toList = name.toList := dropEnd?_eq_some_iff.mp ht
      exact Go.ne_of_mem_identifier hid (c := '.') (by simp [← ht]) (by decide) rfl
    have hinner := inner?_braces (any_isBrace_of_identifier hid)
    rw [Segment.text, segment, hinner]
    simp only [hmark, hdots, hid]
    simp [isBrace]
  | remainder name =>
    have hid : isIdentifier name.toList = true := hs
    have hmark : name.toList ++ "...".toList ≠ ['$'] := fun heq => by
      simpa using congrArg List.length heq
    have hdots : dropEnd? "...".toList (name.toList ++ "...".toList) = some name.toList :=
      dropEnd?_eq_some_iff.mpr rfl
    have hinner : inner? ('\x7b' :: (name.toList ++ "...".toList) ++ ['\x7d']) =
        some (name.toList ++ "...".toList) := by
      refine inner?_braces ?_
      rw [List.any_append, any_isBrace_of_identifier hid]
      rfl
    rw [Segment.text, segment, hinner]
    simp only [hmark, hdots, hid, hfinal rfl]
    simp [isBrace]
  | endMark =>
    rw [hfinal rfl]
    rfl

lemma segment_eq_ok_iff : segment last s = .ok seg ↔
    s = seg.text ∧ seg.IsSound ∧ (seg.isFinal = true → last = true) := by
  refine ⟨segment_eq_ok, ?_⟩
  rintro ⟨rfl, hs, hfinal⟩
  exact segment_text hs hfinal

-- `names` are those of the segments before.
structure WellFormed (names : List String) (segs : List Segment) : Prop where
  sound : ∀ seg ∈ segs, seg.IsSound
  distinct : (segs.filterMap Segment.name?).Nodup
  fresh : ∀ name ∈ segs.filterMap Segment.name?, name ∉ names
  final : ∀ seg ∈ segs.dropLast, seg.isFinal = false

variable {names : List String} {segs : List Segment}

lemma wellFormed_nil (names : List String) : WellFormed names [] :=
  ⟨by simp, by simp, by simp, by simp⟩

lemma final_cons_iff : (∀ other ∈ (seg :: segs).dropLast, other.isFinal = false) ↔
    (seg.isFinal = true → segs = []) ∧ ∀ other ∈ segs.dropLast, other.isFinal = false := by
  cases segs with
  | nil => simp
  | cons next segs => simp

lemma wellFormed_cons_unnamed (hn : seg.name? = none) : WellFormed names (seg :: segs) ↔
    seg.IsSound ∧ (seg.isFinal = true → segs = []) ∧ WellFormed names segs := by
  constructor
  · rintro ⟨hs, hd, hf, hl⟩
    rw [List.filterMap_cons_none hn] at hd hf
    obtain ⟨hfinal, hl⟩ := final_cons_iff.mp hl
    exact ⟨hs seg List.mem_cons_self, hfinal,
      fun other ho => hs other (List.mem_cons_of_mem seg ho), hd, hf, hl⟩
  · rintro ⟨hseg, hfinal, hs, hd, hf, hl⟩
    refine ⟨List.forall_mem_cons.mpr ⟨hseg, hs⟩, ?_, ?_, final_cons_iff.mpr ⟨hfinal, hl⟩⟩
    · rwa [List.filterMap_cons_none hn]
    · rwa [List.filterMap_cons_none hn]

lemma wellFormed_cons_named {name : String} (hn : seg.name? = some name) :
    WellFormed names (seg :: segs) ↔ name ∉ names ∧
      seg.IsSound ∧ (seg.isFinal = true → segs = []) ∧ WellFormed (name :: names) segs := by
  constructor
  · rintro ⟨hs, hd, hf, hl⟩
    rw [List.filterMap_cons_some hn] at hd hf
    obtain ⟨hfinal, hl⟩ := final_cons_iff.mp hl
    obtain ⟨hnew, hd⟩ := List.nodup_cons.mp hd
    obtain ⟨hname, hf⟩ := List.forall_mem_cons.mp hf
    refine ⟨hname, hs seg List.mem_cons_self, hfinal,
      fun other ho => hs other (List.mem_cons_of_mem seg ho), hd, ?_, hl⟩
    intro other ho hmem
    rcases List.mem_cons.mp hmem with rfl | hmem
    · exact hnew ho
    · exact hf other ho hmem
  · rintro ⟨hname, hseg, hfinal, hs, hd, hf, hl⟩
    refine ⟨List.forall_mem_cons.mpr ⟨hseg, hs⟩, ?_, ?_, final_cons_iff.mpr ⟨hfinal, hl⟩⟩
    · rw [List.filterMap_cons_some hn, List.nodup_cons]
      exact ⟨fun hmem => hf name hmem List.mem_cons_self, hd⟩
    · rw [List.filterMap_cons_some hn, List.forall_mem_cons]
      exact ⟨hname, fun other ho hmem => hf other ho (List.mem_cons_of_mem name hmem)⟩

variable {piece : List Char} {pieces : List (List Char)}

lemma segmentsFrom_unnamed (h : segment pieces.isEmpty piece = .ok seg) (hn : seg.name? = none) :
    segmentsFrom names (piece :: pieces) = (segmentsFrom names pieces).map (seg :: ·) := by
  rw [segmentsFrom, h]
  simp only [hn]

lemma segmentsFrom_named {name : String} (h : segment pieces.isEmpty piece = .ok seg)
    (hn : seg.name? = some name) (hnew : name ∉ names) :
    segmentsFrom names (piece :: pieces) =
      (segmentsFrom (name :: names) pieces).map (seg :: ·) := by
  rw [segmentsFrom, h]
  simp [hn, hnew]

lemma segmentsFrom_eq_ok_iff : segmentsFrom names pieces = .ok segs ↔
    pieces = segs.map Segment.text ∧ WellFormed names segs := by
  induction pieces generalizing names segs with
  | nil =>
    constructor
    · intro h
      obtain rfl := Except.ok.inj h
      exact ⟨rfl, wellFormed_nil names⟩
    · rintro ⟨hnil, -⟩
      rw [List.map_eq_nil_iff.mp hnil.symm]
      rfl
  | cons piece pieces ih =>
    constructor
    · intro h
      rw [segmentsFrom] at h
      split at h
      · cases h
      rename_i seg hseg
      obtain ⟨rfl, hsound, hfinal⟩ := segment_eq_ok_iff.mp hseg
      have hlast : ∀ rest : List Segment, pieces = rest.map Segment.text →
          seg.isFinal = true → rest = [] := by
        rintro rest rfl hf
        simpa using hfinal hf
      split at h
      · rename_i hname
        obtain ⟨rest, hrest, rfl⟩ := except_map_eq_ok_iff.mp h
        obtain ⟨hwritten, hwell⟩ := ih.mp hrest
        exact ⟨by rw [hwritten]; rfl,
          (wellFormed_cons_unnamed hname).mpr ⟨hsound, hlast rest hwritten, hwell⟩⟩
      · rename_i name hname
        split at h
        · cases h
        rename_i hnew
        obtain ⟨rest, hrest, rfl⟩ := except_map_eq_ok_iff.mp h
        obtain ⟨hwritten, hwell⟩ := ih.mp hrest
        exact ⟨by rw [hwritten]; rfl, (wellFormed_cons_named hname).mpr
          ⟨by simpa using hnew, hsound, hlast rest hwritten, hwell⟩⟩
    · rintro ⟨hwritten, hwell⟩
      cases segs with
      | nil => cases hwritten
      | cons seg rest =>
        rw [List.map_cons, List.cons.injEq] at hwritten
        obtain ⟨rfl, hwritten⟩ := hwritten
        have hread : (seg.isFinal = true → rest = []) → seg.IsSound →
            segment pieces.isEmpty seg.text = .ok seg := by
          intro hfinal hsound
          refine segment_text hsound fun hf => ?_
          rw [hwritten, hfinal hf]
          rfl
        cases hname : seg.name? with
        | none =>
          obtain ⟨hsound, hfinal, hwell⟩ := (wellFormed_cons_unnamed hname).mp hwell
          rw [segmentsFrom_unnamed (hread hfinal hsound) hname, ih.mpr ⟨hwritten, hwell⟩]
          rfl
        | some name =>
          obtain ⟨hnew, hsound, hfinal, hwell⟩ := (wellFormed_cons_named hname).mp hwell
          rw [segmentsFrom_named (hread hfinal hsound) hname hnew, ih.mpr ⟨hwritten, hwell⟩]
          rfl

lemma segments_eq_ok_iff {path : String} : segments path = .ok segs ↔
    splitOnChar '/' path.toList = segs.map Segment.text ∧ WellFormed [] segs :=
  segmentsFrom_eq_ok_iff

end Pattern

end Routewright
