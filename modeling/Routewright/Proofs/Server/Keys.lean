import Routewright.Proofs.Server.Coverage

namespace Routewright

open Text

namespace Pattern

def braced (inner : List Char) : List Char :=
  '\x7b' :: inner ++ ['\x7d']

/-- A segment that stands for one segment of a request. -/
def IsWildcard (name piece : List Char) : Prop :=
  isIdentifier name = true ∧ piece = braced name

/-- A segment that stands for all that is left of a request. -/
def IsRemainder (name piece : List Char) : Prop :=
  isIdentifier name = true ∧ piece = braced (name ++ "...".toList)

def endMarker : List Char :=
  braced ['$']

def Names (name piece : List Char) : Prop :=
  IsWildcard name piece ∨ IsRemainder name piece

structure IsPattern (pieces : List (List Char)) : Prop where
  braces : ∀ piece ∈ pieces, piece.any isBrace = true →
    (∃ name, Names name piece) ∨ piece = endMarker
  final : ∀ piece ∈ pieces.dropLast, (∀ name, ¬IsRemainder name piece) ∧ piece ≠ endMarker
  distinct : pieces.Pairwise fun piece other => ∀ name, Names name piece → ¬Names name other

inductive SameShape : List Char → List Char → Prop
  | bare {piece : List Char} (h : piece.any isBrace = false) : SameShape piece piece
  | wildcard {name name' piece piece' : List Char} (h : IsWildcard name piece)
      (h' : IsWildcard name' piece') : SameShape piece piece'
  | remainder {name name' piece piece' : List Char} (h : IsRemainder name piece)
      (h' : IsRemainder name' piece') : SameShape piece piece'
  | endMark : SameShape endMarker endMarker

section Segments

variable {seg other : Segment} {segs others : List Segment} {name : List Char}

lemma eq_of_text_eq (hs : seg.IsSound) (ho : other.IsSound) (h : seg.text = other.text) :
    seg = other := by
  have hseg : segment true seg.text = .ok seg := segment_text hs fun _ => rfl
  have hother : segment true other.text = .ok other := segment_text ho fun _ => rfl
  rw [h, hother] at hseg
  exact (Except.ok.inj hseg).symm

lemma text_wildcard (name : List Char) : (Segment.wildcard (.ofList name)).text = braced name := by
  simp only [Segment.text, String.toList_ofList, braced]

lemma text_remainder (name : List Char) :
    (Segment.remainder (.ofList name)).text = braced (name ++ "...".toList) := by
  simp only [Segment.text, String.toList_ofList, braced]

lemma isWildcard_text_iff (hs : seg.IsSound) :
    IsWildcard name seg.text ↔ seg = .wildcard (.ofList name) := by
  constructor
  · rintro ⟨hid, hwritten⟩
    refine eq_of_text_eq hs ?_ (hwritten.trans (text_wildcard name).symm)
    rwa [Segment.IsSound, String.toList_ofList]
  · rintro rfl
    rw [Segment.IsSound, String.toList_ofList] at hs
    exact ⟨hs, text_wildcard name⟩

lemma isRemainder_text_iff (hs : seg.IsSound) :
    IsRemainder name seg.text ↔ seg = .remainder (.ofList name) := by
  constructor
  · rintro ⟨hid, hwritten⟩
    refine eq_of_text_eq hs ?_ (hwritten.trans (text_remainder name).symm)
    rwa [Segment.IsSound, String.toList_ofList]
  · rintro rfl
    rw [Segment.IsSound, String.toList_ofList] at hs
    exact ⟨hs, text_remainder name⟩

lemma text_eq_endMarker_iff (hs : seg.IsSound) : seg.text = endMarker ↔ seg = .endMark :=
  ⟨fun h => eq_of_text_eq hs trivial h, fun h => h ▸ rfl⟩

lemma names_text_iff (hs : seg.IsSound) :
    Names name seg.text ↔ seg.name? = some (.ofList name) := by
  rw [Names, isWildcard_text_iff hs, isRemainder_text_iff hs]
  cases seg with
  | literal text => simp [Segment.name?]
  | wildcard other => simp [Segment.name?]
  | remainder other => simp [Segment.name?]
  | endMark => simp [Segment.name?]

lemma isFinal_eq_false_iff (hs : seg.IsSound) : seg.isFinal = false ↔
    (∀ name, ¬IsRemainder name seg.text) ∧ seg.text ≠ endMarker := by
  simp only [isRemainder_text_iff hs, ne_eq, text_eq_endMarker_iff hs]
  cases seg with
  | literal text => simp [Segment.isFinal]
  | wildcard other => simp [Segment.isFinal]
  | remainder other =>
    have hname : other = .ofList other.toList := String.ofList_toList.symm
    simpa [Segment.isFinal] using ⟨_, hname⟩
  | endMark => simp [Segment.isFinal]

lemma exists_segment {piece : List Char} (h : piece.any isBrace = true →
    (∃ name, Names name piece) ∨ piece = endMarker) :
    ∃ seg : Segment, seg.text = piece ∧ seg.IsSound := by
  cases hbrace : piece.any isBrace with
  | false =>
    refine ⟨.literal (.ofList piece), String.toList_ofList, ?_⟩
    rwa [Segment.IsSound, String.toList_ofList]
  | true =>
    rcases h hbrace with ⟨name, hwildcard | hremainder⟩ | rfl
    · obtain ⟨hid, rfl⟩ := hwildcard
      refine ⟨.wildcard (.ofList name), text_wildcard name, ?_⟩
      rwa [Segment.IsSound, String.toList_ofList]
    · obtain ⟨hid, rfl⟩ := hremainder
      refine ⟨.remainder (.ofList name), text_remainder name, ?_⟩
      rwa [Segment.IsSound, String.toList_ofList]
    · exact ⟨.endMark, rfl, trivial⟩

lemma exists_segments {pieces : List (List Char)} (h : ∀ piece ∈ pieces,
    piece.any isBrace = true → (∃ name, Names name piece) ∨ piece = endMarker) :
    ∃ segs : List Segment, pieces = segs.map Segment.text ∧ ∀ seg ∈ segs, seg.IsSound := by
  induction pieces with
  | nil => exact ⟨[], rfl, by simp⟩
  | cons piece pieces ih =>
    obtain ⟨hpiece, hpieces⟩ := List.forall_mem_cons.mp h
    obtain ⟨seg, rfl, hsound⟩ := exists_segment hpiece
    obtain ⟨segs, rfl, hall⟩ := ih hpieces
    exact ⟨seg :: segs, rfl, List.forall_mem_cons.mpr ⟨hsound, hall⟩⟩

lemma braces_of_isSound (hs : seg.IsSound) (hbrace : seg.text.any isBrace = true) :
    (∃ name, Names name seg.text) ∨ seg.text = endMarker := by
  cases seg with
  | literal text =>
    rw [Segment.text, hs] at hbrace
    cases hbrace
  | wildcard name => exact .inl ⟨name.toList, .inl ⟨hs, rfl⟩⟩
  | remainder name => exact .inl ⟨name.toList, .inr ⟨hs, rfl⟩⟩
  | endMark => exact .inr rfl

lemma isPattern_texts_iff (hs : ∀ seg ∈ segs, seg.IsSound) :
    IsPattern (segs.map Segment.text) ↔ WellFormed [] segs := by
  have hdistinct : (segs.map Segment.text).Pairwise
      (fun piece other => ∀ name, Names name piece → ¬Names name other) ↔
        (segs.filterMap Segment.name?).Nodup := by
    rw [List.pairwise_map, List.Nodup, List.pairwise_filterMap]
    refine List.Pairwise.iff_of_mem fun {seg other} hseg hother => ?_
    simp only [names_text_iff (hs seg hseg), names_text_iff (hs other hother)]
    constructor
    · rintro h name hname name' hname' rfl
      refine h name.toList ?_ ?_
      · rw [hname, String.ofList_toList]
      · rw [hname', String.ofList_toList]
    · exact fun h name hname hname' => h _ hname _ hname' rfl
  have hfinal : (∀ piece ∈ (segs.map Segment.text).dropLast,
      (∀ name, ¬IsRemainder name piece) ∧ piece ≠ endMarker) ↔
        ∀ seg ∈ segs.dropLast, seg.isFinal = false := by
    rw [← List.map_dropLast, List.forall_mem_map]
    exact forall₂_congr fun seg hseg =>
      (isFinal_eq_false_iff (hs seg (List.dropLast_subset segs hseg))).symm
  constructor
  · rintro ⟨-, hf, hd⟩
    exact ⟨hs, hdistinct.mp hd, by simp, hfinal.mp hf⟩
  · rintro ⟨-, hd, -, hf⟩
    exact ⟨List.forall_mem_map.mpr fun seg hseg => braces_of_isSound (hs seg hseg),
      hfinal.mpr hf, hdistinct.mpr hd⟩

lemma eq_literal_of_erase (h : seg.erase.toList.any isBrace = false) :
    seg = .literal seg.erase := by
  cases seg with
  | literal text => rfl
  | wildcard name => simp [Segment.erase, isBrace] at h
  | remainder name => simp [Segment.erase, isBrace] at h
  | endMark => simp [Segment.erase, isBrace] at h

lemma sameShape_of_erase_eq (hs : seg.IsSound) (ho : other.IsSound) (h : seg.erase = other.erase) :
    SameShape seg.text other.text := by
  have hliteral : ∀ text, other = .literal text → seg = .literal text := by
    rintro text rfl
    have hbare : seg.erase.toList.any isBrace = false := by
      rw [h]
      exact ho
    rw [eq_literal_of_erase hbare, h]
    rfl
  cases seg with
  | literal text =>
    have hbare : other.erase.toList.any isBrace = false := by
      rw [← h]
      exact hs
    rw [eq_literal_of_erase hbare, ← h]
    exact .bare hs
  | wildcard name =>
    cases other with
    | literal text => cases hliteral text rfl
    | wildcard name' => exact .wildcard ⟨hs, rfl⟩ ⟨ho, rfl⟩
    | remainder name' => simp [Segment.erase] at h
    | endMark => simp [Segment.erase] at h
  | remainder name =>
    cases other with
    | literal text => cases hliteral text rfl
    | wildcard name' => simp [Segment.erase] at h
    | remainder name' => exact .remainder ⟨hs, rfl⟩ ⟨ho, rfl⟩
    | endMark => simp [Segment.erase] at h
  | endMark =>
    cases other with
    | literal text => cases hliteral text rfl
    | wildcard name' => simp [Segment.erase] at h
    | remainder name' => simp [Segment.erase] at h
    | endMark => exact .endMark

lemma sameShape_texts_iff (hs : seg.IsSound) (ho : other.IsSound) :
    SameShape seg.text other.text ↔ seg.erase = other.erase := by
  refine ⟨fun h => ?_, sameShape_of_erase_eq hs ho⟩
  generalize hpiece : seg.text = piece at h
  generalize hpiece' : other.text = piece' at h
  cases h with
  | bare _ => rw [eq_of_text_eq hs ho (hpiece.trans hpiece'.symm)]
  | wildcard h h' =>
    subst hpiece hpiece'
    rw [(isWildcard_text_iff hs).mp h, (isWildcard_text_iff ho).mp h', Segment.erase, Segment.erase]
  | remainder h h' =>
    subst hpiece hpiece'
    rw [(isRemainder_text_iff hs).mp h, (isRemainder_text_iff ho).mp h', Segment.erase,
      Segment.erase]
  | endMark => rw [eq_of_text_eq hs ho (hpiece.trans hpiece'.symm)]

lemma sameShapes_texts_iff (hs : ∀ seg ∈ segs, seg.IsSound) (ho : ∀ seg ∈ others, seg.IsSound) :
    List.Forall₂ SameShape (segs.map Segment.text) (others.map Segment.text) ↔
      segs.map Segment.erase = others.map Segment.erase := by
  induction segs generalizing others with
  | nil => cases others <;> simp
  | cons seg segs ih =>
    cases others with
    | nil => simp
    | cons other others =>
      obtain ⟨hseg, hs⟩ := List.forall_mem_cons.mp hs
      obtain ⟨hother, ho⟩ := List.forall_mem_cons.mp ho
      rw [List.map_cons, List.map_cons, List.map_cons, List.map_cons, List.forall₂_cons,
        sameShape_texts_iff hseg hother, ih hs ho, List.cons.injEq]

lemma not_mem_erase (h : '/' ∉ seg.text) : '/' ∉ seg.erase.toList := by
  cases seg with
  | literal text => exact h
  | wildcard name => simp [Segment.erase]
  | remainder name => simp [Segment.erase]
  | endMark => simp [Segment.erase]

end Segments

section Paths

variable {path other : String} {segs others : List Segment}

lemma key_eq_ok (h : segments path = .ok segs) :
    key path = .ok ("/".intercalate (segs.map Segment.erase)) := by
  rw [key, h]
  rfl

lemma keyed_iff (path : String) :
    (∃ k, key path = .ok k) ↔ IsPattern (splitOnChar '/' path.toList) := by
  constructor
  · rintro ⟨k, hk⟩
    obtain ⟨segs, hsegs, -⟩ := except_map_eq_ok_iff.mp hk
    obtain ⟨hwritten, hwell⟩ := segments_eq_ok_iff.mp hsegs
    rw [hwritten, isPattern_texts_iff hwell.sound]
    exact hwell
  · intro h
    obtain ⟨segs, hwritten, hsound⟩ := exists_segments h.braces
    rw [hwritten, isPattern_texts_iff hsound] at h
    exact ⟨_, key_eq_ok (segments_eq_ok_iff.mpr ⟨hwritten, h⟩)⟩

lemma splitOnChar_key (h : segments path = .ok segs) :
    splitOnChar '/' ("/".intercalate (segs.map Segment.erase)).toList =
      (segs.map Segment.erase).map String.toList := by
  have hne : (segs.map Segment.erase).map String.toList ≠ [] := by
    simpa using Mux.ne_nil_of_segments h
  rw [String.toList_intercalate]
  refine splitOnChar_intercalate hne ?_
  simp only [List.forall_mem_map]
  exact fun seg hseg => not_mem_erase (Mux.free_of_segments h seg hseg)

lemma key_eq_iff (h : segments path = .ok segs) (ho : segments other = .ok others) :
    "/".intercalate (segs.map Segment.erase) = "/".intercalate (others.map Segment.erase) ↔
      segs.map Segment.erase = others.map Segment.erase := by
  refine ⟨fun hkey => ?_, fun heq => by rw [heq]⟩
  have hpieces := splitOnChar_key h
  rw [hkey, splitOnChar_key ho] at hpieces
  exact (List.map_injective_iff.mpr (fun _ _ => String.toList_injective) hpieces).symm

theorem keys_exact (path other : String) :
    let pieces := splitOnChar '/' path.toList
    let pieces' := splitOnChar '/' other.toList
    ((∃ k, key path = .ok k) ↔ IsPattern pieces) ∧
      ∀ k k', key path = .ok k → key other = .ok k' →
        (k = k' ↔ List.Forall₂ SameShape pieces pieces') := by
  refine ⟨keyed_iff path, fun k k' hk hk' => ?_⟩
  obtain ⟨segs, hsegs, rfl⟩ := except_map_eq_ok_iff.mp hk
  obtain ⟨others, hothers, rfl⟩ := except_map_eq_ok_iff.mp hk'
  obtain ⟨hwritten, hwell⟩ := segments_eq_ok_iff.mp hsegs
  obtain ⟨hwritten', hwell'⟩ := segments_eq_ok_iff.mp hothers
  rw [hwritten, hwritten', sameShapes_texts_iff hwell.sound hwell'.sound]
  exact key_eq_iff hsegs hothers

theorem keys_exact_shelf :
    let shelf := "/shelves/\x7bid\x7d/\x7brest...\x7d"
    let renamed := "/shelves/\x7bkey\x7d/\x7btail...\x7d"
    let given := "/shelves/id/\x7brest...\x7d"
    IsPattern (splitOnChar '/' shelf.toList) ∧
      List.Forall₂ SameShape (splitOnChar '/' shelf.toList) (splitOnChar '/' renamed.toList) ∧
        ¬List.Forall₂ SameShape (splitOnChar '/' shelf.toList) (splitOnChar '/' given.toList) := by
  intro shelf renamed given
  have hshelf : key shelf = .ok "/shelves/\x7b\x7d/\x7b...\x7d" := by
    decide +kernel
  have hrenamed : key renamed = .ok "/shelves/\x7b\x7d/\x7b...\x7d" := by
    decide +kernel
  have hgiven : key given = .ok "/shelves/id/\x7b...\x7d" := by
    decide +kernel
  refine ⟨(keys_exact shelf renamed).1.mp ⟨_, hshelf⟩,
    ((keys_exact shelf renamed).2 _ _ hshelf hrenamed).mp rfl, fun h => ?_⟩
  exact absurd (((keys_exact shelf given).2 _ _ hshelf hgiven).mpr h) (by decide)

end Paths

end Pattern

end Routewright
