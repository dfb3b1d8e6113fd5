import Mathlib.Tactic.MkIffOfInductiveProp
import Routewright.Doc.Comment
import Routewright.Proofs.Go.Identifier
import Routewright.Proofs.Server.Grammar
import Routewright.Proofs.Server.History
import Routewright.Proofs.Text.Ascii
import Routewright.Proofs.Text.Pieces

/-! Which patterns the mux of a server accepts when the server starts, and how far binding a route
rules the others out. Two of the rules are not checked when a route is bound: that a path is clean,
and that the names of its wildcards have no letters and digits but those of the language. -/

namespace Routewright

open Text

namespace Mux

-- An empty element at the end is a slash at the end of the path.
@[mk_iff]
structure IsClean (path : String) : Prop where
  filled : ∀ piece ∈ (splitOnChar '/' path.toList).tail.dropLast, piece ≠ []
  undotted : ∀ piece ∈ splitOnChar '/' path.toList, piece ≠ ['.'] ∧ piece ≠ ['.', '.']

instance (path : String) : Decidable (IsClean path) :=
  decidable_of_iff' _ (isClean_iff path)

structure Reads (path : String) (segs : List Segment) : Prop where
  rooted : path.toList.head? = some '/'
  clean : IsClean path
  written : splitOnChar '/' path.toList = segs.map Segment.text
  literal : ∀ text, .literal text ∈ segs → '\x7b' ∉ text.toList
  identifiers : ∀ name ∈ segs.filterMap Segment.name?, Go.isIdentifier name.toList = true
  distinct : (segs.filterMap Segment.name?).Nodup
  final : ∀ seg ∈ segs.dropLast, seg.isFinal = false

def Accepts (path : String) : Prop :=
  ∃ segs, Reads path segs

end Mux

section Readings

variable {path : String} {segs : List Segment} {seg : Segment}

lemma Segment.eq_literal_of_text (h : '\x7b' ∉ seg.text) : ∃ text, seg = .literal text := by
  cases seg with
  | literal text => exact ⟨text, rfl⟩
  | wildcard name => simp [Segment.text] at h
  | remainder name => simp [Segment.text] at h
  | endMark => simp [Segment.text] at h

lemma not_mem_of_isSound {text : String} (h : (Segment.literal text).IsSound) :
    '\x7b' ∉ text.toList := by
  intro hmem
  have hbrace := List.any_eq_false.mp h '\x7b' hmem
  exact hbrace rfl

lemma Mux.Reads.segments_eq {others : List Segment} (hr : Mux.Reads path segs)
    (hp : Pattern.segments path = .ok others) : segs = others := by
  obtain ⟨hwritten, hwell⟩ := Pattern.segments_eq_ok_iff.mp hp
  have hread : Pattern.segments path = .ok segs := by
    refine Pattern.segments_eq_ok_iff.mpr ⟨hr.written, fun seg hseg => ?_, hr.distinct,
      fun _ _ => List.not_mem_nil, hr.final⟩
    have hname : ∀ name, seg.name? = some name → Pattern.isIdentifier name.toList = true :=
      fun name hn => isIdentifier_of_go
        (hr.identifiers name (List.mem_filterMap.mpr ⟨seg, hseg, hn⟩))
    cases seg with
    | literal text =>
      -- What the other reading has in the place of a literal has no brace either.
      have hmem : text.toList ∈ others.map Segment.text := by
        rw [← hwritten, hr.written]
        exact List.mem_map_of_mem (f := Segment.text) hseg
      obtain ⟨other, ho, htext⟩ := List.mem_map.mp hmem
      have hopen := hr.literal text hseg
      rw [← htext] at hopen
      obtain ⟨_, rfl⟩ := Segment.eq_literal_of_text hopen
      have hsound := hwell.sound _ ho
      rwa [Segment.IsSound, ← htext]
    | wildcard name => exact hname name rfl
    | remainder name => exact hname name rfl
    | endMark => trivial
  rw [hread] at hp
  exact Except.ok.inj hp

lemma Mux.accepts_iff (hp : Pattern.segments path = .ok segs) : Mux.Accepts path ↔
    path.toList.head? = some '/' ∧ Mux.IsClean path ∧
      ∀ name ∈ segs.filterMap Segment.name?, Go.isIdentifier name.toList = true := by
  obtain ⟨hwritten, hwell⟩ := Pattern.segments_eq_ok_iff.mp hp
  constructor
  · rintro ⟨others, hr⟩
    obtain rfl := hr.segments_eq hp
    exact ⟨hr.rooted, hr.clean, hr.identifiers⟩
  · rintro ⟨hroot, hclean, hnames⟩
    exact ⟨segs, hroot, hclean, hwritten, fun text ht => not_mem_of_isSound (hwell.sound _ ht),
      hnames, hwell.distinct, hwell.final⟩

lemma mem_path_of_name {name : String} (hp : Pattern.segments path = .ok segs)
    (hn : name ∈ segs.filterMap Segment.name?) : ∀ c ∈ name.toList, c ∈ path.toList := by
  obtain ⟨hwritten, -⟩ := Pattern.segments_eq_ok_iff.mp hp
  obtain ⟨seg, hseg, hname⟩ := List.mem_filterMap.mp hn
  intro c hc
  have hpiece : seg.text ∈ splitOnChar '/' path.toList := by
    rw [hwritten]
    exact List.mem_map_of_mem hseg
  rw [← intercalate_splitOnChar '/' path.toList]
  exact mem_intercalate_of_mem hpiece (Segment.mem_text_of_name hname c hc)

lemma Mux.accepts_iff_isClean (hp : Pattern.segments path = .ok segs)
    (hroot : path.toList.head? = some '/') (hascii : ∀ c ∈ path.toList, c.toNat < 128) :
    Mux.Accepts path ↔ Mux.IsClean path := by
  obtain ⟨-, hwell⟩ := Pattern.segments_eq_ok_iff.mp hp
  rw [Mux.accepts_iff hp]
  refine ⟨fun h => h.2.1, fun hclean => ⟨hroot, hclean, fun name hn => ?_⟩⟩
  rw [go_isIdentifier_of_ascii fun c hc => hascii c (mem_path_of_name hp hn c hc)]
  obtain ⟨seg, hseg, hname⟩ := List.mem_filterMap.mp hn
  exact Segment.isIdentifier_of_name (hwell.sound seg hseg) hname

end Readings

-- Routes come from the words of decorators and from the text of route lines.
def Route.IsAnnotated (r : Route) : Prop :=
  (∃ method path, Route.ofWords method path = .ok r) ∨
    ∃ line text, Attribute.route line text = .ok r

lemma Route.IsAnnotated.rooted {r : Route} (hr : r.IsAnnotated) :
    r.path.toList.head? = some '/' := by
  rcases hr with ⟨method, path, hr⟩ | ⟨line, text, hr⟩
  · obtain ⟨m, -, hr⟩ := except_bind_eq_ok_iff.mp hr
    dsimp only at hr
    split at hr
    · rename_i hroot
      obtain rfl := Except.ok.inj hr
      exact hroot
    · cases hr
  · rw [Attribute.route] at hr
    split at hr
    · cases hr
    · rename_i path word hw
      obtain ⟨m, -, rfl⟩ := except_map_eq_ok_iff.mp hr
      rw [Attribute.routeWords?] at hw
      split at hw
      · split at hw
        · rename_i hshape
          obtain ⟨rfl, -⟩ := Prod.mk.inj (Option.some.inj hw)
          rw [String.toList_ofList]
          exact hshape.1
        · cases hw
      · cases hw

namespace Framework

variable {f g : Framework} {r : Route} {h : Handler}

theorem bind_accepts_iff (hr : r.IsAnnotated) (hb : f.bind r h = .ok g) :
    ∃ segs, Pattern.segments r.path = .ok segs ∧
      (Mux.Accepts r.path ↔ Mux.IsClean r.path ∧
        ∀ name ∈ segs.filterMap Segment.name?, Go.isIdentifier name.toList = true) ∧
      ((∀ c ∈ r.path.toList, c.toNat < 128) → (Mux.Accepts r.path ↔ Mux.IsClean r.path)) := by
  obtain ⟨key, hk, -, -⟩ := bind_eq_ok_iff.mp hb
  obtain ⟨segs, hp, -⟩ := except_map_eq_ok_iff.mp hk
  refine ⟨segs, hp, ?_, Mux.accepts_iff_isClean hp hr.rooted⟩
  rw [Mux.accepts_iff hp]
  exact and_iff_right hr.rooted

theorem bind_accepts_shelf : ∃ segs, Pattern.segments "/shelves/\x7bid\x7d" = .ok segs ∧
    (Mux.Accepts "/shelves/\x7bid\x7d" ↔ Mux.IsClean "/shelves/\x7bid\x7d" ∧
      ∀ name ∈ segs.filterMap Segment.name?, Go.isIdentifier name.toList = true) ∧
    ((∀ c ∈ "/shelves/\x7bid\x7d".toList, c.toNat < 128) →
      (Mux.Accepts "/shelves/\x7bid\x7d" ↔ Mux.IsClean "/shelves/\x7bid\x7d")) :=
  bind_accepts_iff (f := new .http) (r := ⟨.get, "/shelves/\x7bid\x7d"⟩)
    (h := ⟨"shop/shelf", "shelf", "Read", []⟩)
    (.inl ⟨"GET", "/shelves/\x7bid\x7d", by decide +kernel⟩)
    (bind_eq_ok_iff.mpr ⟨"/shelves/\x7b\x7d", by decide +kernel, rfl, rfl⟩)

/-- A superscript is a digit to the reader of paths, but not to the mux. -/
theorem bind_unacceptable :
    let superscript : Route := ⟨.get, "/\x7bx²\x7d"⟩
    let unclean : Route := ⟨.get, "/a//b"⟩
    let h : Handler := ⟨"shop/shelf", "shelf", "Read", []⟩
    (superscript.IsAnnotated ∧ (∃ g, (new .http).bind superscript h = .ok g) ∧
        ¬Mux.Accepts superscript.path) ∧
      unclean.IsAnnotated ∧ (∃ g, (new .http).bind unclean h = .ok g) ∧
        ¬Mux.Accepts unclean.path := by
  refine ⟨⟨.inl ⟨"GET", "/\x7bx²\x7d", by decide +kernel⟩,
    ⟨_, bind_eq_ok_iff.mpr ⟨"/\x7b\x7d", by decide +kernel, rfl, rfl⟩⟩, ?_⟩,
    .inl ⟨"GET", "/a//b", by decide +kernel⟩,
    ⟨_, bind_eq_ok_iff.mpr ⟨"/a//b", by decide +kernel, rfl, rfl⟩⟩, ?_⟩
  · have hread : Pattern.segments "/\x7bx²\x7d" = .ok [.literal "", .wildcard "x²"] := by
      decide +kernel
    rw [Mux.accepts_iff hread]
    decide +kernel
  · have hread : Pattern.segments "/a//b" =
        .ok [.literal "", .literal "a", .literal "", .literal "b"] := by
      decide +kernel
    rw [Mux.accepts_iff hread]
    decide +kernel

end Framework

end Routewright
