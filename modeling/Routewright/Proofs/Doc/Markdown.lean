import Routewright.Proofs.Doc.Update
import Routewright.Proofs.Search
import Routewright.Proofs.Text.Utf8

/-! The file that a description is taken from. Of the regular files whose names hold `.md` and the tag
it is the first in the order of the bytes of names; whether its name ends in `.md` is not asked. -/

namespace Routewright

open Text

namespace MarkdownDirectory

def Mentions (tag name : String) : Prop :=
  ".md".toList <:+: name.toList ∧ tag.toList <:+: name.toList

def IsMarkdownFor (tag name : String) : Prop :=
  ".md".toList <:+ name.toList ∧ tag.toList <:+: name.toList

instance (tag name : String) : Decidable (IsMarkdownFor tag name) :=
  inferInstanceAs (Decidable (".md".toList <:+ name.toList ∧ tag.toList <:+: name.toList))

def IsCandidate (wanted : String → Prop) (entries : Dict (Option ByteArray)) (name : String) :
    Prop :=
  wanted name ∧ ∃ content, entries.get? name = some (some content)

/-- Whether a regular file is the first, in the order of the bytes of names, of those whose names are
wanted. -/
structure IsFirstFile (wanted : String → Prop) (entries : Dict (Option ByteArray)) (name : String)
    (content : ByteArray) : Prop where
  first : IsFirst (fun x y => bytes x < bytes y) (IsCandidate wanted entries) name
  content_eq : entries.get? name = some (some content)

variable {wanted : String → Prop} {entries entries' : Dict (Option ByteArray)}
  {path tag name name' : String} {content content' : ByteArray}

lemma answers_iff : answers tag name = true ↔ Mentions tag name := by
  rw [answers, Bool.and_eq_true, contains_iff_infix, contains_iff_infix, Mentions]

lemma IsMarkdownFor.mentions (h : IsMarkdownFor tag name) : Mentions tag name :=
  ⟨h.1.isInfix, h.2⟩

lemma IsFirstFile.name_wanted (h : IsFirstFile wanted entries name content) : wanted name :=
  h.first.1.1

lemma IsFirstFile.imp {wanted' : String → Prop} (h : IsFirstFile wanted entries name content)
    (hname : wanted' name) (himp : ∀ other, wanted' other → wanted other) :
    IsFirstFile wanted' entries name content where
  first := ⟨⟨hname, content, h.content_eq⟩,
    fun other hother => h.first.2 other ⟨himp other hother.1, hother.2⟩⟩
  content_eq := h.content_eq

lemma IsFirstFile.content_unique (h : IsFirstFile wanted entries name content)
    (h' : IsFirstFile wanted entries name' content') : content = content' := by
  obtain rfl := h.first.unique (fun _ _ => List.lt_asymm) h'.first
  exact Option.some.inj (Option.some.inj (h.content_eq.symm.trans h'.content_eq))

lemma IsFirstFile.congr
    (hsame : ∀ name, wanted name → (entries.get? name).join = (entries'.get? name).join)
    (h : IsFirstFile wanted entries name content) : IsFirstFile wanted entries' name content := by
  have hregular : ∀ name, wanted name → ∀ content,
      entries.get? name = some (some content) ↔ entries'.get? name = some (some content) := by
    intro name hname content
    rw [← Option.join_eq_some_iff, hsame name hname, Option.join_eq_some_iff]
  have hname := h.name_wanted
  have hcontent := (hregular name hname content).mp h.content_eq
  refine ⟨⟨⟨hname, content, hcontent⟩, ?_⟩, hcontent⟩
  rintro other ⟨hother, content', hcontent'⟩
  exact h.first.2 other ⟨hother, content', (hregular other hother content').mpr hcontent'⟩

def found? (tag : String) (e : String × Option ByteArray) : Option (String × ByteArray) :=
  match e.2 with
  | some content => if answers tag e.1 then some (e.1, content) else none
  | none => none

lemma found?_eq_some_iff {e : String × Option ByteArray} :
    found? tag e = some (name, content) ↔ e = (name, some content) ∧ Mentions tag name := by
  obtain ⟨other, content?⟩ := e
  rw [found?]
  cases content? with
  | none => simp
  | some content' =>
    dsimp only
    split_ifs with hanswers
    · rw [Option.some.injEq, Prod.mk.injEq, Prod.mk.injEq, Option.some.injEq]
      refine ⟨fun h => ⟨h, h.1 ▸ answers_iff.mp hanswers⟩, And.left⟩
    · refine iff_of_false nofun ?_
      rintro ⟨heq, hmentions⟩
      rw [(Prod.mk.inj heq).1] at hanswers
      exact hanswers (answers_iff.mpr hmentions)

lemma found?_of_mentions (h : Mentions tag name) (content : ByteArray) :
    found? tag (name, some content) = some (name, content) :=
  found?_eq_some_iff.mpr ⟨rfl, h⟩

lemma fileFor?_eq_some_iff : fileFor? tag entries = some (name, content) ↔
    IsFirstFile (Mentions tag) entries name content := by
  have hsearch : fileFor? tag entries = entries.entries.findSome? (found? tag) := rfl
  -- The entries are sorted by name, and names are in the order of their bytes.
  rw [hsearch, findSome?_eq_some_iff_isFirst (fun _ _ => String.lt_asymm) entries.sorted]
  constructor
  · rintro ⟨e, ⟨⟨hmem, -⟩, hfirst⟩, hfound⟩
    obtain ⟨rfl, hname⟩ := found?_eq_some_iff.mp hfound
    have hcontent := (Dict.mem_entries_iff ..).mp hmem
    refine ⟨⟨⟨hname, content, hcontent⟩, ?_⟩, hcontent⟩
    rintro other ⟨hother, content', hcontent'⟩
    have hmem' := (Dict.mem_entries_iff ..).mpr hcontent'
    exact (hfirst _ ⟨hmem', _, found?_of_mentions hother content'⟩).imp (congrArg Prod.fst)
      bytes_lt_iff.mpr
  · rintro ⟨⟨⟨hname, -⟩, hfirst⟩, hcontent⟩
    have hfound := found?_of_mentions hname content
    refine ⟨(name, some content),
      ⟨⟨(Dict.mem_entries_iff ..).mpr hcontent, _, hfound⟩, ?_⟩, hfound⟩
    rintro e ⟨hmem, ⟨other, content'⟩, hother⟩
    obtain ⟨rfl, hwanted⟩ := found?_eq_some_iff.mp hother
    have hcontent' := (Dict.mem_entries_iff ..).mp hmem
    rcases hfirst other ⟨hwanted, content', hcontent'⟩ with rfl | hlt
    · exact .inl (Prod.ext rfl (Option.some.inj (hcontent'.symm.trans hcontent)))
    · exact .inr (bytes_lt_iff.mp hlt)

lemma fileFor?_eq_none_iff : fileFor? tag entries = none ↔
    ∀ name content, entries.get? name = some (some content) → ¬Mentions tag name := by
  have hsearch : fileFor? tag entries = entries.entries.findSome? (found? tag) := rfl
  rw [hsearch, List.findSome?_eq_none_iff]
  constructor
  · intro h name content hname hmentions
    have hskipped := h _ ((Dict.mem_entries_iff ..).mpr hname)
    rw [found?_of_mentions hmentions] at hskipped
    cases hskipped
  · intro h e he
    by_contra hfound
    obtain ⟨⟨name, content⟩, hsome⟩ := Option.ne_none_iff_exists'.mp hfound
    obtain ⟨rfl, hmentions⟩ := found?_eq_some_iff.mp hsome
    exact h name content ((Dict.mem_entries_iff ..).mp he) hmentions

lemma textFor_eq_ok_iff {text : String} : textFor (some ⟨path, .ok entries⟩) tag = .ok text ↔
    ∃ name, IsFirstFile (Mentions tag) entries name text.toUTF8 := by
  rw [textFor]
  dsimp only
  cases hfile : fileFor? tag entries with
  | none =>
    refine iff_of_false nofun ?_
    rintro ⟨name, h⟩
    exact fileFor?_eq_none_iff.mp hfile name _ h.content_eq h.name_wanted
  | some file =>
    obtain ⟨name, content⟩ := file
    have hfirst := fileFor?_eq_some_iff.mp hfile
    have hvalid : (∃ name, IsFirstFile (Mentions tag) entries name text.toUTF8) ↔
        Utf8.decode? content = some text := by
      rw [Utf8.decode?_eq_some_iff]
      refine ⟨fun ⟨other, h⟩ => hfirst.content_unique h, fun h => ⟨name, h ▸ hfirst⟩⟩
    rw [hvalid]
    dsimp only
    cases Utf8.decode? content with
    | none => exact iff_of_false nofun nofun
    | some found => rw [Except.ok.injEq, Option.some.injEq]

lemma exists_error_textFor_iff : (∃ issue, textFor (some ⟨path, .ok entries⟩) tag = .error issue) ↔
    (∀ name content, entries.get? name = some (some content) → ¬Mentions tag name) ∨
      ∃ name content, IsFirstFile (Mentions tag) entries name content ∧
        ∀ text : String, content ≠ text.toUTF8 := by
  cases htext : textFor (some ⟨path, .ok entries⟩) tag with
  | error issue =>
    refine iff_of_true ⟨issue, rfl⟩ ?_
    cases hfile : fileFor? tag entries with
    | none => exact .inl (fileFor?_eq_none_iff.mp hfile)
    | some file =>
      have hfirst := fileFor?_eq_some_iff.mp hfile
      refine .inr ⟨file.1, file.2, hfirst, fun text heq => ?_⟩
      rw [textFor_eq_ok_iff.mpr ⟨file.1, heq ▸ hfirst⟩] at htext
      cases htext
  | ok text =>
    obtain ⟨name, hfirst⟩ := textFor_eq_ok_iff.mp htext
    refine iff_of_false nofun ?_
    rintro (hnone | ⟨other, content, h, hinvalid⟩)
    · exact hnone name _ hfirst.content_eq hfirst.name_wanted
    · exact hinvalid text (h.content_unique hfirst)

lemma textFor_congr
    (hsame : ∀ name, Mentions tag name → (entries.get? name).join = (entries'.get? name).join) :
    textFor (some ⟨path, .ok entries⟩) tag = textFor (some ⟨path, .ok entries'⟩) tag := by
  have hfile : fileFor? tag entries = fileFor? tag entries' := by
    ext ⟨name, content⟩
    rw [fileFor?_eq_some_iff, fileFor?_eq_some_iff]
    exact ⟨.congr hsame, .congr fun name hname => (hsame name hname).symm⟩
  rw [textFor, textFor]
  dsimp only
  rw [hfile]

end MarkdownDirectory

namespace Attribute

lemma parts?_of_trim {comment : String} {name text r : List Char}
    (h : trim (comment.toList.dropWhile (· == '/')) = '@' :: r)
    (hfields : fields 2 ('@' :: r) = if text = [] then ['@' :: name] else ['@' :: name, text]) :
    parts? comment =
      some ⟨.ofList ('@' :: r), .ofList (lowercase name), .ofList name, text⟩ := by
  rw [parts?, h]
  split_ifs at hfields with hempty <;> simp [hfields, hempty]

lemma parts?_line {name : String} (hname : ∀ c ∈ name.toList, isBlank c = false) (text : String) :
    ∃ whole, parts? (line name text) =
      some ⟨whole, .ofList (lowercase name.toList), name, trim text.toList⟩ := by
  have hfield : IsField ('@' :: name.toList) :=
    ⟨List.cons_ne_nil _ _, List.forall_mem_cons.mpr ⟨by decide, hname⟩⟩
  by_cases hempty : text = ""
  · have htrim : trim ((line name text).toList.dropWhile (· == '/')) = '@' :: name.toList := by
      rw [line, if_pos hempty, String.toList_append]
      exact hfield.trim_eq
    have hfields : fields 2 ('@' :: name.toList) = if trim text.toList = [] then ['@' :: name.toList]
        else ['@' :: name.toList, trim text.toList] := by
      rw [hfield.fields_two_self, hempty]
      rfl
    have hparts := parts?_of_trim htrim hfields
    rw [String.ofList_toList] at hparts
    exact ⟨_, hparts⟩
  · obtain ⟨rest, hrest, hfields⟩ := hfield.exists_trim_eq text.toList
    have htrim : trim ((line name text).toList.dropWhile (· == '/')) =
        '@' :: (name.toList ++ rest) := by
      rw [line, if_neg hempty, String.toList_append, String.toList_append, String.toList_append,
        List.append_assoc, List.append_assoc]
      exact hrest
    have hparts := parts?_of_trim htrim hfields
    rw [String.ofList_toList] at hparts
    exact ⟨_, hparts⟩

end Attribute

namespace Operation

open Attribute MarkdownDirectory

lemma readInPlace_markdown_eq (tag : String) :
    ∃ whole, ∀ op markdown, readInPlace markdown op (line "Description.markdown" tag) =
      match textFor markdown (trimmed tag) with
      | .error issue => (.error (.comment none whole (.markdown issue)), op)
      | .ok text => (.ok true, op.apply (.describe text)) := by
  have hlower : lowercase "Description.markdown".toList = "description.markdown".toList := by
    decide +kernel
  obtain ⟨whole, hparts⟩ := @parts?_line "Description.markdown" (by decide) tag
  refine ⟨whole, fun op markdown => ?_⟩
  have hchange : change markdown whole "description.markdown" "Description.markdown"
      (trim tag.toList) = checked whole .describe
        ((textFor markdown (trimmed tag)).mapError .markdown) := rfl
  rw [readInPlace_eq, ofLine_eq, hparts, hlower, String.ofList_toList]
  dsimp only
  rw [hchange]
  cases textFor markdown (trimmed tag) <;> rfl

/-- The description goes on with the text of the first regular file whose name has `.md` and the tag
in it, and the line is refused if there is none or it is not UTF-8. This is the first markdown file
for the tag exactly if its name ends in `.md`. No other file counts. -/
theorem readInPlace_markdown (op : Operation) (path tag : String)
    (entries : Dict (Option ByteArray)) :
    let read := fun entries =>
      op.readInPlace (some ⟨path, .ok entries⟩) (line "Description.markdown" tag)
    (∀ name text, IsFirstFile (Mentions (trimmed tag)) entries name text.toUTF8 →
      read entries = (.ok true, { op with
        description := if op.description = "" then text else op.description ++ "\n" ++ text })) ∧
    ((∃ failure, read entries = (.error failure, op)) ↔
      (∀ name content, entries.get? name = some (some content) → ¬Mentions (trimmed tag) name) ∨
      ∃ name content, IsFirstFile (Mentions (trimmed tag)) entries name content ∧
        ∀ text : String, content ≠ text.toUTF8) ∧
    (∀ name content, IsFirstFile (Mentions (trimmed tag)) entries name content →
      (IsFirstFile (IsMarkdownFor (trimmed tag)) entries name content ↔
        ".md".toList <:+ name.toList)) ∧
    (∀ entries', (∀ name, Mentions (trimmed tag) name →
      (entries'.get? name).join = (entries.get? name).join) → read entries' = read entries) := by
  intro read
  obtain ⟨whole, hwhole⟩ := readInPlace_markdown_eq tag
  have hread : ∀ entries, read entries =
      match textFor (some ⟨path, .ok entries⟩) (trimmed tag) with
      | .error issue => (.error (.comment none whole (.markdown issue)), op)
      | .ok text => (.ok true, op.apply (.describe text)) := fun entries => hwhole op _
  refine ⟨fun name text hfirst => ?_, ?_, fun name content hfirst => ?_, fun entries' hsame => ?_⟩
  · rw [hread, textFor_eq_ok_iff.mpr ⟨name, hfirst⟩]
    rfl
  · rw [← @exists_error_textFor_iff entries path (trimmed tag), hread]
    cases textFor (some ⟨path, .ok entries⟩) (trimmed tag) with
    | error issue => exact iff_of_true ⟨_, rfl⟩ ⟨_, rfl⟩
    | ok text => exact iff_of_false nofun nofun
  · refine ⟨fun h => h.name_wanted.1, fun hend => ?_⟩
    exact hfirst.imp ⟨hend, hfirst.name_wanted.2⟩ fun other hother => hother.mentions
  · rw [hread, hread, textFor_congr hsame]

def catFiles : Dict (Option ByteArray) :=
  .ofList [("cats.md", none), ("cats.txt", some "text".toUTF8), ("my-cats.md", some "purr".toUTF8),
    ("your-cats.md", some ⟨#[0xff]⟩)]

theorem readInPlace_markdown_cats :
    IsFirstFile (Mentions "cats") catFiles "my-cats.md" "purr".toUTF8 ∧
    readInPlace (some ⟨"docs", .ok catFiles⟩) { description := "Cats" }
      "@Description.markdown  cats" = (.ok true, { description := "Cats\npurr" }) := by
  have hfirst : IsFirstFile (Mentions "cats") catFiles "my-cats.md" "purr".toUTF8 :=
    fileFor?_eq_some_iff.mp (by decide +kernel)
  exact ⟨hfirst,
    (readInPlace_markdown { description := "Cats" } "docs" " cats" catFiles).1 _ _ hfirst⟩

def backedUpFiles : Dict (Option ByteArray) :=
  .ofList [("notes.md.bak", some "old".toUTF8), ("notes_v2.md", some "new".toUTF8)]

theorem readInPlace_markdown_takes_backup :
    IsFirstFile (IsMarkdownFor "notes") backedUpFiles "notes_v2.md" "new".toUTF8 ∧
    (readInPlace (some ⟨"docs", .ok backedUpFiles⟩) {} "@Description.markdown notes").2.description =
      "old" := by
  have hentries : backedUpFiles.entries =
      [("notes.md.bak", some "old".toUTF8), ("notes_v2.md", some "new".toUTF8)] := by
    decide +kernel
  have hnew : backedUpFiles.get? "notes_v2.md" = some (some "new".toUTF8) := by
    decide +kernel
  refine ⟨⟨⟨⟨by decide, _, hnew⟩, ?_⟩, hnew⟩, by decide +kernel⟩
  rintro other ⟨hwanted, content, hcontent⟩
  have hmem := (Dict.mem_entries_iff ..).mpr hcontent
  rw [hentries] at hmem
  rcases List.mem_cons.mp hmem with hbackup | hmarkdown
  · rw [(Prod.mk.inj hbackup).1] at hwanted
    exact absurd hwanted.1 (by decide)
  · exact .inl (Prod.mk.inj (List.mem_singleton.mp hmarkdown)).1

end Operation

end Routewright
