import Routewright.Project.Registration
import Routewright.Proofs.Doc.Recognition
import Routewright.Proofs.Server.Assembly

namespace Routewright

structure Entry where
  kind : FrameworkKind
  handler : Handler
  routes : List Route

def Entry.registered (e : Entry) : Registered :=
  ⟨e.kind, e.handler.qualifiedName, e.routes⟩

def Entry.bindings (e : Entry) : List Binding :=
  e.routes.map fun r => ⟨r, e.handler⟩

namespace Declaration

def isAnnotated (markdown : Option MarkdownDirectory) (d : Declaration) : Bool :=
  match d.function.doc with
  | none => false
  | some lines => lines.any (HandlerDoc.recognizes markdown)

def isWanted (markdown : Option MarkdownDirectory) (kinds : List FrameworkKind)
    (d : Declaration) : Bool :=
  kinds.any (·.serves d.function.signature) && d.isAnnotated markdown

structure Leads (markdown : Option MarkdownDirectory) (kinds : List FrameworkKind)
    (d : Declaration) (e : Entry) : Prop where
  first_kind : ∃ before after, kinds = before ++ e.kind :: after ∧
    e.kind.serves d.function.signature = true ∧
      ∀ kind ∈ before, kind.serves d.function.signature = false
  handler_eq : ∃ lines doc params, d.function.doc = some lines ∧
    HandlerDoc.ofLines markdown lines = .ok doc ∧
      e.kind.describe d.function.signature = .ok params ∧
        e.handler = doc.applySources
          ⟨d.package.importPath, d.package.name, d.function.name, params⟩ ∧
          e.routes = doc.routes
  routes_ne_nil : e.routes ≠ []

end Declaration

namespace Frameworks

lemma serving?_eq_some {frameworks : List Framework} {s : Go.Signature} {f : Framework}
    (h : serving? frameworks s = some f) :
    f ∈ frameworks ∧ f.kind.serves s = true ∧
      ∃ before after, frameworks.map Framework.kind = before ++ f.kind :: after ∧
        ∀ kind ∈ before, kind.serves s = false := by
  obtain ⟨hs, before, after, rfl, hb⟩ := List.find?_eq_some_iff_append.mp h
  refine ⟨by simp, hs, before.map Framework.kind, after.map Framework.kind, by simp, ?_⟩
  intro kind hk
  obtain ⟨g, hg, rfl⟩ := List.mem_map.mp hk
  simpa using hb g hg

end Frameworks

namespace Candidate

variable {frameworks : List Framework} {markdown : Option MarkdownDirectory} {d : Declaration}

lemma ofDoc_eq_ok {f : Framework} {h : Handler} {doc : HandlerDoc} {asked : Option Candidate}
    (ha : ofDoc f h doc = .ok asked) :
    (doc.recognized = false ∧ asked = none) ∨
      (doc.recognized = true ∧ doc.routes ≠ [] ∧
        asked = some ⟨f, doc.applySources h, doc.routes⟩) := by
  rw [ofDoc] at ha
  split at ha
  · rename_i hr
    exact .inl ⟨by simpa using hr, (Except.ok.inj ha).symm⟩
  · rename_i hr
    split at ha
    · cases ha
    · obtain ⟨routes, hroutes, rfl⟩ := except_map_eq_ok_iff.mp ha
      rw [HandlerDoc.routesFor] at hroutes
      split at hroutes
      · cases hroutes
      · rename_i hne
        obtain rfl := Except.ok.inj hroutes
        exact .inr ⟨by simpa using hr, by simpa using hne, rfl⟩

lemma of_eq_ok {asked : Option Candidate} (ho : d.isOffered = true)
    (ha : of frameworks markdown d.package d.function = .ok asked) :
    (asked = none ∧ d.isWanted markdown (frameworks.map Framework.kind) = false) ∨
      ∃ f e, asked = some ⟨f, e.handler, e.routes⟩ ∧ f ∈ frameworks ∧ e.kind = f.kind ∧
        d.isWanted markdown (frameworks.map Framework.kind) = true ∧
          d.Leads markdown (frameworks.map Framework.kind) e := by
  simp only [Declaration.isOffered, Bool.and_eq_true, Bool.not_eq_true'] at ho
  rw [of, if_neg (by simp [ho.1])] at ha
  cases hs : Frameworks.serving? frameworks d.function.signature with
  | none =>
    rw [hs] at ha
    refine .inl ⟨(Except.ok.inj ha).symm, ?_⟩
    have hn : ∀ f ∈ frameworks, f.kind.serves d.function.signature = false := by
      simpa [Frameworks.serving?] using hs
    simpa [Declaration.isWanted] using fun f hf hk => absurd hk (by simp [hn f hf])
  | some f =>
    obtain ⟨hf, hserves, hfirst⟩ := Frameworks.serving?_eq_some hs
    simp only [hs] at ha
    split at ha
    · cases ha
    · rename_i params hp
      split at ha
      · cases ha
      · rename_i lines hl
        split at ha
        · cases ha
        · rename_i doc hd
          have hw : d.isWanted markdown (frameworks.map Framework.kind) = doc.recognized := by
            have hany :
                (frameworks.map Framework.kind).any (·.serves d.function.signature) = true :=
              List.any_eq_true.mpr ⟨f.kind, List.mem_map_of_mem hf, hserves⟩
            rw [Declaration.isWanted, hany, Bool.true_and, HandlerDoc.ofLines_recognized hd]
            simp [Declaration.isAnnotated, hl]
          rcases ofDoc_eq_ok ha with ⟨hr, rfl⟩ | ⟨hr, hne, rfl⟩
          · exact .inl ⟨rfl, hw.trans hr⟩
          · exact .inr ⟨f, ⟨f.kind,
              doc.applySources (Handler.ofFunction d.package d.function params), doc.routes⟩,
              rfl, hf, rfl, hw.trans hr,
              ⟨by obtain ⟨before, after, hk, hb⟩ := hfirst; exact ⟨before, after, hk, hserves, hb⟩,
                ⟨lines, doc, params, hl, hd, hp, rfl, rfl⟩, hne⟩⟩

end Candidate

end Routewright
