import Routewright.Proofs.Server.Assembly

namespace Routewright

namespace Framework

def Declines (f : Framework) (value : ConfigValue) : Prop :=
  f.isConfigured = true ∨ ∃ issue, f.configure value = .error (.value issue)

def refusal? (value : ConfigValue) (f : Framework) : Option (String × ValueIssue) :=
  if f.isConfigured then none
  else
    match f.configure value with
    | .error (.value issue) => some (f.kind.name, issue)
    | _ => none

variable {f g : Framework} {value : ConfigValue}

lemma configure_kind (h : f.configure value = .ok g) : g.kind = f.kind :=
  attempt_kind (c := .configure value) h

lemma isConfigured_of_configure (h : f.configure value = .ok g) :
    f.isConfigured = false ∧ g.isConfigured = true := by
  obtain ⟨_, hnone, addr, _, rfl⟩ := configure_eq_ok_iff.mp h
  exact ⟨by rw [isConfigured, MuxTable.isConfigured, hnone]; rfl, rfl⟩

lemma configure_type (h : f.configure value = .ok g) : value.type = f.kind.configType :=
  (configure_eq_ok_iff.mp h).1

lemma configure_eq_error {failure : Failure} (hf : f.isConfigured = false)
    (h : f.configure value = .error failure) : ∃ issue, failure = .value issue := by
  have ht : f.mux.isConfigured = false := hf
  rw [configure, except_map_eq_error_iff, MuxTable.configure, ht] at h
  split at h
  · exact ⟨_, (Except.error.inj h).symm⟩
  · simp only [Bool.false_eq_true, if_false] at h
    split at h
    · exact ⟨_, (Except.error.inj h).symm⟩
    · cases h

lemma declines_or_configures (f : Framework) (value : ConfigValue) :
    f.Declines value ∨ ∃ g, f.configure value = .ok g := by
  cases hf : f.isConfigured with
  | true => exact .inl (.inl hf)
  | false =>
    cases h : f.configure value with
    | error failure =>
      obtain ⟨issue, rfl⟩ := configure_eq_error hf h
      exact .inl (.inr ⟨issue, h⟩)
    | ok g => exact .inr ⟨g, rfl⟩

end Framework

lemma FrameworkKind.configType_injective : Function.Injective configType := by
  intro kind kind' h
  cases kind with
  | http =>
    cases kind' with
    | http => rfl
    | params => simp [configType] at h
  | params =>
    cases kind' with
    | http => simp [configType] at h
    | params => rfl

namespace Frameworks

inductive Configures (value : ConfigValue) : List Framework → List Framework → Prop
  | here {f g : Framework} {rest : List Framework} (hf : f.isConfigured = false)
      (h : f.configure value = .ok g) : Configures value (f :: rest) (g :: rest)
  | later {f : Framework} {rest after : List Framework} (hf : f.Declines value)
      (h : Configures value rest after) : Configures value (f :: rest) (f :: after)

inductive HandsOut : List Framework → List ConfigValue → List Framework → Prop
  | nil {frameworks : List Framework} : HandsOut frameworks [] frameworks
  | cons {value : ConfigValue} {values : List ConfigValue} {frameworks next after : List Framework}
      (h : Configures value frameworks next) (hs : HandsOut next values after) :
      HandsOut frameworks (value :: values) after

variable {value : ConfigValue} {values values' : List ConfigValue}
  {frameworks frameworks' after : List Framework}

lemma Configures.handOut_eq (h : Configures value frameworks after) :
    handOut value frameworks = .accepted after := by
  induction h with
  | here hf h => simp [handOut, hf, h]
  | later hf _ ih =>
    rcases hf with hf | ⟨issue, hf⟩
    · simp [handOut, hf, ih]
    · simp [handOut, hf, ih]

lemma handOut_of_declined (h : ∀ f ∈ frameworks, f.Declines value) :
    handOut value frameworks = .refused (frameworks.filterMap (Framework.refusal? value)) := by
  induction frameworks with
  | nil => rfl
  | cons f rest ih =>
    obtain ⟨hf, hrest⟩ := List.forall_mem_cons.mp h
    have ih := ih hrest
    cases hc : f.isConfigured with
    | true => simp [handOut, hc, ih, Framework.refusal?]
    | false =>
      rcases hf with hf | ⟨issue, hf⟩
      · rw [hc] at hf
        cases hf
      · simp [handOut, hc, hf, ih, Framework.refusal?]

lemma exists_configures_or_declined (value : ConfigValue) (frameworks : List Framework) :
    (∃ after, Configures value frameworks after) ∨ ∀ f ∈ frameworks, f.Declines value := by
  induction frameworks with
  | nil => exact .inr (by simp)
  | cons f rest ih =>
    rcases f.declines_or_configures value with hf | ⟨g, hg⟩
    · rcases ih with ⟨after, hafter⟩ | hrest
      · exact .inl ⟨f :: after, .later hf hafter⟩
      · exact .inr (List.forall_mem_cons.mpr ⟨hf, hrest⟩)
    · exact .inl ⟨g :: rest, .here (Framework.isConfigured_of_configure hg).1 hg⟩

lemma HandsOut.configureAll_append (h : HandsOut frameworks values after)
    (rest : List ConfigValue) :
    configureAll frameworks (values ++ rest) = configureAll after rest := by
  induction h with
  | nil => rfl
  | cons h _ ih =>
    rw [List.cons_append, configureAll, h.handOut_eq]
    exact ih

lemma HandsOut.configureAll_eq (h : HandsOut frameworks values after) :
    configureAll frameworks values = (.ok (), after) := by
  have hall := h.configureAll_append []
  rwa [List.append_nil] at hall

lemma handsOut_or_declined (frameworks : List Framework) (values : List ConfigValue) :
    (∃ after, HandsOut frameworks values after) ∨
      ∃ done value rest after, values = done ++ value :: rest ∧ HandsOut frameworks done after ∧
        ∀ f ∈ after, f.Declines value := by
  induction values generalizing frameworks with
  | nil => exact .inl ⟨frameworks, .nil⟩
  | cons value values ih =>
    rcases exists_configures_or_declined value frameworks with ⟨next, hnext⟩ | hall
    · rcases ih next with ⟨after, hafter⟩ | ⟨done, value', rest, after, rfl, hafter, hall⟩
      · exact .inl ⟨after, .cons hnext hafter⟩
      · exact .inr ⟨value :: done, value', rest, after, rfl, .cons hnext hafter, hall⟩
    · exact .inr ⟨[], value, values, frameworks, rfl, .nil, hall⟩

lemma configureAll_of_declined {done rest : List ConfigValue} (h : HandsOut frameworks done after)
    (hall : ∀ f ∈ after, f.Declines value) :
    configureAll frameworks (done ++ value :: rest) =
      (.error (.unwantedValue value.type (after.filterMap (Framework.refusal? value))), after) := by
  rw [h.configureAll_append, configureAll, handOut_of_declined hall]

lemma configureAll_eq_ok_iff :
    configureAll frameworks values = (.ok (), after) ↔ HandsOut frameworks values after := by
  refine ⟨fun h => ?_, HandsOut.configureAll_eq⟩
  rcases handsOut_or_declined frameworks values with
    ⟨after', hafter⟩ | ⟨done, value, rest, after', rfl, hafter, hall⟩
  · rw [hafter.configureAll_eq] at h
    obtain rfl := (Prod.mk.inj h).2
    exact hafter
  · rw [configureAll_of_declined hafter hall] at h
    cases h

section Counting

lemma Configures.kinds_eq (h : Configures value frameworks after) :
    after.map Framework.kind = frameworks.map Framework.kind := by
  induction h with
  | here _ h => rw [List.map_cons, List.map_cons, Framework.configure_kind h]
  | later _ _ ih => rw [List.map_cons, List.map_cons, ih]

lemma Configures.countP_eq (h : Configures value frameworks after) :
    after.countP Framework.isConfigured = frameworks.countP Framework.isConfigured + 1 := by
  induction h with
  | here hf h =>
    have hg := (Framework.isConfigured_of_configure h).2
    rw [List.countP_cons_of_pos hg, List.countP_cons_of_neg (by simp [hf])]
  | later _ _ ih =>
    rw [List.countP_cons, List.countP_cons, ih]
    omega

lemma HandsOut.countP_eq (h : HandsOut frameworks values after) :
    after.countP Framework.isConfigured =
      frameworks.countP Framework.isConfigured + values.length := by
  induction h with
  | nil => rfl
  | cons h _ ih =>
    rw [ih, h.countP_eq, List.length_cons]
    omega

end Counting

section Order

lemma replace_cons_of_eq {f g : Framework} {rest : List Framework}
    (hn : ((f :: rest).map Framework.kind).Nodup) (hk : g.kind = f.kind) :
    replace (f :: rest) g = g :: rest := by
  obtain ⟨hnew, -⟩ := List.nodup_cons.mp hn
  have hrest : ∀ x ∈ rest, (if x.kind = g.kind then g else x) = x := by
    intro x hx
    refine if_neg fun hxk => hnew ?_
    rw [← hk, ← hxk]
    exact List.mem_map_of_mem hx
  rw [replace, List.map_cons, if_pos hk.symm, List.map_congr_left hrest, List.map_id']

lemma replace_cons_of_ne {f g : Framework} (hk : f.kind ≠ g.kind) (rest : List Framework) :
    replace (f :: rest) g = f :: replace rest g := by
  rw [replace, List.map_cons, if_neg hk]
  rfl

lemma configures_iff (hn : (frameworks.map Framework.kind).Nodup) :
    Configures value frameworks after ↔
      ∃ f ∈ frameworks, ∃ g, f.configure value = .ok g ∧ after = replace frameworks g := by
  constructor
  · intro h
    induction h with
    | @here f g rest hf h =>
      exact ⟨f, List.mem_cons_self, g, h, (replace_cons_of_eq hn (Framework.configure_kind h)).symm⟩
    | @later f rest after hf h ih =>
      obtain ⟨hnew, hn⟩ := List.nodup_cons.mp hn
      obtain ⟨f', hf', g, hg, rfl⟩ := ih hn
      refine ⟨f', List.mem_cons_of_mem f hf', g, hg,
        (replace_cons_of_ne (fun hk => hnew ?_) _).symm⟩
      rw [hk, Framework.configure_kind hg]
      exact List.mem_map_of_mem hf'
  · rintro ⟨f, hf, g, hg, rfl⟩
    have hkind := Framework.configure_kind hg
    induction frameworks with
    | nil => cases hf
    | cons x rest ih =>
      rcases List.mem_cons.mp hf with rfl | hf
      · rw [replace_cons_of_eq hn hkind]
        exact .here (Framework.isConfigured_of_configure hg).1 hg
      · obtain ⟨hnew, hn⟩ := List.nodup_cons.mp hn
        have hk : x.kind ≠ f.kind := fun hk => hnew (hk ▸ List.mem_map_of_mem hf)
        rw [replace_cons_of_ne (hkind ▸ hk)]
        refine .later ((x.declines_or_configures value).resolve_right ?_) (ih hn hf)
        rintro ⟨g', hg'⟩
        refine hk (FrameworkKind.configType_injective ?_)
        rw [← Framework.configure_type hg, ← Framework.configure_type hg']

lemma replace_comm {g g' : Framework} (hk : g.kind ≠ g'.kind) (frameworks : List Framework) :
    replace (replace frameworks g) g' = replace (replace frameworks g') g := by
  rw [replace, replace, replace, replace, List.map_map, List.map_map]
  refine List.map_congr_left fun f _ => ?_
  by_cases hf : f.kind = g.kind
  · have hf' : f.kind ≠ g'.kind := hf ▸ hk
    simp [hf, hk]
  · by_cases hf' : f.kind = g'.kind
    · simp [hf', Ne.symm hk]
    · simp [hf, hf']

lemma Configures.swap {value' : ConfigValue} {next : List Framework}
    (hn : (frameworks.map Framework.kind).Nodup) (h : Configures value frameworks next)
    (h' : Configures value' next after) :
    ∃ next', Configures value' frameworks next' ∧ Configures value next' after := by
  have hnext : (next.map Framework.kind).Nodup := h.kinds_eq ▸ hn
  obtain ⟨f, hf, g, hg, rfl⟩ := (configures_iff hn).mp h
  obtain ⟨f', hf', g', hg', rfl⟩ := (configures_iff hnext).mp h'
  -- The first value has configured its framework, which declines the second one.
  obtain ⟨x, hx, hxf⟩ := List.mem_map.mp hf'
  have hfree := (Framework.isConfigured_of_configure hg').1
  have hne : x.kind ≠ g.kind := by
    intro hk
    rw [if_pos hk] at hxf
    rw [← hxf, (Framework.isConfigured_of_configure hg).2] at hfree
    cases hfree
  rw [if_neg hne] at hxf
  subst hxf
  have hkinds : g.kind ≠ g'.kind := by
    rw [Framework.configure_kind hg']
    exact hne.symm
  have hfirst : Configures value' frameworks (replace frameworks g') :=
    (configures_iff hn).mpr ⟨x, hx, g', hg', rfl⟩
  refine ⟨replace frameworks g', hfirst, (configures_iff (hfirst.kinds_eq ▸ hn)).mpr
    ⟨f, List.mem_map.mpr ⟨f, hf, if_neg ?_⟩, g, hg, replace_comm hkinds frameworks⟩⟩
  rw [← Framework.configure_kind hg]
  exact hkinds

lemma HandsOut.perm_values (hn : (frameworks.map Framework.kind).Nodup)
    (h : HandsOut frameworks values after) (hp : values.Perm values') :
    HandsOut frameworks values' after := by
  induction hp generalizing frameworks with
  | nil => exact h
  | cons value _ ih =>
    cases h with
    | cons h hs => exact .cons h (ih (h.kinds_eq ▸ hn) hs)
  | swap value value' values =>
    cases h with
    | cons h hs =>
      cases hs with
      | cons h' hs =>
        obtain ⟨next, hfirst, hsecond⟩ := h.swap hn h'
        exact .cons hfirst (.cons hsecond hs)
  | trans _ _ ih ih' => exact ih' hn (ih hn h)

lemma HandsOut.perm_frameworks (hn : (frameworks.map Framework.kind).Nodup)
    (h : HandsOut frameworks values after) (hp : frameworks.Perm frameworks') :
    ∃ after', HandsOut frameworks' values after' ∧ after.Perm after' := by
  induction h generalizing frameworks' with
  | nil => exact ⟨frameworks', .nil, hp⟩
  | @cons value values frameworks next after h _ ih =>
    have hnext : (next.map Framework.kind).Nodup := h.kinds_eq ▸ hn
    have hn' : (frameworks'.map Framework.kind).Nodup := (hp.map _).nodup_iff.mp hn
    obtain ⟨f, hf, g, hg, rfl⟩ := (configures_iff hn).mp h
    obtain ⟨after', hafter, hperm⟩ := ih hnext (hp.map _)
    exact ⟨after', .cons ((configures_iff hn').mpr ⟨f, hp.mem_iff.mp hf, g, hg, rfl⟩) hafter, hperm⟩

end Order

theorem configureAll_handsOut (hb : Built frameworks) (values : List ConfigValue) :
    let outcome := configureAll frameworks values
    (outcome.1 = .ok () → HandsOut frameworks values outcome.2 ∧
        outcome.2.countP Framework.isConfigured =
          frameworks.countP Framework.isConfigured + values.length) ∧
      (∀ failure, outcome.1 = .error failure → ∃ done value rest, values = done ++ value :: rest ∧
        HandsOut frameworks done outcome.2 ∧ (∀ f ∈ outcome.2, f.Declines value) ∧
          failure = .unwantedValue value.type
            (outcome.2.filterMap (Framework.refusal? value))) ∧
      (∀ values', values.Perm values' →
        let other := configureAll frameworks values'
        (outcome.1 = .ok () ↔ other.1 = .ok ()) ∧ (outcome.1 = .ok () → outcome.2 = other.2)) ∧
      ∀ frameworks', frameworks.Perm frameworks' →
        let other := configureAll frameworks' values
        (outcome.1 = .ok () ↔ other.1 = .ok ()) ∧
          (outcome.1 = .ok () → outcome.2.Perm other.2) := by
  intro outcome
  have hn := hb.kinds_nodup
  have hok : ∀ {fs : List Framework} {vs : List ConfigValue},
      (configureAll fs vs).1 = .ok () → HandsOut fs vs (configureAll fs vs).2 :=
    fun h => configureAll_eq_ok_iff.mp (Prod.ext h rfl)
  refine ⟨fun h => ⟨hok h, (hok h).countP_eq⟩, fun failure h => ?_, fun values' hp => ?_,
    fun frameworks' hp => ?_⟩
  · rcases handsOut_or_declined frameworks values with
      ⟨after, hafter⟩ | ⟨done, value, rest, after, rfl, hafter, hall⟩
    · have hresult : outcome = (.ok (), after) := hafter.configureAll_eq
      rw [hresult] at h
      cases h
    · have hresult : outcome = _ := configureAll_of_declined hafter hall
      rw [hresult] at h ⊢
      exact ⟨done, value, rest, rfl, hafter, hall, (Except.error.inj h).symm⟩
  · intro other
    have hsame : outcome.1 = .ok () → other = (.ok (), outcome.2) := fun h =>
      ((hok h).perm_values hn hp).configureAll_eq
    refine ⟨⟨fun h => by rw [hsame h], fun h => ?_⟩, fun h => by rw [hsame h]⟩
    exact congrArg Prod.fst ((hok h).perm_values hn hp.symm).configureAll_eq
  · intro other
    have hn' : (frameworks'.map Framework.kind).Nodup := (hp.map _).nodup_iff.mp hn
    have hsame : outcome.1 = .ok () → ∃ after', other = (.ok (), after') ∧
        outcome.2.Perm after' := fun h => by
      obtain ⟨after', hafter, hperm⟩ := (hok h).perm_frameworks hn hp
      exact ⟨after', hafter.configureAll_eq, hperm⟩
    refine ⟨⟨fun h => ?_, fun h => ?_⟩, fun h => ?_⟩
    · obtain ⟨after', hother, -⟩ := hsame h
      rw [hother]
    · obtain ⟨after', hafter, -⟩ := (hok h).perm_frameworks hn' hp.symm
      exact congrArg Prod.fst hafter.configureAll_eq
    · obtain ⟨after', hother, hperm⟩ := hsame h
      rwa [hother]

theorem configureAll_sample :
    let frameworks : List Framework := [.new .http, .new .params]
    let http : ConfigValue := ⟨some "frameworks", "HttpConfig", [("Addr", "\":9000\"")]⟩
    let params : ConfigValue := ⟨none, "ParamsConfig", []⟩
    let after := (configureAll frameworks [params, http]).2
    HandsOut frameworks [params, http] after ∧
      after.map (fun f => f.mux.addr) = [some ":9000", some ":8001"] ∧
        after = (configureAll frameworks [http, params]).2 := by
  intro frameworks http params after
  have hb : Built frameworks := @Built.fresh ["http", "params"] _ rfl
  have hok : (configureAll frameworks [params, http]).1 = .ok () := by
    decide +kernel
  obtain ⟨hsuccess, -, hvalues, -⟩ := configureAll_handsOut hb [params, http]
  refine ⟨(hsuccess hok).1, by decide +kernel, (hvalues [http, params] ?_).2 hok⟩
  exact .swap _ _ _

end Frameworks

end Routewright
