import FeatureDocs.Proofs.Json
import FeatureDocs.Proofs.Precedence

/-!
# Settings without a key twice

What merging does is said of settings in which no mapping has a key twice. All settings are like
that if the data is that they are from (`Config.distinct_load`), and data that is read from JSON is
(`Config.Readers.distinct_standard`).
-/

namespace FeatureDocs

namespace Value

variable {base entries : Section} {v : Value}

lemma Distinct.insert (h : (Value.mapping base).Distinct) (k : Key) (hv : v.Distinct) :
    (Value.mapping (Mapping.insert base k v)).Distinct := by
  refine .mapping (h.keys.insert k v) fun e he => ?_
  rcases Mapping.mem_of_mem_insert he with hmem | heq
  · exact h.of_mem hmem
  · exact heq ▸ hv

/-- Laying entries over a mapping brings no key in twice. -/
lemma Distinct.layOver {f : Option Value → Value → Value} (h : (Value.mapping base).Distinct)
    (hf : ∀ e ∈ entries, ∀ lower, (∀ w ∈ lower, w.Distinct) → (f lower e.2).Distinct) :
    (Value.mapping (Mapping.layOver f base entries)).Distinct := by
  induction entries generalizing base with
  | nil => exact h
  | cons e entries ih =>
    obtain ⟨he, hf⟩ := List.forall_mem_cons.mp hf
    rw [Mapping.layOver_cons]
    exact ih (h.insert e.1 (he _ fun w hw => h.of_get? hw)) hf

lemma ofJson_ofMembers (members : List (Text × Json)) :
    ofJson.ofMembers members = members.map fun m => (.text m.1, ofJson m.2) := by
  induction members with
  | nil => rfl
  | cons m members ih =>
    obtain ⟨name, j⟩ := m
    rw [ofJson.ofMembers, ih, List.map_cons]

/-- A document has distinct keys once its mappings are built entry by entry. -/
lemma distinct_ofJson (j : Json) : (ofJson j).Distinct := by
  induction j using Json.partsInduction with
  | object members ih =>
    rw [ofJson, ofJson_ofMembers]
    refine distinct_nil.layOver (f := fun _ v => v) ?_
    intro e he lower _
    obtain ⟨m, hm, rfl⟩ := List.mem_map.mp he
    exact ih m hm
  | _ => exact .leaf rfl

end Value

namespace Config

/-- Data that is read from a text has no key twice. -/
def Readers.Distinct (rs : Readers) : Prop := ∀ t v, rs.data t = .ok v → v.Distinct

/-- An object that is read from JSON has its last member of each name. -/
theorem Readers.distinct_standard : Readers.standard.Distinct := by
  intro t v h
  replace h : readData t = .ok v := h
  rw [readData] at h
  split at h
  · obtain rfl := Except.ok.inj h
    exact .leaf rfl
  · split at h
    · obtain rfl := Except.ok.inj h
      exact Value.distinct_ofJson _
    · cases h

/-- Data that is in files already has no key twice. -/
def DistinctData (t : Tree) : Prop :=
  ∀ path v, t.content path = .ok (.data v) → v.Distinct

/-- What a file holds has distinct keys, when the reader keeps them so. -/
lemma distinct_of_value {rs : Readers} {c : Content} {v : Value} (hrs : rs.Distinct)
    (hc : ∀ w, c = .data w → w.Distinct) (h : c.value rs.data = .ok v) : v.Distinct := by
  cases c with
  | data w =>
    obtain rfl := Except.ok.inj h
    exact hc w rfl
  | bytes bs =>
    rw [Content.value] at h
    split at h
    · cases h
    · exact hrs _ _ h
  | _ => cases h

lemma distinct_of_readData {rs : Readers} {t : Tree} (hrs : rs.Distinct) (ht : DistinctData t)
    {p : Path} {v : Value} (h : t.readData rs.data p = .ok v) : v.Distinct := by
  rw [Tree.readData, Tree.readAs] at h
  split at h
  · cases h
  · next c hcontent =>
    cases hvalue : c.value rs.data with
    | error e =>
      rw [hvalue] at h
      cases h
    | ok w =>
      rw [hvalue] at h
      obtain rfl : w = v := Except.ok.inj h
      exact distinct_of_value hrs (fun u hu => ht _ u (hu ▸ hcontent)) hvalue

lemma distinct_of_readData? {rs : Readers} {t : Tree} (hrs : rs.Distinct) (ht : DistinctData t)
    {p : Path} {v : Value} (h : t.readData? rs.data p = .ok (some v)) : v.Distinct := by
  rw [Tree.readData?] at h
  split at h
  · cases h
  · cases h
  · cases hread : t.readData rs.data p with
    | error e =>
      rw [hread] at h
      cases h
    | ok w =>
      rw [hread] at h
      obtain rfl : w = v := Option.some.inj (Except.ok.inj h)
      exact distinct_of_readData hrs ht hread

variable {base upper layer : Section} {lower : Option Value} {v : Value}

/-! ### Layers -/

lemma distinct_mergeBase (h : ∀ w ∈ lower, w.Distinct) :
    (Value.mapping (mergeBase lower)).Distinct := by
  rcases lower with _ | w
  · exact Value.distinct_nil
  · cases hw : w.section? with
    | none =>
      rw [mergeBase, Option.bind_some, hw]
      exact Value.distinct_nil
    | some m =>
      obtain rfl := Value.eq_mapping_of_section? hw
      exact h _ rfl

lemma distinct_mergeValue (hv : v.Distinct) (h : ∀ w ∈ lower, w.Distinct) :
    (mergeValue lower v).Distinct := by
  induction hv generalizing lower with
  | leaf hsection =>
    rw [mergeValue_of_section?_eq_none hsection]
    exact .leaf hsection
  | mapping hkeys hvalues ih =>
    rw [mergeValue_mapping, merge_eq_layOver]
    exact (distinct_mergeBase h).layOver fun e he _ hlower => ih e he hlower

lemma distinct_merge (hbase : (Value.mapping base).Distinct)
    (hupper : (Value.mapping upper).Distinct) : (Value.mapping (merge base upper)).Distinct := by
  rw [merge_eq_layOver]
  exact hbase.layOver fun e he _ hlower => distinct_mergeValue (hupper.of_mem he) hlower

lemma distinct_overrideValue (hv : v.Distinct) (h : ∀ w ∈ lower, w.Distinct) :
    (overrideValue lower v).Distinct := by
  unfold overrideValue
  split
  · next m entries => exact (h _ rfl).layOver (f := fun _ v => v) fun e he _ _ => hv.of_mem he
  · exact hv

lemma distinct_override (hbase : (Value.mapping base).Distinct)
    (hupper : (Value.mapping upper).Distinct) :
    (Value.mapping (override base upper)).Distinct :=
  hbase.layOver fun _ he _ hlower => distinct_overrideValue (hupper.of_mem he) hlower

/-- Expanding keeps keys distinct, because it leaves the keys alone. -/
lemma distinct_expand (env : Environment) (h : v.Distinct) : (expand env v).Distinct := by
  induction h with
  | @leaf v hsection =>
    cases v with
    | mapping entries => cases hsection
    | _ => exact .leaf rfl
  | @mapping entries hkeys hvalues ih =>
    rw [expand, expandEntries_eq_map]
    refine .mapping (List.pairwise_map.mpr hkeys) fun e he => ?_
    obtain ⟨e', he', rfl⟩ := List.mem_map.mp he
    exact ih e' he'

lemma distinct_layerOf (h : v.Distinct) : (layerOf v).Distinct := by
  rw [layerOf]
  split
  · exact Value.distinct_nil
  · exact h

/-! ### Loading -/

variable {rs : Readers} {t : Tree} {env : Environment} {path : Path} {name : Text} {l : Loading}
  {settings : Section}

lemma distinct_of_mergeLayer (hbase : (Value.mapping base).Distinct) (hv : v.Distinct)
    (h : mergeLayer base v = .ok settings) : (Value.mapping settings).Distinct := by
  cases v with
  | mapping entries => exact Except.ok.inj h ▸ distinct_merge hbase hv
  | _ => cases h

lemma distinct_of_overrideLayer (hbase : (Value.mapping base).Distinct) (hv : v.Distinct)
    (h : overrideLayer base v = .ok settings) : (Value.mapping settings).Distinct := by
  cases v with
  | mapping entries => exact Except.ok.inj h ▸ distinct_override hbase hv
  | _ => cases h

/-- Taking the overrides out keeps the keys of both parts distinct. -/
lemma distinct_of_takeOverrides {overrides : Option Value} {rest : Value} (hv : v.Distinct)
    (h : takeOverrides v = .ok (overrides, rest)) :
    (∀ w ∈ overrides, w.Distinct) ∧ rest.Distinct := by
  cases v with
  | mapping entries =>
    rw [takeOverrides_mapping] at h
    obtain ⟨rfl, rfl⟩ := Prod.mk.inj (Except.ok.inj h)
    exact ⟨fun w hw => hv.of_get? hw, distinct_restOf hv⟩
  | _ =>
    unfold takeOverrides at h
    split at h
    · cases h
    · obtain ⟨rfl, rfl⟩ := Prod.mk.inj (Except.ok.inj h)
      exact ⟨fun w hw => (Option.not_mem_none w hw).elim, hv⟩
    · cases h

lemma distinct_loadMain (hrs : rs.Distinct) (ht : DistinctData t)
    (h : (Value.mapping l.settings).Distinct) :
    (Value.mapping (loadMain rs t path l).settings).Distinct := by
  rw [loadMain]
  split
  · exact h
  · next v hread =>
    split
    · exact h
    · next hmerge =>
      have hv := distinct_of_readData? hrs ht hread
      exact distinct_of_mergeLayer h (distinct_layerOf hv) hmerge
  · exact h

lemma distinct_applyLayer (hv : v.Distinct) (h : (Value.mapping l.settings).Distinct) :
    (Value.mapping (applyLayer v l).settings).Distinct := by
  rw [applyLayer]
  split
  · exact h
  · next overrides rest htake =>
    obtain ⟨hoverrides, hrest⟩ := distinct_of_takeOverrides hv htake
    split
    · exact h
    · next settings hoverride =>
      -- the overrides come first, and the rest of the layer is merged into what they leave
      have hsettings : (Value.mapping settings).Distinct := by
        cases overrides with
        | none => exact Except.ok.inj hoverride ▸ h
        | some w => exact distinct_of_overrideLayer h (hoverrides w rfl) hoverride
      split
      · exact hsettings
      · next hmerge => exact distinct_of_mergeLayer hsettings hrest hmerge

lemma distinct_loadEnvironment (hrs : rs.Distinct) (ht : DistinctData t)
    (h : (Value.mapping l.settings).Distinct) :
    (Value.mapping (loadEnvironment rs t path l).settings).Distinct := by
  rw [loadEnvironment]
  split
  · exact h
  · next v hread =>
    exact distinct_applyLayer (distinct_layerOf (distinct_of_readData? hrs ht hread)) h
  · exact h

/-- A stage that keeps keys distinct does so in its place in the loading. -/
lemma distinct_next {stage : Loading → Loading}
    (hstage : ∀ l : Loading, (Value.mapping l.settings).Distinct →
      (Value.mapping (stage l).settings).Distinct)
    (h : (Value.mapping l.settings).Distinct) :
    (Value.mapping (l.next stage).settings).Distinct := by
  rw [Loading.next]
  split
  · exact hstage l h
  · exact h

/-- No settings that are loaded have a key twice, even if an error stops the loading, as long as no
data that is read or that is in a file already has. -/
theorem distinct_load (rs : Readers) (t : Tree) (env : Environment) (path : Path) (name : Text)
    (before : Section) (hrs : rs.Distinct) (ht : DistinctData t)
    (hbefore : (Value.mapping before).Distinct) :
    (Value.mapping (load rs t env path name before).settings).Distinct := by
  have hdefaults : (Value.mapping defaults).Distinct := by decide
  have hstart : (Value.mapping (merge [] defaults)).Distinct := by rwa [merge_nil hdefaults]
  rw [load]
  split
  · exact hbefore
  · refine distinct_next (fun l h => distinct_expand l.environment h) ?_
    exact distinct_next (fun l => distinct_loadEnvironment hrs ht)
      (distinct_next (fun l => distinct_loadMain hrs ht) hstart)

end Config

end FeatureDocs
