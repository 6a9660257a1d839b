import FeatureDocs.Config.Standard
import FeatureDocs.Proofs.Merging

/-!
# Which layer a setting is from

A section of the loaded settings has the keys that it has in any of the layers. The value of a key
is from the environment's file, merged into that of the layers below; or else from the overrides,
as it is there; or else from the main file, merged into the default; or else it is the default
(`Config.load_section`).
-/

namespace FeatureDocs

namespace Config

variable {base layer upper : Section} {s : Key} {f g : Key → Option Value} {p q : Prop}

/-! ### One section in one layer -/

/-- The entries of a section in a layer. -/
def sectionOf (layer : Section) (s : Key) : Section := mergeBase (Mapping.get? layer s)

/-- What a layer has at a key is a section with the given values, if it has anything there. -/
structure HasSection (layer : Section) (s : Key) (p : Prop) (f : Key → Option Value) : Prop where
  none_of_not : ¬ p → Mapping.get? layer s = none ∧ ∀ k, f k = none
  exists_of : p → ∃ m, Mapping.get? layer s = some (.mapping m) ∧ ∀ k, Mapping.get? m k = f k

/-- Overriding is laying over, with a value for each key that may depend on the one below. -/
lemma override_eq_layOver (base upper : Section) :
    override base upper = Mapping.layOver overrideValue base upper := rfl

lemma replaceKeys_eq_layOver (base upper : Section) :
    replaceKeys base upper = Mapping.layOver (fun _ v => v) base upper := rfl

lemma get?_replaceKeys (h : Mapping.Distinct upper) (k : Key) :
    Mapping.get? (replaceKeys base upper) k =
      (Mapping.get? upper k).or (Mapping.get? base k) := by
  rw [replaceKeys_eq_layOver, Mapping.get?_layOver h]
  cases Mapping.get? upper k <;> rfl

/-- A layer in which the section is a mapping, if it is there. -/
lemma hasSection_of_all (h : (Mapping.get? layer s).all fun v => v.section?.isSome) :
    HasSection layer s (Mapping.get? layer s).isSome (Mapping.get? (sectionOf layer s)) := by
  rw [sectionOf]
  cases hs : Mapping.get? layer s with
  | none => exact ⟨fun _ => ⟨hs, fun _ => rfl⟩, fun hsome => by cases hsome⟩
  | some v =>
    rw [hs] at h
    obtain ⟨m, hm⟩ := Option.isSome_iff_exists.mp h
    obtain rfl := Value.eq_mapping_of_section? hm
    exact ⟨fun hnone => absurd rfl hnone, fun _ => ⟨m, hs, fun _ => rfl⟩⟩

/-- One layer over another gives a section that combines their values key by key, if it does so
where both have the section and otherwise takes the section from the one that has it. -/
lemma HasSection.over {result : Section} (combine : Option Value → Option Value → Option Value)
    (hbase : HasSection base s p f) (hupper : HasSection upper s q g)
    (hleft : ∀ v, combine none v = v) (hright : ∀ v, combine v none = v)
    (hbelow : Mapping.get? upper s = none → Mapping.get? result s = Mapping.get? base s)
    (habove : ∀ n, Mapping.get? base s = none → Mapping.get? upper s = some (.mapping n) →
      Mapping.get? result s = some (.mapping n))
    (hboth : ∀ m n, Mapping.get? base s = some (.mapping m) →
      Mapping.get? upper s = some (.mapping n) →
      ∃ r, Mapping.get? result s = some (.mapping r) ∧
        ∀ k, Mapping.get? r k = combine (Mapping.get? m k) (Mapping.get? n k)) :
    HasSection result s (p ∨ q) fun k => combine (f k) (g k) where
  none_of_not hnot := by
    obtain ⟨hp, hq⟩ := not_or.mp hnot
    obtain ⟨hm, hf⟩ := hbase.none_of_not hp
    obtain ⟨hn, hg⟩ := hupper.none_of_not hq
    refine ⟨(hbelow hn).trans hm, fun k => ?_⟩
    rw [hf, hg, hright]
  exists_of hsome := by
    -- by which of the two layers have the section, the upper one first
    by_cases hq : q
    · obtain ⟨n, hn, hg⟩ := hupper.exists_of hq
      by_cases hp : p
      · obtain ⟨m, hm, hf⟩ := hbase.exists_of hp
        obtain ⟨r, hr, hvalues⟩ := hboth m n hm hn
        refine ⟨r, hr, fun k => ?_⟩
        rw [hvalues, hf, hg]
      · obtain ⟨hm, hf⟩ := hbase.none_of_not hp
        refine ⟨n, habove n hm hn, fun k => ?_⟩
        rw [hf, hg, hleft]
    · obtain ⟨hn, hg⟩ := hupper.none_of_not hq
      obtain ⟨m, hm, hf⟩ := hbase.exists_of (hsome.resolve_right hq)
      refine ⟨m, (hbelow hn).trans hm, fun k => ?_⟩
      rw [hf, hg, hright]

/-- Where layers are merged, the values of a section are merged key by key. -/
lemma HasSection.merge (hbase : HasSection base s p f) (hupper : HasSection upper s q g)
    (h : (Value.mapping upper).Distinct) :
    HasSection (merge base upper) s (p ∨ q) fun k => overlay (f k) (g k) := by
  refine .over overlay hbase hupper overlay_none_left overlay_none_right ?below ?above ?both
  case below =>
    intro hn
    rw [get?_merge h, hn, overlay_none_right]
  case above =>
    intro n hm hn
    rw [get?_merge h, hm, hn, overlay_none_left]
  case both =>
    intro m n hm hn
    refine ⟨Config.merge m n, by rw [get?_merge h, hm, hn]; rfl, fun k => ?_⟩
    rw [get?_merge (h.of_get? hn)]

/-- Where a section is overridden, each key of the overrides has their value, as it is. -/
lemma HasSection.override (hbase : HasSection base s p f) (hupper : HasSection upper s q g)
    (h : (Value.mapping upper).Distinct) :
    HasSection (override base upper) s (p ∨ q) fun k => (g k).or (f k) := by
  refine .over (fun v w => w.or v) hbase hupper (fun _ => Option.or_none) (fun _ => Option.none_or)
    ?below ?above ?both
  all_goals rw [override_eq_layOver, Mapping.get?_layOver h.keys]
  case below =>
    intro hn
    rw [hn]
  case above =>
    intro n hm hn
    rw [hm, hn]
    rfl
  case both =>
    intro m n hm hn
    refine ⟨replaceKeys m n, by rw [hm, hn]; rfl, fun k => ?_⟩
    rw [get?_replaceKeys (h.of_get? hn).keys]

/-- A section of settings that come in layers. -/
lemma hasSection_of_layers {lowest main overrides rest : Section}
    (hmain : (Value.mapping main).Distinct) (hoverrides : (Value.mapping overrides).Distinct)
    (hrest : (Value.mapping rest).Distinct)
    (hsections : ∀ layer ∈ [lowest, main, overrides, rest],
      (Mapping.get? layer s).all fun v => v.section?.isSome) :
    HasSection (merge (Config.override (merge lowest main) overrides) rest) s
      (∃ layer ∈ [lowest, main, overrides, rest], (Mapping.get? layer s).isSome) fun k =>
        overlay
          ((Mapping.get? (sectionOf overrides s) k).or
            (overlay (Mapping.get? (sectionOf lowest s) k) (Mapping.get? (sectionOf main s) k)))
          (Mapping.get? (sectionOf rest s) k) := by
  simp only [List.forall_mem_cons] at hsections
  obtain ⟨hslowest, hsmain, hsoverrides, hsrest, -⟩ := hsections
  have h := (((hasSection_of_all hslowest).merge (hasSection_of_all hsmain) hmain).override
    (hasSection_of_all hsoverrides) hoverrides).merge (hasSection_of_all hsrest) hrest
  simpa [or_assoc] using h

/-! ### Loading -/

variable {rs : Readers} {t : Tree} {env : Environment} {path : Path} {name : Text}
  {lowest main file overrides : Section} {l : Loading}

/-- Load settings with the given ones below all others. -/
def loadOver (lowest : Section) (rs : Readers) (t : Tree) (env : Environment) (path : Path)
    (name : Text) (before : Section) : Loading :=
  match loadVariables rs t env with
  | (environment, some e) => { settings := before, environment, error := some e }
  | (environment, none) =>
    let start : Loading := { settings := merge [] lowest, environment }
    ((start.next (loadMain rs t path)).next
      (loadEnvironment rs t (environmentPath path name))).next (finishLoading name)

/-- The file at a path gives a mapping for settings. Without a file, the mapping is empty. -/
def LayerAt (rs : Readers) (t : Tree) (path : Path) (layer : Section) : Prop :=
  ∃ v, t.readData? rs.data path = .ok v ∧ layerOf (v.getD .null) = .mapping layer

/-- The entries of the file of an environment without its overrides. -/
def restOf (file : Section) : Section := Mapping.erase file (.text overridesKey)

lemma distinct_restOf (h : (Value.mapping file).Distinct) :
    (Value.mapping (restOf file)).Distinct :=
  .mapping (h.keys.erase _) fun _ he => h.of_mem (List.mem_filter.mp he).1

lemma distinct_overrides (h : (Value.mapping file).Distinct)
    (hoverrides :
      (Mapping.get? file (.text overridesKey)).getD (.mapping []) = .mapping overrides) :
    (Value.mapping overrides).Distinct := by
  rw [← hoverrides]
  cases hkey : Mapping.get? file (.text overridesKey) with
  | none => exact Value.distinct_nil
  | some v => exact h.of_get? hkey

/-- A layer without a file is empty. -/
lemma LayerAt.eq_nil (h : LayerAt rs t path layer)
    (hnone : t.readData? rs.data path = .ok none) : layer = [] := by
  obtain ⟨v, hv, hlayer⟩ := h
  rw [hnone] at hv
  obtain rfl := Except.ok.inj hv
  exact (Value.mapping.inj hlayer).symm

/-- A main file that is a mapping is merged over the defaults; one that is missing changes no
setting. -/
lemma loadMain_of_layerAt (h : LayerAt rs t path main) (l : Loading) :
    ∃ log, loadMain rs t path l = { l with settings := merge l.settings main, log } := by
  obtain ⟨_ | v, hread, hlayer⟩ := id h
  · rw [h.eq_nil hread, merge, mergeEntries_nil, loadMain, hread]
    exact ⟨_, rfl⟩
  · rw [Option.getD_some] at hlayer
    rw [loadMain, hread]
    refine ⟨l.log, ?_⟩
    simp only [hlayer, mergeLayer]

/-- Of a mapping the overrides are taken out by their key, if they are there. -/
lemma takeOverrides_mapping (file : Section) :
    takeOverrides (.mapping file) =
      .ok (Mapping.get? file (.text overridesKey), .mapping (restOf file)) := by
  rw [takeOverrides, hasOverrides, Mapping.contains, restOf]
  cases h : Mapping.get? file (.text overridesKey) with
  | none => rw [Mapping.erase_of_get?_eq_none h]; rfl
  | some v => rfl

/-- The overrides of an environment's file come first, and then the rest of it. -/
lemma applyLayer_mapping
    (h : (Mapping.get? file (.text overridesKey)).getD (.mapping []) = .mapping overrides) :
    applyLayer (.mapping file) l =
      { l with settings := merge (override l.settings overrides) (restOf file) } := by
  rw [applyLayer, takeOverrides_mapping]
  cases hkey : Mapping.get? file (.text overridesKey) with
  | none =>
    rw [hkey] at h
    obtain rfl := Value.mapping.inj h
    rfl
  | some v =>
    rw [hkey, Option.getD_some] at h
    subst h
    rfl

/-- The file of an environment is laid over what was loaded before; one that is missing changes no
setting. -/
lemma loadEnvironment_of_layerAt (h : LayerAt rs t path file)
    (hoverrides : (Mapping.get? file (.text overridesKey)).getD (.mapping []) = .mapping overrides)
    (l : Loading) :
    ∃ log, loadEnvironment rs t path l =
      { l with settings := merge (override l.settings overrides) (restOf file), log } := by
  obtain ⟨_ | v, hread, hlayer⟩ := id h
  · -- no file: the layer is empty, and laying nothing over changes nothing
    obtain rfl := h.eq_nil hread
    obtain rfl := Value.mapping.inj hoverrides
    rw [loadEnvironment, hread]
    exact ⟨_, rfl⟩
  · rw [Option.getD_some] at hlayer
    rw [loadEnvironment, hread]
    refine ⟨l.log, ?_⟩
    simp only [hlayer, applyLayer_mapping hoverrides]

/-- What is loaded from files that are mappings. -/
lemma loadOver_of_layerAt (lowest before : Section)
    (hvariables : (loadVariables rs t env).2 = none) (hmain : LayerAt rs t path main)
    (hfile : LayerAt rs t (environmentPath path name) file)
    (hoverrides :
      (Mapping.get? file (.text overridesKey)).getD (.mapping []) = .mapping overrides) :
    let environment := (loadVariables rs t env).1
    ∃ log, loadOver lowest rs t env path name before =
      { settings := expandEntries environment
          (merge (override (merge (merge [] lowest) main) overrides) (restOf file))
        environment, log } := by
  intro environment
  -- the variables can be used, so that both files are looked at
  have hsplit : loadVariables rs t env = (environment, none) := Prod.ext rfl hvariables
  obtain ⟨log, hlog⟩ := loadMain_of_layerAt hmain { settings := merge [] lowest, environment }
  obtain ⟨log', hlog'⟩ := loadEnvironment_of_layerAt hfile hoverrides
    { settings := merge (merge [] lowest) main, environment, log }
  rw [loadOver, hsplit]
  simp only [Loading.next, hlog, hlog', finishLoading]
  exact ⟨_, rfl⟩

/-! ### One section of what is loaded -/

/-- Variables are put into the value of each key and change no key. -/
lemma get?_expandEntries (env : Environment) (m : Section) (k : Key) :
    Mapping.get? (expandEntries env m) k = (Mapping.get? m k).map (expand env) := by
  induction m with
  | nil => rfl
  | cons e m ih =>
    obtain ⟨k', v⟩ := e
    rw [expandEntries, Mapping.get?_cons, Mapping.get?_cons, ih]
    split <;> rfl

/-- What is loaded for a section that is a mapping in each layer where it is. Its keys are those
that it has in any layer. The value of a key, before variables are put in, is from the environment's
file, merged into that of the layers below; or else it is that of the overrides, as it is there; or
else it is from the main file, merged into that of the lowest layer; or else it is that of the
lowest layer. The default settings are the lowest layer of what is loaded in a run. -/
theorem load_section (lowest : Section) (rs : Readers) (t : Tree) (env : Environment)
    (path : Path) (name : Text) (before main file overrides : Section) (s : Key)
    (hvariables : (loadVariables rs t env).2 = none) (hmain : LayerAt rs t path main)
    (hfile : LayerAt rs t (environmentPath path name) file)
    (hoverrides :
      (Mapping.get? file (.text overridesKey)).getD (.mapping []) = .mapping overrides)
    (hdistinct : ∀ layer ∈ [lowest, main, file], (Value.mapping layer).Distinct)
    (hsections : ∀ layer ∈ [lowest, main, overrides, restOf file],
      (Mapping.get? layer s).all fun v => v.section?.isSome)
    (hoccurs : ∃ layer ∈ [lowest, main, overrides, restOf file],
      (Mapping.get? layer s).isSome) :
    load rs t env path name before = loadOver defaults rs t env path name before ∧
      let l := loadOver lowest rs t env path name before
      let entry := fun layer k => Mapping.get? (sectionOf layer s) k
      l.error = none ∧ l.environment = (loadVariables rs t env).1 ∧
      ∃ m, Mapping.get? l.settings s = some (.mapping m) ∧
        (∀ k, (Mapping.get? m k).isSome ↔
          ∃ layer ∈ [lowest, main, overrides, restOf file], (entry layer k).isSome) ∧
        ∀ k, Mapping.get? m k =
          (overlay
            ((entry overrides k).or (overlay (entry lowest k) (entry main k)))
            (entry (restOf file) k)).map (expand l.environment) := by
  refine ⟨rfl, ?_⟩
  intro l entry
  simp only [List.forall_mem_cons] at hdistinct
  obtain ⟨hdlowest, hdmain, hdfile, -⟩ := hdistinct
  obtain ⟨log, hl⟩ := loadOver_of_layerAt lowest before hvariables hmain hfile hoverrides
  rw [merge_nil hdlowest] at hl
  -- the section before variables are put in
  obtain ⟨m, hsection, hentry⟩ :=
    (hasSection_of_layers hdmain (distinct_overrides hdfile hoverrides) (distinct_restOf hdfile)
      hsections).exists_of hoccurs
  have henvironment : l.environment = (loadVariables rs t env).1 := congrArg Loading.environment hl
  refine ⟨congrArg Loading.error hl, henvironment, expandEntries l.environment m, ?settings,
    fun k => ?keys, fun k => ?values⟩
  case settings =>
    have hsettings : l.settings = expandEntries l.environment
        (merge (override (merge lowest main) overrides) (restOf file)) := by
      rw [henvironment]
      exact congrArg Loading.settings hl
    rw [hsettings, get?_expandEntries, hsection, Option.map_some, expand]
  case keys =>
    rw [get?_expandEntries, Option.isSome_map, hentry, isSome_overlay, Option.isSome_or,
      isSome_overlay]
    simp [entry, or_assoc, or_left_comm]
  case values => rw [get?_expandEntries, hentry]

/-- A variable in the overrides, and a mapping merged into a mapping. -/
theorem load_section_layers :
    let report : Key := .text "report"
    let main : Section := [(report, .mapping [(.text "format", .mapping []),
      (.text "groups", .mapping [(.int 1, .text "a")])])]
    let overrides : Section := [(report, .mapping [(.text "format", .text "$\x7bFORMAT\x7d")])]
    let file : Section := [(.text overridesKey, .mapping overrides),
      (report, .mapping [(.text "groups", .mapping [(.int 2, .text "b")])])]
    let t : Tree := ⟨[(["config.yaml"], .file (.data (.mapping main))),
      (["environments"], .directory),
      (["environments", "dev.yaml"], .file (.data (.mapping file)))]⟩
    let l := load .standard t [("FORMAT", "json")] ⟨[], ["config.yaml"]⟩ "dev" []
    l.error = none ∧ ∃ m, Mapping.get? l.settings report = some (.mapping m) ∧
      Mapping.get? m (.text "format") = some (.text "json") ∧
      Mapping.get? m (.text "groups") =
        some (.mapping [(.int 1, .text "a"), (.int 2, .text "b")]) := by
  intro report main overrides file t l
  have hdistinct : ∀ layer ∈ [defaults, main, file], (Value.mapping layer).Distinct := by decide
  have hsections : ∀ layer ∈ [defaults, main, overrides, restOf file],
      (Mapping.get? layer report).all fun v => v.section?.isSome := by decide
  have hoccurs : ∃ layer ∈ [defaults, main, overrides, restOf file],
      (Mapping.get? layer report).isSome := by decide
  obtain ⟨-, herror, -, m, hm, -, hentry⟩ := load_section defaults .standard t
    [("FORMAT", "json")] ⟨[], ["config.yaml"]⟩ "dev" [] main file overrides report rfl
    ⟨some (.mapping main), rfl, rfl⟩ ⟨some (.mapping file), rfl, rfl⟩ rfl hdistinct hsections
    hoccurs
  exact ⟨herror, m, hm, (hentry (.text "format")).trans rfl, (hentry (.text "groups")).trans rfl⟩

end Config

end FeatureDocs
