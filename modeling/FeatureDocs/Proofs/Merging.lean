import FeatureDocs.Config.Layers
import FeatureDocs.Proofs.Mappings

/-!
# Merged settings

What settings have at a path after others were merged into them: what the upper ones have there, or
else what the lower ones have, unless the upper ones put a value in its way; where both have a
mapping, the two are merged (`Config.at?_merge`).
-/

namespace FeatureDocs

namespace Value

/-- No mapping that a path leads to has a key twice. -/
inductive Distinct : Value → Prop
  | leaf {v : Value} (h : v.section? = none) : Distinct v
  | mapping {entries : Section} (hkeys : Mapping.Distinct entries)
      (hvalues : ∀ e ∈ entries, Distinct e.2) : Distinct (.mapping entries)

lemma distinct_nil : (Value.mapping []).Distinct := .mapping .nil (List.forall_mem_nil _)

lemma Distinct.keys {entries : Section} (h : (Value.mapping entries).Distinct) :
    Mapping.Distinct entries := by
  cases h with
  | leaf h => cases h
  | mapping hkeys => exact hkeys

lemma Distinct.of_mem {entries : Section} (h : (Value.mapping entries).Distinct) {e : Key × Value}
    (he : e ∈ entries) : e.2.Distinct := by
  cases h with
  | leaf h => cases h
  | mapping _ hvalues => exact hvalues e he

lemma Distinct.of_get? {entries : Section} (h : (Value.mapping entries).Distinct) {k : Key}
    {v : Value} (hv : Mapping.get? entries k = some v) : v.Distinct := by
  obtain ⟨k', hmem⟩ := Mapping.exists_mem_of_get? hv
  exact h.of_mem hmem

lemma distinct_mapping_iff {entries : Section} :
    (Value.mapping entries).Distinct ↔
      Mapping.Distinct entries ∧ ∀ e ∈ entries, e.2.Distinct :=
  ⟨fun h => ⟨h.keys, fun _ => h.of_mem⟩, fun ⟨hkeys, hvalues⟩ => .mapping hkeys hvalues⟩

mutual

/-- Whether no mapping in a value has a key twice. -/
def decideDistinct : (v : Value) → Decidable v.Distinct
  | .mapping entries =>
    letI := decideEntriesDistinct entries
    decidable_of_iff _ distinct_mapping_iff.symm
  | .null | .bool _ | .int _ | .real _ | .text _ | .list _ => .isTrue (.leaf rfl)

/-- Whether that holds of the values of all entries. -/
def decideEntriesDistinct : (es : List (Key × Value)) → Decidable (∀ e ∈ es, e.2.Distinct)
  | [] => .isTrue (List.forall_mem_nil _)
  | (_, v) :: es =>
    letI := decideDistinct v
    letI := decideEntriesDistinct es
    decidable_of_iff _ List.forall_mem_cons.symm

end

instance : DecidablePred Distinct := decideDistinct

/-! ### Paths -/

variable {v w : Value} {p q : List Key}

lemma eq_mapping_of_section? {entries : Section} (h : v.section? = some entries) :
    v = .mapping entries := by
  cases v with
  | mapping entries' => exact congrArg Value.mapping (Option.some.inj h)
  | _ => cases h

lemma at?_of_section?_eq_none (h : v.section? = none) (hp : p ≠ []) : v.at? p = none := by
  cases p with
  | nil => exact absurd rfl hp
  | cons k p =>
    cases v with
    | mapping entries => cases h
    | _ => rfl

/-- A path is followed one stretch behind the other. -/
lemma at?_append (v : Value) (p q : List Key) : v.at? (p ++ q) = (v.at? p).bind (·.at? q) := by
  induction p generalizing v with
  | nil => rw [List.nil_append, at?_nil, Option.bind_some]
  | cons k p ih =>
    cases hv : v.section? with
    | none => simp [at?_of_section?_eq_none hv]
    | some entries =>
      obtain rfl := eq_mapping_of_section? hv
      rw [List.cons_append, at?_mapping_cons, at?_mapping_cons]
      cases Mapping.get? entries k with
      | none => rfl
      | some w => exact ih w

/-- What is no mapping is in the way of a path: a beginning leads there, and not the whole. -/
def Blocks (v : Value) (p : List Key) : Prop :=
  ∃ q w, q ≠ [] ∧ q <+: p ∧ q ≠ p ∧ v.at? q = some w ∧ w.section? = none

/-- Nothing stands at a path that a value blocks. -/
lemma Blocks.at?_eq_none (h : v.Blocks p) : v.at? p = none := by
  obtain ⟨q, w, -, ⟨r, rfl⟩, hne, hq, hw⟩ := h
  have hr : r ≠ [] := by
    rintro rfl
    exact hne (List.append_nil q).symm
  rw [at?_append, hq, Option.bind_some, at?_of_section?_eq_none hw hr]

lemma not_blocks_nil : ¬ v.Blocks [] := by
  rintro ⟨q, w, hnil, hprefix, -⟩
  exact hnil (List.prefix_nil.mp hprefix)

lemma not_blocks_singleton (k : Key) : ¬ v.Blocks [k] := by
  rintro ⟨_ | ⟨k', q⟩, w, hnil, hprefix, hne, -⟩
  · exact hnil rfl
  · obtain ⟨rfl, hq⟩ := List.cons_prefix_cons.mp hprefix
    exact hne (by rw [List.prefix_nil.mp hq])

/-- The first key of a path leads to what is in the way, or to a value in which it is. -/
lemma blocks_cons_iff {entries : Section} {k : Key} (hp : p ≠ []) :
    (Value.mapping entries).Blocks (k :: p) ↔
      ∃ v, Mapping.get? entries k = some v ∧ (v.section? = none ∨ v.Blocks p) := by
  constructor
  · rintro ⟨_ | ⟨k', q⟩, w, hnil, hprefix, hne, hq, hw⟩
    · exact absurd rfl hnil
    · obtain ⟨rfl, hprefix'⟩ := List.cons_prefix_cons.mp hprefix
      rw [at?_mapping_cons] at hq
      obtain ⟨v, hv, hq⟩ := Option.bind_eq_some_iff.mp hq
      refine ⟨v, hv, ?_⟩
      by_cases hq' : q = []
      · subst hq'
        rw [at?_nil] at hq
        exact .inl (Option.some.inj hq ▸ hw)
      · exact .inr ⟨q, w, hq', hprefix', fun h => hne (h ▸ rfl), hq, hw⟩
  · rintro ⟨v, hv, hw | ⟨q, w, hnil, hprefix, hne, hq, hw⟩⟩
    · refine ⟨[k], v, by simp, ⟨p, rfl⟩, fun h => hp (List.cons.inj h).2.symm, ?_, hw⟩
      rw [at?_mapping_cons, hv, Option.bind_some, at?_nil]
    · refine ⟨k :: q, w, by simp, List.cons_prefix_cons.mpr ⟨rfl, hprefix⟩,
        fun h => hne (List.cons.inj h).2, ?_, hw⟩
      rw [at?_mapping_cons, hv, Option.bind_some, hq]

end Value

namespace Config

/-! ### One key -/

/-- What is at a place where an upper layer has been merged into a lower one. -/
def overlay (lower upper : Option Value) : Option Value :=
  match upper with
  | none => lower
  | some (.mapping n) =>
    match lower with
    | some (.mapping m) => some (.mapping (merge m n))
    | _ => some (.mapping n)
  | some v => some v

/-- What a mapping is merged into: nothing, if there is no mapping. -/
def mergeBase (lower : Option Value) : Section := (lower.bind Value.section?).getD []

variable {a b : Section} {v : Value}

@[simp] lemma overlay_none_right (lower : Option Value) : overlay lower none = lower := rfl

lemma overlay_none_left (upper : Option Value) : overlay none upper = upper := by
  rcases upper with _ | v
  · rfl
  · cases v <;> rfl

lemma isSome_overlay (lower upper : Option Value) :
    (overlay lower upper).isSome = (lower.isSome || upper.isSome) := by
  rcases upper with _ | v
  · rw [overlay_none_right, Option.isSome_none, Bool.or_false]
  · rw [Option.isSome_some, Bool.or_true]
    rcases lower with _ | w
    · rw [overlay_none_left, Option.isSome_some]
    · cases v <;> cases w <;> rfl

lemma overlay_of_section?_eq_none (h : v.section? = none) (lower : Option Value) :
    overlay lower (some v) = some v := by
  cases v with
  | mapping n => cases h
  | _ => rfl

/-- A value that is no mapping replaces what it is merged into. -/
lemma mergeValue_of_section?_eq_none (h : v.section? = none) (lower : Option Value) :
    mergeValue lower v = v := by
  cases v with
  | mapping n => cases h
  | _ => simp [mergeValue]

lemma mergeValue_mapping (lower : Option Value) (n : Section) :
    mergeValue lower (.mapping n) = .mapping (merge (mergeBase lower) n) := by
  rcases lower with _ | v
  · simp [mergeValue, merge, mergeBase]
  · cases v <;> simp [mergeValue, merge, mergeBase, Value.section?]

lemma merge_eq_layOver (a b : Section) : merge a b = Mapping.layOver mergeValue a b := by
  rw [merge]
  induction b generalizing a with
  | nil =>
    rw [mergeEntries_nil]
    rfl
  | cons e b ih => rw [mergeEntries_cons, ih, Mapping.layOver_cons]

/-- A layer that is merged into nothing is left. -/
lemma mergeValue_none (h : v.Distinct) : mergeValue none v = v := by
  induction h with
  | leaf h => exact mergeValue_of_section?_eq_none h none
  | mapping hkeys _ ih =>
    rw [mergeValue_mapping, merge_eq_layOver]
    exact congrArg Value.mapping (Mapping.layOver_nil hkeys ih)

lemma merge_nil (h : (Value.mapping b).Distinct) : merge [] b = b := by
  have hmapping := mergeValue_none h
  rw [mergeValue_mapping] at hmapping
  exact Value.mapping.inj hmapping

/-- Merging one value is laying it over what is below. -/
lemma some_mergeValue (h : v.Distinct) (lower : Option Value) :
    some (mergeValue lower v) = overlay lower (some v) := by
  cases hv : v.section? with
  | none => rw [mergeValue_of_section?_eq_none hv, overlay_of_section?_eq_none hv]
  | some n =>
    obtain rfl := Value.eq_mapping_of_section? hv
    have halone : some (Value.mapping (merge [] n)) = some (.mapping n) := by rw [merge_nil h]
    rw [mergeValue_mapping]
    rcases lower with _ | w
    · exact halone
    · cases w with
      | mapping m => rfl
      | _ => exact halone

/-- What a key has after a layer was merged into another. -/
lemma get?_merge (hb : (Value.mapping b).Distinct) (k : Key) :
    Mapping.get? (merge a b) k = overlay (Mapping.get? a k) (Mapping.get? b k) := by
  rw [merge_eq_layOver, Mapping.get?_layOver hb.keys]
  cases hk : Mapping.get? b k with
  | none => rfl
  | some v => exact some_mergeValue (hb.of_get? hk) _

/-- What was merged into a layer may be merged into it again. -/
lemma mergeValue_mergeValue (h : v.Distinct) (lower : Option Value) :
    mergeValue (some (mergeValue lower v)) v = mergeValue lower v := by
  induction h generalizing lower with
  | leaf h => rw [mergeValue_of_section?_eq_none h, mergeValue_of_section?_eq_none h]
  | @mapping entries hkeys hvalues ih =>
    rw [mergeValue_mapping, mergeValue_mapping]
    refine congrArg Value.mapping ?_
    show merge (merge (mergeBase lower) entries) entries = _
    rw [merge_eq_layOver _ entries]
    refine Mapping.layOver_eq_self fun e he =>
      ⟨mergeValue (Mapping.get? (mergeBase lower) e.1) e.2, ?_, ih e he _⟩
    rw [merge_eq_layOver, Mapping.get?_layOver hkeys, hkeys.get?_of_mem he]

/-- Merging the same mapping again changes nothing. -/
lemma merge_merge (hb : (Value.mapping b).Distinct) (a : Section) :
    merge (merge a b) b = merge a b := by
  have hvalue := mergeValue_mergeValue hb (some (.mapping a))
  rw [mergeValue_mapping, mergeValue_mapping] at hvalue
  exact Value.mapping.inj hvalue

/-! ### A path of keys -/

/-- Below a mapping that is merged in, the paths are those of what stood there. -/
lemma at?_mergeBase (lower : Option Value) {p : List Key} (hp : p ≠ []) :
    (Value.mapping (mergeBase lower)).at? p = lower.bind (·.at? p) := by
  have hnil : (Value.mapping []).at? p = none := by
    cases p with
    | nil => exact absurd rfl hp
    | cons k p => rfl
  rcases lower with _ | v
  · exact hnil
  · cases hv : v.section? with
    | none =>
      rw [mergeBase, Option.bind_some, Option.bind_some, hv, Value.at?_of_section?_eq_none hv hp]
      exact hnil
    | some n =>
      obtain rfl := Value.eq_mapping_of_section? hv
      rfl

/-- Below a key that leads to a mapping, that mapping is merged into what is there. -/
lemma at?_merge_cons {k : Key} {n : Section} (hb : (Value.mapping b).Distinct)
    (hn : Mapping.get? b k = some (.mapping n)) (p : List Key) :
    (Value.mapping (merge a b)).at? (k :: p) =
      (Value.mapping (merge (mergeBase (Mapping.get? a k)) n)).at? p := by
  rw [Value.at?_mapping_cons, get?_merge hb, hn, ← some_mergeValue (hb.of_get? hn),
    mergeValue_mapping, Option.bind_some]

/-- Where a value is in the way, nothing is left behind it. -/
lemma at?_merge_of_blocks (hb : (Value.mapping b).Distinct) {p : List Key}
    (h : (Value.mapping b).Blocks p) : (Value.mapping (merge a b)).at? p = none := by
  induction p generalizing a b with
  | nil => exact absurd h Value.not_blocks_nil
  | cons k p ih =>
    by_cases hp : p = []
    · exact absurd (hp ▸ h) (Value.not_blocks_singleton k)
    · obtain ⟨v, hv, hblocks⟩ := (Value.blocks_cons_iff hp).mp h
      cases hsection : v.section? with
      | none =>
        rw [Value.at?_mapping_cons, get?_merge hb, hv, overlay_of_section?_eq_none hsection]
        exact Value.at?_of_section?_eq_none hsection hp
      | some n =>
        obtain rfl := Value.eq_mapping_of_section? hsection
        rw [at?_merge_cons hb hv]
        refine ih (hb.of_get? hv) (hblocks.resolve_left ?_)
        rw [hsection]
        exact Option.some_ne_none n

/-- Where nothing is in the way, a path leads to what the two layers have there. -/
lemma at?_merge_of_not_blocks (hb : (Value.mapping b).Distinct) {p : List Key} (hp : p ≠ [])
    (h : ¬ (Value.mapping b).Blocks p) :
    (Value.mapping (merge a b)).at? p =
      overlay ((Value.mapping a).at? p) ((Value.mapping b).at? p) := by
  induction p generalizing a b with
  | nil => exact absurd rfl hp
  | cons k p ih =>
    by_cases hp : p = []
    · simp [hp, Value.at?_mapping_cons, get?_merge hb]
    · rw [Value.blocks_cons_iff hp] at h
      cases hv : Mapping.get? b k with
      | none =>
        rw [Value.at?_mapping_cons, Value.at?_mapping_cons, Value.at?_mapping_cons, get?_merge hb,
          hv]
        rfl
      | some v =>
        obtain ⟨hsection, hblocks⟩ := not_or.mp fun hv' => h ⟨v, hv, hv'⟩
        obtain ⟨n, hn⟩ := Option.ne_none_iff_exists'.mp hsection
        obtain rfl := Value.eq_mapping_of_section? hn
        rw [at?_merge_cons hb hv, ih (hb.of_get? hv) hp hblocks, at?_mergeBase _ hp,
          Value.at?_mapping_cons, Value.at?_mapping_cons, hv, Option.bind_some]

/-- What merged settings have at a path. A value of the upper ones that is no mapping is there, and
a mapping of theirs is merged into a mapping of the lower ones. Where the upper ones have nothing,
the lower ones are left, unless a value of the upper ones is in the way; so a value of the lower
ones is lost only where the upper ones have one at its path or on the way there. Merging again
changes nothing. -/
theorem at?_merge (a b : Section) (hb : (Value.mapping b).Distinct) :
    (∀ p : List Key, p ≠ [] →
      let lower := (Value.mapping a).at? p
      let upper := (Value.mapping b).at? p
      let merged := (Value.mapping (merge a b)).at? p
      (∀ v, upper = some v → v.section? = none → merged = some v) ∧
      (∀ n, upper = some (.mapping n) →
        merged = some (.mapping
          (match lower with
          | some (.mapping m) => merge m n
          | _ => n))) ∧
      (upper = none →
        ((Value.mapping b).Blocks p → merged = none) ∧
          (¬ (Value.mapping b).Blocks p → merged = lower)) ∧
      ∀ v, lower = some v → v.section? = none → merged ≠ some v →
        ∃ q, q ≠ [] ∧ q <+: p ∧ ((Value.mapping b).at? q).isSome) ∧
    merge (merge a b) b = merge a b := by
  refine ⟨fun p hp => ?_, merge_merge hb a⟩
  intro lower upper merged
  -- a path at which the upper mapping has something is not blocked by it
  have hmerged : upper.isSome → merged = overlay lower upper := by
    intro hsome
    refine at?_merge_of_not_blocks hb hp fun hblocks => ?_
    have hnone : upper = none := hblocks.at?_eq_none
    rw [hnone] at hsome
    cases hsome
  have hfree : ¬ (Value.mapping b).Blocks p → upper = none → merged = lower := by
    intro hblocks hnone
    calc merged = overlay lower upper := at?_merge_of_not_blocks hb hp hblocks
      _ = lower := by rw [hnone, overlay_none_right]
  refine ⟨fun v hv hsection => ?leaf, fun n hn => ?mapping,
    fun hnone => ⟨at?_merge_of_blocks hb, fun hblocks => hfree hblocks hnone⟩,
    fun v hv hsection hlost => ?lost⟩
  case leaf =>
    rw [hmerged (Option.isSome_of_mem hv), hv]
    exact overlay_of_section?_eq_none hsection lower
  case mapping =>
    rw [hmerged (Option.isSome_of_mem hn), hn]
    rcases lower with _ | w
    · rfl
    · cases w <;> rfl
  case lost =>
    cases hupper : upper with
    | some w => exact ⟨p, hp, List.prefix_rfl, Option.isSome_of_mem hupper⟩
    | none =>
      by_cases hblocks : (Value.mapping b).Blocks p
      · obtain ⟨q, w, hnil, hprefix, -, hq, -⟩ := hblocks
        exact ⟨q, hnil, hprefix, Option.isSome_of_mem hq⟩
      · exact absurd ((hfree hblocks hupper).trans hv) hlost

/-- A value comes over a mapping and a mapping over a value, below keys that are the same in two
forms. -/
theorem at?_merge_mixed :
    let one : Key := .int 1
    let a : Section := [(.text "x", .mapping [(.bool true, .mapping [(.null, .text "a")]),
      (.text "y", .int 2)]), (.text "z", .int 3)]
    let b : Section := [(.text "x", .mapping [(one, .null), (.text "y", .mapping [])])]
    let merged := (Value.mapping (merge a b)).at?
    (Value.mapping b).Distinct ∧
      merged [.text "x", one] = some .null ∧ merged [.text "x", one, .null] = none ∧
      merged [.text "x", .text "y"] = some (.mapping []) ∧
      merged [.text "z"] = some (.int 3) ∧ merge (merge a b) b = merge a b := by
  intro one a b merged
  have hb : (Value.mapping b).Distinct := by decide
  obtain ⟨hpath, hagain⟩ := at?_merge a b hb
  obtain ⟨hone, -⟩ := hpath [.text "x", one] (by simp)
  obtain ⟨-, -, hbelow, -⟩ := hpath [.text "x", one, .null] (by simp)
  obtain ⟨-, hy, -⟩ := hpath [.text "x", .text "y"] (by simp)
  obtain ⟨-, -, hz, -⟩ := hpath [.text "z"] (by simp)
  refine ⟨hb, hone .null rfl rfl, (hbelow rfl).1 ?_, hy [] rfl, (hz rfl).2 ?_, hagain⟩
  · exact ⟨[.text "x", one], .null, by simp, ⟨[.null], rfl⟩, by simp, rfl, rfl⟩
  · exact Value.not_blocks_singleton _

end Config

end FeatureDocs
