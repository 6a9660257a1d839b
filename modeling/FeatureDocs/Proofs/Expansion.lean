import FeatureDocs.Proofs.Precedence
import Mathlib.Data.List.Forall2

/-!
# What variables stand for

Putting the values of variables into a value keeps its lists and mappings and goes from leaf to
leaf. A leaf is changed only if it is a reference, and then by the variable that it names, so that
the result depends on no other variables; where no value and no default is a reference, doing it
again changes nothing (`Config.expand_leafwise`).
-/

namespace FeatureDocs

namespace Value

/-! ### Inside a value -/

/-- Whether a value has no values inside. -/
def isLeaf : Value → Bool
  | .list _ | .mapping _ => false
  | .null | .bool _ | .int _ | .real _ | .text _ => true

/-- A value is a leaf, a list or a mapping. -/
@[elab_as_elim]
lemma byParts {motive : Value → Prop} (leaf : ∀ v, v.isLeaf → motive v)
    (list : ∀ items, (∀ v ∈ items, motive v) → motive (.list items))
    (mapping : ∀ entries : Section, (∀ e ∈ entries, motive e.2) → motive (.mapping entries))
    (v : Value) : motive v := by
  match v with
  | .null | .bool _ | .int _ | .real _ | .text _ => exact leaf _ rfl
  | .list items => exact list items fun w _ => byParts leaf list mapping w
  | .mapping entries => exact mapping entries fun e _ => byParts leaf list mapping e.2
termination_by sizeOf v
decreasing_by
  · have hlt := List.sizeOf_lt_of_mem ‹w ∈ items›
    simp only [Value.list.sizeOf_spec]
    omega
  · have hlt := List.sizeOf_lt_of_mem ‹e ∈ entries›
    obtain ⟨k, w⟩ := e
    simp only [Value.mapping.sizeOf_spec, Prod.mk.sizeOf_spec] at hlt ⊢
    omega

mutual

/-- The texts inside a value, keys aside. -/
def texts : Value → List Text
  | .text t => [t]
  | .list items => textsOfItems items
  | .mapping entries => textsOfEntries entries
  | .null | .bool _ | .int _ | .real _ => []

/-- The texts inside the items of a list. -/
def textsOfItems : List Value → List Text
  | [] => []
  | v :: vs => v.texts ++ textsOfItems vs

/-- The texts inside the values of a mapping. -/
def textsOfEntries : List (Key × Value) → List Text
  | [] => []
  | (_, v) :: es => v.texts ++ textsOfEntries es

end

lemma textsOfItems_eq_flatMap (items : List Value) :
    textsOfItems items = items.flatMap texts := by
  induction items with
  | nil => rfl
  | cons v items ih => rw [textsOfItems, ih, List.flatMap_cons]

lemma textsOfEntries_eq_flatMap (entries : Section) :
    textsOfEntries entries = entries.flatMap (·.2.texts) := by
  induction entries with
  | nil => rfl
  | cons e entries ih =>
    obtain ⟨k, v⟩ := e
    rw [textsOfEntries, ih, List.flatMap_cons]

lemma mem_texts_list {items : List Value} {t : Text} :
    t ∈ (Value.list items).texts ↔ ∃ v ∈ items, t ∈ v.texts := by
  rw [texts, textsOfItems_eq_flatMap, List.mem_flatMap]

lemma mem_texts_mapping {entries : Section} {t : Text} :
    t ∈ (Value.mapping entries).texts ↔ ∃ e ∈ entries, t ∈ e.2.texts := by
  rw [texts, textsOfEntries_eq_flatMap, List.mem_flatMap]

/-- Two values with the same keys in the same order and lists of the same lengths, at all depths. -/
inductive SameShape : Value → Value → Prop
  | leaf {v w : Value} (hv : v.isLeaf) (hw : w.isLeaf) : SameShape v w
  | list {vs ws : List Value} (h : List.Forall₂ SameShape vs ws) :
      SameShape (.list vs) (.list ws)
  | mapping {es fs : Section} (hkeys : Mapping.keys es = Mapping.keys fs)
      (h : List.Forall₂ SameShape (Mapping.values es) (Mapping.values fs)) :
      SameShape (.mapping es) (.mapping fs)

/-- A step into a value: to what a key has, or to an item. -/
inductive Hop
  | key (k : Key)
  | index (i : Nat)

/-- The value that a step leads to. -/
def child? : Value → Hop → Option Value
  | .mapping entries, .key k => Mapping.get? entries k
  | .list items, .index i => items[i]?
  | _, _ => none

/-- The value that some steps lead to. -/
def follow? (v : Value) (way : List Hop) : Option Value := way.foldlM child? v

/-- A path of keys is a way that only passes through mappings. -/
lemma at?_eq_follow? (v : Value) (path : List Key) : v.at? path = v.follow? (path.map .key) := by
  induction path generalizing v with
  | nil => exact at?_nil v
  | cons k path ih =>
    rw [List.map_cons, follow?, List.foldlM_cons]
    cases v with
    | mapping entries =>
      rw [at?_mapping_cons]
      exact congrArg _ (funext ih)
    | _ => rfl

end Value

namespace Text

/-! ### The first occurrence of a mark -/

variable {mark t before after : Text}

/-- A text is not cut exactly when the mark does not occur in it. -/
lemma cut?_eq_none_iff : cut? mark t = none ↔ ¬ mark <:+: t := by
  induction t with
  | nil => simp [cut?, List.infix_nil]
  | cons c t ih =>
    rw [cut?, List.infix_cons_iff, not_or]
    by_cases h : mark <+: c :: t
    · simp [h, List.isPrefixOf_iff_prefix.mpr h]
    · simp [h, ih, List.isPrefixOf_iff_prefix]

/-- A text that is cut at a mark has no mark in its first part. -/
lemma of_cut?_eq_some (hmark : mark ≠ []) (h : cut? mark t = some (before, after)) :
    t = before ++ (mark ++ after) ∧ ¬ mark <:+: before := by
  induction t generalizing before with
  | nil => simp [cut?, hmark] at h
  | cons c t ih =>
    rw [cut?] at h
    split at h
    · next hprefix =>
      obtain ⟨rfl, rfl⟩ := Prod.mk.inj (Option.some.inj h)
      obtain ⟨rest, hrest⟩ := List.isPrefixOf_iff_prefix.mp hprefix
      refine ⟨?_, fun hinfix => hmark (List.infix_nil.mp hinfix)⟩
      rw [← hrest, List.drop_left, List.nil_append]
    · next hprefix =>
      obtain ⟨⟨before', after'⟩, hcut, heq⟩ := Option.map_eq_some_iff.mp h
      obtain ⟨rfl, rfl⟩ := Prod.mk.inj heq
      obtain ⟨rfl, hbefore⟩ := ih hcut
      refine ⟨rfl, fun hinfix => ?_⟩
      rcases List.infix_cons_iff.mp hinfix with hstart | hlater
      · exact hprefix (List.isPrefixOf_iff_prefix.mpr (hstart.trans ⟨_, rfl⟩))
      · exact hbefore hlater

end Text

namespace Config

/-! ### References -/

/-- What a default stands behind. -/
def defaultMark : Text := ":-"

/-- A text in the form of a reference. -/
def IsReference (t : Text) : Prop := ∃ inside : Text, t = "$\x7b" ++ (inside ++ "\x7d")

/-- The text refers to the variable with a name, and perhaps has a default. The name goes up to the
first place where a default may begin. -/
inductive RefersTo : Text → Text → Option Text → Prop
  | plain {name : Text} (h : ¬ defaultMark <:+: name) :
      RefersTo ("$\x7b" ++ (name ++ "\x7d")) name none
  | withDefault {name fallback : Text} (h : ¬ defaultMark <:+: name) :
      RefersTo ("$\x7b" ++ (name ++ (defaultMark ++ fallback) ++ "\x7d")) name (some fallback)

variable {env env' : Environment} {v w : Value} {t name : Text} {fallback : Option Text}

/-- A name and a default are cut apart where the default begins. -/
lemma cut?_defaultMark (h : ¬ defaultMark <:+: name) (rest : Text) :
    Text.cut? defaultMark (name ++ (defaultMark ++ rest)) = some (name, rest) := by
  induction name with
  | nil => rfl
  | cons c name ih =>
    rw [List.infix_cons_iff, not_or] at h
    obtain ⟨hstart, hlater⟩ := h
    have hne : defaultMark.isPrefixOf (c :: (name ++ (defaultMark ++ rest))) = false := by
      cases name with
      | nil => simp [defaultMark, List.isPrefixOf]
      | cons d name =>
        simpa [defaultMark, List.isPrefixOf] using hstart
    rw [List.cons_append, Text.cut?, hne, ih hlater]
    rfl

/-- What stands between the braces is cut at the first mark of a default. -/
lemma reference?_enclosed (inside : Text) :
    reference? ("$\x7b" ++ (inside ++ "\x7d")) =
      match Text.cut? defaultMark inside with
      | some (name, fallback) => some ⟨name, some fallback⟩
      | none => some ⟨inside, none⟩ := by
  have hlast : (inside ++ ['\x7d']).getLast? = some '\x7d' := List.getLast?_concat
  show reference? ('$' :: '\x7b' :: (inside ++ ['\x7d'])) = _
  rw [reference?, if_pos hlast, List.dropLast_concat]
  rfl

lemma isReference_of_reference? {r : Reference} (h : reference? t = some r) : IsReference t := by
  unfold reference? at h
  split at h
  · next rest =>
    split at h
    · next hlast =>
      obtain ⟨inside, rfl⟩ := List.getLast?_eq_some_iff.mp hlast
      exact ⟨inside, rfl⟩
    · cases h
  · cases h

/-- The words for a reference and the reader of references agree on what is one. -/
lemma isReference_iff : IsReference t ↔ (reference? t).isSome := by
  constructor
  · rintro ⟨inside, rfl⟩
    rw [reference?_enclosed]
    split <;> rfl
  · intro h
    obtain ⟨r, hr⟩ := Option.isSome_iff_exists.mp h
    exact isReference_of_reference? hr

instance (t : Text) : Decidable (IsReference t) := decidable_of_iff _ isReference_iff.symm

/-- What a text refers to, in words, is what the reader of references finds. -/
lemma refersTo_iff : RefersTo t name fallback ↔ reference? t = some ⟨name, fallback⟩ := by
  constructor
  · rintro (h | h)
    · rw [reference?_enclosed, Text.cut?_eq_none_iff.mpr h]
    · rw [reference?_enclosed, cut?_defaultMark h]
  · intro h
    obtain ⟨inside, rfl⟩ := isReference_of_reference? h
    rw [reference?_enclosed] at h
    split at h
    · next hcut =>
      cases h
      obtain ⟨rfl, hname⟩ := Text.of_cut?_eq_some (List.cons_ne_nil _ _) hcut
      exact .withDefault hname
    · next hcut =>
      cases h
      exact .plain (Text.cut?_eq_none_iff.mp hcut)

/-- A reference becomes the variable, else the default, else it stays. -/
lemma RefersTo.expandText (h : RefersTo t name fallback) (env : Environment) :
    expandText env t = (Mapping.get? env name).getD (fallback.getD t) := by
  rw [Config.expandText, refersTo_iff.mp h]

lemma expandText_of_not_isReference (h : ¬ IsReference t) (env : Environment) :
    expandText env t = t := by
  rw [isReference_iff, Option.not_isSome_iff_eq_none] at h
  rw [expandText, h]

/-- A reference names a variable. -/
lemma IsReference.exists_refersTo (h : IsReference t) :
    ∃ name fallback, RefersTo t name fallback := by
  obtain ⟨r, hr⟩ := Option.isSome_iff_exists.mp (isReference_iff.mp h)
  exact ⟨r.name, r.fallback, refersTo_iff.mpr hr⟩

/-! ### Leaf by leaf -/

lemma expand_list (env : Environment) (items : List Value) :
    expand env (.list items) = .list (items.map (expand env)) := by
  rw [expand, expandItems_eq_map]

lemma expand_mapping (env : Environment) (entries : Section) :
    expand env (.mapping entries) = .mapping (entries.map fun e => (e.1, expand env e.2)) := by
  rw [expand, expandEntries_eq_map]

lemma expand_text (env : Environment) (t : Text) :
    expand env (.text t) = .text (expandText env t) := by
  rw [expand]

/-- Of the leaves only references change. -/
lemma expand_leaf (hv : v.isLeaf) (h : ∀ t, v = .text t → ¬ IsReference t) (env : Environment) :
    expand env v = v := by
  cases v with
  | list items => cases hv
  | mapping entries => cases hv
  | text t => rw [expand_text, expandText_of_not_isReference (h t rfl)]
  | _ => rw [expand]

lemma isLeaf_expand (hv : v.isLeaf) (env : Environment) : (expand env v).isLeaf := by
  cases v with
  | list items => cases hv
  | mapping entries => cases hv
  | _ => rw [expand]; rfl

/-- Expanding keeps lists, mappings and their keys where they are. -/
lemma sameShape_expand (env : Environment) (v : Value) : v.SameShape (expand env v) := by
  induction v using Value.byParts with
  | leaf v hv => exact .leaf hv (isLeaf_expand hv env)
  | list items ih =>
    rw [expand_list]
    exact .list (List.forall₂_map_right_iff.mpr (List.forall₂_same.mpr ih))
  | mapping entries ih =>
    rw [expand_mapping]
    refine .mapping ?_ ?_
    · rw [Mapping.keys, Mapping.keys, List.map_map]
      rfl
    · rw [Mapping.values, Mapping.values, List.map_map, List.forall₂_map_left_iff,
        List.forall₂_map_right_iff]
      exact List.forall₂_same.mpr ih

lemma child?_expand (env : Environment) (v : Value) (hop : Value.Hop) :
    (expand env v).child? hop = (v.child? hop).map (expand env) := by
  cases v with
  | list items =>
    rw [expand_list]
    cases hop with
    | key k => rfl
    | index i => exact List.getElem?_map
  | mapping entries =>
    rw [expand]
    cases hop with
    | key k => exact get?_expandEntries env entries k
    | index i => rfl
  | _ => rw [expand]; rfl

/-- What is at the end of a way is expanded like the whole. -/
lemma follow?_expand (env : Environment) (v : Value) (way : List Value.Hop) :
    (expand env v).follow? way = (v.follow? way).map (expand env) := by
  induction way generalizing v with
  | nil => rfl
  | cons hop way ih =>
    rw [Value.follow?, Value.follow?, List.foldlM_cons, List.foldlM_cons, child?_expand]
    cases v.child? hop with
    | none => rfl
    | some w => exact ih w

lemma mentionedItems_eq_flatMap (items : List Value) :
    mentionedItems items = items.flatMap mentioned := by
  induction items with
  | nil => rfl
  | cons v items ih => rw [mentionedItems, ih, List.flatMap_cons]

lemma mentionedEntries_eq_flatMap (entries : Section) :
    mentionedEntries entries = entries.flatMap (mentioned ·.2) := by
  induction entries with
  | nil => rfl
  | cons e entries ih =>
    obtain ⟨k, v⟩ := e
    rw [mentionedEntries, ih, List.flatMap_cons]

/-- The names that a value refers to are those that its texts refer to, in order. -/
lemma mentioned_eq (v : Value) :
    mentioned v = v.texts.filterMap fun t => (reference? t).map (·.name) := by
  induction v using Value.byParts with
  | leaf v hv =>
    cases v with
    | list items => cases hv
    | mapping entries => cases hv
    | text t => cases h : reference? t <;> simp [mentioned, Value.texts, h]
    | _ => simp [mentioned, Value.texts]
  | list items ih =>
    rw [mentioned, mentionedItems_eq_flatMap, Value.texts, Value.textsOfItems_eq_flatMap,
      List.filterMap_flatMap]
    exact List.flatMap_congr ih
  | mapping entries ih =>
    rw [mentioned, mentionedEntries_eq_flatMap, Value.texts, Value.textsOfEntries_eq_flatMap,
      List.filterMap_flatMap]
    exact List.flatMap_congr ih

/-- The names that a value mentions are those that its texts refer to. -/
lemma mem_mentioned_iff :
    name ∈ mentioned v ↔ ∃ t ∈ v.texts, ∃ fallback, RefersTo t name fallback := by
  simp only [mentioned_eq, List.mem_filterMap, Option.map_eq_some_iff, refersTo_iff]
  constructor
  · rintro ⟨t, ht, r, hr, rfl⟩
    exact ⟨t, ht, r.fallback, hr⟩
  · rintro ⟨t, ht, fallback, hr⟩
    exact ⟨t, ht, _, hr, rfl⟩

/-- A change of values that goes from leaf to leaf and changes the texts alone. -/
structure Leafwise (change : Value → Value) (changeText : Text → Text) : Prop where
  text : ∀ t, change (.text t) = .text (changeText t)
  leaf : ∀ v : Value, v.isLeaf → (∀ t, v ≠ .text t) → change v = v
  list : ∀ items, change (.list items) = .list (items.map change)
  mapping : ∀ entries : Section,
    change (.mapping entries) = .mapping (entries.map fun e => (e.1, change e.2))

/-- Expanding changes a value text by text and nothing else. -/
lemma leafwise_expand (env : Environment) : Leafwise (expand env) (expandText env) where
  text := expand_text env
  leaf _ hv hne := expand_leaf hv (fun t ht => absurd ht (hne t)) env
  list := expand_list env
  mapping := expand_mapping env

namespace Leafwise

variable {change change' : Value → Value} {changeText changeText' : Text → Text}

/-- Two changes that work text by text do so one behind the other. -/
lemma comp (h : Leafwise change changeText) (h' : Leafwise change' changeText') :
    Leafwise (change' ∘ change) (changeText' ∘ changeText) where
  text t := by rw [Function.comp_apply, h.text, h'.text, Function.comp_apply]
  leaf v hv hne := by rw [Function.comp_apply, h.leaf v hv hne, h'.leaf v hv hne]
  list items := by rw [Function.comp_apply, h.list, h'.list, List.map_map]
  mapping entries := by
    rw [Function.comp_apply, h.mapping, h'.mapping, List.map_map]
    rfl

/-- Two such changes of a value are the same if they are on its texts. -/
lemma congr (h : Leafwise change changeText) (h' : Leafwise change' changeText')
    (htexts : ∀ t ∈ v.texts, changeText t = changeText' t) : change v = change' v := by
  induction v using Value.byParts with
  | leaf v hv =>
    by_cases htext : ∃ t, v = .text t
    · obtain ⟨t, rfl⟩ := htext
      rw [h.text, h'.text, htexts t (List.mem_singleton_self t)]
    · have hne : ∀ t, v ≠ .text t := fun t ht => htext ⟨t, ht⟩
      rw [h.leaf v hv hne, h'.leaf v hv hne]
  | list items ih =>
    rw [h.list, h'.list]
    refine congrArg Value.list (List.map_congr_left fun w hw => ih w hw fun t ht => ?_)
    exact htexts t (Value.mem_texts_list.mpr ⟨w, hw, ht⟩)
  | mapping entries ih =>
    rw [h.mapping, h'.mapping]
    refine congrArg Value.mapping (List.map_congr_left fun e he => congrArg (e.1, ·) ?_)
    exact ih e he fun t ht => htexts t (Value.mem_texts_mapping.mpr ⟨e, he, ht⟩)

end Leafwise

/-- A text that stands for no reference stands for itself, and so does what it stands for. -/
lemma expandText_expandText
    (henv : ∀ name value, Mapping.get? env name = some value → ¬ IsReference value)
    (hdefaults : ∀ name fallback, RefersTo t name (some fallback) → ¬ IsReference fallback) :
    expandText env (expandText env t) = expandText env t := by
  by_cases ht : IsReference t
  · obtain ⟨name, fallback, hrefers⟩ := ht.exists_refersTo
    rw [hrefers.expandText env]
    cases hvalue : Mapping.get? env name with
    | some value => exact expandText_of_not_isReference (henv name value hvalue) env
    | none =>
      cases fallback with
      | some fallback => exact expandText_of_not_isReference (hdefaults name fallback hrefers) env
      | none =>
        -- a reference to nothing is left as it is
        rw [Option.getD_none, Option.getD_none, hrefers.expandText env, hvalue]
        rfl
  · rw [expandText_of_not_isReference ht, expandText_of_not_isReference ht]

/-- Putting in the values of variables keeps the keys and the lists of a value, at all depths, and
acts on what is at the end of a way as on the whole. A leaf that is no reference stays as it is; a
reference becomes the value of its variable, or else its default, or else stays too. So the result
depends on no variables but those that are mentioned; and if neither a value of a variable nor a
default is a reference, it stays the same when it is treated again. -/
theorem expand_leafwise (env : Environment) (v : Value) :
    v.SameShape (expand env v) ∧
    (∀ way, (expand env v).follow? way = (v.follow? way).map (expand env)) ∧
    (∀ path, (expand env v).at? path = (v.at? path).map (expand env)) ∧
    (∀ w : Value, w.isLeaf → (∀ t, w = .text t → ¬ IsReference t) → expand env w = w) ∧
    (∀ t, IsReference t ↔ ∃ name fallback, RefersTo t name fallback) ∧
    (∀ t name fallback, RefersTo t name fallback →
      expand env (.text t) = .text ((Mapping.get? env name).getD (fallback.getD t))) ∧
    (∀ name, name ∈ mentioned v ↔ ∃ t ∈ v.texts, ∃ fallback, RefersTo t name fallback) ∧
    (∀ env', (∀ name ∈ mentioned v, Mapping.get? env name = Mapping.get? env' name) →
      expand env v = expand env' v) ∧
    ((∀ name value, Mapping.get? env name = some value → ¬ IsReference value) →
      (∀ t ∈ v.texts, ∀ name fallback, RefersTo t name (some fallback) → ¬ IsReference fallback) →
      expand env (expand env v) = expand env v) := by
  refine ⟨sameShape_expand env v, follow?_expand env v, fun path => ?path,
    fun w hw hleaf => expand_leaf hw hleaf env, fun t => ⟨fun h => h.exists_refersTo, ?reference⟩,
    fun t name fallback h => ?text, fun name => mem_mentioned_iff, fun env' henv => ?agree,
    fun henv hdefaults => ?again⟩
  case path => rw [Value.at?_eq_follow?, Value.at?_eq_follow?, follow?_expand]
  case reference =>
    rintro ⟨name, fallback, h⟩
    exact isReference_of_reference? (refersTo_iff.mp h)
  case text => rw [expand_text, h.expandText env]
  case agree =>
    -- values that are changed text by text agree when their texts do, so one text is left
    refine (leafwise_expand env).congr (leafwise_expand env') fun t ht => ?_
    by_cases href : IsReference t
    · obtain ⟨name, fallback, h⟩ := href.exists_refersTo
      have hname : name ∈ mentioned v := mem_mentioned_iff.mpr ⟨t, ht, fallback, h⟩
      rw [h.expandText env, h.expandText env', henv name hname]
    · rw [expandText_of_not_isReference href, expandText_of_not_isReference href]
  case again =>
    have htwice := (leafwise_expand env).comp (leafwise_expand env)
    exact htwice.congr (leafwise_expand env) fun t ht => expandText_expandText henv (hdefaults t ht)

/-- References with and without a value, with a default that has the mark of one inside, with an
empty name, and texts that only look like references; and a key that is left as it is. -/
theorem expand_leafwise_mixed :
    let key : Key := .text "$\x7bA\x7d"
    let env : Environment := [("A", "1"), ("E", "")]
    let env' : Environment := [("Z", "$\x7bA\x7d"), ("E", ""), ("A", "1")]
    let bare : Text := "$A"
    let quoted : Text := "$\x7bB:-y:-\x7dz\x7d"
    let v : Value := .mapping
      [(key, .list [.text "$\x7bA:-x\x7d", .text quoted, .text "$\x7bB\x7d", .text "$\x7b\x7d",
          .text "$\x7b:-x\x7d", .text "$\x7bA\x7d$\x7bE\x7d", .text bare, .int 3]),
        (.int 1, .mapping [(.null, .text "$\x7bE:-d\x7d")])]
    let w : Value := .mapping
      [(key, .list [.text "1", .text "y:-\x7dz", .text "$\x7bB\x7d", .text "$\x7b\x7d",
          .text "x", .text "$\x7bA\x7d$\x7bE\x7d", .text bare, .int 3]),
        (.int 1, .mapping [(.null, .text "")])]
    ¬ IsReference bare ∧ RefersTo quoted "B" (some "y:-\x7dz") ∧
      mentioned v = ["A", "B", "B", "", "", "A\x7d$\x7bE", "E"] ∧
      expand env (.text bare) = .text bare ∧ expand env (.text quoted) = .text "y:-\x7dz" ∧
      expand env v = w ∧ expand env v = expand env' v ∧ expand env w = w := by
  intro key env env' bare quoted v w
  obtain ⟨-, -, -, hleaf, -, htext, -, hagree, hagain⟩ := expand_leafwise env v
  have hbare : ¬ IsReference bare := by decide
  have hquoted : RefersTo quoted "B" (some "y:-\x7dz") := refersTo_iff.mpr rfl
  have hmentioned : mentioned v = ["A", "B", "B", "", "", "A\x7d$\x7bE", "E"] := by rfl
  have hsame : ∀ name ∈ mentioned v, Mapping.get? env name = Mapping.get? env' name := by
    rw [hmentioned]
    decide
  have hvalues : ∀ e ∈ env, ¬ IsReference e.2 := by decide
  have hdefaults : ∀ t ∈ v.texts, ∀ r ∈ reference? t, ∀ fallback ∈ r.fallback,
      ¬ IsReference fallback := by decide
  have hw : expand env v = w := by rfl
  refine ⟨hbare, hquoted, hmentioned, hleaf (.text bare) rfl ?_, htext quoted "B" _ hquoted, hw,
    hagree env' hsame, ?_⟩
  · rintro t ht
    exact Value.text.inj ht ▸ hbare
  · rw [← hw]
    refine hagain (fun name value hvalue => hvalues _ (Mapping.mem_of_get? hvalue)) ?_
    intro t ht name fallback hrefers
    exact hdefaults t ht _ (refersTo_iff.mp hrefers) fallback rfl

end Config

end FeatureDocs
