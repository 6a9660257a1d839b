import FeatureDocs.Keyword.Table
import FeatureDocs.Proofs.Mappings
import FeatureDocs.Proofs.Trim
import Mathlib.Tactic.SplitIfs

/-!
# What a keyword dataset has to be

A value is a mapping of languages, each a mapping of categories, with prefixes that are no blank
texts (`IsDataset`). Its items stand in an order, each before those it holds (`Dataset.items`), and
reading stops at the first that is not as it has to be (`Dataset.ofValue_eq`). What is read is the
last of what stands under a code or a name, so no keyword is blank, and no blank line begins with
one (`Dataset.ofValue_validated`).
-/

namespace FeatureDocs

lemma Category.name_inj {c c' : Category} : c.name = c'.name ↔ c = c' := by
  constructor
  · intro h
    have hname := ofName?_name c
    rw [h, ofName?_name] at hname
    exact (Option.some.inj hname).symm
  · rintro rfl
    rfl

/-! ### What a dataset has to be -/

/-- A prefix: a text that is not blank. -/
inductive IsPrefix : Value → Prop
  | text {t : Text} (h : Text.trim t ≠ []) : IsPrefix (.text t)

/-- Prefixes: a single one, or a list of them. -/
inductive IsPrefixes : Value → Prop
  | single {v : Value} (h : IsPrefix v) : IsPrefixes v
  | list {vs : List Value} (h : ∀ v ∈ vs, IsPrefix v) : IsPrefixes (.list vs)

/-- A language: prefixes under names of categories. -/
inductive IsLanguage : Value → Prop
  | mapping {categories : Section} (names : ∀ e ∈ categories, ∃ c : Category, e.1 = .text c.name)
      (prefixes : ∀ e ∈ categories, IsPrefixes e.2) : IsLanguage (.mapping categories)

/-- A dataset: languages under any codes. -/
inductive IsDataset : Value → Prop
  | mapping {languages : Section} (h : ∀ e ∈ languages, IsLanguage e.2) :
      IsDataset (.mapping languages)

namespace KeywordTable

variable {d : Dataset} {entry : LanguageEntry} {language t : Text} {k : KeywordTable} {c : Category}

lemma select_eq_ok_iff :
    select d language = .ok k ↔
      ∃ entry, Mapping.get? d.languages language = some entry ∧ k = ofEntry language entry := by
  rw [select, Dataset.entry?]
  cases Mapping.get? d.languages language <;> simp [eq_comm]

lemma mem_candidates_ofEntry_iff :
    t ∈ (ofEntry language entry).candidates c ↔ ∃ ts, Mapping.get? entry c = some ts ∧ t ∈ ts := by
  simp only [ofEntry]
  cases Mapping.get? entry c <;> simp

/-- A blank line begins with no keyword that has a character. -/
lemma not_matches_of_isBlank {line : Text} (hk : [] ∉ k.candidates c) (hline : Text.isBlank line) :
    ¬ k.Matches line c := by
  rw [Matches, match?, Text.trimStart_eq_nil_iff.mpr hline, List.find?_isSome]
  rintro ⟨w, hw, hbegins⟩
  rw [beginsWith, List.take_nil, beq_iff_eq] at hbegins
  obtain rfl := Text.lower_eq_nil_iff.mp hbegins.symm
  exact hk hw

end KeywordTable

namespace Dataset

/-! ### The items of a dataset -/

/-- The entries of a mapping; none of anything else. -/
def entriesOf (v : Value) : Section := v.section?.getD []

/-- What is looked at to be a prefix: a text, or the items of a list. -/
def candidatesOf : Value → List Value
  | .text t => [.text t]
  | .list vs => vs
  | _ => []

/-- What has to be as a dataset asks, with the code and the name below which it stands. -/
inductive Item
  | dataset (v : Value)
  | language (code : Key) (v : Value)
  | category (code name : Key)
  | prefixes (code name : Key) (v : Value)
  | candidate (code name : Key) (v : Value)

/-- What is wrong with an item, if anything is. -/
def Item.error? : Item → Option Error
  | .dataset v => if v.section?.isSome then none else some .notAMapping
  | .language code v => if v.section?.isSome then none else some (.languageNotAMapping code)
  | .category code name =>
    if ∃ c ∈ Category.all, name = .text c.name then none else some (.unknownCategory code name)
  | .prefixes _ _ (.text _) | .prefixes _ _ (.list _) => none
  | .prefixes code name _ => some (.notPrefixes code name)
  | .candidate code name (.text t) =>
    if Text.trim t ≠ [] then none else some (.badPrefix code name (.text t))
  | .candidate code name v => some (.badPrefix code name v)

/-- The items of a category: its name, its value, and each prefix. -/
def categoryItems (code : Key) (e : Key × Value) : List Item :=
  .category code e.1 :: .prefixes code e.1 e.2 :: (candidatesOf e.2).map (.candidate code e.1)

/-- The items of a language: its value, and those of each category. -/
def languageItems (e : Key × Value) : List Item :=
  .language e.1 e.2 :: (entriesOf e.2).flatMap (categoryItems e.1)

/-- The items of a value, each before those that stand in it. -/
def items (v : Value) : List Item := .dataset v :: (entriesOf v).flatMap languageItems

/-! ### What items are read as -/

/-- The prefixes that a value gives. -/
def prefixesIn (v : Value) : List Text := (candidatesOf v).filterMap Value.text?

/-- The categories of a language with their prefixes, as they stand. -/
def categoriesIn (s : Section) : List (Category × List Text) :=
  s.filterMap fun e => (categoryOf? e.1).map (·, prefixesIn e.2)

/-- The prefixes of a language. -/
def entryIn (v : Value) : LanguageEntry := Mapping.ofList (categoriesIn (entriesOf v))

/-- The last of the values whose key is written in the given way. -/
def lastNamed? (s : Section) (name : Text) : Option Value :=
  (s.reverse.find? (·.1.plain == name)).map (·.2)

/-- What is read from items: the error of the first that is wrong, else the given. -/
def judge {α : Type} (is : List Item) (a : α) : Except Error α :=
  match is.findSome? Item.error? with
  | some e => .error e
  | none => .ok a

variable {α β : Type} {i : Item} {is js : List Item} {e : Error} {v : Value}

lemma judge_of_error (h : i.error? = some e) (a : α) : judge (i :: is) a = .error e := by
  rw [judge, List.findSome?_cons, h]

lemma judge_of_none (h : i.error? = none) (a : α) : judge (i :: is) a = judge is a := by
  rw [judge, List.findSome?_cons, h]
  rfl

lemma judge_map (f : α → β) (a : α) : (judge is a).map f = judge is (f a) := by
  rw [judge, judge]
  cases is.findSome? Item.error? <;> rfl

lemma judge_append (a : α) (b : β) :
    judge (is ++ js) b = (judge is a).bind fun _ => judge js b := by
  rw [judge, judge, List.findSome?_append]
  cases is.findSome? Item.error? <;> rfl

lemma judge_eq_ok_iff {a b : α} : judge is a = .ok b ↔ (∀ i ∈ is, i.error? = none) ∧ a = b := by
  rw [judge, ← List.findSome?_eq_none_iff]
  cases is.findSome? Item.error? <;> simp

/-- Judging fails with the fault of the first item that has one. -/
lemma judge_eq_error_iff {a : α} : judge is a = .error e ↔ is.findSome? Item.error? = some e := by
  rw [judge]
  cases is.findSome? Item.error? <;> simp

/-! ### The reading of items -/

/-- The prefixes of a category are read by judging each candidate in turn. -/
lemma readPrefixes_eq (code name : Key) (vs : List Value) :
    readPrefixes code name vs =
      judge (vs.map (.candidate code name)) (vs.filterMap Value.text?) := by
  induction vs with
  | nil => rfl
  | cons v vs ih =>
    rw [List.map_cons]
    cases v with
    | text t =>
      by_cases ht : Text.isBlank t
      · have herror : (Item.candidate code name (.text t)).error? =
            some (.badPrefix code name (.text t)) := by
          simp [Item.error?, Text.trim_eq_nil_iff, ht]
        rw [judge_of_error herror]
        simp [readPrefixes, ht]
      · have hnone : (Item.candidate code name (.text t)).error? = none := by
          simp [Item.error?, Text.trim_eq_nil_iff, ht]
        have hcons : (Value.text t :: vs).filterMap Value.text? =
            t :: vs.filterMap Value.text? := rfl
        rw [judge_of_none hnone, hcons, ← judge_map (t :: ·), ← ih]
        simp [readPrefixes, ht]
    | _ => rfl

lemma prefixesOf_eq (code name : Key) (v : Value) :
    prefixesOf code name v =
      judge (.prefixes code name v :: (candidatesOf v).map (.candidate code name))
        (prefixesIn v) := by
  cases v with
  | text _ | list _ =>
    rw [prefixesOf, readPrefixes_eq, judge_of_none rfl, prefixesIn, candidatesOf]
  | _ => rfl

/-- A key names a category exactly when it is the text of that name. -/
lemma categoryOf?_eq_some_iff {name : Key} {c : Category} :
    categoryOf? name = some c ↔ name = .text c.name := by
  constructor
  · intro h
    cases name with
    | text t => rw [Category.name_of_ofName? h]
    | _ => cases h
  · rintro rfl
    exact Category.ofName?_name c

lemma error?_category_of_none {code name : Key} (h : categoryOf? name = none) :
    (Item.category code name).error? = some (.unknownCategory code name) := by
  refine if_neg ?_
  rintro ⟨c, -, hc⟩
  rw [categoryOf?_eq_some_iff.mpr hc] at h
  cases h

lemma error?_category_of_some {code name : Key} {c : Category} (h : categoryOf? name = some c) :
    (Item.category code name).error? = none :=
  if_pos ⟨c, Category.mem_all c, categoryOf?_eq_some_iff.mp h⟩

/-- An entry is read by judging its categories in turn, and a later one replaces an earlier one of
that name. -/
lemma readEntry_eq (code : Key) (entry : LanguageEntry) (s : Section) :
    readEntry code entry s =
      judge (s.flatMap (categoryItems code))
        (Mapping.layOver (fun _ prefixes => prefixes) entry (categoriesIn s)) := by
  induction s generalizing entry with
  | nil => rfl
  | cons e s ih =>
    obtain ⟨name, v⟩ := e
    rw [List.flatMap_cons, categoryItems, List.cons_append, readEntry]
    cases hc : categoryOf? name with
    | none => rw [judge_of_error (error?_category_of_none hc)]
    | some c =>
      have hcategories : categoriesIn ((name, v) :: s) = (c, prefixesIn v) :: categoriesIn s := by
        simp [categoriesIn, hc]
      rw [judge_of_none (error?_category_of_some hc), judge_append (prefixesIn v),
        ← prefixesOf_eq, hcategories, Mapping.layOver_cons]
      cases hprefixes : prefixesOf code name v with
      | error e => rfl
      | ok prefixes =>
        -- what was read without an error are the prefixes that the value gives
        obtain ⟨-, rfl⟩ := judge_eq_ok_iff.mp ((prefixesOf_eq code name v).symm.trans hprefixes)
        exact ih _

/-- The languages are read by judging them in turn, and a later one replaces an earlier one of that
code. -/
lemma readLanguages_eq (languages : Mapping Text LanguageEntry) (s : Section) :
    readLanguages languages s =
      judge (s.flatMap languageItems)
        (Mapping.layOver (fun _ entry => entry) languages
          (s.map fun e => (e.1.plain, entryIn e.2))) := by
  induction s generalizing languages with
  | nil => rfl
  | cons e s ih =>
    obtain ⟨code, v⟩ := e
    rw [List.flatMap_cons, languageItems, List.cons_append]
    cases v with
    | mapping categories =>
      have hentry : readEntry code [] categories =
          judge ((entriesOf (.mapping categories)).flatMap (categoryItems code))
            (entryIn (.mapping categories)) := readEntry_eq code [] categories
      rw [judge_of_none rfl, judge_append (entryIn (.mapping categories)), ← hentry,
        readLanguages, List.map_cons, Mapping.layOver_cons]
      cases hread : readEntry code [] categories with
      | error e => rfl
      | ok entry =>
        obtain ⟨-, rfl⟩ := judge_eq_ok_iff.mp (hentry.symm.trans hread)
        exact ih _
    | _ => rfl

/-- A value is read as its items are: the first that is wrong is the error. -/
lemma ofValue_eq (v : Value) :
    ofValue v =
      judge (items v) ⟨Mapping.ofList ((entriesOf v).map fun e => (e.1.plain, entryIn e.2))⟩ := by
  cases v with
  | mapping entries =>
    rw [ofValue, readLanguages_eq, judge_map, items, judge_of_none rfl]
    rfl
  | _ => rfl

/-! ### Values without a wrong item -/

lemma isPrefix_iff {code name : Key} :
    IsPrefix v ↔ (Item.candidate code name v).error? = none := by
  constructor
  · rintro ⟨h⟩
    exact if_pos h
  · intro h
    cases v with
    | text t =>
      rw [Item.error?] at h
      split_ifs at h with ht
      exact .text ht
    | _ => cases h

lemma isPrefixes_iff {code name : Key} :
    IsPrefixes v ↔ (Item.prefixes code name v).error? = none ∧
      ∀ w ∈ candidatesOf v, (Item.candidate code name w).error? = none := by
  simp only [← isPrefix_iff]
  constructor
  · rintro (⟨⟨h⟩⟩ | ⟨h⟩)
    · exact ⟨rfl, List.forall_mem_singleton.mpr (.text h)⟩
    · exact ⟨rfl, h⟩
  · rintro ⟨hkind, h⟩
    cases v with
    | text t => exact .single (h _ List.mem_cons_self)
    | list vs => exact .list h
    | _ => cases hkind

lemma isCategory_iff {code name : Key} :
    (∃ c : Category, name = .text c.name) ↔ (Item.category code name).error? = none := by
  constructor
  · rintro ⟨c, hc⟩
    exact error?_category_of_some (categoryOf?_eq_some_iff.mpr hc)
  · intro h
    cases hc : categoryOf? name with
    | none =>
      rw [error?_category_of_none hc] at h
      cases h
    | some c => exact ⟨c, categoryOf?_eq_some_iff.mp hc⟩

lemma isLanguage_iff {e : Key × Value} :
    IsLanguage e.2 ↔ ∀ i ∈ languageItems e, i.error? = none := by
  obtain ⟨code, v⟩ := e
  simp only [languageItems, categoryItems, List.forall_mem_cons, List.forall_mem_flatMap,
    List.forall_mem_map, ← isCategory_iff, ← isPrefixes_iff]
  constructor
  · rintro ⟨names, prefixes⟩
    exact ⟨rfl, fun e he => ⟨names e he, prefixes e he⟩⟩
  · rintro ⟨hmapping, h⟩
    cases v with
    | mapping categories => exact .mapping (fun e he => (h e he).1) fun e he => (h e he).2
    | _ => cases hmapping

/-- A dataset is allowed exactly when none of its items has a fault. -/
lemma isDataset_iff : IsDataset v ↔ ∀ i ∈ items v, i.error? = none := by
  simp only [items, List.forall_mem_cons, List.forall_mem_flatMap, ← isLanguage_iff]
  constructor
  · rintro ⟨h⟩
    exact ⟨rfl, h⟩
  · rintro ⟨hmapping, h⟩
    cases v with
    | mapping languages => exact .mapping h
    | _ => cases hmapping

instance (v : Value) : Decidable (IsDataset v) := decidable_of_iff _ isDataset_iff.symm

/-! ### What is read -/

/-- A value is read exactly when it is a dataset, and what is read then follows from it. -/
lemma ofValue_eq_ok_iff {d : Dataset} :
    ofValue v = .ok d ↔
      IsDataset v ∧
        d = ⟨Mapping.ofList ((entriesOf v).map fun e => (e.1.plain, entryIn e.2))⟩ := by
  rw [ofValue_eq, judge_eq_ok_iff, isDataset_iff, eq_comm (a := d)]

/-- Among the categories of a section the first with the name decides. -/
lemma get?_categoriesIn {s : Section} (h : ∀ e ∈ s, ∃ c : Category, e.1 = .text c.name)
    (c : Category) :
    Mapping.get? (categoriesIn s) c =
      ((s.find? (·.1.plain == c.name)).map (·.2)).map prefixesIn := by
  induction s with
  | nil => rfl
  | cons e s ih =>
    obtain ⟨name, w⟩ := e
    obtain ⟨⟨c', hname⟩, hrest⟩ := List.forall_mem_cons.mp h
    obtain rfl : name = .text c'.name := hname
    have hcons : categoriesIn ((.text c'.name, w) :: s) = (c', prefixesIn w) :: categoriesIn s := by
      simp [categoriesIn, categoryOf?_eq_some_iff.mpr rfl]
    have hname : ((Key.text c'.name).plain == c.name) = (c == c') := by
      rw [Bool.eq_iff_iff, beq_iff_eq, beq_iff_eq]
      exact Category.name_inj.trans eq_comm
    rw [hcons, Mapping.get?_cons, ih hrest, List.find?_cons, hname]
    cases c == c' <;> rfl

/-- A category has the prefixes that stand last under its name. -/
lemma get?_entryIn (h : IsLanguage v) (c : Category) :
    Mapping.get? (entryIn v) c = (lastNamed? (entriesOf v) c.name).map prefixesIn := by
  obtain @⟨categories, names, -⟩ := h
  -- the last entry is the first from the end
  rw [entryIn, Mapping.get?_ofList, categoriesIn, ← List.filterMap_reverse]
  exact get?_categoriesIn (fun e he => names e (List.mem_reverse.mp he)) c

/-- A code has the language that stands last under what the code is written as. -/
lemma get?_languages {d : Dataset} (h : ofValue v = .ok d) (code : Text) :
    Mapping.get? d.languages code = (lastNamed? (entriesOf v) code).map entryIn := by
  obtain ⟨-, rfl⟩ := ofValue_eq_ok_iff.mp h
  rw [Mapping.get?_ofList, ← List.map_reverse,
    Mapping.get?_map (fun e : Key × Value => e.1.plain) (fun e => entryIn e.2), lastNamed?,
    Option.map_map]
  rfl

lemma exists_of_lastNamed? {s : Section} {name : Text} {w : Value}
    (h : lastNamed? s name = some w) : ∃ e ∈ s, e.2 = w := by
  obtain ⟨e, he, rfl⟩ := Option.map_eq_some_iff.mp h
  exact ⟨e, List.mem_reverse.mp (List.mem_of_find?_eq_some he), rfl⟩

/-- No allowed prefix is blank. -/
lemma trim_ne_nil_of_mem (h : IsPrefixes v) {t : Text} (ht : t ∈ prefixesIn v) :
    Text.trim t ≠ [] := by
  obtain ⟨w, hw, hwt⟩ := List.mem_filterMap.mp ht
  have hw' : IsPrefix w := by
    rcases h with ⟨⟨h⟩⟩ | ⟨h⟩
    · obtain rfl := List.mem_singleton.mp hw
      exact .text h
    · exact h w hw
  obtain ⟨h⟩ := hw'
  obtain rfl := Option.some.inj hwt
  exact h

lemma trim_ne_nil_of_get?_entryIn (h : IsLanguage v) {c : Category} {ts : List Text}
    (hts : Mapping.get? (entryIn v) c = some ts) : ∀ t ∈ ts, Text.trim t ≠ [] := by
  rw [get?_entryIn h] at hts
  obtain ⟨w, hw, rfl⟩ := Option.map_eq_some_iff.mp hts
  obtain ⟨e, he, rfl⟩ := exists_of_lastNamed? hw
  obtain ⟨-, hprefixes⟩ := h
  intro t ht
  exact trim_ne_nil_of_mem (hprefixes e he) ht

/-- No keyword of a language that is read is blank. -/
lemma trim_ne_nil_of_candidates {d : Dataset} {language : Text} {k : KeywordTable}
    (h : ofValue v = .ok d) (hk : KeywordTable.select d language = .ok k) (c : Category) :
    ∀ t ∈ k.candidates c, Text.trim t ≠ [] := by
  obtain ⟨entry, hentry, rfl⟩ := KeywordTable.select_eq_ok_iff.mp hk
  rw [get?_languages h] at hentry
  obtain ⟨w, hw, rfl⟩ := Option.map_eq_some_iff.mp hentry
  obtain ⟨e, he, rfl⟩ := exists_of_lastNamed? hw
  obtain ⟨hlanguages⟩ := (ofValue_eq_ok_iff.mp h).1
  intro t ht
  obtain ⟨ts, hts, ht⟩ := KeywordTable.mem_candidates_ofEntry_iff.mp ht
  exact trim_ne_nil_of_get?_entryIn (hlanguages e he) hts t ht

/-- A value is a keyword dataset if its items are as they have to be, down to each prefix; otherwise
the first item that is not, where the items of an item stand behind it, is the error. The language
of a code is the last one under what the code is written as, and a category of it has the prefixes
that stand last under its name, in their order. No blank line begins with a keyword. -/
theorem ofValue_validated (v : Value) :
    ((∃ d, ofValue v = .ok d) ↔ IsDataset v) ∧
      (∀ e, ofValue v = .error e ↔ (items v).findSome? Item.error? = some e) ∧
      ∀ d, ofValue v = .ok d →
        (∀ code c, (Mapping.get? d.languages code).map (Mapping.get? · c) =
          (lastNamed? (entriesOf v) code).map fun w =>
            (lastNamed? (entriesOf w) c.name).map prefixesIn) ∧
        ∀ language k, KeywordTable.select d language = .ok k →
          ∀ line, Text.isBlank line → ∀ c, ¬ k.Matches line c := by
  refine ⟨?accepted, fun e => ?rejected, fun d hd => ⟨fun code c => ?read, ?blank⟩⟩
  case accepted =>
    constructor
    · rintro ⟨d, hd⟩
      exact (ofValue_eq_ok_iff.mp hd).1
    · intro h
      exact ⟨_, ofValue_eq_ok_iff.mpr ⟨h, rfl⟩⟩
  case rejected => rw [ofValue_eq, judge_eq_error_iff]
  case read =>
    rw [get?_languages hd, Option.map_map]
    refine Option.map_congr fun w hw => ?_
    obtain ⟨e, he, rfl⟩ := exists_of_lastNamed? hw
    -- the entry that counts is one of the value's own, so it was judged with the others
    obtain ⟨hlanguages⟩ := (ofValue_eq_ok_iff.mp hd).1
    exact get?_entryIn (hlanguages e he) c
  case blank =>
    intro language k hk line hline c
    refine KeywordTable.not_matches_of_isBlank ?_ hline
    intro hnil
    exact trim_ne_nil_of_candidates hd hk c [] hnil rfl

/-- Two codes that are written alike, and a blank prefix before a name that is no category. -/
theorem ofValue_validated_alike :
    let latter : Value :=
      .mapping [(.text "Given", .text "İ"), (.text "And", .list [.text "Σ ", .text "b"])]
    let v : Value := .mapping [(.int 1, .mapping [(.text "When", .text "c")]),
      (.null, .mapping []), (.text "1", latter)]
    let w : Value := .mapping [(.text "1", latter), (.bool true, .mapping
      [(.text "Then", .list [.text "ok", .text " \u3000"]), (.text "x", .int 3)])]
    IsDataset v ∧ (∃ d, ofValue v = .ok d ∧
      (Mapping.get? d.languages "1").map (Mapping.get? · .conjunction) =
        some (some (["Σ ", "b"] : List Text)) ∧
      (Mapping.get? d.languages "1").map (Mapping.get? · .action) = some none ∧
      (Mapping.get? d.languages "None").map (Mapping.get? · .action) = some none ∧
      (Mapping.get? d.languages "null").map (Mapping.get? · .action) = none ∧
      ∀ k, KeywordTable.select d "1" = .ok k → ¬ k.Matches "\t\u3000" .conjunction) ∧
    ¬ IsDataset w ∧
      ofValue w = .error (.badPrefix (.bool true) (.text "Then") (.text " \u3000")) := by
  intro latter v w
  obtain ⟨haccepted, -, hread⟩ := ofValue_validated v
  obtain ⟨-, hrejected, -⟩ := ofValue_validated w
  have hv : IsDataset v := by decide +kernel
  obtain ⟨d, hd⟩ := haccepted.mpr hv
  obtain ⟨hentry, hblank⟩ := hread d hd
  refine ⟨hv, ⟨d, hd, ?_, ?_, ?_, ?_, fun k hk => hblank _ k hk _ (by decide) _⟩, by decide +kernel,
    (hrejected _).mpr ?_⟩
  · rw [hentry]
    decide +kernel
  · rw [hentry]
    decide +kernel
  · rw [hentry]
    decide +kernel
  · rw [hentry]
    decide +kernel
  · rfl

end Dataset

end FeatureDocs
