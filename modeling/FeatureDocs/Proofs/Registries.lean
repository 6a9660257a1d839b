import FeatureDocs.Proofs.Orders
import FeatureDocs.Registry.Basic
import Mathlib.Data.List.Dedup
import Mathlib.Data.List.ReduceOption

/-!
# What a registry has seen

A registry keeps of all registrations the last one for each key (`Registry.Reflects`), in whatever
order they came and whichever of them came from settings. What it resolves, how many features it
has, how they are listed and what was said follows from the registrations so far
(`Registry.run_calls`).
-/

namespace FeatureDocs

/-- What counts of the name of a registration. -/
def Registration.key (d : Registration) : Text := Registry.key d.feature

/-- What is said about a registration. -/
def Registration.log (d : Registration) (replaces : Bool) : Log :=
  (if replaces then [⟨.warning, "Replacing step definitions for feature: " ++ d.feature⟩]
    else []) ++
    [⟨.info, "Registered step definitions: " ++ d.feature ++ " -> " ++
      Registry.shownHandle d.handle⟩]

namespace Registry

/-! ### Calls -/

/-- What can be asked of a registry that changes it. -/
inductive Call
  | register (feature : Text) (handle : Option Handle) (source : Text)
  /-- A definition registers itself. -/
  | define (feature : Text) (handle : Option Handle)
  | settings (providers : Providers) (v : Value)

/-- The registry after a call, and what was said. -/
def call (r : Registry) : Call → Registry × Log
  | .register feature handle source => r.register feature handle source
  | .define feature handle => r.register feature handle defaultSource
  | .settings ps v => ((r.registerAll ps v).1, (r.registerAll ps v).2.1)

/-- The registry after some calls, and what was said. -/
def run (r : Registry) : List Call → Registry × Log
  | [] => (r, [])
  | c :: cs => (((r.call c).1.run cs).1, (r.call c).2 ++ ((r.call c).1.run cs).2)

/-- What entries of settings register, up to the first that cannot be registered. -/
def registrable (ps : Providers) (entries : Section) : List Registration :=
  ((entries.map fun e => (registrationOf ps e.1 e.2).toOption).takeWhile
    Option.isSome).reduceOption

/-- The registrations that a call makes. -/
def Call.made : Call → List Registration
  | .register feature handle source => [{ feature, handle, source }]
  | .define feature handle => [{ feature, handle, source := defaultSource }]
  | .settings ps v => registrable ps (v.section?.getD [])

/-- The last registration for a key. -/
def latest? (history : List Registration) (k : Text) : Option Registration :=
  history.reverse.find? (·.key == k)

/-- The registry with more registrations, one after the other, and what was said. -/
def addAll (r : Registry) : List Registration → Registry × Log
  | [] => (r, [])
  | d :: ds =>
    let next := r.register d.feature d.handle d.source
    ((next.1.addAll ds).1, next.2 ++ (next.1.addAll ds).2)

variable {r : Registry} {history : List Registration}

lemma addAll_cons (r : Registry) (d : Registration) (ds : List Registration) :
    r.addAll (d :: ds) =
      (((r.register d.feature d.handle d.source).1.addAll ds).1,
        (r.register d.feature d.handle d.source).2 ++
          ((r.register d.feature d.handle d.source).1.addAll ds).2) := rfl

lemma addAll_append (r : Registry) (ds ds' : List Registration) :
    r.addAll (ds ++ ds') =
      (((r.addAll ds).1.addAll ds').1, (r.addAll ds).2 ++ ((r.addAll ds).1.addAll ds').2) := by
  induction ds generalizing r with
  | nil => rfl
  | cons d ds ih => rw [List.cons_append, addAll_cons, addAll_cons, ih, List.append_assoc]

/-- Settings are registered up to the first entry that cannot be. -/
lemma registerEntries_eq (ps : Providers) (r : Registry) (entries : Section) :
    registerEntries ps r entries =
      ((r.addAll (registrable ps entries)).1, (r.addAll (registrable ps entries)).2,
        entries.findSome? fun e =>
          match registrationOf ps e.1 e.2 with
          | .ok _ => none
          | .error e => some e) := by
  induction entries generalizing r with
  | nil => rfl
  | cons e entries ih =>
    obtain ⟨feature, target⟩ := e
    rw [registerEntries, List.findSome?_cons]
    cases h : registrationOf ps feature target with
    | error e =>
      have hnone : registrable ps ((feature, target) :: entries) = [] := by
        simp [registrable, h, Except.toOption]
      rw [hnone]
      rfl
    | ok d =>
      have hcons : registrable ps ((feature, target) :: entries) =
          d :: registrable ps entries := by
        simp [registrable, h, Except.toOption]
      simp only [hcons, ih, addAll_cons]

/-- A call adds the registrations that it makes. -/
lemma call_eq (r : Registry) (c : Call) : r.call c = r.addAll c.made := by
  cases c with
  | register feature handle source => simp [call, Call.made, addAll]
  | define feature handle => simp [call, Call.made, addAll]
  | settings ps v =>
    cases v with
    | mapping entries =>
      rw [call, registerAll, registerEntries_eq]
      rfl
    | _ => rfl

/-- Calls in turn add all the registrations that they make. -/
lemma run_eq (r : Registry) (cs : List Call) : r.run cs = r.addAll (cs.flatMap Call.made) := by
  induction cs generalizing r with
  | nil => rfl
  | cons c cs ih => rw [run, ih, call_eq, List.flatMap_cons, addAll_append]

/-! ### The last registrations -/

/-- A registry has seen some registrations: each key has the last of its own. -/
structure Reflects (r : Registry) (history : List Registration) : Prop where
  nodup : (Mapping.keys r.entries).Nodup
  get? : ∀ k, Mapping.get? r.entries k = latest? history k

lemma latest?_concat (history : List Registration) (d : Registration) (k : Text) :
    latest? (history ++ [d]) k = if k == d.key then some d else latest? history k := by
  rw [latest?, List.reverse_append, List.reverse_singleton, List.singleton_append,
    List.find?_cons, BEq.comm]
  cases k == d.key <;> rfl

lemma isSome_latest? (history : List Registration) (k : Text) :
    (latest? history k).isSome = history.any (·.key == k) := by
  rw [Bool.eq_iff_iff, latest?, List.find?_isSome]
  simp only [List.mem_reverse, List.any_eq_true]

lemma key_of_latest? {k : Text} {d : Registration} (h : latest? history k = some d) :
    d.key = k := by
  simpa using List.find?_some h

/-- Registering adds to the history that a registry reflects. -/
lemma Reflects.register (h : r.Reflects history) (d : Registration) :
    (r.register d.feature d.handle d.source).1.Reflects (history ++ [d]) where
  nodup := Mapping.nodup_keys_insert h.nodup _ _
  get? k := by
    rw [latest?_concat, ← h.get? k]
    exact Mapping.get?_insert r.entries d.key k d

/-- Registering warns exactly when the key was used before. -/
lemma Reflects.log_register (h : r.Reflects history) (d : Registration) :
    (r.register d.feature d.handle d.source).2 = d.log (history.any (·.key == d.key)) := by
  have hcontains : Mapping.contains r.entries d.key = history.any (·.key == d.key) := by
    rw [Mapping.contains, h.get?, isSome_latest?]
  rw [← hcontains]
  rfl

lemma Reflects.addAll (h : r.Reflects history) (ds : List Registration) :
    (r.addAll ds).1.Reflects (history ++ ds) := by
  induction ds generalizing r history with
  | nil => rwa [List.append_nil]
  | cons d ds ih =>
    have hnext := ih (h.register d)
    rwa [List.append_assoc] at hnext

/-- What is said about each registration depends on those before it. -/
lemma Reflects.log_addAll (h : r.Reflects history) (ds : List Registration) :
    (r.addAll ds).2 =
      (ds.zipIdx history.length).flatMap fun p =>
        p.1.log (((history ++ ds).take p.2).any (·.key == p.1.key)) := by
  induction ds generalizing r history with
  | nil => rfl
  | cons d ds ih =>
    have hmore := ih (h.register d)
    rw [List.append_assoc, List.length_append] at hmore
    rw [addAll_cons, List.zipIdx_cons, List.flatMap_cons, List.take_left, h.log_register, hmore]
    rfl

lemma reflects_empty : Reflects {} [] := ⟨List.nodup_nil, fun _ => rfl⟩

lemma mem_of_latest? {k : Text} {d : Registration} (h : latest? history k = some d) :
    d ∈ history :=
  List.mem_reverse.mp (List.mem_of_find?_eq_some h)

lemma Reflects.latest?_of_mem (h : r.Reflects history) {k : Text} {d : Registration}
    (hd : (k, d) ∈ r.entries) : latest? history k = some d := by
  rw [← h.get?, Mapping.get?_of_mem h.nodup hd]

/-- A registry has an entry for each key that was registered. -/
lemma Reflects.keys_perm (h : r.Reflects history) :
    (Mapping.keys r.entries).Perm (history.map Registration.key).dedup := by
  refine (List.perm_ext_iff_of_nodup h.nodup (List.nodup_dedup _)).mpr fun k => ?_
  rw [List.mem_dedup]
  constructor
  · intro hk
    obtain ⟨⟨k, d⟩, hd, rfl⟩ := List.mem_map.mp hk
    have hlatest := h.latest?_of_mem hd
    exact List.mem_map.mpr ⟨d, mem_of_latest? hlatest, key_of_latest? hlatest⟩
  · intro hk
    obtain ⟨d, hd, rfl⟩ := List.mem_map.mp hk
    have hsome : (latest? history d.key).isSome := by
      rw [isSome_latest?]
      exact List.any_eq_true.mpr ⟨d, hd, BEq.rfl⟩
    obtain ⟨d', hd'⟩ := Option.isSome_iff_exists.mp hsome
    rw [← h.get?] at hd'
    exact Mapping.mem_keys (Mapping.mem_of_get? hd')

lemma Reflects.keys_eq (h : r.Reflects history) :
    Mapping.keys r.entries = ((Mapping.values r.entries).map (·.feature)).map Registry.key := by
  rw [Mapping.keys, Mapping.values, List.map_map, List.map_map]
  exact List.map_congr_left fun e he => (key_of_latest? (h.latest?_of_mem he)).symm

/-- Of settings that cannot all be registered, those before the first of these are. -/
lemma registerAll_of_error {ps : Providers} {before after : Section} {feature : Key}
    {target : Value} {e : Error} (r : Registry)
    (hbefore : ∀ x ∈ before, ∃ d, registrationOf ps x.1 x.2 = .ok d)
    (he : registrationOf ps feature target = .error e) :
    r.registerAll ps (.mapping (before ++ (feature, target) :: after)) =
        ((r.registerAll ps (.mapping before)).1, (r.registerAll ps (.mapping before)).2.1,
          some e) ∧
      (r.registerAll ps (.mapping before)).2.2 = none := by
  induction before generalizing r with
  | nil =>
    rw [List.nil_append, registerAll, registerEntries, he]
    exact ⟨rfl, rfl⟩
  | cons x before ih =>
    obtain ⟨feature', target'⟩ := x
    obtain ⟨⟨d, hd⟩, hbefore⟩ := List.forall_mem_cons.mp hbefore
    obtain ⟨heffect, hnone⟩ := ih (r.register d.feature d.handle d.source).1 hbefore
    simp only [registerAll] at heffect hnone
    simp only [registerAll, List.cons_append, registerEntries, hd, heffect, hnone, and_self]

/-- After any calls on a new registry, a name is resolved by the last registration for its key, if
there is one. The registry has as many features as there were keys; it lists them in ascending
order, one for each key, as they were last spelled. A replacement is announced for each
registration whose key was registered before, and for no other. Settings that cannot all be
registered have the effect of those before the first that cannot. -/
theorem run_calls (calls : List Call) :
    let r := (run {} calls).1
    let history := calls.flatMap Call.made
    (∀ name, r.resolve name = (latest? history (key name)).bind (·.handle)) ∧
    r.size = (history.map Registration.key).dedup.length ∧
    (r.features.Pairwise fun a b => Text.le a b) ∧
    (r.features.map key).Perm (history.map Registration.key).dedup ∧
    (∀ feature ∈ r.features, (latest? history (key feature)).map (·.feature) = some feature) ∧
    ((run {} calls).2 = history.zipIdx.flatMap fun (d, i) =>
      d.log ((history.take i).any (·.key == d.key))) ∧
    ∀ (r : Registry) (ps : Providers) (before after : Section) (feature : Key) (target : Value)
      (e : Error), (∀ x ∈ before, ∃ d, registrationOf ps x.1 x.2 = .ok d) →
      registrationOf ps feature target = .error e →
      r.registerAll ps (.mapping (before ++ (feature, target) :: after)) =
          ((r.registerAll ps (.mapping before)).1, (r.registerAll ps (.mapping before)).2.1,
            some e) ∧
        (r.registerAll ps (.mapping before)).2.2 = none := by
  intro r history
  have hrun : run {} calls = addAll {} history := run_eq {} calls
  -- the registry is only ever looked at through the history that it reflects
  have hr : r.Reflects history := by
    have hall := reflects_empty.addAll history
    rwa [List.nil_append, ← hrun] at hall
  have hfeatures : r.features.Perm ((Mapping.values r.entries).map (·.feature)) :=
    Text.sort_perm _
  refine ⟨fun name => ?resolve, ?size, Text.pairwise_sort _, ?keys,
    fun feature hfeature => ?spelling, ?log, fun r _ _ _ _ _ _ => registerAll_of_error r⟩
  case resolve => rw [resolve, hr.get?]
  case size =>
    rw [← hr.keys_perm.length_eq]
    exact (List.length_map _).symm
  case keys =>
    refine (hfeatures.map key).trans ?_
    rw [← hr.keys_eq]
    exact hr.keys_perm
  case spelling =>
    obtain ⟨d, hd, rfl⟩ := List.mem_map.mp (hfeatures.mem_iff.mp hfeature)
    obtain ⟨⟨k, d⟩, hmem, rfl⟩ := List.mem_map.mp hd
    have hlatest := hr.latest?_of_mem hmem
    have hkey : key d.feature = k := key_of_latest? hlatest
    rw [hkey, hlatest, Option.map_some]
  case log =>
    rw [hrun, reflects_empty.log_addAll history]
    rfl

/-- Names that differ in letters with forms of their own at the end of a word, or of two characters,
in a list of settings of which the third cannot be registered. -/
theorem run_calls_mixed :
    let ps : Providers := [⟨"p", false, [("A", some (.definition "A")), ("N", none)]⟩]
    let before : Section := [(.text "ΟΔΟΣ ", .text "p.A"), (.text "İ", .text "p.N")]
    let after : Section := [(.text "y", .text "p.A")]
    let calls : List Call :=
      [.register "οδος" (some (.value (.text "1"))) "code",
        .settings ps (.mapping (before ++ (.text "z", .text "p.B") :: after)),
        .define "i\u0307" (some (.definition "D"))]
    let r := (run {} calls).1
    (∀ x ∈ before, ∃ d, registrationOf ps x.1 x.2 = .ok d) ∧
      registrationOf ps (.text "z") (.text "p.B") = .error (.provider (.noMember "p" "B")) ∧
      (registerAll r ps (.mapping (before ++ (.text "z", .text "p.B") :: after))).1 =
        (registerAll r ps (.mapping before)).1 ∧
      (r.resolve " Οδος").map Handle.plain = some "A" ∧ r.resolve "οδοσ" = none ∧
      (r.resolve "İ").map Handle.plain = some "D" ∧
      r.size = 2 ∧ r.features = (["i\u0307", "ΟΔΟΣ "] : List Text) ∧
      (latest? (calls.flatMap Call.made) (key "ΟΔΟΣ ")).map (·.feature) = some "ΟΔΟΣ " ∧
      ((run {} calls).2.filter (·.level = .warning)).map (·.text) =
        (["Replacing step definitions for feature: ΟΔΟΣ ",
          "Replacing step definitions for feature: i\u0307"] : List Text) := by
  intro ps before after calls r
  obtain ⟨hresolve, hsize, -, -, hspelling, hlog, hsettings⟩ := run_calls calls
  have hbefore : ∀ x ∈ before, ∃ d, registrationOf ps x.1 x.2 = .ok d := by
    rintro x hx
    rcases List.mem_cons.mp hx with rfl | hx
    · exact ⟨_, rfl⟩
    · obtain rfl := List.mem_singleton.mp hx
      exact ⟨_, rfl⟩
  have hbroken : registrationOf ps (.text "z") (.text "p.B") =
    .error (.provider (.noMember "p" "B")) := by rfl
  have hvalues : (Mapping.values r.entries).map (·.feature) =
    (["ΟΔΟΣ ", "i\u0307"] : List Text) := by decide +kernel
  have hfeatures : r.features = (["i\u0307", "ΟΔΟΣ "] : List Text) := by
    rw [features, hvalues]
    exact Text.sort_pair rfl
  obtain ⟨hstopped, -⟩ := hsettings r ps before after (.text "z") (.text "p.B") _ hbefore hbroken
  refine ⟨hbefore, hbroken, by rw [hstopped], ?_, ?_, ?_, ?_, hfeatures, ?_, ?_⟩
  · rw [hresolve]
    decide +kernel
  · rw [hresolve]
    decide +kernel
  · rw [hresolve]
    decide +kernel
  · rw [hsize]
    decide +kernel
  · exact hspelling "ΟΔΟΣ " (by rw [hfeatures]; decide)
  · rw [hlog]
    decide +kernel

end Registry

end FeatureDocs
