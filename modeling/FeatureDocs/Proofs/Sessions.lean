import FeatureDocs.Document.Session
import FeatureDocs.Keyword.Packaged
import FeatureDocs.Proofs.Frames
import FeatureDocs.Proofs.Headers

/-!
# One parser for many documents

A parser that stays keeps its cursor where the last document left it, which may be in the midst of
any production, and adds to one collection of features. Nevertheless it parses each document as a
new parser does, and the collection grows by the features of the outcome: a session is served as if
nothing was kept but the collection (`Session.descent_serve`).
-/

namespace FeatureDocs

/-! ### Requests -/

/-- What may be asked of a parser that stays: to parse a document, or to forget what it has
collected. -/
inductive Request
  | parse (document : Source) (source : Text)
  | clear

/-- What became of a request: the result for a document, and all features that are collected then. -/
structure Answer where
  parsing : Option Parsing
  collected : List Feature

/-- Serve one request in a session. -/
def Session.answer (s : Session) (resolver : Option Resolver) : Request → Session × Option Parsing
  | .parse document source => ((s.parse resolver document source).1,
      some (s.parse resolver document source).2)
  | .clear => (s.clear, none)

/-- Serve requests in a session, one after the other. -/
def Session.serve (s : Session) (resolver : Option Resolver) : List Request → Session × List Answer
  | [] => (s, [])
  | request :: requests =>
    let (s, parsing) := s.answer resolver request
    let (last, answers) := s.serve resolver requests
    (last, ⟨parsing, s.collected⟩ :: answers)

namespace Descent

variable (k : KeywordTable) (resolver : Option Resolver)

/-- A parser is given a document: its cursor is before the first line, wherever it was. -/
def State.load (s : State) (document : Source) : State :=
  { s with cursor := Cursor.ofSource document, visited := 0 :: s.visited }

/-- The result for a document: what was added since another state. -/
def State.since (s before : State) (source : Text) (rejection : Option Rejection) : Parsing where
  outcome := { features := s.features.drop before.features.length, rejection, source }
  asked := s.asked.drop before.asked.length
  log := s.log.drop before.log.length

/-- Go on behind a rejection, which is reported. All else that may stop a descent still does. -/
noncomputable def attempt (source : Text) (x : Descent Unit) : Descent (Option Rejection) :=
  tryCatch
    (do
      x
      return none)
    fun
      | .rejected r => do
        modify fun s => { s with log := s.log ++ r.log source }
        return some r
      | stop => throw stop

/-- Parse a document with a parser that may have been used before. -/
noncomputable def call (document : Source) (source : Text) : Descent Parsing := do
  let before ← get
  modify (·.load document)
  let rejection ← attempt source (Descent.document k resolver source)
  return (← get).since before source rejection

/-- Serve one request with a parser that may have been used before. -/
noncomputable def answer : Request → Descent (Option Parsing)
  | .parse document source => do return some (← call k resolver document source)
  | .clear => do
    modify fun s => { s with features := [] }
    return none

/-- Serve requests with one parser, one after the other. -/
noncomputable def serve : List Request → Descent (List Answer)
  | [] => return []
  | request :: requests => do
    let parsing ← answer k resolver request
    let collected := (← get).features
    return ⟨parsing, collected⟩ :: (← serve requests)

/-! ### One document -/

section Attempt

variable {x : Descent Unit} {s s' : State} {source : Text}

/-- A parser that succeeds reports no rejection. -/
lemma attempt_ok (h : x s = some (.ok (), s')) : attempt source x s = some (.ok none, s') := by
  show (x >>= fun _ => pure (none : Option Rejection) : Descent _) s >>= _ = _
  rw [bind_ok h]
  rfl

/-- A parser that rejects logs the rejection and reports it. -/
lemma attempt_rejected {r : Rejection} (h : x s = some (.error (.rejected r), s')) :
    attempt source x s = some (.ok (some r), { s' with log := s'.log ++ r.log source }) := by
  show (x >>= fun _ => pure (none : Option Rejection) : Descent _) s >>= _ = _
  rw [bind_error h]
  rfl

end Attempt

/-- A parser that is given a document is a new one, but for what there was before. -/
lemma load_eq (s : State) (document : Source) :
    s.load document = State.behind { cursor := Cursor.ofSource document } s := by
  simp [State.load, State.behind, Cursor.ofSource]

lemma since_behind (s prior : State) (source : Text) (rejection : Option Rejection) :
    (s.behind prior).since prior source rejection =
      { outcome := { features := s.features, rejection, source }, asked := s.asked, log := s.log }
      := by
  simp [State.since, State.behind]

/-- A parser gives for a document what a new one gives with what is left of the resolver, and
collects its features. -/
lemma call_apply (k : KeywordTable) (resolver : Option Resolver) (document : Source)
    (source : Text) (s : State) :
    ∃ s', call k resolver document source s =
        some (.ok (k.parse (resolver.map (·.skip s.asked.length)) document source), s') ∧
      s'.features = s.features ++
        (k.parse (resolver.map (·.skip s.asked.length)) document source).outcome.features ∧
      s'.asked = s.asked ++
        (k.parse (resolver.map (·.skip s.asked.length)) document source).asked := by
  -- a parser with a past behaves as a fresh one, framed by what it had collected, asked and logged
  obtain ⟨out, s₁, hx, -, hagrees⟩ :=
    document_fresh k (resolver.map (·.skip s.asked.length)) document source
  have hload : Descent.document k resolver source (s.load document) =
      some (out, s₁.behind s) := by
    rw [load_eq, document_framesTo k s resolver source, hx]
    rfl
  rw [call, bind_ok get_apply, bind_ok (modify_apply _), KeywordTable.parse]
  generalize k.read document.toLines = r at hagrees
  cases hagrees with
  | accepted hr h =>
    refine ⟨s₁.behind s, ?_, ?_, ?_⟩
    · rw [bind_ok (attempt_ok hload), bind_ok get_apply, since_behind, h.parsing_eq, hr]
      rfl
    · rw [← h.features]
      rfl
    · rw [← h.asked]
      rfl
  | rejected hr e h =>
    have hreport : { s₁.behind s with log := (s₁.behind s).log ++ e.log source } =
        { s₁ with log := s₁.log ++ e.log source }.behind s := by
      simp [State.behind]
    refine ⟨{ s₁ with log := s₁.log ++ e.log source }.behind s, ?_, ?_, ?_⟩
    · rw [bind_ok (attempt_rejected hload), hreport, bind_ok get_apply, since_behind,
        Reading.parsing_rejected hr, ← h.features, ← h.asked, ← h.log]
      rfl
    · rw [Reading.parsing_rejected hr, ← h.features]
      rfl
    · rw [Reading.parsing_rejected hr, ← h.asked]
      rfl

end Descent

/-! ### Sessions -/

/-- Requests, with what was collected before them, and their answers: a document is answered as by a
new parser, and its features are collected, which are those that are complete. -/
inductive Answered (k : KeywordTable) (resolver : Option Resolver) :
    List Feature → List Request → List Answer → Prop
  | nil (collected : List Feature) : Answered k resolver collected [] []
  | parse {collected : List Feature} {document : Source} {source : Text} {p : Parsing}
      {visited : List Nat} {requests : List Request} {answers : List Answer}
      (hnew : k.descend resolver document source = some (.ok (p, visited)))
      (hcomplete : p.outcome.Completes k document.toLines)
      (h : Answered k resolver (collected ++ p.outcome.features) requests answers) :
      Answered k resolver collected (.parse document source :: requests)
        (⟨some p, collected ++ p.outcome.features⟩ :: answers)
  | clear {collected : List Feature} {requests : List Request} {answers : List Answer}
      (h : Answered k resolver [] requests answers) :
      Answered k resolver collected (.clear :: requests) (⟨none, []⟩ :: answers)

/-- In a session every document is parsed as by a new parser. -/
lemma Session.serve_answered (s : Session) (resolver : Option Resolver) (requests : List Request) :
    Answered s.keywords resolver s.collected requests (s.serve resolver requests).2 := by
  induction requests generalizing s with
  | nil => exact .nil _
  | cons request requests ih =>
    cases request with
    | parse document source =>
      obtain ⟨visited, hnew, -⟩ := s.keywords.descend_eq resolver document source
      exact .parse hnew (s.keywords.outcome_completes resolver document source)
        (ih (s.parse resolver document source).1)
    | clear => exact .clear (ih s.clear)

/-- A parser that stays answers one request as a session does. -/
lemma Descent.answer_apply (s : Session) (find : Option (Text → Lookup)) (request : Request)
    (t : State) (ht : t.features = s.collected) :
    ∃ t', Descent.answer s.keywords (find.map Resolver.ofName) request t =
        some (.ok (s.answer (find.map Resolver.ofName) request).2, t') ∧
      t'.features = (s.answer (find.map Resolver.ofName) request).1.collected ∧
      (s.answer (find.map Resolver.ofName) request).1.keywords = s.keywords := by
  cases request with
  | parse document source =>
    obtain ⟨t', hcall, hfeatures, -⟩ :=
      call_apply s.keywords (find.map Resolver.ofName) document source t
    rw [Resolver.map_skip_ofName] at hcall hfeatures
    refine ⟨t', ?_, ?_, rfl⟩
    · rw [answer, bind_ok hcall]
      rfl
    · rw [hfeatures, ht]
      rfl
  | clear => exact ⟨{ t with features := [] }, rfl, rfl, rfl⟩

lemma Descent.serve_apply (s : Session) (find : Option (Text → Lookup)) (requests : List Request)
    (t : State) (ht : t.features = s.collected) :
    ∃ t', Descent.serve s.keywords (find.map Resolver.ofName) requests t =
        some (.ok (s.serve (find.map Resolver.ofName) requests).2, t') ∧
      t'.features = (s.serve (find.map Resolver.ofName) requests).1.collected := by
  induction requests generalizing s t with
  | nil => exact ⟨t, rfl, ht⟩
  | cons request requests ih =>
    obtain ⟨t₁, hanswer, ht₁, hkeywords⟩ := answer_apply s find request t ht
    obtain ⟨t', hserve, ht'⟩ := ih (s.answer (find.map Resolver.ofName) request).1 t₁ ht₁
    rw [hkeywords] at hserve
    refine ⟨t', ?_, ht'⟩
    rw [serve, bind_ok hanswer, bind_ok get_apply, bind_ok hserve, ht₁]
    rfl

/-- One parser serves any requests, wherever its cursor was left, and whatever it has collected
before: each document is answered as by a new parser, the collection grows by the features of the
outcome, and the feature that a document is rejected in is not among them. -/
theorem Session.descent_serve (s : Session) (find : Option (Text → Lookup))
    (requests : List Request) (t : Descent.State) :
    ∃ t', Descent.serve s.keywords (find.map Resolver.ofName) requests
        { t with features := s.collected } =
          some (.ok (s.serve (find.map Resolver.ofName) requests).2, t') ∧
      t'.features = (s.serve (find.map Resolver.ofName) requests).1.collected ∧
      Answered s.keywords (find.map Resolver.ofName) s.collected requests
        (s.serve (find.map Resolver.ofName) requests).2 := by
  obtain ⟨t', hserve, ht'⟩ :=
    Descent.serve_apply s find requests { t with features := s.collected } rfl
  exact ⟨t', hserve, ht', s.serve_answered _ requests⟩

/-- A document that is rejected in its second feature, another one, and an empty one. -/
example :
    let s : Session := { keywords := .ofEntry "en" Dataset.english }
    let requests : List Request :=
      [.parse (.lines ["Feature: a", "Feature: b", "Scenario: c"]) [],
        .parse (.lines ["Feature: d"]) [], .clear, .parse (.lines []) []]
    (s.serve none requests).2.map (fun a => a.collected.map (·.name)) =
      ([["a"], ["a", "d"], [], []] : List (List Text)) := by
  rfl

end FeatureDocs
