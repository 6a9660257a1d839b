import FeatureDocs.Text.Basic

/-!
# Wildcards

A wildcard is matched against one name. A star stands for any characters, a question mark for one,
and brackets for one of a set; a set is given by characters and by ranges with a hyphen, and an
exclamation mark at its start turns it round. A bracket that is never closed stands for itself, and
a range that runs downwards holds nothing.

What a wildcard means is the relation `Matches`. It is decided (`accepts_iff`) by way of a row: the
answers for a name and for what is left of it behind each of its characters.
-/

namespace FeatureDocs

/-- A set of characters. -/
structure CharSet where
  negated : Bool := false
  members : List Char := []
  ranges : List (Char × Char) := []
  deriving DecidableEq

/-- Whether a character is in a set. -/
def CharSet.contains (s : CharSet) (c : Char) : Bool :=
  (s.members.contains c || s.ranges.any fun (low, high) => low ≤ c && c ≤ high) != s.negated

/-- The set of all characters. -/
def CharSet.all : CharSet := { negated := true }

/-- The set of one character. -/
def CharSet.single (c : Char) : CharSet := { members := [c] }

/-- One item of a wildcard: any characters, or one of a set. -/
inductive WildcardItem
  | run
  | one (s : CharSet)
  deriving DecidableEq

/-- The items of a wildcard, in order. -/
abbrev Wildcard := List WildcardItem

/-! ### Sets -/

namespace CharSet

/-- The pieces of a set between the hyphens that stand for ranges. The first `least` characters of
a piece belong to it, hyphens included; `piece` holds what is read of it, the last character
first. -/
def pieces (least : Nat) (piece : Text) : Text → List Text
  | [] => [piece.reverse]
  | c :: rest =>
    if c = '-' ∧ least = 0 then piece.reverse :: pieces 2 [] rest
    else pieces (least - 1) (c :: piece) rest

/-- The pieces with a hyphen at the very end taken for itself. -/
def closeLast : List Text → List Text
  | [] => []
  | [p] => [p]
  | [p, []] => [p ++ ['-']]
  | p :: ps => p :: closeLast ps

/-- The pieces without the ranges that run downwards. -/
def dropEmptyRanges : List Text → List Text
  | [] => []
  | p :: ps =>
    match dropEmptyRanges ps with
    | [] => [p]
    | q :: qs =>
      match p.getLast?, q.head? with
      | some low, some high => if high < low then (p.dropLast ++ q.drop 1) :: qs else p :: q :: qs
      | _, _ => p :: q :: qs

/-- The ranges between neighbouring pieces. -/
def rangesOf : List Text → List (Char × Char)
  | p :: q :: qs =>
    match p.getLast?, q.head? with
    | some low, some high => (low, high) :: rangesOf (q :: qs)
    | _, _ => rangesOf (q :: qs)
  | _ => []

/-- The set that is written between two brackets. An exclamation mark also turns it round if only
dropped ranges stand in front of it. A hyphen right behind such a mark stands for itself. -/
def ofText (t : Text) : CharSet :=
  let least := if t.head? = some '!' then 2 else 1
  match dropEmptyRanges (closeLast (pieces least [] t)) with
  | ['!'] :: p :: ps =>
    { negated := true, members := '-' :: (p :: ps).flatten, ranges := rangesOf (p :: ps) }
  | ('!' :: p) :: ps =>
    { negated := true, members := (p :: ps).flatten, ranges := rangesOf (p :: ps) }
  | ps => { members := ps.flatten, ranges := rangesOf ps }

end CharSet

/-! ### Wildcards -/

namespace Wildcard

/-- The inside of brackets and what follows them. The first character, behind an exclamation mark,
does not close the brackets. -/
def bracketed? (t : Text) : Option (Text × Text) :=
  let start := match t with
    | '!' :: ']' :: _ => 2
    | '!' :: _ => 1
    | ']' :: _ => 1
    | _ => 0
  let rest := t.drop start
  match rest.dropWhile (· ≠ ']') with
  | [] => none
  | _ :: after => some (t.take start ++ rest.takeWhile (· ≠ ']'), after)

/-- The items that a text stands for, reading at most `fuel` of them. -/
def read : Nat → Text → Wildcard
  | 0, _ => []
  | _ + 1, [] => []
  | fuel + 1, c :: rest =>
    if c = '*' then .run :: read fuel rest
    else if c = '?' then .one .all :: read fuel rest
    else if c = '[' then
      match bracketed? rest with
      | some (inside, after) => .one (CharSet.ofText inside) :: read fuel after
      | none => .one (.single c) :: read fuel rest
    else .one (.single c) :: read fuel rest

/-- The wildcard that a text stands for. -/
def ofText (t : Text) : Wildcard := read t.length t

/-- Whether a text stands for more than itself. -/
def isWildcard (t : Text) : Bool := t.any fun c => c == '*' || c == '?' || c == '['

/-! ### Matching -/

/-- A name matches a wildcard item by item. -/
inductive Matches : Wildcard → Text → Prop
  | nil : Matches [] []
  | run {items : Wildcard} {rest : Text} (skipped : Text) (h : Matches items rest) :
      Matches (.run :: items) (skipped ++ rest)
  | one {s : CharSet} {items : Wildcard} {c : Char} {rest : Text} (hc : s.contains c)
      (h : Matches items rest) : Matches (.one s :: items) (c :: rest)

/-- Whether one of the answers from here on is yes, for each of the answers. -/
def yesFromHere (bs : List Bool) : List Bool :=
  bs.foldr (fun b answers => (b || answers.headD false) :: answers) []

@[simp] theorem yesFromHere_nil : yesFromHere [] = [] := rfl

@[simp] theorem yesFromHere_cons (b : Bool) (bs : List Bool) :
    yesFromHere (b :: bs) = (b || (yesFromHere bs).headD false) :: yesFromHere bs := rfl

/-- The answers for a name and for what is left of it behind each of its characters. -/
def row : Wildcard → Text → List Bool
  | [], name => name.map (fun _ => false) ++ [true]
  | .run :: items, name => yesFromHere (row items name)
  | .one s :: items, name =>
    List.zipWith (fun c b => s.contains c && b) name ((row items name).drop 1) ++ [false]

/-- Whether a name matches. -/
def accepts (w : Wildcard) (name : Text) : Bool := (row w name).headD false

theorem length_row (w : Wildcard) (name : Text) : (row w name).length = name.length + 1 := by
  have length_yesFromHere (bs : List Bool) : (yesFromHere bs).length = bs.length := by
    induction bs with
    | nil => rfl
    | cons b bs ih => simp [ih]
  induction w with
  | nil => simp [row]
  | cons item items ih => cases item <;> simp [row, length_yesFromHere, ih]

/-- The row of a name goes on with the row of what is left behind its first character. -/
theorem tail_row_cons (w : Wildcard) (c : Char) (name : Text) :
    (row w (c :: name)).tail = row w name := by
  have tail_yesFromHere (bs : List Bool) : (yesFromHere bs).tail = yesFromHere bs.tail := by
    cases bs <;> rfl
  induction w with
  | nil => rfl
  | cons item items ih =>
    cases item with
    | run => simp [row, tail_yesFromHere, ih]
    | one s =>
      simp only [row, List.drop_one, ih]
      have h := length_row items name
      cases hr : row items name with
      | nil => simp [hr] at h
      | cons b bs => simp

theorem row_nil (w : Wildcard) : row w [] = [w.accepts []] := by
  obtain ⟨b, hb⟩ := List.length_eq_one_iff.1 (length_row w [])
  simp [accepts, hb]

theorem row_cons (w : Wildcard) (c : Char) (name : Text) :
    row w (c :: name) = w.accepts (c :: name) :: row w name := by
  have h := length_row w (c :: name)
  have ht := tail_row_cons w c name
  unfold accepts
  cases hr : row w (c :: name) with
  | nil => simp [hr] at h
  | cons b bs => simp_all

theorem accepts_nil (name : Text) : accepts [] name = name.isEmpty := by
  cases name <;> rfl

theorem accepts_run_nil (items : Wildcard) : accepts (.run :: items) [] = accepts items [] := by
  change (yesFromHere (row items [])).headD false = _
  rw [row_nil]
  simp

theorem accepts_run_cons (items : Wildcard) (c : Char) (name : Text) :
    accepts (.run :: items) (c :: name) =
      (accepts items (c :: name) || accepts (.run :: items) name) := by
  change (yesFromHere (row items (c :: name))).headD false = _
  rw [row_cons]
  rfl

theorem accepts_one_nil (s : CharSet) (items : Wildcard) : accepts (.one s :: items) [] = false :=
  rfl

theorem accepts_one_cons (s : CharSet) (items : Wildcard) (c : Char) (name : Text) :
    accepts (.one s :: items) (c :: name) = (s.contains c && accepts items name) := by
  have h := length_row items name
  unfold accepts
  simp only [row, row_cons, List.drop_one, List.tail_cons]
  cases hr : row items name with
  | nil => simp [hr] at h
  | cons b bs => simp

/-- A run is matched by more characters too. -/
theorem Matches.skip {items : Wildcard} {name : Text} (h : Matches (.run :: items) name)
    (c : Char) : Matches (.run :: items) (c :: name) := by
  cases h with
  | run skipped h => exact .run (c :: skipped) h

/-- The names that are accepted are those that match. -/
theorem accepts_iff {w : Wildcard} {name : Text} : w.accepts name ↔ w.Matches name := by
  induction w generalizing name with
  | nil =>
    rw [accepts_nil, List.isEmpty_iff]
    exact ⟨fun h => h ▸ .nil, fun h => by cases h; rfl⟩
  | cons item items ih =>
    cases item with
    | run =>
      induction name with
      | nil =>
        rw [accepts_run_nil, ih]
        refine ⟨.run [], fun h => ?_⟩
        generalize hn : ([] : Text) = name at h
        cases h with
        | run skipped h => simp_all
      | cons c name ihn =>
        rw [accepts_run_cons, Bool.or_eq_true, ih, ihn]
        refine ⟨fun h => h.elim (.run []) (·.skip c), fun h => ?_⟩
        generalize hn : c :: name = whole at h
        cases h with
        | run skipped h =>
          cases skipped with
          | nil => exact .inl (by simpa [hn] using h)
          | cons d skipped =>
            obtain ⟨rfl, rfl⟩ := List.cons.inj hn
            exact .inr (.run skipped h)
    | one s =>
      cases name with
      | nil => exact ⟨fun h => by simp [accepts_one_nil] at h, fun h => by cases h⟩
      | cons c name =>
        rw [accepts_one_cons, Bool.and_eq_true, ih]
        exact ⟨fun h => .one h.1 h.2, fun h => by cases h with | one hc h => exact ⟨hc, h⟩⟩

end Wildcard

end FeatureDocs
