import FeatureDocs.Json.Reader
import FeatureDocs.Json.Writer
import Mathlib.Tactic.Common

/-!
# Written JSON

A document that was written is read as it was (`Json.read?_write`), so different documents are
written differently (`Json.write_injective`). Documents stand inside of others, so this is proved at
any depth and with anything behind that does not go on with a number (`Json.ReadsBack`). The items
of arrays and the members of objects are read back in the same way (`Json.read_closed`).
-/

namespace FeatureDocs.Json

/-- Induction on a document, where a container may be taken to have the property if all that is in
it has. -/
@[elab_as_elim]
lemma partsInduction {P : Json → Prop} (null : P .null) (bool : ∀ b, P (.bool b))
    (int : ∀ i, P (.int i)) (decimal : ∀ negative n e, P (.decimal negative n e))
    (text : ∀ t, P (.text t)) (array : ∀ items, (∀ j ∈ items, P j) → P (.array items))
    (object : ∀ members : List (Text × Json), (∀ m ∈ members, P m.2) → P (.object members))
    (j : Json) : P j := by
  match j with
  | .null => exact null
  | .bool b => exact bool b
  | .int i => exact int i
  | .decimal negative n e => exact decimal negative n e
  | .text t => exact text t
  | .array items =>
    exact array items fun i _ => partsInduction null bool int decimal text array object i
  | .object members =>
    exact object members fun m _ => partsInduction null bool int decimal text array object m.2
termination_by sizeOf j
decreasing_by
  · have hlt := List.sizeOf_lt_of_mem ‹i ∈ items›
    simp only [Json.array.sizeOf_spec]
    omega
  · have hlt := List.sizeOf_lt_of_mem ‹m ∈ members›
    obtain ⟨name, j⟩ := m
    simp only [Json.object.sizeOf_spec, Prod.mk.sizeOf_spec] at hlt ⊢
    omega

/-! ### Texts -/

/-- The four digits of a control character stand for it. -/
lemma hexUnit?_hex : ∀ n < 32,
    Text.hex 4 n = ['0', '0', (n / 16).digitChar, (n % 16).digitChar] ∧
      (hexUnit? '0' '0' (n / 16).digitChar (n % 16).digitChar).bind ofUnit? =
        some (Char.ofNat n) := by
  decide

/-- An escaped character is read as the character. -/
lemma readText_escape (c : Char) (rest : Text) :
    readText (escape c ++ rest) = (readText rest).map fun (t, r) => (c :: t, r) := by
  unfold escape
  split_ifs with hquote hbackslash hlf hcr htab hbs hff hcontrol
  case pos => subst hquote; rfl
  case pos => subst hbackslash; rfl
  case pos => subst hlf; rfl
  case pos => subst hcr; rfl
  case pos => subst htab; rfl
  case pos =>
    obtain rfl : c = Char.ofNat 8 := by rw [← hbs, Char.ofNat_toNat]
    rfl
  case pos =>
    obtain rfl : c = Char.ofNat 12 := by rw [← hff, Char.ofNat_toNat]
    rfl
  case pos =>
    obtain ⟨hhex, hunit⟩ := hexUnit?_hex c.toNat hcontrol
    rw [Char.ofNat_toNat] at hunit
    rw [hhex]
    show readText ('\\' :: 'u' :: '0' :: '0' :: _ :: _ :: rest) = _
    conv_lhs => unfold readText
    simp only [hunit]
  -- a character that is not escaped is neither a quote, nor a backslash, nor a control character
  case neg =>
    show readText (c :: rest) = _
    rw [readText]
    · rw [if_neg (by simp [hbackslash, hcontrol])]
    all_goals simp_all

/-- A text is read up to its closing quote. -/
lemma readText_flatMap_escape (t rest : Text) :
    readText (t.flatMap escape ++ '"' :: rest) = some (t, rest) := by
  induction t with
  | nil => rfl
  | cons c t ih => rw [List.flatMap_cons, List.append_assoc, readText_escape, ih]; rfl

/-! ### Numbers -/

lemma ofDigits_ofNat (n : Nat) : ofDigits (Text.ofNat n) = n := by
  conv_rhs => rw [← Nat.ofDigitChars_ten_toDigits (n := n), Nat.ofDigitChars_eq_foldl]
  simp [ofDigits, Text.ofNat, Nat.repr_eq_ofList_toDigits, Nat.mul_comm]

lemma isDigit_of_mem_ofNat {n : Nat} {c : Char} (h : c ∈ Text.ofNat n) : c.isDigit := by
  rw [Text.ofNat, Nat.repr_eq_ofList_toDigits, String.toList_ofList] at h
  exact Nat.isDigit_of_mem_toDigits (by decide) (by decide) h

lemma ofNat_ne_nil (n : Nat) : Text.ofNat n ≠ [] := by
  rw [Text.ofNat, Nat.repr_eq_ofList_toDigits, String.toList_ofList]
  exact Nat.toDigits_ne_nil

/-- Only zero begins with zero. -/
lemma head?_ofNat_ne {n : Nat} (h : 0 < n) : (Text.ofNat n).head? ≠ some '0' := by
  rw [Text.ofNat, Nat.repr_eq_ofList_toDigits, String.toList_ofList]
  induction n using Nat.strongRecOn with
  | ind n ih =>
    by_cases hn : n < 10
    · have hdigit : ∀ d < 10, 0 < d → [d.digitChar].head? ≠ some '0' := by decide
      rw [Nat.toDigits_of_lt_base hn]
      exact hdigit n hn h
    · have hle : 10 ≤ n := Nat.le_of_not_lt hn
      rw [Nat.toDigits_of_base_le (by decide) hle, List.head?_append, Option.or_of_isSome (by simp)]
      exact ih (n / 10) (Nat.div_lt_self h (by decide)) (Nat.div_pos hle (by decide))

/-- A written natural number has no leading zero, so the reader does not refuse it for one. -/
lemma ofNat_leading (n : Nat) :
    ¬ (1 < (Text.ofNat n).length ∧ (Text.ofNat n).head? = some '0') := by
  rintro ⟨hlength, hhead⟩
  cases n with
  | zero => exact absurd hlength (by decide)
  | succ n => exact head?_ofNat_ne n.succ_pos hhead

/-- A text that does not go on with a digit. -/
def EndsDigits (rest : Text) : Prop := ∀ c ∈ rest.head?, ¬ c.isDigit

/-- The reader of digits takes a whole written number and stops where the digits end. -/
lemma readDigits?_ofNat (n : Nat) {rest : Text} (h : EndsDigits rest) :
    readDigits? (Text.ofNat n ++ rest) = some (Text.ofNat n, rest) := by
  have hdigits : ∀ c ∈ Text.ofNat n, c.isDigit = true := fun _ => isDigit_of_mem_ofNat
  have htake : rest.takeWhile Char.isDigit = [] := by
    cases rest with
    | nil => rfl
    | cons c rest => exact List.takeWhile_cons_of_neg (h c rfl)
  have hdrop : rest.dropWhile Char.isDigit = rest := by
    cases rest with
    | nil => rfl
    | cons c rest => exact List.dropWhile_cons_of_neg (h c rfl)
  rw [readDigits?, List.takeWhile_append_of_pos hdigits, List.dropWhile_append_of_pos hdigits,
    htake, hdrop, List.append_nil]
  simp [ofNat_ne_nil]

/-- A text that does not go on with a part of a number. -/
structure EndsNumber (rest : Text) : Prop where
  digits : EndsDigits rest
  fraction : rest.head? ≠ some '.'
  exponent : rest.head? ≠ some 'e' ∧ rest.head? ≠ some 'E'

lemma readFraction_of_ne {rest : Text} (h : rest.head? ≠ some '.') :
    readFraction rest = some (none, rest) := by
  unfold readFraction
  split
  · exact absurd rfl h
  · rfl

lemma readExponent_of_ne {rest : Text} (h : rest.head? ≠ some 'e' ∧ rest.head? ≠ some 'E') :
    readExponent rest = some (none, rest) := by
  cases rest with
  | nil => rfl
  | cons c rest => simp_all [readExponent]

lemma exists_ofNat_eq_cons (n : Nat) : ∃ c digits, Text.ofNat n = c :: digits ∧ c.isDigit := by
  obtain ⟨c, digits, h⟩ := List.exists_cons_of_ne_nil (ofNat_ne_nil n)
  exact ⟨c, digits, h, isDigit_of_mem_ofNat (n := n) (by simp [h])⟩

lemma ne_sign_of_isDigit {c : Char} (h : c.isDigit) : c ≠ '-' ∧ c ≠ '+' := by
  constructor <;> rintro rfl <;> revert h <;> decide

/-- An exponent is read back with its sign. -/
lemma readExponent_ofInt (i : Int) {rest : Text} (h : EndsDigits rest) :
    readExponent ('e' :: (Text.ofInt i ++ rest)) = some (some i, rest) := by
  cases i with
  | ofNat n =>
    obtain ⟨c, digits, hn, hc⟩ := exists_ofNat_eq_cons n
    obtain ⟨hminus, hplus⟩ := ne_sign_of_isDigit hc
    have hread := readDigits?_ofNat n h
    have hvalue := ofDigits_ofNat n
    rw [hn] at hread hvalue
    show readExponent ('e' :: (Text.ofNat n ++ rest)) = _
    rw [List.cons_append] at hread
    simp [hn, readExponent, hminus, hplus, hread, hvalue]
  | negSucc n =>
    show readExponent ('e' :: '-' :: (Text.ofNat (n + 1) ++ rest)) = _
    simp [readExponent, readDigits?_ofNat _ h, ofDigits_ofNat, Int.negSucc_eq]

/-- Digits behind a sign are read as an integer. -/
lemma readUnsigned_int (negative : Bool) (n : Nat) {rest : Text} (h : EndsNumber rest) :
    readUnsigned negative (Text.ofNat n ++ rest) =
      some (.int (if negative then -(n : Int) else n), rest) := by
  simp [readUnsigned, readDigits?_ofNat n h.digits, ofNat_leading n, ofDigits_ofNat,
    readFraction_of_ne h.fraction, readExponent_of_ne h.exponent]

/-- Digits behind a sign are read with their exponent. -/
lemma readUnsigned_decimal (negative : Bool) (n : Nat) (e : Int) {rest : Text}
    (h : EndsDigits rest) :
    readUnsigned negative (Text.ofNat n ++ 'e' :: (Text.ofInt e ++ rest)) =
      some (.decimal negative n e, rest) := by
  have hdigits : EndsDigits ('e' :: (Text.ofInt e ++ rest)) := by simp [EndsDigits]
  have hfraction : ('e' :: (Text.ofInt e ++ rest)).head? ≠ some '.' := by simp
  simp [readUnsigned, readDigits?_ofNat n hdigits, ofNat_leading n, ofDigits_ofNat,
    readFraction_of_ne hfraction, readExponent_ofInt e h]

/-- Digits need no sign. -/
lemma readNumber_ofNat (n : Nat) (rest : Text) :
    readNumber (Text.ofNat n ++ rest) = readUnsigned false (Text.ofNat n ++ rest) := by
  obtain ⟨c, digits, hn, hc⟩ := exists_ofNat_eq_cons n
  rw [hn, List.cons_append, readNumber]
  rintro _ hcons
  exact (ne_sign_of_isDigit hc).1 (List.cons.inj hcons).1

lemma readNumber_ofInt (i : Int) {rest : Text} (h : EndsNumber rest) :
    readNumber (Text.ofInt i ++ rest) = some (.int i, rest) := by
  cases i with
  | ofNat n => exact (readNumber_ofNat n rest).trans (readUnsigned_int false n h)
  | negSucc n => exact readUnsigned_int true (n + 1) h

lemma readNumber_writeDecimal (negative : Bool) (n : Nat) (e : Int) {rest : Text}
    (h : EndsDigits rest) :
    readNumber (writeDecimal negative n e ++ rest) = some (.decimal negative n e, rest) := by
  have hread := readUnsigned_decimal negative n e h
  cases negative with
  | true => simpa [writeDecimal, readNumber] using hread
  | false =>
    rw [← readNumber_ofNat] at hread
    simpa [writeDecimal] using hread

/-! ### Documents -/

/-- What a written document begins with. -/
structure BeginsDocument (t : Text) : Prop where
  ne_nil : t ≠ []
  head : ∀ c ∈ t.head?, c ≠ ' ' ∧ c ≠ '\t' ∧ c ≠ '\n' ∧ c ≠ '\r' ∧ c ≠ ']' ∧ c ≠ '\x7d'

/-- The indentation of a written value is blank to the reader. -/
lemma skipBlanks_newline (depth : Nat) (t : Text) :
    skipBlanks (newline depth ++ t) = skipBlanks t := by
  rw [skipBlanks, newline, skipBlanks, List.dropWhile_append_of_pos]
  intro c hc
  rcases List.mem_cons.mp hc with rfl | hc
  · rfl
  · rw [List.eq_of_mem_replicate hc]
    rfl

lemma BeginsDocument.skipBlanks {t : Text} (h : BeginsDocument t) (rest : Text) :
    skipBlanks (t ++ rest) = t ++ rest := by
  obtain ⟨c, t, rfl⟩ := List.exists_cons_of_ne_nil h.ne_nil
  obtain ⟨hspace, htab, hlf, hcr, -⟩ := h.head c rfl
  simp [Json.skipBlanks, hspace, htab, hlf, hcr]

lemma BeginsDocument.append {t : Text} (h : BeginsDocument t) (rest : Text) :
    BeginsDocument (t ++ rest) := by
  obtain ⟨c, t, rfl⟩ := List.exists_cons_of_ne_nil h.ne_nil
  exact ⟨List.cons_ne_nil _ _, h.head⟩

lemma beginsDocument_cons {c : Char} {t : Text}
    (h : c ≠ ' ' ∧ c ≠ '\t' ∧ c ≠ '\n' ∧ c ≠ '\r' ∧ c ≠ ']' ∧ c ≠ '\x7d') :
    BeginsDocument (c :: t) :=
  ⟨List.cons_ne_nil _ _, by rintro _ ⟨⟩; exact h⟩

lemma beginsDocument_of_isDigit {c : Char} {t : Text} (h : c.isDigit) :
    BeginsDocument (c :: t) := by
  apply beginsDocument_cons
  refine ⟨?_, ?_, ?_, ?_, ?_, ?_⟩ <;> rintro rfl <;> revert h <;> decide

lemma beginsDocument_ofNat (n : Nat) (t : Text) : BeginsDocument (Text.ofNat n ++ t) := by
  obtain ⟨c, digits, hn, hc⟩ := exists_ofNat_eq_cons n
  rw [hn]
  exact beginsDocument_of_isDigit hc

lemma beginsDocument_ofInt (i : Int) : BeginsDocument (Text.ofInt i) := by
  cases i with
  | ofNat n => simpa [Text.ofInt] using beginsDocument_ofNat n []
  | negSucc n => exact beginsDocument_cons (by decide)

lemma beginsDocument_enclose {opening closing : Char} (depth : Nat) (parts : List Text)
    (h : opening = '[' ∨ opening = '\x7b') :
    BeginsDocument (enclose opening closing depth parts) := by
  have hopening : opening ≠ ' ' ∧ opening ≠ '\t' ∧ opening ≠ '\n' ∧ opening ≠ '\r' ∧
      opening ≠ ']' ∧ opening ≠ '\x7d' := by
    rcases h with rfl | rfl <;> decide
  cases parts with
  | nil => exact beginsDocument_cons hopening
  | cons part parts => exact beginsDocument_cons hopening

lemma beginsDocument_writeText (t : Text) : BeginsDocument (writeText t) :=
  beginsDocument_cons (by decide)

/-- Whatever is written begins with a character that is neither blank nor a closing bracket. -/
lemma beginsDocument_writeAt (depth : Nat) (j : Json) : BeginsDocument (j.writeAt depth) := by
  cases j with
  | null => exact beginsDocument_cons (by decide)
  | bool b => cases b <;> exact beginsDocument_cons (by decide)
  | int i => exact beginsDocument_ofInt i
  | decimal negative digits exponent =>
    cases negative with
    | true => exact beginsDocument_cons (by decide)
    | false => exact beginsDocument_ofNat digits _
  | text t => exact beginsDocument_writeText t
  | array items => exact beginsDocument_enclose _ _ (.inl rfl)
  | object members => exact beginsDocument_enclose _ _ (.inr rfl)

lemma endsNumber_nil : EndsNumber [] := ⟨by simp [EndsDigits], by simp, by simp⟩

lemma endsNumber_newline (depth : Nat) (t : Text) : EndsNumber (newline depth ++ t) :=
  ⟨by simp [EndsDigits, newline], by simp [newline], by simp [newline]⟩

lemma endsNumber_comma (t : Text) : EndsNumber (',' :: t) :=
  ⟨by simp [EndsDigits], by simp, by simp⟩

/-- What begins with a digit or a minus sign is a number. -/
lemma readValue_number (fuel : Nat) {c : Char} (h : c.isDigit ∨ c = '-') (t : Text) :
    readValue (fuel + 1) (c :: t) = readNumber (c :: t) := by
  have hne : c ≠ 'n' ∧ c ≠ 't' ∧ c ≠ 'f' ∧ c ≠ '"' ∧ c ≠ '[' ∧ c ≠ '\x7b' := by
    refine ⟨?_, ?_, ?_, ?_, ?_, ?_⟩ <;> rintro rfl <;> revert h <;> decide
  unfold readValue
  split <;> simp_all

lemma readValue_int (fuel : Nat) (i : Int) {rest : Text} (h : EndsNumber rest) :
    readValue (fuel + 1) (Text.ofInt i ++ rest) = some (.int i, rest) := by
  rw [← readNumber_ofInt i h]
  cases i with
  | ofNat n =>
    obtain ⟨c, digits, hn, hc⟩ := exists_ofNat_eq_cons n
    rw [Text.ofInt, hn]
    exact readValue_number fuel (.inl hc) _
  | negSucc n => exact readValue_number fuel (.inr rfl) _

lemma readValue_decimal (fuel : Nat) (negative : Bool) (n : Nat) (e : Int) {rest : Text}
    (h : EndsNumber rest) :
    readValue (fuel + 1) (writeDecimal negative n e ++ rest) =
      some (.decimal negative n e, rest) := by
  rw [← readNumber_writeDecimal negative n e h.digits]
  cases negative with
  | true => exact readValue_number fuel (.inr rfl) _
  | false =>
    obtain ⟨c, digits, hn, hc⟩ := exists_ofNat_eq_cons n
    rw [writeDecimal, hn]
    exact readValue_number fuel (.inl hc) _

lemma readValue_text (fuel : Nat) (t rest : Text) :
    readValue (fuel + 1) (writeText t ++ rest) = some (.text t, rest) := by
  show readValue (fuel + 1) ('"' :: (t.flatMap escape ++ ['"'] ++ rest)) = _
  rw [List.append_assoc, readValue, List.singleton_append, readText_flatMap_escape]
  rfl

/-- The written items of a container, up to its closing character. -/
def closed (depth : Nat) (parts : List Text) (closing : Char) (rest : Text) : Text :=
  Text.join (',' :: newline (depth + 1)) parts ++ (newline depth ++ closing :: rest)

/-- A bracketed list that is not empty, split behind its opening bracket and the first line break.
-/
lemma enclose_append {opening closing : Char} (depth : Nat) {parts : List Text} (h : parts ≠ [])
    (rest : Text) :
    enclose opening closing depth parts ++ rest =
      opening :: (newline (depth + 1) ++ closed depth parts closing rest) := by
  obtain ⟨part, parts, rfl⟩ := List.exists_cons_of_ne_nil h
  simp [enclose, closed]

lemma closed_singleton (depth : Nat) (part : Text) (closing : Char) (rest : Text) :
    closed depth [part] closing rest = part ++ (newline depth ++ closing :: rest) := by
  simp [closed, Text.join]

lemma closed_cons_cons (depth : Nat) (part next : Text) (parts : List Text) (closing : Char)
    (rest : Text) :
    closed depth (part :: next :: parts) closing rest =
      part ++ ',' :: (newline (depth + 1) ++ closed depth (next :: parts) closing rest) := by
  simp [closed, Text.join, List.intercalate_cons_cons]

lemma length_closed_singleton (depth : Nat) (part : Text) (closing : Char) :
    part.length + 2 ≤ (closed depth [part] closing []).length := by
  simp [closed_singleton, newline]

lemma length_closed_cons_cons (depth : Nat) (part next : Text) (parts : List Text)
    (closing : Char) :
    part.length + (closed depth (next :: parts) closing []).length + 1 ≤
      (closed depth (part :: next :: parts) closing []).length := by
  simp [closed_cons_cons, newline]
  omega

/-- The inside of a bracketed list is shorter than the list, which is what the fuel pays for. -/
lemma length_closed_le (opening closing : Char) (depth : Nat) {parts : List Text} (h : parts ≠ []) :
    (closed depth parts closing []).length + 1 ≤ (enclose opening closing depth parts).length := by
  rw [← List.append_nil (enclose opening closing depth parts), enclose_append depth h]
  simp

/-- Behind the last item comes the closing character. -/
lemma skipBlanks_closing (depth : Nat) {closing : Char} (rest : Text)
    (h : closing = ']' ∨ closing = '\x7d') :
    skipBlanks (newline depth ++ closing :: rest) = closing :: rest := by
  rw [skipBlanks_newline]
  rcases h with rfl | rfl <;> rfl

/-! ### Containers -/

/-- Wherever it is written, a document is read back. -/
def ReadsBack (j : Json) : Prop :=
  ∀ depth fuel rest, EndsNumber rest → (j.writeAt depth).length ≤ fuel →
    readValue fuel (j.writeAt depth ++ rest) = some (j, rest)

lemma beginsDocument_closed {part : Text} (h : BeginsDocument part) (depth : Nat)
    (parts : List Text) (closing : Char) (rest : Text) :
    BeginsDocument (closed depth (part :: parts) closing rest) := by
  cases parts with
  | nil =>
    rw [closed_singleton]
    exact h.append _
  | cons next parts =>
    rw [closed_cons_cons]
    exact h.append _

/-- Behind the opening bracket the blanks end where the first part begins. -/
lemma skipBlanks_closed {part : Text} (h : BeginsDocument part) (depth : Nat) (parts : List Text)
    (closing : Char) (rest : Text) :
    skipBlanks (newline (depth + 1) ++ closed depth (part :: parts) closing rest) =
      closed depth (part :: parts) closing rest := by
  have hskip := (beginsDocument_closed h depth parts closing rest).skipBlanks []
  rw [List.append_nil] at hskip
  rw [skipBlanks_newline, hskip]

/-- The reader of the parts of a container reads a part back, be it the last one or not. -/
structure ReadsPart {α : Type} (read : Nat → Text → Option (List α × Text)) (write : α → Text)
    (closing : Char) (a : α) : Prop where
  begins : BeginsDocument (write a)
  last {fuel : Nat} (h : (write a).length ≤ fuel) (depth : Nat) (rest : Text) :
    read (fuel + 1) (write a ++ (newline depth ++ closing :: rest)) = some ([a], rest)
  more {fuel : Nat} (h : (write a).length ≤ fuel) (rest : Text) :
    read (fuel + 1) (write a ++ ',' :: rest) =
      (read fuel (skipBlanks rest)).map fun (parts, rest) => (a :: parts, rest)

/-- With all parts, what is in a container is read back up to its closing character. -/
lemma read_closed {α : Type} {read : Nat → Text → Option (List α × Text)} {write : α → Text}
    {closing : Char} {parts : List α} (hne : parts ≠ [])
    (h : ∀ a ∈ parts, ReadsPart read write closing a) (depth fuel : Nat)
    (hfuel : (closed depth (parts.map write) closing []).length ≤ fuel) (rest : Text) :
    read fuel (closed depth (parts.map write) closing rest) = some (parts, rest) := by
  induction parts generalizing fuel with
  | nil => exact absurd rfl hne
  | cons a parts ih =>
    obtain ⟨ha, hparts⟩ := List.forall_mem_cons.mp h
    cases parts with
    | nil =>
      have hlength := length_closed_singleton depth (write a) closing
      rw [List.map_singleton] at hfuel ⊢
      obtain ⟨fuel, rfl⟩ : ∃ f, fuel = f + 1 := ⟨fuel - 1, by omega⟩
      rw [closed_singleton, ha.last (by omega)]
    | cons next parts =>
      have hmore := @ih (List.cons_ne_nil _ _) hparts
      have hnext := (hparts next (List.mem_cons_self ..)).begins
      have hlength := length_closed_cons_cons depth (write a) (write next) (parts.map write) closing
      simp only [List.map_cons] at hfuel hmore ⊢
      obtain ⟨fuel, rfl⟩ : ∃ f, fuel = f + 1 := ⟨fuel - 1, by omega⟩
      rw [closed_cons_cons, ha.more (by omega), skipBlanks_closed hnext,
        hmore fuel (by omega)]
      rfl

/-! ### Arrays -/

lemma writeItems_eq_map (depth : Nat) (items : List Json) :
    writeItems depth items = items.map (writeAt depth) := by
  induction items with
  | nil => rfl
  | cons j items ih => rw [writeItems, ih, List.map_cons]

lemma readsPart_item {j : Json} (h : ReadsBack j) (depth : Nat) :
    ReadsPart readItems (writeAt depth) ']' j where
  begins := beginsDocument_writeAt depth j
  last hfuel d rest := by
    rw [readItems, h depth _ _ (endsNumber_newline _ _) hfuel]
    simp only [skipBlanks_closing d rest (.inl rfl)]
  more hfuel rest := by
    rw [readItems, h depth _ _ (endsNumber_comma _) hfuel]
    rfl

lemma readValue_array {t : Text} (h : BeginsDocument (skipBlanks t)) (fuel : Nat) :
    readValue (fuel + 1) ('[' :: t) =
      (readItems fuel (skipBlanks t)).map fun (items, rest) => (.array items, rest) := by
  obtain ⟨c, more, hskip⟩ := List.exists_cons_of_ne_nil h.ne_nil
  obtain ⟨-, -, -, -, hbracket, -⟩ := h.head c (by rw [hskip]; rfl)
  rw [readValue, hskip]
  simp [hbracket]

/-- An array is read back when its items are. -/
lemma readsBack_array {items : List Json} (h : ∀ j ∈ items, ReadsBack j) :
    ReadsBack (.array items) := by
  intro depth fuel rest _ hfuel
  cases items with
  | nil =>
    simp only [writeAt, writeItems, enclose, List.length_cons] at hfuel
    obtain ⟨fuel, rfl⟩ : ∃ f, fuel = f + 1 := ⟨fuel - 1, by omega⟩
    rfl
  | cons j items =>
    have hne : (j :: items).map (writeAt (depth + 1)) ≠ [] := List.cons_ne_nil _ _
    have hlength := length_closed_le '[' ']' depth hne
    have hj := beginsDocument_writeAt (depth + 1) j
    rw [writeAt, writeItems_eq_map] at hfuel ⊢
    obtain ⟨fuel, rfl⟩ : ∃ f, fuel = f + 1 := ⟨fuel - 1, by omega⟩
    have hread := read_closed (List.cons_ne_nil j items)
      (fun i hi => readsPart_item (h i hi) (depth + 1)) depth fuel (by omega) rest
    rw [enclose_append depth hne]
    rw [List.map_cons] at hread ⊢
    have hskip := skipBlanks_closed hj depth (items.map (writeAt (depth + 1))) ']' rest
    rw [readValue_array (by rw [hskip]; exact beginsDocument_closed hj ..), hskip, hread]
    rfl

/-! ### Objects -/

/-- A member of an object as it is written. -/
def writeMember (depth : Nat) (m : Text × Json) : Text :=
  writeText m.1 ++ ": " ++ m.2.writeAt depth

lemma writeMembers_eq_map (depth : Nat) (members : List (Text × Json)) :
    writeMembers depth members = members.map (writeMember depth) := by
  induction members with
  | nil => rfl
  | cons m members ih => rw [writeMembers, ih, List.map_cons, writeMember]

lemma beginsDocument_writeMember (depth : Nat) (m : Text × Json) :
    BeginsDocument (writeMember depth m) :=
  beginsDocument_cons (by decide)

/-- What is read behind a member. -/
def readMembersBehind (fuel : Nat) (m : Text × Json) (t : Text) :
    Option (List (Text × Json) × Text) :=
  match skipBlanks t with
  | '\x7d' :: rest => some ([m], rest)
  | ',' :: rest =>
    (readMembers fuel (skipBlanks rest)).map fun (members, rest) => (m :: members, rest)
  | _ => none

/-- Behind its name a member is read as its document. -/
lemma readMembers_writeMember {m : Text × Json} (h : ReadsBack m.2) {depth fuel : Nat} {rest : Text}
    (hrest : EndsNumber rest) (hfuel : (writeMember depth m).length ≤ fuel) :
    readMembers (fuel + 1) (writeMember depth m ++ rest) = readMembersBehind fuel m rest := by
  obtain ⟨name, j⟩ := m
  have hmember : writeMember depth (name, j) ++ rest =
      '"' :: (name.flatMap escape ++ '"' :: ':' :: ' ' :: (j.writeAt depth ++ rest)) := by
    simp [writeMember, writeText]
  have hcolon (t : Text) : skipBlanks (':' :: t) = ':' :: t := rfl
  have hblank : skipBlanks (' ' :: (j.writeAt depth ++ rest)) = j.writeAt depth ++ rest :=
    (beginsDocument_writeAt depth j).skipBlanks rest
  have hread : readValue fuel (j.writeAt depth ++ rest) = some (j, rest) := by
    simp only [writeMember, List.length_append] at hfuel
    exact h depth fuel rest hrest (Nat.le_of_add_left_le hfuel)
  rw [hmember, readMembers, readText_flatMap_escape]
  simp only [hcolon, hblank, hread]
  rfl

lemma readsPart_member {m : Text × Json} (h : ReadsBack m.2) (depth : Nat) :
    ReadsPart readMembers (writeMember depth) '\x7d' m where
  begins := beginsDocument_writeMember depth m
  last hfuel d rest := by
    rw [readMembers_writeMember h (endsNumber_newline _ _) hfuel]
    simp only [readMembersBehind, skipBlanks_closing d rest (.inr rfl)]
  more hfuel rest := by
    rw [readMembers_writeMember h (endsNumber_comma _) hfuel]
    rfl

lemma readValue_object {t : Text} (h : BeginsDocument (skipBlanks t)) (fuel : Nat) :
    readValue (fuel + 1) ('\x7b' :: t) =
      (readMembers fuel (skipBlanks t)).map fun (members, rest) => (.object members, rest) := by
  obtain ⟨c, more, hskip⟩ := List.exists_cons_of_ne_nil h.ne_nil
  obtain ⟨-, -, -, -, -, hbrace⟩ := h.head c (by rw [hskip]; rfl)
  rw [readValue, hskip] <;> simp [hbrace]

/-- An object is read back when the values of its members are. -/
lemma readsBack_object {members : List (Text × Json)} (h : ∀ m ∈ members, ReadsBack m.2) :
    ReadsBack (.object members) := by
  intro depth fuel rest _ hfuel
  cases members with
  | nil =>
    simp only [writeAt, writeMembers, enclose, List.length_cons] at hfuel
    obtain ⟨fuel, rfl⟩ : ∃ f, fuel = f + 1 := ⟨fuel - 1, by omega⟩
    rfl
  | cons m members =>
    have hne : (m :: members).map (writeMember (depth + 1)) ≠ [] := List.cons_ne_nil _ _
    have hlength := length_closed_le '\x7b' '\x7d' depth hne
    have hm := beginsDocument_writeMember (depth + 1) m
    rw [writeAt, writeMembers_eq_map] at hfuel ⊢
    obtain ⟨fuel, rfl⟩ : ∃ f, fuel = f + 1 := ⟨fuel - 1, by omega⟩
    have hread := read_closed (List.cons_ne_nil m members)
      (fun m' hm' => readsPart_member (h m' hm') (depth + 1)) depth fuel (by omega) rest
    rw [enclose_append depth hne]
    rw [List.map_cons] at hread ⊢
    have hskip := skipBlanks_closed hm depth (members.map (writeMember (depth + 1))) '\x7d' rest
    rw [readValue_object (by rw [hskip]; exact beginsDocument_closed hm ..), hskip, hread]
    rfl

/-- A document without parts is read in one step. -/
lemma readsBack_of_step {j : Json}
    (h : ∀ depth fuel rest, EndsNumber rest →
      readValue (fuel + 1) (j.writeAt depth ++ rest) = some (j, rest)) : ReadsBack j := by
  intro depth fuel rest hrest hfuel
  have hpos := List.length_pos_iff.mpr (beginsDocument_writeAt depth j).ne_nil
  obtain ⟨fuel, rfl⟩ : ∃ f, fuel = f + 1 := ⟨fuel - 1, by omega⟩
  exact h depth fuel rest hrest

/-- Every document is read back at every depth, whatever ends the number behind it. -/
lemma readsBack (j : Json) : ReadsBack j := by
  induction j using partsInduction with
  | null => exact readsBack_of_step fun _ _ _ _ => rfl
  | bool b => cases b <;> exact readsBack_of_step fun _ _ _ _ => rfl
  | int i => exact readsBack_of_step fun _ fuel _ h => readValue_int fuel i h
  | decimal negative n e =>
    exact readsBack_of_step fun _ fuel _ h => readValue_decimal fuel negative n e h
  | text t => exact readsBack_of_step fun _ fuel rest _ => readValue_text fuel t rest
  | array items ih => exact readsBack_array ih
  | object members ih => exact readsBack_object ih

/-- Reading a text that was written gives the document back, whatever blanks are behind it. -/
lemma read?_write_append (j : Json) {rest : Text} (hrest : EndsNumber rest)
    (hblanks : skipBlanks rest = []) : read? (j.write ++ rest) = some j := by
  have hskip : skipBlanks (j.write ++ rest) = j.write ++ rest :=
    (beginsDocument_writeAt 0 j).skipBlanks rest
  have hread : readValue ((j.write ++ rest).length + 1) (j.write ++ rest) = some (j, rest) := by
    refine j.readsBack 0 _ rest hrest ?_
    rw [List.length_append, write]
    omega
  rw [read?, hskip, hread]
  simp [hblanks]

/-- A written document is read back as itself. -/
lemma read?_write (j : Json) : read? j.write = some j := by
  have hread := j.read?_write_append endsNumber_nil rfl
  rwa [List.append_nil] at hread

/-- Different documents are written differently. -/
lemma write_injective : Function.Injective write := by
  intro j j' h
  have hread := congrArg read? h
  rw [read?_write, read?_write] at hread
  exact Option.some.inj hread

end FeatureDocs.Json
