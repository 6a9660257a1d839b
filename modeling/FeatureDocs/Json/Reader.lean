import FeatureDocs.Json.Basic

/-!
# Reading JSON

The reader accepts the JSON grammar and nothing more: a document, with blanks around it and between
its parts. Each function reads one part and returns what follows it. Documents are nested less
deeply than they are long, so the length of the text bounds the recursion.
-/

namespace FeatureDocs.Json

/-- What follows the blanks at the start. -/
def skipBlanks (t : Text) : Text :=
  t.dropWhile fun c => c = ' ' || c = '\t' || c = '\n' || c = '\r'

/-! ### Texts -/

/-- The value of a hexadecimal digit. -/
def hexDigit? (c : Char) : Option Nat :=
  if c.isDigit then some (c.toNat - 48)
  else if 'a' ≤ c ∧ c ≤ 'f' then some (c.toNat - 87)
  else if 'A' ≤ c ∧ c ≤ 'F' then some (c.toNat - 55)
  else none

/-- The value of four hexadecimal digits. -/
def hexUnit? (a b c d : Char) : Option Nat := do
  let a ← hexDigit? a
  let b ← hexDigit? b
  let c ← hexDigit? c
  let d ← hexDigit? d
  return ((a * 16 + b) * 16 + c) * 16 + d

/-- The character of a code unit that stands alone. -/
def ofUnit? (n : Nat) : Option Char :=
  if 0xD800 ≤ n ∧ n < 0xE000 then none else some (Char.ofNat n)

/-- The character of two code units that stand for one together. -/
def ofUnits? (high low : Nat) : Option Char :=
  if 0xD800 ≤ high ∧ high < 0xDC00 ∧ 0xDC00 ≤ low ∧ low < 0xE000 then
    some (Char.ofNat (0x10000 + (high - 0xD800) * 0x400 + (low - 0xDC00)))
  else none

/-- The character that a letter stands for behind a backslash. -/
def unescape? (c : Char) : Option Char :=
  if c = '"' ∨ c = '\\' ∨ c = '/' then some c
  else if c = 'n' then some '\n'
  else if c = 'r' then some '\r'
  else if c = 't' then some '\t'
  else if c = 'b' then some (Char.ofNat 8)
  else if c = 'f' then some (Char.ofNat 12)
  else none

/-- The rest of a text behind its opening quote, up to and without its closing quote. -/
def readText : Text → Option (Text × Text)
  | [] => none
  | '"' :: rest => some ([], rest)
  | '\\' :: 'u' :: a :: b :: c :: d :: rest =>
    match (hexUnit? a b c d).bind ofUnit? with
    | some ch => (readText rest).map fun (t, r) => (ch :: t, r)
    | none =>
      match rest with
      | '\\' :: 'u' :: e :: f :: g :: h :: rest =>
        match hexUnit? a b c d, hexUnit? e f g h with
        | some high, some low =>
          match ofUnits? high low with
          | some ch => (readText rest).map fun (t, r) => (ch :: t, r)
          | none => none
        | _, _ => none
      | _ => none
  | '\\' :: c :: rest =>
    match unescape? c with
    | some ch => (readText rest).map fun (t, r) => (ch :: t, r)
    | none => none
  | c :: rest =>
    if c = '\\' ∨ c.toNat < 32 then none
    else (readText rest).map fun (t, r) => (c :: t, r)

/-! ### Numbers -/

/-- The number that decimal digits stand for. -/
def ofDigits (digits : Text) : Nat := digits.foldl (fun n c => n * 10 + (c.toNat - 48)) 0

/-- The digits at the start and what follows; at least one digit. -/
def readDigits? (t : Text) : Option (Text × Text) :=
  let digits := t.takeWhile Char.isDigit
  if digits.isEmpty then none else some (digits, t.dropWhile Char.isDigit)

/-- The digits behind a point, if there is one. -/
def readFraction : Text → Option (Option Text × Text)
  | '.' :: rest => (readDigits? rest).map fun (digits, rest) => (some digits, rest)
  | rest => some (none, rest)

/-- The exponent of ten, if there is one. -/
def readExponent : Text → Option (Option Int × Text)
  | c :: rest =>
    if c = 'e' ∨ c = 'E' then
      let (negative, rest) :=
        match rest with
        | '-' :: rest => (true, rest)
        | '+' :: rest => (false, rest)
        | rest => (false, rest)
      (readDigits? rest).map fun (digits, rest) =>
        (some (if negative then -(ofDigits digits : Int) else ofDigits digits), rest)
    else some (none, c :: rest)
  | [] => some (none, [])

/-- A number behind its sign: an integer if it has neither a fraction nor an exponent. -/
def readUnsigned (negative : Bool) (t : Text) : Option (Json × Text) := do
  let (whole, t) ← readDigits? t
  if 1 < whole.length ∧ whole.head? = some '0' then none
  let (fraction, t) ← readFraction t
  let (exponent, t) ← readExponent t
  if fraction.isNone ∧ exponent.isNone then
    let n : Int := ofDigits whole
    return (.int (if negative then -n else n), t)
  else
    let digits := fraction.getD []
    return (.decimal negative (ofDigits (whole ++ digits)) (exponent.getD 0 - digits.length), t)

/-- A number, which may have a minus sign. -/
def readNumber : Text → Option (Json × Text)
  | '-' :: rest => readUnsigned true rest
  | rest => readUnsigned false rest

/-! ### Documents -/

mutual

/-- A document at the start of a text. -/
def readValue : Nat → Text → Option (Json × Text)
  | 0, _ => none
  | fuel + 1, t =>
    match t with
    | 'n' :: 'u' :: 'l' :: 'l' :: rest => some (.null, rest)
    | 't' :: 'r' :: 'u' :: 'e' :: rest => some (.bool true, rest)
    | 'f' :: 'a' :: 'l' :: 's' :: 'e' :: rest => some (.bool false, rest)
    | '"' :: rest => (readText rest).map fun (t, rest) => (.text t, rest)
    | '[' :: rest =>
      match skipBlanks rest with
      | ']' :: rest => some (.array [], rest)
      | rest => (readItems fuel rest).map fun (items, rest) => (.array items, rest)
    | c :: rest =>
      if c = '\x7b' then
        match skipBlanks rest with
        | '\x7d' :: rest => some (.object [], rest)
        | rest => (readMembers fuel rest).map fun (members, rest) => (.object members, rest)
      else readNumber (c :: rest)
    | [] => none

/-- The items of an array up to and without its closing bracket; at least one. -/
def readItems : Nat → Text → Option (List Json × Text)
  | 0, _ => none
  | fuel + 1, t =>
    match readValue fuel t with
    | none => none
    | some (j, rest) =>
      match skipBlanks rest with
      | ']' :: rest => some ([j], rest)
      | ',' :: rest =>
        (readItems fuel (skipBlanks rest)).map fun (items, rest) => (j :: items, rest)
      | _ => none

/-- The members of an object up to and without its closing brace; at least one. -/
def readMembers : Nat → Text → Option (List (Text × Json) × Text)
  | 0, _ => none
  | fuel + 1, t =>
    match t with
    | '"' :: rest =>
      match readText rest with
      | none => none
      | some (name, rest) =>
        match skipBlanks rest with
        | ':' :: rest =>
          match readValue fuel (skipBlanks rest) with
          | none => none
          | some (j, rest) =>
            match skipBlanks rest with
            | '\x7d' :: rest => some ([(name, j)], rest)
            | ',' :: rest =>
              (readMembers fuel (skipBlanks rest)).map fun (members, rest) =>
                ((name, j) :: members, rest)
            | _ => none
        | _ => none
    | _ => none

end

/-- The document that a text holds, with nothing but blanks around it. -/
def read? (t : Text) : Option Json :=
  match readValue (t.length + 1) (skipBlanks t) with
  | some (j, rest) => if (skipBlanks rest).isEmpty then some j else none
  | none => none

end FeatureDocs.Json
