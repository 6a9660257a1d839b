import FeatureDocs.Command.Standard
import FeatureDocs.Proofs.Json

/-!
# Consoles and printed texts

The standard console is lawful (`Command.Console.standard_lawful`): it reads options as they are
given, and prints a plain text on a line of its own. A JSON document is plain, since it has control
characters only in its escapes (`Json.plain_write`), so that every lawful console prints it as it is
written.
-/

namespace FeatureDocs

/-! ### Plain texts -/

namespace Text

/-- Text without carriage returns has no line breaks to join. -/
lemma joinBreaks_eq_self {t : Text} (h : '\r' ∉ t) : joinBreaks t = t := by
  induction t with
  | nil => rfl
  | cons c t ih =>
    obtain ⟨hc, ht⟩ := List.ne_and_not_mem_of_not_mem_cons h
    rw [joinBreaks, ih ht]
    rintro rest rfl
    exact absurd rfl hc

lemma sequenceLength_of_ne {c : Char} (h : c ≠ escapeChar) (rest : Text) :
    sequenceLength (c :: rest) = 0 := by
  unfold sequenceLength
  split
  · next heq =>
    obtain ⟨rfl, rfl⟩ := List.cons.inj heq
    simp [h]
  · rfl

/-- A text in which no control sequence begins stays as it is. -/
lemma withoutSequences_eq_self {t : Text} (h : escapeChar ∉ t) : withoutSequences t = t := by
  unfold withoutSequences
  induction t with
  | nil => rfl
  | cons c rest ih =>
    obtain ⟨hc, hrest⟩ := List.ne_and_not_mem_of_not_mem_cons h
    simp only [dropSequences, sequenceLength_of_ne hc.symm, ih hrest]

end Text

/-! ### Characters of JSON documents -/

namespace Json

/-- The text has no control characters but line feeds. -/
def IsPlain (t : Text) : Prop := ∀ c ∈ t, 32 ≤ c.toNat ∨ c = '\n'

instance (t : Text) : Decidable (IsPlain t) := List.decidableBAll _ t

lemma isPlain_append {t u : Text} (ht : IsPlain t) (hu : IsPlain u) : IsPlain (t ++ u) := by
  intro c hc
  exact (List.mem_append.mp hc).elim (ht c) (hu c)

lemma isPlain_cons {c : Char} {t : Text} (hc : 32 ≤ c.toNat ∨ c = '\n') (ht : IsPlain t) :
    IsPlain (c :: t) := by
  intro d hd
  rcases List.mem_cons.mp hd with rfl | hd
  · exact hc
  · exact ht d hd

lemma isPlain_hex : ∀ n < 32, IsPlain ("\\u" ++ Text.hex 4 n) := by
  decide

/-- An escaped character is written in plain characters. -/
lemma isPlain_escape (c : Char) : IsPlain (escape c) := by
  unfold escape
  split_ifs with hquote hbackslash hlf hcr htab hbs hff hcontrol
  case pos => decide
  case pos => decide
  case pos => decide
  case pos => decide
  case pos => decide
  case pos => decide
  case pos => decide
  case pos => exact isPlain_hex c.toNat hcontrol
  case neg =>
    intro d hd
    obtain rfl := List.mem_singleton.mp hd
    exact .inl (Nat.le_of_not_lt hcontrol)

lemma isPlain_writeText (t : Text) : IsPlain (writeText t) := by
  refine isPlain_cons (by decide) (isPlain_append ?_ (by decide))
  intro d hd
  obtain ⟨c, -, hd⟩ := List.mem_flatMap.mp hd
  exact isPlain_escape c d hd

lemma isPlain_ofNat (n : Nat) : IsPlain (Text.ofNat n) := by
  intro c hc
  have hdigit := isDigit_of_mem_ofNat hc
  simp only [Char.isDigit, Bool.and_eq_true, decide_eq_true_eq] at hdigit
  have hle : 48 ≤ c.toNat := UInt32.le_iff_toNat_le.mp hdigit.1
  exact .inl (by omega)

lemma isPlain_ofInt (i : Int) : IsPlain (Text.ofInt i) := by
  cases i with
  | ofNat n => exact isPlain_ofNat n
  | negSucc n => exact isPlain_cons (by decide) (isPlain_ofNat (n + 1))

lemma isPlain_writeDecimal (negative : Bool) (digits : Nat) (exponent : Int) :
    IsPlain (writeDecimal negative digits exponent) := by
  refine isPlain_append (isPlain_append ?_ (isPlain_ofNat digits))
    (isPlain_cons (by decide) (isPlain_ofInt exponent))
  cases negative <;> decide

lemma isPlain_newline (depth : Nat) : IsPlain (newline depth) := by
  refine isPlain_cons (by decide) fun c hc => ?_
  obtain rfl := List.eq_of_mem_replicate hc
  decide

lemma isPlain_join {sep : Text} {parts : List Text} (hsep : IsPlain sep)
    (h : ∀ part ∈ parts, IsPlain part) : IsPlain (Text.join sep parts) := by
  induction parts with
  | nil => exact fun c hc => absurd hc List.not_mem_nil
  | cons part parts ih =>
    obtain ⟨hpart, hparts⟩ := List.forall_mem_cons.mp h
    cases parts with
    | nil => simpa [Text.join] using hpart
    | cons next parts =>
      rw [Text.join_cons _ _ (List.cons_ne_nil next parts)]
      exact isPlain_append (isPlain_append hpart hsep) (ih hparts)

lemma isPlain_enclose {opening closing : Char} (hopening : IsPlain [opening])
    (hclosing : IsPlain [closing]) (depth : Nat) {parts : List Text}
    (h : ∀ part ∈ parts, IsPlain part) : IsPlain (enclose opening closing depth parts) := by
  cases parts with
  | nil => exact isPlain_append hopening hclosing
  | cons part parts =>
    have hcomma : IsPlain (',' :: newline (depth + 1)) :=
      isPlain_cons (by decide) (isPlain_newline (depth + 1))
    have hjoin := isPlain_join hcomma h
    exact isPlain_append (isPlain_append (isPlain_append
      (isPlain_append hopening (isPlain_newline (depth + 1))) hjoin) (isPlain_newline depth))
      hclosing

/-- In a written document control characters are escaped. -/
lemma isPlain_writeAt (depth : Nat) (j : Json) : IsPlain (j.writeAt depth) := by
  induction j using partsInduction generalizing depth with
  | null => exact (by decide : IsPlain "null")
  | bool b =>
    cases b
    · exact (by decide : IsPlain "false")
    · exact (by decide : IsPlain "true")
  | int i => exact isPlain_ofInt i
  | decimal negative n e => exact isPlain_writeDecimal negative n e
  | text t => exact isPlain_writeText t
  | array items ih =>
    rw [writeAt, writeItems_eq_map]
    refine isPlain_enclose (by decide) (by decide) depth ?_
    rw [List.forall_mem_map]
    exact fun item hitem => ih item hitem (depth + 1)
  | object members ih =>
    rw [writeAt, writeMembers_eq_map]
    refine isPlain_enclose (by decide) (by decide) depth ?_
    rw [List.forall_mem_map]
    exact fun m hm => isPlain_append (isPlain_append (isPlain_writeText m.1) (by decide))
      (ih m hm (depth + 1))

/-- A written document is plain. -/
lemma plain_write (j : Json) : j.write.Plain := by
  have hplain := isPlain_writeAt 0 j
  constructor
  · exact fun h => absurd (hplain _ h) (by decide)
  · exact fun h => absurd (hplain _ h) (by decide)

end Json

namespace Command

/-! ### Options that are given -/

/-- No option is written as the mark that ends the options. -/
lemma Setting.argument_ne (s : Setting) (value : Text) : s.argument value ≠ "--" := by
  intro h
  have hlong : 2 < s.longName.length := by cases s <;> decide
  have hlength := congrArg List.length h
  rw [argument, List.length_append, List.length_append] at hlength
  have htwo : ("--" : Text).length = 2 := rfl
  omega

lemma Argument.ofText_argument (s : Setting) (value : Text) :
    ofText (s.argument value) = .setting s (some value) := by
  cases s <;> rfl

/-- An option with its value is read at once. -/
lemma Arguments.read_argument (as : Arguments) (s : Setting) (value : Text) (rest : List Text) :
    as.read (s.argument value :: rest) = read { as with values := (s, value) :: as.values } rest := by
  rw [read, if_neg (s.argument_ne value), Argument.ofText_argument]

/-- Options that are given one after the other are all read. -/
lemma Arguments.read_settings (as : Arguments) (f : Setting → Option Text) (ss : List Setting)
    (rest : List Text) :
    as.read (ss.filterMap (fun s => (f s).map s.argument) ++ rest) =
      read { as with values := (ss.filterMap fun s => (f s).map (s, ·)).reverse ++ as.values }
        rest := by
  induction ss generalizing as with
  | nil => rfl
  | cons s ss ih =>
    cases hf : f s with
    | none => simp [hf, ih]
    | some value => simp [hf, read_argument, ih]

lemma Arguments.read_flag (as : Arguments) (flag : Bool) :
    as.read (if flag then [listLanguagesName] else []) =
      some { as with listLanguages := as.listLanguages || flag } := by
  cases flag with
  | false => simp [read]
  | true =>
    rw [Bool.or_true]
    rfl

/-- What is read of a command line that gives all options. -/
def Options.given (o : Options) : Arguments where
  values := (Setting.all.filterMap fun s => (o.value? s).map (s, ·)).reverse
  listLanguages := o.listLanguages

/-- The written options are read back as those that were given. -/
lemma Arguments.read_arguments (o : Options) : read {} o.arguments = some o.given := by
  rw [Options.arguments, read_settings, read_flag]
  simp [Options.given]

/-- Each option is found among all that are given. -/
lemma Options.invocation_given (o : Options) : o.given.invocation = .run o := by
  obtain ⟨features, language, config, environment, format, output, listLanguages⟩ := o
  rcases features with _ | _ <;> rcases language with _ | _ <;> rcases output with _ | _ <;>
    rcases format with _ | _ | _ <;> rfl

/-- The console reads options as they are given, and prints plain texts as they are. -/
theorem Console.standard_lawful : Console.standard.Lawful := by
  constructor
  case read_arguments =>
    intro o
    show readArguments o.arguments = .run o
    rw [readArguments, Arguments.read_arguments]
    exact o.invocation_given
  case echo_plain =>
    intro t ht
    have hreturn : '\r' ∉ t ++ ("\n" : Text) := by simp [ht.carriageReturn]
    show Text.joinBreaks (Text.withoutSequences t ++ "\n") = t ++ "\n"
    rw [Text.withoutSequences_eq_self ht.escape, Text.joinBreaks_eq_self hreturn]

end Command

end FeatureDocs
