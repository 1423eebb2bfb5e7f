import EventTransport.Json.Reader
import EventTransport.Proofs.Number.Decimal

/-!
Contract: texts, whole numbers and objects of one member as they are written in JSON.

Owns:
- `Json.Quotes`, characters that stand for a text between quotes;
- `Json.Writes`, characters that are read as a document, with the calls and the depth that it takes;
- that plain characters stand for themselves, and that a whole number of sixty-four bits is written
  by its decimal digits.

Does not own: the other ways to write a document, and values.
-/

namespace EventTransport.Json

/-! ### Texts -/

/-- Characters that stand for a text between quotes. -/
def Quotes (written : List Char) (text : String) : Prop :=
  ∀ rest, readText .plain [] (written ++ '"' :: rest) = .ok (text, rest)

/-- A character that stands for itself in a text. -/
def isPlain (char : Char) : Bool := char ≠ '"' && char ≠ '\\' && 0x20 ≤ char.toNat

theorem readText_of_isPlain {written : List Char} (plain : ∀ char ∈ written, isPlain char = true)
    (gathered rest : List Char) :
    readText .plain gathered (written ++ '"' :: rest) =
      .ok (String.ofList (gathered.reverse ++ written), rest) := by
  induction written generalizing gathered with
  | nil => simp [readText]
  | cons char written inductionHypothesis =>
      obtain ⟨now, later⟩ := List.forall_mem_cons.mp plain
      simp only [isPlain, Bool.and_eq_true, decide_eq_true_eq] at now
      rw [List.cons_append, readText, if_neg now.1.1, if_neg now.1.2, if_neg (Nat.not_lt.mpr now.2),
        inductionHypothesis later, List.reverse_cons, List.append_assoc]
      rfl

theorem quotes_of_isPlain {text : String} (plain : ∀ char ∈ text.toList, isPlain char = true) :
    Quotes text.toList text := by
  intro rest
  rw [readText_of_isPlain plain, List.reverse_nil, List.nil_append, String.ofList_toList]

/-! ### Whole numbers -/

/-- Whether a number goes on with a character. -/
def goesOn (char : Char) : Bool := isDigit char || char = '.' || char = 'e' || char = 'E'

/-- A text with which no number goes on. -/
def EndsNumber (rest : List Char) : Prop := ∀ char, rest.head? = some char → goesOn char = false

theorem isDigit_eq (char : Char) : isDigit char = char.isDigit := by
  simp [isDigit, Char.isDigit, Char.le_def]

theorem afterWhole_of_endsNumber {rest : List Char} (ends : EndsNumber rest) (negative : Bool)
    (significand : Nat) :
    afterWhole negative significand rest = .ok (wholeNumber negative significand, rest) := by
  cases rest with
  | nil => rfl
  | cons char rest =>
      have stops := ends char rfl
      simp only [goesOn, Bool.or_eq_false_iff, decide_eq_false_iff_not] at stops
      rw [afterWhole, if_neg stops.1.1.2]
      simp [stops]

theorem readWhole_digits {digits rest : List Char} (ascii : ∀ char ∈ digits, char.isDigit = true)
    (ends : EndsNumber rest) (negative : Bool) (start : Nat)
    (fits : Nat.ofDigitChars 10 digits start ≤ maxSignificand) :
    readWhole negative start (digits ++ rest) =
      .ok (wholeNumber negative (Nat.ofDigitChars 10 digits start), rest) := by
  induction digits generalizing start with
  | nil =>
      rw [List.nil_append, Nat.ofDigitChars_nil, ← afterWhole_of_endsNumber ends]
      cases rest with
      | nil => rfl
      | cons char rest =>
          have stops := ends char rfl
          simp only [goesOn, Bool.or_eq_false_iff] at stops
          rw [readWhole, stops.1.1.1]
          rfl
  | cons char digits inductionHypothesis =>
      obtain ⟨digit, later⟩ := List.forall_mem_cons.mp ascii
      rw [Nat.ofDigitChars_cons] at fits ⊢
      have next : start * 10 + digitValue char = 10 * start + (char.toNat - '0'.toNat) := by
        rw [Nat.mul_comm]
        rfl
      have within := Nat.le_trans (Number.le_ofDigitChars digits _) fits
      rw [List.cons_append, readWhole, isDigit_eq, if_pos digit, next,
        if_neg (Nat.not_lt.mpr within)]
      exact inductionHypothesis later _ fits

theorem quotes_toDigits (number : Nat) : Quotes (Nat.toDigits 10 number) (toString number) := by
  rw [Nat.toString_eq_ofList_toDigits]
  refine fun rest => readText_of_isPlain (fun char inside => ?_) [] rest
  have digit : char.isDigit = true := Nat.isDigit_of_mem_toDigits (by decide) (by decide) inside
  have between := Number.toNat_of_isDigit digit
  have notQuote : char ≠ '"' := by
    rintro rfl
    cases digit
  have notBackslash : char ≠ '\\' := by
    rintro rfl
    cases digit
  simp only [isPlain, notQuote, notBackslash, ne_eq, not_false_eq_true, decide_true, Bool.and_self,
    Bool.true_and, decide_eq_true_eq]
  omega

theorem isDigit_eq_false_of_endsNumber {rest : List Char} (ends : EndsNumber rest) :
    rest.head?.any isDigit = false := by
  cases rest with
  | nil => rfl
  | cons char rest =>
      have stops := ends char rfl
      simp only [goesOn, Bool.or_eq_false_iff] at stops
      exact stops.1.1.1

theorem exists_toDigits_eq (size : Nat) :
    ∃ first digits, Nat.toDigits 10 size = first :: digits ∧ first.isDigit = true ∧
      ∀ char ∈ digits, char.isDigit = true := by
  obtain ⟨first, digits, split⟩ := List.exists_cons_of_ne_nil
    (Nat.toDigits_ne_nil : Nat.toDigits 10 size ≠ [])
  have ascii : ∀ char ∈ Nat.toDigits 10 size, char.isDigit = true :=
    fun char inside => Nat.isDigit_of_mem_toDigits (by decide) (by decide) inside
  rw [split] at ascii
  exact ⟨first, digits, split, List.forall_mem_cons.mp ascii⟩

theorem readNumber_toDigits {size : Nat} (fits : size ≤ maxSignificand) {rest : List Char}
    (ends : EndsNumber rest) :
    readNumber (Nat.toDigits 10 size ++ rest) = .ok (.natural size, rest) := by
  obtain ⟨first, digits, split, digit, ascii⟩ := exists_toDigits_eq size
  have value : Nat.ofDigitChars 10 (first :: digits) 0 = size :=
    split ▸ Nat.ofDigitChars_ten_toDigits
  have unsigned : readNumber (first :: digits ++ rest) =
      readUnsigned false (first :: digits ++ rest) := by
    unfold readNumber
    split
    · rename_i same
      injection same with minus
      rw [minus] at digit
      cases digit
    · rfl
  rw [split, unsigned, List.cons_append, readUnsigned]
  rcases Nat.eq_zero_or_pos size with rfl | positive
  · rw [Nat.toDigits_zero] at split
    cases split
    rw [if_pos rfl, List.nil_append, isDigit_eq_false_of_endsNumber ends]
    exact afterWhole_of_endsNumber ends false 0
  · have notZero : first ≠ '0' := by
      have front := Number.head?_toDigits positive
      rw [split] at front
      exact fun same => front (congrArg some same)
    rw [if_neg notZero, isDigit_eq, if_pos digit]
    have start : digitValue first = 10 * 0 + (first.toNat - '0'.toNat) := (Nat.zero_add _).symm
    rw [Nat.ofDigitChars_cons, ← start] at value
    rw [readWhole_digits ascii ends false (digitValue first) (value ▸ fits), value]
    rfl

/-! ### Documents -/

/-- Characters that are read as a document within a number of calls, at most so many arrays and
objects deep. -/
def Writes (calls depth : Nat) (written : List Char) (document : Document) : Prop :=
  ∀ rest, EndsNumber rest → readValue calls depth (written ++ rest) = .ok (document, rest)

theorem skipSpace_cons {char : Char} (visible : isSpace char = false) (rest : List Char) :
    skipSpace (char :: rest) = char :: rest :=
  List.dropWhile_cons_of_neg (by simp [visible])

theorem isSpace_of_isDigit {char : Char} (digit : char.isDigit = true) : isSpace char = false := by
  cases space : isSpace char with
  | false => rfl
  | true =>
      simp only [isSpace, Bool.or_eq_true, decide_eq_true_eq] at space
      rcases space with ((rfl | rfl) | rfl) | rfl <;> cases digit

/-- A value that begins with a digit is a number. -/
theorem readValue_of_isDigit {first : Char} (digit : first.isDigit = true) (calls depth : Nat)
    (rest : List Char) :
    readValue (calls + 1) depth (first :: rest) =
      match readNumber (first :: rest) with
      | .error fault => .error fault
      | .ok (number, after) => .ok (.number number, after) := by
  rw [readValue, skipSpace_cons (isSpace_of_isDigit digit)]
  split
  case h_8 same =>
    cases same
    have begins : (decide (first = '-') || isDigit first) = true := by
      rw [isDigit_eq, digit, Bool.or_true]
    exact if_pos begins
  case h_1 none => cases none
  -- The other values begin with signs that are no digits.
  all_goals
    rename_i same
    cases same
    cases digit

theorem writes_natural {size : Nat} (fits : size ≤ maxSignificand) (calls depth : Nat) :
    Writes (calls + 1) depth (Nat.toDigits 10 size) (.number (.natural size)) := by
  intro rest ends
  have read := readNumber_toDigits fits ends
  obtain ⟨first, digits, split, digit, -⟩ := exists_toDigits_eq size
  rw [split, List.cons_append] at read ⊢
  rw [readValue_of_isDigit digit, read]

theorem writes_text {written : List Char} {text : String} (quotes : Quotes written text)
    (calls depth : Nat) : Writes (calls + 1) depth ('"' :: written ++ ['"']) (.text text) := by
  intro rest _
  have read := quotes rest
  rw [List.append_assoc, List.cons_append, readValue, skipSpace_cons (by decide)]
  simp only [List.cons_append, List.nil_append, read]

/-- An object of one member. -/
def objectOf (name value : List Char) : List Char :=
    '{' :: '"' :: name ++ '"' :: ':' :: value ++ ['}']

theorem writes_objectOf {name value : List Char} {key : String} {document : Document}
    {calls depth : Nat} (quotes : Quotes name key)
    (writes : Writes (calls + 1) depth value document) :
    Writes (calls + 4) (depth + 1) (objectOf name value) (.object [(key, document)]) := by
  intro rest _
  have isKey := quotes (':' :: (value ++ '}' :: rest))
  have isValue := writes ('}' :: rest) fun char first => by
    cases first
    decide
  have closes : readMembers (calls + 1) depth false [(key, document)] ('}' :: rest) =
      .ok (.object [(key, document)], rest) := by
    rw [readMembers, skipSpace_cons (by decide)]
    rfl
  have member : readMember (calls + 2) depth [] (name ++ '"' :: ':' :: (value ++ '}' :: rest)) =
      .ok (.object [(key, document)], rest) := by
    rw [readMember, isKey]
    simp only
    rw [skipSpace_cons (by decide)]
    simp only
    rw [isValue]
    exact closes
  have members : readMembers (calls + 3) depth true []
      ('"' :: (name ++ '"' :: ':' :: (value ++ '}' :: rest))) =
      .ok (.object [(key, document)], rest) := by
    rw [readMembers, skipSpace_cons (by decide)]
    exact member
  have written : objectOf name value ++ rest =
      '{' :: '"' :: (name ++ '"' :: ':' :: (value ++ '}' :: rest)) := by
    simp [objectOf]
  rw [written, readValue, skipSpace_cons (by decide)]
  exact members

/-- An object of one member, which is an object of one member, read as a whole text. -/
theorem readDocument_objectOf {name inner value : List Char} {context key : String}
    {document : Document} (outer : Quotes name context) (quotes : Quotes inner key)
    (writes : ∀ calls depth, Writes (calls + 1) depth value document) :
    readDocument (String.ofList (objectOf name (objectOf inner value))) =
      .ok (.object [(context, .object [(key, document)])]) := by
  have ends : EndsNumber [] := fun char first => nomatch first
  have enough : ∃ calls, 3 * (objectOf name (objectOf inner value)).length + 3 = calls + 3 + 4 := by
    refine ⟨3 * (objectOf name (objectOf inner value)).length - 4, ?_⟩
    have some : 2 ≤ (objectOf name (objectOf inner value)).length := by
      simp only [objectOf, List.length_append, List.length_cons]
      omega
    omega
  obtain ⟨calls, enough⟩ := enough
  have nested : Writes (calls + 3 + 4) maxDepth (objectOf name (objectOf inner value))
      (.object [(context, .object [(key, document)])]) :=
    writes_objectOf outer (writes_objectOf quotes (writes calls 125))
  have read := nested [] ends
  rw [List.append_nil, ← enough] at read
  unfold readDocument
  simp only [String.toList_ofList, read]
  rfl

end EventTransport.Json
