import Alerting.Json.Printer
import Alerting.Json.Reader
import Alerting.Proofs.Json.Literal

/-!
# Values are read as they were written

The reader gives back every value that the compact form writes, provided that its literals
are well formed; those of texts and integers are. Of the fuel, a value needs no more than
the number of its bytes.
-/

namespace Alerting.Json

/-! ## Literals of values -/

/-- The bytes between the quotes of a string that the reader takes up to its last quote. -/
def IsString (literal : Bytes) : Prop :=
  ∀ rest, readString (literal ++ 0x22 :: rest) = some (literal, rest)

/-- What follows a number does not continue it. -/
def EndsNumber (rest : Bytes) : Prop :=
  ∀ byte ∈ rest.head?, isDigit byte = false ∧ byte ≠ 0x2e ∧ byte ≠ 0x65 ∧ byte ≠ 0x45

theorem endsNumber_cons (byte : UInt8) (noDigit : isDigit byte = false)
    (noPart : byte ≠ 0x2e ∧ byte ≠ 0x65 ∧ byte ≠ 0x45) (rest : Bytes) :
    EndsNumber (byte :: rest) := by
  intro head first
  cases first
  exact ⟨noDigit, noPart⟩

/-- A literal that begins as a number does, and that the reader takes as one. -/
structure IsNumber (literal : Bytes) : Prop where
  begins : ∃ byte rest, literal = byte :: rest ∧ (byte = 0x2d ∨ isDigit byte = true)
  reads : ∀ rest, EndsNumber rest → readNumber (literal ++ rest) = some (literal, rest)

/-- A value whose literals are well formed. -/
inductive WellSpelled : Json → Prop where
  | null : WellSpelled .null
  | bool (value : Bool) : WellSpelled (.bool value)
  | number {literal : Bytes} (spelled : IsNumber literal) : WellSpelled (.number literal)
  | string {literal : Bytes} (spelled : IsString literal) : WellSpelled (.string literal)
  | array {elements : List Json} (spelled : ∀ element ∈ elements, WellSpelled element) :
    WellSpelled (.array elements)
  | object {members : List (Bytes × Json)} (named : ∀ member ∈ members, IsString member.1)
    (spelled : ∀ member ∈ members, WellSpelled member.2) : WellSpelled (.object members)

/-! ## String literals -/

theorem readString_plain {byte : UInt8} (noQuote : byte ≠ 0x22) (noControl : ¬ byte < 0x20)
    (noEscape : byte ≠ 0x5c) (input : Bytes) :
    readString (byte :: input) =
      (readString input).map fun (tail, left) => (byte :: tail, left) := by
  rw [readString.eq_def]
  simp only [if_neg noQuote, if_neg noControl, if_pos noEscape]

theorem readString_short {letter : UInt8} (byte : UInt8) (known : shortEscape? letter = some byte)
    (input : Bytes) :
    readString (0x5c :: letter :: input) =
      (readString input).map fun (tail, left) => (0x5c :: letter :: tail, left) := by
  have notUnicode : letter ≠ 0x75 := by
    rintro rfl
    simp [shortEscape?] at known
  rw [readString.eq_def]
  simp [notUnicode, known]

theorem readString_control (byte : UInt8) (input : Bytes) :
    readString (0x5c :: 0x75 :: 0x30 :: 0x30 :: hexDigit (byte.toNat / 16) ::
        hexDigit (byte.toNat % 16) :: input) =
      (readString input).map fun (tail, left) => (0x5c :: 0x75 :: 0x30 :: 0x30 ::
        hexDigit (byte.toNat / 16) :: hexDigit (byte.toNat % 16) :: tail, left) := by
  have zero : isHexDigit 0x30 = true := by decide
  have bound := byte.toNat_lt
  have high : isHexDigit (hexDigit (byte.toNat / 16)) = true := by
    rw [isHexDigit, hexValue?_hexDigit (by omega), Option.isSome_some]
  have low : isHexDigit (hexDigit (byte.toNat % 16)) = true := by
    rw [isHexDigit, hexValue?_hexDigit (by omega), Option.isSome_some]
  rw [readString.eq_def]
  simp [zero, high, low]

theorem readString_quote (rest : Bytes) : readString (0x22 :: rest) = some ([], rest) := by
  rw [readString.eq_def]
  simp only [if_true]

/-- The spelling of a byte is taken as a whole. -/
theorem readString_escapeByte (byte : UInt8) (input : Bytes) :
    readString (escapeByte byte ++ input) =
      (readString input).map fun (tail, left) => (escapeByte byte ++ tail, left) := by
  simp only [escapeByte]
  split
  · exact readString_short 0x22 rfl input
  split
  · exact readString_short 0x5c rfl input
  split
  · exact readString_short 0x08 rfl input
  split
  · exact readString_short 0x09 rfl input
  split
  · exact readString_short 0x0a rfl input
  split
  · exact readString_short 0x0c rfl input
  split
  · exact readString_short 0x0d rfl input
  split
  · exact readString_control byte input
  · rename_i noQuote noEscape _ _ _ _ _ noControl
    exact readString_plain noQuote noControl noEscape input

theorem isString_escape (bytes : Bytes) : IsString (escape bytes) := by
  intro rest
  induction bytes with
  | nil => exact readString_quote rest
  | cons byte others ih =>
    have split : escape (byte :: others) = escapeByte byte ++ escape others := rfl
    rw [split, List.append_assoc, readString_escapeByte, ih, Option.map_some]

/-- Digits need no escape. -/
theorem isString_of_isDigit {literal : Bytes} (digits : ∀ byte ∈ literal, isDigit byte = true) :
    IsString literal := by
  intro rest
  induction literal with
  | nil => exact readString_quote rest
  | cons byte others ih =>
    have digit := digits byte List.mem_cons_self
    simp only [isDigit, Bool.and_eq_true, decide_eq_true_eq] at digit
    have noQuote : byte ≠ 0x22 := by
      rintro rfl
      exact absurd digit.1 (by decide)
    have noEscape : byte ≠ 0x5c := by
      rintro rfl
      exact absurd digit.2 (by decide)
    have noControl : ¬ byte < 0x20 := by
      intro control
      exact absurd (UInt8.lt_of_le_of_lt digit.1 control) (by decide)
    rw [List.cons_append, readString_plain noQuote noControl noEscape,
      ih fun other member => digits other (List.mem_cons_of_mem _ member), Option.map_some]

/-! ## Number literals -/

theorem readDigits_append {digits rest : Bytes} (nonempty : digits ≠ [])
    (all : ∀ byte ∈ digits, isDigit byte = true) (ends : EndsNumber rest) :
    readDigits (digits ++ rest) = some (digits, rest) := by
  have taken : rest.takeWhile isDigit = [] ∧ rest.dropWhile isDigit = rest := by
    cases rest with
    | nil => exact ⟨rfl, rfl⟩
    | cons byte others =>
      have stop := (ends byte rfl).1
      simp [stop]
  rw [readDigits, List.takeWhile_append_of_pos all, List.dropWhile_append_of_pos all, taken.1,
    taken.2, List.append_nil]
  cases digits with
  | nil => exact absurd rfl nonempty
  | cons byte others => rfl

theorem readFraction_of_endsNumber {rest : Bytes} (ends : EndsNumber rest) :
    readFraction rest = some ([], rest) := by
  cases rest with
  | nil => rfl
  | cons byte others => rw [readFraction, if_neg (ends byte rfl).2.1]

theorem readExponent_of_endsNumber {rest : Bytes} (ends : EndsNumber rest) :
    readExponent rest = some ([], rest) := by
  cases rest with
  | nil => rfl
  | cons byte others =>
    have stop := (ends byte rfl).2.2
    have none : ¬ (byte = 0x65 ∨ byte = 0x45) := by
      rintro (small | capital)
      · exact stop.1 small
      · exact stop.2 capital
    rw [readExponent.eq_def]
    simp only [if_neg none]

theorem readWhole_decimal (number : Nat) {rest : Bytes} (ends : EndsNumber rest) :
    readWhole (decimal number ++ rest) = some (decimal number, rest) := by
  rcases Nat.eq_zero_or_pos number with rfl | positive
  · have zero : decimal 0 = [0x30] := by simp [decimal, hexDigit]
    rw [zero]
    rfl
  · have digits := readDigits_append (decimal_ne_nil number)
      (fun byte => isDigit_of_mem_decimal) ends
    cases spelled : decimal number with
    | nil => exact absurd spelled (decimal_ne_nil number)
    | cons first others =>
      have noZero : first ≠ 0x30 := by
        rintro rfl
        exact head?_decimal_ne positive (congrArg List.head? spelled)
      rw [spelled] at digits
      rw [List.cons_append, readWhole, if_neg noZero]
      exact digits

theorem readUnsigned_decimal (number : Nat) {rest : Bytes} (ends : EndsNumber rest) :
    readUnsigned (decimal number ++ rest) = some (decimal number, rest) := by
  rw [readUnsigned, readWhole_decimal number ends]
  simp [readFraction_of_endsNumber ends, readExponent_of_endsNumber ends]

theorem isNumber_decimal (number : Nat) : IsNumber (decimal number) := by
  cases spelled : decimal number with
  | nil => exact absurd spelled (decimal_ne_nil number)
  | cons first others =>
    have digit : isDigit first = true :=
      isDigit_of_mem_decimal (by rw [spelled]; exact List.mem_cons_self)
    constructor
    · exact ⟨first, others, rfl, .inr digit⟩
    · intro rest ends
      have noSign : first ≠ 0x2d := by
        rintro rfl
        exact absurd digit (by decide)
      have unsigned := readUnsigned_decimal number ends
      rw [spelled] at unsigned
      rw [List.cons_append, readNumber, if_neg noSign]
      exact unsigned

theorem isNumber_integerLiteral (value : Int) : IsNumber (integerLiteral value) := by
  cases value with
  | ofNat number => exact isNumber_decimal number
  | negSucc number =>
    constructor
    · exact ⟨0x2d, decimal (number + 1), rfl, .inl rfl⟩
    · intro rest ends
      rw [integerLiteral, List.cons_append, readNumber, if_pos rfl,
        readUnsigned_decimal _ ends, Option.map_some]

/-! ## Values without parts -/

/-- A value is read back if there is fuel for each of its bytes. -/
def Reads (json : Json) : Prop :=
  ∀ fuel rest, (print json).length ≤ fuel → EndsNumber rest →
    readValue fuel (print json ++ rest) = some (json, rest)

theorem reads_null : Reads .null := by
  intro fuel rest enough _
  cases fuel with
  | zero => exact absurd enough (by decide)
  | succ fuel => rfl

theorem reads_bool (value : Bool) : Reads (.bool value) := by
  intro fuel rest enough _
  cases fuel with
  | zero => cases value <;> exact absurd enough (by decide)
  | succ fuel => cases value <;> rfl

theorem skipBlanks_cons (byte : UInt8) (noBlank : isBlank byte = false) (rest : Bytes) :
    skipBlanks (byte :: rest) = byte :: rest :=
  List.dropWhile_cons_of_neg (by simp [noBlank])

/-- A value without parts is read by the reader of such values. -/
theorem readValue_eq_readScalar {byte : UInt8} (noBlank : isBlank byte = false)
    (noBracket : byte ≠ 0x5b) (noBrace : byte ≠ 0x7b) (fuel : Nat) (rest : Bytes) :
    readValue (fuel + 1) (byte :: rest) = readScalar (byte :: rest) := by
  rw [readValue, skipBlanks_cons _ noBlank]
  simp only [if_neg noBracket, if_neg noBrace]

theorem reads_string {literal : Bytes} (spelled : IsString literal) : Reads (.string literal) := by
  intro fuel rest enough _
  cases fuel with
  | zero => exact absurd enough (by simp [print])
  | succ fuel =>
    rw [print, List.cons_append, List.append_assoc, readValue_eq_readScalar rfl (by decide)
      (by decide), readScalar, if_pos rfl, List.singleton_append, spelled rest, Option.map_some]

section Begins

variable {byte : UInt8} (begins : byte = 0x2d ∨ isDigit byte = true)
include begins

theorem ne_of_begins {other : UInt8} (noDigit : isDigit other = false) (noSign : other ≠ 0x2d) :
    byte ≠ other := by
  rintro rfl
  rcases begins with sign | digit
  · exact noSign sign
  · simp [noDigit] at digit

/-- No number begins with a blank. -/
theorem isBlank_of_begins : isBlank byte = false := by
  rw [Bool.eq_false_iff]
  intro blank
  simp only [isBlank, Bool.or_eq_true, beq_iff_eq] at blank
  rcases blank with ((space | tab) | lineFeed) | carriageReturn
  · exact ne_of_begins begins rfl (by decide) space
  · exact ne_of_begins begins rfl (by decide) tab
  · exact ne_of_begins begins rfl (by decide) lineFeed
  · exact ne_of_begins begins rfl (by decide) carriageReturn

/-- None of the fixed words begins as a number does. -/
theorem findSome?_words_eq_none (rest : Bytes) :
    (words.findSome? fun (word, value) =>
      (readWord word (byte :: rest)).map fun left => (value, left)) = none := by
  have null : readWord (Bytes.ofText "null") (byte :: rest) = none :=
    if_neg (ne_of_begins begins rfl (by decide)).symm
  have true_ : readWord (Bytes.ofText "true") (byte :: rest) = none :=
    if_neg (ne_of_begins begins rfl (by decide)).symm
  have false_ : readWord (Bytes.ofText "false") (byte :: rest) = none :=
    if_neg (ne_of_begins begins rfl (by decide)).symm
  simp [words, null, true_, false_]

end Begins

theorem reads_number {literal : Bytes} (spelled : IsNumber literal) : Reads (.number literal) := by
  intro fuel rest enough ends
  rcases spelled.begins with ⟨byte, others, rfl, begins⟩
  have number := spelled.reads rest ends
  rw [List.cons_append] at number
  have noBlank := isBlank_of_begins begins
  cases fuel with
  | zero => exact absurd enough (by simp [print])
  | succ fuel =>
    rw [print, List.cons_append, readValue_eq_readScalar noBlank (ne_of_begins begins rfl (by decide))
      (ne_of_begins begins rfl (by decide)), readScalar,
      if_neg (ne_of_begins begins rfl (by decide)), findSome?_words_eq_none begins, number]
    rfl

/-- What a value begins with: no blank, and not the bracket that closes a list. -/
theorem WellSpelled.begins {json : Json} (spelled : WellSpelled json) :
    ∃ byte rest, print json = byte :: rest ∧ isBlank byte = false ∧ byte ≠ 0x5d := by
  cases spelled with
  | null => exact ⟨0x6e, _, rfl, rfl, by decide⟩
  | bool value =>
    cases value with
    | false => exact ⟨0x66, _, rfl, rfl, by decide⟩
    | true => exact ⟨0x74, _, rfl, rfl, by decide⟩
  | number spelled =>
    rcases spelled.begins with ⟨byte, others, rfl, begins⟩
    exact ⟨byte, others, rfl, isBlank_of_begins begins, ne_of_begins begins rfl (by decide)⟩
  | string spelled => exact ⟨0x22, _, rfl, rfl, by decide⟩
  | array spelled => exact ⟨0x5b, _, rfl, rfl, by decide⟩
  | object named spelled => exact ⟨0x7b, _, rfl, rfl, by decide⟩

/-! ## Lists and objects -/

theorem printElements_cons_cons (element second : Json) (others : List Json) :
    printElements (element :: second :: others) =
      print element ++ 0x2c :: printElements (second :: others) := by
  rw [printElements]
  simp

theorem printMembers_singleton (member : Bytes × Json) :
    printMembers [member] = 0x22 :: (member.1 ++ 0x22 :: 0x3a :: (print member.2 ++ [0x7d])) := by
  rw [printMembers]

theorem printMembers_cons_cons (member second : Bytes × Json) (others : List (Bytes × Json)) :
    printMembers (member :: second :: others) =
      0x22 :: (member.1 ++ 0x22 :: 0x3a ::
        (print member.2 ++ 0x2c :: printMembers (second :: others))) := by
  rw [printMembers]
  simp

/-- Elements are read back, with the bracket behind them. -/
theorem readElements_print {elements : List Json} (nonempty : elements ≠ [])
    (reads : ∀ element ∈ elements, Reads element) {fuel : Nat} (rest : Bytes)
    (enough : (printElements elements).length ≤ fuel) :
    readElements fuel (printElements elements ++ rest) = some (elements, rest) := by
  induction elements generalizing fuel with
  | nil => exact absurd rfl nonempty
  | cons element others ih =>
    have first := reads element List.mem_cons_self
    cases others with
    | nil =>
      rw [printElements, List.length_append] at enough
      cases fuel with
      | zero => exact absurd enough (by simp)
      | succ fuel =>
        have value := first fuel (0x5d :: rest) (by simpa using enough)
          (endsNumber_cons 0x5d rfl (by decide) rest)
        rw [printElements, List.append_assoc, List.singleton_append, readElements, value]
        rfl
    | cons second others =>
      rw [printElements_cons_cons, List.length_append, List.length_cons] at enough
      cases fuel with
      | zero => exact absurd enough (by simp)
      | succ fuel =>
        have value := first fuel (0x2c :: (printElements (second :: others) ++ rest)) (by omega)
          (endsNumber_cons 0x2c rfl (by decide) _)
        have later : readElements fuel (printElements (second :: others) ++ rest) =
            some (second :: others, rest) :=
          ih (by simp) (fun other member => reads other (List.mem_cons_of_mem _ member)) (by omega)
        rw [printElements_cons_cons, List.append_assoc, List.cons_append, readElements, value]
        simp [skipBlanks, isBlank, later]

section Member

variable {name : Bytes} {value : Json} (named : IsString name) (reads : Reads value) (fuel : Nat)
  (enough : (print value).length ≤ fuel) (rest : Bytes)
include named reads enough

/-- The last member is read back. -/
theorem readMembers_last :
    readMembers (fuel + 1) (0x22 :: (name ++ 0x22 :: 0x3a :: (print value ++ 0x7d :: rest))) =
      some ([(name, value)], rest) := by
  have spelled := named (0x3a :: (print value ++ 0x7d :: rest))
  have follows := reads fuel (0x7d :: rest) enough (endsNumber_cons 0x7d rfl (by decide) rest)
  simp [readMembers, skipBlanks, isBlank, spelled, follows]

/-- A member is read back, and those after the comma are read on. -/
theorem readMembers_next :
    readMembers (fuel + 1) (0x22 :: (name ++ 0x22 :: 0x3a :: (print value ++ 0x2c :: rest))) =
      (readMembers fuel rest).map fun (members, left) => ((name, value) :: members, left) := by
  have spelled := named (0x3a :: (print value ++ 0x2c :: rest))
  have follows := reads fuel (0x2c :: rest) enough (endsNumber_cons 0x2c rfl (by decide) rest)
  rw [readMembers]
  simp [skipBlanks, isBlank, spelled, follows]

end Member

/-- Members are read back, with the brace behind them. -/
theorem readMembers_print {members : List (Bytes × Json)} (nonempty : members ≠ [])
    (named : ∀ member ∈ members, IsString member.1)
    (reads : ∀ member ∈ members, Reads member.2) {fuel : Nat} (rest : Bytes)
    (enough : (printMembers members).length ≤ fuel) :
    readMembers fuel (printMembers members ++ rest) = some (members, rest) := by
  induction members generalizing fuel with
  | nil => exact absurd rfl nonempty
  | cons member others ih =>
    have first := reads member List.mem_cons_self
    have name := named member List.mem_cons_self
    cases others with
    | nil =>
      rw [printMembers_singleton] at enough ⊢
      simp only [List.length_cons, List.length_append] at enough
      cases fuel with
      | zero => exact absurd enough (by simp)
      | succ fuel =>
        have last := readMembers_last name first fuel (by omega) rest
        simpa only [List.cons_append, List.append_assoc, List.nil_append] using last
    | cons second others =>
      rw [printMembers_cons_cons] at enough ⊢
      simp only [List.length_cons, List.length_append] at enough
      cases fuel with
      | zero => exact absurd enough (by simp)
      | succ fuel =>
        have later : readMembers fuel (printMembers (second :: others) ++ rest) =
            some (second :: others, rest) :=
          ih (by simp) (fun other inOthers => named other (List.mem_cons_of_mem _ inOthers))
            (fun other inOthers => reads other (List.mem_cons_of_mem _ inOthers)) (by omega)
        have next := readMembers_next name first fuel (by omega)
          (printMembers (second :: others) ++ rest)
        rw [later, Option.map_some] at next
        simpa only [List.cons_append, List.append_assoc] using next

theorem reads_array {elements : List Json} (spelled : ∀ element ∈ elements, WellSpelled element)
    (reads : ∀ element ∈ elements, Reads element) : Reads (.array elements) := by
  intro fuel rest enough _
  rw [print, List.length_cons] at enough
  cases fuel with
  | zero => exact absurd enough (by simp)
  | succ fuel =>
    cases elements with
    | nil => rfl
    | cons element others =>
      have later := readElements_print (List.cons_ne_nil element others) reads rest
        (Nat.le_of_succ_le_succ enough)
      rcases (spelled element List.mem_cons_self).begins with
        ⟨byte, tail, first, noBlank, noClose⟩
      obtain ⟨tail, whole⟩ : ∃ tail, printElements (element :: others) ++ rest = byte :: tail := by
        cases others with
        | nil => exact ⟨_, by rw [printElements, first]; rfl⟩
        | cons second others => exact ⟨_, by rw [printElements_cons_cons, first]; rfl⟩
      rw [whole] at later
      have bracket := skipBlanks_cons 0x5b rfl (byte :: tail)
      rw [print, List.cons_append, whole, readValue, bracket]
      simp [skipBlanks_cons _ noBlank tail, noClose, later]

theorem reads_object {members : List (Bytes × Json)} (named : ∀ member ∈ members, IsString member.1)
    (reads : ∀ member ∈ members, Reads member.2) : Reads (.object members) := by
  intro fuel rest enough _
  rw [print, List.length_cons] at enough
  cases fuel with
  | zero => exact absurd enough (by simp)
  | succ fuel =>
    cases members with
    | nil => rfl
    | cons member others =>
      have later := readMembers_print (List.cons_ne_nil member others) named reads rest
        (Nat.le_of_succ_le_succ enough)
      obtain ⟨tail, whole⟩ : ∃ tail, printMembers (member :: others) ++ rest = 0x22 :: tail := by
        cases others with
        | nil => exact ⟨_, by rw [printMembers_singleton]; rfl⟩
        | cons second others => exact ⟨_, by rw [printMembers_cons_cons]; rfl⟩
      rw [whole] at later
      rw [print, List.cons_append, whole, readValue]
      simp [skipBlanks, isBlank, later]

/-- What is well spelled is read back. -/
theorem WellSpelled.reads {json : Json} (spelled : WellSpelled json) : Reads json := by
  induction spelled with
  | null => exact reads_null
  | bool value => exact reads_bool value
  | number spelled => exact reads_number spelled
  | string spelled => exact reads_string spelled
  | array spelled reads => exact reads_array spelled reads
  | object named _ reads => exact reads_object named reads

/-- A document of one value and blanks after it holds this value. -/
theorem read_print {json : Json} (spelled : WellSpelled json) {blanks : Bytes}
    (blank : blanks.all isBlank = true) : read (print json ++ blanks) = some json := by
  have ends : EndsNumber blanks := by
    intro byte first
    have inBlanks : isBlank byte = true :=
      List.all_eq_true.1 blank byte (List.mem_of_head? first)
    simp only [isBlank, Bool.or_eq_true, beq_iff_eq] at inBlanks
    rcases inBlanks with ((rfl | rfl) | rfl) | rfl <;> decide
  have value := spelled.reads (2 * (print json ++ blanks).length + 2) blanks
    (by rw [List.length_append]; omega) ends
  rw [read, value]
  simp only [blank, if_true]

end Alerting.Json
