import Alerting.Proofs.Json.Reader

/-!
# Values are written without control characters

The reader takes no control character into a literal, so a well-spelled value has none in any
of its literals. The compact form puts none between them either: whatever a text holds, the
form of a value that holds it stays on one line.
-/

namespace Alerting.Json

/-- Bytes without control characters. -/
def Printable (bytes : Bytes) : Prop := ∀ byte ∈ bytes, ¬ byte < 0x20

instance (bytes : Bytes) : Decidable (Printable bytes) :=
  inferInstanceAs (Decidable (∀ byte ∈ bytes, ¬ byte < 0x20))

@[simp] theorem printable_nil : Printable [] := fun _ member => absurd member List.not_mem_nil

@[simp] theorem printable_cons {byte : UInt8} {rest : Bytes} :
    Printable (byte :: rest) ↔ ¬ byte < 0x20 ∧ Printable rest := List.forall_mem_cons

@[simp] theorem printable_append {front back : Bytes} :
    Printable (front ++ back) ↔ Printable front ∧ Printable back := List.forall_mem_append

/-- A line feed is a control character. -/
theorem Printable.feed_not_mem {bytes : Bytes} (printable : Printable bytes) : 0x0a ∉ bytes :=
  fun member => printable 0x0a member (by decide)

/-! ## String literals -/

theorem not_control_of_isHexDigit {byte : UInt8} (digit : isHexDigit byte = true) :
    ¬ byte < 0x20 := by
  intro control
  grind [isHexDigit, hexValue?]

theorem not_control_of_shortEscape? {letter : UInt8} (known : (shortEscape? letter).isSome = true) :
    ¬ letter < 0x20 := by
  intro control
  grind [shortEscape?]

/-- The reader takes no control character into a string. -/
theorem printable_of_readString {input literal left : Bytes}
    (reads : readString input = some (literal, left)) : Printable literal := by
  fun_induction readString input generalizing literal with
  | case2 rest =>
    cases reads
    exact printable_nil
  | case4 byte rest noQuote noControl noEscape ih =>
    rcases Option.map_eq_some_iff.1 reads with ⟨⟨tail, left⟩, later, same⟩
    cases same
    exact printable_cons.2 ⟨noControl, ih later⟩
  | case7 byte noQuote noControl escape letter rest short known ih =>
    rcases Option.map_eq_some_iff.1 reads with ⟨⟨tail, left⟩, later, same⟩
    cases same
    have plain := not_control_of_shortEscape? (Option.isSome_iff_ne_none.2 (by simpa using known))
    simp [noControl, plain, ih later]
  | case8 byte noQuote noControl escape letter unicode d1 d2 d3 d4 rest digits ih =>
    rcases Option.map_eq_some_iff.1 reads with ⟨⟨tail, left⟩, later, same⟩
    cases same
    have plain : ¬ letter < 0x20 := by
      rw [Decidable.not_not.1 unicode]
      decide
    have hex : Printable ([d1, d2, d3, d4] ++ tail) :=
      printable_append.2 ⟨fun digit member =>
        not_control_of_isHexDigit (List.all_eq_true.1 digits digit member), ih later⟩
    exact printable_cons.2 ⟨noControl, printable_cons.2 ⟨plain, hex⟩⟩
  | _ => cases reads

theorem IsString.printable {literal : Bytes} (spelled : IsString literal) : Printable literal :=
  printable_of_readString (spelled [])

/-! ## Number literals -/

theorem not_control_of_isDigit {byte : UInt8} (digit : isDigit byte = true) : ¬ byte < 0x20 := by
  intro control
  grind [isDigit]

theorem printable_of_readDigits {input digits left : Bytes}
    (reads : readDigits input = some (digits, left)) : Printable digits := by
  rw [readDigits] at reads
  split at reads
  · cases reads
  · cases reads
    intro byte member
    exact not_control_of_isDigit (List.all_eq_true.1 List.all_takeWhile byte member)

theorem printable_of_readWhole {input whole left : Bytes}
    (reads : readWhole input = some (whole, left)) : Printable whole := by
  cases input with
  | nil => cases reads
  | cons byte rest =>
    rw [readWhole] at reads
    split at reads
    · rename_i zero
      cases reads
      simp [zero]
    · exact printable_of_readDigits reads

theorem printable_of_readFraction {input fraction left : Bytes}
    (reads : readFraction input = some (fraction, left)) : Printable fraction := by
  cases input with
  | nil =>
    cases reads
    exact printable_nil
  | cons byte rest =>
    rw [readFraction] at reads
    split at reads
    · rename_i point
      rcases Option.map_eq_some_iff.1 reads with ⟨⟨digits, left⟩, later, same⟩
      cases same
      simp [point, printable_of_readDigits later]
    · cases reads
      exact printable_nil

theorem printable_of_readExponent {input exponent left : Bytes}
    (reads : readExponent input = some (exponent, left)) : Printable exponent := by
  have marks {byte : UInt8} (mark : byte = 0x65 ∨ byte = 0x45) : ¬ byte < 0x20 := by
    rcases mark with rfl | rfl <;> decide
  have signs {byte : UInt8} (sign : byte = 0x2b ∨ byte = 0x2d) : ¬ byte < 0x20 := by
    rcases sign with rfl | rfl <;> decide
  fun_cases readExponent input with
  | case1 =>
    cases reads
    exact printable_nil
  | case2 byte mark => simp [readExponent, mark] at reads
  | case3 byte mark sign rest signed =>
    simp only [readExponent, if_pos mark, if_pos signed] at reads
    rcases Option.map_eq_some_iff.1 reads with ⟨⟨digits, left⟩, later, same⟩
    cases same
    simp [marks mark, signs signed, printable_of_readDigits later]
  | case4 byte mark sign rest unsigned =>
    simp only [readExponent, if_pos mark, if_neg unsigned] at reads
    rcases Option.map_eq_some_iff.1 reads with ⟨⟨digits, left⟩, later, same⟩
    cases same
    simp [marks mark, printable_of_readDigits later]
  | case5 byte rest noMark =>
    simp only [readExponent.eq_def, if_neg noMark] at reads
    cases reads
    exact printable_nil

theorem printable_of_readUnsigned {input literal left : Bytes}
    (reads : readUnsigned input = some (literal, left)) : Printable literal := by
  simp only [readUnsigned, Option.bind_eq_bind, Option.bind_eq_some_iff, Option.some.injEq,
    Prod.mk.injEq] at reads
  rcases reads with ⟨⟨whole, afterWhole⟩, readsWhole, ⟨fraction, afterFraction⟩, readsFraction,
    ⟨exponent, afterExponent⟩, readsExponent, rfl, rfl⟩
  simp [printable_of_readWhole readsWhole, printable_of_readFraction readsFraction,
    printable_of_readExponent readsExponent]

theorem printable_of_readNumber {input literal left : Bytes}
    (reads : readNumber input = some (literal, left)) : Printable literal := by
  cases input with
  | nil => cases reads
  | cons byte rest =>
    rw [readNumber] at reads
    split at reads
    · rename_i sign
      rcases Option.map_eq_some_iff.1 reads with ⟨⟨literal, left⟩, later, same⟩
      cases same
      simp [sign, printable_of_readUnsigned later]
    · exact printable_of_readUnsigned reads

theorem IsNumber.printable {literal : Bytes} (spelled : IsNumber literal) : Printable literal := by
  have ends : EndsNumber [] := fun _ absent => by cases absent
  exact printable_of_readNumber (spelled.reads [] ends)

/-! ## Values -/

theorem printable_printElements {elements : List Json}
    (printable : ∀ element ∈ elements, Printable (print element)) :
    Printable (printElements elements) := by
  induction elements with
  | nil => simp [printElements]
  | cons element rest ih =>
    rcases List.forall_mem_cons.1 printable with ⟨first, others⟩
    cases rest with
    | nil => simp [printElements, first]
    | cons second rest =>
      rw [printElements_cons_cons]
      simp [first, ih others]

theorem printable_printMembers {members : List (Bytes × Json)}
    (named : ∀ member ∈ members, Printable member.1)
    (printable : ∀ member ∈ members, Printable (print member.2)) :
    Printable (printMembers members) := by
  induction members with
  | nil => simp [printMembers]
  | cons member rest ih =>
    rcases List.forall_mem_cons.1 named with ⟨name, names⟩
    rcases List.forall_mem_cons.1 printable with ⟨first, others⟩
    cases rest with
    | nil =>
      rw [printMembers_singleton]
      simp [name, first]
    | cons second rest =>
      rw [printMembers_cons_cons]
      simp [name, first, ih names others]

/-- The compact form of a well-spelled value has no control characters. -/
theorem WellSpelled.printable {json : Json} (spelled : WellSpelled json) :
    Printable (print json) := by
  induction spelled with
  | null => decide +kernel
  | bool value => cases value <;> decide +kernel
  | number spelled => exact spelled.printable
  | string spelled =>
    rw [print]
    simp [spelled.printable]
  | array _ printable =>
    rw [print]
    simp [printable_printElements printable]
  | object named _ printable =>
    rw [print]
    simp [printable_printMembers (fun member present => (named member present).printable) printable]

end Alerting.Json
