import Alerting.Json.Literal

/-!
# Literals are read as they were written

Resolving the escapes of a written string literal gives its bytes back, and a written
integer literal spells the integer that was written.
-/

namespace Alerting

/-- A text is known by its UTF-8 bytes. -/
@[simp] theorem Bytes.toText?_ofText (text : String) : toText? (ofText text) = some text := by
  have bytes : (⟨(ofText text).toArray⟩ : ByteArray) = text.toByteArray := by
    simp [ofText]
  rw [toText?, bytes, String.fromUTF8?, dif_pos text.isValidUTF8]
  rfl

namespace Json

/-! ## Digits -/

theorem hexValue?_hexDigit {value : Nat} (small : value < 16) :
    hexValue? (hexDigit value) = some value := by
  have all : ∀ digit : Fin 16, hexValue? (hexDigit digit) = some digit.val := by decide
  exact all ⟨value, small⟩

theorem isDigit_hexDigit {value : Nat} (small : value < 10) : isDigit (hexDigit value) = true := by
  have all : ∀ digit : Fin 10, isDigit (hexDigit digit) = true := by decide
  exact all ⟨value, small⟩

theorem toNat_hexDigit {value : Nat} (small : value < 10) :
    (hexDigit value).toNat = 0x30 + value := by
  have all : ∀ digit : Fin 10, (hexDigit digit).toNat = 0x30 + digit.val := by decide
  exact all ⟨value, small⟩

/-! ## String literals -/

/-- A control character is spelled by its code point. -/
theorem codePointBytes_toNat {byte : UInt8} (control : byte < 0x20) :
    codePointBytes byte.toNat = [byte] := by
  have all : ∀ value : Fin 0x20, codePointBytes value = [UInt8.ofNat value] := by decide
  have value := all ⟨byte.toNat, by simpa using UInt8.lt_iff_toNat_lt.1 control⟩
  simpa using value

theorem hexQuad?_hexDigit (byte : UInt8) :
    hexQuad? 0x30 0x30 (hexDigit (byte.toNat / 16)) (hexDigit (byte.toNat % 16)) =
      some byte.toNat := by
  have zero : hexValue? 0x30 = some 0 := by decide
  have bound := byte.toNat_lt
  rw [hexQuad?, zero, hexValue?_hexDigit (by omega), hexValue?_hexDigit (by omega)]
  simp only [Option.bind_eq_bind, Option.bind_some, Option.some.injEq]
  omega

theorem unescape_plain {byte : UInt8} (plain : byte ≠ 0x5c) (rest : Bytes) :
    unescape (byte :: rest) = (unescape rest).map (byte :: ·) := by
  rw [unescape.eq_def]
  simp only [if_pos plain]

theorem unescape_short {letter byte : UInt8} (known : shortEscape? letter = some byte)
    (rest : Bytes) : unescape (0x5c :: letter :: rest) = (unescape rest).map (byte :: ·) := by
  have notUnicode : letter ≠ 0x75 := by
    rintro rfl
    simp [shortEscape?] at known
  rw [unescape.eq_def]
  simp [notUnicode, known]

theorem unescape_control {byte : UInt8} (control : byte < 0x20) (rest : Bytes) :
    unescape (0x5c :: 0x75 :: 0x30 :: 0x30 :: hexDigit (byte.toNat / 16) ::
      hexDigit (byte.toNat % 16) :: rest) = (unescape rest).map (byte :: ·) := by
  have unit : byte.toNat < 0x20 := by simpa using UInt8.lt_iff_toNat_lt.1 control
  have notLow : isLowSurrogate byte.toNat = false := by
    simp only [isLowSurrogate, Bool.and_eq_false_iff, decide_eq_false_iff_not]
    omega
  have notHigh : isHighSurrogate byte.toNat = false := by
    simp only [isHighSurrogate, Bool.and_eq_false_iff, decide_eq_false_iff_not]
    omega
  simp [unescape, hexQuad?_hexDigit, notLow, notHigh, codePointBytes_toNat control]

/-- Resolving the spelling of a byte gives that byte. -/
theorem unescape_escapeByte (byte : UInt8) (rest : Bytes) :
    unescape (escapeByte byte ++ rest) = (unescape rest).map (byte :: ·) := by
  simp only [escapeByte]
  split
  · rename_i quote
    subst quote
    exact unescape_short rfl rest
  split
  · rename_i backslash
    subst backslash
    exact unescape_short rfl rest
  split
  · rename_i backspace
    subst backspace
    exact unescape_short rfl rest
  split
  · rename_i tab
    subst tab
    exact unescape_short rfl rest
  split
  · rename_i lineFeed
    subst lineFeed
    exact unescape_short rfl rest
  split
  · rename_i formFeed
    subst formFeed
    exact unescape_short rfl rest
  split
  · rename_i carriageReturn
    subst carriageReturn
    exact unescape_short rfl rest
  split
  · rename_i control
    exact unescape_control control rest
  · rename_i plain _ _ _ _ _ _
    exact unescape_plain plain rest

theorem unescape_escape (bytes : Bytes) : unescape (escape bytes) = some bytes := by
  induction bytes with
  | nil => simp [escape, unescape]
  | cons byte rest ih =>
    have split : escape (byte :: rest) = escapeByte byte ++ escape rest := rfl
    rw [split, unescape_escapeByte, ih, Option.map_some]

/-- A text is what its literal spells. -/
@[simp] theorem literalText?_literalOfText (text : String) :
    literalText? (literalOfText text) = some text := by
  rw [literalText?, literalOfText, unescape_escape, Option.bind_some, Bytes.toText?_ofText]

/-! ## Integer literals -/

theorem decimal_ne_nil (number : Nat) : decimal number ≠ [] := by
  rw [decimal]
  split <;> simp

theorem isDigit_of_mem_decimal {number : Nat} {byte : UInt8} (member : byte ∈ decimal number) :
    isDigit byte = true := by
  induction number using decimal.induct with
  | case1 number small =>
    rw [decimal, if_pos small, List.mem_singleton] at member
    exact member ▸ isDigit_hexDigit small
  | case2 number large ih =>
    rw [decimal, if_neg large, List.mem_append, List.mem_singleton] at member
    rcases member with inFront | rfl
    · exact ih inFront
    · exact isDigit_hexDigit (Nat.mod_lt _ (by decide))

/-- A positive number is not written with a leading zero. -/
theorem head?_decimal_ne {number : Nat} (positive : 0 < number) :
    (decimal number).head? ≠ some 0x30 := by
  induction number using decimal.induct with
  | case1 number small =>
    rw [decimal, if_pos small, List.head?_cons]
    intro zero
    have spelled := toNat_hexDigit small
    rw [Option.some.inj zero] at spelled
    have value : (0x30 : UInt8).toNat = 0x30 := rfl
    omega
  | case2 number large ih =>
    rw [decimal, if_neg large]
    cases digits : decimal (number / 10) with
    | nil => exact absurd digits (decimal_ne_nil _)
    | cons first rest =>
      have front := ih (by omega)
      rw [digits] at front
      exact front

theorem foldl_decimal (number : Nat) :
    (decimal number).foldl (fun total digit => 10 * total + (digit.toNat - 0x30)) 0 = number := by
  induction number using decimal.induct with
  | case1 number small =>
    rw [decimal, if_pos small]
    simp [toNat_hexDigit small]
  | case2 number large ih =>
    have digit := toNat_hexDigit (Nat.mod_lt number (by decide : 0 < 10))
    rw [decimal, if_neg large, List.foldl_append, ih, List.foldl_cons, List.foldl_nil, digit]
    omega

/-- A number is what its decimal digits spell. -/
theorem natural?_decimal (number : Nat) : natural? (decimal number) = some number := by
  have nonempty : (decimal number).isEmpty = false :=
    List.isEmpty_eq_false_iff.2 (decimal_ne_nil number)
  have digits : (decimal number).all isDigit = true :=
    List.all_eq_true.2 fun byte member => isDigit_of_mem_decimal member
  have noLeadingZero : (decide (1 < (decimal number).length) &&
      (decimal number).head? == some 0x30) = false := by
    rcases Nat.eq_zero_or_pos number with rfl | positive
    · simp [decimal]
    · have head := head?_decimal_ne positive
      simp [head]
  rw [natural?, nonempty, digits]
  simp [noLeadingZero, foldl_decimal]

/-- An integer is what its literal spells. -/
theorem integer?_integerLiteral (value : Int) :
    integer? (integerLiteral value) = some value := by
  cases value with
  | ofNat number =>
    have spelled := natural?_decimal number
    rw [integerLiteral]
    cases digits : decimal number with
    | nil => exact absurd digits (decimal_ne_nil number)
    | cons first rest =>
      have digit : isDigit first = true :=
        isDigit_of_mem_decimal (by rw [digits]; exact List.mem_cons_self)
      have noSign : first ≠ 0x2d := by
        rintro rfl
        simp [isDigit] at digit
      rw [digits] at spelled
      rw [integer?, if_neg noSign, spelled, Option.map_some]
  | negSucc number =>
    rw [integerLiteral, integer?, if_pos rfl, natural?_decimal]

end Json

end Alerting
