import Alerting.Identity
import Mathlib.Algebra.Group.Nat.Defs

/-!
# Identity encodings are told apart

Where the bytes of one entity end, and so which fields they hold, shows in the bytes
themselves, whatever follows them and whatever bytes the strings contain. This is put
together as the encoding is: words have a fixed width, and a list stands after its length.
No encoding is then the beginning of another one, and two entities share an identity only
if the digest takes two different encodings to the same word.
-/

namespace Alerting

universe u v

/-! ## Writing that shows its own end -/

namespace Bytes

/-- Written values within bounds can be told, and told off from whatever follows them. -/
def SelfDelimiting {α : Type u} (bounded : α → Prop) (write : α → Bytes) : Prop :=
  ∀ ⦃first second : α⦄, bounded first → bounded second → ∀ ⦃rest others : Bytes⦄,
    write first ++ rest = write second ++ others → first = second ∧ rest = others

theorem ofText_injective : Function.Injective ofText := by
  intro first second same
  exact String.toByteArray_inj.1 (ByteArray.ext (Array.toList_inj.1 same))

theorem length_ofText (text : String) : (ofText text).length = text.utf8ByteSize := by
  simp [ofText]

namespace SelfDelimiting

variable {α : Type u} {β : Type v} {bounded : α → Prop} {write : α → Bytes}
  {otherBounded : β → Prop} {otherWrite : β → Bytes}

/-- Different values that are written in the same number of bytes. -/
theorem of_length {width : Nat} (injective : Function.Injective write)
    (length : ∀ value, (write value).length = width) :
    SelfDelimiting (fun _ => True) write := by
  intro first second _ _ rest others same
  rcases List.append_inj same ((length first).trans (length second).symm) with ⟨front, back⟩
  exact ⟨injective front, back⟩

/-- One value after another. -/
theorem pair (left : SelfDelimiting bounded write)
    (right : SelfDelimiting otherBounded otherWrite) :
    SelfDelimiting (fun both : α × β => bounded both.1 ∧ otherBounded both.2)
      (fun both => write both.1 ++ otherWrite both.2) := by
  rintro ⟨first, second⟩ ⟨third, fourth⟩ ⟨bound, otherBound⟩ ⟨bound', otherBound'⟩
  intro rest others same
  simp only [List.append_assoc] at same
  rcases left bound bound' same with ⟨rfl, behind⟩
  rcases right otherBound otherBound' behind with ⟨rfl, further⟩
  exact ⟨rfl, further⟩

/-- Values that are known by what is written of them. -/
theorem comap {image : β → α} (writes : SelfDelimiting bounded write)
    (injective : Function.Injective image) :
    SelfDelimiting (fun value => bounded (image value)) (fun value => write (image value)) := by
  intro first second bound bound' rest others same
  rcases writes bound bound' same with ⟨equal, same⟩
  exact ⟨injective equal, same⟩

/-- Lists of one length, value after value. Without the lengths, a list would not be told
off from another one that goes on. -/
theorem flatMap (writes : SelfDelimiting bounded write) {first second : List α}
    (length : first.length = second.length) (bound : ∀ value ∈ first, bounded value)
    (bound' : ∀ value ∈ second, bounded value) {rest others : Bytes}
    (same : first.flatMap write ++ rest = second.flatMap write ++ others) :
    first = second ∧ rest = others := by
  induction first generalizing second with
  | nil =>
    rw [List.eq_nil_of_length_eq_zero length.symm] at same ⊢
    exact ⟨rfl, same⟩
  | cons value values ih =>
    cases second with
    | nil => cases length
    | cons value' values' =>
      simp only [List.flatMap_cons, List.append_assoc] at same
      simp only [List.forall_mem_cons] at bound bound'
      rcases writes bound.1 bound'.1 same with ⟨rfl, behind⟩
      rcases ih (Nat.succ.inj length) bound.2 bound'.2 behind with ⟨rfl, further⟩
      exact ⟨rfl, further⟩

/-- What is self-delimiting is known by its bytes. -/
theorem eq_of_write_eq (writes : SelfDelimiting bounded write) {first second : α}
    (bound : bounded first) (bound' : bounded second) (same : write first = write second) :
    first = second :=
  (writes bound bound' (congrArg (· ++ []) same)).1

/-- What is self-delimiting does not begin something else. -/
theorem eq_of_write_begins (writes : SelfDelimiting bounded write) {first second : α}
    (bound : bounded first) (bound' : bounded second) (begins : write first <+: write second) :
    first = second := by
  rcases begins with ⟨rest, same⟩
  exact (writes bound bound' (same.trans (List.append_nil _).symm)).1

end SelfDelimiting

/-! ## Words -/

@[simp] theorem length_littleEndian (width number : Nat) :
    (littleEndian width number).length = width := by
  induction width generalizing number with
  | zero => rfl
  | succ width ih => simp [littleEndian, ih]

/-- As many bytes as a number needs determine it. -/
theorem eq_of_littleEndian_eq {width first second : Nat} (fits : first < 256 ^ width)
    (fits' : second < 256 ^ width)
    (same : littleEndian width first = littleEndian width second) : first = second := by
  induction width generalizing first second with
  | zero =>
    rw [Nat.pow_zero] at fits fits'
    omega
  | succ width ih =>
    simp only [littleEndian, List.cons.injEq] at same
    rw [Nat.pow_succ] at fits fits'
    have low : first % 256 = second % 256 := by
      simpa using congrArg UInt8.toNat same.1
    have high : first / 256 = second / 256 :=
      ih (Nat.div_lt_of_lt_mul (by omega)) (Nat.div_lt_of_lt_mul (by omega)) same.2
    omega

end Bytes

/-! ## The fields of an identity -/

namespace Identity

open Bytes (SelfDelimiting)

theorem word_injective : Function.Injective word := by
  intro first second same
  have bytes : Bytes.littleEndian 8 first.toNat = Bytes.littleEndian 8 second.toNat := same
  exact UInt64.toNat_inj.1 (Bytes.eq_of_littleEndian_eq first.toNat_lt second.toNat_lt bytes)

theorem selfDelimiting_word : SelfDelimiting (fun _ => True) word :=
  .of_length word_injective fun value => Bytes.length_littleEndian 8 value.toNat

/-- A list after its length, if the length fits a word. -/
theorem selfDelimiting_counted {α : Type u} {bounded : α → Prop} {write : α → Bytes}
    (writes : SelfDelimiting bounded write) :
    SelfDelimiting
      (fun values : List α => values.length < 2 ^ 64 ∧ ∀ value ∈ values, bounded value)
      (fun values => word (UInt64.ofNat values.length) ++ values.flatMap write) := by
  rintro first second ⟨fits, bound⟩ ⟨fits', bound'⟩ rest others same
  simp only [List.append_assoc] at same
  -- equal counts make the two lists end at the same value
  rcases selfDelimiting_word trivial trivial same with ⟨count, same⟩
  have length : first.length = second.length := by
    have counts := congrArg UInt64.toNat count
    rwa [UInt64.toNat_ofNat_of_lt' fits, UInt64.toNat_ofNat_of_lt' fits'] at counts
  exact writes.flatMap length bound bound' same

/-- A text is a counted list of bytes. -/
theorem selfDelimiting_field :
    SelfDelimiting (fun text : String => text.utf8ByteSize < 2 ^ 64) field := by
  have bytes : SelfDelimiting (fun _ : UInt8 => True) fun byte => [byte] :=
    .of_length (fun _ _ same => List.singleton_inj.1 same) fun _ => rfl
  have texts := (selfDelimiting_counted bytes).comap Bytes.ofText_injective
  intro first second bound bound' rest others same
  apply texts (by simpa [Bytes.length_ofText] using bound)
    (by simpa [Bytes.length_ofText] using bound')
  simpa [field] using same

/-- The tags of an entity are a counted list of pairs of texts. -/
theorem selfDelimiting_tags :
    SelfDelimiting
      (fun tags : Tags => tags.toList.length < 2 ^ 64 ∧
        ∀ tag ∈ tags.toList, tag.1.utf8ByteSize < 2 ^ 64 ∧ tag.2.utf8ByteSize < 2 ^ 64)
      (fun tags => word (UInt64.ofNat tags.size) ++
        tags.toList.flatMap fun tag => field tag.1 ++ field tag.2) :=
  (selfDelimiting_counted (selfDelimiting_field.pair selfDelimiting_field)).comap
    fun _ _ same => SortedMap.ext same

end Identity

/-! ## Entities -/

/-- What an entity is named by. -/
structure EntityName where
  namespaceName : String
  alert : AlertId
  tags : Tags
  deriving DecidableEq

namespace EntityName

/-- The bytes that name the entity. -/
def encoding (name : EntityName) : Bytes :=
  Identity.encode name.namespaceName name.alert name.tags

def identity (name : EntityName) : EntityId :=
  entityId name.namespaceName name.alert name.tags

/-- The lengths of all strings and the number of the tags fit a word. -/
structure FitsWords (name : EntityName) : Prop where
  namespaceName : name.namespaceName.utf8ByteSize < 2 ^ 64
  tagCount : name.tags.size < 2 ^ 64
  tags : ∀ tag ∈ name.tags.toList, tag.1.utf8ByteSize < 2 ^ 64 ∧ tag.2.utf8ByteSize < 2 ^ 64

theorem selfDelimiting_encoding : Bytes.SelfDelimiting FitsWords encoding := by
  have known : Function.Injective
      fun name : EntityName => (name.namespaceName, name.alert, name.tags) := by
    rintro ⟨_, _, _⟩ ⟨_, _, _⟩ same
    cases same
    rfl
  have parts := (Identity.selfDelimiting_field.pair
    (Identity.selfDelimiting_word.pair Identity.selfDelimiting_tags)).comap known
  intro first second fits fits' rest others same
  apply parts ⟨fits.namespaceName, trivial, fits.tagCount, fits.tags⟩
    ⟨fits'.namespaceName, trivial, fits'.tagCount, fits'.tags⟩
  simpa [encoding, Identity.encode] using same

/--
Entities with the same encoding are the same, and no encoding begins another one. So two
different entities share an identity only if the digest takes their different encodings to
one word.
-/
theorem encodings_are_told_apart {first second : EntityName} (fits : first.FitsWords)
    (fits' : second.FitsWords) :
    (first.encoding = second.encoding → first = second) ∧
    (first.encoding <+: second.encoding → first.encoding = second.encoding) ∧
    (first ≠ second → first.identity = second.identity →
      first.encoding ≠ second.encoding ∧
        Digest.ofBytes first.encoding = Digest.ofBytes second.encoding) := by
  have known (same : first.encoding = second.encoding) : first = second :=
    selfDelimiting_encoding.eq_of_write_eq fits fits' same
  refine ⟨known, fun begins => ?_, fun different same => ⟨mt known different, same⟩⟩
  rw [selfDelimiting_encoding.eq_of_write_begins fits fits' begins]

/-- A namespace that looks like a length, and tags with the same characters in a row. -/
theorem encodings_are_told_apart_shifted_character :
    let first : EntityName :=
      ⟨"\x01\x00\x00\x00\x00\x00\x00\x00", 1, SortedMap.ofList [("a", "bc")]⟩
    let second : EntityName := { first with tags := SortedMap.ofList [("ab", "c")] }
    first.FitsWords ∧ second.FitsWords ∧ first.encoding ≠ second.encoding ∧
      ¬ first.encoding <+: second.encoding := by
  intro first second
  have fits : first.FitsWords := ⟨by decide +kernel, by decide +kernel, by decide +kernel⟩
  have fits' : second.FitsWords := ⟨by decide +kernel, by decide +kernel, by decide +kernel⟩
  have different : first ≠ second := by decide +kernel
  obtain ⟨known, begins, -⟩ := encodings_are_told_apart fits fits'
  exact ⟨fits, fits', mt known different, fun starts => different (known (begins starts))⟩

end EntityName

end Alerting
