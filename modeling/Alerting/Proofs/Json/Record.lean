import Alerting.Json.Record
import Alerting.Proofs.Json.Reader
import Mathlib.Data.List.Nodup

/-!
# Records are read as they were written

A written form and its reader are faithful to each other if every value has a well-spelled
form from which it is read back. Such pairs are built up: from single values over lists to
records, which are read back field by field, also if some fields are not written.
-/

namespace Alerting.Json

/-- Every value has a well-spelled form, from which it is read back. -/
structure Faithful {α : Type} (write : α → Json) (read : Json → Option α) : Prop where
  spelled : ∀ value, WellSpelled (write value)
  reads : ∀ value, read (write value) = some value

/-- A document of a written value and blanks holds that value. -/
theorem Faithful.read_print {α : Type} {write : α → Json} {read? : Json → Option α}
    (faithful : Faithful write read?) (value : α) {blanks : Bytes}
    (blank : blanks.all isBlank = true) :
    (read (print (write value) ++ blanks)).bind read? = some value := by
  rw [Json.read_print (faithful.spelled value) blank, Option.bind_some, faithful.reads]

/-! ## Single values -/

theorem faithful_text : Faithful ofText text? where
  spelled _ := .string (isString_escape _)
  reads text := literalText?_literalOfText text

theorem integerWithin?_ofInt {least greatest value : Int} (above : least ≤ value)
    (below : value ≤ greatest) : integerWithin? least greatest (ofInt value) = some value := by
  simp [integerWithin?, ofInt, integer?_integerLiteral, above, below]

theorem faithful_int64 : Faithful ofInt64 int64? where
  spelled _ := .number (isNumber_integerLiteral _)
  reads value := by
    rw [int64?, ofInt64, integerWithin?_ofInt (Int64.minValue_le_toInt value)
      (Int64.toInt_le value), Option.map_some, Int64.ofInt_toInt]

theorem uint64?_ofUInt64 (value : UInt64) : (ofUInt64 value).uint64? = some value := by
  have bound := value.toNat_lt
  have spelled : integerWithin? 0 (UInt64.size - 1) (ofUInt64 value) = some (value.toNat : Int) :=
    integerWithin?_ofInt (Int.natCast_nonneg _) (by simp [UInt64.size]; omega)
  rw [uint64?, spelled, Option.map_some, Int.toNat_natCast, UInt64.ofNat_toNat]

theorem faithful_uint64 : Faithful ofUInt64 uint64? where
  spelled _ := .number (isNumber_decimal _)
  reads value := uint64?_ofUInt64 value

theorem faithful_uint32 : Faithful (fun value => ofNat value.toNat) uint32? where
  spelled _ := .number (isNumber_decimal _)
  reads value := by
    have bound := value.toNat_lt
    have spelled : integerWithin? 0 (UInt32.size - 1) (ofNat value.toNat) =
        some (value.toNat : Int) :=
      integerWithin?_ofInt (Int.natCast_nonneg _) (by simp [UInt32.size]; omega)
    rw [uint32?, spelled, Option.map_some, Int.toNat_natCast, UInt32.ofNat_toNat]

theorem faithful_bool : Faithful bool bool? where
  spelled value := .bool value
  reads _ := rfl

/-- Alternatives that are written by their names. -/
theorem faithful_alternative {α : Type} {alternatives : List (String × α)} {name : α → String}
    (known : ∀ value, alternatives.lookup (name value) = some value) :
    Faithful (fun value => ofText (name value)) (alternative? .json alternatives) where
  spelled value := faithful_text.spelled (name value)
  reads value := by
    have named : bareAlternative? .json (ofText (name value)) = some (name value) :=
      literalText?_literalOfText (name value)
    rw [alternative?, named, Option.bind_some, known]

/-! ## Lists -/

section Lists

variable {α β γ : Type}

/-- Reading what was written of each value gives what each reading gives. -/
theorem mapM_map_eq_some {write : α → β} {read : β → Option γ} {result : α → γ} {values : List α}
    (reads : ∀ value ∈ values, read (write value) = some (result value)) :
    (values.map write).mapM read = some (values.map result) := by
  induction values with
  | nil => rfl
  | cons value rest ih =>
    have first := reads value List.mem_cons_self
    have later := ih fun other member => reads other (List.mem_cons_of_mem _ member)
    simp [List.mapM_cons, first, later]

theorem Faithful.list {write : α → Json} {read : Json → Option α}
    (faithful : Faithful write read) : Faithful (ofList write) (list? read) where
  spelled values := by
    constructor
    intro element member
    rcases List.mem_map.1 member with ⟨value, -, rfl⟩
    exact faithful.spelled value
  reads values :=
    (mapM_map_eq_some fun value _ => faithful.reads value).trans (by rw [List.map_id'])

end Lists

/-! ## Records -/

/-- The members for fields of which some have no value. -/
def presentMembers (fields : List (String × Option Json)) : List (String × Json) :=
  fields.filterMap fun field => field.2.map fun value => (field.1, value)

theorem namedMembers?_record (members : List (String × Json)) :
    namedMembers? (members.map fun member => (literalOfText member.1, member.2)) =
      some members := by
  refine (mapM_map_eq_some fun member _ => ?_).trans (by rw [List.map_id'])
  rw [literalText?_literalOfText, Option.map_some]

theorem wellSpelled_record {members : List (String × Json)}
    (spelled : ∀ member ∈ members, WellSpelled member.2) : WellSpelled (record members) := by
  constructor
  · intro member inMembers
    rcases List.mem_map.1 inMembers with ⟨given, -, rfl⟩
    exact isString_escape _
  · intro member inMembers
    rcases List.mem_map.1 inMembers with ⟨given, inGiven, rfl⟩
    exact spelled given inGiven

theorem presentMembers_map_some (members : List (String × Json)) :
    presentMembers (members.map fun member => (member.1, some member.2)) = members := by
  induction members with
  | nil => rfl
  | cons member rest ih => exact congrArg (member :: ·) ih

section Fields

variable {fields : List (String × Option Json)}

theorem mem_presentMembers {member : String × Json} :
    member ∈ presentMembers fields ↔ (member.1, some member.2) ∈ fields := by
  simp only [presentMembers, List.mem_filterMap, Option.map_eq_some_iff]
  constructor
  · rintro ⟨⟨name, value⟩, inFields, given, rfl, rfl⟩
    exact inFields
  · intro inFields
    exact ⟨_, inFields, _, rfl, rfl⟩

/-- Of fields with distinct names, the one of a name has the value that it was given. -/
theorem soleValue?_presentMembers (distinct : (fields.map Prod.fst).Nodup)
    {field : String × Option Json} (member : field ∈ fields) :
    soleValue? field.1 (presentMembers fields) = some field.2 := by
  have only : (presentMembers fields).filter (fun member => member.1 == field.1) =
      (field.2.map fun value => (field.1, value)).toList := by
    induction fields with
    | nil => simp at member
    | cons first rest ih =>
      rcases List.nodup_cons.1 distinct with ⟨absent, later⟩
      have split : presentMembers (first :: rest) =
          (first.2.map fun value => (first.1, value)).toList ++ presentMembers rest := by
        rw [presentMembers, List.filterMap_cons]
        cases first.2 <;> rfl
      rw [split, List.filter_append]
      rcases List.mem_cons.1 member with rfl | inRest
      · have none : (presentMembers rest).filter (fun other => other.1 == field.1) = [] := by
          rw [List.filter_eq_nil_iff]
          intro other present
          rw [beq_iff_eq]
          intro same
          exact absent (same ▸ List.mem_map_of_mem (mem_presentMembers.1 present))
        rw [none, List.append_nil]
        cases field.2 <;> simp
      · have different : first.1 ≠ field.1 := by
          intro same
          exact absent (same ▸ List.mem_map_of_mem inRest)
        rw [ih later inRest]
        cases first.2 <;> simp [different]
  rw [soleValue?, only]
  cases field.2 <;> rfl

/-- A record of fields with distinct names is read back field by field. -/
theorem fields?_record (dialect : Dialect) (unknown : UnknownMembers)
    (distinct : (fields.map Prod.fst).Nodup) :
    fields? dialect unknown (fields.map Prod.fst) (record (presentMembers fields)) =
      some (fields.map Prod.snd) := by
  have known : ((presentMembers fields).any fun member =>
      !(fields.map Prod.fst).contains member.1) = false := by
    rw [List.any_eq_false]
    intro member present
    have named : member.1 ∈ fields.map Prod.fst :=
      List.mem_map_of_mem (mem_presentMembers.1 present)
    simp [named]
  have values : (fields.map Prod.fst).mapM (fun name => soleValue? name (presentMembers fields)) =
      some (fields.map Prod.snd) :=
    mapM_map_eq_some fun field member => soleValue?_presentMembers distinct member
  rw [record, fields?, namedMembers?_record]
  simp only [Option.bind_eq_bind, Option.bind_some, known, Bool.false_eq_true, and_false, if_false]
  exact values

end Fields

/-- A record of which every field is written is read back field by field. -/
theorem fields?_record_of_members (dialect : Dialect) (unknown : UnknownMembers)
    {members : List (String × Json)} {names : List String}
    (named : members.map Prod.fst = names) (distinct : names.Nodup) :
    fields? dialect unknown names (record members) =
      some (members.map fun member => some member.2) := by
  subst named
  let fields := members.map fun member => (member.1, some member.2)
  have names : fields.map Prod.fst = members.map Prod.fst := List.map_map
  have values : fields.map Prod.snd = members.map fun member => some member.2 := List.map_map
  have distinct : (fields.map Prod.fst).Nodup := names ▸ distinct
  have read := fields?_record dialect unknown distinct
  rw [names, values, presentMembers_map_some] at read
  exact read

section Absent

variable {α : Type} {write : α → Json} {read : Json → Option α}

theorem Faithful.optional?_write (faithful : Faithful write read)
    (present : ∀ value, (write value).isNull = false) (value : α) :
    optional? read (write value) = some (some value) := by
  have notNull := present value
  have back := faithful.reads value
  cases spelled : write value with
  | null => simp [spelled, isNull] at notNull
  | _ =>
    rw [spelled] at back
    simp [optional?, back]

/-- `null` stands for an absent value, if it is written for no other. -/
theorem Faithful.option (faithful : Faithful write read)
    (present : ∀ value, (write value).isNull = false) :
    Faithful (ofOption write) (optional? read) where
  spelled value := by
    cases value with
    | none => exact .null
    | some value => exact faithful.spelled value
  reads value := by
    cases value with
    | none => rfl
    | some value => exact faithful.optional?_write present value

theorem Faithful.spelled_of_map_eq (faithful : Faithful write read) {value : Option α}
    {json : Json} (written : value.map write = some json) : WellSpelled json := by
  rcases Option.map_eq_some_iff.1 written with ⟨value, -, rfl⟩
  exact faithful.spelled value

/-- A value that is written unless it is absent is read back, if `null` is never written. -/
theorem Faithful.nullable_map (faithful : Faithful write read)
    (present : ∀ value, (write value).isNull = false) (value : Option α) :
    nullable read (value.map write) = some value := by
  cases value with
  | none => rfl
  | some value =>
    rw [Option.map_some, nullable, withDefault]
    exact faithful.optional?_write present value

end Absent

end Alerting.Json
