import DeviceEnrollment.Proofs.Json.Members
import DeviceEnrollment.Proofs.Json.Nested
import DeviceEnrollment.Proofs.Registry.Tolerance

/-!
What a failure is reported to say. A body whose members are of their types speaks for itself, and
for every other object it is the status line that speaks (`message_of_body`).
-/
namespace DeviceEnrollment

open Json

namespace Json

variable {draft α : Type} {shape : RecordShape draft}

/-- What an option holds that is read from a value. -/
inductive Reading.Holds (decode : Reading → Decoded α) : Reading → Option α → Prop
  | nothing : Holds decode .null none
  | filled {value : Reading} {found : α} (read : decode value = .ok found) :
    Holds decode value (some found)

theorem Reading.holds_of_decodeOption {decode : Reading → Decoded α} {value : Reading}
    {held : Option α} (read : value.decodeOption decode = .ok held) : value.Holds decode held := by
  cases held with
  | none => exact eq_null_of_decodeOption read ▸ .nothing
  | some found => exact .filled (ne_null_of_decodeOption read).2

theorem Reading.exists_list_of_value {depth : Nat} {elements : List Reading}
    {broken : Option Fault} {meaning : Value}
    (read : value depth (.list elements broken) = .ok meaning) :
    ∃ values, meaning = .list values := by
  unfold value at read
  split at read
  · cases read
  · obtain ⟨values, _, ends⟩ := exists_of_bind_ok read
    split at ends
    · exact ⟨values, (Except.ok.inj ends).symm⟩
    · cases ends

theorem Reading.exists_object_of_value {depth : Nat} {members : List (WrittenText × Reading)}
    {finish : ObjectEnd} {meaning : Value}
    (read : value depth (.object members finish) = .ok meaning) :
    ∃ values, meaning = .object values := by
  unfold value at read
  split at read
  · cases read
  · obtain ⟨values, _, ends⟩ := exists_of_bind_ok read
    split at ends
    · exact ⟨values, (Except.ok.inj ends).symm⟩
    · cases ends
    · obtain ⟨_, _, never⟩ := exists_of_bind_ok ends
      cases never
    · cases ends

namespace RecordShape

/-- If all members of an object without repeated keys can be read and none is needed, the object is
a record. -/
theorem exists_decode {members : List (WrittenText × Reading)} {depth : Nat}
    (unrepeated : shape.IsUnrepeated members)
    (optional : ∀ field ∈ shape.fields, field.absence ≠ .refused)
    (readable : ∀ member ∈ members, ∀ current, ∃ next,
      shape.contribute (depth + 1) member current = some next) :
    ∃ record, shape.decode (depth + 2) (.object members .closed) = .ok record := by
  have gathered (start : draft) :
      ∃ last, shape.gather (depth + 1) members (some start) = some last := by
    clear unrepeated
    induction members generalizing start with
    | nil => exact ⟨start, rfl⟩
    | cons member rest ih =>
      obtain ⟨here, behind⟩ := List.forall_mem_cons.1 readable
      obtain ⟨next, one⟩ := here start
      obtain ⟨last, others⟩ := ih behind next
      refine ⟨last, ?_⟩
      show shape.gather (depth + 1) rest (shape.contribute (depth + 1) member start) = some last
      rw [one, others]
  obtain ⟨last, all⟩ := gathered shape.empty
  have complete : shape.missing? (shape.namesOf members) = none := by
    rw [missing?, Option.map_eq_none_iff, List.find?_eq_none]
    intro field among
    simp [optional field among]
  have decoded : (shape.decode (depth + 1 + 1) (.object members .closed)).toOption = some last := by
    rw [toOption_decode unrepeated, complete, all]
    simp
  cases read : shape.decode (depth + 2) (.object members .closed) with
  | error fault =>
    rw [read] at decoded
    cases decoded
  | ok record => exact ⟨record, rfl⟩

/-- All keys of the members of a record can be read. -/
theorem keys_of_takeMembers {depth : Nat} {members : List (WrittenText × Reading)}
    {state last : draft × List String}
    (taken : shape.takeMembers depth state members = .ok last) :
    ∀ member ∈ members, ∃ key, member.1.read = .ok key := by
  induction members generalizing state with
  | nil => simp
  | cons member rest ih =>
    obtain ⟨key, read, later⟩ := exists_of_bind_ok taken
    obtain ⟨next, _, others⟩ := exists_of_bind_ok later
    exact List.forall_mem_cons.2 ⟨⟨key, eq_of_faulty_ok read⟩, ih others⟩

variable {get : draft → Option α} {field : Field draft} {members : List (WrittenText × Reading)}
  {depth : Nat} {finish : ObjectEnd} {record : draft}

/-- A part of a record that only one field sets holds what is read from the member of this field. -/
theorem reads_of_decode {reads : Reading → Option α → Prop}
    (kept : ∀ other ∈ shape.fields, other.name ≠ field.name →
      ∀ held, other.Keeps fun record => get record = held)
    (brings : ∀ value, field.Brings value fun record => reads value (get record))
    (decoded : shape.decode depth (.object members finish) = .ok record) {written : WrittenText}
    {key : String} {value : Reading} (held : (written, value) ∈ members)
    (read : written.read = .ok key) (known : shape.field? key = some field) :
    reads value (get record) := by
  refine holds_of_decode (fun other among differs => ?_) held read known (brings value) decoded
  intro depth reading current next set before
  rwa [kept other among differs (get current) depth reading current next set rfl]

/-- A part of a record that only one field sets is as at first if no member is this field. -/
theorem eq_of_decode_absent (distinct : (shape.fields.map Field.name).Nodup)
    (among : field ∈ shape.fields)
    (kept : ∀ other ∈ shape.fields, other.name ≠ field.name →
      ∀ held, other.Keeps fun record => get record = held)
    (decoded : shape.decode depth (.object members finish) = .ok record)
    (absent : ∀ member ∈ members, ∀ key, member.1.read = .ok key →
      shape.field? key ≠ some field) : get record = get shape.empty := by
  obtain ⟨seen, taken⟩ := exists_takeMembers_of_decode decoded
  let asAtFirst : draft → Prop := fun record => get record = get shape.empty
  have keeps : ∀ other ∈ shape.fields, other.name ≠ field.name → other.Keeps asAtFirst :=
    fun other present differs => kept other present differs _
  have start : asAtFirst shape.empty := rfl
  refine holds_of_takeMembers_absent keeps ?_ start taken
  intro member held key found read known same
  have is : found = field :=
    List.inj_on_of_nodup_map distinct (List.mem_of_find?_eq_some known) among same
  exact absent member held key read (is ▸ known)

end RecordShape

end Json

namespace Registry

namespace ErrorReport

/-! ### The members of a report -/

/-- Whether a value can stand for a text that may be left out. -/
inductive IsText : Reading → Prop
  | null : IsText .null
  | text {written : WrittenText} {text : String} (read : written.read = .ok text) :
    IsText (.text written)

/-- Whether a value can stand for a code: a text, or an integer of 64 bits. -/
inductive IsCode : Reading → Prop
  | text {value : Reading} (text : IsText value) : IsCode value
  | integer {written : WrittenNumber} {value : Int} (read : written.read = .ok (.integer value))
    (fits : Reading.fitsInt64 value = true) : IsCode (.number written)

/-- Whether all keys can be read, and all known members are of their types. -/
structure IsStructured (members : List (WrittenText × Reading)) : Prop where
  keys : ∀ member ∈ members, ∃ key, member.1.read = .ok key
  code : ∀ member ∈ members, member.1.read = .ok "errorCode" → IsCode member.2
  texts : ∀ member ∈ members, ∀ key ∈ ["message", "errorMessage", "Message", "trackingId"],
    member.1.read = .ok key → IsText member.2

/-- Whether there is a text under a key. -/
def States (members : List (WrittenText × Reading)) (key text : String) : Prop :=
  ∃ written value, (written, Reading.text value) ∈ members ∧ written.read = .ok key ∧
    value.read = .ok text

/-- Whether there is nothing but `null` under a key. -/
def IsSilent (members : List (WrittenText × Reading)) (key : String) : Prop :=
  ∀ member ∈ members, member.1.read = .ok key → member.2 = .null

def codeField : Json.Field ErrorReport :=
  optionalField "errorCode" decodeErrorCode fun report value => { report with code := value }

def messageField : Json.Field ErrorReport :=
  optionalField "message" decodeTextAt fun report value => { report with message := value }

def errorMessageField : Json.Field ErrorReport :=
  { optionalField "errorMessage" decodeTextAt fun report value =>
      { report with errorMessage := value } with
    aliases := ["Message"] }

def trackingField : Json.Field ErrorReport :=
  optionalField "trackingId" decodeTextAt fun report value => { report with trackingId := value }

theorem fields_eq :
    shape.fields = [codeField, messageField, errorMessageField, trackingField] := rfl

theorem field?_cases {key : String} {field : Json.Field ErrorReport}
    (known : shape.field? key = some field) :
    (key = "errorCode" ∧ field = codeField) ∨ (key = "message" ∧ field = messageField) ∨
      ((key = "errorMessage" ∨ key = "Message") ∧ field = errorMessageField) ∨
      (key = "trackingId" ∧ field = trackingField) := by
  have named := List.find?_some known
  have among := List.mem_of_find?_eq_some known
  simp only [fields_eq, List.mem_cons, List.not_mem_nil, or_false] at among
  rcases among with rfl | rfl | rfl | rfl
  all_goals
    simp only [codeField, messageField, errorMessageField, trackingField, optionalField,
      List.contains_cons, List.contains_nil, Bool.or_false, Bool.or_eq_true, beq_iff_eq] at named
  · exact .inl ⟨named.symm, rfl⟩
  · exact .inr (.inl ⟨named.symm, rfl⟩)
  · exact .inr (.inr (.inl ⟨named.imp Eq.symm id, rfl⟩))
  · exact .inr (.inr (.inr ⟨named.symm, rfl⟩))

/-- Whether a field sets what an option is read as. -/
def Decodes {α : Type} (field : Json.Field ErrorReport) (decode : Nat → Reading → Decoded α)
    (set : ErrorReport → Option α → ErrorReport) : Prop :=
  field.decode = fun depth reading current => do
    return set current (← reading.decodeOption (decode depth))

theorem Decodes.keeps {α : Type} {field : Json.Field ErrorReport}
    {decode : Nat → Reading → Decoded α} {set : ErrorReport → Option α → ErrorReport}
    (is : Decodes field decode set) {holds : ErrorReport → Prop}
    (kept : ∀ current value, holds current → holds (set current value)) : field.Keeps holds := by
  intro depth reading current next decoded held
  rw [is] at decoded
  obtain ⟨value, _, same⟩ := exists_of_bind_ok decoded
  exact Except.ok.inj same ▸ kept current value held

theorem decodes_codeField :
    Decodes codeField decodeErrorCode fun report value => { report with code := value } := rfl

theorem decodes_messageField :
    Decodes messageField decodeTextAt fun report value => { report with message := value } := rfl

theorem decodes_errorMessageField :
    Decodes errorMessageField decodeTextAt fun report value =>
      { report with errorMessage := value } := rfl

theorem decodes_trackingField :
    Decodes trackingField decodeTextAt fun report value =>
      { report with trackingId := value } := rfl

/-! ### When a report can be read -/

theorem decodeOption_text_iff {depth : Nat} {value : Reading} :
    (∃ held, value.decodeOption (decodeTextAt depth) = .ok held) ↔ IsText value := by
  constructor
  · rintro ⟨held, decoded⟩
    cases Reading.holds_of_decodeOption decoded with
    | nothing => exact .null
    | filled found =>
      obtain ⟨written, rfl, stated⟩ := Reading.of_decodeText found
      exact .text stated
  · intro is
    cases is with
    | null => exact ⟨none, rfl⟩
    | @text written text stated =>
      refine ⟨some text, ?_⟩
      simp only [Reading.decodeOption, decodeTextAt, Reading.decodeText, stated, faulty]
      rfl

theorem isCode_of_decodeErrorCode {depth : Nat} {value : Reading} {held : String}
    (decoded : decodeErrorCode depth value = .ok held) : IsCode value := by
  obtain ⟨meaning, plain, code⟩ := exists_of_bind_ok decoded
  have stated := eq_of_faulty_ok plain
  cases value with
  | text written =>
    obtain ⟨text, read, _⟩ := exists_of_bind_ok stated
    exact .text (.text read)
  | number written =>
    obtain ⟨number, read, same⟩ := exists_of_bind_ok stated
    cases Except.ok.inj same
    cases number with
    | integer held =>
      simp only at code
      split at code
      · next fits => exact .integer read fits
      · cases code
    | double held => cases code
  | list elements broken =>
    obtain ⟨values, rfl⟩ := Reading.exists_list_of_value stated
    cases code
  | object members finish =>
    obtain ⟨values, rfl⟩ := Reading.exists_object_of_value stated
    cases code
  | null => cases Except.ok.inj stated; cases code
  | bool held => cases Except.ok.inj stated; cases code
  | brokenNull fault => cases stated
  | cutOff fault => cases stated

theorem decodeOption_code_iff {depth : Nat} {value : Reading} :
    (∃ held, value.decodeOption (decodeErrorCode depth) = .ok held) ↔ IsCode value := by
  constructor
  · rintro ⟨held, decoded⟩
    cases Reading.holds_of_decodeOption decoded with
    | nothing => exact .text .null
    | filled found => exact isCode_of_decodeErrorCode found
  · intro is
    cases is with
    | text is =>
      cases is with
      | null => exact ⟨none, rfl⟩
      | @text written text stated =>
        refine ⟨some text, ?_⟩
        simp only [Reading.decodeOption, decodeErrorCode, decodeValue, Reading.value, stated,
          faulty]
        rfl
    | @integer written held stated fits =>
      refine ⟨some (String.ofList (Number.text (.integer held))), ?_⟩
      have plain : decodeValue depth (.number written) = .ok (.number (.integer held)) := by
        simp only [decodeValue, Reading.value, stated, faulty]
        rfl
      simp only [Reading.decodeOption, decodeErrorCode, plain, ok_bind, fits, if_true]
      rfl

section

variable {members : List (WrittenText × Reading)} {depth : Nat}

/-- Every member of an object of structured members can be taken in. -/
theorem exists_contribute (structured : IsStructured members)
    (whole : ∀ member ∈ members, member.2.fault? = none) {member : WrittenText × Reading}
    (held : member ∈ members) (current : ErrorReport) :
    ∃ next, shape.contribute depth member current = some next := by
  obtain ⟨key, read⟩ := structured.keys member held
  have option {α : Type} {field : Json.Field ErrorReport} {decode : Nat → Reading → Decoded α}
      {set : ErrorReport → Option α → ErrorReport} (is : Decodes field decode set)
      (readable : ∃ value, member.2.decodeOption (decode depth) = .ok value) :
      ∃ next, (field.decode depth member.2 current).toOption = some next := by
    obtain ⟨value, decoded⟩ := readable
    refine ⟨set current value, ?_⟩
    rw [is]
    simp only [decoded]
    rfl
  have text {name : String} (among : name ∈ ["message", "errorMessage", "Message", "trackingId"])
      (same : key = name) : ∃ value, member.2.decodeOption (decodeTextAt depth) = .ok value :=
    decodeOption_text_iff.2 (structured.texts member held name among (same ▸ read))
  cases known : shape.field? key with
  | none =>
    refine ⟨current, ?_⟩
    simp [RecordShape.contribute, read, known, whole member held]
  | some field =>
    simp only [RecordShape.contribute, read, known]
    rcases field?_cases known with ⟨rfl, rfl⟩ | ⟨same, rfl⟩ | ⟨same | same, rfl⟩ | ⟨same, rfl⟩
    · exact option decodes_codeField (decodeOption_code_iff.2 (structured.code member held read))
    · exact option decodes_messageField (text (by decide) same)
    · exact option decodes_errorMessageField (text (by decide) same)
    · exact option decodes_errorMessageField (text (by decide) same)
    · exact option decodes_trackingField (text (by decide) same)

theorem isStructured_of_decode {finish : ObjectEnd} {report : ErrorReport}
    (decoded : shape.decode depth (.object members finish) = .ok report) :
    IsStructured members := by
  obtain ⟨seen, taken⟩ := RecordShape.exists_takeMembers_of_decode decoded
  have option {α : Type} {field : Json.Field ErrorReport} {decode : Nat → Reading → Decoded α}
      {set : ErrorReport → Option α → ErrorReport} (is : Decodes field decode set)
      {written : WrittenText} {key : String} {value : Reading} (held : (written, value) ∈ members)
      (read : written.read = .ok key) (known : shape.field? key = some field) :
      ∃ found, value.decodeOption (decode (depth - 1)) = .ok found := by
    obtain ⟨current, next, one⟩ := RecordShape.exists_decode_of_takeMembers taken held read known
    rw [is] at one
    obtain ⟨found, inner, _⟩ := exists_of_bind_ok one
    exact ⟨found, inner⟩
  constructor
  · exact RecordShape.keys_of_takeMembers taken
  · rintro ⟨written, value⟩ held read
    exact decodeOption_code_iff.1 (option decodes_codeField held read rfl)
  · rintro ⟨written, value⟩ held key among read
    simp only [List.mem_cons, List.not_mem_nil, or_false] at among
    rcases among with rfl | rfl | rfl | rfl
    · exact decodeOption_text_iff.1 (option decodes_messageField held read rfl)
    · exact decodeOption_text_iff.1 (option decodes_errorMessageField held read rfl)
    · exact decodeOption_text_iff.1 (option decodes_errorMessageField held read rfl)
    · exact decodeOption_text_iff.1 (option decodes_trackingField held read rfl)

theorem keeps_message {field : Json.Field ErrorReport} (among : field ∈ shape.fields)
    (other : field.name ≠ messageField.name) (held : Option String) :
    field.Keeps fun report => report.message = held := by
  simp only [fields_eq, List.mem_cons, List.not_mem_nil, or_false] at among
  rcases among with rfl | rfl | rfl | rfl
  · exact decodes_codeField.keeps fun _ _ same => same
  · exact absurd rfl other
  · exact decodes_errorMessageField.keeps fun _ _ same => same
  · exact decodes_trackingField.keeps fun _ _ same => same

theorem keeps_errorMessage {field : Json.Field ErrorReport} (among : field ∈ shape.fields)
    (other : field.name ≠ errorMessageField.name) (held : Option String) :
    field.Keeps fun report => report.errorMessage = held := by
  simp only [fields_eq, List.mem_cons, List.not_mem_nil, or_false] at among
  rcases among with rfl | rfl | rfl | rfl
  · exact decodes_codeField.keeps fun _ _ same => same
  · exact decodes_messageField.keeps fun _ _ same => same
  · exact absurd rfl other
  · exact decodes_trackingField.keeps fun _ _ same => same

/-- A text of a report is absent if there is nothing but `null` under its keys, and otherwise it is
the text that is there. -/
theorem text_cases {field : Json.Field ErrorReport} {get : ErrorReport → Option String}
    {set : ErrorReport → Option String → ErrorReport} (is : Decodes field decodeTextAt set)
    (sets : ∀ report value, get (set report value) = value) (start : get shape.empty = none)
    (among : field ∈ shape.fields)
    (kept : ∀ other ∈ shape.fields, other.name ≠ field.name →
      ∀ held, other.Keeps fun report => get report = held) {finish : ObjectEnd}
    {report : ErrorReport} (decoded : shape.decode depth (.object members finish) = .ok report) :
    (get report = none ∧ ∀ key, shape.field? key = some field → IsSilent members key) ∨
      ∃ text, get report = some text ∧
        (∃ key, shape.field? key = some field ∧ States members key text) ∧
        ∀ key other, shape.field? key = some field → States members key other → other = text := by
  have brings (value : Reading) :
      field.Brings value fun report => value.Holds Reading.decodeText (get report) := by
    intro depth current next one
    rw [is] at one
    obtain ⟨held, inner, same⟩ := exists_of_bind_ok one
    cases Except.ok.inj same
    show value.Holds Reading.decodeText (get (set current held))
    rw [sets]
    exact Reading.holds_of_decodeOption inner
  have reads {written : WrittenText} {key : String} {value : Reading}
      (held : (written, value) ∈ members) (read : written.read = .ok key)
      (known : shape.field? key = some field) : value.Holds Reading.decodeText (get report) :=
    RecordShape.reads_of_decode kept brings decoded held read known
  rcases Classical.em (∃ member ∈ members, ∃ key, member.1.read = .ok key ∧
      shape.field? key = some field) with ⟨⟨written, value⟩, held, key, read, known⟩ | absent
  · have own := reads held read known
    cases filled : get report with
    | none =>
      refine .inl ⟨rfl, fun other knownOther ⟨writtenOther, another⟩ heldOther readOther => ?_⟩
      have empty := reads heldOther readOther knownOther
      rw [filled] at empty
      cases empty
      rfl
    | some text =>
      refine .inr ⟨text, rfl, ⟨key, known, ?_⟩, fun other otherText knownOther stated => ?_⟩
      · rw [filled] at own
        cases own with
        | filled found =>
          obtain ⟨inner, rfl, is⟩ := Reading.of_decodeText found
          exact ⟨written, inner, held, read, is⟩
      · obtain ⟨writtenOther, inner, heldOther, readOther, isOther⟩ := stated
        have another := reads heldOther readOther knownOther
        rw [filled] at another
        cases another with
        | filled found =>
          obtain ⟨_, same, is⟩ := Reading.of_decodeText found
          cases same
          exact Except.ok.inj (isOther.symm.trans is)
  · have unset := RecordShape.eq_of_decode_absent isIndependent_shape.distinct among kept decoded
      fun member held key read known => absent ⟨member, held, key, read, known⟩
    refine .inl ⟨unset.trans start, fun key known member held read => ?_⟩
    exact absurd ⟨member, held, key, read, known⟩ absent

end

/-! ### What a report says -/

theorem not_states_of_isSilent {members : List (WrittenText × Reading)} {key text : String}
    (silent : IsSilent members key) : ¬States members key text := by
  rintro ⟨written, value, held, read, _⟩
  cases silent _ held read

/-- The message of a report, by what stands under its keys. -/
theorem message_of_decode {members : List (WrittenText × Reading)} {depth : Nat}
    {finish : ObjectEnd} {report : ErrorReport}
    (decoded : shape.decode depth (.object members finish) = .ok report) :
    (report.message = none ∧ IsSilent members "message") ∨
      ∃ text, report.message = some text ∧ States members "message" text ∧
        ∀ other, States members "message" other → other = text := by
  have known : shape.field? "message" = some messageField := rfl
  rcases text_cases decodes_messageField (fun _ _ => rfl) rfl (by simp [fields_eq])
      (fun _ => keeps_message) decoded with
    ⟨absent, silent⟩ | ⟨text, present, ⟨key, is, stated⟩, only⟩
  · exact .inl ⟨absent, silent _ known⟩
  · refine .inr ⟨text, present, ?_, fun other => only _ other known⟩
    rcases field?_cases is with ⟨_, same⟩ | ⟨rfl, _⟩ | ⟨_, same⟩ | ⟨_, same⟩
    · exact absurd (congrArg Field.name same) (by decide)
    · exact stated
    · exact absurd (congrArg Field.name same) (by decide)
    · exact absurd (congrArg Field.name same) (by decide)

/-- The second message of a report, by what stands under either of its keys. -/
theorem errorMessage_of_decode {members : List (WrittenText × Reading)} {depth : Nat}
    {finish : ObjectEnd} {report : ErrorReport}
    (decoded : shape.decode depth (.object members finish) = .ok report) :
    (report.errorMessage = none ∧
        ∀ key ∈ ["errorMessage", "Message"], IsSilent members key) ∨
      ∃ text, report.errorMessage = some text ∧
        (∃ key ∈ ["errorMessage", "Message"], States members key text) ∧
        ∀ key ∈ ["errorMessage", "Message"], ∀ other, States members key other → other = text := by
  have known : ∀ key ∈ ["errorMessage", "Message"],
      shape.field? key = some errorMessageField := by
    simp only [List.forall_mem_cons, List.not_mem_nil, false_implies, implies_true, and_true]
    exact ⟨rfl, rfl⟩
  rcases text_cases decodes_errorMessageField (fun _ _ => rfl) rfl (by simp [fields_eq])
      (fun _ => keeps_errorMessage) decoded with
    ⟨absent, silent⟩ | ⟨text, present, ⟨key, is, stated⟩, only⟩
  · exact .inl ⟨absent, fun key among => silent key (known key among)⟩
  · refine .inr ⟨text, present, ⟨key, ?_, stated⟩, fun other among another =>
      only other another (known other among)⟩
    rcases field?_cases is with ⟨_, same⟩ | ⟨_, same⟩ | ⟨named, _⟩ | ⟨_, same⟩
    · exact absurd (congrArg Field.name same) (by decide)
    · exact absurd (congrArg Field.name same) (by decide)
    · simpa using named
    · exact absurd (congrArg Field.name same) (by decide)

section

variable {body : Bytes} {members : List (WrittenText × Reading)}

theorem ofBytes_of_structured
    (object : Document.ofBytes body = ⟨.object members .closed, false⟩)
    (unrepeated : shape.IsUnrepeated members) (structured : IsStructured members) :
    ∃ report, ofBytes body = report ∧
      shape.decode nestingLimit (.object members .closed) = .ok report := by
  have whole : ∀ member ∈ members, member.2.fault? = none := fun member held =>
    Document.whole_of_member (by rw [object]) held
  obtain ⟨report, decoded⟩ :
      ∃ report, shape.decode (126 + 2) (.object members .closed) = .ok report :=
    RecordShape.exists_decode unrepeated (by simp [fields_eq, codeField, messageField,
      errorMessageField, trackingField, optionalField])
      fun member held current => exists_contribute structured whole held current
  refine ⟨report, ?_, decoded⟩
  have read : decodeDocument shape.decode body = .ok report := by
    rw [decodeDocument, object]
    show (shape.decode (126 + 2) (.object members .closed) >>= _) = _
    rw [decoded]
    rfl
  rw [ofBytes, read]

theorem ofBytes_of_not_structured
    (object : Document.ofBytes body = ⟨.object members .closed, false⟩)
    (foreign : ¬IsStructured members) : ofBytes body = empty := by
  unfold ofBytes
  split
  · next report read =>
    obtain ⟨found, decoded, _⟩ := exists_of_bind_ok read
    rw [object] at decoded
    exact absurd (isStructured_of_decode decoded) foreign
  · rfl

end

end ErrorReport

open ErrorReport

/-- The message of a failure whose body is an object without repeated keys. If the known members are
of their types, whatever the others are, it is the text under the first key, or without a value
there the text under one of the others, or the status line if all these are empty or absent. If a
known member is of another type, it is the status line. -/
theorem message_of_body {response : Http.Response} {members : List (WrittenText × Reading)}
    (object : Document.ofBytes response.body = ⟨.object members .closed, false⟩)
    (unrepeated : ErrorReport.shape.IsUnrepeated members) :
    (IsStructured members →
      (∀ text, text ≠ "" → States members "message" text →
        (ServiceError.ofResponse response).message = text) ∧
      (∀ key ∈ ["errorMessage", "Message"], ∀ text, text ≠ "" → IsSilent members "message" →
        States members key text → (ServiceError.ofResponse response).message = text) ∧
      ((∀ key ∈ ["message", "errorMessage", "Message"], ∀ text,
          States members key text → text = "") →
        (ServiceError.ofResponse response).message = response.status.line)) ∧
    (¬IsStructured members →
      (ServiceError.ofResponse response).message = response.status.line) := by
  constructor
  · intro structured
    obtain ⟨report, same, decoded⟩ := ofBytes_of_structured object unrepeated structured
    have is : (ServiceError.ofResponse response).message =
        report.message?.getD response.status.line := by
      rw [ServiceError.ofResponse, same]
    rw [is, message?]
    have message := message_of_decode decoded
    have errorMessage := errorMessage_of_decode decoded
    refine ⟨fun text filled states => ?_, fun key among text filled silent states => ?_,
      fun empty => ?_⟩
    · rcases message with ⟨_, silent⟩ | ⟨found, present, _, only⟩
      · exact absurd states (not_states_of_isSilent silent)
      · simp [present, ← only text states, Option.filter, filled]
    · rcases message with ⟨absent, _⟩ | ⟨found, _, stated, _⟩
      · rcases errorMessage with ⟨_, silentToo⟩ | ⟨found, present, _, only⟩
        · exact absurd states (not_states_of_isSilent (silentToo key among))
        · simp [absent, present, ← only key among text states, Option.filter, filled]
      · exact absurd stated (not_states_of_isSilent silent)
    · rcases message with ⟨absent, _⟩ | ⟨found, present, states, _⟩
      · rcases errorMessage with ⟨absentToo, _⟩ | ⟨found, present, ⟨key, among, states⟩, _⟩
        · simp [absent, absentToo]
        · have blank := empty key (List.mem_cons_of_mem _ among) found states
          simp [absent, present, blank, Option.filter]
      · have blank := empty _ List.mem_cons_self found states
        simp [present, blank, Option.filter]
  · intro foreign
    rw [ServiceError.ofResponse, ofBytes_of_not_structured object foreign]
    rfl

/-- A report with a code, a message and a member that nobody knows. -/
def reportBody : Bytes :=
  Bytes.ofText ("\x7b\"errorCode\":404201,\"details\":[5],\"message\":null," ++
    "\"Message\":\"Enrollment not found\"\x7d")

/-- A report whose tracking id is a number. -/
def numberedBody : Bytes :=
  Bytes.ofText "\x7b\"message\":\"Enrollment not found\",\"trackingId\":5\x7d"

def notFoundWith (body : Bytes) : Http.Response := ⟨⟨404, by decide⟩, .empty, body⟩

def reportMembers : List (WrittenText × Reading) :=
  [(.ofText "errorCode", .number (.ofInteger 404201)),
    (.ofText "details", .list [.number (.ofInteger 5)] none), (.ofText "message", .null),
    (.ofText "Message", .text (.ofText "Enrollment not found"))]

def numberedMembers : List (WrittenText × Reading) :=
  [(.ofText "message", .text (.ofText "Enrollment not found")),
    (.ofText "trackingId", .number (.ofInteger 5))]

theorem isStructured_reportMembers : IsStructured reportMembers := by
  have code : IsCode (.number (.ofInteger 404201)) :=
    .integer (WrittenNumber.read_ofInteger (by decide) (by decide)) (by decide)
  have text : IsText (.text (.ofText "Enrollment not found")) :=
    .text (WrittenText.read_ofText "Enrollment not found")
  constructor
  case keys =>
    simp only [reportMembers, List.forall_mem_cons, WrittenText.read_ofText]
    simp
  case code =>
    rintro member held read
    simp only [reportMembers, List.mem_cons, List.not_mem_nil, or_false] at held
    rcases held with rfl | rfl | rfl | rfl
    · exact code
    · rw [WrittenText.read_ofText] at read
      exact absurd (Except.ok.inj read) (by decide)
    · exact .text .null
    · exact .text text
  case texts =>
    rintro member held key among read
    simp only [reportMembers, List.mem_cons, List.not_mem_nil, or_false] at held
    rcases held with rfl | rfl | rfl | rfl
    · rw [WrittenText.read_ofText] at read
      cases Except.ok.inj read
      exact absurd among (by decide)
    · rw [WrittenText.read_ofText] at read
      cases Except.ok.inj read
      exact absurd among (by decide)
    · exact .null
    · exact text

theorem message_of_body_alias :
    (ServiceError.ofResponse (notFoundWith reportBody)).message = "Enrollment not found" ∧
      (ServiceError.ofResponse (notFoundWith numberedBody)).message = "404 Not Found" := by
  have report : Document.ofBytes reportBody = ⟨.object reportMembers .closed, false⟩ := by
    set_option maxRecDepth 20000 in rfl
  have numbered : Document.ofBytes numberedBody = ⟨.object numberedMembers .closed, false⟩ := by
    set_option maxRecDepth 20000 in rfl
  have reportKeys : ErrorReport.shape.IsUnrepeated reportMembers := by decide +kernel
  have numberedKeys : ErrorReport.shape.IsUnrepeated numberedMembers := by decide +kernel
  constructor
  · have whole : Document.ofBytes (notFoundWith reportBody).body =
        ⟨.object reportMembers .closed, false⟩ := report
    obtain ⟨_, second, _⟩ := (message_of_body whole reportKeys).1 isStructured_reportMembers
    refine second "Message" (by decide) _ (by decide) ?_ ?_
    · rintro member held read
      simp only [reportMembers, List.mem_cons, List.not_mem_nil, or_false] at held
      rcases held with rfl | rfl | rfl | rfl
      case inr.inr.inl => rfl
      all_goals
        rw [WrittenText.read_ofText] at read
        exact absurd (Except.ok.inj read) (by decide)
    · exact ⟨.ofText "Message", .ofText "Enrollment not found", by simp [reportMembers],
        WrittenText.read_ofText _, WrittenText.read_ofText _⟩
  · have whole : Document.ofBytes (notFoundWith numberedBody).body =
        ⟨.object numberedMembers .closed, false⟩ := numbered
    refine (message_of_body whole numberedKeys).2 fun structured => ?_
    have is := structured.texts _ (List.mem_cons_of_mem _ List.mem_cons_self) "trackingId"
      (by decide) rfl
    cases is

/-- The message of a body is lost when another known member is not of its type. -/
theorem message_lost :
    (notFoundWith numberedBody).status.isSuccess = false ∧
      Document.ofBytes (notFoundWith numberedBody).body =
        ⟨.object numberedMembers .closed, false⟩ ∧
      (numberedMembers.map fun member => member.1.read.toOption).Nodup ∧
      States numberedMembers "message" "Enrollment not found" ∧
      (ServiceError.ofResponse (notFoundWith numberedBody)).message ≠ "Enrollment not found" := by
  refine ⟨rfl, ?_, by decide +kernel, ⟨_, _, List.mem_cons_self, rfl, rfl⟩, ?_⟩
  · set_option maxRecDepth 20000 in rfl
  · have line :
        (ServiceError.ofResponse (notFoundWith numberedBody)).message = "404 Not Found" := by
      set_option maxRecDepth 20000 in rfl
    rw [line]
    decide

end Registry

end DeviceEnrollment
