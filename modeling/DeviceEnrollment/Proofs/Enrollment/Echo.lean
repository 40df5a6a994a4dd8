import DeviceEnrollment.Proofs.Enrollment.Printing
import DeviceEnrollment.Proofs.Registry.Body

/-!
Registration states that are read and written again. What the service states of a device comes back
under the same names and says the same, but for a status that is not one of the names in use
(`state_echo`).
-/
namespace DeviceEnrollment

open Json

namespace Json

/-- Whether an object has a value under a name that is not `null`. -/
def HasMember (members : List (WrittenText × Reading)) (name : String) (value : Reading) : Prop :=
  value ≠ .null ∧ ∃ written, (written, value) ∈ members ∧ written.read = .ok name

theorem Value.memberReadings_eq_map (members : List (String × Value)) :
    memberReadings members = members.map fun member => (.ofText member.1, member.2.reading) := by
  induction members with
  | nil => rfl
  | cons member rest ih => rw [memberReadings, ih, List.map_cons]

/-- If every field has an entry by its name, the members are those of the names with an entry. -/
theorem stated_map {draft : Type} (fields : List (Field draft)) (entry : String → Option Value) :
    stated fields ((fields.map Field.name).map entry) =
      (fields.map Field.name).filterMap fun name => (entry name).map fun value => (name, value) := by
  induction fields with
  | nil => rfl
  | cons field rest ih =>
    simp only [stated, List.map_cons, List.zip_cons_cons, List.filterMap_cons] at ih ⊢
    rw [ih]

end Json

namespace RegistrationState

/-! ### What members say -/

/-- The names that the members of a state have. -/
def names : List String := shape.fields.map Field.name

/-- The names of points in time. -/
def timeNames : List String := ["createdDateTimeUtc", "lastUpdatedDateTimeUtc"]

inductive Meaning where
  | text (held : String)
  | integer (held : Int)
  | instant (held : Time.Instant)
deriving DecidableEq, Repr

/-- What a value says under a name, if it says anything there. -/
def meaning? (name : String) : Reading → Option Meaning
  | .text written =>
    match written.read with
    | .error _ => none
    | .ok text =>
      if name ∈ timeNames then (Time.Instant.parse text).toOption.map .instant
      else some (.text text)
  | .number written =>
    match written.read with
    | .ok (.integer value) => some (.integer value)
    | _ => none
  | _ => none

/-- Whether two values say the same under a name. -/
def SaySame (name : String) (first second : Reading) : Prop :=
  ∃ meaning, meaning? name first = some meaning ∧ meaning? name second = some meaning

/-- Whether a value is the name of a status. -/
def NamesStatus (value : Reading) : Prop :=
  ∃ written status, value = .text written ∧ written.read = .ok (RegistrationStatus.wireName status)

/-- Whether a value says under a name what it is still going to say once it is written again. -/
def IsKept (name : String) (value : Reading) : Prop := name = "status" → NamesStatus value

section

variable {name : String} {written : WrittenText} {text : String}

theorem meaning?_text (read : written.read = .ok text) (plain : name ∉ timeNames) :
    meaning? name (.text written) = some (.text text) := by
  simp only [meaning?, read, if_neg plain]

theorem meaning?_instant {instant : Time.Instant} (read : written.read = .ok text)
    (parsed : Time.Instant.parse text = .ok instant) (timed : name ∈ timeNames) :
    meaning? name (.text written) = some (.instant instant) := by
  simp only [meaning?, read, if_pos timed, parsed]
  rfl

theorem meaning?_integer {written : WrittenNumber} {value : Int}
    (read : written.read = .ok (.integer value)) :
    meaning? name (.number written) = some (.integer value) := by
  simp only [meaning?, read]

end

/-! ### What is written of a state -/

/-- What is written under a name. -/
def entry (state : RegistrationState) : String → Option Value
  | "registrationId" => state.registrationId.map .text
  | "createdDateTimeUtc" => state.createdTime.map fun instant => .text instant.text
  | "assignedHub" => state.assignedHub.map .text
  | "deviceId" => state.deviceId.map .text
  | "status" => state.status.map fun status => .text status.wireName
  | "errorCode" => state.errorCode.map fun code => .number (.integer code)
  | "errorMessage" => state.errorMessage.map .text
  | "lastUpdatedDateTimeUtc" => state.lastUpdatedTime.map fun instant => .text instant.text
  | "etag" => state.etag.map fun etag => .text etag.text
  | _ => none

theorem entries_eq (state : RegistrationState) : state.entries = names.map state.entry := rfl

/-- A field changes what is written under its own name. -/
theorem keeps_entry {name : String} {left : Option Value} {field : Json.Field RegistrationState}
    (member : field ∈ shape.fields) (other : field.name ≠ name) :
    field.Keeps fun state => state.entry name = left := by
  simp only [shape, List.mem_cons, List.not_mem_nil, or_false] at member
  rcases member with rfl | rfl | rfl | rfl | rfl | rfl | rfl | rfl | rfl
  all_goals
    refine Field.keeps_optionalField fun current value held => ?_
    rw [← held]
    unfold entry
    split <;> first | rfl | exact absurd rfl other

/-- How the value of a member goes with what is written under its name afterwards. -/
def Conveys (name : String) (value : Reading) : Option Value → Prop
  | none => value = .null
  | some printed => value ≠ .null ∧ (SaySame name value printed.reading ↔ IsKept name value)

theorem conveys_of_meaning {name : String} {value : Reading} {printed : Value} {meaning : Meaning}
    (plain : name ≠ "status") (said : meaning? name value = some meaning)
    (again : meaning? name printed.reading = some meaning) :
    Conveys name value (some printed) := by
  refine ⟨?_, ?_⟩
  · rintro rfl
    cases said
  · exact ⟨fun _ same => absurd same plain, fun _ => ⟨meaning, said, again⟩⟩

section

variable {name : String} {value : Reading}

theorem conveys_of_decodeText {text : String} (plain : name ≠ "status")
    (timeless : name ∉ timeNames) (read : value.decodeText = .ok text) :
    Conveys name value (some (.text text)) := by
  obtain ⟨written, rfl, stated⟩ := Reading.of_decodeText read
  exact conveys_of_meaning plain (meaning?_text stated timeless)
    (meaning?_text (WrittenText.read_ofText text) timeless)

/-- A value that may be absent goes with its entry if one that is there does. -/
theorem conveys_option {α : Type} {decode : Reading → Decoded α} {print : α → Value}
    {held : Option α} (read : value.decodeOption decode = .ok held)
    (filled : ∀ found, value ≠ .null → decode value = .ok found →
      Conveys name value (some (print found))) :
    Conveys name value (held.map print) := by
  cases held with
  | none => exact Reading.eq_null_of_decodeOption read
  | some found =>
    obtain ⟨present, decoded⟩ := Reading.ne_null_of_decodeOption read
    exact filled found present decoded

theorem conveys_text {depth : Nat} {held : Option String} (plain : name ≠ "status")
    (timeless : name ∉ timeNames) (read : value.decodeOption (decodeTextAt depth) = .ok held) :
    Conveys name value (held.map .text) :=
  conveys_option read fun _ _ decoded => conveys_of_decodeText plain timeless decoded

theorem conveys_etag {depth : Nat} {held : Option ETag} (plain : name ≠ "status")
    (timeless : name ∉ timeNames) (read : value.decodeOption (ETag.decode depth) = .ok held) :
    Conveys name value (held.map fun etag => .text etag.text) := by
  refine conveys_option read fun etag _ decoded => ?_
  obtain ⟨text, read, rfl⟩ := exists_of_map_ok decoded
  exact conveys_of_decodeText plain timeless read

theorem conveys_instant {depth : Nat} {held : Option Time.Instant} (timed : name ∈ timeNames)
    (read : value.decodeOption (decodeInstant depth) = .ok held) :
    Conveys name value (held.map fun instant => .text instant.text) := by
  refine conveys_option read fun instant _ decoded => ?_
  obtain ⟨written, text, rfl, stated, parsed⟩ := of_decodeInstant decoded
  have plain : name ≠ "status" := by
    rintro rfl
    exact absurd timed (by decide)
  exact conveys_of_meaning plain (meaning?_instant stated parsed timed)
    (meaning?_instant (WrittenText.read_ofText _) (Time.Instant.parse_text instant) timed)

theorem conveys_integer {held : Option Int} (plain : name ≠ "status")
    (read : value.decodeOption Reading.decodeInt = .ok held) :
    Conveys name value (held.map fun code => .number (.integer code)) := by
  refine conveys_option read fun code _ decoded => ?_
  obtain ⟨fits, written, rfl, stated⟩ := Reading.of_decodeInt decoded
  obtain ⟨least, greatest⟩ := isIntegral_of_fitsInt64 fits
  refine conveys_of_meaning plain (meaning?_integer stated) ?_
  rw [Value.reading_integer]
  exact meaning?_integer (WrittenNumber.read_ofInteger least greatest)

/-- The name of a status is read as this status, and any other text as another name. -/
theorem exists_wireName_iff {text : String} {status : RegistrationStatus}
    (made : Reading.variantOf RegistrationStatus.variants (some .unknown) text = .ok status) :
    (∃ other, text = RegistrationStatus.wireName other) ↔ text = status.wireName := by
  constructor
  · rintro ⟨other, rfl⟩
    have known : RegistrationStatus.variants.lookup other.wireName = some other := by
      cases other <;> rfl
    simp only [Reading.variantOf, known] at made
    rw [Except.ok.inj made]
  · exact fun same => ⟨status, same⟩

theorem conveys_status {depth : Nat} {held : Option RegistrationStatus}
    (read : value.decodeOption (RegistrationStatus.decode depth) = .ok held) :
    Conveys "status" value (held.map fun status => .text status.wireName) := by
  refine conveys_option read fun status present decoded => ?_
  have timeless : "status" ∉ timeNames := by decide
  have again : meaning? "status" (Value.text status.wireName).reading =
      some (.text status.wireName) :=
    meaning?_text (WrittenText.read_ofText status.wireName) timeless
  refine ⟨present, ?_⟩
  unfold RegistrationStatus.decode Reading.decodeVariant at decoded
  split at decoded
  · next written =>
    obtain ⟨text, faultless, made⟩ := exists_of_bind_ok decoded
    have stated := eq_of_faulty_ok faultless
    have said := meaning?_text stated timeless
    have names := exists_wireName_iff made
    constructor
    · rintro ⟨meaning, first, second⟩ _
      have same : Meaning.text text = .text status.wireName :=
        Option.some.inj ((said.symm.trans first).trans (second.symm.trans again))
      exact ⟨written, status, rfl, stated.trans (congrArg _ (Meaning.text.inj same))⟩
    · intro kept
      obtain ⟨_, other, same, reads⟩ := kept rfl
      cases same
      have named := names.1 ⟨other, Except.ok.inj (stated.symm.trans reads)⟩
      exact ⟨_, said, named ▸ again⟩
  -- An object with one key is no text, but what is written of it is.
  · constructor
    · rintro ⟨meaning, first, _⟩
      cases first
    · intro kept
      obtain ⟨_, _, same, _⟩ := kept rfl
      cases same
  · cases decoded
  · cases decoded

end

/-- What a field is read as goes with the value of its member. -/
theorem brings_entry {field : Json.Field RegistrationState} (member : field ∈ shape.fields)
    (value : Reading) :
    field.Brings value fun state => Conveys field.name value (state.entry field.name) := by
  simp only [shape, List.mem_cons, List.not_mem_nil, or_false] at member
  rcases member with rfl | rfl | rfl | rfl | rfl | rfl | rfl | rfl | rfl
  all_goals
    refine Field.brings_optionalField_of_decodeOption fun depth current held read => ?_
  · exact conveys_text (by decide) (by decide) read
  · exact conveys_instant (by decide) read
  · exact conveys_text (by decide) (by decide) read
  · exact conveys_text (by decide) (by decide) read
  · exact conveys_status read
  · exact conveys_integer (by decide) read
  · exact conveys_text (by decide) (by decide) read
  · exact conveys_instant (by decide) read
  · exact conveys_etag (by decide) (by decide) read

/-! ### States that were read -/

section

variable {depth : Nat} {members : List (WrittenText × Reading)} {finish : ObjectEnd}
  {state : RegistrationState} {name : String}

theorem eq_name_of_field? {key : String} {field : Json.Field RegistrationState}
    (named : shape.field? key = some field) : field.name = key := by
  have plain : ∀ field ∈ shape.fields, field.aliases = [] := by
    simp [shape, optionalField]
  have found := List.find?_some named
  rw [plain field (List.mem_of_find?_eq_some named)] at found
  simpa using found

theorem conveys_of_member (decoded : shape.decode depth (.object members finish) = .ok state)
    (known : name ∈ names) {written : WrittenText} {value : Reading}
    (member : (written, value) ∈ members) (key : written.read = .ok name) :
    Conveys name value (state.entry name) := by
  obtain ⟨field, among, rfl⟩ := List.mem_map.1 known
  have kept : ∀ other ∈ shape.fields, other.name ≠ field.name →
      other.Keeps fun state => Conveys field.name value (state.entry field.name) := by
    intro other present differs depth reading current next read held
    have same := keeps_entry present differs depth reading current next read rfl
    rwa [same]
  exact RecordShape.holds_of_decode kept member key (isNamed_shape.finds field among)
    (brings_entry among value) decoded

theorem entry_of_absent (decoded : shape.decode depth (.object members finish) = .ok state)
    (known : name ∈ names) (absent : ∀ member ∈ members, member.1.read ≠ .ok name) :
    state.entry name = none := by
  obtain ⟨field, among, rfl⟩ := List.mem_map.1 known
  obtain ⟨seen, taken⟩ := RecordShape.exists_takeMembers_of_decode decoded
  have start : shape.empty.entry field.name = none := by
    unfold entry
    split <;> rfl
  refine RecordShape.holds_of_takeMembers_absent
    (fun other present differs => keeps_entry present differs) ?_ start taken
  intro member present key found read named same
  rw [eq_name_of_field? named] at same
  exact absent member present (same ▸ read)

/-- A name has an entry exactly if an object has a value other than `null` under it. -/
theorem entry_ne_none_iff (decoded : shape.decode depth (.object members finish) = .ok state)
    (known : name ∈ names) :
    state.entry name ≠ none ↔ ∃ value, HasMember members name value := by
  constructor
  · intro filled
    rcases Classical.em (∀ member ∈ members, member.1.read ≠ .ok name) with absent | present
    · exact absurd (entry_of_absent decoded known absent) filled
    · simp only [not_forall, not_not] at present
      obtain ⟨⟨written, value⟩, member, key⟩ := present
      have conveys := conveys_of_member decoded known member key
      obtain ⟨printed, is⟩ := Option.ne_none_iff_exists'.1 filled
      rw [is] at conveys
      exact ⟨value, conveys.1, written, member, key⟩
  · rintro ⟨value, present, written, member, key⟩ nothing
    have conveys := conveys_of_member decoded known member key
    rw [nothing] at conveys
    exact present conveys

end

/-! ### Echoes -/

/-- The members that are written of a state, as they are read again. -/
def echo (state : RegistrationState) : List (WrittenText × Reading) :=
  Value.memberReadings (stated shape.fields state.entries)

theorem document_print {state : RegistrationState} (printable : state.IsPrintable) :
    Document.ofBytes state.print = ⟨.object state.echo .closed, false⟩ := by
  rw [← print_toValue, Value.document_print (hasReadableNumbers_toValue printable)]
  rfl

theorem echo_eq (state : RegistrationState) :
    state.echo = names.filterMap fun name =>
      (state.entry name).map fun value => (.ofText name, value.reading) := by
  have members : stated shape.fields state.entries =
      names.filterMap fun name => (state.entry name).map fun value => (name, value) := by
    rw [entries_eq, names, stated_map]
  rw [echo, Value.memberReadings_eq_map, members, List.map_filterMap]
  simp only [Option.map_map, Function.comp_def]

theorem reading_ne_null_of_entry {state : RegistrationState} {name : String} {value : Value}
    (is : state.entry name = some value) : value.reading ≠ .null := by
  unfold entry at is
  split at is
  case h_6 =>
    obtain ⟨code, _, rfl⟩ := Option.map_eq_some_iff.1 is
    rw [Value.reading_integer]
    simp
  case h_10 => cases is
  all_goals
    obtain ⟨held, _, rfl⟩ := Option.map_eq_some_iff.1 is
    simp [Value.reading]

theorem hasMember_echo_iff {state : RegistrationState} {name : String} {value : Reading} :
    HasMember state.echo name value ↔
      name ∈ names ∧ ∃ printed, state.entry name = some printed ∧ value = printed.reading := by
  rw [echo_eq]
  constructor
  · rintro ⟨_, written, member, key⟩
    obtain ⟨other, known, is⟩ := List.mem_filterMap.1 member
    obtain ⟨printed, filled, same⟩ := Option.map_eq_some_iff.1 is
    cases same
    rw [WrittenText.read_ofText] at key
    cases Except.ok.inj key
    exact ⟨known, printed, filled, rfl⟩
  · rintro ⟨known, printed, filled, rfl⟩
    refine ⟨reading_ne_null_of_entry filled, .ofText name, ?_, WrittenText.read_ofText name⟩
    exact List.mem_filterMap.2 ⟨name, known, by rw [filled]; rfl⟩

/-- How the members that are written of a state go with those that it was read from. -/
structure IsEcho (given echoed : List (WrittenText × Reading)) : Prop where
  /-- All names are those of a state, and no name comes twice. -/
  keys : ∃ keys : List String, keys.Nodup ∧ (∀ key ∈ keys, key ∈ names) ∧
    (echoed.map fun member => member.1.read) = keys.map .ok
  filled : ∀ member ∈ echoed, member.2 ≠ .null
  /-- There is a value under the names that had one other than `null`. -/
  present : ∀ name ∈ names,
    (∃ other, HasMember echoed name other) ↔ ∃ value, HasMember given name value
  /-- It says the same, unless it is a status without a name. -/
  same : ∀ name ∈ names, ∀ value other, HasMember given name value →
    HasMember echoed name other → (SaySame name value other ↔ IsKept name value)

theorem isEcho_of_decode {depth : Nat} {members : List (WrittenText × Reading)}
    {finish : ObjectEnd} {state : RegistrationState}
    (decoded : shape.decode depth (.object members finish) = .ok state) :
    IsEcho members state.echo := by
  constructor
  case keys =>
    refine ⟨names.filter fun name => (state.entry name).isSome,
      isNamed_shape.distinct.sublist List.filter_sublist,
      fun key member => (List.mem_filter.1 member).1, ?_⟩
    rw [echo_eq]
    generalize names = rest
    induction rest with
    | nil => rfl
    | cons name rest ih =>
      cases filled : state.entry name with
      | none => simpa [filled] using ih
      | some printed => simpa [filled, WrittenText.read_ofText] using ih
  case filled =>
    rintro ⟨written, value⟩ member
    rw [echo_eq] at member
    obtain ⟨name, _, is⟩ := List.mem_filterMap.1 member
    obtain ⟨printed, filled, same⟩ := Option.map_eq_some_iff.1 is
    cases same
    exact reading_ne_null_of_entry filled
  case present =>
    intro name known
    rw [← entry_ne_none_iff decoded known, Option.ne_none_iff_exists']
    constructor
    · rintro ⟨other, held⟩
      obtain ⟨_, printed, filled, _⟩ := hasMember_echo_iff.1 held
      exact ⟨printed, filled⟩
    · rintro ⟨printed, filled⟩
      exact ⟨printed.reading, hasMember_echo_iff.2 ⟨known, printed, filled, rfl⟩⟩
  case same =>
    rintro name known value other ⟨_, written, member, key⟩ held
    obtain ⟨_, printed, filled, rfl⟩ := hasMember_echo_iff.1 held
    have conveys := conveys_of_member decoded known member key
    rw [filled] at conveys
    exact conveys.2

/-- An echo says the same throughout exactly if the status has one of the names in use. -/
theorem IsEcho.forall_saySame_iff {given echoed : List (WrittenText × Reading)}
    (is : IsEcho given echoed) :
    (∀ name ∈ names, ∀ value other, HasMember given name value → HasMember echoed name other →
        SaySame name value other) ↔
      ∀ value, HasMember given "status" value → NamesStatus value := by
  have known : "status" ∈ names := by decide
  constructor
  · intro faithful value held
    obtain ⟨other, again⟩ := (is.present "status" known).2 ⟨value, held⟩
    exact (is.same "status" known value other held again).1
      (faithful "status" known value other held again) rfl
  · intro named name among value other held again
    refine (is.same name among value other held again).2 ?_
    rintro rfl
    exact named value held

end RegistrationState

/-! ### Enrollments -/

/-- Whether a document states a value as the state of a registration, be it in an object or in its
place in a list. -/
inductive Json.Document.StatesRegistration (document : Document) (value : Reading) : Prop
  | member {members : List (WrittenText × Reading)} {finish : ObjectEnd} {written : WrittenText}
    (object : document.value = .object members finish) (member : (written, value) ∈ members)
    (key : written.read = .ok "registrationState")
  | element {elements : List Reading} {broken : Option Fault}
    (list : document.value = .list elements broken) (place : elements[6]? = some value)

namespace Enrollment

/-- Whether an enrollment holds a state that is read from a value. -/
def HoldsStateOf (value : Reading) (enrollment : Enrollment) : Prop :=
  ∃ depth state, enrollment.registrationState = some state ∧
    RegistrationState.shape.decode depth value = .ok state

theorem keeps_holdsStateOf {value : Reading} {field : Json.Field Enrollment}
    (member : field ∈ shape.fields) (other : field.name ≠ "registrationState") :
    field.Keeps (HoldsStateOf value) := by
  simp only [shape, List.mem_cons, List.not_mem_nil, or_false] at member
  rcases member with rfl | rfl | rfl | rfl | rfl | rfl | rfl | rfl | rfl | rfl
  · exact Field.keeps_requiredField fun _ _ held => held
  iterate 5 exact Field.keeps_optionalField fun _ _ held => held
  · exact absurd rfl other
  all_goals exact Field.keeps_optionalField fun _ _ held => held

theorem holdsStateOf_of_ofBytes {bytes : Bytes} {enrollment : Enrollment} {value : Reading}
    (read : ofBytes bytes = .ok enrollment) (present : value ≠ .null)
    (states : (Document.ofBytes bytes).StatesRegistration value) :
    enrollment.HoldsStateOf value := by
  have decoded := decode_of_decodeDocument read
  let field : Json.Field Enrollment :=
    optionalField "registrationState" RegistrationState.shape.decode fun current value =>
      { current with registrationState := value }
  have brings : field.Brings value (HoldsStateOf value) := by
    refine Field.brings_optionalField_of_decodeOption fun depth current held stated => ?_
    cases held with
    | none => exact absurd (Reading.eq_null_of_decodeOption stated) present
    | some state => exact ⟨depth, state, rfl, (Reading.ne_null_of_decodeOption stated).2⟩
  cases states with
  | member object member key =>
    rw [object] at decoded
    have named : shape.field? "registrationState" = some field := rfl
    exact RecordShape.holds_of_decode (fun _ => keeps_holdsStateOf) member key named brings decoded
  | element list place =>
    rw [list] at decoded
    have named : shape.fields[6]? = some field := rfl
    have kept : ∀ other ∈ shape.fields.drop 7, other.Keeps (HoldsStateOf value) := by
      intro other member
      refine keeps_holdsStateOf (List.mem_of_mem_drop member) ?_
      have names : ∀ other ∈ shape.fields.drop 7, other.name ≠ "registrationState" := by
        simp [shape, optionalField]
      exact names other member
    exact RecordShape.holds_of_takeElements named place brings kept decoded

end Enrollment

namespace Registry

open RegistrationState

/-- The state of a registration that a body states as an object is written back as one. It has the
names that had a value, each once, and each value says the same except for a status that is not one
of the names in use: so the state comes back as it was exactly if its status, if it has one, is. -/
theorem state_echo {body : Bytes} {enrollment : Enrollment}
    {members : List (WrittenText × Reading)} {finish : ObjectEnd}
    (read : readEnrollment body = .ok enrollment)
    (states : (Document.ofBytes body).StatesRegistration (.object members finish)) :
    ∃ written echoed, ("registrationState", written) ∈ enrollment.members ∧
      Document.ofBytes written = ⟨.object echoed .closed, false⟩ ∧ IsEcho members echoed ∧
      ((∀ name ∈ names, ∀ value other, HasMember members name value →
          HasMember echoed name other → SaySame name value other) ↔
        ∀ value, HasMember members "status" value → NamesStatus value) := by
  obtain ⟨depth, state, held, decoded⟩ :=
    Enrollment.holdsStateOf_of_ofBytes (ofBytes_of_readEnrollment read).1 (by simp) states
  have echo := isEcho_of_decode decoded
  refine ⟨state.print, state.echo, ?_, document_print (isPrintable_of_decode decoded), echo,
    echo.forall_saySame_iff⟩
  simp [Enrollment.members, optionalMember, held]

/-- A state with the members that a service fills in. -/
def assignedBody : Bytes :=
  Bytes.ofText ("\x7b\"registrationId\":\"dev-1\",\"registrationState\":\x7b" ++
    "\"assignedHub\":null,\"status\":\"assigned\",\"errorCode\":7," ++
    "\"createdDateTimeUtc\":\"2024-05-01T02:00:00+02:00\"\x7d\x7d")

/-- The members of the state in `assignedBody`. -/
def assignedMembers : List (WrittenText × Reading) :=
  [(.ofText "assignedHub", .null), (.ofText "status", .text (.ofText "assigned")),
    (.ofText "errorCode", .number (.ofInteger 7)),
    (.ofText "createdDateTimeUtc", .text (.ofText "2024-05-01T02:00:00+02:00"))]

theorem state_echo_assigned :
    ∃ enrollment written echoed, readEnrollment assignedBody = .ok enrollment ∧
      ("registrationState", written) ∈ enrollment.members ∧
      Document.ofBytes written = ⟨.object echoed .closed, false⟩ ∧
      IsEcho assignedMembers echoed ∧
      ∀ name ∈ names, ∀ value other, HasMember assignedMembers name value →
        HasMember echoed name other → SaySame name value other := by
  have states : (Document.ofBytes assignedBody).StatesRegistration
      (.object assignedMembers .closed) := by
    set_option maxRecDepth 20000 in
    exact .member rfl (List.mem_cons_of_mem _ List.mem_cons_self) rfl
  have read : ∃ enrollment, readEnrollment assignedBody = .ok enrollment := by
    set_option maxRecDepth 20000 in
    exact ⟨_, rfl⟩
  obtain ⟨enrollment, read⟩ := read
  obtain ⟨written, echoed, member, document, is, faithful⟩ := state_echo read states
  refine ⟨enrollment, written, echoed, read, member, document, is, faithful.2 ?_⟩
  rintro value ⟨_, written, member, key⟩
  simp only [assignedMembers, List.mem_cons, Prod.mk.injEq, List.not_mem_nil, or_false] at member
  rcases member with ⟨rfl, rfl⟩ | ⟨rfl, rfl⟩ | ⟨rfl, rfl⟩ | ⟨rfl, rfl⟩
  case inr.inl => exact ⟨.ofText "assigned", .assigned, rfl, rfl⟩
  all_goals
    rw [WrittenText.read_ofText] at key
    exact absurd (Except.ok.inj key) (by decide)

/-- A body with a status that is not one of the names in use. -/
def quarantinedBody : Bytes :=
  Bytes.ofText ("\x7b\"registrationId\":\"dev-1\"," ++
    "\"registrationState\":\x7b\"status\":\"quarantined\"\x7d\x7d")

/-- The status of the device is lost. -/
theorem state_echo_lost :
    ∃ enrollment, readEnrollment quarantinedBody = .ok enrollment ∧
      enrollment.print = Bytes.ofText ("\x7b\"registrationId\":\"dev-1\"," ++
        "\"registrationState\":\x7b\"status\":\"unknown\"\x7d\x7d") := by
  set_option maxRecDepth 20000 in
  exact ⟨_, rfl, rfl⟩

end Registry

end DeviceEnrollment
