import DeviceEnrollment.Enrollment.Wire
import DeviceEnrollment.Proofs.Steps

/-!
What the members of an object leave in a record. A field is read from one member only, and no other
field touches what it left (`RecordShape.holds_of_decode`). An enrollment has the id and the version
that its document states (`Enrollment.etag_of_ofBytes`).
-/
namespace DeviceEnrollment.Json

/-- Whether a document is an object with a text as one of its members. -/
def Document.HoldsText (document : Document) (key text : String) : Prop :=
  ∃ members finish written value, document.value = .object members finish ∧
    (written, Reading.text value) ∈ members ∧ written.read = .ok key ∧ value.read = .ok text

theorem eq_of_faulty_ok {α : Type} {result : Except Fault α} {value : α}
    (done : faulty result = .ok value) : result = .ok value := by
  cases result with
  | error fault => cases done
  | ok found => exact congrArg _ (Except.ok.inj done)

namespace Reading

/-- A value that is there was read, and not from `null`. -/
theorem ne_null_of_decodeOption {α : Type} {decode : Reading → Decoded α} {reading : Reading}
    {value : α} (read : reading.decodeOption decode = .ok (some value)) :
    reading ≠ .null ∧ decode reading = .ok value := by
  unfold decodeOption at read
  split at read
  · cases read
  · cases read
  · next notNull _ =>
    obtain ⟨found, decoded, same⟩ := exists_of_bind_ok read
    cases Except.ok.inj same
    exact ⟨notNull, decoded⟩

theorem eq_null_of_decodeOption {α : Type} {decode : Reading → Decoded α}
    {reading : Reading} (read : reading.decodeOption decode = .ok none) : reading = .null := by
  unfold decodeOption at read
  split at read
  · rfl
  · cases read
  · obtain ⟨found, _, same⟩ := exists_of_bind_ok read
    cases same

theorem of_decodeText {reading : Reading} {text : String}
    (read : reading.decodeText = .ok text) :
    ∃ written, reading = .text written ∧ written.read = .ok text := by
  unfold decodeText at read
  split at read
  · next written => exact ⟨written, rfl, eq_of_faulty_ok read⟩
  · cases read

theorem of_decodeInt {reading : Reading} {value : Int}
    (read : reading.decodeInt = .ok value) :
    fitsInt64 value = true ∧
      ∃ written, reading = .number written ∧ written.read = .ok (.integer value) := by
  unfold decodeInt at read
  split at read
  · next written =>
    obtain ⟨number, faultless, checked⟩ := exists_of_bind_ok read
    split at checked
    · split at checked
      · next fits =>
        cases Except.ok.inj checked
        exact ⟨fits, written, rfl, eq_of_faulty_ok faultless⟩
      · cases checked
    · cases checked
  · cases read

end Reading

theorem of_decodeInstant {depth : Nat} {reading : Reading} {instant : Time.Instant}
    (read : decodeInstant depth reading = .ok instant) :
    ∃ written text, reading = .text written ∧ written.read = .ok text ∧
      Time.Instant.parse text = .ok instant := by
  unfold decodeInstant at read
  split at read
  · next written =>
    obtain ⟨text, faultless, parsed⟩ := exists_of_bind_ok read
    split at parsed
    · next found whole =>
      cases Except.ok.inj parsed
      exact ⟨written, text, rfl, eq_of_faulty_ok faultless, whole⟩
    · cases parsed
  · cases read

namespace Field

variable {draft : Type}

/-- Whether reading a field leaves a property of drafts alone. -/
def Keeps (field : Field draft) (holds : draft → Prop) : Prop :=
  ∀ depth reading current next, field.decode depth reading current = .ok next →
    holds current → holds next

/-- Whether reading a field at one depth leaves a property of drafts alone. -/
def KeepsAt (depth : Nat) (field : Field draft) (holds : draft → Prop) : Prop :=
  ∀ reading current next, field.decode depth reading current = .ok next →
    holds current → holds next

/-- Whether reading a field from a value brings a property about. -/
def Brings (field : Field draft) (value : Reading) (holds : draft → Prop) : Prop :=
  ∀ depth current next, field.decode depth value current = .ok next → holds next

variable {α : Type} {name : String} {holds : draft → Prop}

theorem keeps_optionalField {decode : Nat → Reading → Decoded α} {set : draft → Option α → draft}
    (kept : ∀ current value, holds current → holds (set current value)) :
    (optionalField name decode set).Keeps holds := by
  intro depth reading current next decoded held
  obtain ⟨value, _, same⟩ := exists_of_bind_ok decoded
  exact Except.ok.inj same ▸ kept current value held

theorem keeps_requiredField {decode : Nat → Reading → Decoded α} {set : draft → α → draft}
    (kept : ∀ current value, holds current → holds (set current value)) :
    (requiredField name decode set).Keeps holds := by
  intro depth reading current next decoded held
  obtain ⟨value, _, same⟩ := exists_of_bind_ok decoded
  exact Except.ok.inj same ▸ kept current value held

theorem Keeps.keepsAt {field : Field draft} (keeps : field.Keeps holds) (depth : Nat) :
    field.KeepsAt depth holds := keeps depth

/-- Reading an optional field leaves a property alone that what is read does not break. -/
theorem keepsAt_optionalField {decode : Nat → Reading → Decoded α}
    {set : draft → Option α → draft} {depth : Nat}
    (kept : ∀ (reading : Reading) value current,
      reading.decodeOption (decode depth) = .ok value → holds current →
      holds (set current value)) :
    (optionalField name decode set).KeepsAt depth holds := by
  intro reading current next decoded held
  obtain ⟨value, read, same⟩ := exists_of_bind_ok decoded
  exact Except.ok.inj same ▸ kept reading value current read held

/-- A text in the place of an optional field is there. -/
theorem brings_optionalField {decode : Nat → Reading → Decoded α}
    {set : draft → Option α → draft} {written : WrittenText}
    (brought : ∀ depth current value, decode depth (.text written) = .ok value →
      holds (set current (some value))) :
    (optionalField name decode set).Brings (.text written) holds := by
  intro depth current next decoded
  obtain ⟨value, read, same⟩ := exists_of_bind_ok decoded
  obtain ⟨found, inner, some⟩ := exists_of_bind_ok read
  cases Except.ok.inj same
  cases Except.ok.inj some
  exact brought depth current found inner

/-- What is left by whatever an optional field is read as. -/
theorem brings_optionalField_of_decodeOption {decode : Nat → Reading → Decoded α}
    {set : draft → Option α → draft} {value : Reading}
    (brought : ∀ depth current held, value.decodeOption (decode depth) = .ok held →
      holds (set current held)) : (optionalField name decode set).Brings value holds := by
  intro depth current next decoded
  obtain ⟨held, read, same⟩ := exists_of_bind_ok decoded
  exact Except.ok.inj same ▸ brought depth current held read

theorem brings_requiredField {decode : Nat → Reading → Decoded α} {set : draft → α → draft}
    {written : WrittenText} (brought : ∀ depth current value,
      decode depth (.text written) = .ok value → holds (set current value)) :
    (requiredField name decode set).Brings (.text written) holds := by
  intro depth current next decoded
  obtain ⟨value, read, same⟩ := exists_of_bind_ok decoded
  exact Except.ok.inj same ▸ brought depth current value read

end Field

namespace RecordShape

variable {draft : Type} {shape : RecordShape draft} {holds : draft → Prop} {field : Field draft}

theorem exists_field_of_takeMember {depth : Nat} {state next : draft × List String} {key : String}
    {value : Reading} (taken : shape.takeMember depth state key value = .ok next) :
    (shape.field? key = none ∧ next = state) ∨
      ∃ found, shape.field? key = some found ∧ found.name ∉ state.2 ∧
        found.decode depth value state.1 = .ok next.1 ∧ next.2 = found.name :: state.2 := by
  unfold takeMember at taken
  cases member : shape.field? key with
  | none =>
    rw [member] at taken
    obtain ⟨_, _, same⟩ := exists_of_bind_ok taken
    exact .inl ⟨rfl, (Except.ok.inj same).symm⟩
  | some found =>
    rw [member] at taken
    simp only at taken
    split at taken
    · cases taken
    · next fresh =>
      obtain ⟨record, decoded, same⟩ := exists_of_bind_ok taken
      cases Except.ok.inj same
      exact .inr ⟨found, rfl, by simpa using fresh, decoded, rfl⟩

/-- What a field brought about stays, as the field is not read again. -/
theorem holds_of_takeMembers_seen
    (kept : ∀ other ∈ shape.fields, other.name ≠ field.name → other.Keeps holds) {depth : Nat}
    {members : List (WrittenText × Reading)} {state last : draft × List String}
    (seen : field.name ∈ state.2) (held : holds state.1)
    (taken : shape.takeMembers depth state members = .ok last) : holds last.1 := by
  induction members generalizing state with
  | nil => exact Except.ok.inj taken ▸ held
  | cons member rest ih =>
    obtain ⟨key, _, later⟩ := exists_of_bind_ok taken
    obtain ⟨next, one, others⟩ := exists_of_bind_ok later
    rcases exists_field_of_takeMember one with ⟨_, rfl⟩ | ⟨found, named, fresh, decoded, names⟩
    · exact ih seen held others
    · have differs : found.name ≠ field.name := fun same => fresh (same ▸ seen)
      have keeps := kept found (List.mem_of_find?_eq_some named) differs
      refine ih ?_ (keeps depth _ _ _ decoded held) others
      rw [names]
      exact List.mem_cons_of_mem _ seen

theorem holds_of_takeMembers
    (kept : ∀ other ∈ shape.fields, other.name ≠ field.name → other.Keeps holds) {depth : Nat}
    {written : WrittenText} {key : String} {value : Reading} (read : written.read = .ok key)
    (named : shape.field? key = some field) (brings : field.Brings value holds)
    {members : List (WrittenText × Reading)} (member : (written, value) ∈ members)
    {state last : draft × List String}
    (taken : shape.takeMembers depth state members = .ok last) : holds last.1 := by
  induction members generalizing state with
  | nil => cases member
  | cons first rest ih =>
    obtain ⟨found, keyRead, later⟩ := exists_of_bind_ok taken
    obtain ⟨next, one, others⟩ := exists_of_bind_ok later
    rcases List.mem_cons.1 member with same | elsewhere
    · subst same
      cases Except.ok.inj (read.symm.trans (eq_of_faulty_ok keyRead))
      rcases exists_field_of_takeMember one with ⟨unknown, _⟩ | ⟨other, known, _, decoded, names⟩
      · rw [named] at unknown
        cases unknown
      · cases Option.some.inj (named.symm.trans known)
        refine holds_of_takeMembers_seen kept ?_ (brings depth _ _ decoded) others
        rw [names]
        exact List.mem_cons_self
    · exact ih elsewhere others

/-- What no other field touches stays as it was, if no member is the field. -/
theorem holds_of_takeMembers_absent
    (kept : ∀ other ∈ shape.fields, other.name ≠ field.name → other.Keeps holds) {depth : Nat}
    {members : List (WrittenText × Reading)}
    (absent : ∀ member ∈ members, ∀ key found, member.1.read = .ok key →
      shape.field? key = some found → found.name ≠ field.name)
    {state last : draft × List String} (held : holds state.1)
    (taken : shape.takeMembers depth state members = .ok last) : holds last.1 := by
  induction members generalizing state with
  | nil => exact Except.ok.inj taken ▸ held
  | cons first rest ih =>
    obtain ⟨key, keyRead, later⟩ := exists_of_bind_ok taken
    obtain ⟨next, one, others⟩ := exists_of_bind_ok later
    obtain ⟨here, behind⟩ := List.forall_mem_cons.1 absent
    rcases exists_field_of_takeMember one with ⟨_, rfl⟩ | ⟨found, named, _, decoded, _⟩
    · exact ih behind held others
    · have differs := here key found (eq_of_faulty_ok keyRead) named
      have keeps := kept found (List.mem_of_find?_eq_some named) differs
      exact ih behind (keeps depth _ _ _ decoded held) others

/-- A record that is read from an object comes from its members. -/
theorem exists_takeMembers_of_decode {depth : Nat} {members : List (WrittenText × Reading)}
    {finish : ObjectEnd} {record : draft}
    (decoded : shape.decode depth (.object members finish) = .ok record) :
    ∃ seen, shape.takeMembers (depth - 1) (shape.empty, []) members = .ok (record, seen) := by
  unfold decode at decoded
  simp only at decoded
  split at decoded
  · cases decoded
  · obtain ⟨⟨last, seen⟩, taken, later⟩ := exists_of_bind_ok decoded
    obtain ⟨_, _, ends⟩ := exists_of_bind_ok later
    split at ends
    · cases ends
    · cases Except.ok.inj ends
      exact ⟨seen, taken⟩

/-- What a field brings about when it is read from a member holds of the record. -/
theorem holds_of_decode
    (kept : ∀ other ∈ shape.fields, other.name ≠ field.name → other.Keeps holds)
    {depth : Nat} {members : List (WrittenText × Reading)} {finish : ObjectEnd}
    {written : WrittenText} {key : String} {value : Reading}
    (member : (written, value) ∈ members) (read : written.read = .ok key)
    (named : shape.field? key = some field) (brings : field.Brings value holds) {record : draft}
    (decoded : shape.decode depth (.object members finish) = .ok record) : holds record := by
  obtain ⟨seen, taken⟩ := exists_takeMembers_of_decode decoded
  exact holds_of_takeMembers kept read named brings member taken

/-- What every field keeps is kept by taking the members. -/
theorem invariant_of_takeMembers {depth : Nat}
    (kept : ∀ field ∈ shape.fields, field.KeepsAt depth holds)
    {members : List (WrittenText × Reading)} {state last : draft × List String}
    (held : holds state.1) (taken : shape.takeMembers depth state members = .ok last) :
    holds last.1 := by
  induction members generalizing state with
  | nil => exact Except.ok.inj taken ▸ held
  | cons member rest ih =>
    obtain ⟨key, _, later⟩ := exists_of_bind_ok taken
    obtain ⟨next, one, others⟩ := exists_of_bind_ok later
    rcases exists_field_of_takeMember one with ⟨_, rfl⟩ | ⟨found, named, _, read, _⟩
    · exact ih held others
    · exact ih (kept found (List.mem_of_find?_eq_some named) _ _ _ read held) others

/-- What every field of a list keeps is kept by taking the elements. -/
theorem invariant_of_takeElements {depth index : Nat} {broken : Option Fault}
    {fields : List (Field draft)} (kept : ∀ field ∈ fields, field.KeepsAt depth holds)
    {elements : List Reading} {current last : draft} (held : holds current)
    (taken : shape.takeElements depth broken index fields elements current = .ok last) :
    holds last := by
  induction fields generalizing index elements current with
  | nil =>
    cases elements with
    | nil =>
      unfold takeElements at taken
      split at taken
      · exact Except.ok.inj taken ▸ held
      all_goals cases taken
    | cons element rest => cases taken
  | cons field fields ih =>
    have later := (List.forall_mem_cons.1 kept).2
    cases elements with
    | nil =>
      unfold takeElements at taken
      split at taken
      · cases taken
      · split at taken
        · exact ih later held taken
        · cases taken
    | cons element rest =>
      obtain ⟨next, read, others⟩ := exists_of_bind_ok taken
      exact ih later ((List.forall_mem_cons.1 kept).1 _ _ _ read held) others

/-- What a field brings about when it is read from its place in a list stays, if no field behind it
touches that. -/
theorem holds_of_takeElements {depth place index : Nat} {broken : Option Fault} {value : Reading}
    {fields : List (Field draft)} {elements : List Reading} (named : fields[place]? = some field)
    (element : elements[place]? = some value) (brings : field.Brings value holds)
    (kept : ∀ other ∈ fields.drop (place + 1), other.Keeps holds) {current last : draft}
    (taken : shape.takeElements depth broken index fields elements current = .ok last) :
    holds last := by
  induction place generalizing fields elements index current with
  | zero =>
    cases fields with
    | nil => cases named
    | cons first fields =>
      cases elements with
      | nil => cases element
      | cons here elements =>
        cases named
        cases element
        obtain ⟨next, read, later⟩ := exists_of_bind_ok taken
        have others : ∀ other ∈ fields, other.KeepsAt depth holds := fun other member =>
          (kept other member).keepsAt depth
        exact invariant_of_takeElements others (brings depth current next read) later
  | succ place ih =>
    cases fields with
    | nil => cases named
    | cons first fields =>
      cases elements with
      | nil => cases element
      | cons here elements =>
        obtain ⟨next, _, later⟩ := exists_of_bind_ok taken
        exact ih named element kept later

/-- What holds of the empty draft and is kept by every field holds of every record, be it read from
members or from a list. -/
theorem invariant_of_decode {depth : Nat} (start : holds shape.empty)
    (kept : ∀ field ∈ shape.fields, field.KeepsAt (depth - 1) holds) {reading : Reading}
    {record : draft} (decoded : shape.decode depth reading = .ok record) : holds record := by
  unfold decode at decoded
  split at decoded
  · obtain ⟨seen, taken⟩ := exists_takeMembers_of_decode decoded
    exact invariant_of_takeMembers kept start taken
  · split at decoded
    · cases decoded
    · exact invariant_of_takeElements kept start decoded
  · cases decoded

end RecordShape

/-- A document is read by reading its value. -/
theorem decode_of_decodeDocument {α : Type} {decode : Nat → Reading → Decoded α} {bytes : Bytes}
    {value : α} (decoded : decodeDocument decode bytes = .ok value) :
    decode nestingLimit (Document.ofBytes bytes).value = .ok value := by
  obtain ⟨found, read, ends⟩ := exists_of_bind_ok decoded
  split at ends
  · cases ends
  · rw [read]
    exact ends

end DeviceEnrollment.Json

namespace DeviceEnrollment.Enrollment

open Json

theorem keeps_registrationId {id : String} {field : Json.Field Enrollment}
    (member : field ∈ shape.fields) (other : field.name ≠ "registrationId") :
    field.Keeps fun record => record.registrationId = id := by
  simp only [shape, List.mem_cons, List.not_mem_nil, or_false] at member
  rcases member with rfl | rfl | rfl | rfl | rfl | rfl | rfl | rfl | rfl | rfl
  · exact absurd rfl other
  all_goals exact Field.keeps_optionalField fun _ _ held => held

theorem keeps_etag {etag : Option ETag} {field : Json.Field Enrollment}
    (member : field ∈ shape.fields) (other : field.name ≠ "etag") :
    field.Keeps fun record => record.etag = etag := by
  simp only [shape, List.mem_cons, List.not_mem_nil, or_false] at member
  rcases member with rfl | rfl | rfl | rfl | rfl | rfl | rfl | rfl | rfl | rfl
  · exact Field.keeps_requiredField fun _ _ held => held
  iterate 6 exact Field.keeps_optionalField fun _ _ held => held
  · exact absurd rfl other
  all_goals exact Field.keeps_optionalField fun _ _ held => held

/-- An enrollment that is read from a document has the id that the document states. -/
theorem registrationId_of_ofBytes {bytes : Bytes} {enrollment : Enrollment} {id : String}
    (read : ofBytes bytes = .ok enrollment)
    (states : (Document.ofBytes bytes).HoldsText "registrationId" id) :
    enrollment.registrationId = id := by
  have decoded := decode_of_decodeDocument read
  obtain ⟨members, finish, written, value, object, member, key, text⟩ := states
  rw [object] at decoded
  let field : Json.Field Enrollment :=
    requiredField "registrationId" decodeTextAt fun current id =>
      { current with registrationId := id }
  have brings : field.Brings (.text value) fun record => record.registrationId = id := by
    apply Field.brings_requiredField
    intro depth current found got
    exact Except.ok.inj ((eq_of_faulty_ok got).symm.trans text)
  have named : shape.field? "registrationId" = some field := rfl
  exact RecordShape.holds_of_decode (fun _ => keeps_registrationId) member key named brings decoded

/-- An enrollment that is read from a document has the version that the document states. -/
theorem etag_of_ofBytes {bytes : Bytes} {enrollment : Enrollment} {etag : ETag}
    (read : ofBytes bytes = .ok enrollment)
    (states : (Document.ofBytes bytes).HoldsText "etag" etag.text) :
    enrollment.etag = some etag := by
  have decoded := decode_of_decodeDocument read
  obtain ⟨members, finish, written, value, object, member, key, text⟩ := states
  rw [object] at decoded
  let field : Json.Field Enrollment :=
    optionalField "etag" ETag.decode fun current etag => { current with etag }
  have brings : field.Brings (.text value) fun record => record.etag = some etag := by
    apply Field.brings_optionalField
    intro depth current found got
    obtain ⟨stated, faultless, made⟩ := exists_of_map_ok got
    have same := Except.ok.inj ((eq_of_faulty_ok faultless).symm.trans text)
    rw [← made, same]
  have named : shape.field? "etag" = some field := rfl
  exact RecordShape.holds_of_decode (fun _ => keeps_etag) member key named brings decoded

end DeviceEnrollment.Enrollment
