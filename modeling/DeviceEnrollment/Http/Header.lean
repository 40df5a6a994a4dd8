import DeviceEnrollment.Bytes

/-!
Header names, header values, and header maps that keep several values of one name in order.
-/
namespace DeviceEnrollment.Http

/-- A header name in its lower case form. -/
structure HeaderName where
  text : String
deriving DecidableEq, Repr

namespace HeaderName

/-- The characters of a token. -/
def isTokenChar (c : Char) : Bool :=
  c.isAlphanum || "!#$%&'*+-.^_`|~".toList.contains c

def greatestLength : Nat := 65535

/-- A token in any letter case. -/
def ofText? (text : String) : Option HeaderName :=
  let letters := text.toList
  if letters.isEmpty || letters.length > greatestLength || !letters.all isTokenChar then none
  else some ⟨String.ofList (letters.map Char.toLower)⟩

end HeaderName

/-- A tab, or any byte from the space on but the delete character. -/
def isHeaderByte (byte : UInt8) : Bool := (byte ≥ 0x20 && byte != 0x7F) || byte == 0x09

/-- A tab, or a printed character of ASCII. -/
def isTextByte (byte : UInt8) : Bool := (byte ≥ 0x20 && byte < 0x7F) || byte == 0x09

theorem isHeaderByte_of_isTextByte (byte : UInt8) (text : isTextByte byte = true) :
    isHeaderByte byte = true := by
  simp only [isTextByte, isHeaderByte, Bool.or_eq_true, Bool.and_eq_true, decide_eq_true_eq,
    beq_iff_eq, bne_iff_ne, ne_eq] at text ⊢
  rcases text with ⟨low, high⟩ | tab
  · exact .inl ⟨low, fun delete => by simp [delete] at high⟩
  · exact .inr tab

structure HeaderValue where
  bytes : Bytes
  legal : bytes.all isHeaderByte = true
  /-- Whether the value is kept out of diagnostics. -/
  sensitive : Bool
deriving DecidableEq, Repr

namespace HeaderValue

def ofBytes? (bytes : Bytes) : Option HeaderValue :=
  if legal : bytes.all isHeaderByte = true then some ⟨bytes, legal, false⟩ else none

def ofText? (text : String) : Option HeaderValue := ofBytes? (Bytes.ofText text)

theorem isHeaderByte_of_isDigit {c : Char} (digit : c.isDigit = true) :
    isHeaderByte c.toNat.toUInt8 = true := by
  have bounds : 48 ≤ c.toNat ∧ c.toNat ≤ 57 := by
    simpa [Char.isDigit, UInt32.le_iff_toNat_le] using digit
  have all : ∀ point < 58, 48 ≤ point → isHeaderByte point.toUInt8 = true := by decide
  exact all c.toNat (by omega) bounds.1

/-- A number in decimal digits. -/
def ofNat (number : Nat) : HeaderValue :=
  { bytes := (Nat.toDigits 10 number).map fun digit => digit.toNat.toUInt8
    legal := by
      rw [List.all_map, List.all_eq_true]
      intro digit member
      exact isHeaderByte_of_isDigit (Nat.isDigit_of_mem_toDigits (by decide) (by decide) member)
    sensitive := false }

/-- The value as text, which only values without foreign bytes have. -/
def toText? (value : HeaderValue) : Option String :=
  if value.bytes.all isTextByte then Bytes.toText? value.bytes else none

/-- The visible characters of a text that is known beforehand; all others are left out. -/
def ofVisible (text : String) : HeaderValue :=
  { bytes := (Bytes.ofText text).filter isHeaderByte
    legal := by simp [List.all_filter]
    sensitive := false }

end HeaderValue

/-- Headers in the order in which they were added. -/
structure HeaderMap where
  entries : List (HeaderName × HeaderValue)
deriving DecidableEq, Repr

namespace HeaderMap

def empty : HeaderMap := ⟨[]⟩

/-- All values of a name, in order. -/
def values (headers : HeaderMap) (name : HeaderName) : List HeaderValue :=
  (headers.entries.filter fun entry => entry.1 = name).map Prod.snd

def first? (headers : HeaderMap) (name : HeaderName) : Option HeaderValue :=
  (headers.entries.find? fun entry => entry.1 = name).map Prod.snd

def contains (headers : HeaderMap) (name : HeaderName) : Bool :=
  headers.entries.any fun entry => entry.1 = name

/-- Adds a value behind those that the name has. -/
def append (headers : HeaderMap) (name : HeaderName) (value : HeaderValue) : HeaderMap :=
  ⟨headers.entries ++ [(name, value)]⟩

/-- Makes a value the only one of its name. -/
def insert (headers : HeaderMap) (name : HeaderName) (value : HeaderValue) : HeaderMap :=
  ⟨headers.entries.filter (fun entry => entry.1 ≠ name) ++ [(name, value)]⟩

/-- Adds a value only if its name has none. -/
def insertNew (headers : HeaderMap) (name : HeaderName) (value : HeaderValue) : HeaderMap :=
  if headers.contains name then headers else headers.append name value

/-- The first value of a name as text. -/
def text? (headers : HeaderMap) (name : HeaderName) : Option String :=
  headers.first? name >>= HeaderValue.toText?

theorem values_append (headers : HeaderMap) (name other : HeaderName) (value : HeaderValue) :
    (headers.append name value).values other =
      headers.values other ++ if name = other then [value] else [] := by
  by_cases same : name = other <;> simp [append, values, same]

theorem contains_iff_values_ne_nil (headers : HeaderMap) (name : HeaderName) :
    headers.contains name = true ↔ headers.values name ≠ [] := by
  simp [contains, values, List.filter_eq_nil_iff]

theorem values_insertNew (headers : HeaderMap) (name other : HeaderName) (value : HeaderValue) :
    (headers.insertNew name value).values other =
      if name = other ∧ headers.values name = [] then [value] else headers.values other := by
  unfold insertNew
  by_cases held : headers.contains name = true
  · have nonempty := (contains_iff_values_ne_nil headers name).1 held
    simp [held, nonempty]
  · have absent : headers.values name = [] := by
      by_cases nil : headers.values name = []
      · exact nil
      · exact absurd ((contains_iff_values_ne_nil headers name).2 nil) held
    rw [if_neg held, values_append]
    by_cases same : name = other
    · subst same; simp [absent]
    · simp [same]

end HeaderMap

/-! ### The names in use -/

namespace HeaderName

def accept : HeaderName := ⟨"accept"⟩
def acceptEncoding : HeaderName := ⟨"accept-encoding"⟩
def authorization : HeaderName := ⟨"authorization"⟩
def contentLength : HeaderName := ⟨"content-length"⟩
def contentType : HeaderName := ⟨"content-type"⟩
def host : HeaderName := ⟨"host"⟩
def ifMatch : HeaderName := ⟨"if-match"⟩
def retryAfter : HeaderName := ⟨"retry-after"⟩
def userAgent : HeaderName := ⟨"user-agent"⟩
/-- The size of the pages that a query asks for. -/
def maxItemCount : HeaderName := ⟨"x-ms-max-item-count"⟩
/-- The place at which a query goes on. -/
def continuation : HeaderName := ⟨"x-ms-continuation"⟩
/-- The kind of the items of a page. -/
def itemType : HeaderName := ⟨"x-ms-item-type"⟩

end HeaderName

end DeviceEnrollment.Http
