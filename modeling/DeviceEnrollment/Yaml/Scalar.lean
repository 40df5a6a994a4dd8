import DeviceEnrollment.Number.Limits
import DeviceEnrollment.Number.Reading
import DeviceEnrollment.Yaml.Event

/-!
What scalars stand for. A plain one is a null, a truth value or a number if it is spelled as
such, and a text otherwise. A tag may say what a scalar has to be.
-/
namespace DeviceEnrollment.Yaml

open Number

inductive Scalar where
  | null
  | bool (value : Bool)
  | unsigned (value : Nat)
  | signed (value : Int)
  /-- An integer of more than 64 bits. -/
  | wide (value : Int)
  | double (value : Double)
  | text (value : String)
deriving DecidableEq, Repr

def isNull (text : List Char) : Bool :=
  ["null", "Null", "NULL", "~"].contains (String.ofList text)

def bool? (text : List Char) : Option Bool :=
  let word := String.ofList text
  if ["true", "True", "TRUE"].contains word then some true
  else if ["false", "False", "FALSE"].contains word then some false
  else none

/-! ### Integers -/

/-- Whether a text is a zero and more digits, which is no number. -/
def isZeroFilled (text : List Char) : Bool :=
  let digits := match text with
    | '-' :: rest | '+' :: rest => rest
    | rest => rest
  match digits with
  | '0' :: rest => !rest.isEmpty && rest.all Char.isDigit
  | _ => false

/-- The number that digits of a base write, at least one. -/
def digits? (base : Nat) (digits : List Char) : Option Nat :=
  if digits.isEmpty then none else Text.numberIn? base digits

/-- The digits of a number behind the mark of their base. -/
def marked? : List Char → Option Nat
  | '0' :: 'x' :: digits => digits? 16 digits
  | '0' :: 'o' :: digits => digits? 8 digits
  | '0' :: 'b' :: digits => digits? 2 digits
  | _ => none

/-- The size of an integer without its sign, in any base. -/
def size? (text : List Char) : Option Nat :=
  match marked? text with
  | some value => some value
  | none => if isZeroFilled text then none else digits? 10 text

/-- An integer, if it has at most 128 bits. -/
def integer? (text : List Char) : Option Scalar :=
  match text with
  | '-' :: rest => (size? rest).bind fun size =>
    if size ≤ twoTo63 then some (.signed (-size))
    else if size ≤ twoTo127 then some (.wide (-size))
    else none
  | '+' :: rest => (size? rest).bind unsigned?
  | rest => (size? rest).bind unsigned?
where
  unsigned? (size : Nat) : Option Scalar :=
    if size < twoTo64 then some (.unsigned size)
    else if size < twoTo128 then some (.wide size)
    else none

/-! ### Doubles -/

def isInfinity (text : List Char) : Bool :=
  [".inf", ".Inf", ".INF"].contains (String.ofList text)

/-- A finite double with an optional sign. -/
def finite? (text : List Char) : Option Double :=
  match double? text with
  | some (.finite negative coefficient exponent) => some (.finite negative coefficient exponent)
  | _ => none

def scalarDouble? (text : List Char) : Option Double :=
  match text with
  | '+' :: rest => if isInfinity rest then some (.infinite false) else finite? text
  | '-' :: rest => if isInfinity rest then some (.infinite true) else finite? text
  | _ =>
    if isInfinity text then some (.infinite false)
    else if [".nan", ".NaN", ".NAN"].contains (String.ofList text) then some .nan
    else finite? text

/-! ### Scalars -/

/-- A plain scalar without a tag. -/
def Scalar.ofPlain (text : List Char) : Scalar :=
  if text.isEmpty || isNull text then .null
  else
    match bool? text, integer? text with
    | some value, _ => .bool value
    | none, some value => value
    | none, none =>
      match if isZeroFilled text then none else scalarDouble? text with
      | some value => .double value
      | none => .text (String.ofList text)

/-- What is wrong with a scalar for its tag. -/
inductive ScalarFault where
  | mismatch (text : String) (expected : String)
  /-- A tag of one's own. -/
  | ownTag
deriving DecidableEq, Repr

def standardTag (name : String) : List Char := "tag:yaml.org,2002:".toList ++ name.toList

/-- A scalar as its tag, its style and its text say. -/
def Scalar.of (tag : Option (List Char)) (text : List Char) (style : ScalarStyle) :
    Except ScalarFault Scalar :=
  let word := String.ofList text
  let expect (expected : String) (value : Option Scalar) : Except ScalarFault Scalar :=
    match value with
    | some value => .ok value
    | none => .error (.mismatch word expected)
  match tag with
  | none => .ok (if style = .plain then .ofPlain text else .text word)
  | some tag =>
    if tag.head? == some '!' then .error .ownTag
    else if tag = standardTag "bool" then expect "a boolean" ((bool? text).map .bool)
    else if tag = standardTag "int" then expect "an integer" (integer? text)
    else if tag = standardTag "float" then expect "a float" ((scalarDouble? text).map .double)
    else if tag = standardTag "null" then expect "null" (if isNull text then some .null else none)
    else .ok (.text word)

end DeviceEnrollment.Yaml
