import DeviceEnrollment.Bytes

/-!
Percent encoding of texts byte by byte, with the sets of bytes that each part of a URL escapes,
and the form encoding of queries.
-/
namespace DeviceEnrollment.Url

/-- The bytes that a part of a URL writes escaped. -/
abbrev EscapeSet := UInt8 → Bool

namespace EscapeSet

/-- Controls and every byte beyond ASCII. -/
def controls : EscapeSet := fun byte => byte < 0x20 || byte ≥ 0x7F

def adding (set : EscapeSet) (more : List Char) : EscapeSet := fun byte =>
  set byte || more.contains (Char.ofNat byte.toNat)

def fragment : EscapeSet := controls.adding [' ', '"', '<', '>', '\u0060']
def path : EscapeSet := fragment.adding ['#', '?', '\x7b', '\x7d']
def userinfo : EscapeSet := path.adding ['/', ':', ';', '=', '@', '[', '\\', ']', '^', '|']
/-- A segment that is added whole, so that it holds no separator and no escape of its own. -/
def segment : EscapeSet := path.adding ['/', '%', '\\']
def query : EscapeSet := controls.adding [' ', '"', '#', '<', '>', '\u0027']

end EscapeSet

/-- An upper case hexadecimal digit. -/
def upperHex (value : Nat) : Char := (Nat.digitChar value).toUpper

def escaped (byte : UInt8) : List Char :=
  ['%', upperHex (byte.toNat / 16), upperHex (byte.toNat % 16)]

def encodeByte (set : EscapeSet) (byte : UInt8) : List Char :=
  if set byte then escaped byte else [Char.ofNat byte.toNat]

def encodeBytes (set : EscapeSet) (bytes : Bytes) : List Char := bytes.flatMap (encodeByte set)

def encodeText (set : EscapeSet) (text : List Char) : List Char :=
  encodeBytes set (Bytes.ofText (String.ofList text))

/-- Replaces each percent sign that two hexadecimal digits follow. -/
def decodeBytes : Bytes → Bytes
  | [] => []
  | first :: rest =>
    if first == 0x25 then
      match rest with
      | high :: low :: rest =>
        match Bytes.hexValue? high, Bytes.hexValue? low with
        | some highValue, some lowValue =>
          (highValue * 16 + lowValue).toUInt8 :: decodeBytes rest
        | _, _ => first :: decodeBytes (high :: low :: rest)
      | rest => first :: decodeBytes rest
    else first :: decodeBytes rest

/-! ### Form encoding -/

/-- The bytes that stand for themselves in a form. -/
def isFormByte (byte : UInt8) : Bool :=
  (0x30 ≤ byte && byte ≤ 0x39) || (0x41 ≤ byte && byte ≤ 0x5A) || (0x61 ≤ byte && byte ≤ 0x7A) ||
  byte == 0x2A || byte == 0x2D || byte == 0x2E || byte == 0x5F

def formByte (byte : UInt8) : List Char :=
  if byte == 0x20 then ['+']
  else if isFormByte byte then [Char.ofNat byte.toNat]
  else escaped byte

def formEncode (text : String) : List Char := (Bytes.ofText text).flatMap formByte

/-- A name and its value as one pair of a form. -/
def formPair (name value : String) : List Char := formEncode name ++ '=' :: formEncode value

/-- Reads a name or a value of a form. -/
def formDecode (bytes : Bytes) : Bytes :=
  decodeBytes (bytes.map fun byte => if byte == 0x2B then 0x20 else byte)

end DeviceEnrollment.Url
