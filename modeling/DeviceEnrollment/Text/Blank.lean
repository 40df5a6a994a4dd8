/-!
White space of the Unicode standard, and trimming by it.
-/
namespace DeviceEnrollment.Text

/-- The characters with the property White_Space. -/
def isBlank (c : Char) : Bool :=
  let point := c.toNat
  (0x09 ≤ point && point ≤ 0x0D) || point == 0x20 || point == 0x85 || point == 0xA0 ||
  point == 0x1680 || (0x2000 ≤ point && point ≤ 0x200A) || point == 0x2028 || point == 0x2029 ||
  point == 0x202F || point == 0x205F || point == 0x3000

/-- Drops the matching characters at both ends. -/
def trimWhere (drop : Char → Bool) (text : List Char) : List Char :=
  ((text.dropWhile drop).reverse.dropWhile drop).reverse

/-- A text without the white space at its ends. -/
def trim (text : String) : String := String.ofList (trimWhere isBlank text.toList)

/-- Whether a text holds nothing but white space. -/
def isAllBlank (text : String) : Bool := text.toList.all isBlank

end DeviceEnrollment.Text
