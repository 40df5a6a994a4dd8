/-!
The parts of a text between marks.
-/
namespace DeviceEnrollment.Text

/-- The parts between the marks; there is always at least one. -/
def partsWhere (isMark : Char → Bool) : List Char → List (List Char)
  | [] => [[]]
  | c :: rest =>
    if isMark c then [] :: partsWhere isMark rest
    else
      match partsWhere isMark rest with
      | [] => [[c]]
      | part :: parts => (c :: part) :: parts

/-- The parts between occurrences of one mark. -/
def partsAt (mark : Char) : List Char → List (List Char) := partsWhere (· == mark)

/-- The words between spaces. -/
def words (text : String) : List (List Char) :=
  (partsAt ' ' text.toList).filter fun word => !word.isEmpty

/-- The parts of a text before and after the first mark. -/
def cutAt? (mark : Char) (text : List Char) : Option (List Char × List Char) :=
  match text.dropWhile (· != mark) with
  | [] => none
  | _ :: after => some (text.takeWhile (· != mark), after)

theorem partsWhere_ne_nil (isMark : Char → Bool) (text : List Char) :
    partsWhere isMark text ≠ [] := by
  cases text with
  | nil => simp [partsWhere]
  | cons c rest =>
    unfold partsWhere
    split
    · simp
    · split <;> simp

end DeviceEnrollment.Text
