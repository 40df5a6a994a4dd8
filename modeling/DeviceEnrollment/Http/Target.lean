/-!
Targets of requests as a client sends them: scheme, authority, path and query, with little
checked but the characters of each part.
-/
namespace DeviceEnrollment.Http

inductive TargetError where
  | empty
  | tooLong
  | schemeTooLong
  | badCharacter
  | badAuthority
  | badFormat
deriving DecidableEq, Repr

def TargetError.message : TargetError → String
  | empty => "empty string"
  | tooLong => "uri too long"
  | schemeTooLong => "scheme too long"
  | badCharacter => "invalid uri character"
  | badAuthority => "invalid authority"
  | badFormat => "invalid format"

structure RequestTarget where
  /-- In lower case if it is one of the schemes of the web. -/
  scheme : Option (List Char)
  /-- Empty if there is none. -/
  authority : List Char
  path : List Char
  query : Option (List Char)
deriving DecidableEq, Repr

namespace RequestTarget

/-! ### Parts of an authority -/

/-- What follows the user information. -/
def hostAndPort (target : RequestTarget) : List Char :=
  (target.authority.reverse.takeWhile (· != '@')).reverse

/-- The host, together with its brackets if it has any. -/
def host (target : RequestTarget) : List Char :=
  let text := target.hostAndPort
  if text.head? == some '[' then text.takeWhile (· != ']') ++ [']'] else text.takeWhile (· != ':')

/-- The digits of the port. -/
def port (target : RequestTarget) : List Char := target.hostAndPort.drop (target.host.length + 1)

/-- Path and query as they are sent; an empty path stands for the root. -/
def pathAndQuery (target : RequestTarget) : List Char :=
  (if target.path.isEmpty then ['/'] else target.path) ++
    match target.query with
    | none => []
    | some query => '?' :: query

/-! ### Limits -/

def greatestLength : Nat := 65534

def greatestSchemeLength : Nat := 64

/-! ### Authorities -/

def isAuthorityChar (c : Char) : Bool := c.isAlphanum || "!$&'()*+,-.:;=@[]_~".toList.contains c

def endsAuthority (c : Char) : Bool := c == '/' || c == '?' || c == '#'

/-- What was met in an authority. Colons and percent signs of user information are forgotten, and
so are those between brackets. -/
structure AuthorityMarks where
  colons : Nat
  opened : Bool
  closed : Bool
  percent : Bool
  /-- Whether the last character was an at sign. -/
  atEnd : Bool

def greatestColons : Nat := 8

def AuthorityMarks.take (marks : AuthorityMarks) (c : Char) : Except TargetError AuthorityMarks :=
  let next := { marks with atEnd := false }
  if c == ':' then
    if marks.colons ≥ greatestColons then .error .badAuthority
    else .ok { next with colons := marks.colons + 1 }
  else if c == '[' then
    if marks.percent || marks.opened then .error .badAuthority else .ok { next with opened := true }
  else if c == ']' then
    if !marks.opened || marks.closed then .error .badAuthority
    else .ok { next with closed := true, colons := 0, percent := false }
  else if c == '@' then .ok { marks with colons := 0, percent := false, atEnd := true }
  else if c == '%' then .ok { next with percent := true }
  else if isAuthorityChar c then .ok next
  else .error .badCharacter

/-- Whether an authority may end with these marks. -/
def AuthorityMarks.fits (marks : AuthorityMarks) : Bool :=
  marks.opened == marks.closed && marks.colons ≤ 1 && !marks.atEnd && !marks.percent

/-- Cuts off an authority, which may be empty. -/
def splitAuthority (text : List Char) : Except TargetError (List Char × List Char) := do
  let authority := text.takeWhile (!endsAuthority ·)
  let marks ← authority.foldlM AuthorityMarks.take ⟨0, false, false, false, false⟩
  if marks.fits then return (authority, text.dropWhile (!endsAuthority ·))
  else .error .badAuthority

/-! ### Paths and queries -/

def isPathChar (c : Char) : Bool :=
  let point := c.toNat
  point == 0x21 || point == 0x22 || (0x24 ≤ point && point ≤ 0x3B) || point == 0x3D ||
  (0x40 ≤ point && point ≤ 0x5F) || (0x61 ≤ point && point ≤ 0x7B) || point == 0x7C ||
  point == 0x7D || point ≥ 0x7E

def isQueryChar (c : Char) : Bool :=
  let point := c.toNat
  point == 0x21 || (0x24 ≤ point && point ≤ 0x3B) || point == 0x3D || point ≥ 0x3F

/-- Reads path and query. A fragment is dropped without a look at it. -/
def readPath (text : List Char) : Except TargetError (List Char × Option (List Char)) :=
  let path := text.takeWhile fun c => c != '?' && c != '#'
  let rest := text.drop path.length
  if !path.all isPathChar then .error .badCharacter
  else
    match rest with
    | '?' :: rest =>
      let query := rest.takeWhile (· != '#')
      if query.all isQueryChar then .ok (path, some query) else .error .badCharacter
    | _ => .ok (path, none)

/-! ### Schemes -/

def isSchemeChar (c : Char) : Bool := c.isAlphanum || "+-.~".toList.contains c

/-- Cuts off a scheme, which two slashes follow. Three characters are too few for one. -/
def splitScheme? (text : List Char) : Except TargetError (Option (List Char × List Char)) :=
  let scheme := text.takeWhile isSchemeChar
  match text.drop scheme.length with
  | ':' :: '/' :: '/' :: rest =>
    let lower := scheme.map Char.toLower
    if text.length ≤ 3 then .ok none
    else if lower == "http".toList || lower == "https".toList then .ok (some (lower, rest))
    else if scheme.length > greatestSchemeLength then .error .schemeTooLong
    else .ok (some (scheme, rest))
  | _ => .ok none

/-! ### Whole targets -/

/-- Reads a target of several characters that begins with no slash. -/
def readAbsolute (text : List Char) : Except TargetError RequestTarget := do
  match ← splitScheme? text with
  | none =>
    let (authority, rest) ← splitAuthority text
    if rest.isEmpty then return ⟨none, authority, [], none⟩ else .error .badFormat
  | some (scheme, rest) =>
    if rest.isEmpty then .error .empty
    let (authority, rest) ← splitAuthority rest
    if authority.isEmpty then .error .badFormat
    let (path, query) ← readPath rest
    return ⟨some scheme, authority, path, query⟩

def ofText (text : String) : Except TargetError RequestTarget :=
  if text.utf8ByteSize > greatestLength then .error .tooLong
  else
    match text.toList with
    | [] => .error .empty
    | ['/'] => .ok ⟨none, [], ['/'], none⟩
    | ['*'] => .ok ⟨none, [], ['*'], none⟩
    | '/' :: rest => do
      let (path, query) ← readPath ('/' :: rest)
      return ⟨none, [], path, query⟩
    | [only] => do
      let (authority, rest) ← splitAuthority [only]
      if rest.isEmpty then return ⟨none, authority, [], none⟩ else .error .badCharacter
    | letters => readAbsolute letters

end RequestTarget

end DeviceEnrollment.Http
