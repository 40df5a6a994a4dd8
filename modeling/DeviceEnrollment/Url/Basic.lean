import DeviceEnrollment.Url.Address
import DeviceEnrollment.Url.Percent

/-!
Web addresses: where a service answers, and paths that are lengthened segment by segment.
-/
namespace DeviceEnrollment.Url

inductive WebScheme where
  | http
  | https
deriving DecidableEq, Repr

namespace WebScheme

def text : WebScheme → String
  | http => "http"
  | https => "https"

/-- The port that is left out of addresses. -/
def defaultPort : WebScheme → Nat
  | http => 80
  | https => 443

end WebScheme

inductive Host where
  | name (text : List Char)
  | ipv4 (address : Nat)
  | ipv6 (pieces : List Nat)
deriving DecidableEq, Repr

def Host.text : Host → List Char
  | name text => text
  | ipv4 address => ipv4Text address
  | ipv6 pieces => '[' :: ipv6Text pieces ++ [']']

structure WebUrl where
  scheme : WebScheme
  /-- User name and password as they are written before the host, or nothing. -/
  userinfo : List Char
  host : Host
  port : Option Nat
  /-- The segments as they are written. There is at least one, which may be empty. -/
  path : List (List Char)
  query : Option (List Char)
deriving DecidableEq, Repr

/-! ### Paths -/

/-- Whether a written segment stands for the place where it is. -/
def isSingleDot (segment : List Char) : Bool :=
  [['.'], "%2e".toList].contains (segment.map Char.toLower)

/-- Whether a written segment stands for the place above. -/
def isDoubleDot (segment : List Char) : Bool :=
  [['.', '.'], ".%2e".toList, "%2e.".toList, "%2e%2e".toList].contains (segment.map Char.toLower)

/-- A letter with a colon or a bar, which nothing goes above. -/
def isDrive : List Char → Bool
  | [letter, mark] => letter.isAlpha && (mark == ':' || mark == '|')
  | _ => false

/-- The segments above the last one. -/
def goUp (segments : List (List Char)) : List (List Char) :=
  match segments.getLast? with
  | none => []
  | some last => if isDrive last then segments else segments.dropLast

/-- Puts a segment behind others. Dots that end a path leave an empty segment. -/
def addSegment (done : List (List Char)) (segment : List Char) : List (List Char) :=
  if isDoubleDot segment then goUp done ++ [[]]
  else if isSingleDot segment then done ++ [[]]
  else done ++ [segment]

/-- Resolves the dots among written segments. -/
def resolveDots (done : List (List Char)) : List (List Char) → List (List Char)
  | [] => done
  | [last] => addSegment done last
  | segment :: rest =>
    if isDoubleDot segment then resolveDots (goUp done) rest
    else if isSingleDot segment then resolveDots done rest
    else resolveDots (done ++ [segment]) rest

/-- Tabs and line ends, which vanish from every part of an address. -/
def isVanishing (c : Char) : Bool := c == '\t' || c == '\n' || c == '\r'

/-- How a segment that is added whole is written. -/
def writeSegment (segment : String) : List Char :=
  encodeText .segment (segment.toList.filter (!isVanishing ·))

/-- A path without an empty last segment, unless it has no other. -/
def dropFinalSlash (path : List (List Char)) : List (List Char) :=
  if path.length > 1 && path.getLast? == some [] then path.dropLast else path

/-- Adds a segment behind a path. The path of a bare host makes room for it. -/
def extendPath (path : List (List Char)) (segment : String) : List (List Char) :=
  addSegment (if path = [[]] then [] else path) (writeSegment segment)

def pathText (path : List (List Char)) : List Char := path.flatMap ('/' :: ·)

namespace WebUrl

/-- The host, what is before it and the port behind it. -/
def authorityText (url : WebUrl) : List Char :=
  (if url.userinfo.isEmpty then [] else url.userinfo ++ ['@']) ++ url.host.text ++
    match url.port with
    | none => []
    | some port => ':' :: Nat.toDigits 10 port

def letters (url : WebUrl) : List Char :=
  url.scheme.text.toList ++ "://".toList ++ url.authorityText ++ pathText url.path ++
    match url.query with
    | none => []
    | some query => '?' :: query

def text (url : WebUrl) : String := String.ofList url.letters

/-- The place of a resource below an address. -/
def extend (url : WebUrl) (segments : List String) : WebUrl :=
  { url with path := segments.foldl extendPath (dropFinalSlash url.path) }

/-- The address with one pair as its query. -/
def withPair (url : WebUrl) (name value : String) : WebUrl :=
  { url with query := some (formPair name value) }

end WebUrl

end DeviceEnrollment.Url
