import DeviceEnrollment.Text.Blank
import DeviceEnrollment.Text.Digits
import DeviceEnrollment.Url.Basic
import DeviceEnrollment.Url.Domain.Basic

/-!
Reading web addresses from text. Addresses of other schemes are only looked at for their faults.
-/
namespace DeviceEnrollment.Url

/-! ### Hosts -/

/-- Reads what stands between brackets, if the text begins with one. -/
def parseBracketed? (text : List Char) : Option (Except UrlError Host) :=
  match text with
  | '[' :: rest =>
    some (if rest.getLast? = some ']' then Host.ipv6 <$> parseIpv6 rest.dropLast
      else .error .invalidIpv6)
  | _ => none

def parseHost (text : List Char) : Except UrlError Host :=
  match parseBracketed? text with
  | some result => result
  | none => do
    let name ← Domain.ofBytes (decodeBytes (Bytes.ofText (String.ofList text)))
    if name.isEmpty then .error .emptyHost
    else if endsInNumber name then Host.ipv4 <$> parseIpv4 name
    else .ok (.name name)

/-- The characters that no host of a foreign scheme has. -/
def isForbiddenInOpaque (c : Char) : Bool := "\x00\t\n\r #/:<>?@[\\]^|".toList.contains c

/-- Looks at the host of a foreign scheme. -/
def checkOpaqueHost (text : List Char) : Except UrlError Unit :=
  match parseBracketed? text with
  | some result => result.map fun _ => ()
  | none => if text.any isForbiddenInOpaque then .error .invalidDomainCharacter else .ok ()

/-! ### The parts of an authority -/

/-- How a scheme reads what follows it. -/
inductive Family where
  /-- With a host that is a domain name, backslashes counting as slashes. -/
  | special
  | file
  | other
deriving DecidableEq, Repr

def Family.ofScheme (scheme : String) : Family :=
  match scheme with
  | "ws" | "wss" | "ftp" => .special
  | "file" => .file
  | _ => .other

def isSlash (c : Char) : Bool := c == '/' || c == '\\'

/-- Whether a character ends an authority. -/
def endsAuthority (special : Bool) (c : Char) : Bool :=
  c == '/' || c == '?' || c == '#' || (special && c == '\\')

/-- Cuts off what stands before the last at sign of an authority. A sign in front needs
something behind it. -/
def splitUserinfo (special : Bool) (text : List Char) :
    Except UrlError (List Char × List Char) :=
  let authority := text.takeWhile (!endsAuthority special ·)
  if authority.contains '@' then
    let host := (authority.reverse.takeWhile (· != '@')).reverse
    let info := authority.take (authority.length - host.length - 1)
    let rest := text.drop (info.length + 1)
    if info.isEmpty && rest.head?.any (endsAuthority special) then .error .emptyHost
    else .ok (info, rest)
  else .ok ([], text)

/-- How user name and password are written. -/
def writeUserinfo (info : List Char) : List Char :=
  let name := info.takeWhile (· != ':')
  let password := info.drop (name.length + 1)
  encodeText .userinfo name ++
    if password.isEmpty then [] else ':' :: encodeText .userinfo password

/-- The length of a host. Colons between brackets belong to it. -/
def hostLength (special : Bool) (bracketed : Bool) : List Char → Nat
  | [] => 0
  | c :: rest =>
    if endsAuthority special c || (c == ':' && !bracketed) then 0
    else
      let bracketed := if c == '[' then true else if c == ']' then false else bracketed
      1 + hostLength special bracketed rest

def greatestPort : Nat := 65535

/-- Reads a port behind its colon. No digits at all stand for no port. -/
def parsePort (text : List Char) : Except UrlError (Option Nat × List Char) :=
  let digits := text.takeWhile Char.isDigit
  let rest := text.dropWhile Char.isDigit
  if Text.decimalValue digits > greatestPort then .error .invalidPort
  else
    match rest with
    | c :: _ =>
      if endsAuthority true c then
        .ok (if digits.isEmpty then none else some (Text.decimalValue digits), rest)
      else .error .invalidPort
    | [] => .ok (if digits.isEmpty then none else some (Text.decimalValue digits), rest)

/-- The port behind a host, if a colon says that there is one. -/
def parsePortPart (text : List Char) : Except UrlError (Option Nat × List Char) :=
  match text with
  | ':' :: rest => parsePort rest
  | rest => .ok (none, rest)

/-! ### Whole addresses -/

/-- The written segments of a path, the first slash being optional. -/
def parsePath (text : List Char) : List (List Char) :=
  let path := text.takeWhile fun c => c != '?' && c != '#'
  let rest := match path with
    | first :: rest => if isSlash first then rest else first :: rest
    | [] => []
  resolveDots [] ((Text.partsWhere isSlash rest).map (encodeText .path))

/-- What follows the path: the query, which a fragment ends. -/
def parseQuery? (text : List Char) : Option (List Char) :=
  match text.dropWhile fun c => c != '?' && c != '#' with
  | '?' :: rest => some (encodeText .query (rest.takeWhile (· != '#')))
  | _ => none

/-- The parts of an authority and what follows it. -/
structure Authority where
  userinfo : List Char
  host : Host
  port : Option Nat
  rest : List Char

def parseAuthority (text : List Char) : Except UrlError Authority := do
  let (info, afterInfo) ← splitUserinfo true text
  let length := hostLength true false afterInfo
  if length = 0 then .error .emptyHost
  let host ← parseHost (afterInfo.take length)
  let (port, rest) ← parsePortPart (afterInfo.drop length)
  return ⟨writeUserinfo info, host, port, rest⟩

/-- Reads what follows the scheme of a web address. Slashes before the host are skipped. -/
def parseWeb (scheme : WebScheme) (text : List Char) : Except UrlError WebUrl := do
  let authority ← parseAuthority (text.dropWhile isSlash)
  return {
    scheme
    userinfo := authority.userinfo
    host := authority.host
    port := authority.port.filter (· != scheme.defaultPort)
    path := parsePath authority.rest
    query := parseQuery? authority.rest }

/-- Looks at what follows a foreign scheme. -/
def checkOther (text : List Char) : Except UrlError Unit :=
  match text with
  | '/' :: '/' :: afterSlashes => do
    let (info, afterInfo) ← splitUserinfo false afterSlashes
    let length := hostLength false false afterInfo
    checkOpaqueHost (afterInfo.take length)
    let rest := afterInfo.drop length
    if length = 0 && (rest.head? == some ':' || !(writeUserinfo info).isEmpty) then
      .error .emptyHost
    else (parsePortPart rest).map fun _ => ()
  | _ => .ok ()

/-- Looks at the host of a file, which is neither a drive nor empty. -/
def checkFile (text : List Char) : Except UrlError Unit :=
  match text with
  | first :: second :: rest =>
    if isSlash first && isSlash second then
      let host := rest.takeWhile (!endsAuthority true ·)
      if host.isEmpty || isDrive host then .ok ()
      else (parseHost host).map fun _ => ()
    else .ok ()
  | _ => .ok ()

def isSchemeChar (c : Char) : Bool := c.isAlphanum || c == '+' || c == '-' || c == '.'

/-- Cuts a scheme off, in lower case. -/
def splitScheme? (text : List Char) : Option (String × List Char) :=
  match text with
  | first :: _ =>
    if first.isAlpha then
      match text.dropWhile isSchemeChar with
      | ':' :: rest => some (String.ofList ((text.takeWhile isSchemeChar).map Char.toLower), rest)
      | _ => none
    else none
  | [] => none

def isOuterBlank (c : Char) : Bool := c.toNat ≤ 0x20

/-- The text that is looked at: nothing blank at its ends, and no tab or line end within. -/
def cleanText (text : String) : List Char :=
  (Text.trimWhere isOuterBlank text.toList).filter (!isVanishing ·)

/-- Reads an absolute address; `none` stands for one of another scheme. -/
def parse (text : String) : Except UrlError (Option WebUrl) :=
  match splitScheme? (cleanText text) with
  | none => .error .relative
  | some ("http", rest) => some <$> parseWeb .http rest
  | some ("https", rest) => some <$> parseWeb .https rest
  | some (scheme, rest) =>
    match Family.ofScheme scheme with
    | .special => do
      let _ ← parseAuthority (rest.dropWhile isSlash)
      return none
    | .file => do
      checkFile rest
      return none
    | .other => do
      checkOther rest
      return none

end DeviceEnrollment.Url
