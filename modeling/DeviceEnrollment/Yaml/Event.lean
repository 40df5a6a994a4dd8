import DeviceEnrollment.Yaml.Token.Stream

/-!
The nodes of a document in the order of its text, the collections among them having a start and
an end. A document that cannot be read to its end has the events before the fault.
-/
namespace DeviceEnrollment.Yaml

inductive Event where
  | reference (name : List Char)
  | scalar (anchor tag : Option (List Char)) (text : List Char) (style : ScalarStyle)
  | sequenceStart (anchor tag : Option (List Char))
  | sequenceEnd
  | mappingStart (anchor tag : Option (List Char))
  | mappingEnd
deriving DecidableEq, Repr

/-- An event and where its text begins. -/
structure Placed where
  event : Event
  mark : Mark
deriving DecidableEq, Repr

/-- How far tokens have become events. -/
structure Progress where
  tokens : List Token
  /-- What is wrong behind the tokens. -/
  fault : Option Fault
  /-- What the handles of tags stand for. -/
  handles : List (List Char × List Char)
  /-- The events so far, the last one first. -/
  events : List Placed

/-- A step that may find a fault. The events before it are kept. -/
abbrev Parse := ExceptT Fault (StateM Progress)

namespace Parse

/-- The next token, which stays there. -/
def peek : Parse Token := do
  let progress ← get
  match progress.tokens, progress.fault with
  | token :: _, _ => return token
  | [], some fault => throw fault
  | [], none => return ⟨.streamEnd, .start⟩

def skip : Parse Unit := modify fun progress => { progress with tokens := progress.tokens.tail }

def emit (event : Event) (mark : Mark) : Parse Unit :=
  modify fun progress => { progress with events := ⟨event, mark⟩ :: progress.events }

/-- A node that is not written at all. -/
def emitEmpty (mark : Mark) : Parse Unit := emit (.scalar none none [] .plain) mark

def fail {α : Type} (problem : Problem) (mark : Mark) (activity : Activity) (since : Mark) :
    Parse α :=
  throw (.at problem mark (some (activity, since)))

/-! ### Properties of nodes -/

/-- The name of an anchor, if one is written here. -/
def anchor : Parse (Option (List Char)) := do
  match (← peek).kind with
  | .anchor name => skip; return some name
  | _ => return none

/-- The handle of a tag, the rest of it and its place, if one is written here. -/
def writtenTag : Parse (Option (List Char × List Char × Mark)) := do
  let token ← peek
  match token.kind with
  | .tag handle rest => skip; return some (handle, rest, token.mark)
  | _ => return none

/-- What a tag stands for, in a node that begins at a mark. -/
def resolveTag (since : Mark) :
    Option (List Char × List Char × Mark) → Parse (Option (List Char))
  | none => return none
  | some ([], rest, _) => return some rest
  | some (handle, rest, mark) => do
    match (← get).handles.lookup handle with
    | some lead => return some (lead ++ rest)
    | none => fail .undefinedTagHandle mark .node since

/-- The anchor and the tag of a node, in either order. -/
def properties (since : Mark) : Parse (Option (List Char) × Option (List Char)) := do
  match ← anchor with
  | some name => return (some name, ← resolveTag since (← writtenTag))
  | none =>
    match ← writtenTag with
    | none => return (none, none)
    | some tag =>
      let name ← anchor
      return (name, ← resolveTag since (some tag))

/-- The tag of a scalar; an exclamation mark alone says nothing. -/
def scalarTag (tag : Option (List Char)) : Option (List Char) :=
  if tag = some ['!'] then none else tag

/-! ### Nodes -/

/-- Tokens before which an entry of a mapping in a block may be left out. -/
def endsBlockNode (kind : TokenKind) : Bool :=
  kind matches .key | .value | .blockEnd

mutual

/-- Reads a node, in a block or in a flow collection. Where `entries` is set, the entries of a
sequence may stand without a block of their own. -/
def node (fuel : Nat) (block entries : Bool) : Parse Unit := do
  match fuel with
  | 0 => return
  | fuel + 1 =>
    let first ← peek
    match first.kind with
    | .reference name => skip; emit (.reference name) first.mark
    | _ =>
      let since := first.mark
      let (anchor, tag) ← properties since
      let token ← peek
      match token.kind, block with
      | .blockEntry, _ =>
        if entries then
          emit (.sequenceStart anchor tag) since
          looseEntries fuel
        else emptyNode anchor tag block since token.mark
      | .scalar text style, _ =>
        skip
        emit (.scalar anchor (scalarTag tag) text style) since
      | .flowSequenceStart, _ =>
        skip
        emit (.sequenceStart anchor tag) since
        flowElements fuel token.mark true
      | .flowMappingStart, _ =>
        skip
        emit (.mappingStart anchor tag) since
        flowEntries fuel token.mark true
      | .blockSequenceStart, true =>
        skip
        emit (.sequenceStart anchor tag) since
        blockElements fuel token.mark
      | .blockMappingStart, true =>
        skip
        emit (.mappingStart anchor tag) since
        blockEntries fuel token.mark
      | _, _ => emptyNode anchor tag block since token.mark
termination_by structural fuel

/-- A node without content, which needs at least an anchor or a tag. -/
def emptyNode (anchor tag : Option (List Char)) (block : Bool) (since mark : Mark) :
    Parse Unit :=
  if anchor.isSome || tag.isSome then emit (.scalar anchor tag [] .plain) since
  else fail .nodeContent mark (if block then .blockNode else .flowNode) since

/-- Reads the entries of a sequence that is indented as the mapping around it. -/
def looseEntries (fuel : Nat) : Parse Unit := do
  match fuel with
  | 0 => return
  | fuel + 1 =>
    let token ← peek
    if token.kind = .blockEntry then
      skip
      let content ← peek
      if content.kind = .blockEntry || endsBlockNode content.kind then emitEmpty content.mark
      else node fuel true false
      looseEntries fuel
    else emit .sequenceEnd token.mark
termination_by structural fuel

/-- Reads the entries of a sequence and the end of its block. -/
def blockElements (fuel : Nat) (since : Mark) : Parse Unit := do
  match fuel with
  | 0 => return
  | fuel + 1 =>
    let token ← peek
    match token.kind with
    | .blockEntry =>
      skip
      let content ← peek
      if content.kind = .blockEntry || content.kind = .blockEnd then emitEmpty content.mark
      else node fuel true false
      blockElements fuel since
    | .blockEnd => skip; emit .sequenceEnd token.mark
    | _ => fail .sequenceEntry token.mark .blockSequence since
termination_by structural fuel

/-- Reads the entries of a mapping and the end of its block. -/
def blockEntries (fuel : Nat) (since : Mark) : Parse Unit := do
  match fuel with
  | 0 => return
  | fuel + 1 =>
    let token ← peek
    match token.kind with
    | .key =>
      skip
      let content ← peek
      if endsBlockNode content.kind then emitEmpty content.mark else node fuel true true
      blockValue fuel
      blockEntries fuel since
    | .blockEnd => skip; emit .mappingEnd token.mark
    | _ => fail .mappingKey token.mark .blockMapping since
termination_by structural fuel

/-- Reads the value behind a key in a block. -/
def blockValue (fuel : Nat) : Parse Unit := do
  match fuel with
  | 0 => return
  | fuel + 1 =>
    let token ← peek
    if token.kind = .value then
      skip
      let content ← peek
      if endsBlockNode content.kind then emitEmpty content.mark else node fuel true true
    else emitEmpty token.mark
termination_by structural fuel

/-- Reads the elements of a sequence between brackets and its end. -/
def flowElements (fuel : Nat) (since : Mark) (first : Bool) : Parse Unit := do
  match fuel with
  | 0 => return
  | fuel + 1 =>
    let token ← separated .flowSequenceEnd .flowSequenceEnd first .flowSequence since
    match token.kind with
    | .flowSequenceEnd => skip; emit .sequenceEnd token.mark
    | .key =>
      skip
      emit (.mappingStart none none) token.mark
      flowPair fuel
      flowElements fuel since false
    | _ =>
      node fuel false false
      flowElements fuel since false
termination_by structural fuel

/-- Reads a mapping of one entry that stands between brackets. -/
def flowPair (fuel : Nat) : Parse Unit := do
  match fuel with
  | 0 => return
  | fuel + 1 =>
    let key ← peek
    if key.kind matches .value | .flowEntry | .flowSequenceEnd then
      skip
      emitEmpty key.mark
    else node fuel false false
    flowValue fuel .flowSequenceEnd
    emit .mappingEnd (← peek).mark
termination_by structural fuel

/-- Reads the entries of a mapping between braces and its end. -/
def flowEntries (fuel : Nat) (since : Mark) (first : Bool) : Parse Unit := do
  match fuel with
  | 0 => return
  | fuel + 1 =>
    let token ← separated .flowMappingEnd .flowMappingEnd first .flowMapping since
    match token.kind with
    | .flowMappingEnd => skip; emit .mappingEnd token.mark
    | .key =>
      skip
      let content ← peek
      if content.kind matches .value | .flowEntry | .flowMappingEnd then emitEmpty content.mark
      else node fuel false false
      flowValue fuel .flowMappingEnd
      flowEntries fuel since false
    | _ =>
      node fuel false false
      emitEmpty (← peek).mark
      flowEntries fuel since false
termination_by structural fuel

/-- Reads the value behind a key in a flow collection that has a certain end. -/
def flowValue (fuel : Nat) (close : TokenKind) : Parse Unit := do
  match fuel with
  | 0 => return
  | fuel + 1 =>
    let token ← peek
    if token.kind = .value then
      skip
      let content ← peek
      if content.kind = .flowEntry || content.kind = close then emitEmpty content.mark
      else node fuel false false
    else emitEmpty token.mark
termination_by structural fuel

/-- The token behind the comma that has to stand between two elements. -/
def separated (close : TokenKind) (problem : Problem) (first : Bool) (activity : Activity)
    (since : Mark) : Parse Token := do
  let token ← peek
  if token.kind = close || first then return token
  else if token.kind = .flowEntry then
    skip
    peek
  else fail problem token.mark activity since

end

/-! ### Documents -/

/-- Reads directives, each of them once, and declares the handles of tags. -/
def directives (fuel : Nat) (version : Bool) (handles : List (List Char × List Char)) :
    Parse Unit := do
  match fuel with
  | 0 => return
  | fuel + 1 =>
    let token ← peek
    match token.kind with
    | .version major minor =>
      if version then throw (.at .repeatedVersion token.mark none)
      if major ≠ 1 || (minor ≠ 1 && minor ≠ 2) then throw (.at .foreignVersion token.mark none)
      skip
      directives fuel true handles
    | .tagDirective handle lead =>
      if (handles.lookup handle).isSome then throw (.at .repeatedTagHandle token.mark none)
      skip
      directives fuel version (handles ++ [(handle, lead)])
    | _ => modify fun progress => { progress with handles := handles ++ usualHandles }
where
  usualHandles : List (List Char × List Char) :=
    [(['!'], ['!']), (['!', '!'], "tag:yaml.org,2002:".toList)]

/-- Tokens that stand between documents. -/
def isBetweenDocuments (kind : TokenKind) : Bool :=
  kind matches .version _ _ | .tagDirective _ _ | .documentStart | .documentEnd | .streamEnd

/-- Reads the first document of a stream and the mark of its end. A stream may have none. -/
def firstDocument (fuel : Nat) : Parse Unit := do
  skip
  let token ← peek
  match token.kind with
  | .streamEnd => return
  | .version _ _ | .tagDirective _ _ | .documentStart =>
    directives fuel false []
    let start ← peek
    if start.kind ≠ .documentStart then throw (.at .documentStart start.mark none)
    skip
    let content ← peek
    if isBetweenDocuments content.kind then emitEmpty content.mark else node fuel true false
  | _ =>
    directives 1 false []
    node fuel true false
  if (← peek).kind = .documentEnd then skip

end Parse

/-- A document as far as it can be read. -/
structure Document where
  events : List Placed
  fault : Option Fault
  /-- Whether anything but ends of documents follows. -/
  followed : Bool

/-- Whether tokens are ends of documents up to the end of the stream. -/
def endsStream (tokens : List Token) : Bool :=
  (tokens.dropWhile fun token => token.kind = .documentEnd).head?.any (·.kind = .streamEnd)

/-- The first document of a text. -/
def Document.ofText (text : String) : Document :=
  let read := Tokens.ofText text
  let start : Progress := ⟨read.tokens, read.fault, [], []⟩
  match (Parse.firstDocument (4 * read.tokens.length + 8)).run start with
  | (.ok (), progress) => ⟨progress.events.reverse, none, !endsStream progress.tokens⟩
  | (.error fault, progress) => ⟨progress.events.reverse, some fault, false⟩

end DeviceEnrollment.Yaml
