import TestRig.Yaml.Scanner

/-!
The YAML parser: tokens to events. Each event opens or closes a document, a sequence or a
mapping, or is a scalar or an alias. The grammar is LL(1) over tokens; the parser keeps a
stack of states to return to and of the marks where the open collections started, which its
messages point to. Empty keys and values become empty plain scalars.
-/

namespace TestRig.Yaml

/-- What an event is. Anchors and tags are empty when absent; tags are resolved against the
tag directives to their full form. -/
inductive EventKind where
  | streamStart
  | streamEnd
  | documentStart
  | documentEnd
  | aliasOf (name : String)
  | scalar (anchor tag text : String) (style : ScalarStyle)
  | sequenceStart (anchor tag : String) (flow : Bool)
  | sequenceEnd
  | mappingStart (anchor tag : String) (flow : Bool)
  | mappingEnd
  deriving Repr, Inhabited

structure Event where
  kind : EventKind
  start : Mark
  deriving Repr, Inhabited

inductive ParseState where
  | streamStart
  | implicitDocumentStart
  | documentStart
  | documentContent
  | documentEnd
  | blockNode
  | blockSequenceFirstEntry
  | blockSequenceEntry
  | indentlessSequenceEntry
  | blockMappingFirstKey
  | blockMappingKey
  | blockMappingValue
  | flowSequenceFirstEntry
  | flowSequenceEntry
  | flowSequenceEntryMappingKey
  | flowSequenceEntryMappingValue
  | flowSequenceEntryMappingEnd
  | flowMappingFirstKey
  | flowMappingKey
  | flowMappingValue
  | flowMappingEmptyValue
  | finished
  deriving DecidableEq, Repr, Inhabited

/-- The parser: the scanner, the current state, the states and marks of the open collections,
and the tag directives of the current document. -/
structure Parser where
  scanner : Scanner
  state : ParseState := .streamStart
  states : List ParseState := []
  marks : List Mark := []
  tagDirectives : List (String × String) := []
  deriving Inhabited

abbrev ParseM := StateT Parser (Except Problem)

def liftScan (m : ScanM α) : ParseM α := fun p =>
  match m p.scanner with
  | .ok (a, s) => .ok (a, { p with scanner := s })
  | .error e => .error e

def nextToken : ParseM Token := liftScan peekToken

def takeToken : ParseM Unit := liftScan skipToken

def parseFail (problem : String) (m : Mark) : ParseM α :=
  throw { stage := .parser, problem, problemMark := m }

def parseFailIn (context : String) (contextMark : Mark) (problem : String) (m : Mark) :
    ParseM α :=
  throw { stage := .parser, context, contextMark, problem, problemMark := m }

def popState : ParseM Unit :=
  modify fun p => match p.states with
    | s :: rest => { p with state := s, states := rest }
    | [] => { p with state := .finished }

def pushState (s : ParseState) : ParseM Unit := modify fun p => { p with states := s :: p.states }

def popMark : ParseM Mark := do
  let p ← get
  match p.marks with
  | m :: rest =>
    set { p with marks := rest }
    return m
  | [] => return {}

def emptyScalar (m : Mark) : Event := ⟨.scalar "" "" "" .plain, m⟩

def defaultTagDirectives : List (String × String) := [("!", "!"), ("!!", "tag:yaml.org,2002:")]

def processDirectives : ParseM Unit := do
  let rec go : Nat → Bool → ParseM Token
    | 0, _ => nextToken
    | n + 1, seenVersion => do
      let t ← nextToken
      match t.kind with
      | .versionDirective major minor =>
        if seenVersion then parseFail "found duplicate %YAML directive" t.start
        if major != 1 || (minor != 1 && minor != 2) then
          parseFail "found incompatible YAML document" t.start
        takeToken
        go n true
      | .tagDirective handle pfx =>
        if (← get).tagDirectives.any (·.1 == handle) then
          parseFail "found duplicate %TAG directive" t.start
        modify fun p => { p with tagDirectives := p.tagDirectives ++ [(handle, pfx)] }
        takeToken
        go n seenVersion
      | _ => return t
  let _ ← go ((← get).scanner.input.size + 2) false
  for d in defaultTagDirectives do
    modify fun p =>
      if p.tagDirectives.any (·.1 == d.1) then p else { p with tagDirectives := p.tagDirectives ++ [d] }

def parseNode (block indentless : Bool) : ParseM Event := do
  let t ← nextToken
  if let .aliasOf name := t.kind then
    popState
    takeToken
    return ⟨.aliasOf name, t.start⟩
  let start := t.start
  -- an anchor and a tag, in either order
  let (anchor, tagged, t) ← match t.kind with
    | .anchor a => do
      takeToken
      let t2 ← nextToken
      match t2.kind with
      | .tag h s => do
        takeToken
        pure (a, some (h, s, t2.start), ← nextToken)
      | _ => pure (a, none, t2)
    | .tag h s => do
      takeToken
      let t2 ← nextToken
      match t2.kind with
      | .anchor a => do
        takeToken
        pure (a, some (h, s, t.start), ← nextToken)
      | _ => pure ("", some (h, s, t.start), t2)
    | _ => pure ("", none, t)
  let tag ← match tagged with
    | none => pure ""
    | some (handle, suffix, tagMark) =>
      if handle.isEmpty then pure suffix
      else
        match (← get).tagDirectives.lookup handle with
        | some pfx => pure (pfx ++ suffix)
        | none => parseFailIn "while parsing a node" start "found undefined tag handle" tagMark
  if indentless && t.kind == .blockEntry then
    modify fun p => { p with state := .indentlessSequenceEntry }
    return ⟨.sequenceStart anchor tag false, start⟩
  let fallback : ParseM Event := do
    if !anchor.isEmpty || !tag.isEmpty then
      popState
      return ⟨.scalar anchor tag "" .plain, start⟩
    else
      parseFailIn (if block then "while parsing a block node" else "while parsing a flow node")
        start "did not find expected node content" t.start
  match t.kind with
  | .scalar text style =>
    popState
    takeToken
    return ⟨.scalar anchor tag text style, start⟩
  | .flowSequenceStart =>
    modify fun p => { p with state := .flowSequenceFirstEntry }
    return ⟨.sequenceStart anchor tag true, start⟩
  | .flowMappingStart =>
    modify fun p => { p with state := .flowMappingFirstKey }
    return ⟨.mappingStart anchor tag true, start⟩
  | .blockSequenceStart =>
    if block then
      modify fun p => { p with state := .blockSequenceFirstEntry }
      return ⟨.sequenceStart anchor tag false, start⟩
    else fallback
  | .blockMappingStart =>
    if block then
      modify fun p => { p with state := .blockMappingFirstKey }
      return ⟨.mappingStart anchor tag false, start⟩
    else fallback
  | _ => fallback

def parseDocumentStart (implicit : Bool) : ParseM Event := do
  let rec skipEnds : Nat → ParseM Token
    | 0 => nextToken
    | n + 1 => do
      let t ← nextToken
      if !implicit && t.kind == .documentEnd then
        takeToken
        skipEnds n
      else return t
  let t ← skipEnds ((← get).scanner.input.size + 2)
  let isDirective := match t.kind with
    | .versionDirective .. => true
    | .tagDirective .. => true
    | _ => false
  if implicit && !isDirective && t.kind != .documentStart && t.kind != .streamEnd then
    processDirectives
    pushState .documentEnd
    modify fun p => { p with state := .blockNode }
    return ⟨.documentStart, t.start⟩
  else if t.kind != .streamEnd then
    let start := t.start
    processDirectives
    let t ← nextToken
    if t.kind != .documentStart then parseFail "did not find expected <document start>" t.start
    pushState .documentEnd
    modify fun p => { p with state := .documentContent }
    takeToken
    return ⟨.documentStart, start⟩
  else
    modify fun p => { p with state := .finished }
    takeToken
    return ⟨.streamEnd, t.start⟩

def parseDocumentContent : ParseM Event := do
  let t ← nextToken
  let ends := match t.kind with
    | .versionDirective .. | .tagDirective .. | .documentStart | .documentEnd | .streamEnd => true
    | _ => false
  if ends then
    popState
    return emptyScalar t.start
  else parseNode true false

def parseDocumentEnd : ParseM Event := do
  let t ← nextToken
  if t.kind == .documentEnd then takeToken
  modify fun p => { p with tagDirectives := [], state := .documentStart }
  return ⟨.documentEnd, t.start⟩

def parseBlockSequenceEntry (first : Bool) : ParseM Event := do
  if first then
    let t ← nextToken
    modify fun p => { p with marks := t.start :: p.marks }
    takeToken
  let t ← nextToken
  match t.kind with
  | .blockEntry =>
    let m := t.stop
    takeToken
    let t ← nextToken
    if t.kind != .blockEntry && t.kind != .blockEnd then
      pushState .blockSequenceEntry
      parseNode true false
    else
      modify fun p => { p with state := .blockSequenceEntry }
      return emptyScalar m
  | .blockEnd =>
    popState
    let _ ← popMark
    takeToken
    return ⟨.sequenceEnd, t.start⟩
  | _ =>
    let cm ← popMark
    parseFailIn "while parsing a block collection" cm "did not find expected '-' indicator" t.start

def parseIndentlessSequenceEntry : ParseM Event := do
  let t ← nextToken
  if t.kind == .blockEntry then
    let m := t.stop
    takeToken
    let t ← nextToken
    if t.kind != .blockEntry && t.kind != .key && t.kind != .value && t.kind != .blockEnd then
      pushState .indentlessSequenceEntry
      parseNode true false
    else
      modify fun p => { p with state := .indentlessSequenceEntry }
      return emptyScalar m
  else
    popState
    return ⟨.sequenceEnd, t.start⟩

def parseBlockMappingKey (first : Bool) : ParseM Event := do
  if first then
    let t ← nextToken
    modify fun p => { p with marks := t.start :: p.marks }
    takeToken
  let t ← nextToken
  match t.kind with
  | .key =>
    let m := t.stop
    takeToken
    let t ← nextToken
    if t.kind != .key && t.kind != .value && t.kind != .blockEnd then
      pushState .blockMappingValue
      parseNode true true
    else
      modify fun p => { p with state := .blockMappingValue }
      return emptyScalar m
  | .blockEnd =>
    popState
    let _ ← popMark
    takeToken
    return ⟨.mappingEnd, t.start⟩
  | _ =>
    let cm ← popMark
    parseFailIn "while parsing a block mapping" cm "did not find expected key" t.start

def parseBlockMappingValue : ParseM Event := do
  let t ← nextToken
  if t.kind == .value then
    let m := t.stop
    takeToken
    let t ← nextToken
    if t.kind != .key && t.kind != .value && t.kind != .blockEnd then
      pushState .blockMappingKey
      parseNode true true
    else
      modify fun p => { p with state := .blockMappingKey }
      return emptyScalar m
  else
    modify fun p => { p with state := .blockMappingKey }
    return emptyScalar t.start

def parseFlowSequenceEntry (first : Bool) : ParseM Event := do
  if first then
    let t ← nextToken
    modify fun p => { p with marks := t.start :: p.marks }
    takeToken
  let t ← nextToken
  let t ← if t.kind != .flowSequenceEnd && !first then
      if t.kind == .flowEntry then do
        takeToken
        nextToken
      else do
        let cm ← popMark
        parseFailIn "while parsing a flow sequence" cm "did not find expected ',' or ']'" t.start
    else pure t
  if t.kind == .key then
    modify fun p => { p with state := .flowSequenceEntryMappingKey }
    takeToken
    return ⟨.mappingStart "" "" true, t.start⟩
  else if t.kind != .flowSequenceEnd then
    pushState .flowSequenceEntry
    parseNode false false
  else
    popState
    let _ ← popMark
    takeToken
    return ⟨.sequenceEnd, t.start⟩

def parseFlowSequenceEntryMappingKey : ParseM Event := do
  let t ← nextToken
  if t.kind != .value && t.kind != .flowEntry && t.kind != .flowSequenceEnd then
    pushState .flowSequenceEntryMappingValue
    parseNode false false
  else
    let m := t.stop
    takeToken
    modify fun p => { p with state := .flowSequenceEntryMappingValue }
    return emptyScalar m

def parseFlowSequenceEntryMappingValue : ParseM Event := do
  let t ← nextToken
  if t.kind == .value then
    takeToken
    let t2 ← nextToken
    if t2.kind != .flowEntry && t2.kind != .flowSequenceEnd then
      pushState .flowSequenceEntryMappingEnd
      parseNode false false
    else
      modify fun p => { p with state := .flowSequenceEntryMappingEnd }
      return emptyScalar t2.start
  else
    modify fun p => { p with state := .flowSequenceEntryMappingEnd }
    return emptyScalar t.start

def parseFlowSequenceEntryMappingEnd : ParseM Event := do
  let t ← nextToken
  modify fun p => { p with state := .flowSequenceEntry }
  return ⟨.mappingEnd, t.start⟩

def parseFlowMappingKey (first : Bool) : ParseM Event := do
  if first then
    let t ← nextToken
    modify fun p => { p with marks := t.start :: p.marks }
    takeToken
  let t ← nextToken
  let t ← if t.kind != .flowMappingEnd && !first then
      if t.kind == .flowEntry then do
        takeToken
        nextToken
      else do
        let cm ← popMark
        parseFailIn "while parsing a flow mapping" cm "did not find expected ',' or '\x7d'" t.start
    else pure t
  if t.kind == .key then
    takeToken
    let t ← nextToken
    if t.kind != .value && t.kind != .flowEntry && t.kind != .flowMappingEnd then
      pushState .flowMappingValue
      parseNode false false
    else
      modify fun p => { p with state := .flowMappingValue }
      return emptyScalar t.start
  else if t.kind != .flowMappingEnd then
    pushState .flowMappingEmptyValue
    parseNode false false
  else
    popState
    let _ ← popMark
    takeToken
    return ⟨.mappingEnd, t.start⟩

def parseFlowMappingValue (empty : Bool) : ParseM Event := do
  let t ← nextToken
  if empty then
    modify fun p => { p with state := .flowMappingKey }
    return emptyScalar t.start
  if t.kind == .value then
    takeToken
    let t ← nextToken
    if t.kind != .flowEntry && t.kind != .flowMappingEnd then
      pushState .flowMappingKey
      parseNode false false
    else
      modify fun p => { p with state := .flowMappingKey }
      return emptyScalar t.start
  else
    modify fun p => { p with state := .flowMappingKey }
    return emptyScalar t.start

def nextEvent : ParseM Event := do
  match (← get).state with
  | .streamStart =>
    let t ← nextToken
    if t.kind != .streamStart then parseFail "did not find expected <stream-start>" t.start
    modify fun p => { p with state := .implicitDocumentStart }
    takeToken
    return ⟨.streamStart, t.start⟩
  | .implicitDocumentStart => parseDocumentStart true
  | .documentStart => parseDocumentStart false
  | .documentContent => parseDocumentContent
  | .documentEnd => parseDocumentEnd
  | .blockNode => parseNode true false
  | .blockSequenceFirstEntry => parseBlockSequenceEntry true
  | .blockSequenceEntry => parseBlockSequenceEntry false
  | .indentlessSequenceEntry => parseIndentlessSequenceEntry
  | .blockMappingFirstKey => parseBlockMappingKey true
  | .blockMappingKey => parseBlockMappingKey false
  | .blockMappingValue => parseBlockMappingValue
  | .flowSequenceFirstEntry => parseFlowSequenceEntry true
  | .flowSequenceEntry => parseFlowSequenceEntry false
  | .flowSequenceEntryMappingKey => parseFlowSequenceEntryMappingKey
  | .flowSequenceEntryMappingValue => parseFlowSequenceEntryMappingValue
  | .flowSequenceEntryMappingEnd => parseFlowSequenceEntryMappingEnd
  | .flowMappingFirstKey => parseFlowMappingKey true
  | .flowMappingKey => parseFlowMappingKey false
  | .flowMappingValue => parseFlowMappingValue false
  | .flowMappingEmptyValue => parseFlowMappingValue true
  | .finished => return ⟨.streamEnd, {}⟩

end TestRig.Yaml
