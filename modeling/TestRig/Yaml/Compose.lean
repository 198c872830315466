import TestRig.Yaml.Parser
import TestRig.Yaml.Node

/-!
Events to nodes. Only the first document of a text is read; what follows its end is not looked
at. A node named by an anchor is registered when it starts, so an alias inside it refers to it
(and is circular), and a later anchor of the same name replaces it for the aliases after.
Project files read keys written as symbols, `:name`, as the name alone (`composeWith`).
-/

namespace TestRig.Yaml

/-- The composer: the parser, the event looked at and not yet taken, and the anchors. -/
structure Composer where
  parser : Parser
  pending : Option Event := none
  anchors : List (String × Nat) := []
  building : List (Nat × String) := []
  built : List (Nat × Node) := []
  nextId : Nat := 0
  symbolKeys : Bool := false
  deriving Inhabited

abbrev ComposeM := StateT Composer (Except String)

def peekEvent : ComposeM Event := do
  let c ← get
  match c.pending with
  | some e => return e
  | none =>
    match nextEvent c.parser with
    | .ok (e, p) =>
      set { c with parser := p, pending := some e }
      return e
    | .error prob => throw prob.message

def takeEvent : ComposeM Event := do
  let e ← peekEvent
  modify fun c => { c with pending := none }
  return e

def infoOf (e : Event) (tag defaultTag anchor : String) : NodeInfo :=
  let line := e.start.line + 1
  let column := e.start.column + 1
  if tag != "" && tag != "!" then { tag := shortTag tag, tagged := true, anchor, line, column }
  else { tag := defaultTag, anchor, line, column }

def openAnchor (name tag : String) : ComposeM (Option Nat) := do
  if name.isEmpty then return none
  let c ← get
  set { c with
    anchors := (name, c.nextId) :: c.anchors.filter (·.1 != name)
    building := (c.nextId, tag) :: c.building
    nextId := c.nextId + 1 }
  return some c.nextId

def closeAnchor (id : Option Nat) (n : Node) : ComposeM Unit :=
  match id with
  | none => pure ()
  | some i => modify fun c => { c with
      built := (i, n) :: c.built
      building := c.building.filter (·.1 != i) }

def dropSymbolColon : Node → Node
  | .scalar info t style =>
    if t.utf8ByteSize > 1 && t.startsWith ":" then .scalar info (String.ofList (t.toList.drop 1)) style
    else .scalar info t style
  | n => n

def settleKey (k : Node) : ComposeM Node := do
  let c ← get
  if !c.symbolKeys then return k
  let k' := dropSymbolColon k
  if k.info.anchor != "" then
    match c.anchors.lookup k.info.anchor with
    | some id => set { c with built := c.built.map fun (i, n) => if i == id then (i, k') else (i, n) }
    | none => pure ()
  return k'

def Event.closes (e : Event) : Bool :=
  match e.kind with
  | .sequenceEnd | .mappingEnd | .documentEnd | .streamEnd => true
  | _ => false

def composeNode : Nat → ComposeM Node
  | 0 => throw "yaml: document is too deeply nested"
  | fuel + 1 => do
    let e ← takeEvent
    match e.kind with
    | .scalar anchor tag text style =>
      let defaultTag := if style == .plain then (if text == "<<" then "!!merge" else "") else "!!str"
      let m := infoOf e tag defaultTag anchor
      let m := if m.tag == "" then { m with tag := plainTag text } else m
      let n := Node.scalar m text style
      let id ← openAnchor anchor m.tag
      closeAnchor id n
      return n
    | .aliasOf name =>
      let c ← get
      match c.anchors.lookup name with
      | none => throw ("yaml: unknown anchor '" ++ name ++ "' referenced")
      | some id =>
        let m := infoOf e "" "" ""
        match c.built.lookup id with
        | some target => return .aliasOf m name (some target) target.shortTag
        | none => return .aliasOf m name none ((c.building.lookup id).getD "")
    | .sequenceStart anchor tag flow =>
      let m := infoOf e tag "!!seq" anchor
      let id ← openAnchor anchor m.tag
      let items ← items fuel []
      let _ ← takeEvent
      let n := Node.seq m items flow
      closeAnchor id n
      return n
    | .mappingStart anchor tag flow =>
      let m := infoOf e tag "!!map" anchor
      let id ← openAnchor anchor m.tag
      let entries ← entries fuel []
      let _ ← takeEvent
      let n := Node.map m entries flow
      closeAnchor id n
      return n
    | _ => throw "yaml: attempted to go past the end of stream; corrupted value?"
where
  items : Nat → List Node → ComposeM (List Node)
    | 0, acc => pure acc.reverse
    | fuel + 1, acc => do
      if (← peekEvent).closes then return acc.reverse
      let n ← composeNode fuel
      items fuel (n :: acc)
  entries : Nat → List (Node × Node) → ComposeM (List (Node × Node))
    | 0, acc => pure acc.reverse
    | fuel + 1, acc => do
      if (← peekEvent).closes then return acc.reverse
      let k ← settleKey (← composeNode fuel)
      let v ← composeNode fuel
      entries fuel ((k, v) :: acc)

def composeWith (symbolKeys : Bool) (text : String) : Except String (Option Node) :=
  match Scanner.start text with
  | .error p => .error p.message
  | .ok s =>
    let fuel := 4 * s.input.size + 64
    let run : ComposeM (Option Node) := do
      let _ ← takeEvent
      let e ← peekEvent
      match e.kind with
      | .documentStart =>
        let _ ← takeEvent
        let n ← composeNode fuel
        let _ ← takeEvent
        return some n
      | _ => return none
    (run.run' { parser := { scanner := s }, symbolKeys })

def compose (text : String) : Except String (Option Node) := composeWith false text

end TestRig.Yaml
