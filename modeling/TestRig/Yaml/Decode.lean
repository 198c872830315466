import TestRig.Yaml.Node
import TestRig.Yaml.Loose
import TestRig.Text.Quoted
import TestRig.Text.Base64

/-!
Reading nodes into typed values. A `Target` says how a node becomes a value of a type; targets
for strings, integers, booleans, durations, untyped values, lists, string-keyed maps, records
and optional values are built here, and readers of a particular shape are written as targets of
their own.
-/

namespace TestRig.Yaml

open TestRig.Number TestRig.Text

/-- The state of reading: the mismatches found, the keys already set while merging, and the
count of reading steps. -/
structure DecodeState where
  errors : List String := []
  merged : Option (List Loose) := none
  steps : Nat := 0
  aliasSteps : Nat := 0
  aliasDepth : Nat := 0
  deriving Inhabited

abbrev DecodeM := StateT DecodeState (Except String)

def decodeFail (msg : String) : DecodeM α := throw ("yaml: " ++ msg)

def aliasingExcessive (steps aliasSteps : Nat) : Bool :=
  aliasSteps > 100 && steps > 1000 &&
    (if steps ≤ 400000 then 100 * aliasSteps > 99 * steps
     else if steps ≥ 4000000 then 10 * aliasSteps > steps
     else 100 * 3600000 * aliasSteps > steps * (99 * 3600000 - 89 * (steps - 400000)))

def countStep : DecodeM Unit := do
  let st ← get
  let st := { st with steps := st.steps + 1,
                      aliasSteps := if st.aliasDepth > 0 then st.aliasSteps + 1 else st.aliasSteps }
  set st
  if aliasingExcessive st.steps st.aliasSteps then decodeFail "document contains excessive aliasing"

def inAlias (m : DecodeM α) : DecodeM α := do
  modify fun st => { st with aliasDepth := st.aliasDepth + 1 }
  let r ← m
  modify fun st => { st with aliasDepth := st.aliasDepth - 1 }
  return r

def countVisit (n : Node) : DecodeM Unit := do
  countStep
  match n with
  | .aliasOf _ _ (some _) _ => inAlias countStep
  | _ => pure ()

def bytePrefixLossy (s : String) (k : Nat) : String :=
  go s.toList k ""
where
  go : List Char → Nat → String → String
    | [], _, acc => acc
    | c :: rest, k, acc =>
      if c.utf8Size ≤ k then go rest (k - c.utf8Size) (acc.push c)
      else String.ofList (acc.toList ++ List.replicate k '�')

def mismatch (n : Node) (tag : String) (target : String) : DecodeM Unit := do
  let tag := if n.info.tag != "" then n.info.tag else tag
  let shown :=
    if tag == "!!seq" || tag == "!!map" then ""
    else
      let v := n.text
      if v.utf8ByteSize > 10 then " `" ++ bytePrefixLossy v 7 ++ "...`" else " `" ++ v ++ "`"
  modify fun st => { st with errors := st.errors ++
    ["line " ++ toString n.line ++ ": cannot unmarshal " ++ shortTag tag ++ shown ++ " into " ++ target] }

def resolveNode (n : Node) : DecodeM (String × Resolved) :=
  if n.isIndicatedString then pure ("!!str", .str n.text)
  else match resolve n.info.tag n.text with
    | .ok ("!!binary", _) =>
      match decodeBase64 n.text with
      | some bytes => pure ("!!binary", .str (utf8Lossy bytes ""))
      | none => decodeFail "!!binary value contains invalid base64 data"
    | .ok r => pure r
    | .error e => decodeFail e

structure Target (α : Type) where
  name : String
  zero : α
  ofNull : Option α := none
  /-- Reads a node that is neither an alias nor null, given the current value; none when it
  does not fit (and has been reported). -/
  read : Nat → Node → α → DecodeM (Option α)
  raw : Bool := false

def Target.decode (t : Target α) : Nat → Node → α → DecodeM (Option α)
  | 0, _, _ => decodeFail "document contains excessive aliasing"
  | fuel + 1, n, cur =>
    if t.raw then t.read fuel n cur
    else do
      countStep
      match n with
      | .aliasOf _ name target _ =>
        match target with
        | some tn => inAlias (t.decode fuel tn cur)
        | none => decodeFail ("anchor '" ++ name ++ "' value contains itself")
      | .scalar .. => do
        let (_, r) ← resolveNode n
        if r == .null then pure t.ofNull else t.read fuel n cur
      | _ => t.read fuel n cur

/-! ### Scalars -/

def duplicateKeys (entries : List (Node × Node)) : DecodeM Bool := do
  let found := pairs (entries.map (·.1))
  for (later, first) in found do
    modify fun st => { st with errors := st.errors ++
      ["line " ++ toString later.line ++ ": mapping key " ++ quote later.text ++
        " already defined at line " ++ toString first.line] }
  return !found.isEmpty
where
  pairs : List Node → List (Node × Node)
    | [] => []
    | k :: rest => (rest.filterMap fun k2 =>
        if k.kindIndex == k2.kindIndex && k.text == k2.text then some (k2, k) else none) ++ pairs rest

def kindMismatch (n : Node) (target : String) : DecodeM (Option α) := do
  match n with
  | .seq .. => mismatch n "!!seq" target
  | .map _ entries _ => if !(← duplicateKeys entries) then mismatch n "!!map" target
  | .scalar .. =>
    let (tag, _) ← resolveNode n
    mismatch n tag target
  | .aliasOf .. => pure ()
  return none

def Target.string (name : String := "string") : Target String where
  name := name
  zero := ""
  read _ n _ := match n with
    | .scalar _ t _ => do
      match ← resolveNode n with
      | ("!!binary", .str s) => pure (some s)
      | _ => pure (some t)
    | _ => kindMismatch n name

def int64Limit : Int := Int.pow 2 63

def truncateToInt64 : Numeric → Int
  | .finite b =>
    let (n, d) := b.ratio
    let v : Int := if b.neg then -((n / d : Nat) : Int) else ((n / d : Nat) : Int)
    if v ≥ int64Limit || v < -int64Limit then -int64Limit else v
  | .infinite _ => -int64Limit

def atMostInt64 : Numeric → Bool
  | .finite b => b.neg || (let (n, d) := b.ratio; n ≤ Nat.pow 2 63 * d)
  | .infinite neg => neg

def Target.int (name : String := "int") : Target Int where
  name := name
  zero := 0
  read _ n _ := match n with
    | .scalar .. => do
      let (tag, r) ← resolveNode n
      match r with
      | .int i => if i < int64Limit then return some i else mismatch n tag name; return none
      | .float (.num f) => if atMostInt64 f then return some (truncateToInt64 f) else mismatch n tag name; return none
      | _ =>
        mismatch n tag name
        return none
    | _ => kindMismatch n name

def Target.bool : Target Bool where
  name := "bool"
  zero := false
  read _ n _ := match n with
    | .scalar .. => do
      let (tag, r) ← resolveNode n
      match r with
      | .bool b => return some b
      | .str s =>
        if ["y", "Y", "yes", "Yes", "YES", "on", "On", "ON"].contains s then return some true
        else if ["n", "N", "no", "No", "NO", "off", "Off", "OFF"].contains s then return some false
        else
          mismatch n tag "bool"
          return none
      | _ =>
        mismatch n tag "bool"
        return none
    | _ => kindMismatch n "bool"

def durationUnit (u : String) : Option Nat :=
  if u == "ns" then some 1 else if u == "us" || u == "µs" || u == "μs" then some 1000
  else if u == "ms" then some 1000000 else if u == "s" then some 1000000000
  else if u == "m" then some 60000000000 else if u == "h" then some 3600000000000 else none

def readDuration (s : String) : Option Int :=
  let cs := s.toList
  let (neg, cs) : Bool × List Char := match cs with
    | '-' :: r => (true, r)
    | '+' :: r => (false, r)
    | r => (false, r)
  if cs == ['0'] then some 0
  else if cs.isEmpty then none
  else
    let rec go : Nat → List Char → Nat × Nat → Option (Nat × Nat)
      | 0, _, acc => some acc
      | _, [], acc => some acc
      | n + 1, cs, (num, den) =>
        let whole := cs.takeWhile isDigit
        let r := cs.drop whole.length
        let (frac, r) : List Char × List Char := match r with
          | '.' :: t => (t.takeWhile isDigit, t.drop (t.takeWhile isDigit).length)
          | t => ([], t)
        if whole.isEmpty && frac.isEmpty then none
        else
          let u := r.takeWhile fun c => !isDigit c && c != '.'
          match durationUnit (String.ofList u) with
          | none => none
          | some scale =>
            let fd := Nat.pow 10 frac.length
            let v := (digitsValue whole * fd + digitsValue frac) * scale
            -- sum num/den + v/fd
            go n (r.drop u.length) (num * fd + v * den, den * fd)
    match go (cs.length + 1) cs (0, 1) with
    | some (num, den) =>
      let v : Int := num / den
      if v > Int.pow 2 63 - 1 then none else some (if neg then -v else v)
    | none => none

def Target.duration : Target Int where
  name := "time.Duration"
  zero := 0
  read _ n _ := match n with
    | .scalar .. => do
      let (tag, r) ← resolveNode n
      match r with
      | .str s =>
        match readDuration s with
        | some v => return some v
        | none =>
          mismatch n tag "time.Duration"
          return none
      | _ =>
        mismatch n tag "time.Duration"
        return none
    | _ => kindMismatch n "time.Duration"

/-! ### Untyped values and mappings -/

def circular (name : String) : DecodeM α :=
  decodeFail ("anchor '" ++ name ++ "' value contains itself")

def tooDeep : DecodeM α := decodeFail "document contains excessive aliasing"

/-- How the pairs of a mapping go into a value: keys of type κ, values put into σ. -/
structure MapSink (σ κ : Type) where
  key : Node → DecodeM (Option κ)
  keyValue : κ → Loose
  anyKey : Node → DecodeM (Option Loose)
  /-- Puts a pair in, given the key's node, the key, the value's node and the keys of this
  mapping already put. -/
  put : Node → κ → Node → List κ → σ → DecodeM σ

def mergeSources (v : Node) : List (Option Node) :=
  match v with
  | .map .. => [some v]
  | .aliasOf _ _ t _ => [source t v]
  | .seq _ items _ => items.map fun i => match i with
    | .map .. => some i
    | .aliasOf _ _ t _ => source t i
    | _ => none
  | _ => [none]
where
  /-- An alias is a source when it names a mapping or itself. -/
  source (t : Option Node) (i : Node) : Option Node :=
    match t with
    | some (.map ..) => some i
    | some _ => none
    | none => some i

def MapSink.fill (s : MapSink σ κ) : Nat → List (Node × Node) → σ → DecodeM σ
  | 0, _, _ => tooDeep
  | fuel + 1, entries, acc => do
    let keep := (← get).merged
    modify fun st => { st with merged := none }
    let (acc, keep, mergeNode) ← pairsInto entries keep acc [] none
    modify fun st => { st with merged := keep }
    match mergeNode with
    | none => return acc
    | some mv =>
      let keys ← match keep with
        | some ks => pure ks
        | none => entries.filterMapM fun (k, _) => s.anyKey k
      modify fun st => { st with merged := some keys }
      let acc ← (mergeSources mv).foldlM (fun acc src => do
        match src with
        | none => decodeFail "map merge requires map or sequence of maps as the value"
        | some m =>
          let merge : DecodeM σ := do
            match m.deref with
            | .map _ es _ =>
              if ← duplicateKeys es then pure acc else s.fill fuel es acc
            | _ => circular m.text
          countStep
          match m with
          | .aliasOf .. => inAlias (do countStep; merge)
          | _ => merge) acc
      if keep.isNone then modify fun st => { st with merged := none }
      return acc
where
  /-- Puts the pairs in order, skipping keys that merging keeps; returns the last merge key's
  value. -/
  pairsInto : List (Node × Node) → Option (List Loose) → σ → List κ → Option Node →
      DecodeM (σ × Option (List Loose) × Option Node)
    | [], keep, acc, _, mergeNode => pure (acc, keep, mergeNode)
    | (k, v) :: rest, keep, acc, done, mergeNode => do
      if k.isMergeKey then pairsInto rest keep acc done (some v)
      else
        match ← s.key k with
        | none => pairsInto rest keep acc done mergeNode
        | some key =>
          let kv := s.keyValue key
          match keep with
          | some ks =>
            if ks.any (·.same kv) then pairsInto rest keep acc done mergeNode
            else
              let acc ← s.put k key v done acc
              pairsInto rest (some (ks ++ [kv])) acc (key :: done) mergeNode
          | none =>
            let acc ← s.put k key v done acc
            pairsInto rest none acc (key :: done) mergeNode

def setKey [BEq κ] (xs : List (κ × β)) (k : κ) (v : β) : List (κ × β) :=
  if xs.any (·.1 == k) then xs.map fun p => if p.1 == k then (k, v) else p else xs ++ [(k, v)]

def setLooseKey (xs : List (Loose × Loose)) (k v : Loose) : List (Loose × Loose) :=
  if xs.any (·.1.same k) then xs.map fun p => if p.1.same k then (k, v) else p else xs ++ [(k, v)]

def stringKeyed (entries : List (Node × Node)) : Bool :=
  entries.all fun (k, _) => k.shortTag == "!!str" || k.shortTag == "!!merge"

def readLoose : Nat → Node → DecodeM (Option Loose)
  | 0, _ => tooDeep
  | fuel + 1, n => do
    countStep
    match n with
    | .aliasOf _ name target _ =>
      match target with
      | some t => inAlias (readLoose fuel t)
      | none => circular name
    | .scalar .. => do
      let (_, r) ← resolveNode n
      return some (Loose.ofResolved r)
    | .seq _ items _ => do
      return some (.list (← items.filterMapM (readLoose fuel)))
    | .map _ entries _ => do
      if ← duplicateKeys entries then return none
      let value (v : Node) : DecodeM Loose := do return (← readLoose fuel v).getD .null
      if stringKeyed entries then
        let sink : MapSink (List (String × Loose)) String := {
          key := fun k => do
            countVisit k
            match k.deref with
            | .scalar _ t _ => return some t
            | k => kindMismatch k "string"
          keyValue := .str
          anyKey := readLoose fuel
          put := fun _ key v _ acc => do return setKey acc key (← value v) }
        return some (.dict (← sink.fill fuel entries []))
      else
        let sink : MapSink (List (Loose × Loose)) Loose := {
          key := readLoose fuel
          keyValue := id
          anyKey := readLoose fuel
          put := fun _ key v _ acc => do
            match key with
            | .list _ | .dict _ | .table _ => decodeFail "invalid map key"
            | _ => return setLooseKey acc key (← value v) }
        return some (.table (← sink.fill fuel entries []))

def Target.loose : Target Loose where
  name := "interface \x7b\x7d"
  zero := .null
  ofNull := some .null
  raw := true
  read fuel n _ := readLoose fuel n

def Target.list (elem : Target β) : Target (List β) where
  name := "[]" ++ elem.name
  zero := []
  ofNull := some []
  read fuel n _ := match n with
    | .seq _ items _ => do
      return some (← items.filterMapM fun i => elem.decode fuel i elem.zero)
    | _ => kindMismatch n ("[]" ++ elem.name)

def Target.optional (t : Target β) : Target (Option β) where
  name := "*" ++ t.name
  zero := none
  ofNull := some none
  read fuel n cur := do
    return (← t.read fuel n (cur.getD t.zero)).map some

def Target.dict (elem : Target β) : Target (List (String × β)) where
  name := "map[string]" ++ elem.name
  zero := []
  ofNull := some []
  read fuel n cur := match n with
    | .map _ entries _ => do
      if ← duplicateKeys entries then return none
      let sink : MapSink (List (String × β)) String := {
        key := fun k => (Target.string).decode fuel k ""
        keyValue := .str
        anyKey := readLoose fuel
        put := fun _ key v _ acc => do
          match ← elem.decode fuel v elem.zero with
          | some val => return setKey acc key val
          | none =>
            return if v.isNull && (acc.lookup key).isNone then acc ++ [(key, elem.zero)] else acc }
      return some (← sink.fill fuel entries cur)
    | _ => kindMismatch n ("map[string]" ++ elem.name)

/-- A field of a record: its key and how its node updates the record. -/
structure Field (α : Type) where
  key : String
  update : Nat → Node → α → DecodeM α

def Field.of (key : String) (t : Target β) (get : α → β) (put : α → β → α) : Field α where
  key := key
  update fuel n r := do
    match ← t.decode fuel n (get r) with
    | some v => return put r v
    | none => return r

def Target.record (name : String) (zero : α) (fields : List (Field α)) : Target α where
  name := name
  zero := zero
  read fuel n cur := match n with
    | .map _ entries _ => do
      if ← duplicateKeys entries then return none
      let sink : MapSink α String := {
        key := fun k => (Target.string).decode fuel k ""
        keyValue := .str
        anyKey := readLoose fuel
        put := fun kn key v done acc => do
          match fields.find? (·.key == key) with
          | none => return acc
          | some f =>
            if done.contains key then
              modify fun st => { st with errors := st.errors ++
                ["line " ++ toString kn.line ++ ": field " ++ key ++ " already set in type " ++ name] }
              return acc
            else f.update fuel v acc }
      return some (← sink.fill fuel entries cur)
    | _ => kindMismatch n name

def Target.custom (name : String) (zero : α) (read : Node → Except String α) : Target α where
  name := name
  zero := zero
  read _ n _ := match read n with
    | .ok v => pure (some v)
    | .error e => throw e

def Target.node : Target (Option Node) where
  name := "yaml.Node"
  zero := none
  raw := true
  read _ n _ := do
    countStep
    return some (some n)

def decodeFrom (steps : Nat) (t : Target α) (root : Node) (cur : α) : Except String α :=
  match (t.decode 100000 root cur).run { steps } with
  | .error e => .error e
  | .ok (v, st) =>
    if st.errors.isEmpty then .ok (v.getD cur)
    else .error ("yaml: unmarshal errors:\n  " ++ "\n  ".intercalate st.errors)

def decodeWith (t : Target α) (root : Node) (cur : α) : Except String α := decodeFrom 1 t root cur

def decodeNode (t : Target α) (n : Node) (cur : α) : Except String α := decodeFrom 0 t n cur

end TestRig.Yaml
