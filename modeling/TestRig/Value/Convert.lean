import TestRig.Value.Basic
import TestRig.Number.Read
import TestRig.Text.Quoted

/-!
Conversion of values between types. Numbers and booleans convert to strings, and strings to
numbers and booleans when their text is one; sequences convert element by element to lists
and sets, objects and maps attribute by attribute to maps. Null and unknown values convert to
null and unknown values of the wanted type.
-/

namespace TestRig

open TestRig.Number TestRig.Text

/-! ### Names of types -/

def Ty.constraintName : Ty → String
  | .dynamic => "any type"
  | .list .dynamic => "list of any single type"
  | .set .dynamic => "set of any single type"
  | .map .dynamic => "map of any single type"
  | t => t.friendlyName

def Ty.isCollection : Ty → Bool
  | .list _ | .set _ | .map _ => true
  | _ => false

def Ty.elementType : Ty → Ty
  | .list e | .set e | .map e => e
  | _ => .dynamic

/-! ### Which conversions exist, and unification -/

def attrType? (attrs : List (String × Ty)) (k : String) : Option Ty :=
  (attrs.find? (·.1 == k)).map (·.2)

/-- How two types compare as candidates for the unified type: negative when the first is the
more general, positive when the second is, zero when neither. -/
def compareTypes : Nat → Ty → Ty → Int
  | 0, _, _ => 0
  | n + 1, a, b =>
    if Ty.beq a .dynamic || Ty.beq b .dynamic then
      if !Ty.beq a .dynamic then -1 else if !Ty.beq b .dynamic then 1 else 0
    else if a.isPrimitive && b.isPrimitive && (Ty.beq a .string || Ty.beq b .string) then
      if !Ty.beq a .string then 1 else if !Ty.beq b .string then -1 else 0
    else match a, b with
      | .list x, .list y | .set x, .set y | .map x, .map y => compareTypes n x y
      | _, _ =>
        let swapped := match a, b with
          | .tuple _, .list _ | .object _, .map _ | .set _, .tuple _ | .set _, .list _ => true
          | _, _ => false
        let (a, b) := if swapped then (b, a) else (a, b)
        let sign : Int := if swapped then -1 else 1
        let lean (cmps : List Int) : Int :=
          let up := cmps.any (· < 0)
          let down := cmps.any (· > 0)
          if up && down then 0 else if up then -sign else if down then sign else 0
        match a, b with
        | .tuple _, .set _ | .list _, .set _ | .list _, .tuple _ | .map _, .object _ => -sign
        | .object xs, .object ys =>
          if xs.length != ys.length then 0
          else if xs.any (fun (k, _) => (attrType? ys k).isNone) then 0
          else lean (xs.map fun (k, t) => compareTypes n t ((attrType? ys k).getD .dynamic))
        | .tuple xs, .tuple ys =>
          if xs.length != ys.length then 0
          else lean ((xs.zip ys).map fun (x, y) => compareTypes n x y)
        | _, _ => 0

def addEdge (edges : Array (List Nat)) (src dst : Nat) : Array (List Nat) :=
  edges.modify src (· ++ [dst])

/-- Takes nodes from the front of the queue, releasing the nodes after each once all their
in-edges are taken; the fuel bounds the number of nodes. -/
def drainQueue (edges : Array (List Nat)) : Nat → List Nat → Array Nat → List Nat → List Nat
  | 0, _, _, out => out.reverse
  | _ + 1, [], _, out => out.reverse
  | fuel + 1, i :: queue, deg, out =>
    let (deg, released) := (edges[i]?.getD []).foldl (fun (deg, rel) j =>
      let d := deg[j]?.getD 0 - 1
      (deg.set! j d, if d == 0 then rel ++ [j] else rel)) (deg, [])
    drainQueue edges fuel (queue ++ released) deg (i :: out)

/-- The order in which types are tried as the unified type: every type before those it is more
general than, as positions in the list. -/
def preferenceOrder (depth : Nat) (tys : List Ty) : List Nat :=
  let arr := tys.toArray
  let n := arr.size
  let pairs := (List.range n).flatMap fun i => ((List.range n).filter (i < ·)).map fun j => (i, j)
  let edges := pairs.foldl (fun edges (i, j) =>
    let c := compareTypes depth (arr[i]?.getD .dynamic) (arr[j]?.getD .dynamic)
    if c < 0 then addEdge edges i j else if c > 0 then addEdge edges j i else edges)
    (Array.replicate n [])
  let deg := edges.foldl (fun deg outs => outs.foldl (fun deg j => deg.modify j (· + 1)) deg)
    (Array.replicate n 0)
  let start := (List.range n).filter fun i => deg[i]?.getD 0 == 0
  let order := drainQueue edges n start deg []
  order ++ List.replicate (n - order.length) 0

mutual
/-- A conversion from values of one type to the other exists, strings to numbers and booleans
included. -/
def convertibleAt : Nat → Ty → Ty → Bool
  | 0, _, _ => false
  | n + 1, a, b =>
    match a, b with
    | _, .dynamic => true
    | .dynamic, _ => true
    | .string, .string | .number, .number | .bool, .bool => true
    | .number, .string | .bool, .string | .string, .number | .string, .bool => true
    | .object as, .object bs =>
      bs.all fun (k, t) => match attrType? as k with
        | some s => Ty.beq s t || convertibleAt n s t
        | none => false
    | .tuple ts, .tuple us =>
      ts.length == us.length && (ts.zip us).all fun (t, u) => Ty.beq t u || convertibleAt n t u
    | .list a, .list e | .set a, .list e | .list a, .set e | .set a, .set e | .map a, .map e =>
      Ty.beq a e || convertibleAt n a e
    | .tuple ts, .list e | .tuple ts, .set e => elementsConvert n ts e true
    | .object as, .map e => elementsConvert n (as.map (·.2)) e false
    | .map e, .object bs => bs.all fun (_, t) => Ty.beq e t || convertibleAt n e t
    | _, _ => false

/-- The element types of a sequence or object all convert to one element type. -/
def elementsConvert : Nat → List Ty → Ty → Bool → Bool
  | 0, _, _, _ => false
  | n + 1, ts, e, sequence =>
    if ts.isEmpty then true
    else
      let target := if Ty.beq e .dynamic then unifyAt n ts else some e
      match target with
      | none => false
      | some t =>
        if sequence && Ty.beq e .dynamic && Ty.beq t .dynamic then ts.all (Ty.beq · .dynamic)
        else ts.all fun s => Ty.beq s t || convertibleAt n s t

def unifyAt : Nat → List Ty → Option Ty
  | 0, _ => none
  | n + 1, tys =>
    if tys.isEmpty then none
    else
      let count (p : Ty → Bool) := (tys.filter p).length
      let maps := count fun t => t matches .map _
      let lists := count fun t => t matches .list _
      let sets := count fun t => t matches .set _
      let objects := count fun t => t matches .object _
      let tuples := count fun t => t matches .tuple _
      let dyns := count fun t => t matches .dynamic
      let len := tys.length
      let fitsAll (r : Ty) : Bool := tys.all fun t => Ty.beq t r || convertibleAt n t r
      let collection (mk : Ty → Ty) : Option Ty :=
        if dyns > 0 then some .dynamic
        else do
          let e ← unifyAt n (tys.map Ty.elementType)
          if fitsAll (mk e) then some (mk e) else none
      let asMap : Option Ty := do
        let e ← unifyAt n (tys.flatMap fun t => match t with
          | .map e => [e]
          | .object as => as.map (·.2)
          | _ => [])
        if fitsAll (.map e) then some (.map e) else none
      let asList : Option Ty := do
        let e ← unifyAt n (tys.flatMap fun t => match t with
          | .list e => [e]
          | .tuple ts => ts
          | _ => [])
        if fitsAll (.list e) then some (.list e) else none
      let general : Option Ty :=
        let arr := tys.toArray
        ((preferenceOrder n tys).map fun i => arr[i]?.getD .dynamic).find? fun want =>
          tys.all fun t => Ty.beq t want || convertibleAt n t want
      if maps > 0 && maps + dyns == len then collection .map
      else if maps > 0 && maps + objects + dyns == len then
        match asMap with
        | some t => some t
        | none => general
      else if lists > 0 && lists + dyns == len then collection .list
      else if lists > 0 && lists + tuples + dyns == len then
        match asList with
        | some t => some t
        | none => general
      else if sets > 0 && sets + dyns == len then collection .set
      else if objects > 0 && objects + dyns == len then
        if dyns > 0 then some .dynamic
        else
          let attrsOf (t : Ty) : List (String × Ty) := match t with
            | .object as => as
            | _ => []
          let first := attrsOf (tys.headD .dynamic)
          let sameNames := tys.all fun t =>
            let as := attrsOf t
            as.length == first.length && as.all fun (k, _) => (attrType? first k).isSome
          let toMap : Option Ty := do
            let e ← unifyAt n (tys.flatMap fun t => (attrsOf t).map (·.2))
            if fitsAll (.map e) then some (.map e) else none
          if !sameNames then toMap
          else
            match first.mapM (fun (k, _) => (unifyAt n (tys.map fun t =>
                ((attrType? (attrsOf t) k).getD .dynamic))).map fun u => (k, u)) with
            | none => none
            | some attrs => if fitsAll (.object attrs) then some (.object attrs) else toMap
      else if tuples > 0 && tuples + dyns == len then
        if dyns > 0 then some .dynamic
        else
          let elemsOf (t : Ty) : List Ty := match t with
            | .tuple ts => ts
            | _ => []
          let first := elemsOf (tys.headD .dynamic)
          let toList : Option Ty := do
            let e ← unifyAt n (tys.flatMap elemsOf)
            if fitsAll (.list e) then some (.list e) else none
          if !(tys.all fun t => (elemsOf t).length == first.length) then toList
          else
            match (List.range first.length).mapM (fun i =>
                unifyAt n (tys.map fun t => (elemsOf t).getD i .dynamic)) with
            | none => none
            | some es => if fitsAll (.tuple es) then some (.tuple es) else toList
      else if objects > 0 && tuples > 0 then none
      else general
end

def typeDepth : Nat := 64

def Ty.convertible (a b : Ty) : Bool := convertibleAt typeDepth a b

/-- A type that values of all the given types convert to, if there is one. -/
def unifyTypes (tys : List Ty) : Option Ty := unifyAt typeDepth tys

/-! ### Mismatch messages -/

/-- The first element type, by position, with no conversion to a wanted type. -/
def firstUnconvertible : List Ty → Ty → Nat → Option (Nat × Ty)
  | [], _, _ => none
  | t :: ts, e, i => if Ty.convertible t e then firstUnconvertible ts e (i + 1) else some (i, t)

def mismatchMessage (got want : Ty) : String :=
  go 8 got want
where
  /-- The message, looking into element types to a bounded depth. -/
  go : Nat → Ty → Ty → String
    | 0, _, want => want.constraintName ++ " required"
    | fuel + 1, got, want =>
      match got, want with
      | .tuple _, .list .dynamic => "all list elements must have the same type"
      | .tuple _, .set .dynamic => "all set elements must have the same type"
      | .object _, .map .dynamic => "all map elements must have the same type"
      | .tuple ts, .list e | .tuple ts, .set e =>
        match firstUnconvertible ts e 0 with
        | some (i, t) => "element " ++ toString i ++ ": " ++ go fuel t e
        | none => "all elements must be " ++ e.constraintName
      | .object as, .map e =>
        match as.find? (fun (_, t) => !Ty.convertible t e) with
        | some (n, t) => "element " ++ quote n ++ ": " ++ go fuel t e
        | none => "all elements must be " ++ e.constraintName
      | .object _, w | .tuple _, w =>
        if w.isCollection then w.constraintName ++ " required"
        else want.constraintName ++ " required, but have " ++ got.friendlyName
      | g, w =>
        if g.isCollection && w.isCollection then
          match g, w with
          | .list a, .list e | .set a, .list e | .list a, .set e | .set a, .set e =>
            "incorrect " ++ (if w matches .list _ then "list" else "set") ++ " element type: " ++
              go fuel a e
          | .map a, .map e => "incorrect map element type: " ++ go fuel a e
          | _, _ => w.constraintName ++ " required"
        else want.constraintName ++ " required, but have " ++ got.friendlyName

/-! ### Converting values -/

def numberOfString (s : String) : Option Numeric := Numeric.read? s 512

def boolOfString (s : String) : Except String Value :=
  if s == "true" || s == "1" then .ok (.bool true)
  else if s == "false" || s == "0" then .ok (.bool false)
  else if toLowerAscii s == "true" then
    .error "a bool is required; to convert from string, use lowercase \"true\""
  else if toLowerAscii s == "false" then
    .error "a bool is required; to convert from string, use lowercase \"false\""
  else .error "a bool is required"
where
  toLowerAscii (s : String) : String :=
    String.ofList (s.toList.map fun c => if 'A' ≤ c && c ≤ 'Z' then Char.ofNat (c.toNat + 32) else c)

def boolText (b : Bool) : String := if b then "true" else "false"

/-- The element type a sequence or object converts to for a wanted element type: the wanted one,
or for the dynamic type the unified type of the elements. -/
def elementTarget (tys : List Ty) (e : Ty) : Ty :=
  if Ty.beq e .dynamic then (unifyTypes tys).getD .dynamic else e

/-- The element type a collection converts to: the wanted one, or its own for the dynamic
type. -/
def keptElement (own e : Ty) : Ty :=
  if Ty.beq e .dynamic then own else e

mutual
def Value.convert (v : Value) (want : Ty) : Except String Value :=
  if want matches .dynamic then .ok v
  else if Ty.beq v.ty want then .ok v
  else if !Ty.convertible v.ty want then .error (mismatchMessage v.ty want)
  else match v with
    | .null _ => .ok (.null want)
    | .unknown _ => .ok (.unknown want)
    | .str s =>
      match want with
      | .number => match numberOfString s with
        | some n => .ok (.num n)
        | none => .error "a number is required"
      | .bool => boolOfString s
      | _ => .ok v
    | .num n => if want matches .string then .ok (.str n.fixedText) else .ok v
    | .bool b => if want matches .string then .ok (.str (boolText b)) else .ok v
    | .tuple items =>
      match want with
      | .list e =>
        let e := elementTarget (Value.tys items) e
        return .list e (← convertAll items e)
      | .set e =>
        let e := elementTarget (Value.tys items) e
        return .set e (← convertAll items e)
      | .tuple ts => return .tuple (← convertEach items ts)
      | _ => .ok v
    | .list a items | .set a items =>
      match want with
      | .list e =>
        let e := keptElement a e
        return .list e (← convertAll items e)
      | .set e =>
        let e := keptElement a e
        return .set e (← convertAll items e)
      | _ => .ok v
    | .map a entries =>
      match want with
      | .map e =>
        let e := keptElement a e
        return .map e (← convertEntries entries e)
      | .object ts => do
        let kept ← convertPicked entries ts
        match ts.find? (fun (k, _) => (kept.find? (·.1 == k)).isNone) with
        | some (k, _) => .error ("map has no element for required attribute " ++ quote k)
        | none => .ok (.object kept)
      | _ => .ok v
    | .object attrs =>
      match want with
      | .map e =>
        let e := elementTarget (Value.attrTys attrs).unzip.2 e
        return .map e (← convertEntries attrs e)
      | .object ts => return .object (← convertPicked attrs ts)
      | _ => .ok v

def convertAll : List Value → Ty → Except String (List Value)
  | [], _ => .ok []
  | v :: vs, e => return (← v.convert e) :: (← convertAll vs e)

def convertEach : List Value → List Ty → Except String (List Value)
  | v :: vs, t :: ts => return (← v.convert t) :: (← convertEach vs ts)
  | _, _ => .ok []

def convertEntries : List (String × Value) → Ty → Except String (List (String × Value))
  | [], _ => .ok []
  | (k, v) :: r, e => return (k, ← v.convert e) :: (← convertEntries r e)

/-- Converts the named values that have a wanted type to it, dropping the others. -/
def convertPicked : List (String × Value) → List (String × Ty) → Except String (List (String × Value))
  | [], _ => .ok []
  | (k, v) :: r, ts =>
    match attrType? ts k with
    | some t => return (k, ← v.convert t) :: (← convertPicked r ts)
    | none => convertPicked r ts
end

/-! ### Equality -/

mutual
/-- Two known values are equal: nulls are equal to each other only, values of different types
are never equal, and numbers are equal by value. -/
def Value.equals : Value → Value → Bool
  | .null _, .null _ => true
  | .null _, _ | _, .null _ => false
  | .str a, .str b => a == b
  | .num a, .num b => a.compare b == 0
  | .bool a, .bool b => a == b
  | .list a xs, .list b ys | .set a xs, .set b ys => Ty.beq a b && equalsAll xs ys
  | .tuple xs, .tuple ys => equalsAll xs ys
  | .map a xs, .map b ys => Ty.beq a b && equalsEntries xs ys
  | .object xs, .object ys => equalsEntries xs ys
  | _, _ => false

def equalsAll : List Value → List Value → Bool
  | [], [] => true
  | x :: xs, y :: ys => x.equals y && equalsAll xs ys
  | _, _ => false

def equalsEntries : List (String × Value) → List (String × Value) → Bool
  | [], [] => true
  | (k, x) :: xs, (l, y) :: ys => k == l && x.equals y && equalsEntries xs ys
  | _, _ => false
end

end TestRig
