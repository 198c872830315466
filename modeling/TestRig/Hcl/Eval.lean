import TestRig.Hcl.Syntax
import TestRig.Hcl.Template
import TestRig.Value.Convert
import TestRig.Text.Distance

/-!
Evaluation of expressions. An expression is evaluated in an environment of variables: none at
all (references are then refused), or scopes, innermost first, each of which may have
variables. Functions are never available, so a call is always refused. Evaluation goes on
after a problem, with an unknown value in place of the failed part, so that every problem of an
expression is reported; a value computed from an unknown one is unknown.
-/

namespace TestRig.Hcl

open TestRig.Number TestRig.Text

/-! ### Environments -/

/-- The variables an expression is evaluated with: none at all, or scopes (innermost first),
each with or without variables; and the element a splat is at. -/
structure Env where
  scopes : Option (List (Option (List (String × Value)))) := none
  anon : Option Value := none
  deriving Inhabited

def Env.ofVariables (vars : List (String × Value)) : Env := { scopes := some [some vars] }

def Env.child (env : Env) (vars : List (String × Value)) : Env :=
  { env with scopes := some (some vars :: env.scopes.getD []) }

def dynamicValue : Value := .unknown .dynamic

def branchMismatch : Nat → Ty → Ty → String
  | 0, _, _ => "At least one deeply-nested attribute or element is not compatible across both the 'true' and the 'false' value"
  | fuel + 1, yes, no =>
    let plain : String :=
      if yes.friendlyName == no.friendlyName then
        "At least one deeply-nested attribute or element is not compatible across both the 'true' and the 'false' value"
      else "The 'true' value is " ++ yes.friendlyName ++ ", but the 'false' value is " ++ no.friendlyName
    match yes, no with
    | .object as, .object bs =>
      let inYes := as.findSome? fun (k, a) =>
        match attrType? bs k with
        | none => some ("The 'true' value includes object attribute " ++ quote k ++
            ", which is absent in the 'false' value")
        | some b => if Ty.beq a b then none
          else some ("Type mismatch for object attribute " ++ quote k ++ ": " ++ branchMismatch fuel a b)
      let inNo := bs.findSome? fun (k, _) =>
        if (attrType? as k).isNone then
          some ("The 'false' value includes object attribute " ++ quote k ++ ", which is absent in the 'true' value")
        else none
      (inYes <|> inNo).getD plain
    | .tuple as, .tuple bs =>
      if as.length != bs.length then
        "The 'true' tuple has length " ++ toString as.length ++ ", but the 'false' tuple has length " ++
          toString bs.length
      else
        let diff := ((as.zip bs).zipIdx).findSome? fun ((a, b), i) =>
          if Ty.beq a b then none
          else some ("Type mismatch for tuple element " ++ toString i ++ ": " ++ branchMismatch fuel a b)
        diff.getD plain
    | _, _ => plain

/-! ### Steps -/

def getAttr (obj : Value) (name : String) (r : Range) : Except Diagnostic Value :=
  let unsupported (detail : String) := Diagnostic.at r "Unsupported attribute" detail
  match obj with
  | .null _ => .error (Diagnostic.at r "Attempt to get attribute from null value"
      "This value is null, so it does not have any attributes.")
  | .unknown .dynamic => .ok dynamicValue
  | .unknown (.object attrs) =>
    match attrs.lookup (Text.nfc name) with
    | some t => .ok (.unknown t)
    | none => .error (unsupported ("This object does not have an attribute named " ++ quote name ++ "."))
  | .unknown (.map e) => .ok (.unknown e)
  | .object attrs =>
    match attrs.lookup (Text.nfc name) with
    | some v => .ok v
    | none => .error (unsupported ("This object does not have an attribute named " ++ quote name ++ "."))
  | .map _ entries =>
    match entries.lookup (Text.nfc name) with
    | some v => .ok v
    | none => .error (Diagnostic.at r "Missing map element"
        ("This map does not have an element with the key " ++ quote name ++ "."))
  | v =>
    match v.ty with
    | .list (.object attrs) =>
      if (attrs.lookup (Text.nfc name)).isSome then
        .error (unsupported ("Can't access attributes on a list of objects. Did you mean to access attribute " ++
          quote name ++ " for a specific element of the list, or across all elements of the list?"))
      else .error (unsupported "Can't access attributes on a list of objects. Did you mean to access an attribute for a specific element of the list, or across all elements of the list?")
    | .set (.object _) =>
      .error (unsupported "Can't access attributes on a set of objects. Did you mean to access an attribute across all elements of the set?")
    | t =>
      if t.isPrimitive then
        .error (unsupported ("Can't access attributes on a primitive-typed value (" ++ t.friendlyName ++ ")."))
      else .error (unsupported "This value does not have any attributes.")

def invalidIndex (r : Range) (why : String) : Diagnostic :=
  Diagnostic.at r "Invalid index" ("The given key does not identify an element in this collection value" ++ why ++ ".")

def indexValue (coll key : Value) (r : Range) : Except Diagnostic Value :=
  if coll.isNull then .error (Diagnostic.at r "Attempt to index null value"
    "This value is null, so it does not have any indices.")
  else if key.isNull then .error (Diagnostic.at r "Invalid index" "Can't use a null value as an indexing key.")
  else if key.ty matches .dynamic then .ok dynamicValue
  else if coll.ty matches .dynamic then .ok dynamicValue
  else match coll.ty with
    | .list _ | .tuple _ =>
      match key.convert .number with
      | .error e => .error (invalidIndex r (": " ++ e))
      | .ok (.num n) =>
        match coll.elements with
        | some items =>
          if coll.isUnknown then .ok (match coll.ty with | .list e => .unknown e | _ => dynamicValue)
          else if !n.isWhole then
            .error (invalidIndex r ": indexing a sequence requires a whole number, but the given index has a fractional part")
          else
            let i := n.truncated
            if i < 0 then .error (invalidIndex r ": a negative number is not a valid index for a sequence")
            else match items[i.toNat]? with
              | some v => .ok v
              | none =>
                -- only an index just past the end is described
                if i.toNat != items.length then .error (invalidIndex r "")
                else if items.isEmpty then .error (invalidIndex r ": the collection has no elements")
                else .error (invalidIndex r
                  ": the given index is greater than or equal to the length of the collection")
        | none => .ok (match coll.ty with | .list e => .unknown e | _ => dynamicValue)
      | .ok _ => .ok dynamicValue
    | .map e =>
      match key.convert .string with
      | .error err => .error (invalidIndex r (": " ++ err))
      | .ok (.str k) =>
        match coll with
        | .map _ entries =>
          match entries.lookup k with
          | some v => .ok v
          | none => .error (invalidIndex r "")
        | _ => .ok (.unknown e)
      | .ok _ => .ok (.unknown e)
    | .object _ =>
      match key.convert .string with
      | .error err => .error (invalidIndex r (": " ++ err))
      | .ok (.str k) =>
        let byNumber := if key.ty matches .number then
          ". An object only supports looking up attributes by name, not by numeric index" else ""
        match coll with
        | .object attrs =>
          match attrs.lookup k with
          | some v => .ok v
          | none => .error (invalidIndex r byNumber)
        | _ => getAttr coll k r |>.mapError fun _ => invalidIndex r byNumber
      | .ok _ => .ok dynamicValue
    | .set _ => .error (Diagnostic.at r "Invalid index"
        "Elements of a set are identified only by their value and don't have any separate index or key to select with, so it's only possible to perform operations across all elements of the set.")
    | _ => .error (Diagnostic.at r "Invalid index" "This value does not have any indices.")

def Step.apply (v : Value) : Step → Except Diagnostic Value
  | .attr name r => getAttr v name r
  | .index key r => indexValue v key r

def applySteps (v : Value) : List Step → Value × List Diagnostic
  | [] => (v, [])
  | s :: rest =>
    match s.apply v with
    | .ok w => applySteps w rest
    | .error d => (dynamicValue, [d])

def insertSorted (x : String) : List String → List String
  | [] => [x]
  | y :: ys => if x < y then x :: y :: ys else y :: insertSorted x ys

def sortNames (xs : List String) : List String := xs.foldl (fun acc x => insertSorted x acc) []

def nameSuggestion (given : String) (names : List String) : Option String :=
  names.find? fun n => editDistance given n < 3

def lookupReference (env : Env) (root : String) (rootRange : Range) (steps : List Step) :
    Value × List Diagnostic :=
  let notAllowed := Diagnostic.at rootRange "Variables not allowed" "Variables may not be used here."
  match env.scopes with
  | none => (dynamicValue, [notAllowed])
  | some scopes =>
    match scopes.findSome? (fun s => s.bind (·.lookup root)) with
    | some v => applySteps v steps
    | none =>
      if scopes.all Option.isNone then (dynamicValue, [notAllowed])
      else
        let names := sortNames (scopes.flatMap fun s => (s.getD []).map (·.1))
        let hint := match nameSuggestion root names with
          | some n => " Did you mean " ++ quote n ++ "?"
          | none => ""
        (dynamicValue, [Diagnostic.at rootRange "Unknown variable"
          ("There is no variable named " ++ quote root ++ "." ++ hint)])

/-! ### Operators -/

def BinOp.operandType : BinOp → Ty
  | .or | .and => .bool
  | .eq | .ne => .dynamic
  | _ => .number

def BinOp.resultType : BinOp → Ty
  | .add | .sub | .mul | .div | .mod => .number
  | _ => .bool

def BinOp.apply (op : BinOp) (a b : Value) : Except String Value :=
  match op with
  | .eq => if a.isUnknown || b.isUnknown then .ok (.unknown .bool) else .ok (.bool (a.equals b))
  | .ne => if a.isUnknown || b.isUnknown then .ok (.unknown .bool) else .ok (.bool !(a.equals b))
  | _ =>
    if a.isNull || b.isNull then .error "argument must not be null"
    else match a, b with
      | .bool x, .bool y => .ok (.bool (if op == .or then x || y else x && y))
      | .num x, .num y =>
        let arith (f : Numeric → Numeric → Except String Numeric) : Except String Value := (f x y).map .num
        match op with
        | .add => arith Numeric.add
        | .sub => arith Numeric.sub
        | .mul => arith Numeric.mul
        | .div => arith Numeric.div
        | .mod => arith Numeric.mod
        | .gt => .ok (.bool (x.compare y > 0))
        | .ge => .ok (.bool (x.compare y ≥ 0))
        | .lt => .ok (.bool (x.compare y < 0))
        | .le => .ok (.bool (x.compare y ≤ 0))
        | _ => .ok (.unknown op.resultType)
      | _, _ => .ok (.unknown op.resultType)

/-! ### Evaluation -/

def literalKeyName : Expr → Option String
  | .scope root _ [] _ => some root
  | .literal (.bool true) _ => some "true"
  | .literal (.bool false) _ => some "false"
  | .literal (.null .dynamic) _ => some "null"
  | _ => none

def iterationPairs : Value → Option (List (Value × Value))
  | .list _ items | .tuple items => some (items.zipIdx.map fun (v, i) => (Value.ofInt i, v))
  | .set _ items => some (items.map fun v => (v, v))
  | .map _ entries | .object entries => some (entries.map fun (k, v) => (.str k, v))
  | _ => none

def groupByKey : List (String × Value) → List (String × List Value) → List (String × List Value)
  | [], acc => acc
  | (k, v) :: rest, acc =>
    let acc := if acc.any (·.1 == k) then acc.map fun (k', vs) => if k' == k then (k', vs ++ [v]) else (k', vs)
      else acc ++ [(k, [v])]
    groupByKey rest acc

def dedupe : List (String × Value) → List (String × Value) → List String →
    List (String × Value) × List String
  | [], acc, dups => (acc, dups)
  | (k, v) :: rest, acc, dups =>
    if acc.any (·.1 == k) then dedupe rest acc (dups ++ [k]) else dedupe rest (acc ++ [(k, v)]) dups

def joinStrings (r : Range) (items : List Value) (ds : List Diagnostic) : Value × List Diagnostic :=
  go items "" ds
where
  go : List Value → String → List Diagnostic → Value × List Diagnostic
    | [], acc, ds => (.str acc, ds)
    | v :: rest, acc, ds =>
      if v.isNull then go rest acc (ds ++ [Diagnostic.at r "Invalid template interpolation value"
        "An iteration result is null. Cannot include a null value in a string template."])
      else if v.ty matches .dynamic then (.unknown .string, ds)
      else match v.convert .string with
        | .error m => go rest acc (ds ++ [Diagnostic.at r "Invalid template interpolation value"
            ("Cannot include one of the interpolation results into the string template: " ++ m ++ ".")])
        | .ok (.str s) => if v.isUnknown then (.unknown .string, ds) else go rest (acc ++ s) ds
        | .ok _ => (.unknown .string, ds)

mutual
def eval : Nat → Env → Expr → Value × List Diagnostic
  | 0, _, _ => (dynamicValue, [])
  | fuel + 1, env, e =>
    match e with
    | .literal v _ => (v, [])
    | .scope root rootRange steps _ => lookupReference env root rootRange steps
    | .relative src steps _ =>
      let (v, d) := eval fuel env src
      let (w, d') := applySteps v steps
      (w, d ++ d')
    | .index coll key _ bracket =>
      let (c, d1) := eval fuel env coll
      let (k, d2) := eval fuel env key
      match indexValue c k bracket with
      | .ok v => (v, d1 ++ d2)
      | .error d => (dynamicValue, d1 ++ d2 ++ [d])
    | .call .. =>
      (dynamicValue, [Diagnostic.at e.range "Function calls not allowed" "Functions may not be called here."])
    | .binary op lhs rhs r =>
      let (a, d1) := eval fuel env lhs
      let (b, d2) := eval fuel env rhs
      let ty := op.operandType
      let (a', e1) := match a.convert ty with
        | .ok v => (v, [])
        | .error m => (a, [Diagnostic.at lhs.range "Invalid operand"
            ("Unsuitable value for left operand: " ++ m ++ ".")])
      let (b', e2) := match b.convert ty with
        | .ok v => (v, [])
        | .error m => (b, [Diagnostic.at rhs.range "Invalid operand"
            ("Unsuitable value for right operand: " ++ m ++ ".")])
      let ds := d1 ++ d2 ++ e1 ++ e2
      if !ds.isEmpty then (.unknown op.resultType, ds)
      else if op != .eq && op != .ne && (a'.isNull || b'.isNull) then
        (.unknown op.resultType, [Diagnostic.at r "Operation failed"
          "Error during operation: argument must not be null."])
      else if op != .eq && op != .ne && (a'.isUnknown || b'.isUnknown) then
        (.unknown op.resultType, [])
      else match op.apply a' b' with
        | .ok v => (v, [])
        | .error m => (.unknown op.resultType, [Diagnostic.at r "Operation failed"
            ("Error during operation: " ++ m ++ ".")])
    | .unary op arg r _ =>
      let (v, d) := eval fuel env arg
      let ty : Ty := if op == .neg then .number else .bool
      let (v', e1) := match v.convert ty with
        | .ok w => (w, [])
        | .error m => (v, [Diagnostic.at arg.range "Invalid operand"
            ("Unsuitable value for unary operand: " ++ m ++ ".")])
      let ds := d ++ e1
      if !ds.isEmpty then (.unknown ty, ds)
      else match v' with
        | .null _ => (.unknown ty, [Diagnostic.at r "Operation failed"
            "Error during operation: argument must not be null."])
        | .num n => (.num n.negate, [])
        | .bool b => (.bool !b, [])
        | _ => (.unknown ty, [])
    | .conditional c yes no _ => evalConditional fuel env c yes no
    | .parens inner _ => eval fuel env inner
    | .wrap inner _ => eval fuel env inner
    | .template parts _ =>
      let (strs, known, ds) := evalParts fuel env parts
      (if known then .str strs else .unknown .string, ds)
    | .join t =>
      let (tv, ds) := eval fuel env t
      match tv with
      | .tuple items => joinStrings e.range items ds
      | _ => (.unknown .string, ds)
    | .tuple items _ _ =>
      let (vs, ds) := evalAll fuel env items
      (.tuple vs, ds)
    | .object items _ _ =>
      let (entries, known, ds) := evalItems fuel env items
      (if known then Value.objectOf entries else dynamicValue, ds)
    | .objectKey wrapped force =>
      match wrapped, force with
      | .scope _ _ (_ :: _) _, false =>
        (dynamicValue, [Diagnostic.at e.range "Ambiguous attribute key"
          "If this expression is intended to be a reference, wrap it in parentheses. If it's instead intended as a literal name containing periods, wrap it in quotes to create a string literal."])
      | _, _ =>
        match (if force then none else literalKeyName wrapped) with
        | some n => (.str n, [])
        | none => eval fuel env wrapped
    | .forExpr k v coll key value cond group r _ => evalFor fuel env k v coll key value cond group r
    | .splat source each _ _ =>
      let (sv, ds) := eval fuel env source
      if !ds.isEmpty then (dynamicValue, ds)
      else
        let sequence := match sv.ty with
          | .tuple _ | .list _ | .set _ => true
          | _ => false
        if sv.isNull then
          if !sequence then (.tuple [], ds)
          else (dynamicValue, [Diagnostic.at source.range "Splat of null value"
            "Splat expressions (with the * symbol) cannot be applied to null sequences."])
        else if sv.isUnknown then (dynamicValue, ds)
        else
          let items := if sequence then (sv.elements.getD []) else [sv]
          let env' := if env.scopes.isNone then { env with scopes := some [none] } else env
          let (vs, ds', ok) := evalEach fuel env' each items
          if !ok then (dynamicValue, ds')
          else match sv with
            | .list t _ => (.list (match vs with | v :: _ => v.ty | [] => t) vs, ds')
            | _ => (.tuple vs, ds')
    | .anon _ => (env.anon.getD dynamicValue, [])

def evalAll : Nat → Env → List Expr → List Value × List Diagnostic
  | 0, _, _ => ([], [])
  | _, _, [] => ([], [])
  | fuel + 1, env, x :: xs =>
    let (v, d) := eval fuel env x
    let (vs, ds) := evalAll fuel env xs
    (v :: vs, d ++ ds)

def evalEach : Nat → Env → Expr → List Value → List Value × List Diagnostic × Bool
  | 0, _, _, _ => ([], [], true)
  | _, _, _, [] => ([], [], true)
  | fuel + 1, env, each, x :: xs =>
    let (v, d) := eval fuel { env with anon := some x } each
    let (vs, ds, ok) := evalEach fuel env each xs
    (v :: vs, d ++ ds, ok && d.isEmpty)

def evalParts : Nat → Env → List Expr → String × Bool × List Diagnostic
  | 0, _, _ => ("", true, [])
  | _, _, [] => ("", true, [])
  | fuel + 1, env, p :: ps =>
    let (v, d) := eval fuel env p
    let (rest, known, ds) := evalParts fuel env ps
    if v.isNull then
      (rest, known, d ++ [Diagnostic.at p.range "Invalid template interpolation value"
        "The expression result is null. Cannot include a null value in a string template."] ++ ds)
    else if v.isUnknown then ("", false, d ++ ds)
    else match v.convert .string with
      | .ok (.str s) => (s ++ rest, known, d ++ ds)
      | .ok _ => ("", false, d ++ ds)
      | .error m => (rest, known, d ++ [Diagnostic.at p.range "Invalid template interpolation value"
          ("Cannot include the given value in a string template: " ++ m ++ ".")] ++ ds)

def evalItems : Nat → Env → List (Expr × Expr) → List (String × Value) × Bool × List Diagnostic
  | 0, _, _ => ([], true, [])
  | _, _, [] => ([], true, [])
  | fuel + 1, env, (k, v) :: rest =>
    let (kv, kd) := eval fuel env k
    let (vv, vd) := eval fuel env v
    let (entries, known, ds) := evalItems fuel env rest
    if !kd.isEmpty then (entries, false, kd ++ vd ++ ds)
    else if kv.isNull then
      (entries, false, vd ++ [Diagnostic.at v.range "Null value as key" "Can't use a null value as a key."] ++ ds)
    else match kv.convert .string with
      | .error m => (entries, false, vd ++ [Diagnostic.at k.range "Incorrect key type"
          ("Can't use this value as a key: " ++ m ++ ".")] ++ ds)
      | .ok (.str s) => ((s, vv) :: entries, known, vd ++ ds)
      | .ok _ => (entries, false, vd ++ ds)

def evalConditional : Nat → Env → Expr → Expr → Expr → Value × List Diagnostic
  | 0, _, _, _, _ => (dynamicValue, [])
  | fuel + 1, env, c, yes, no =>
    let (t, td) := eval fuel env yes
    let (f, fd) := eval fuel env no
    let unified : Option Ty :=
      if t matches .null .dynamic then some f.ty
      else if f matches .null .dynamic then some t.ty
      else if t.ty matches .dynamic then some .dynamic
      else if f.ty matches .dynamic then some .dynamic
      else unifyTypes [t.ty, f.ty]
    match unified with
    | none =>
      (dynamicValue, [Diagnostic.at (Range.between yes.range no.range) "Inconsistent conditional result types"
        ("The true and false result expressions must have consistent types. " ++
          branchMismatch 16 t.ty f.ty ++ ".")])
    | some ty =>
      let (cv, cd) := eval fuel env c
      if cv.isNull then
        (.unknown ty, cd ++ [Diagnostic.at c.range "Null condition"
          "The condition value is null. Conditions must either be true or false."])
      else if cv.isUnknown then (.unknown ty, cd)
      else match cv.convert .bool with
        | .error _ => (.unknown ty, cd ++ [Diagnostic.at c.range "Incorrect condition type"
            "The condition expression must be of type bool."])
        | .ok (.bool b) =>
          let (v, vd, branch) := if b then (t, td, yes) else (f, fd, no)
          match v.convert ty with
          | .ok w => (w, cd ++ vd)
          | .error m => (.unknown ty, cd ++ vd ++ [Diagnostic.at branch.range "Inconsistent conditional result types"
              ("The " ++ (if b then "true" else "false") ++ " result value has the wrong type: " ++ m ++ ".")])
        | .ok _ => (.unknown ty, cd)

def evalFor : Nat → Env → Option String → String → Expr → Option Expr → Expr → Option Expr → Bool →
    Range → Value × List Diagnostic
  | 0, _, _, _, _, _, _, _, _, _ => (dynamicValue, [])
  | fuel + 1, env, k, v, coll, key, value, cond, group, _ =>
    let (cv, cd) := eval fuel env coll
    if cv.isNull then
      (dynamicValue, cd ++ [Diagnostic.at coll.range "Iteration over null value"
        "A null value cannot be used as the collection in a 'for' expression."])
    else if cv.ty matches .dynamic then (dynamicValue, cd)
    else
      let iterable := match cv.ty with
        | .list _ | .set _ | .map _ | .tuple _ | .object _ => true
        | _ => false
      if !iterable then
        (dynamicValue, cd ++ [Diagnostic.at coll.range "Iteration over non-iterable value"
          ("A value of type " ++ cv.ty.friendlyName ++ " cannot be used as the collection in a 'for' expression.")])
      else
        let bind (kv vv : Value) : Env :=
          env.child ((match k with | some kn => [(kn, kv)] | none => []) ++ [(v, vv)])
        let proceed (ds : List Diagnostic) : Value × List Diagnostic :=
          match iterationPairs cv with
          | some pairs => if !cv.isUnknown then forElements fuel bind key value cond group pairs ds
            else (dynamicValue, ds)
          | none => (dynamicValue, ds)
        match cond with
        | none => proceed cd
        | some c =>
          -- a first check of the condition, with unknown elements
          let (r, d) := eval fuel (bind dynamicValue dynamicValue) c
          if r.isNull then
            (dynamicValue, cd ++ d ++ [Diagnostic.at c.range "Condition is null"
              "The value of the 'if' clause must not be null."])
          else match r.convert .bool with
            | .error m => (dynamicValue, cd ++ d ++ [Diagnostic.at c.range "Invalid 'for' condition"
                ("The 'if' clause value is invalid: " ++ m ++ ".")])
            | .ok _ => if !d.isEmpty then (dynamicValue, cd ++ d) else proceed cd

def forElements : Nat → (Value → Value → Env) → Option Expr → Expr → Option Expr → Bool →
    List (Value × Value) → List Diagnostic → Value × List Diagnostic
  | 0, _, _, _, _, _, _, ds => (dynamicValue, ds)
  | fuel + 1, bind, key, value, cond, group, pairs, ds =>
    let (results, known, ds') := forItems fuel bind key value cond pairs true []
    let ds := ds ++ ds'
    if !known then (dynamicValue, ds)
    else match key with
      | none => (.tuple (results.map (·.2)), ds)
      | some keyExpr =>
        if group then
          (Value.objectOf ((groupByKey (results.map fun (k, v) => (k.getD "", v)) []).map fun (k, vs) =>
            (k, .tuple vs)), ds)
        else
          let (entries, dups) := dedupe (results.map fun (k, v) => (k.getD "", v)) [] []
          (Value.objectOf entries, ds ++ dups.map fun k => Diagnostic.at keyExpr.range "Duplicate object key"
            ("Two different items produced the key " ++ quote k ++ " in this 'for' expression. If duplicates are expected, use the ellipsis (...) after the value expression to enable grouping by key."))

def forItems : Nat → (Value → Value → Env) → Option Expr → Expr → Option Expr → List (Value × Value) →
    Bool → List Diagnostic → List (Option String × Value) × Bool × List Diagnostic
  | 0, _, _, _, _, _, known, ds => ([], known, ds)
  | _, _, _, _, _, [], known, ds => ([], known, ds)
  | fuel + 1, bind, key, value, cond, (kv, vv) :: rest, known, ds =>
    let env := bind kv vv
    let skip (known' : Bool) (ds' : List Diagnostic) := forItems fuel bind key value cond rest known' ds'
    let inclusion : Option Bool × List Diagnostic := match cond with
      | none => (some true, [])
      | some c =>
        let (r, d) := eval fuel env c
        if r.isNull then
          (none, d ++ (if known then [Diagnostic.at c.range "Invalid 'for' condition"
            "The value of the 'if' clause must not be null."] else []))
        else match r.convert .bool with
          | .error m => (none, d ++ (if known then [Diagnostic.at c.range "Invalid 'for' condition"
              ("The 'if' clause value is invalid: " ++ m ++ ".")] else []))
          | .ok (.bool b) => (some b, d)
          | .ok _ => (none, d)
    match inclusion with
    | (none, d) => skip false (ds ++ d)
    | (some false, d) => skip known (ds ++ d)
    | (some true, d) =>
      let ds := ds ++ d
      match key with
      | none =>
        let (val, vd) := eval fuel env value
        let (more, known', ds') := forItems fuel bind key value cond rest known (ds ++ vd)
        ((none, val) :: more, known', ds')
      | some keyExpr =>
        let (kr, kd) := eval fuel env keyExpr
        let ds := ds ++ kd
        if kr.isNull then
          skip false (ds ++ (if known then [Diagnostic.at keyExpr.range "Invalid object key"
            "Key expression in 'for' expression must not produce a null value."] else []))
        else if kr.isUnknown then skip false ds
        else match kr.convert .string with
          | .error m => skip false (ds ++ (if known then [Diagnostic.at keyExpr.range "Invalid object key"
              ("The key expression produced an invalid result: " ++ m ++ ".")] else []))
          | .ok (.str s) =>
            let (val, vd) := eval fuel env value
            let (more, known', ds') := forItems fuel bind key value cond rest known (ds ++ vd)
            ((some s, val) :: more, known', ds')
          | .ok _ => skip false ds
end

def evalFuel : Nat := 100000

def Expr.value (e : Expr) (env : Env := {}) : Value × List Diagnostic :=
  let (v, ds) := eval evalFuel env e
  (v.normalized, ds)

end TestRig.Hcl
