import TestRig.Expression.Eval

/-!
Commands: a tool rendered for one invocation. The tool's executable and arguments are
templates. Positional tokens `${n}` take the `n`-th input of the invocation, which is absent,
one string or a list of strings; an argument with a token whose input is a list renders once
per element. An argument over a collection renders its pattern once per element of the
collection, `$` standing for the element.
-/

namespace TestRig

open TestRig.Config TestRig.Expression TestRig.Text

structure Command where
  name : String
  executable : String
  arguments : List String
  line : String
  redirect : String
  failOnError : Bool := true
  optional : Bool
  deriving Inhabited

/-- One positional input of an invocation: absent, one string, a list of strings, or a value
of a kind that cannot be an input (named by its type). -/
inductive Input where
  | absent
  | one (s : String)
  | many (xs : List String)
  | unsupported (typeName : String)
  deriving Inhabited

namespace Command

/-! ### Templates -/

/-- The most passes of marker expansion before definitions are taken to be cyclic. -/
def maxPasses : Nat := 8

/-- The distinct positional tokens of a template, in order of first appearance: `${n}` with
`n` a positive integer, not escaped by a backslash. -/
def positionalTokens (s : String) : List Nat :=
  (go s.toList none []).reverse
where
  /-- The tokens from here on, after those seen so far (newest first). -/
  go : List Char → Option Char → List Nat → List Nat
    | [], _, acc => acc
    | '$' :: '{' :: r, prev, acc =>
      if prev == some '\\' then go ('{' :: r) (some '$') acc
      else
        match r.findIdx? (· == '}') with
        | none => acc
        | some i =>
          let acc := match readInt64 (r.take i) with
            | some n => if n > 0 && !acc.contains n.toNat then n.toNat :: acc else acc
            | none => acc
          go (r.drop (i + 1)) (some '}') acc
    | c :: r, _, acc => go r (some c) acc
  termination_by cs => cs.length
  decreasing_by all_goals simp_wf <;> omega

/-- Replaces every unescaped `${idx}` of a template by a value. -/
def substituteToken (s : String) (idx : Nat) (value : String) : String :=
  String.ofList (go ("$\x7b" ++ toString idx ++ "\x7d").toList s.toList none)
where
  /-- The text with the token replaced, `prev` being the character before it. -/
  go (token : List Char) : List Char → Option Char → List Char
    | [], _ => []
    | c :: r, prev =>
      match dropPrefix? (c :: r) token with
      | some rest =>
        if _h : rest.length < (c :: r).length then
          if prev != some '\\' then value.toList ++ go token rest (some '}')
          else c :: go token r (some c)
        else c :: go token r (some c)
      | none => c :: go token r (some c)
  termination_by cs => cs.length
  decreasing_by all_goals (simp_wf; (try simp only [List.length_cons] at *); (try omega))

/-- Renders a collection pattern for one element: `$` is the element, `\$` a literal dollar
(kept escaped before a brace). -/
def substituteDollar (pattern value : String) : String :=
  String.ofList (go pattern.toList)
where
  go : List Char → List Char
    | '\\' :: '$' :: rest@('{' :: _) => '\\' :: '$' :: go rest
    | '\\' :: '$' :: rest => '$' :: go rest
    | '$' :: rest => value.toList ++ go rest
    | c :: rest => c :: go rest
    | [] => []

/-- Turns escaped positional tokens and markers into literal text. -/
def unescape (s : String) : String :=
  unescapeMarkers (String.ofList (replaceAll s.toList ['\\', '$', '{'] ['$', '{']))

/-- Collapses blank runs to single spaces and trims the ends. -/
def normalize (s : String) : String := " ".intercalate (fields s)

end Command

/-! ### Rendering -/

/-- What rendering one tool needs: the snapshot, its evaluator, the tool's name and path, and
the inputs (none for an absent one). -/
structure Renderer where
  snap : Snapshot
  eval : Evaluator
  tool : String
  path : String
  inputs : List (Option (List String))

namespace Renderer

/-- Expands the markers of every rendering, in order. -/
def markers (r : Renderer) (renders : List String) : Outcome (List String) :=
  renders.flatMapM r.eval.expand

/-- Renders a literal template: once per combination of its tokens' input values, then with
its markers expanded. -/
def literal (r : Renderer) (s : String) : Outcome (List String) := do
  let renders ← (Command.positionalTokens s).foldlM (fun renders idx =>
    match r.inputs[idx - 1]? with
    | some (some vs) => .ok (renders.flatMap fun render => vs.map (Command.substituteToken render idx))
    | _ => failConfig r.path ("tool '" ++ r.tool ++ "' references $\x7b" ++ toString idx ++
        "\x7d but only " ++ toString r.inputs.length ++ " input(s) were supplied")) [s]
  r.markers renders

/-- Renders a pattern over a collection: once per element, then with markers expanded. A
collection name without a dot is one of the snapshot's collections. -/
def collection (r : Renderer) (arg : Argument) : Outcome (List String) := do
  let ref := if arg.collection.contains '.' then arg.collection else "collections." ++ arg.collection
  match r.snap.strings ref with
  | none => failConfig r.path ("tool '" ++ r.tool ++ "' references undefined collection '" ++
      arg.collection ++ "'")
  | some (.error e) => failConfig r.path ("tool '" ++ r.tool ++ "' collection '" ++
      arg.collection ++ "': " ++ e)
  | some (.ok elems) => r.markers (elems.map (Command.substituteDollar arg.pattern))

/-- Expands markers until none is left, at most `maxPasses` times, then unescapes. -/
def finish (r : Renderer) (parts : List String) : Outcome (List String) :=
  go (Command.maxPasses + 1) 0 parts
where
  go : Nat → Nat → List String → Outcome (List String)
    | 0, _, parts => .ok (parts.map Command.unescape)
    | fuel + 1, pass, parts =>
      if !parts.any hasMarkers then .ok (parts.map Command.unescape)
      else if pass == Command.maxPasses then
        failConfig r.path ("tool '" ++ r.tool ++ "' markers still unresolved after " ++
          toString Command.maxPasses ++ " passes; definitions may be cyclic")
      else do
        let next ← r.markers parts
        go fuel (pass + 1) next

end Renderer

/-- Renders a tool for an invocation with extra arguments and positional inputs. -/
def Command.build (snap : Snapshot) (tool : Option Tool) (extra : List String)
    (inputs : List Input) : Outcome Command := do
  let some tool := tool | failConfig "tools" "tool descriptor is nil"
  let path := "tools." ++ tool.name
  let values ← inputs.zipIdx.mapM fun (inp, i) => match inp with
    | .absent => .ok none
    | .one s => .ok (some [s])
    | .many xs => .ok (some xs)
    | .unsupported ty =>
      .error (.plain (path ++ ": input " ++ toString (i + 1) ++ " has unsupported type " ++ ty))
  let r : Renderer := { snap, eval := Evaluator.ofSnapshot snap, tool := tool.name, path, inputs := values }
  let exe ← r.finish (← r.literal tool.executable)
  let wrongCount := "must resolve to exactly one value, got " ++ toString exe.length
  let exe ← match exe with
    | [e] => if isBlankText e then failConfig (path ++ ".executable") wrongCount else pure (trimBlank e)
    | _ => failConfig (path ++ ".executable") wrongCount
  let parts ← tool.arguments.zipIdx.foldlM (fun acc (arg, i) => do
    let rendered ← (if arg.isCollection then r.collection arg else r.literal arg.literal).mapError
      fun f => .wrap (path ++ ".arguments[" ++ toString i ++ "]") f
    return acc ++ rendered) []
  let parts ← r.finish (parts ++ extra)
  let args := (parts.map Command.normalize).filter (· != "")
  return { name := tool.name, executable := exe, arguments := args,
           line := Command.normalize (exe ++ " " ++ " ".intercalate args),
           redirect := tool.redirect, optional := tool.optional }

end TestRig
