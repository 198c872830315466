import TestRig.Hcl.File
import TestRig.Hcl.Eval

/-!
Reading a body against a schema: which attributes it may or must have, and which block types
with how many labels. A body's content under a schema is the attributes the schema names and
the blocks of the types it names with the right number of labels; anything else in the body is
reported, with a suggestion when a name is close to an expected one (an edit distance under
three) or names an expected item of the other kind.
-/

namespace TestRig.Hcl

open TestRig.Text

/-! ### Schemas -/

/-- What a body may hold: attributes with whether each is required, and block types with the
names of their labels; both in order of their names. -/
structure Schema where
  attributes : List (String × Bool) := []
  blocks : List (String × List String) := []

/-- What a body holds under a schema: the attributes it names, in the schema's order, and the
blocks of its types, in the body's order. -/
structure Content where
  attributes : List Attribute
  blocks : List (BlockHead × Body)

def Body.attribute? (b : Body) (name : String) : Option Attribute :=
  b.attributes.find? (·.name == name)

def labelProblem (h : BlockHead) (names : List String) : Option Diagnostic :=
  if h.labels.length > names.length then
    some (Diagnostic.at (h.labelRanges.getD names.length h.typeRange) ("Extraneous label for " ++ h.type)
      (if names.isEmpty then "No labels are expected for " ++ h.type ++ " blocks."
       else "Only " ++ toString names.length ++ " labels (" ++ ", ".intercalate names ++
         ") are expected for " ++ h.type ++ " blocks."))
  else if h.labels.length < names.length then
    some (Diagnostic.at h.openRange
      ("Missing " ++ names.getD h.labels.length "" ++ " for " ++ h.type)
      ("All " ++ h.type ++ " blocks must have " ++ toString names.length ++ " labels (" ++
        ", ".intercalate names ++ ")."))
  else none

def Body.partialContent (b : Body) (s : Schema) : Content × Diags :=
  let (attrs, missing) := s.attributes.foldl (fun (acc, ds) (name, required) =>
    match b.attribute? name with
    | some a => (acc ++ [a], ds)
    | none =>
      if required then (acc, ds ++ [Diagnostic.at b.missingItemRange "Missing required argument"
        ("The argument " ++ quote name ++ " is required, but no definition was found.")])
      else (acc, ds)) ([], [])
  let (blocks, labelDs) := b.blocks.foldl (fun (acc, ds) (h, body) =>
    match s.blocks.lookup h.type with
    | none => (acc, ds)
    | some names =>
      match labelProblem h names with
      | some d => (acc, ds ++ [d])
      | none => (acc ++ [(h, body)], ds)) ([], [])
  (⟨attrs, blocks⟩, missing ++ labelDs)

def Body.content (b : Body) (s : Schema) : Content × Diags :=
  let (c, ds) := b.partialContent s
  let attrNames := s.attributes.map (·.1)
  let blockTypes := s.blocks.map (·.1)
  let undefinedNames := attrNames.filter fun n => (b.attribute? n).isNone
  let attrDs := b.attributes.filterMap fun a =>
    if attrNames.contains a.name then none
    else
      let hint := match nameSuggestion a.name undefinedNames with
        | some n => " Did you mean " ++ quote n ++ "?"
        | none => if blockTypes.contains a.name then
            " Did you mean to define a block of type " ++ quote a.name ++ "?" else ""
      some (Diagnostic.at a.nameRange "Unsupported argument"
        ("An argument named " ++ quote a.name ++ " is not expected here." ++ hint))
  let blockDs := b.blocks.filterMap fun (h, _) =>
    if blockTypes.contains h.type then none
    else
      let hint := match nameSuggestion h.type blockTypes with
        | some n => " Did you mean " ++ quote n ++ "?"
        | none => if attrNames.contains h.type then
            " Did you mean to define argument " ++ quote h.type ++
              "? If so, use the equals sign to assign it a value." else ""
      some (Diagnostic.at h.typeRange "Unsupported block type"
        ("Blocks of type " ++ quote h.type ++ " are not expected here." ++ hint))
  (c, ds ++ attrDs ++ blockDs)

def Body.justAttributes (b : Body) : List Attribute × Diags :=
  match b.blocks with
  | (h, _) :: _ => (b.attributes, [Diagnostic.at h.typeRange ("Unexpected " ++ quote h.type ++ " block")
      "Blocks are not allowed here."])
  | [] => (b.attributes, [])

def Content.blocksOf (c : Content) (type : String) : List (BlockHead × Body) :=
  c.blocks.filter (·.1.type == type)

def Content.attribute? (c : Content) (name : String) : Option Attribute :=
  c.attributes.find? (·.name == name)

def singleBlock (blocks : List (BlockHead × Body)) (type : String) : Option Body × Diags :=
  match blocks with
  | [] => (none, [])
  | [(_, b)] => (some b, [])
  | (h, _) :: (h2, _) :: _ => (none, [Diagnostic.at h2.defRange ("Duplicate " ++ type ++ " block")
      ("Only one " ++ type ++ " block is allowed. Another was defined at " ++ h.defRange.text ++ ".")])

/-! ### Values of attributes -/

def unsuitable (e : Expr) (why : String) : Diagnostic :=
  Diagnostic.at e.startRange "Unsuitable value type" ("Unsuitable value: " ++ why)

def Expr.valueAs (e : Expr) (want : Ty) : Except Diags Value × Diags :=
  let (v, ds) := e.value
  match v.convert want with
  | .error why => (.error [unsuitable e why], ds)
  | .ok v => (.ok v, ds)

def Expr.decodeString (e : Expr) : Option String × Diags :=
  match e.valueAs .string with
  | (.error d, ds) => (none, ds ++ d)
  | (.ok (.str s), ds) => (some s, ds)
  | (.ok (.unknown _), ds) => (none, ds ++ [unsuitable e "value must be known"])
  | (.ok _, ds) => (none, ds ++ [unsuitable e "null value is not allowed"])

def Expr.decodeBool (e : Expr) : Option Bool × Diags :=
  match e.valueAs .bool with
  | (.error d, ds) => (none, ds ++ d)
  | (.ok (.bool b), ds) => (some b, ds)
  | (.ok (.unknown _), ds) => (none, ds ++ [unsuitable e "value must be known"])
  | (.ok _, ds) => (none, ds ++ [unsuitable e "null value is not allowed"])

def elementString (e : Expr) : Value → Except Diagnostic String
  | .str s => .ok s
  | .unknown _ => .error (unsuitable e "value must be known")
  | _ => .error (unsuitable e "null value is not allowed")

def Expr.decodeStrings (e : Expr) : Option (Option (List String)) × Diags :=
  match e.valueAs (.list .string) with
  | (.error d, ds) => (none, ds ++ d)
  | (.ok (.list _ items), ds) =>
    match items.mapM (elementString e) with
    | .ok xs => (some (some xs), ds)
    | .error d => (none, ds ++ [d])
  | (.ok (.null _), ds) => (some none, ds)
  | (.ok _, ds) => (none, ds ++ [unsuitable e "value must be known"])

def decodeField (c : Content) (name : String) (read : Expr → Option α × Diags) (cur : α) : α × Diags :=
  match c.attribute? name with
  | none => (cur, [])
  | some a =>
    match read a.expr with
    | (some v, ds) => (v, ds)
    | (none, ds) => (cur, ds)

def Content.expression (c : Content) (b : Body) (name : String) : Expr :=
  match c.attribute? name with
  | some a => a.expr
  | none => .literal (.null .dynamic) b.missingItemRange

def Expr.isWritten (e : Expr) : Bool := e.range.nonEmpty

end TestRig.Hcl
