import TestRig.Hcl.Source
import TestRig.Value.Basic

/-!
The syntax trees of the configuration language. An expression keeps the ranges its problems
are reported at: its whole range (`Expr.range`) and the range where it starts
(`Expr.startRange`), which is its opening bracket, its first operand or its first piece. A
reference is a root name followed by steps, each a named attribute or an index by a constant
key; a step on anything other than a plain name makes a relative traversal.
-/

namespace TestRig.Hcl

/-! ### Expressions -/

/-- The binary operators, from the loosest binding to the tightest. -/
inductive BinOp where
  | or | and
  | eq | ne
  | gt | ge | lt | le
  | add | sub
  | mul | div | mod
  deriving DecidableEq, Repr, Inhabited

inductive UnOp where
  | neg | not
  deriving DecidableEq, Repr, Inhabited

/-- One step of a reference: an attribute by name, or an index by a constant key. -/
inductive Step where
  | attr (name : String) (range : Range)
  | index (key : Value) (range : Range)
  deriving Repr, Inhabited

inductive Expr where
  | literal (value : Value) (range : Range)
  | scope (root : String) (rootRange : Range) (steps : List Step) (range : Range)
  | relative (source : Expr) (steps : List Step) (range : Range)
  | index (coll key : Expr) (range bracket : Range)
  | call (name : String) (args : List Expr) (expandFinal : Bool) (nameRange openRange closeRange : Range)
  | binary (op : BinOp) (lhs rhs : Expr) (range : Range)
  | unary (op : UnOp) (arg : Expr) (range symbol : Range)
  | conditional (cond onTrue onFalse : Expr) (range : Range)
  | parens (inner : Expr) (range : Range)
  | template (parts : List Expr) (range : Range)
  | wrap (inner : Expr) (range : Range)
  | join (tuple : Expr)
  | tuple (items : List Expr) (range openRange : Range)
  | object (items : List (Expr × Expr)) (range openRange : Range)
  | objectKey (wrapped : Expr) (forceNonLiteral : Bool)
  | forExpr (keyVar : Option String) (valVar : String) (coll : Expr) (key : Option Expr)
      (value : Expr) (cond : Option Expr) (group : Bool) (range openRange : Range)
  | splat (source each : Expr) (range marker : Range)
  | anon (range : Range)
  deriving Repr, Inhabited

namespace Expr

def range : Expr → Range
  | literal _ r | scope _ _ _ r | relative _ _ r | index _ _ r _ => r
  | call _ _ _ nameRange _ r => Range.between nameRange r
  | binary _ _ _ r | unary _ _ r _ | conditional _ _ _ r | parens _ r => r
  | template _ r | wrap _ r | tuple _ r _ | object _ r _ => r
  | join t => t.range
  | objectKey w _ => w.range
  | forExpr _ _ _ _ _ _ _ r _ | splat _ _ r _ | anon r => r

def startRange : Expr → Range
  | literal _ r | scope _ _ _ r | relative _ _ r => r
  | index _ _ _ bracket => bracket
  | call _ _ _ nameRange openRange _ => Range.between nameRange openRange
  | binary _ lhs _ _ => lhs.startRange
  | unary _ _ _ symbol => symbol
  | conditional c _ _ _ => c.startRange
  | parens _ r | wrap _ r => r
  | template (p :: _) _ => p.startRange
  | template [] r => r
  | join t => t.startRange
  | tuple _ _ o | object _ _ o => o
  | objectKey w _ => w.startRange
  | forExpr _ _ _ _ _ _ _ _ o => o
  | splat s _ _ _ => s.startRange
  | anon r => r

end Expr

/-! ### Bodies -/

/-- An attribute definition `name = expression`. -/
structure Attribute where
  name : String
  expr : Expr
  range : Range
  nameRange : Range
  deriving Repr, Inhabited

/-- The header of a block: its type and labels with their ranges, and its braces. -/
structure BlockHead where
  type : String
  labels : List String
  typeRange : Range
  labelRanges : List Range
  openRange : Range
  closeRange : Range
  deriving Repr, Inhabited

def BlockHead.defRange (h : BlockHead) : Range :=
  Range.between h.typeRange (h.labelRanges.getLastD h.typeRange)

/-- A body: attributes in the order written, blocks with their bodies, the range from the
opening brace to the closing one, and the empty range at the end. -/
inductive Body where
  | mk (attributes : List Attribute) (blocks : List (BlockHead × Body)) (range endRange : Range)
  deriving Repr, Inhabited

namespace Body

def attributes : Body → List Attribute
  | mk as _ _ _ => as

def blocks : Body → List (BlockHead × Body)
  | mk _ bs _ _ => bs

def range : Body → Range
  | mk _ _ r _ => r

def missingItemRange (b : Body) : Range := b.range.atStart

end Body

end TestRig.Hcl
