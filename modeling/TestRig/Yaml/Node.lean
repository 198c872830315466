import TestRig.Yaml.Resolve
import TestRig.Yaml.Token

/-!
Documents as trees of nodes. A node remembers its tag (in short form: written in the text, or
resolved from a plain scalar's text), its anchor and the line and column it starts on. An alias
holds a copy of the node it names, so the tree stays finite; an alias inside the node it names
cannot hold it and is marked as circular instead.
-/

namespace TestRig.Yaml

/-- What every node carries: its tag, whether the tag was written, its anchor, and where it
starts (counted from one). -/
structure NodeInfo where
  tag : String := ""
  tagged : Bool := false
  anchor : String := ""
  line : Nat := 0
  column : Nat := 0
  deriving DecidableEq, Repr, Inhabited

inductive Node where
  | scalar (info : NodeInfo) (text : String) (style : ScalarStyle)
  | seq (info : NodeInfo) (items : List Node) (flow : Bool)
  | map (info : NodeInfo) (entries : List (Node × Node)) (flow : Bool)
  /-- An alias: the name, the node it names unless that node contains the alias, and the tag
  of the named node. -/
  | aliasOf (info : NodeInfo) (name : String) (target : Option Node) (targetTag : String)
  deriving Repr, Inhabited

namespace Node

def info : Node → NodeInfo
  | scalar m .. => m
  | seq m .. => m
  | map m .. => m
  | aliasOf m .. => m

def line (n : Node) : Nat := n.info.line

def text : Node → String
  | scalar _ t _ => t
  | aliasOf _ name _ _ => name
  | _ => ""

def isIndicatedString : Node → Bool
  | scalar m _ style =>
    m.tag == "!!str" || ((m.tag == "" || m.tag == "!") && style != .plain)
  | _ => false

def shortTag : Node → String
  | n@(scalar m t _) =>
    if n.isIndicatedString then "!!str"
    else if m.tag == "" || m.tag == "!" then plainTag t
    else m.tag
  | seq m .. => if m.tag == "" || m.tag == "!" then "!!seq" else m.tag
  | map m .. => if m.tag == "" || m.tag == "!" then "!!map" else m.tag
  | aliasOf _ _ _ tag => tag

def isNull (n : Node) : Bool := n.shortTag == "!!null"

def isMergeKey : Node → Bool
  | scalar m t _ => t == "<<" && (m.tag == "" || m.tag == "!" || m.tag == "!!merge")
  | _ => false

def kindIndex : Node → Nat
  | scalar .. => 0
  | seq .. => 1
  | map .. => 2
  | aliasOf .. => 3

def deref : Node → Node
  | aliasOf _ _ (some t) _ => t
  | n => n

end Node

end TestRig.Yaml
