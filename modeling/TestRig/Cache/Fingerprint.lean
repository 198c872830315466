import TestRig.Config.Snapshot
import TestRig.Digest.Blake3
import TestRig.Yaml.Compose
import TestRig.Yaml.Decode
import TestRig.Files.Tree

/-!
Configuration fingerprints: a record, kept in a cache directory per build context, of the
configuration the last build ran with. The record holds the context, the plain tree of the
snapshot as it reads back from YAML, and the digest of that tree: BLAKE3 over its YAML text.

A configuration has changed when a record exists and does not match it.
-/

namespace TestRig.Cache

open TestRig.Config TestRig.Yaml TestRig.Digest TestRig.Files

/-! ### Digests of trees -/

def treeText (tree : Loose) : String := tree.toDoc.render

/-- The digest of a plain tree: BLAKE3 of its YAML text, in hexadecimal. -/
def treeDigest (tree : Loose) : String := hexText (blake3 (treeText tree).toUTF8.toList)

/-- Reads a YAML text as a mapping of names to plain values. -/
def readTree (text : String) : Except String (List (String × Loose)) := do
  match ← compose text with
  | none => return []
  | some root => decodeWith (Target.dict Target.loose) root []

/-- A plain tree as it reads back from its YAML text. -/
def normalize (tree : Loose) : Except String Loose :=
  (readTree (treeText tree)).map Loose.dict

/-! ### Records -/

/-- A fingerprint record; the tree is absent when the record has none. -/
structure Fingerprint where
  context : String := ""
  digest : String := ""
  config : Option (List (String × Loose)) := none

def fingerprintTarget : Target Fingerprint :=
  .record "cache.fingerprint" {}
    [.of "context" (Target.string) (·.context) fun r v => { r with context := v },
     .of "digest" (Target.string) (·.digest) fun r v => { r with digest := v },
     .of "config" (Target.optional (Target.dict Target.loose)) (·.config)
       fun r v => { r with config := v }]

/-- Reads a record; none when the text is no record. -/
def readFingerprint (text : String) : Option Fingerprint :=
  match compose text with
  | .error _ => none
  | .ok none => some {}
  | .ok (some root) => (decodeWith fingerprintTarget root {}).toOption

def Fingerprint.text (f : Fingerprint) : String :=
  Doc.render (.map [(.text "context", .text f.context), (.text "digest", .text f.digest),
    (.text "config", (Loose.dict (f.config.getD [])).toDoc)])

/-! ### The cache directory -/

/-- Where the record of a build context is kept. -/
def recordPath (dir context : String) : String := Path.join [dir, context ++ "_config.yml"]

/-- Writes the record of a snapshot, making the cache directory if needed; answers the files
and the record's path and text. -/
def record (fs : Tree) (dir : String) (snap : Snapshot) : Except Fault (Tree × String × String) := do
  let tree ← (normalize snap.plain).mapError Fault.plain
  let entries := match tree with
    | .dict es => es
    | _ => []
  let text := ({ context := snap.context, digest := treeDigest tree, config := some entries } :
    Fingerprint).text
  let fs ← (fs.mkdirAll dir).mapError fun e =>
    Fault.plain ("failed to create cache directory: " ++ e.message)
  let path := recordPath dir snap.context
  let fs ← (fs.writeText path text).mapError fun e =>
    Fault.plain ("failed to write fingerprint: " ++ e.message)
  return (fs, path, text)

/-- How a snapshot's configuration compares with the record of its build context. -/
inductive Comparison where
  | noRecord
  | unreadable
  /-- The record's digest does not match its configuration. -/
  | corrupt
  /-- The configuration differs from the record's. -/
  | differs
  | same
  deriving DecidableEq, Repr

/-- Compares a snapshot's configuration with the record of its build context. -/
def compare (fs : Tree) (dir : String) (snap : Snapshot) : Except Fault Comparison := do
  match fs.readFile (recordPath dir snap.context) with
  | .error e =>
    if e.errno == .notExist then return .noRecord
    else throw (Fault.plain ("failed to read fingerprint: " ++ e.message))
  | .ok data =>
    match (Yaml.textOf data).toOption.bind readFingerprint with
    | none => return .unreadable
    | some prior =>
      let priorTree := Loose.dict (prior.config.getD [])
      if treeDigest priorTree != prior.digest then return .corrupt
      let current ← (normalize snap.plain).mapError Fault.plain
      match prior.config with
      | none => return .differs
      | some _ => return if priorTree.same current then .same else .differs

/-- The comparison counts as a change: an unusable record is taken to be one. -/
def Comparison.isChange : Comparison → Bool
  | .noRecord | .same => false
  | .unreadable | .corrupt | .differs => true

/-- The configuration of a snapshot differs from the record of its build context. -/
def changed (fs : Tree) (dir : String) (snap : Snapshot) : Except Fault Bool :=
  (compare fs dir snap).map Comparison.isChange

end TestRig.Cache
