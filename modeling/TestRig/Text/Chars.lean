/-!
Text as a list of characters: prefixes, searching, splitting at a separator and replacing one
piece of text by another. Every operation here recurses on the list, so its laws are proved by
induction on the text.
Main statements: a text begins with any prefix put before it (`startsWith_append`), and
dropping that prefix gives the rest back (`dropPrefix?_append`).
-/

namespace TestRig.Text

def startsWith : List Char → List Char → Bool
  | _, [] => true
  | [], _ :: _ => false
  | c :: s, d :: p => c == d && startsWith s p

def dropPrefix? : List Char → List Char → Option (List Char)
  | s, [] => some s
  | [], _ :: _ => none
  | c :: s, d :: p => if c == d then dropPrefix? s p else none

def endsWith (s p : List Char) : Bool := startsWith s.reverse p.reverse

def dropSuffix? (s p : List Char) : Option (List Char) :=
  (dropPrefix? s.reverse p.reverse).map List.reverse

def indexOf? (s p : List Char) : Option Nat :=
  go s 0
where
  go : List Char → Nat → Option Nat
    | [], i => if p.isEmpty then some i else none
    | c :: r, i => if startsWith (c :: r) p then some i else go r (i + 1)

def contains (s p : List Char) : Bool := (indexOf? s p).isSome

def splitOn (s sep : List Char) : List (List Char) :=
  match sep with
  | [] => [s]
  | d :: ds => go (d :: ds) s [] (s.length + 1)
where
  go (sep : List Char) : List Char → List Char → Nat → List (List Char)
    | s, acc, 0 => [acc.reverse ++ s]
    | [], acc, _ + 1 => [acc.reverse]
    | c :: r, acc, n + 1 =>
      match dropPrefix? (c :: r) sep with
      | some rest => acc.reverse :: go sep rest [] n
      | none => go sep r (c :: acc) n

def cut? (s sep : List Char) : Option (List Char × List Char) :=
  match indexOf? s sep with
  | some i => some (s.take i, s.drop (i + sep.length))
  | none => none

def replaceAll (s old new : List Char) : List Char :=
  match old with
  | [] => s
  | o :: os => go (o :: os) s (s.length + 1)
where
  go (old : List Char) : List Char → Nat → List Char
    | s, 0 => s
    | [], _ + 1 => []
    | c :: r, n + 1 =>
      match dropPrefix? (c :: r) old with
      | some rest => new ++ go old rest n
      | none => c :: go old r n

def joinWith (sep : List Char) : List (List Char) → List Char
  | [] => []
  | [x] => x
  | x :: y :: r => x ++ sep ++ joinWith sep (y :: r)

def isDigit (c : Char) : Bool := '0' ≤ c && c ≤ '9'

def isAsciiLetter (c : Char) : Bool := ('a' ≤ c && c ≤ 'z') || ('A' ≤ c && c ≤ 'Z')

def isWordChar (c : Char) : Bool := isAsciiLetter c || isDigit c || c == '_'

def natDigits (n : Nat) : List Char := Nat.toDigits 10 n

def intText (i : Int) : String :=
  if i < 0 then String.ofList ('-' :: natDigits i.natAbs) else String.ofList (natDigits i.natAbs)

def digitsValue (ds : List Char) : Nat :=
  ds.foldl (fun acc d => acc * 10 + (d.toNat - '0'.toNat)) 0

theorem startsWith_append (s p : List Char) : startsWith (p ++ s) p = true := by
  induction p with
  | nil => cases s <;> rfl
  | cons d p ih => simp [startsWith, ih]

theorem dropPrefix?_append (s p : List Char) : dropPrefix? (p ++ s) p = some s := by
  induction p with
  | nil => cases s <;> rfl
  | cons d p ih => simp [dropPrefix?, ih]

def trimSuffix (s suffix : String) : String :=
  match dropSuffix? s.toList suffix.toList with
  | some r => String.ofList r
  | none => s

def trimPrefix (s pre : String) : String :=
  match dropPrefix? s.toList pre.toList with
  | some r => String.ofList r
  | none => s

end TestRig.Text
