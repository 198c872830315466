import TestRig.Text.Chars

/-!
Blank characters: the white space of Unicode, and trimming and splitting text at it.
-/

namespace TestRig.Text

def isBlank (c : Char) : Bool :=
  let n := c.toNat
  n == 0x20 || (0x09 ≤ n && n ≤ 0x0D) || n == 0x85 || n == 0xA0 || n == 0x1680 ||
    (0x2000 ≤ n && n ≤ 0x200A) || n == 0x2028 || n == 0x2029 || n == 0x202F ||
    n == 0x205F || n == 0x3000

def trim (cs : List Char) : List Char :=
  ((cs.dropWhile isBlank).reverse.dropWhile isBlank).reverse

def trimBlank (s : String) : String := String.ofList (trim s.toList)

def isBlankText (s : String) : Bool := s.toList.all isBlank

def fieldsOf (cs : List Char) : List (List Char) :=
  go cs []
where
  go : List Char → List Char → List (List Char)
    | [], [] => []
    | [], acc => [acc.reverse]
    | c :: r, acc =>
      if isBlank c then
        if acc.isEmpty then go r [] else acc.reverse :: go r []
      else go r (c :: acc)

def fields (s : String) : List String :=
  (fieldsOf s.toList).map String.ofList

def trimRightBy (p : Char → Bool) (cs : List Char) : List Char :=
  (cs.reverse.dropWhile p).reverse

end TestRig.Text
