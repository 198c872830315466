import TestRig.Text.Base64

/-!
Text as bytes. Programs in the C locale see text as a sequence of bytes: a length counts bytes,
a pattern's `?` matches one byte, and sorting compares bytes. A *byte text* holds one character
per byte, the character of the byte's value, so that these rules are the ordinary operations on
its characters.
-/

namespace TestRig.Text

def ofBytes (bs : List UInt8) : String := String.ofList (bs.map fun b => Char.ofNat b.toNat)

def toBytes (s : String) : List UInt8 := s.toList.map fun c => c.toNat.toUInt8

def ofText (s : String) : String := ofBytes s.toUTF8.toList

def toText (s : String) : String := utf8Lossy (toBytes s) ""

def ofByteArray (d : ByteArray) : String := ofBytes d.toList

def toByteArray (s : String) : ByteArray := ⟨(toBytes s).toArray⟩

end TestRig.Text
