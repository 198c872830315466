/-!
Base64 text (the standard alphabet, with `=` padding) read back into bytes, and bytes read as
UTF-8 text with every byte that starts no valid sequence shown as the replacement character.

The reader skips carriage returns and line feeds wherever they stand.
-/

namespace TestRig.Text

def base64Value? (c : Char) : Option Nat :=
  if 'A' ≤ c && c ≤ 'Z' then some (c.toNat - 'A'.toNat)
  else if 'a' ≤ c && c ≤ 'z' then some (c.toNat - 'a'.toNat + 26)
  else if '0' ≤ c && c ≤ '9' then some (c.toNat - '0'.toNat + 52)
  else if c == '+' then some 62
  else if c == '/' then some 63
  else none

def base64Group (vs : List Nat) : List UInt8 :=
  let bits := vs.foldl (fun acc v => acc * 64 + v) 0
  let width := 6 * vs.length
  let count := width / 8
  (List.range count).map fun i => UInt8.ofNat (bits / Nat.pow 2 (width - 8 * (i + 1)) % 256)

def base64Groups : List Char → List UInt8 → Option (List UInt8)
  | [], acc => some acc
  | [a, b, '=', '='], acc => do
    let vs ← [a, b].mapM base64Value?
    some (acc ++ base64Group vs)
  | [a, b, c, '='], acc => do
    let vs ← [a, b, c].mapM base64Value?
    some (acc ++ base64Group vs)
  | a :: b :: c :: d :: rest, acc => do
    let vs ← [a, b, c, d].mapM base64Value?
    base64Groups rest (acc ++ base64Group vs)
  | _, _ => none

def decodeBase64 (s : String) : Option (List UInt8) :=
  base64Groups (s.toList.filter fun c => c != '\r' && c != '\n') []

def isContinuation (b : UInt8) : Bool := b.toNat / 64 == 2

def utf8Lossy : List UInt8 → String → String
  | [], acc => acc
  | b :: rest, acc =>
    let v := b.toNat
    let bad := utf8Lossy rest (acc.push '�')
    if v < 0x80 then utf8Lossy rest (acc.push (Char.ofNat v))
    else if v < 0xC2 then bad
    else if v < 0xE0 then
      match rest with
      | c :: r =>
        if isContinuation c then utf8Lossy r (acc.push (Char.ofNat ((v % 32) * 64 + c.toNat % 64)))
        else bad
      | [] => bad
    else if v < 0xF0 then
      match rest with
      | c :: d :: r =>
        let lo := if v == 0xE0 then 0xA0 else 0x80
        let hi := if v == 0xED then 0x9F else 0xBF
        if lo ≤ c.toNat && c.toNat ≤ hi && isContinuation d then
          utf8Lossy r (acc.push (Char.ofNat ((v % 16) * 4096 + (c.toNat % 64) * 64 + d.toNat % 64)))
        else bad
      | _ => bad
    else if v < 0xF5 then
      match rest with
      | c :: d :: e :: r =>
        let lo := if v == 0xF0 then 0x90 else 0x80
        let hi := if v == 0xF4 then 0x8F else 0xBF
        if lo ≤ c.toNat && c.toNat ≤ hi && isContinuation d && isContinuation e then
          utf8Lossy r (acc.push (Char.ofNat ((v % 8) * 262144 + (c.toNat % 64) * 4096 +
            (d.toNat % 64) * 64 + e.toNat % 64)))
        else bad
      | _ => bad
    else bad

end TestRig.Text
