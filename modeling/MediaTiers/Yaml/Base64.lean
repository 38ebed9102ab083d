import MediaTiers.Failure

/-! Rows of bytes in base 64, written in lines of 76 characters. -/
namespace MediaTiers.Yaml

def base64Alphabet : List Char :=
  "ABCDEFGHIJKLMNOPQRSTUVWXYZabcdefghijklmnopqrstuvwxyz0123456789+/".toList

def sextetChar (n : Nat) : Char :=
  base64Alphabet.getD n '='

def base64Chars : List UInt8 → List Char
  | a :: b :: c :: rest =>
    let n := (a.toNat * 256 + b.toNat) * 256 + c.toNat
    sextetChar (n / 262144) :: sextetChar (n / 4096 % 64) :: sextetChar (n / 64 % 64)
      :: sextetChar (n % 64) :: base64Chars rest
  | [a, b] =>
    let n := (a.toNat * 256 + b.toNat) * 4
    [sextetChar (n / 4096), sextetChar (n / 64 % 64), sextetChar (n % 64), '=']
  | [a] =>
    let n := a.toNat * 16
    [sextetChar (n / 64), sextetChar (n % 64), '=', '=']
  | [] => []

def brokenLines (width : Nat) (cs : List Char) : (bound : Nat) → List Char
  | 0 => []
  | bound + 1 =>
    if cs.isEmpty then []
    else cs.take width ++ '\n' :: brokenLines width (cs.drop width) bound

def base64Text (bs : List UInt8) : String :=
  let cs := base64Chars bs
  String.ofList (brokenLines 76 cs cs.length)

/-- Decodes base 64; other characters do not count. `held` is what the last `count` characters of a
group of four amount to. -/
def base64Bytes : (count held pads : Nat) → List Char → Option (List UInt8)
  | count, _, _, [] => if count == 0 then some [] else none
  | count, held, pads, c :: cs =>
    if c == '=' then
      if count ≥ 2 && count + pads + 1 ≥ 4 then some [] else base64Bytes count held (pads + 1) cs
    else match base64Alphabet.idxOf? c with
      | none => base64Bytes count held pads cs
      | some n =>
        let held := held * 64 + n
        match count with
        | 0 => base64Bytes 1 held 0 cs
        | 1 => (base64Bytes 2 (held % 16) 0 cs).map ((held / 16).toUInt8 :: ·)
        | 2 => (base64Bytes 3 (held % 4) 0 cs).map ((held / 4).toUInt8 :: ·)
        | _ => (base64Bytes 0 0 0 cs).map (held.toUInt8 :: ·)

def bytesValue (s : String) : Except Failure (List UInt8) :=
  if s.toList.any (·.toNat ≥ 0x80) then .error .notYaml
  else match base64Bytes 0 0 0 s.toList with
    | some bs => .ok bs
    | none => .error .notYaml

end MediaTiers.Yaml
