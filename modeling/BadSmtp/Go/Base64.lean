import BadSmtp.Go.Text

/-! encoding/base64's StdEncoding: the standard alphabet with '=' padding, not strict, CR and
LF skipped; DecodeString reads back what EncodeToString writes. -/
namespace BadSmtp.Go

def b64Val (c : Char) : Option Nat :=
  if 'A' ≤ c ∧ c ≤ 'Z' then some (c.toNat - 65)
  else if 'a' ≤ c ∧ c ≤ 'z' then some (c.toNat - 71)
  else if '0' ≤ c ∧ c ≤ '9' then some (c.toNat + 4)
  else if c = '+' then some 62
  else if c = '/' then some 63
  else none

def isNewline (c : Char) : Bool := c = '\n' || c = '\r'

def quantumBytes (vals : List Nat) : List Char :=
  let v := vals ++ List.replicate (4 - vals.length) 0
  let val := v.foldl (fun a x => 64 * a + x) 0
  ([val / 65536 % 256, val / 256 % 256, val % 256].take (vals.length - 1)).map Char.ofNat

def decodeAux : List Nat → List Char → Option (List Char)
  | [], [] => some []
  | _ :: _, [] => none
  | acc, c :: cs =>
    match b64Val c with
    | some v =>
      if acc.length = 3 then (decodeAux [] cs).map (quantumBytes (acc ++ [v]) ++ ·)
      else decodeAux (acc ++ [v]) cs
    | none =>
      if isNewline c then decodeAux acc cs
      else if c ≠ '=' ∨ acc.length < 2 then none
      else if acc.length = 2 then
        match cs.dropWhile isNewline with
        | '=' :: r => if r.dropWhile isNewline = [] then some (quantumBytes acc) else none
        | _ => none
      else if cs.dropWhile isNewline = [] then some (quantumBytes acc) else none

/-- StdEncoding.DecodeString: the decoded bytes, none on an error. -/
def decodeString (s : String) : Option (List Char) := decodeAux [] s.data

def b64Char (n : Nat) : Char :=
  if n < 26 then Char.ofNat (65 + n)
  else if n < 52 then Char.ofNat (71 + n)
  else if n < 62 then Char.ofNat (n - 4)
  else if n = 62 then '+' else '/'

def encodeAux : List Char → List Char
  | [] => []
  | [a] =>
    let v := a.toNat * 65536
    [b64Char (v / 262144 % 64), b64Char (v / 4096 % 64), '=', '=']
  | [a, b] =>
    let v := a.toNat * 65536 + b.toNat * 256
    [b64Char (v / 262144 % 64), b64Char (v / 4096 % 64), b64Char (v / 64 % 64), '=']
  | a :: b :: c :: rest =>
    let v := a.toNat * 65536 + b.toNat * 256 + c.toNat
    b64Char (v / 262144 % 64) :: b64Char (v / 4096 % 64) :: b64Char (v / 64 % 64) ::
      b64Char (v % 64) :: encodeAux rest

def encodeToString (s : List Char) : String := ⟨encodeAux s⟩

example : encodeToString "Username:".data = "VXNlcm5hbWU6" ∧
    decodeString "AGFsaWNlAHB3" = some "\x00alice\x00pw".data := by decide

end BadSmtp.Go
