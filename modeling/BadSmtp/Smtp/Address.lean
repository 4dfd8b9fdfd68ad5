import BadSmtp.Go.Text

/-! Mailbox extraction, validation and normalisation of address.go and commands.go.
net/mail's ParseAddress and the Unicode class tables are the parameter `Lib`; UTF-8 decoding is
written out. -/
namespace BadSmtp.Smtp
open BadSmtp.Go

/-- What the address code takes from Go's standard library: net/mail and unicode's classes. -/
structure Lib where
  parseAddress : String → Option String
  isLetter : Nat → Bool
  isNumber : Nat → Bool
  isMark : Nat → Bool

def inRange (c : Char) (lo hi : Nat) : Bool := lo ≤ c.toNat && c.toNat ≤ hi

/-- utf8.DecodeRune: the rune and the rest, U+FFFD and one byte for a bad sequence. -/
def decodeRune (b0 : Char) (rest : List Char) : Nat × List Char :=
  let x := b0.toNat
  let bad := (0xFFFD, rest)
  if x < 0x80 then (x, rest)
  else if x < 0xC2 then bad
  else if x ≤ 0xDF then
    match rest with
    | b1 :: r => if inRange b1 0x80 0xBF then ((x - 0xC0) * 64 + (b1.toNat - 0x80), r) else bad
    | [] => bad
  else if x ≤ 0xEF then
    let lo := if x = 0xE0 then 0xA0 else 0x80
    let hi := if x = 0xED then 0x9F else 0xBF
    match rest with
    | b1 :: b2 :: r =>
      if inRange b1 lo hi && inRange b2 0x80 0xBF then
        ((x - 0xE0) * 4096 + (b1.toNat - 0x80) * 64 + (b2.toNat - 0x80), r)
      else bad
    | _ => bad
  else if x ≤ 0xF4 then
    let lo := if x = 0xF0 then 0x90 else 0x80
    let hi := if x = 0xF4 then 0x8F else 0xBF
    match rest with
    | b1 :: b2 :: b3 :: r =>
      if inRange b1 lo hi && inRange b2 0x80 0xBF && inRange b3 0x80 0xBF then
        ((x - 0xF0) * 262144 + (b1.toNat - 0x80) * 4096 + (b2.toNat - 0x80) * 64
          + (b3.toNat - 0x80), r)
      else bad
    | _ => bad
  else bad

def runesAux : Nat → List Char → List Nat
  | 0, _ | _, [] => []
  | n + 1, b :: rest =>
    let (r, rest') := decodeRune b rest
    r :: runesAux n rest'

def runes (s : List Char) : List Nat := runesAux s.length s

section
variable (lib : Lib)

def Lib.isLNM (r : Nat) : Bool := lib.isLetter r || lib.isNumber r || lib.isMark r

def Lib.validLabel (label : List Nat) : Bool :=
  match label.head?, label.getLast? with
  | some a, some z =>
    lib.isLNM a && lib.isLNM z && label.length ≤ 63 &&
      label.all (fun r => lib.isLNM r || r = '-'.toNat)
  | _, _ => false

/-- ValidateDomain: non-empty, at most 255 bytes, labels of the domain regex. -/
def validateDomain (domain : String) : Bool :=
  domain.data ≠ [] && domain.data.length ≤ 255 &&
    ((runes domain.data).splitOn '.'.toNat).all lib.validLabel

def apostrophe : Char := Char.ofNat 39
def backtick : Char := Char.ofNat 96

def localPunct : List Char :=
  ['.', '!', '#', '$', '%', '&', apostrophe, '*', '+', '/', '=', '?', '^', '_', backtick, '{', '|',
    '}', '~', '-']

def isAsciiAlnum (c : Char) : Bool :=
  ('a' ≤ c && c ≤ 'z') || ('A' ≤ c && c ≤ 'Z') || isDigit c

def asciiLocal (s : List Char) : Bool := s ≠ [] && s.all (fun c => isAsciiAlnum c || c ∈ localPunct)

def Lib.isAllowedLocalRune (r : Nat) (allowUTF8Local : Bool) : Bool :=
  (localPunct.map Char.toNat).contains r ||
    ((lib.isLetter r || lib.isNumber r) && (allowUTF8Local || r ≤ 127))

def checkParsedAddress (addr : String) (allowUTF8Local : Bool) : Bool :=
  match lastIndex addr.data '@' with
  | none => false
  | some at_ => allowUTF8Local || (runes (addr.data.take at_)).all (· ≤ 127)

def validateFallbackLocal (loc : List Char) (allowUTF8Local : Bool) : Bool :=
  if loc.head? = some '"' ∧ loc.getLast? = some '"' then 2 ≤ loc.length
  else if allowUTF8Local then (runes loc).all (lib.isAllowedLocalRune · true)
  else asciiLocal loc

/-- IsValidMailbox. -/
def isValidMailbox (mailbox : String) (allowUTF8Local : Bool) : Bool :=
  let m := trimSpace mailbox.data
  match lib.parseAddress ⟨m⟩ with
  | some a => checkParsedAddress a allowUTF8Local
  | none =>
    match lib.parseAddress ⟨'<' :: m ++ ['>']⟩ with
    | some a => checkParsedAddress a allowUTF8Local
    | none =>
      match lastIndex m '@' with
      | none => false
      | some at_ =>
        let loc := m.take at_
        let domain := m.drop (at_ + 1)
        loc ≠ [] && domain ≠ [] && loc.length ≤ 64 && domain.length ≤ 255 &&
          validateDomain lib ⟨domain⟩ && validateFallbackLocal lib loc allowUTF8Local

/-- ParseAddress of address.go: net/mail on the argument, then on each field with an '@'. -/
def parseAddress (raw : String) : String :=
  let r := trimSpace raw.data
  if r = [] then ""
  else
    match lib.parseAddress ⟨r⟩ with
    | some a => a
    | none =>
      let toks := (fields r).map (trim · ['<', '>', ',', apostrophe, '"'])
      match toks.find? (contains · ['@']) with
      | none => ""
      | some t => (lib.parseAddress ⟨t⟩).getD ⟨t⟩

/-- ExtractMailboxFromArg: drop a FROM: or TO: prefix, parse, else trim the brackets. -/
def extractMailboxFromArg (arg : String) : String :=
  let up := (toUpper arg).data
  let a :=
    if "FROM:".data.isPrefixOf up then arg.data.drop 5
    else if "TO:".data.isPrefixOf up then arg.data.drop 3
    else arg.data
  let a := trimSpace a
  let p := parseAddress lib ⟨a⟩
  if p ≠ "" then p else ⟨trim a ['<', '>']⟩

def isDelimiter (c : Char) : Bool :=
  isSpace c || c.toNat = 0x85 || c.toNat = 0xA0 || c ∈ ['<', '>', '(', ')', ',', ';', ':']

def angleAddr : List Char → Option (List Char)
  | [] => none
  | '<' :: rest =>
    let inner := rest.takeWhile (· ≠ '>')
    if inner ≠ [] ∧ rest.drop inner.length ≠ [] then some inner else angleAddr rest
  | _ :: rest => angleAddr rest

def extractMailbox (raw : String) : String :=
  let p := parseAddress lib raw
  if p ≠ "" then p
  else
    let r := trimSpace raw.data
    match angleAddr r with
    | some inner => ⟨trimSpace inner⟩
    | none =>
      match lastIndex r '@' with
      | none => ""
      | some at_ =>
        let left := (r.take at_).reverse.takeWhile (fun c => !isDelimiter c)
        let right := (r.drop (at_ + 1)).takeWhile (fun c => !isDelimiter c)
        ⟨trim (left.reverse ++ '@' :: right) ['"', apostrophe, '<', '>', ' ', ',']⟩

end

/-- NormaliseMailbox: the domain after the last '@' lowercased; "" without an '@'. -/
def normaliseMailbox (mailbox : String) : String :=
  let m := trimSpace mailbox.data
  match lastIndex m '@' with
  | none => ""
  | some at_ => ⟨m.take at_ ++ '@' :: (m.drop (at_ + 1)).map lower⟩

end BadSmtp.Smtp
