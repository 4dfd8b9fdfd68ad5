import BadSmtp.Server.Session

/-! HELO and EHLO: the capability label of the EHLO hostname, the standard capabilities it
turns off or tunes, and handleHelo, which answers both verbs. -/
namespace BadSmtp.Server
open BadSmtp.Go BadSmtp.Smtp

/-- parseCapabilityLabel: the leftmost label, lowercased, split at every dash. -/
def parseCapabilityLabel (hostname : String) : List String :=
  let label :=
    match index hostname.data '.' with
    | some i => hostname.data.take i
    | none => hostname.data
  ((label.map lower).splitOn '-').map String.mk

def hasCapability (parts : List String) (pattern : String) : Bool :=
  parts.any fun p => contains p.data (toLower pattern).data

def getAuthMechanisms (parts : List String) : String :=
  let pick (acc : String) (part : String) : String :=
    let p := (toLower part).data
    if contains p "authplain".data then "PLAIN"
    else if contains p "authlogin".data then "LOGIN"
    else if contains p "authcram".data then "CRAM-MD5 CRAM-SHA256"
    else if contains p "authoauth".data then "XOAUTH2"
    else acc
  let last := parts.foldl pick ""
  if last ≠ "" then last else "PLAIN LOGIN CRAM-MD5 CRAM-SHA256 XOAUTH2"

def sizeDigits : List Char → Option (List Char)
  | [] => none
  | c :: cs =>
    match c :: cs with
    | 's' :: 'i' :: 'z' :: 'e' :: rest =>
      let ds := rest.takeWhile isDigit
      if ds ≠ [] then some ds else sizeDigits cs
    | _ => sizeDigits cs

def advertisedSizeMin : Int := 1000
def advertisedSizeMax : Int := 10000000

/-- parseAndClampSize: the first positive size<digits>, clamped to the advertised bounds. -/
def parseAndClampSize : List String → Option Int
  | [] => none
  | p :: ps =>
    match sizeDigits p.data >>= atoi with
    | some v =>
      if v ≤ 0 then parseAndClampSize ps
      else some (if v < advertisedSizeMin then advertisedSizeMin
        else if v > advertisedSizeMax then advertisedSizeMax else v)
    | none => parseAndClampSize ps

theorem getMaxMessageSize_le {s : Session} (h : s.advertisedSize ≤ advertisedSizeMax) :
    getMaxMessageSize s ≤ maxMessageSize := by
  unfold getMaxMessageSize maxMessageSize
  unfold advertisedSizeMax at h
  split_ifs <;> omega

theorem parseAndClampSize_le : ∀ {ps : List String} {v : Int}, parseAndClampSize ps = some v →
    v ≤ advertisedSizeMax
  | [], _, h => by cases h
  | p :: ps, v, h => by
    unfold parseAndClampSize at h
    split at h
    · split_ifs at h with h1 h2 h3
      · exact parseAndClampSize_le h
      all_goals cases h
      · decide
      · exact Int.le_refl _
      · exact Int.not_lt.mp h3
    · exact parseAndClampSize_le h

def hasTLS : Bool := true

/-- addStandardCapabilities: the flags and advertised size it sets, and its lines. -/
def addStandardCapabilities (s : Session) (parts : List String) : Session × List String :=
  let off (p : String) : Bool := hasCapability parts p
  let authLines :=
    if off "noauth" then [] else
      let m := getAuthMechanisms parts
      if m ≠ "" then ["250-AUTH " ++ m] else []
  let (adv, sizeLines) :=
    if off "nosize" then (s.advertisedSize, [])
    else
      match parseAndClampSize parts with
      | some v => (v, ["250-SIZE " ++ toString v])
      | none => (s.advertisedSize, ["250-SIZE " ++ toString maxMessageSize])
  let caps : Capabilities :=
    { size := !off "nosize", pipelining := !off "nopipelining",
      enhancedStatusCodes := !off "noenhancedstatuscodes", smtputf8 := !off "nosmtputf8",
      chunking := !off "nochunking", starttls := !off "nostarttls" && hasTLS,
      eightBitMime := !off "no8bit" }
  let line (b : Bool) (l : String) : List String := if b then [l] else []
  ({ s with capabilities := caps, advertisedSize := adv },
    authLines ++ line caps.eightBitMime "250-8BITMIME" ++ sizeLines ++
      line caps.pipelining "250-PIPELINING" ++ line caps.starttls "250-STARTTLS" ++
      line caps.chunking "250-CHUNKING" ++ line caps.smtputf8 "250-SMTPUTF8" ++
      line caps.enhancedStatusCodes "250-ENHANCEDSTATUSCODES")

theorem addStandardCapabilities_fst (s : Session) (parts : List String) :
    ∃ caps adv, (addStandardCapabilities s parts).1 =
      { s with capabilities := caps, advertisedSize := adv } ∧
      (adv = s.advertisedSize ∨ parseAndClampSize parts = some adv) := by
  unfold addStandardCapabilities
  dsimp only
  split_ifs
  · exact ⟨_, _, rfl, .inl rfl⟩
  · split
    · exact ⟨_, _, rfl, .inr ‹_›⟩
    · exact ⟨_, _, rfl, .inl rfl⟩

@[simp] theorem addStandardCapabilities_state (s : Session) (parts : List String) :
    (addStandardCapabilities s parts).1.state = s.state := by
  unfold addStandardCapabilities
  split <;> rfl

def joinCrlf : List String → String
  | [] => ""
  | [l] => l
  | l :: ls => l ++ "\r\n" ++ joinCrlf ls

/-- handleEhlo: a reject or noehl part refuses EHLO; otherwise the capability list. -/
def handleEhlo (hostname : String) : GoM Unit := do
  let hostname := toLower hostname
  let parts := parseCapabilityLabel hostname
  if hasCapability parts "reject" || hasCapability parts "noehl" then
    writeResponse "502 Command not implemented"
  else
    let lines ← updateS fun s => addStandardCapabilities s parts
    writeResponse (joinCrlf (["250-badsmtp.test"] ++ lines ++ ["250 OK"]))

/-- handleHelo, which answers HELO and EHLO. -/
def handleHelo (cmd : Command) : GoM Unit := do
  let s ← getS
  if s.state ≠ .helo then
    writeResponse "503 Bad sequence of commands"
  else
    let hostname := cmd.args.headD ""
    modifyS fun s => { s with heloName := hostname }
    match extractHeloError hostname with
    | some e => writeResponse (formatErrorResult s.capabilities e)
    | none =>
      modifyS fun s => { s with state := .mail }
      if cmd.name = Verb.ehlo.name then handleEhlo hostname
      else writeResponse "250 badsmtp.test"

end BadSmtp.Server
