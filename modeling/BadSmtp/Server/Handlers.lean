import BadSmtp.Server.Ehlo
import BadSmtp.Server.Guards

/-! The command handlers of session.go other than HELO/EHLO and AUTH. A handler that reads a
payload replies up to its read and blocks there (`Flow.wait`); the step that completes the read
runs the rest of it. -/
namespace BadSmtp.Server
open BadSmtp.Go BadSmtp.Smtp

/-- Whether a handler returned, or is blocked in a read. -/
inductive Flow where
  | done | wait
  deriving DecidableEq, Repr

def setPc (p : Pc) : GoM Unit := fun c => (.ok (), { c with pc := p })

@[simp] theorem setPc_apply (p : Pc) (c : Conf) : setPc p c = (.ok (), { c with pc := p }) := rfl

def suspend (p : Pc) : GoM Flow := do
  setPc p
  return .wait

section
variable (cfg : Config) (o : Outcome)

/-- handleMail: refuses a mail<NNN> sender; an accepted sender's patterns are scheduled. -/
def handleMail (cmd : Command) : GoM Unit := do
  let s ← getS
  if s.state ≠ .mail then writeResponse "503 Bad sequence of commands"
  else
    let raw := extractMailboxFromArg cfg.lib (cmd.args.headD "")
    if raw = "" then writeResponse "501 Syntax error in parameters"
    else if !isValidMailbox cfg.lib raw s.capabilities.smtputf8 then
      writeResponse "501 Syntax error in parameters"
    else
      let fromAddr := normaliseMailbox raw
      match extractMailFromError fromAddr with
      | some e => writeResponse (formatErrorResult s.capabilities e)
      | none =>
        modifyS fun s =>
          { s with dataErrorResult := extractDataError fromAddr,
                   rsetErrorResult := extractRsetError fromAddr,
                   quitErrorResult := extractQuitError fromAddr,
                   startTLSErrorResult := extractStartTLSError fromAddr,
                   noopErrorResult := extractNoopError fromAddr,
                   authErrorResult := extractAuthError fromAddr,
                   mailFrom := fromAddr, state := .rcpt }
        writeResponse "250 OK"

def handleRcpt (cmd : Command) : GoM Unit := do
  let s ← getS
  if s.state ≠ .rcpt then writeResponse "503 Bad sequence of commands"
  else
    let raw := extractMailboxFromArg cfg.lib (cmd.args.headD "")
    if raw = "" then writeResponse "501 Syntax error in parameters"
    else if !isValidMailbox cfg.lib raw s.capabilities.smtputf8 then
      writeResponse "501 Syntax error in parameters"
    else
      let toAddr := normaliseMailbox raw
      match extractRcptToError toAddr with
      | some e => writeResponse (formatErrorResult s.capabilities e)
      | none =>
        modifyS fun s => { s with rcptTo := s.rcptTo ++ [toAddr] }
        writeResponse "250 OK"

def vrfyReply (addr : String) (ambiguous : String) : String :=
  let loc := (((splitN addr.data '@' 2).headD []).map lower)
  if "exists".data.isPrefixOf loc then "250 " ++ addr ++ " User exists"
  else if "unknown".data.isPrefixOf loc then "551 User not local; please try forward path"
  else if "ambiguous".data.isPrefixOf loc then ambiguous
  else "550 Requested action not taken: mailbox unavailable"

/-- handleVrfy: answers by the local part and changes nothing. -/
def handleVrfy (cmd : Command) : GoM Unit := do
  let s ← getS
  let raw := extractMailbox cfg.lib (String.intercalate " " cmd.args)
  if raw = "" || !contains raw.data ['@'] then writeResponse "501 Syntax error in parameters"
  else if isValidMailbox cfg.lib raw s.capabilities.smtputf8 then
    writeResponse (vrfyReply (normaliseMailbox raw)
      "553 Requested action not taken: mailbox name not allowed")
  else if s.capabilities.smtputf8 &&
      (match splitN raw.data '@' 2 with
       | [_, domain] => validateDomain cfg.lib ⟨domain⟩
       | _ => false) then
    writeResponse (vrfyReply (normaliseMailbox raw) "553 User ambiguous")
  else writeResponse "501 Syntax error in parameters"

/-- handleRset: the scheduled error, or back to MAIL with sender and recipients cleared. -/
def handleRset : GoM Unit := do
  let s ← getS
  match s.rsetErrorResult with
  | some e => writeResponse (formatErrorResult s.capabilities e)
  | none =>
    modifyS fun s => { s with state := .mail, mailFrom := "", rcptTo := [] }
    writeResponse "250 OK"

def handleNoop : GoM Unit := do
  let s ← getS
  match s.noopErrorResult with
  | some e => writeResponse (formatErrorResult s.capabilities e)
  | none => writeResponse "250 OK"

def handleQuit : GoM Unit := do
  let s ← getS
  match s.quitErrorResult with
  | some e => writeResponse (formatErrorResult s.capabilities e)
  | none => writeResponse "221 Bye"
  modifyS fun s => { s with state := .quit }
  throwErr .eof

/-- handleStartTLS: after 220 and the handshake, s.conn is the TLS connection. -/
def handleStartTLS : GoM Unit := do
  let s ← getS
  match s.startTLSErrorResult with
  | some e => writeResponse (formatErrorResult s.capabilities e)
  | none =>
    if s.tlsState then writeResponse "554 TLS already started"
    else
      writeResponse "220 Ready to start TLS"
      if !o.tls then throwErr .tls
      modifyS fun s => { s with conn := .tls, tlsState := true, state := .helo }

/-- storeMessage: the Message handed to MessageStore.Store, and its error text. -/
def storeMessage (content : String) : GoM (Option String) := do
  let s ← getS
  let msg : Message :=
    { fromAddr := s.mailFrom, toAddrs := s.rcptTo, content := content,
      hostname := s.hostname, tlsUsed := s.tlsState }
  logEvent (.store msg o.store.isNone)
  return o.store

theorem storeMessage_apply (content : String) (c : Conf) : storeMessage o content c =
    (.ok o.store, { c with log := c.log ++ [.store ⟨c.s.mailFrom, c.s.rcptTo, content, c.s.hostname,
      c.s.tlsState⟩ o.store.isNone] }) := rfl

def handleStorageError (err : String) : GoM Unit :=
  if contains err.data "not active".data then
    writeResponse "550 Requested action not taken: mailbox unavailable"
  else if contains err.data "quota".data then
    writeResponse "452 Requested action not taken: insufficient system storage"
  else writeResponse "450 Requested action not taken: mailbox temporarily unavailable"

theorem handleStorageError_eq (err : String) :
    ∃ r, r ≠ "250 OK" ∧ isResponse421 r = false ∧ handleStorageError err = writeResponse r := by
  unfold handleStorageError
  split_ifs
  all_goals exact ⟨_, by decide, by decide, rfl⟩

/-- handleData up to its read: the scheduled error, or DATA, 354 and the body's read. -/
def handleData : GoM Flow := do
  let s ← getS
  if s.state ≠ .rcpt then
    writeResponse "503 Bad sequence of commands"
    return .done
  match s.dataErrorResult with
  | some e =>
    writeResponse (formatErrorResult s.capabilities e)
    return .done
  | none =>
    modifyS fun s => { s with state := .data }
    writeResponse "354 End data with <CR><LF>.<CR><LF>"
    suspend .dataBody

/-- The rest of handleData once ReadDotBytes returned the body. -/
def finishData (data : List Char) : GoM Unit := do
  let s ← getS
  let maxSize := getMaxMessageSize s
  if (data.length : Int) > maxSize then throwErr (.tooLarge maxSize)
  match ← storeMessage o ⟨data⟩ with
  | some err => handleStorageError err
  | none =>
    modifyS resetSessionState
    writeResponse "250 OK Message accepted for delivery"

def maxAlloc : Nat := 2 ^ 48

/-- handleBdat up to its read: each check answered, or the read of `n` bytes. -/
def handleBdat (cmd : Command) : GoM Flow := do
  let s ← getS
  if !(s.state = .rcpt || s.state = .bdat) then
    writeResponse "503 Bad sequence of commands"
    return .done
  match atoi (cmd.args.headD "").data with
  | none =>
    writeResponse "501 Syntax error in parameters"
    return .done
  | some n =>
    if n < 0 then
      writeResponse "501 Syntax error in parameters"
      return .done
    let last := match cmd.args with
      | _ :: a :: _ => equalFold a "LAST"
      | _ => false
    if s.dataErrorResult.isSome && last then
      writeResponse (formatErrorResult s.capabilities (s.dataErrorResult.getD ⟨0, ""⟩))
      return .done
    let maxSize := getMaxMessageSize s
    if wrapInt64 (s.bdatBuffer.length + n) > maxSize then
      writeResponse ("552 Message size exceeds fixed maximum of " ++ toString maxSize ++ " bytes")
      return .done
    if n.toNat > maxAlloc then suspend .crashed
    else suspend (.bdatChunk n.toNat last)

def finishBdat (chunk : List Char) (last : Bool) : GoM Unit := do
  modifyS fun s => { s with bdatBuffer := s.bdatBuffer ++ chunk }
  if last then
    let s ← getS
    match ← storeMessage o ⟨s.bdatBuffer⟩ with
    | some err => handleStorageError err
    | none =>
      modifyS fun s => resetSessionState { s with bdatBuffer := [] }
      writeResponse "250 OK Message accepted for delivery"
  else
    modifyS fun s => { s with state := .bdat }
    writeResponse "250 OK"

end

section
variable {P : Conf → Prop} {Q : Flow → Conf → Prop} {E : GoErr → Conf → Prop}

/-- handleBdat from its exits: each check's reply, and the read it blocks in. -/
theorem Hoare.handleBdat_of (cmd : Command)
    (hreply : ∀ r, Hoare P (do writeResponse r; Pure.pure Flow.done) Q E)
    (hwait : ∀ p, (p = .crashed ∨ ∃ n last, p = .bdatChunk n last) → Hoare P (suspend p) Q E) :
    Hoare P (handleBdat cmd) Q E := by
  unfold handleBdat; dsimp only
  refine Hoare.bind Guards.getS fun _ => ?_
  split
  · exact hreply _ -- 503 outside RCPT and BDAT
  refine Hoare.bind (Guards.pure _) fun _ => ?_
  split
  · exact hreply _ -- 501: the size does not parse
  split
  · exact hreply _ -- 501: a negative size
  refine Hoare.bind (Guards.pure _) fun _ => ?_
  split
  · exact hreply _ -- the scheduled DATA error, on LAST
  refine Hoare.bind (Guards.pure _) fun _ => ?_
  split
  · exact hreply _ -- 552
  refine Hoare.bind (Guards.pure _) fun _ => ?_
  split
  · exact hwait _ (.inl rfl) -- make([]byte, n) panics
  · exact hwait _ (.inr ⟨_, _, rfl⟩)

end

end BadSmtp.Server
