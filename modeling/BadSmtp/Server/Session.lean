import BadSmtp.Go.Reader
import BadSmtp.Smtp.Command
import BadSmtp.Smtp.Errors
import BadSmtp.Smtp.Address

/-! The session of session.go as a state record with its connection and a log of what it
did. Go functions on it are `GoM` computations, which return a value or an error and keep, as
Go does, every mutation made before the error. -/
namespace BadSmtp.Server
open BadSmtp.Go BadSmtp.Smtp

inductive Conn where
  | plain | tls
  deriving DecidableEq, Repr

structure Reader where
  src : Conn
  buf : List Char
  deriving DecidableEq, Repr

structure Capabilities where
  size : Bool
  pipelining : Bool
  enhancedStatusCodes : Bool
  smtputf8 : Bool
  chunking : Bool
  starttls : Bool
  eightBitMime : Bool
  deriving DecidableEq, Repr

def Capabilities.none : Capabilities := ⟨false, false, false, false, false, false, false⟩

/-- The fields of Session that the modelled code reads or writes. -/
structure Session where
  conn : Conn
  connReader : Option Reader
  state : State
  heloName : String
  mailFrom : String
  rcptTo : List String
  authenticated : Bool
  tlsState : Bool
  hostname : String
  capabilities : Capabilities
  responseQueue : List String
  pipeliningMode : Bool
  advertisedSize : Int
  bdatBuffer : List Char
  dataErrorResult : Option ErrorResult
  rsetErrorResult : Option ErrorResult
  quitErrorResult : Option ErrorResult
  startTLSErrorResult : Option ErrorResult
  noopErrorResult : Option ErrorResult
  authErrorResult : Option ErrorResult
  deriving DecidableEq, Repr

structure Message where
  fromAddr : String
  toAddrs : List String
  content : String
  hostname : String
  tlsUsed : Bool
  deriving DecidableEq, Repr

/-- What the session did, in order: the log a run leaves. -/
inductive Event where
  /-- runCommandLoop took a command line (trimmed, not blank) -/
  | line (l : String)
  /-- a response was produced: passed to writeResponse, or a 334 challenge an AUTH
  mechanism wrote itself -/
  | reply (r : String)
  /-- readMessageContent read a DATA body (decoded) -/
  | body (b : List Char)
  /-- readBDATChunk read a chunk -/
  | chunk (b : List Char)
  /-- an AUTH mechanism read a line through its own reader -/
  | authLine (l : List Char)
  /-- MessageStore.Store was called; `ok` when it returned nil -/
  | store (m : Message) (ok : Bool)
  deriving DecidableEq, Repr

inductive AuthWait where
  | plain
  | loginUser
  | loginPass (user : List Char)
  | cram
  | xoauth2
  deriving DecidableEq, Repr

/-- Where the session's goroutine is. -/
inductive Pc where
  | start
  | loop
  | dataBody
  | bdatChunk (n : Nat) (last : Bool)
  | bdatCrlf (chunk : List Char) (last : Bool)
  | authLine (w : AuthWait) (priv : List Char)
  | exited (err : Option GoErr)
  /-- a runtime panic (makeslice: len out of range), which ends the whole process -/
  | crashed
  deriving DecidableEq, Repr

/-- A session with its connection: the socket, the output and where the goroutine is. -/
structure Conf where
  s : Session
  pc : Pc
  sock : List Char
  eof : Bool
  broken : Bool
  out : List String
  writeFailed : Bool
  closes : Nat
  log : List Event
  deriving DecidableEq, Repr

/-- The configuration a session runs under: standard library, Authenticator, port behaviour. -/
structure Config where
  lib : Lib
  authenticate : String → Option Bool
  dropImmediate : Bool
  dropDelay : Nat
  tlsHostname : String

/-- What the rest of the world decides during one step: Store, handshake, clock, pid. -/
structure Outcome where
  store : Option String
  tls : Bool
  now : Nat
  pid : Nat

def maxMessageSize : Int := 10 * 1024 * 1024

def maxCommandLength : Nat := 4096

def Conf.init (implicitTls : Bool) (hostname : String) : Conf where
  s := { conn := if implicitTls then .tls else .plain, connReader := none, state := .greeting,
         heloName := "", mailFrom := "", rcptTo := [], authenticated := false,
         tlsState := implicitTls, hostname := hostname, capabilities := .none,
         responseQueue := [], pipeliningMode := false, advertisedSize := 0, bdatBuffer := [],
         dataErrorResult := none, rsetErrorResult := none, quitErrorResult := none,
         startTLSErrorResult := none, noopErrorResult := none, authErrorResult := none }
  pc := .start
  sock := []
  eof := false
  broken := false
  out := []
  writeFailed := false
  closes := 0
  log := []

/-- A Go function on the session's goroutine. -/
def GoM (α : Type) : Type := Conf → Except GoErr α × Conf

def GoM.pure {α : Type} (a : α) : GoM α := fun c => (.ok a, c)

def GoM.bind {α β : Type} (x : GoM α) (f : α → GoM β) : GoM β := fun c =>
  match x c with
  | (.ok a, c') => f a c'
  | (.error e, c') => (.error e, c')

instance : Monad GoM where
  pure := GoM.pure
  bind := GoM.bind

@[simp] theorem GoM.pure_apply {α : Type} (a : α) (c : Conf) :
    Pure.pure (f := GoM) a c = (.ok a, c) := rfl

@[simp] theorem GoM.bind_apply {α β : Type} (x : GoM α) (f : α → GoM β) (c : Conf) :
    (x >>= f) c = match x c with
      | (.ok a, c') => f a c'
      | (.error e, c') => (.error e, c') := rfl

def throwErr {α : Type} (e : GoErr) : GoM α := fun c => (.error e, c)

/-- `err := f()`: the error a computation returns, as a value. -/
def attempt {α : Type} (x : GoM α) : GoM (Except GoErr α) := fun c =>
  let r := x c
  (.ok r.1, r.2)

def getS : GoM Session := fun c => (.ok c.s, c)

def modifyS (f : Session → Session) : GoM Unit := fun c => (.ok (), { c with s := f c.s })

def updateS {α : Type} (f : Session → Session × α) : GoM α := fun c =>
  (.ok (f c.s).2, { c with s := (f c.s).1 })

def logEvent (e : Event) : GoM Unit := fun c => (.ok (), { c with log := c.log ++ [e] })

def connWrite (line : String) : GoM Unit := fun c =>
  if c.broken || 0 < c.closes then (.error .write, { c with writeFailed := true })
  else (.ok (), { c with out := c.out ++ [line] })

def connClose : GoM Unit := fun c => (.ok (), { c with closes := c.closes + 1 })

@[simp] theorem throwErr_apply {α : Type} (e : GoErr) (c : Conf) :
    (throwErr e : GoM α) c = (.error e, c) := rfl

@[simp] theorem attempt_apply {α : Type} (x : GoM α) (c : Conf) :
    attempt x c = (.ok (x c).1, (x c).2) := rfl

@[simp] theorem getS_apply (c : Conf) : getS c = (.ok c.s, c) := rfl

@[simp] theorem modifyS_apply (f : Session → Session) (c : Conf) :
    modifyS f c = (.ok (), { c with s := f c.s }) := rfl

@[simp] theorem updateS_apply {α : Type} (f : Session → Session × α) (c : Conf) :
    updateS f c = (.ok (f c.s).2, { c with s := (f c.s).1 }) := rfl

@[simp] theorem logEvent_apply (e : Event) (c : Conf) :
    logEvent e c = (.ok (), { c with log := c.log ++ [e] }) := rfl

@[simp] theorem connClose_apply (c : Conf) :
    connClose c = (.ok (), { c with closes := c.closes + 1 }) := rfl

def Conf.writable (c : Conf) : Bool := !c.broken && c.closes = 0

@[simp] theorem Conf.writable_out (c : Conf) (o : List String) :
    ({ c with out := o } : Conf).writable = c.writable := rfl

@[simp] theorem Conf.writable_log (c : Conf) (l : List Event) :
    ({ c with log := l } : Conf).writable = c.writable := rfl

@[simp] theorem Conf.writable_s (c : Conf) (s : Session) :
    ({ c with s := s } : Conf).writable = c.writable := rfl

@[simp] theorem Conf.writable_writeFailed (c : Conf) (w : Bool) :
    ({ c with writeFailed := w } : Conf).writable = c.writable := rfl

@[simp] theorem connWrite_apply (line : String) (c : Conf) :
    connWrite line c =
      if c.writable then (.ok (), { c with out := c.out ++ [line] })
      else (.error .write, { c with writeFailed := true }) := by
  by_cases h : c.broken = true <;> by_cases h' : c.closes = 0 <;>
    simp [connWrite, Conf.writable, h, h', Nat.pos_iff_ne_zero]

def writeAll : List String → GoM Unit
  | [] => pure ()
  | r :: rs => do connWrite r; writeAll rs

theorem writeAll_apply (rs : List String) (c : Conf) :
    writeAll rs c =
      if c.writable ∨ rs = [] then (.ok (), { c with out := c.out ++ rs })
      else (.error .write, { c with writeFailed := true }) := by
  induction rs generalizing c with
  | nil => simp [writeAll]
  | cons r rs ih =>
    by_cases h : c.writable <;> simp [writeAll, h, ih]

/-- flushResponses: every queued response, in order, then an empty queue. -/
def flushResponses : GoM Unit := do
  let s ← getS
  if s.responseQueue.isEmpty then return
  writeAll s.responseQueue
  modifyS fun s => { s with responseQueue := [] }

theorem flushResponses_eq (c : Conf) :
    flushResponses c =
      if c.s.responseQueue = [] then (.ok (), c)
      else if c.writable then
        (.ok (), { c with out := c.out ++ c.s.responseQueue, s := { c.s with responseQueue := [] } })
      else (.error .write, { c with writeFailed := true }) := by
  unfold flushResponses
  by_cases hq : c.s.responseQueue = [] <;> by_cases hw : c.writable <;> simp [hq, hw, writeAll_apply]

def firstLine : List Char → List Char
  | [] => []
  | '\r' :: '\n' :: _ => []
  | c :: cs => c :: firstLine cs

/-- isResponse421: the first line's 3-byte number is 421, or it is 421's message. -/
def isResponse421 (response : String) : Bool :=
  if response.data = [] then false
  else
    let first := (firstLine response.data).dropWhile (fun c => c = ' ' || c = '\t')
    match (if 3 ≤ first.length then atoi (first.take 3) else none) with
    | some code => code = 421
    | none =>
      let canon := toLower (getErrorMessage 421)
      let noCode := if "421 ".data.isPrefixOf first then first.drop 4 else first
      equalFold ⟨trimSpace first⟩ canon || equalFold ⟨trimSpace noCode⟩ canon

theorem isResponse421_code {a b d : Char} {n : Int} (x : List Char) (hs : a ≠ ' ' ∧ a ≠ '\t')
    (hr : a ≠ '\r' ∧ b ≠ '\r' ∧ d ≠ '\r') (hn : atoi [a, b, d] = some n) :
    isResponse421 ⟨a :: b :: d :: x⟩ = decide (n = 421) := by
  have hf : firstLine (a :: b :: d :: x) = a :: b :: d :: firstLine x := by
    simp [firstLine, hr.1, hr.2.1, hr.2.2]
  unfold isResponse421
  simp [hf, List.dropWhile, hs.1, hs.2, hn]

/-- writeResponse: queued in pipelining mode unless a 421; a 421 closes the connection. -/
def writeResponse (response : String) : GoM Unit := do
  logEvent (.reply response)
  let is421 := isResponse421 response
  let s ← getS
  if s.pipeliningMode && !is421 then
    modifyS fun s => { s with responseQueue := s.responseQueue ++ [response] }
    return
  if s.pipeliningMode && is421 then
    flushResponses
    connWrite response
    connClose
    throwErr .eof
  connWrite response
  if is421 then
    connClose
    throwErr .eof

theorem writeResponse_eq (r : String) (c : Conf) :
    writeResponse r c =
      let c1 : Conf := { c with log := c.log ++ [.reply r] }
      if c.s.pipeliningMode ∧ isResponse421 r = false then
        (.ok (), { c1 with s := { c.s with responseQueue := c.s.responseQueue ++ [r] } })
      else if c.writable then
        let c2 : Conf :=
          { c1 with out := c.out ++ (if c.s.pipeliningMode then c.s.responseQueue else []) ++ [r],
                    s := { c.s with responseQueue :=
                      if c.s.pipeliningMode then [] else c.s.responseQueue } }
        if isResponse421 r then (.error .eof, { c2 with closes := c.closes + 1 })
        else (.ok (), c2)
      else (.error .write, { c1 with writeFailed := true }) := by
  unfold writeResponse
  by_cases hp : c.s.pipeliningMode <;> by_cases h4 : isResponse421 r <;> by_cases hw : c.writable <;>
    simp [hp, h4, hw, flushResponses_eq]
  all_goals
    by_cases hq : c.s.responseQueue = [] <;> obtain ⟨⟨⟩, _⟩ := c <;> simp_all [Conf.writable] <;>
    split_ifs <;> simp_all

theorem writeResponse_frame (r : String) (c : Conf) : ∃ q o w n,
    (writeResponse r c).2 =
      { c with s := { c.s with responseQueue := q }, out := o, writeFailed := w, closes := n,
               log := c.log ++ [.reply r] } := by
  rw [writeResponse_eq]
  split_ifs <;> exact ⟨_, _, _, _, rfl⟩

def flushAndReturn (cmdErr : Option GoErr) : GoM Unit := do
  flushResponses
  match cmdErr with
  | none => pure ()
  | some e => throwErr e

def formatErrorResult (caps : Capabilities) (e : ErrorResult) : String :=
  if caps.enhancedStatusCodes && e.enhanced ≠ "" then
    toString e.code ++ " " ++ e.enhanced ++ " " ++ getErrorMessage e.code
  else toString e.code ++ " " ++ getErrorMessage e.code

theorem formatErrorResult_ne (caps : Capabilities) (e : ErrorResult) :
    formatErrorResult caps e ≠ "250 OK" := by
  intro h
  have hl := congrArg String.length h
  have hm := getErrorMessage_length e.code
  have h6 : "250 OK".length = 6 := by decide
  have h1 : " ".length = 1 := by decide
  unfold formatErrorResult at hl
  split_ifs at hl <;> simp only [String.length_append, h6, h1] at hl <;> omega

def getMaxMessageSize (s : Session) : Int :=
  if 0 < s.advertisedSize then s.advertisedSize else maxMessageSize

def resetSessionState (s : Session) : Session :=
  { s with state := .mail, rcptTo := [], mailFrom := "", dataErrorResult := none,
           rsetErrorResult := none, quitErrorResult := none, startTLSErrorResult := none,
           noopErrorResult := none, authErrorResult := none }

end BadSmtp.Server
