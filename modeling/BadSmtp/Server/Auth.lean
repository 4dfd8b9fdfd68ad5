import BadSmtp.Server.Handlers
import BadSmtp.Go.Base64

/-! handleAuth and the mechanism handlers of auth.go. A mechanism writes its 334 challenges
straight to the connection and reads through a bufio.Reader of its own, which the session's
reader never sees. -/
namespace BadSmtp.Server
open BadSmtp.Go BadSmtp.Smtp

inductive Mech where
  | plain | login | cram | xoauth2
  deriving DecidableEq, Repr

/-- auth.NewHandler, by the upper-cased mechanism name. -/
def newHandler (mech : String) : Option Mech :=
  let m := toUpper mech
  if m = "PLAIN" then some .plain
  else if m = "LOGIN" then some .login
  else if m = "CRAM-MD5" ∨ m = "CRAM-SHA256" then some .cram
  else if m = "XOAUTH2" then some .xoauth2
  else none

def plainUser (authData : String) : Except GoErr String :=
  if authData = "" then .error .auth
  else
    match decodeString authData with
    | none => .error .auth
    | some d =>
      match splitN d '\x00' 3 with
      | [_, user, _] => .ok ⟨user⟩
      | _ => .error .auth

def cramUser (line : List Char) : Except GoErr String :=
  match decodeString ⟨trimSpace line⟩ with
  | none => .error .auth
  | some d =>
    match splitN d ' ' 2 with
    | [user, _] => .ok ⟨user⟩
    | _ => .error .auth

def oauthUser : List Char → Option (List Char)
  | [] => none
  | c :: cs =>
    match c :: cs with
    | 'u' :: 's' :: 'e' :: 'r' :: '=' :: rest =>
      let v := rest.takeWhile (fun x => x ≠ ',' && x ≠ '\x01')
      if v ≠ [] then some v else oauthUser cs
    | _ => oauthUser cs

def xoauthUser (data : String) : Except GoErr String :=
  if data = "" then .error .auth
  else
    match decodeString data with
    | none => .error .auth
    | some d =>
      match oauthUser d with
      | some u => .ok ⟨u⟩
      | none => .error .auth

/-- A mechanism's challenge: conn.Write of the line, and a produced reply. -/
def writeChallenge (r : String) : GoM Unit := do
  logEvent (.reply r)
  connWrite r

def isValidAuth (username : String) : Bool := !contains username.data "badauth".data

def defaultAuthenticate (username : String) : Option Bool :=
  if isValidAuth username then some true else none

def done (x : GoM Unit) : GoM Flow := do
  x
  return .done

section
variable (cfg : Config) (o : Outcome)

/-- handleAuth once the mechanism returned: the Authenticator's verdict on the username. -/
def authFinish (r : Except GoErr String) : GoM Unit :=
  match r with
  | .error _ => writeResponse "535 Authentication failed"
  | .ok user =>
    match cfg.authenticate user with
    | none => writeResponse "535 Authentication failed"
    | some false => writeResponse "535 Authentication failed: account inactive"
    | some true => do
      modifyS fun s => { s with authenticated := true, state := .mail }
      writeResponse "235 Authentication successful"

/-- A mechanism's Authenticate up to its first read. -/
def authStart (m : Mech) (parts : List String) : GoM Flow :=
  match m with
  | .plain =>
    match parts with
    | _ :: _ :: d :: _ => done (authFinish cfg (plainUser d))
    | [_, _] => suspend (.authLine .plain [])
    | _ => done (authFinish cfg (.error .auth))
  | .login => do
    match ← attempt (writeChallenge ("334 " ++ encodeToString "Username:".data)) with
    | .error e => done (authFinish cfg (.error e))
    | .ok () => suspend (.authLine .loginUser [])
  | .cram => do
    let challenge := "<" ++ toString o.now ++ "." ++ toString o.pid ++ "@badsmtp.test>"
    match ← attempt (writeChallenge ("334 " ++ encodeToString challenge.data)) with
    | .error e => done (authFinish cfg (.error e))
    | .ok () => suspend (.authLine .cram [])
  | .xoauth2 =>
    match parts with
    | _ :: _ :: d :: _ => done (authFinish cfg (xoauthUser d))
    | [_, _] => do
      match ← attempt (writeChallenge "334 ") with
      | .error e => done (authFinish cfg (.error e))
      | .ok () => suspend (.authLine .xoauth2 [])
    | _ => done (authFinish cfg (.error .auth))

/-- The rest of a mechanism once its own reader's ReadLine returned `line`. -/
def authResume (w : AuthWait) (line : Except GoErr (List Char)) (priv : List Char) : GoM Flow :=
  match w, line with
  | .plain, .ok l => done (authFinish cfg (plainUser ⟨trimSpace l⟩))
  | .plain, .error _ => done (authFinish cfg (plainUser ""))
  | .loginUser, .ok l =>
    match decodeString ⟨trimSpace l⟩ with
    | none => done (authFinish cfg (.error .auth))
    | some user => do
      match ← attempt (writeChallenge ("334 " ++ encodeToString "Password:".data)) with
      | .error e => done (authFinish cfg (.error e))
      | .ok () => suspend (.authLine (.loginPass user) priv)
  | .loginPass user, .ok _ => done (authFinish cfg (.ok ⟨user⟩))
  | .cram, .ok l => done (authFinish cfg (cramUser l))
  | .xoauth2, .ok l => done (authFinish cfg (xoauthUser ⟨trimSpace l⟩))
  | _, .error _ => done (authFinish cfg (.error .auth))

/-- handleAuth: 503 outside MAIL and AUTH, the scheduled error, 504, or the mechanism. -/
def handleAuth (cmd : Command) : GoM Flow := do
  let s ← getS
  if s.state ≠ .mail && s.state ≠ .auth then
    done (writeResponse "503 Bad sequence of commands")
  else
    match s.authErrorResult with
    | some e => done (writeResponse (formatErrorResult s.capabilities e))
    | none =>
      match newHandler (cmd.args.headD "") with
      | none => done (writeResponse "504 Authentication mechanism not supported")
      | some m => authStart cfg o m (cmd.name :: cmd.args)

end

end BadSmtp.Server
