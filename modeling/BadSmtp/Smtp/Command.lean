import BadSmtp.Go.Text

/-! The smtp package's vocabulary: the session states of state.go, and the commands, their
parsing, argument checks and per-state table of commands.go. -/
namespace BadSmtp.Smtp
open BadSmtp.Go

/-- smtp.State. -/
inductive State where
  | greeting | helo | auth | mail | rcpt | data | bdat | quit
  deriving DecidableEq, Repr

def State.toString : State → String
  | .greeting => "GREETING"
  | .helo => "HELO"
  | .auth => "AUTH"
  | .mail => "MAIL"
  | .rcpt => "RCPT"
  | .data => "DATA"
  | .bdat => "BDAT"
  | .quit => "QUIT"

def State.canTransitionTo : State → State → Bool
  | .greeting, .helo => true
  | .helo, .mail | .helo, .auth => true
  | .auth, .mail => true
  | .mail, .rcpt | .mail, .quit => true
  | .rcpt, .data | .rcpt, .bdat | .rcpt, .rcpt => true
  | .data, .mail | .data, .quit => true
  | .bdat, .bdat | .bdat, .mail | .bdat, .quit => true
  | _, _ => false

/-- The command names of commands.go, those Command.IsValid accepts. -/
inductive Verb where
  | helo | ehlo | auth | mail | rcpt | data | bdat | rset | noop | quit | starttls | vrfy
  deriving DecidableEq, Repr

def Verb.name : Verb → String
  | .helo => "HELO"
  | .ehlo => "EHLO"
  | .auth => "AUTH"
  | .mail => "MAIL"
  | .rcpt => "RCPT"
  | .data => "DATA"
  | .bdat => "BDAT"
  | .rset => "RSET"
  | .noop => "NOOP"
  | .quit => "QUIT"
  | .starttls => "STARTTLS"
  | .vrfy => "VRFY"

def Verb.all : List Verb :=
  [.helo, .ehlo, .auth, .mail, .rcpt, .data, .bdat, .rset, .noop, .quit, .starttls, .vrfy]

def Verb.ofName (n : String) : Option Verb := Verb.all.find? (·.name = n)

theorem Verb.ofName_name (v : Verb) : Verb.ofName v.name = some v := by
  cases v <;> rfl

structure Command where
  name : String
  args : List String
  deriving DecidableEq, Repr

/-- ParseCommand: the first field, upper-cased, and the remaining fields. -/
def parseCommand (line : String) : Option Command :=
  match fields line.data with
  | [] => none
  | w :: ws => some ⟨toUpper ⟨w⟩, ws.map String.mk⟩

def validateArgs (v : Verb) (args : List String) : Option String :=
  let bad := some "501 Syntax error in parameters"
  match v, args with
  | .helo, [] | .ehlo, [] | .auth, [] | .mail, [] | .rcpt, [] | .bdat, [] | .vrfy, [] => bad
  | .mail, a :: _ => if "FROM:".data.isPrefixOf (toUpper a).data then none else bad
  | .rcpt, a :: _ => if "TO:".data.isPrefixOf (toUpper a).data then none else bad
  | .bdat, _ :: b :: _ => if equalFold b "LAST" then none else bad
  | _, _ => none

theorem validateArgs_eq_some {v : Verb} {args : List String} {e : String}
    (h : validateArgs v args = some e) : e = "501 Syntax error in parameters" := by
  unfold validateArgs at h
  split at h <;> (try split at h) <;> first | exact (Option.some.inj h).symm | cases h

/-- Command.IsAllowedInState: the per-state table of commands.go. -/
def Verb.allowedIn : Verb → State → Bool
  | .helo, s | .ehlo, s => s = .helo || s = .mail
  | .auth, s => s = .mail || s = .auth
  | .mail, s => s = .mail
  | .rcpt, s | .data, s => s = .rcpt
  | .bdat, s => s = .rcpt || s = .bdat
  | .rset, s => s = .helo || s = .mail || s = .rcpt || s = .auth
  | .noop, s | .quit, s => s ≠ .greeting && s ≠ .quit
  | .starttls, s => s = .helo || s = .mail
  | .vrfy, _ => true

end BadSmtp.Smtp
