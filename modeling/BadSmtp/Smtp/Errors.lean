import BadSmtp.Go.Text

/-! The synthetic error patterns of errors.go: a code, and an enhanced code, read from a
verb-prefixed local part or a HELO/EHLO hostname. Each regular expression has one way to match,
so the hand-written scans agree with leftmost-first matching. -/
namespace BadSmtp.Smtp
open BadSmtp.Go

def getErrorMessage : Nat → String
  | 421 => "Service not available, closing transmission channel"
  | 450 => "Requested mail action not taken: mailbox unavailable"
  | 451 => "Requested action aborted: local error in processing"
  | 452 => "Requested action not taken: insufficient system storage"
  | 500 => "Syntax error, command unrecognized"
  | 501 => "Syntax error in parameters or arguments"
  | 502 => "Command not implemented"
  | 503 => "Bad sequence of commands"
  | 504 => "Command parameter not implemented"
  | 521 => "Machine does not accept mail"
  | 535 => "Authentication failed"
  | 550 => "Requested action not taken: mailbox unavailable"
  | 551 => "User not local; please try forward path"
  | 552 => "Requested mail action aborted: exceeded storage allocation"
  | 553 => "Requested action not taken: mailbox name not allowed"
  | 554 => "Transaction failed"
  | 571 => "Blocked - see https://example.com/blocked"
  | _ => "Unknown error"

theorem getErrorMessage_length (n : Nat) : 13 ≤ (getErrorMessage n).length := by
  unfold getErrorMessage; split <;> decide

/-- smtp.ErrorResult, without its Message text, which nothing reads. -/
structure ErrorResult where
  code : Nat
  enhanced : String
  deriving DecidableEq, Repr

def spanRun (p : Char → Bool) (s : List Char) : List Char × List Char :=
  (s.takeWhile p, s.dropWhile p)

def matchVerbCode (s : List Char) : Option (List Char × List Char × List Char) :=
  match spanRun isLowerAscii s with
  | ([], _) => none
  | (verb, d1 :: d2 :: d3 :: rest) =>
    if isDigit d1 && isDigit d2 && isDigit d3 then some (verb, [d1, d2, d3], rest) else none
  | _ => none

def matchTriple (s : List Char) : Option (List Char × List Char × List Char) :=
  match spanRun isDigit s with
  | (x, '.' :: r) =>
    match spanRun isDigit r with
    | (y, '.' :: r') =>
      match spanRun isDigit r' with
      | (z, '@' :: _) => if x ≠ [] ∧ y ≠ [] ∧ z ≠ [] then some (x, y, z) else none
      | _ => none
    | _ => none
  | _ => none

def matchExtended (s : List Char) : Option (List Char × List Char × String) :=
  match matchVerbCode s with
  | some (verb, code, '_' :: r) =>
    (matchTriple r).map fun (x, y, z) => (verb, code, ⟨x ++ '.' :: y ++ '.' :: z⟩)
  | _ => none

def matchBasic (s : List Char) : Option (List Char × List Char) :=
  match matchVerbCode s with
  | some (verb, code, '@' :: _) => some (verb, code)
  | _ => none

/-- parsePrefixedError: the enhanced form first, then the basic form, for verb `prefix`. -/
def parsePrefixedError (pre email : String) : Option ErrorResult :=
  let e := (toLower email).data
  let enhanced :=
    match matchExtended e with
    | some (verb, code, enh) => if equalFold ⟨verb⟩ pre then some ⟨digitsValue code, enh⟩ else none
    | none => none
  match enhanced with
  | some r => some r
  | none =>
    match matchBasic e with
    | some (verb, code) => if equalFold ⟨verb⟩ pre then some ⟨digitsValue code, ""⟩ else none
    | none => none

/-- The Extract* family: parsePrefixedError at a fixed verb. -/
def extractMailFromError (email : String) : Option ErrorResult := parsePrefixedError "mail" email
def extractRcptToError (email : String) : Option ErrorResult := parsePrefixedError "rcpt" email
def extractDataError (email : String) : Option ErrorResult := parsePrefixedError "data" email
def extractBdatError (email : String) : Option ErrorResult := parsePrefixedError "bdat" email
def extractRsetError (email : String) : Option ErrorResult := parsePrefixedError "rset" email
def extractQuitError (email : String) : Option ErrorResult := parsePrefixedError "quit" email
def extractStartTLSError (email : String) : Option ErrorResult := parsePrefixedError "starttls" email
def extractNoopError (email : String) : Option ErrorResult := parsePrefixedError "noop" email
def extractAuthError (email : String) : Option ErrorResult := parsePrefixedError "auth" email

/-- heloRegex on the lowercased hostname. -/
def extractHeloError (hostname : String) : Option ErrorResult :=
  match (toLower hostname).data with
  | 'h' :: 'e' :: 'l' :: 'o' :: d1 :: d2 :: d3 :: '.' :: _
  | 'e' :: 'h' :: 'l' :: 'o' :: d1 :: d2 :: d3 :: '.' :: _ =>
    if isDigit d1 && isDigit d2 && isDigit d3 then some ⟨digitsValue [d1, d2, d3], ""⟩
    else none
  | _ => none

theorem spanRun_append {p : Char → Bool} {a : List Char} {c : Char} (r : List Char)
    (ha : ∀ x ∈ a, p x = true) (hc : p c = false) : spanRun p (a ++ c :: r) = (a, c :: r) := by
  induction a with
  | nil => simp [spanRun, hc]
  | cons x a ih =>
    have h := ih fun y hy => ha y (List.mem_cons_of_mem x hy)
    simp only [spanRun, Prod.mk.injEq] at h ⊢
    simp [List.takeWhile_cons, List.dropWhile_cons, ha x (List.mem_cons_self x a), h]

theorem matchVerbCode_scheme {verb : List Char} (hne : verb ≠ [])
    (hv : ∀ ch ∈ verb, isLowerAscii ch = true) {d1 d2 d3 : Char}
    (hd : isDigit d1 = true ∧ isDigit d2 = true ∧ isDigit d3 = true) (r : List Char) :
    matchVerbCode (verb ++ d1 :: d2 :: d3 :: r) = some (verb, [d1, d2, d3], r) := by
  unfold matchVerbCode
  rw [spanRun_append _ hv (isLowerAscii_of_isDigit hd.1)]
  split
  · next h => exact absurd (congrArg Prod.fst h) hne
  · next h => simp_all
  · next h => exact (h _ _ _ _ _ rfl).elim

theorem matchTriple_scheme {x y z : List Char} (hx : x ≠ []) (hy : y ≠ []) (hz : z ≠ [])
    (hd : ∀ ch ∈ x ++ y ++ z, isDigit ch = true) (r : List Char) :
    matchTriple (x ++ '.' :: (y ++ '.' :: (z ++ '@' :: r))) = some (x, y, z) := by
  simp only [List.mem_append, or_imp, forall_and] at hd
  simp [matchTriple, spanRun_append _ hd.1.1 (c := '.') rfl, spanRun_append _ hd.1.2 (c := '.') rfl,
    spanRun_append _ hd.2 (c := '@') rfl, hx, hy, hz]

section
variable {verb : List Char} (hne : verb ≠ []) (hv : ∀ ch ∈ verb, isLowerAscii ch = true)
  {d1 d2 d3 : Char} (hd : isDigit d1 = true ∧ isDigit d2 = true ∧ isDigit d3 = true)
include hne hv hd

theorem matchExtended_basic (r : List Char) :
    matchExtended (verb ++ d1 :: d2 :: d3 :: '@' :: r) = none := by
  simp [matchExtended, matchVerbCode_scheme hne hv hd]

theorem matchBasic_scheme (r : List Char) :
    matchBasic (verb ++ d1 :: d2 :: d3 :: '@' :: r) = some (verb, [d1, d2, d3]) := by
  simp [matchBasic, matchVerbCode_scheme hne hv hd]

theorem matchExtended_scheme {x y z : List Char} (hx : x ≠ []) (hy : y ≠ []) (hz : z ≠ [])
    (hxyz : ∀ ch ∈ x ++ y ++ z, isDigit ch = true) (r : List Char) :
    matchExtended (verb ++ d1 :: d2 :: d3 :: '_' :: (x ++ '.' :: (y ++ '.' :: (z ++ '@' :: r)))) =
      some (verb, [d1, d2, d3], ⟨x ++ '.' :: y ++ '.' :: z⟩) := by
  rw [matchExtended, matchVerbCode_scheme hne hv hd]
  simp only [matchTriple_scheme hx hy hz hxyz, Option.map_some']

end

/-- The address scheme reads back: a verb, three digits and '@' schedule that code. -/
theorem parsePrefixedError_scheme {pre v code : String} (hv : toLower v = pre) (hpre : pre ≠ "")
    (hlow : ∀ ch ∈ pre.data, isLowerAscii ch = true) (hcode : code.length = 3)
    (hdig : ∀ ch ∈ code.data, isDigit ch = true) (rest : String) :
    parsePrefixedError pre (v ++ code ++ "@" ++ rest) = some ⟨digitsValue code.data, ""⟩ ∧
      ∀ {x y z : String}, x ≠ "" → y ≠ "" → z ≠ "" →
        (∀ ch ∈ (x ++ y ++ z).data, isDigit ch = true) →
        parsePrefixedError pre (v ++ code ++ "_" ++ x ++ "." ++ y ++ "." ++ z ++ "@" ++ rest) =
          some ⟨digitsValue code.data, x ++ "." ++ y ++ "." ++ z⟩ := by
  obtain ⟨d1, d2, d3, hc⟩ := List.length_eq_three.1 (hcode : code.data.length = 3)
  have hd : isDigit d1 = true ∧ isDigit d2 = true ∧ isDigit d3 = true := by simpa [hc] using hdig
  have hne : pre.data ≠ [] := fun h => hpre (String.ext h)
  subst hv
  refine ⟨?_, fun {x y z} hx hy hz hxyz => ?_⟩
  · have he : (toLower (v ++ code ++ "@" ++ rest)).data =
        (toLower v).data ++ d1 :: d2 :: d3 :: '@' :: (toLower rest).data := by
      simp [toLower, hc, lower_of_isDigit hd.1, lower_of_isDigit hd.2.1, lower_of_isDigit hd.2.2]
      rfl
    simp only [parsePrefixedError, he, matchExtended_basic hne hlow hd, matchBasic_scheme hne hlow hd]
    simp [equalFold, hc]
  · have hm : ∀ s : String, (∀ ch ∈ s.data, isDigit ch = true) → s.data.map lower = s.data :=
      fun s h => by simpa using List.map_congr_left fun ch hc => lower_of_isDigit (h ch hc)
    have hdx : ∀ ch ∈ x.data ++ y.data ++ z.data, isDigit ch = true := hxyz
    simp only [String.data_append, List.mem_append, or_imp, forall_and] at hxyz
    have he : (toLower (v ++ code ++ "_" ++ x ++ "." ++ y ++ "." ++ z ++ "@" ++ rest)).data =
        (toLower v).data ++ d1 :: d2 :: d3 :: '_' ::
          (x.data ++ '.' :: (y.data ++ '.' :: (z.data ++ '@' :: (toLower rest).data))) := by
      simp [toLower, hc, lower_of_isDigit hd.1, lower_of_isDigit hd.2.1, lower_of_isDigit hd.2.2,
        hm x hxyz.1.1, hm y hxyz.1.2, hm z hxyz.2, show lower '_' = '_' from rfl,
        show lower '.' = '.' from rfl, show lower '@' = '@' from rfl]
    simp only [parsePrefixedError, he, matchExtended_scheme hne hlow hd (fun h => hx (String.ext h))
      (fun h => hy (String.ext h)) (fun h => hz (String.ext h)) hdx]
    simp [equalFold, hc, String.ext_iff]

theorem rcpt550_scheme :
    parsePrefixedError "rcpt" ("RCPT" ++ "550" ++ "@" ++ "example.com") = some ⟨550, ""⟩ ∧
      parsePrefixedError "rcpt" ("RCPT" ++ "550" ++ "_" ++ "5" ++ "." ++ "7" ++ "." ++ "1" ++ "@" ++
        "example.com") = some ⟨550, "5.7.1"⟩ :=
  have h := @parsePrefixedError_scheme "rcpt" "RCPT" "550" (by decide) (by decide) (by decide) rfl
    (by decide) "example.com"
  ⟨h.1, h.2 (x := "5") (y := "7") (z := "1") (by decide) (by decide) (by decide) (by decide)⟩

example : extractRcptToError "rcpt550_5.1.1@y" = some ⟨550, "5.1.1"⟩ ∧
    extractDataError "Data552@x" = some ⟨552, ""⟩ ∧ extractDataError "rset421@x" = none := by
  decide

end BadSmtp.Smtp
