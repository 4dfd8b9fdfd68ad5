import Mathlib.Data.Nat.Digits
import BadSmtp.Props.Addresses
import BadSmtp.Props.Listening

/-! The commands of a mail transaction, one at a time, from a client that waits for each
answer: their command lines, what the session keeps through the transaction, and one triple per
handler on the path that succeeds. -/
namespace BadSmtp.Server
open BadSmtp.Go BadSmtp.Smtp

/-- A command line as a client sends it, parsed as `cmd`. -/
structure CommandLine (line : String) (cmd : Command) : Prop where
  newline : '\n' ∉ line.data
  trim : trimSpace line.data = line.data
  ne : line.data ≠ []
  length : line.data.length ≤ maxCommandLength
  parse : parseCommand line = some cmd

theorem commandLine_of_fields {line : String} {w rest : List Char} {args : List String}
    (hline : line.data = w ++ ' ' :: rest) (hw : w ≠ []) (hws : ∀ ch ∈ w, isSpace ch = false)
    (hsp : ∀ ch ∈ rest, ch = ' ' ∨ isSpace ch = false)
    (hlast : ∃ r ch, rest = r ++ [ch] ∧ isSpace ch = false)
    (hf : fields rest = args.map String.data)
    (hlen : line.data.length ≤ maxCommandLength) : CommandLine line ⟨toUpper ⟨w⟩, args⟩ := by
  refine ⟨fun h => ?_, ?_, by simp [hline], hlen, ?_⟩
  · rw [hline] at h
    simp only [List.mem_append, List.mem_cons] at h
    rcases h with h | h | h
    · exact absurd (hws _ h) (by decide)
    · exact absurd h (by decide)
    · rcases hsp _ h with h' | h' <;> revert h' <;> decide
  · obtain ⟨r, z, rfl, hz⟩ := hlast
    obtain ⟨x, xs, rfl⟩ := List.exists_cons_of_ne_nil hw
    refine trimSpace_of_ends (fun c hc => hws c ?_) fun c hc => ?_
    · simp only [hline, List.cons_append, List.head?_cons, Option.some.injEq] at hc
      exact hc ▸ List.mem_cons_self x xs
    · have hl : line.data = (x :: xs ++ ' ' :: r) ++ [z] := by simp [hline]
      rw [hl, List.getLast?_concat] at hc
      cases hc
      exact hz
  · rw [parseCommand, hline, fields_append_space hw hws, hf]
    simp [List.map_map, Function.comp_def]

theorem commandLine_of_words {line arg : String} {w : List Char}
    (hline : line.data = w ++ ' ' :: arg.data) (hw : w ≠ []) (hws : ∀ ch ∈ w, isSpace ch = false)
    (ha : arg.data ≠ []) (has : ∀ ch ∈ arg.data, isSpace ch = false)
    (hlen : line.data.length ≤ maxCommandLength) : CommandLine line ⟨toUpper ⟨w⟩, [arg]⟩ := by
  obtain ⟨r, z, hz⟩ := (List.eq_nil_or_concat arg.data).resolve_left ha
  rw [List.concat_eq_append] at hz
  exact commandLine_of_fields hline hw hws (fun ch h => .inr (has ch h))
    ⟨r, z, hz, has z (by simp [hz])⟩ (fields_word ha has) hlen

/-- A mailbox a client can send between angle brackets and the session accepts. -/
structure Sendable (lib : Lib) (u : Bool) (a : String) : Prop where
  ne : a.data ≠ []
  blank : ∀ ch ∈ a.data, isSpace ch = false
  parsed : lib.parseAddress ⟨'<' :: a.data ++ ['>']⟩ = some a
  valid : isValidMailbox lib a u = true
  short : a.length ≤ 4084

section
variable {lib : Lib} {u : Bool} {a : String}

theorem Sendable.ne_empty (h : Sendable lib u a) : a ≠ "" :=
  fun e => h.ne (by rw [e])

theorem trimSpace_bracketed (a : String) :
    trimSpace ('<' :: a.data ++ ['>']) = '<' :: a.data ++ ['>'] :=
  trimSpace_of_ends (fun _ hc => by cases hc; rfl) fun _ hc => by
    rw [List.getLast?_concat] at hc
    cases hc; rfl

theorem Sendable.parseAddress (h : Sendable lib u a) :
    BadSmtp.Smtp.parseAddress lib ⟨'<' :: a.data ++ ['>']⟩ = a :=
  parseAddress_of_parsed _ (by rw [trimSpace_bracketed a]; simp)
    (by rw [trimSpace_bracketed a]; exact h.parsed)

theorem bracketed_arg (h : Sendable lib u a) {pre : List Char}
    (hpre : ∀ ch ∈ pre, isSpace ch = false) :
    ∀ ch ∈ pre ++ '<' :: a.data ++ ['>'], isSpace ch = false := by
  simp only [List.mem_append, List.mem_cons, List.not_mem_nil, or_false]
  rintro ch ((h1 | rfl | h1) | rfl)
  · exact hpre ch h1
  · rfl
  · exact h.blank ch h1
  · rfl

theorem commandLine_bracketed (h : Sendable lib u a) {line arg : String} {verb pre : List Char}
    (hline : line.data = verb ++ ' ' :: arg.data) (harg : arg.data = pre ++ '<' :: a.data ++ ['>'])
    (hv : verb ≠ []) (hvs : ∀ ch ∈ verb, isSpace ch = false) (hps : ∀ ch ∈ pre, isSpace ch = false)
    (hlen : verb.length + pre.length ≤ 9) : CommandLine line ⟨toUpper ⟨verb⟩, [arg]⟩ := by
  refine commandLine_of_words hline hv hvs (by simp [harg]) (harg ▸ bracketed_arg h hps) ?_
  have := h.short
  simp only [hline, harg, List.length_append, List.length_cons, List.length_nil, String.length,
    maxCommandLength] at this ⊢
  omega

theorem commandLine_mail (h : Sendable lib u a) :
    CommandLine ("MAIL FROM:<" ++ a ++ ">") ⟨toUpper "MAIL", ["FROM:<" ++ a ++ ">"]⟩ :=
  commandLine_bracketed h (by simp [String.data_append])
    (show ("FROM:<" ++ a ++ ">").data = "FROM:".data ++ '<' :: a.data ++ ['>'] by
      simp [String.data_append]) (by decide) (by decide) (by decide) (by decide)

theorem commandLine_rcpt (h : Sendable lib u a) :
    CommandLine ("RCPT TO:<" ++ a ++ ">") ⟨toUpper "RCPT", ["TO:<" ++ a ++ ">"]⟩ :=
  commandLine_bracketed h (by simp [String.data_append])
    (show ("TO:<" ++ a ++ ">").data = "TO:".data ++ '<' :: a.data ++ ['>'] by
      simp [String.data_append]) (by decide) (by decide) (by decide) (by decide)

theorem isPrefixOf_from (a : String) :
    "FROM:".data.isPrefixOf (toUpper ("FROM:<" ++ a ++ ">")).data = true := by
  simp only [toUpper, String.data_append, List.map_append]
  rfl

theorem isPrefixOf_to (a : String) :
    "TO:".data.isPrefixOf (toUpper ("TO:<" ++ a ++ ">")).data = true ∧
      "FROM:".data.isPrefixOf (toUpper ("TO:<" ++ a ++ ">")).data = false := by
  simp only [toUpper, String.data_append, List.map_append]
  exact ⟨rfl, rfl⟩

theorem extractMailboxFromArg_from (h : Sendable lib u a) :
    extractMailboxFromArg lib ("FROM:<" ++ a ++ ">") = a := by
  have hdrop : ("FROM:<" ++ a ++ ">").data.drop 5 = '<' :: a.data ++ ['>'] := by
    simp [String.data_append]
  simp only [extractMailboxFromArg, isPrefixOf_from a, if_true, hdrop, trimSpace_bracketed a,
    h.parseAddress, ne_eq, h.ne_empty, not_false_eq_true]

theorem extractMailboxFromArg_to (h : Sendable lib u a) :
    extractMailboxFromArg lib ("TO:<" ++ a ++ ">") = a := by
  have hdrop : ("TO:<" ++ a ++ ">").data.drop 3 = '<' :: a.data ++ ['>'] := by
    simp [String.data_append]
  simp only [extractMailboxFromArg, (isPrefixOf_to a).1, (isPrefixOf_to a).2, Bool.false_eq_true,
    if_false, if_true, hdrop, trimSpace_bracketed a, h.parseAddress, ne_eq, h.ne_empty,
    not_false_eq_true]

end

def bdatLine (n : Nat) (last : Bool) : String := "BDAT " ++ toString n ++ if last then " LAST" else ""

def bdatArgs (n : Nat) (last : Bool) : List String := toString n :: if last then ["LAST"] else []

theorem commandLine_bdat {n : Nat} (hn : n ≤ maxAlloc) (last : Bool) :
    CommandLine (bdatLine n last) ⟨toUpper "BDAT", bdatArgs n last⟩ := by
  obtain ⟨hne, hdig, -⟩ := toDigits_spec n
  have hsp : ∀ ch ∈ Nat.toDigits 10 n, isSpace ch = false :=
    fun ch h => isSpace_of_isDigit (hdig ch h)
  have hd : (Nat.toDigits 10 n).length ≤ 15 :=
    Nat.repr_length n 15 (by norm_num) (by simp only [maxAlloc] at hn; omega)
  cases last
  · have hl : (bdatLine n false).data = "BDAT".data ++ ' ' :: Nat.toDigits 10 n := by
      simp [bdatLine, String.data_append]
      rfl
    refine commandLine_of_words hl (by decide) (by decide) hne hsp ?_
    simp only [hl, List.length_append, List.length_cons, List.length_nil, maxCommandLength]
    omega
  · have hl : (bdatLine n true).data =
        "BDAT".data ++ ' ' :: (Nat.toDigits 10 n ++ ' ' :: "LAST".data) := by
      simp [bdatLine, String.data_append]
      rfl
    refine commandLine_of_fields hl (by decide) (by decide) ?_
      ⟨Nat.toDigits 10 n ++ ' ' :: "LAS".data, 'T', by simp, rfl⟩ ?_ ?_
    · intro ch h
      rcases List.mem_append.1 h with h | h
      · exact .inr (hsp ch h)
      rcases List.mem_cons.1 h with h | h
      · exact .inl h
      · exact .inr ((by decide : ∀ ch ∈ "LAST".data, isSpace ch = false) ch h)
    · rw [fields_append_space hne hsp, fields_word (by decide) (by decide)]
      rfl
    · simp only [hl, List.length_append, List.length_cons, List.length_nil, maxCommandLength]
      omega

def Keeps (s₀ s : Session) : Prop :=
  s.capabilities = s₀.capabilities ∧ s.hostname = s₀.hostname ∧ s.tlsState = s₀.tlsState ∧
    s.advertisedSize = s₀.advertisedSize

/-- Between transactions: MAIL state, no recipient, no new QUIT error. -/
structure Between (s₀ s : Session) : Prop where
  state : s.state = .mail
  rcpt : s.rcptTo = []
  buffer : s.bdatBuffer = s₀.bdatBuffer
  keeps : Keeps s₀ s
  quit : s.quitErrorResult = none ∨ s.quitErrorResult = s₀.quitErrorResult

/-- Within a transaction in state `st`: sender `a`, recipients `bs`, buffer `buf`. -/
structure Open (s₀ : Session) (st : State) (a : String) (bs : List String) (buf : List Char)
    (s : Session) : Prop where
  state : s.state = st
  sender : s.mailFrom = a
  rcpt : s.rcptTo = bs
  buffer : s.bdatBuffer = buf
  noDataError : s.dataErrorResult = none
  keeps : Keeps s₀ s

section
variable {s₀ : Session} {st : State} {a : String} {bs : List String} {buf : List Char}

theorem framed_between : Framed (Between s₀) :=
  ⟨fun _ _ h => ⟨h.1, h.2, h.3, h.4, h.5⟩, fun _ _ h => ⟨h.1, h.2, h.3, h.4, h.5⟩,
    fun _ _ h => ⟨h.1, h.2, h.3, h.4, h.5⟩⟩

theorem framed_open : Framed (Open s₀ st a bs buf) :=
  ⟨fun _ _ h => ⟨h.1, h.2, h.3, h.4, h.5, h.6⟩, fun _ _ h => ⟨h.1, h.2, h.3, h.4, h.5, h.6⟩,
    fun _ _ h => ⟨h.1, h.2, h.3, h.4, h.5, h.6⟩⟩

theorem Keeps.maxMessageSize {s : Session} (h : Keeps s₀ s) :
    getMaxMessageSize s = getMaxMessageSize s₀ := by
  simp only [getMaxMessageSize, h.2.2.2]

end

section
variable {p : Session → Prop} {L : List Event} {E : GoErr → Conf → Prop}

theorem answering_modifyS {p' : Session → Prop} {f : Session → Session}
    (hf : ∀ s, p s → p' (f s)) (hr : ∀ s, (f s).connReader = s.connReader) :
    Hoare (Answering p L) (modifyS f) (fun _ => Answering p' L) E :=
  fun c ⟨⟨hl, hs⟩, h⟩ => ⟨⟨hl, hf _ hs⟩, h.1, h.2, h.3, h.4, by rw [hr]; exact h.5⟩

theorem answering_suspend (q : Pc) :
    Hoare (Answering p L) (suspend q) (fun f c => (Answering p L c ∧ c.pc = q) ∧ f = .wait) E :=
  Hoare.bind (answering_setPc q) fun _ => Hoare.pure _ fun _ h => ⟨h, rfl⟩

theorem hoare_after_done {P R : Conf → Prop} {x : GoM Unit}
    (h : Hoare P x (fun _ => R) (fun _ _ => False)) :
    Hoare P (attempt (done x) >>= afterHandler false) (fun f c => R c ∧ f = .done)
      (fun _ _ => False) := by
  refine Hoare.bind (Hoare.attempt (Q := fun r c => R c ∧ r = .ok .done)
    ((hoare_done h).mono (fun _ _ h => ⟨h.1, h.2 ▸ rfl⟩) fun _ _ h => h.elim))
    fun r => Hoare.pull fun hr => ?_
  subst hr
  exact Hoare.pure _ fun _ h => ⟨h, rfl⟩

end

section
variable (cfg : Config) (o : Outcome) {s₀ : Session} {L : List Event} {E : GoErr → Conf → Prop}
  {a b : String} {bs : List String} {buf : List Char}

theorem answering_handleMail (h : Sendable cfg.lib s₀.capabilities.smtputf8 a)
    (he : extractMailFromError (normaliseMailbox a) = none)
    (hd : extractDataError (normaliseMailbox a) = none) :
    Hoare (Answering (Between s₀) L) (handleMail cfg ⟨toUpper "MAIL", ["FROM:<" ++ a ++ ">"]⟩)
      (fun _ => Answering (Open s₀ .rcpt (normaliseMailbox a) [] s₀.bdatBuffer)
        (L ++ [.reply "250 OK"])) E := by
  unfold handleMail
  refine Hoare.getS_bind (R := Between s₀) (fun _ h => h.1.2) fun s hs => ?_
  rw [hs.state, if_neg (not_not.mpr rfl)]
  dsimp only [List.headD_cons]
  rw [extractMailboxFromArg_from h, if_neg h.ne_empty, hs.keeps.1, h.valid, he]
  refine Hoare.bind (answering_modifyS ?_ fun _ => rfl) fun _ => answering_reply framed_open ?_
  · exact fun s hs => ⟨rfl, rfl, hs.rcpt, hs.buffer, hd, hs.keeps⟩
  · decide

theorem answering_handleRcpt (h : Sendable cfg.lib s₀.capabilities.smtputf8 b)
    (he : extractRcptToError (normaliseMailbox b) = none) :
    Hoare (Answering (Open s₀ .rcpt a bs s₀.bdatBuffer) L)
      (handleRcpt cfg ⟨toUpper "RCPT", ["TO:<" ++ b ++ ">"]⟩)
      (fun _ => Answering (Open s₀ .rcpt a (bs ++ [normaliseMailbox b]) s₀.bdatBuffer)
        (L ++ [.reply "250 OK"])) E := by
  unfold handleRcpt
  refine Hoare.getS_bind (R := Open s₀ .rcpt a bs s₀.bdatBuffer) (fun _ h => h.1.2) fun s hs => ?_
  rw [hs.state, if_neg (not_not.mpr rfl)]
  dsimp only [List.headD_cons]
  rw [extractMailboxFromArg_to h, if_neg h.ne_empty, hs.keeps.1, h.valid, he]
  refine Hoare.bind (answering_modifyS ?_ fun _ => rfl) fun _ => answering_reply framed_open ?_
  · exact fun s hs => ⟨hs.state, hs.sender, by rw [← hs.rcpt], hs.buffer, hs.noDataError,
      hs.keeps⟩
  · decide

theorem answering_handleData :
    Hoare (Answering (Open s₀ .rcpt a bs s₀.bdatBuffer) L) handleData
      (fun f c => (Answering (Open s₀ .data a bs s₀.bdatBuffer)
        (L ++ [.reply "354 End data with <CR><LF>.<CR><LF>"]) c ∧ c.pc = .dataBody) ∧ f = .wait)
      E := by
  unfold handleData
  refine Hoare.getS_bind (R := Open s₀ .rcpt a bs s₀.bdatBuffer) (fun _ h => h.1.2) fun s hs => ?_
  rw [hs.state, if_neg (not_not.mpr rfl), hs.noDataError]
  refine Hoare.bind (Guards.pure _) fun _ =>
    Hoare.bind (answering_modifyS ?_ fun _ => rfl) fun _ =>
      Hoare.bind (answering_reply framed_open ?_) fun _ => answering_suspend _
  · exact fun s hs => ⟨rfl, hs.sender, hs.rcpt, hs.buffer, hs.noDataError, hs.keeps⟩
  · decide

theorem answering_storeMessage {st : State} (content : String) :
    Hoare (Answering (Open s₀ st a bs buf) L) (storeMessage o content)
      (fun r c => Answering (Open s₀ st a bs buf)
        (L ++ [.store ⟨a, bs, content, s₀.hostname, s₀.tlsState⟩ o.store.isNone]) c ∧
        r = o.store) E := by
  unfold storeMessage
  refine Hoare.getS_bind (R := Open s₀ st a bs buf) (fun _ h => h.1.2) fun s hs => ?_
  rw [hs.sender, hs.rcpt, hs.keeps.2.1, hs.keeps.2.2.1]
  exact Hoare.bind (answering_logEvent _) fun _ => Hoare.pure _ fun _ h => ⟨h, rfl⟩

theorem answering_finishData (hst : o.store = none) {data : List Char}
    (hs : (data.length : Int) ≤ getMaxMessageSize s₀) :
    Hoare (Answering (Open s₀ .data a bs s₀.bdatBuffer) L) (finishData o data)
      (fun _ => Answering (Between s₀) (L ++ [.store ⟨a, bs, ⟨data⟩, s₀.hostname, s₀.tlsState⟩ true,
        .reply "250 OK Message accepted for delivery"])) E := by
  unfold finishData
  refine Hoare.getS_bind (R := Open s₀ .data a bs s₀.bdatBuffer) (fun _ h => h.1.2)
    fun s hs' => ?_
  dsimp only
  rw [hs'.keeps.maxMessageSize, if_neg (Int.not_lt.mpr hs)]
  refine Hoare.bind (Guards.pure _) fun _ =>
    Hoare.bind (answering_storeMessage o _) fun r => Hoare.pull fun hr => ?_
  subst hr
  rw [hst, Option.isNone_none]
  refine Hoare.bind (answering_modifyS (fun s hs => ⟨rfl, rfl, hs.buffer, hs.keeps, .inl rfl⟩) fun _ => rfl)
    fun _ =>
    (answering_reply framed_between ?_).mono (fun _ _ h => by rwa [List.append_assoc] at h)
      fun _ _ h => h
  decide

theorem answering_handleBdat {st : State} (hst : st = .rcpt ∨ st = .bdat) {n : Nat} (last : Bool)
    (hsize : buf.length + n ≤ maxAlloc)
    (hmax : ((buf.length + n : Nat) : Int) ≤ getMaxMessageSize s₀) :
    Hoare (Answering (Open s₀ st a bs buf) L) (handleBdat ⟨toUpper "BDAT", bdatArgs n last⟩)
      (fun f c => (Answering (Open s₀ st a bs buf) L c ∧ c.pc = .bdatChunk n last) ∧ f = .wait)
      E := by
  have h63 : n < 2 ^ 63 := by simp only [maxAlloc] at hsize; omega
  unfold handleBdat
  refine Hoare.getS_bind (R := Open s₀ st a bs buf) (fun _ h => h.1.2) fun s hs => ?_
  have hrb : (s.state = .rcpt || s.state = .bdat) = true := by
    rcases hst with h | h <;> simp [hs.state, h]
  have hw : wrapInt64 ((s.bdatBuffer.length : Int) + (n : Int)) = ((buf.length + n : Nat) : Int) := by
    rw [hs.buffer, wrapInt64_of_lt (by omega) (by simp only [maxAlloc] at hsize; omega)]
    push_cast
    rfl
  have hn : ¬((n : Int).toNat > maxAlloc) := by
    rw [Int.toNat_ofNat]
    omega
  rw [hrb]
  dsimp only [bdatArgs, List.headD_cons]
  rw [show (toString n).data = Nat.toDigits 10 n from rfl, atoi_toDigits h63, if_neg (by decide)]
  refine Hoare.bind (Guards.pure _) fun _ => ?_
  dsimp only
  rw [if_neg (by omega), if_neg (by simp [hs.noDataError]), hw, hs.keeps.maxMessageSize,
    if_neg (by omega), if_neg hn, Int.toNat_ofNat]
  refine Hoare.bind (Guards.pure _) fun _ => Hoare.bind (Guards.pure _) fun _ => ?_
  cases last <;> exact answering_suspend _

theorem answering_appendChunk {st : State} (chunk : List Char) :
    Hoare (Answering (Open s₀ st a bs buf) L)
      (modifyS fun s => { s with bdatBuffer := s.bdatBuffer ++ chunk })
      (fun _ => Answering (Open s₀ st a bs (buf ++ chunk)) L) E :=
  answering_modifyS (fun _ hs => ⟨hs.state, hs.sender, hs.rcpt, congrArg (· ++ chunk) hs.buffer,
    hs.noDataError, hs.keeps⟩) fun _ => rfl

theorem answering_finishBdat_more {st : State} (chunk : List Char) :
    Hoare (Answering (Open s₀ st a bs buf) L) (finishBdat o chunk false)
      (fun _ => Answering (Open s₀ .bdat a bs (buf ++ chunk)) (L ++ [.reply "250 OK"])) E := by
  unfold finishBdat
  refine Hoare.bind (answering_appendChunk chunk) fun _ => ?_
  rw [if_neg (by decide)]
  refine Hoare.bind (answering_modifyS ?_ fun _ => rfl) fun _ => answering_reply framed_open ?_
  · exact fun s hs => ⟨rfl, hs.sender, hs.rcpt, hs.buffer, hs.noDataError, hs.keeps⟩
  · decide

theorem answering_finishBdat_last (hst : o.store = none) (h0 : s₀.bdatBuffer = []) {st : State}
    (chunk : List Char) :
    Hoare (Answering (Open s₀ st a bs buf) L) (finishBdat o chunk true)
      (fun _ => Answering (Between s₀) (L ++
        [.store ⟨a, bs, ⟨buf ++ chunk⟩, s₀.hostname, s₀.tlsState⟩ true,
          .reply "250 OK Message accepted for delivery"])) E := by
  unfold finishBdat
  refine Hoare.bind (answering_appendChunk chunk) fun _ => ?_
  rw [if_pos rfl]
  refine Hoare.getS_bind (R := Open s₀ st a bs (buf ++ chunk)) (fun _ h => h.1.2) fun s hs => ?_
  rw [hs.buffer]
  refine Hoare.bind (answering_storeMessage o _) fun r => Hoare.pull fun hr => ?_
  subst hr
  rw [hst, Option.isNone_none]
  refine Hoare.bind (answering_modifyS (fun s hs => ⟨rfl, rfl, h0.symm, hs.keeps, .inl rfl⟩) fun _ => rfl)
    fun _ => (answering_reply framed_between ?_).mono (fun _ _ h => by rwa [List.append_assoc] at h)
      fun _ _ h => h
  decide

end

def dotBody (lines : List (List Char)) : String := ⟨(lines.map dotStuffLine).flatten ++ ['.']⟩

section
variable (cfg : Config) (o : Outcome) {p p' : Session → Prop} {L L' : List Event} {c : Conf}
  {line : String} {cmd : Command} {v : Verb}

theorem answering_command_runLine (hl : CommandLine line cmd) (hp : Framed p)
    (hv : Verb.ofName cmd.name = some v) (hst : ∀ s, p s → v.allowedIn s.state = true)
    (ha : validateArgs v cmd.args = none) {Q : Flow → Conf → Prop} {E : GoErr → Conf → Prop}
    (h : Hoare (Answering p (L ++ [.line line]))
      (attempt (dispatch cfg o v cmd) >>= afterHandler (breaksPipelining v)) Q E) :
    Hoare (Answering p L) (runLine cfg o line.data) Q E := by
  refine answering_runLine cfg o hp (by rw [hl.trim]; exact hl.ne)
    (by rw [hl.trim]; exact not_lt.mpr hl.length) (by rw [hl.trim]; exact hl.parse) hv hst ha ?_
  rw [hl.trim]
  exact h

theorem step_body_deliver (hp : Framed p) (h : Answering p L c) (hpc : c.pc = .dataBody)
    {lines : List (List Char)} (hl : ∀ l ∈ lines, '\r' ∉ l ∧ '\n' ∉ l) :
    ∃ c₁, Answering p L c₁ ∧ step cfg o (c.env (.deliver (dotBody lines ++ "\r\n").data)) =
      some (Conf.settle (resume (do
        logEvent (.body (lines.map (· ++ ['\n'])).flatten)
        done (finishData o (lines.map (· ++ ['\n'])).flatten)) c₁)) := by
  obtain ⟨⟨hlog, hs⟩, hL⟩ := h
  obtain ⟨src, hr⟩ := hL.reader
  have hb : (dotBody lines ++ "\r\n").data = dotStuff lines := by
    simp [dotBody, dotStuff, String.data_append]
  have hd : readDotBytes [] (dotStuff lines) false false =
      .ok (lines.map (· ++ ['\n'])).flatten [] [] := by
    have h' := dotDecode_dotStuff hl []
    rw [List.append_nil] at h'
    simp only [readDotBytes, bufRead, h', List.nil_append, dotDecode, Bool.false_eq_true, if_false]
  refine ⟨{ c with s := { c.s with connReader := some ⟨src, []⟩ }, sock := [] },
    ⟨⟨hlog, hp.reader _ _ hs⟩, rfl, hL.eof, hL.broken, hL.closes, src, rfl⟩, ?_⟩
  simp [step, Conf.env, hL.eof, hL.sock, hL.broken, hpc, Conf.reader, hr, hb, hd,
    Conf.withReader]

theorem step_chunk_deliver (hp : Framed p) (h : Answering p L c) {chunk : List Char}
    (hne : chunk ≠ []) {last : Bool} (hpc : c.pc = .bdatChunk chunk.length last) :
    ∃ c₁, Answering p (L ++ [.chunk chunk]) c₁ ∧
      run cfg o 20 (c.env (.deliver ((⟨chunk⟩ : String) ++ "\r\n").data)) =
        run cfg o 18 (Conf.settle (resume (done (finishBdat o chunk last)) c₁)) := by
  obtain ⟨⟨hlog, hs⟩, hL⟩ := h
  obtain ⟨src, hr⟩ := hL.reader
  have hrf : readFull chunk.length [] (chunk ++ ['\r', '\n']) false false =
      .ok chunk ['\r', '\n'] [] := by
    have h0 : takeExact chunk.length [] = none := by simp [takeExact, hne]
    have h1 : takeExact chunk.length ([] ++ (chunk ++ ['\r', '\n'])) =
        some (chunk, ['\r', '\n']) := by
      simp [takeExact]
    simp only [readFull, bufRead, h0, h1, Bool.false_eq_true, if_false]
  let c₀ : Conf := { c.withReader ⟨src, []⟩ ['\r', '\n'] [] with
    pc := .bdatCrlf chunk last, log := c.log ++ [.chunk chunk] }
  refine ⟨{ c₀ with s := { c.s with connReader := some ⟨src, []⟩ } },
    ⟨⟨by simp [c₀, hlog], hp.reader _ _ hs⟩, rfl, hL.eof, hL.broken, hL.closes, src, rfl⟩, ?_⟩
  have h1 : step cfg o (c.env (.deliver ((⟨chunk⟩ : String) ++ "\r\n").data)) = some c₀ := by
    simp [step, Conf.env, hL.eof, hL.sock, hL.broken, hpc, Conf.reader, hr, hrf, Conf.withReader, c₀]
  have h2 : step cfg o c₀ = some (Conf.settle (resume (done (finishBdat o chunk last))
      { c₀ with s := { c.s with connReader := some ⟨src, []⟩ } })) := by
    simp [step, c₀, Conf.reader, skipCrlf, Conf.withReader, hL.broken]
  simp only [run, h1, h2]

theorem run_stopped (h : step cfg o c = none) : ∀ n, run cfg o n c = c
  | 0 => rfl
  | _ + 1 => by simp [run, h]

end

end BadSmtp.Server
