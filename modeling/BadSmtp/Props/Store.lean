import BadSmtp.Props.Effects
import BadSmtp.Props.Scheduled

/-! The Store calls of a session against the mail transaction its log shows, read off the log
as the protocol defines it: MAIL FROM and RCPT TO answered 250 OK, the BDAT chunks, and RSET or
a successful Store ending it. -/
namespace BadSmtp.Server
open BadSmtp.Go BadSmtp.Smtp

/-- A mail transaction as the log shows it. -/
structure Txn where
  sender : String
  rcpts : List String
  chunks : List Char
  deriving DecidableEq, Repr

def Parses (l : String) (v : Verb) (cmd : Command) : Prop :=
  parseCommand l = some cmd ∧ Verb.ofName cmd.name = some v

def dataGo : String := "354 End data with <CR><LF>.<CR><LF>"

def bdatLast (cmd : Command) : Bool :=
  match cmd.args with
  | _ :: a :: _ => equalFold a "LAST"
  | _ => false

section
variable (cfg : Config)

def answered (t : Option Txn) (l r : String) : Option Txn :=
  if r = "250 OK" then
    match parseCommand l with
    | none => t
    | some cmd =>
      match Verb.ofName cmd.name with
      | some .mail => some ⟨argMailbox cfg cmd, [], []⟩
      | some .rcpt => t.map fun t => { t with rcpts := t.rcpts ++ [argMailbox cfg cmd] }
      | some .rset => none
      | _ => t
  else t

/-- One event of the log's scan for the open transaction. -/
def txnStep (t : Option Txn) (prev : Option Event) : Event → Option Txn
  | .reply r =>
    match prev with
    | some (.line l) => answered cfg t l r
    | _ => t
  | .chunk b => t.map fun t => { t with chunks := t.chunks ++ b }
  | .store _ ok => cond ok none t
  | _ => t

structure Scan where
  txn : Option Txn
  last : Option Event

def Scan.next (p : Scan) (e : Event) : Scan := ⟨txnStep cfg p.txn p.last e, some e⟩

def scan (log : List Event) : Scan := log.foldl (Scan.next cfg) ⟨none, none⟩

/-- The transaction a log leaves open. -/
def openTxn (log : List Event) : Option Txn := (scan cfg log).txn

theorem scan_last (log : List Event) : (scan cfg log).last = log.getLast? := by
  induction log using List.reverseRecOn with
  | nil => rfl
  | append_singleton log e _ => simp [scan, Scan.next]

@[simp] theorem openTxn_nil : openTxn cfg [] = none := rfl

@[simp] theorem openTxn_append_single (log : List Event) (e : Event) :
    openTxn cfg (log ++ [e]) = txnStep cfg (openTxn cfg log) log.getLast? e := by
  simp only [openTxn, scan, List.foldl_append, List.foldl_cons, List.foldl_nil, Scan.next]
  rw [← scan, scan_last]

theorem answered_of_ne {t : Option Txn} {l r : String} (h : r ≠ "250 OK") :
    answered cfg t l r = t :=
  if_neg h

def Inert (log : List Event) : Prop := ∀ r, openTxn cfg (log ++ [.reply r]) = openTxn cfg log

theorem inert_of_last {log : List Event} (h : ∀ l, log.getLast? ≠ some (.line l)) :
    Inert cfg log := by
  intro r
  rw [openTxn_append_single]
  simp only [txnStep]

theorem inert_append {log : List Event} {e : Event} (he : ∀ l, e ≠ .line l) :
    Inert cfg (log ++ [e]) :=
  inert_of_last cfg fun l h => he l (by simpa using h)

theorem inert_line {log : List Event} {l : String} {v : Verb} {cmd : Command}
    (hL : log.getLast? = some (.line l)) (hp : Parses l v cmd)
    (hv : v ≠ .mail ∧ v ≠ .rcpt ∧ v ≠ .rset) : Inert cfg log := by
  intro r
  rw [openTxn_append_single, hL]
  simp only [txnStep, answered, hp.1, hp.2]
  split_ifs <;> rcases v <;> simp_all

end

def NoFailedStore (log : List Event) : Prop := ∀ m, Event.store m false ∉ log

theorem NoFailedStore.of_append {log new : List Event} (h : NoFailedStore (log ++ new)) :
    NoFailedStore log :=
  fun m hm => h m (List.mem_append_left _ hm)

def Since (L log : List Event) : Prop := ∃ new, log = L ++ new ∧ ∀ m ok, Event.store m ok ∉ new

theorem Since.refl (L : List Event) : Since L L := ⟨[], by simp, fun _ _ h => by simp at h⟩

theorem Since.append {L log : List Event} (h : Since L log) {e : Event}
    (he : ∀ m ok, e ≠ .store m ok) : Since L (log ++ [e]) := by
  obtain ⟨new, rfl, hn⟩ := h
  refine ⟨new ++ [e], by simp, fun m ok hm => ?_⟩
  rcases List.mem_append.mp hm with hm | hm
  · exact hn m ok hm
  · exact he m ok (List.mem_singleton.mp hm).symm

theorem append_single_eq_split {log A B : List Event} {e x : Event}
    (h : log ++ [e] = A ++ x :: B) : (A = log ∧ x = e ∧ B = []) ∨
      ∃ B', log = A ++ x :: B' := by
  rcases List.eq_nil_or_concat B with rfl | ⟨B', y, rfl⟩
  · have := List.append_inj' h rfl
    exact .inl ⟨this.1.symm, (List.singleton_inj.mp this.2).symm, rfl⟩
  · rw [List.concat_eq_append, ← List.cons_append, ← List.append_assoc] at h
    exact .inr ⟨B', (List.append_inj' h rfl).1⟩

section
variable (cfg : Config)

/-- A Store call of `m` after the events `A`, as the protocol allows it. -/
def StoreMade (A : List Event) (m : Message) : Prop :=
  ∃ t, openTxn cfg A = some t ∧ m.fromAddr = t.sender ∧ m.toAddrs = t.rcpts ∧
    extractDataError t.sender = none ∧
    ((∃ L l cmd data, A = L ++ [.line l, .reply dataGo, .body data] ∧ Parses l .data cmd ∧
        m.content = ⟨data⟩) ∨
      (∃ L l cmd chunk, A = L ++ [.line l, .chunk chunk] ∧ Parses l .bdat cmd ∧
        bdatLast cmd = true ∧ (NoFailedStore A → m.content = ⟨t.chunks⟩)))

def StoresMade (log : List Event) : Prop :=
  ∀ A m ok B, log = A ++ .store m ok :: B → StoreMade cfg A m

theorem StoresMade.append {log : List Event} (h : StoresMade cfg log) {e : Event}
    (he : ∀ m ok, e = .store m ok → StoreMade cfg log m) : StoresMade cfg (log ++ [e]) := by
  intro A m ok B hs
  rcases append_single_eq_split hs with ⟨rfl, rfl, rfl⟩ | ⟨B', hB⟩
  · exact he m ok rfl
  · exact h A m ok B' hB

theorem StoresMade.event {log : List Event} (h : StoresMade cfg log) {e : Event}
    (he : ∀ m ok, e ≠ .store m ok) : StoresMade cfg (log ++ [e]) :=
  h.append cfg fun m ok h' => absurd h' (he m ok)

end

def Idle (st : State) : Prop := st = .greeting ∨ st = .helo ∨ st = .auth ∨ st = .mail

theorem Idle.not_inTransaction {st : State} (h : Idle st) : ¬InTransaction st := by
  rcases h with rfl | rfl | rfl | rfl <;> simp [InTransaction]

/-- The session carries the transaction `t`. -/
def Carries (t : Txn) (s : Session) (log : List Event) (pend : List Char) : Prop :=
  t.sender = s.mailFrom ∧ t.rcpts = s.rcptTo ∧ s.dataErrorResult = extractDataError t.sender ∧
    ∃ pre, s.bdatBuffer ++ pend = pre ++ t.chunks ∧
      (NoFailedStore log → pre = [] ∧ (s.state ≠ .bdat → s.bdatBuffer = []))

def Session.txnView (s : Session) :
    State × String × List String × Option ErrorResult × List Char × Int :=
  (s.state, s.mailFrom, s.rcptTo, s.dataErrorResult, s.bdatBuffer, s.advertisedSize)

section
variable (cfg : Config)

/-- The session against the transaction its log leaves open. -/
structure TxnInv (s : Session) (log : List Event) (pend : List Char) : Prop where
  stores : StoresMade cfg log
  adv : s.advertisedSize ≤ advertisedSizeMax
  buf : (s.bdatBuffer.length : Int) ≤ maxMessageSize
  idle : Idle s.state → s.rcptTo = [] ∧ (NoFailedStore log → s.bdatBuffer = [])
  txn : InTransaction s.state → ∃ t, openTxn cfg log = some t ∧ Carries t s log pend

variable {cfg}

theorem TxnInv.congr {s s' : Session} {log : List Event} {pend : List Char}
    (h : TxnInv cfg s log pend) (hv : s'.txnView = s.txnView) : TxnInv cfg s' log pend := by
  simp only [Session.txnView, Prod.mk.injEq] at hv
  obtain ⟨h1, h2, h3, h4, h5, h6⟩ := hv
  obtain ⟨hs, ha, hb, hi, ht⟩ := h
  refine ⟨hs, h6 ▸ ha, h5 ▸ hb, fun hid => ?_, fun htx => ?_⟩
  · rw [h1] at hid
    rw [h3, h5]
    exact hi hid
  · rw [h1] at htx
    obtain ⟨t, ho, hc⟩ := ht htx
    refine ⟨t, ho, ?_⟩
    unfold Carries at hc ⊢
    rw [h1, h2, h3, h4, h5]
    exact hc

theorem TxnInv.event {s : Session} {log : List Event} {pend : List Char} {e : Event}
    (h : TxnInv cfg s log pend) (he : ∀ m ok, e ≠ .store m ok)
    (ho : openTxn cfg (log ++ [e]) = openTxn cfg log) : TxnInv cfg s (log ++ [e]) pend := by
  have hnf : NoFailedStore (log ++ [e]) → NoFailedStore log := NoFailedStore.of_append
  refine ⟨h.stores.event cfg he, h.adv, h.buf, fun hi => ?_, fun ht => ?_⟩
  · exact (h.idle hi).imp_right fun hb hn => hb (hnf hn)
  · obtain ⟨t, hot, h1, h2, h3, pre, hpre, hn⟩ := h.txn ht
    exact ⟨t, ho.trans hot, h1, h2, h3, pre, hpre, fun hn' => hn (hnf hn')⟩

theorem TxnInv.idle_update {s s' : Session} {log : List Event} {pend : List Char}
    (h : TxnInv cfg s log pend) (hi : Idle s.state) (hi' : Idle s'.state)
    (hr : s'.rcptTo = s.rcptTo) (hb : s'.bdatBuffer = s.bdatBuffer)
    (ha : s'.advertisedSize ≤ advertisedSizeMax) : TxnInv cfg s' log pend :=
  ⟨h.stores, ha, hb ▸ h.buf, fun _ => hr ▸ hb ▸ h.idle hi,
    fun ht => absurd ht hi'.not_inTransaction⟩

theorem TxnInv.quit {s : Session} {log : List Event} {pend : List Char}
    (h : TxnInv cfg s log pend) : TxnInv cfg { s with state := .quit } log pend :=
  ⟨h.stores, h.adv, h.buf, fun hi => (by rcases hi with h | h | h | h <;> cases h),
    fun ht => (by rcases ht with h | h | h <;> cases h)⟩

end

section
variable {cfg : Config} {s s' : Session} {log : List Event} {l : String} {cmd : Command}

theorem TxnInv.reply {pend : List Char} {r : String} (h : TxnInv cfg s log pend)
    (hr : r ≠ "250 OK" ∨ Inert cfg log) : TxnInv cfg s (log ++ [.reply r]) pend := by
  refine h.event (fun _ _ => Event.noConfusion) ?_
  rcases hr with hr | hr
  · rw [openTxn_append_single]
    simp only [txnStep]
    split <;> simp [answered_of_ne cfg hr]
  · exact hr r

theorem TxnInv.mail_accepted (h : TxnInv cfg s log []) (hL : log.getLast? = some (.line l))
    (hp : Parses l .mail cmd) (hs : s.state = .mail)
    (hv : s'.txnView = (.rcpt, argMailbox cfg cmd, s.rcptTo,
      extractDataError (argMailbox cfg cmd), s.bdatBuffer, s.advertisedSize)) :
    TxnInv cfg s' (log ++ [.reply "250 OK"]) [] := by
  simp only [Session.txnView, Prod.mk.injEq] at hv
  obtain ⟨h1, h2, h3, h4, h5, h6⟩ := hv
  have hi := h.idle (.inr (.inr (.inr hs)))
  have ho : openTxn cfg (log ++ [.reply "250 OK"]) = some ⟨argMailbox cfg cmd, [], []⟩ := by
    simp [hL, txnStep, answered, hp.1, hp.2]
  refine ⟨h.stores.event cfg fun _ _ => Event.noConfusion, h6 ▸ h.adv, h5 ▸ h.buf,
    fun hi' => ?_, fun _ => ⟨_, ho, ?_⟩⟩
  · rw [h1] at hi'
    rcases hi' with h | h | h | h <;> cases h
  · unfold Carries
    dsimp only
    rw [h2, h3, h4, h5, hi.1]
    exact ⟨rfl, rfl, rfl, s.bdatBuffer, rfl, fun hn => ⟨hi.2 hn.of_append, fun _ => hi.2 hn.of_append⟩⟩

theorem TxnInv.rcpt_accepted (h : TxnInv cfg s log []) (hL : log.getLast? = some (.line l))
    (hp : Parses l .rcpt cmd) (hs : s.state = .rcpt)
    (hv : s'.txnView = (s.state, s.mailFrom, s.rcptTo ++ [argMailbox cfg cmd],
      s.dataErrorResult, s.bdatBuffer, s.advertisedSize)) :
    TxnInv cfg s' (log ++ [.reply "250 OK"]) [] := by
  simp only [Session.txnView, Prod.mk.injEq] at hv
  obtain ⟨h1, h2, h3, h4, h5, h6⟩ := hv
  obtain ⟨t, hot, hc1, hc2, hc3, pre, hpre, hn⟩ := h.txn (.inl hs)
  have ho : openTxn cfg (log ++ [.reply "250 OK"]) =
      some { t with rcpts := t.rcpts ++ [argMailbox cfg cmd] } := by
    simp [hL, hot, txnStep, answered, hp.1, hp.2]
  refine ⟨h.stores.event cfg fun _ _ => Event.noConfusion, h6 ▸ h.adv, h5 ▸ h.buf,
    fun hi => absurd (.inl (h1.trans hs)) hi.not_inTransaction,
    fun _ => ⟨_, ho, hc1.trans h2.symm, by rw [h3, hc2], h4 ▸ hc3, pre, h5 ▸ hpre, fun hn' => ?_⟩⟩
  rw [h1, h5]
  exact hn hn'.of_append

theorem TxnInv.rset_accepted (h : TxnInv cfg s log []) (hs : Idle s.state ∨ s.state = .rcpt)
    (hv : s'.txnView = (.mail, "", [], s.dataErrorResult, s.bdatBuffer, s.advertisedSize)) :
    TxnInv cfg s' (log ++ [.reply "250 OK"]) [] := by
  simp only [Session.txnView, Prod.mk.injEq] at hv
  obtain ⟨h1, -, h3, -, h5, h6⟩ := hv
  have hb : NoFailedStore log → s.bdatBuffer = [] := by
    rcases hs with hs | hs
    · exact (h.idle hs).2
    · obtain ⟨t, _, _, _, _, pre, _, hn⟩ := h.txn (.inl hs)
      exact fun hn' => (hn hn').2 (by rw [hs]; decide)
  refine ⟨h.stores.event cfg fun _ _ => Event.noConfusion, h6 ▸ h.adv, h5 ▸ h.buf,
    fun _ => ⟨h3, fun hn => h5 ▸ hb hn.of_append⟩, fun ht => ?_⟩
  rw [h1] at ht
  rcases ht with h | h | h <;> cases h

theorem TxnInv.data_started {pend : List Char} (h : TxnInv cfg s log pend)
    (hs : s.state = .rcpt) (hv : s'.txnView = (.data, s.mailFrom, s.rcptTo, s.dataErrorResult,
      s.bdatBuffer, s.advertisedSize)) : TxnInv cfg s' log pend := by
  simp only [Session.txnView, Prod.mk.injEq] at hv
  obtain ⟨h1, h2, h3, h4, h5, h6⟩ := hv
  obtain ⟨t, hot, hc1, hc2, hc3, pre, hpre, hn⟩ := h.txn (.inl hs)
  refine ⟨h.stores, h6 ▸ h.adv, h5 ▸ h.buf, fun hi => absurd (.inr (.inl h1)) hi.not_inTransaction,
    fun _ => ⟨t, hot, hc1.trans h2.symm, hc2.trans h3.symm, h4 ▸ hc3, pre, h5 ▸ hpre, fun hn' => ?_⟩⟩
  rw [h5]
  exact ⟨(hn hn').1, fun _ => (hn hn').2 (by rw [hs]; decide)⟩

theorem TxnInv.chunk {b : List Char} (h : TxnInv cfg s log []) (hs : s.state = .rcpt ∨ s.state = .bdat) :
    TxnInv cfg s (log ++ [.chunk b]) b := by
  have ht : InTransaction s.state := hs.elim .inl fun h => .inr (.inr h)
  obtain ⟨t, hot, hc1, hc2, hc3, pre, hpre, hn⟩ := h.txn ht
  refine ⟨h.stores.event cfg fun _ _ => Event.noConfusion, h.adv, h.buf,
    fun hi => absurd ht hi.not_inTransaction, fun _ => ⟨{ t with chunks := t.chunks ++ b },
      by simp [hot, txnStep], hc1, hc2, hc3, pre, ?_, fun hn' => hn hn'.of_append⟩⟩
  rw [List.append_nil] at hpre
  rw [hpre, List.append_assoc]

end

def BdatRead (s : Session) (n : Nat) (last : Bool) : Prop :=
  (s.state = .rcpt ∨ s.state = .bdat) ∧ (last = true → s.dataErrorResult = none) ∧
    ((s.bdatBuffer.length + n : Nat) : Int) ≤ getMaxMessageSize s

def Pc.chunk : Pc → List Char
  | .bdatCrlf chunk _ => chunk
  | _ => []

section
variable (cfg : Config)

def AtPayload (c : Conf) : Prop :=
  match c.pc with
  | .start => Idle c.s.state ∧ Inert cfg c.log
  | .dataBody => c.s.state = .data ∧ c.s.dataErrorResult = none ∧
      ∃ L l cmd, c.log = L ++ [.line l, .reply dataGo] ∧ Parses l .data cmd
  | .bdatChunk n last => BdatRead c.s n last ∧
      ∃ L l cmd, c.log = L ++ [.line l] ∧ Parses l .bdat cmd ∧ bdatLast cmd = last
  | .bdatCrlf chunk last => BdatRead c.s chunk.length last ∧
      ∃ L l cmd, c.log = L ++ [.line l, .chunk chunk] ∧ Parses l .bdat cmd ∧ bdatLast cmd = last
  | .authLine _ _ => Idle c.s.state ∧ Inert cfg c.log
  | _ => True

/-- The invariant of every reachable configuration. -/
def Inv (c : Conf) : Prop := TxnInv cfg c.s c.log c.pc.chunk ∧ AtPayload cfg c

def InStep (L : List Event) (c : Conf) : Prop := TxnInv cfg c.s c.log [] ∧ Since L c.log

def Blocked (L : List Event) (c : Conf) : Prop := Inv cfg c ∧ Since L c.log

def Quiet (L : List Event) (p : State → Prop) (c : Conf) : Prop :=
  InStep cfg L c ∧ Inert cfg c.log ∧ p c.s.state

end

theorem ne_ok_of_head {r : String} (hr : r.data.head? = some '5') : r ≠ "250 OK" := by
  rintro rfl
  exact absurd hr (by decide)

theorem detectPipelining_view (c : Conf) :
    (detectPipelining c).2.s.txnView = c.s.txnView ∧ (detectPipelining c).2.log = c.log := by
  unfold detectPipelining
  split <;> exact ⟨rfl, rfl⟩

section
variable {cfg : Config}

theorem framed_txnInv : LoopFramed fun c => TxnInv cfg c.s c.log [] where
  reply _ _ _ _ _ _ hr h := (h.reply (.inl (ne_ok_of_head hr))).congr rfl
  flush _ _ _ _ h := h.congr rfl
  line _ _ h := h.event (fun _ _ => Event.noConfusion) (by rw [openTxn_append_single]; rfl)
  detect c h := by
    obtain ⟨hv, hl⟩ := detectPipelining_view c
    rw [hl]
    exact h.congr hv
  switch _ _ h := h.congr rfl

theorem framed_since (L : List Event) : LoopFramed fun c => Since L c.log where
  reply _ _ _ _ _ _ _ h := h.append fun _ _ => Event.noConfusion
  flush _ _ _ _ h := h
  line _ _ h := h.append fun _ _ => Event.noConfusion
  detect c h := by rw [detectPipelining_log]; exact h
  switch _ _ h := h

theorem framed_inStep (L : List Event) : LoopFramed (InStep cfg L) :=
  framed_txnInv.and (framed_since L)

end

section
variable {cfg : Config} {L : List Event} {p q : State → Prop} {E : GoErr → Conf → Prop}

theorem Quiet.inStep {c : Conf} (h : Quiet cfg L p c) : InStep cfg L c := h.1

theorem guards_quiet_reply (r : String) :
    Guards (Quiet cfg L p) (fun _ => InStep cfg L) (writeResponse r) :=
  (Guards.writeResponse_framed fun _ _ _ _ _ h =>
    ⟨⟨(h.1.1.reply (.inr h.2.1)).congr rfl, h.1.2.append fun _ _ => Event.noConfusion⟩,
      inert_append cfg fun _ => Event.noConfusion, h.2.2⟩).mono (fun _ _ h => h) fun _ _ h => h.1

theorem hoare_quiet_modifyS {f : Session → Session}
    (hf : ∀ s log, TxnInv cfg s log [] → p s.state → TxnInv cfg (f s) log [] ∧ q (f s).state) :
    Hoare (Quiet cfg L p) (modifyS f) (fun _ => Quiet cfg L q) E :=
  fun c h => ⟨⟨(hf c.s c.log h.1.1 h.2.2).1, h.1.2⟩, h.2.1, (hf c.s c.log h.1.1 h.2.2).2⟩

theorem hoare_quiet_modifyS_view {f : Session → Session} (hf : ∀ s, (f s).txnView = s.txnView) :
    Guards (Quiet cfg L p) E (modifyS f) :=
  hoare_quiet_modifyS fun s _ h hp =>
    ⟨h.congr (hf s), by rw [show (f s).state = s.state from congrArg Prod.fst (hf s)]; exact hp⟩

theorem hoare_quiet_modifyS_idle {f : Session → Session} (hf : ∀ s, Idle (f s).state)
    (hr : ∀ s, (f s).rcptTo = s.rcptTo) (hb : ∀ s, (f s).bdatBuffer = s.bdatBuffer)
    (ha : ∀ s, (f s).advertisedSize = s.advertisedSize) :
    Guards (Quiet cfg L Idle) E (modifyS f) :=
  hoare_quiet_modifyS fun s _ h hp => ⟨h.idle_update hp (hf s) (hr s) (hb s) ((ha s).symm ▸ h.adv), hf s⟩

theorem guards_quiet_writeChallenge (r : String) :
    Guards (Quiet cfg L p) (fun _ => Quiet cfg L p) (writeChallenge r) := by
  refine Guards.bind (Guards.logEvent fun _ h =>
    ⟨⟨h.1.1.reply (.inr h.2.1), h.1.2.append fun _ _ => Event.noConfusion⟩,
      inert_append cfg fun _ => Event.noConfusion, h.2.2⟩) fun _ c h => ?_
  rw [connWrite_apply]
  split
  · exact h
  · exact h

theorem hoare_quiet_done {W : Conf → Prop} {x : GoM Unit}
    (hx : Guards (Quiet cfg L p) (fun _ => InStep cfg L) x) :
    Hoare (Quiet cfg L p) (done x) (Kept (InStep cfg L) W) (fun _ => InStep cfg L) :=
  Hoare.bind hx fun _ => Hoare.pure _ fun _ h => h.1

theorem hoare_quiet_suspendAuth (w : AuthWait) (priv : List Char) :
    Hoare (Quiet cfg L Idle) (suspend (.authLine w priv)) (Kept (InStep cfg L) (Blocked cfg L)) E :=
  fun _ h => ⟨⟨h.1.1, h.2.2, h.2.1⟩, h.1.2⟩

theorem guards_quiet_handleNoop : Guards (Quiet cfg L p) (fun _ => InStep cfg L) handleNoop :=
  Guards.bind Guards.getS fun _ => by split <;> exact guards_quiet_reply _

theorem guards_quiet_handleVrfy (cmd : Command) :
    Guards (Quiet cfg L p) (fun _ => InStep cfg L) (handleVrfy cfg cmd) := by
  unfold handleVrfy; dsimp only
  refine Guards.bind Guards.getS fun _ => ?_
  split_ifs <;> exact guards_quiet_reply _

theorem hoare_quiet_handleQuit : Hoare (Quiet cfg L p) handleQuit (fun _ _ => False) fun _ => InStep cfg L := by
  unfold handleQuit
  refine Hoare.bind Guards.getS fun _ => ?_
  split <;> exact Hoare.bind (guards_quiet_reply _) fun _ =>
    Hoare.bind (hoare_quiet_modifyS (q := fun _ => True) fun _ _ h _ => ⟨h.quit, trivial⟩) fun _ =>
      Hoare.throwErr fun _ h => h.1

end

section
variable {cfg : Config} (o : Outcome) {L : List Event} {E : GoErr → Conf → Prop}

theorem guards_quiet_addStandardCapabilities (parts : List String) :
    Guards (Quiet cfg L Idle) E (updateS fun s => addStandardCapabilities s parts) :=
  Guards.updateS fun c h => by
    obtain ⟨caps, adv, he, ha⟩ := addStandardCapabilities_fst c.s parts
    rw [he]
    refine ⟨⟨h.1.1.idle_update h.2.2 h.2.2 rfl rfl ?_, h.1.2⟩, h.2.1, h.2.2⟩
    rcases ha with rfl | ha
    · exact h.1.1.adv
    · exact parseAndClampSize_le ha

theorem guards_quiet_handleHelo (cmd : Command) :
    Guards (Quiet cfg L Idle) (fun _ => InStep cfg L) (handleHelo cmd) := by
  unfold handleHelo handleEhlo; dsimp only
  refine Guards.bind Guards.getS fun _ => ?_
  split
  · exact guards_quiet_reply _
  refine Guards.bind (hoare_quiet_modifyS_view fun _ => rfl) fun _ => ?_
  split
  · exact guards_quiet_reply _
  refine Guards.bind (hoare_quiet_modifyS_idle (fun _ => .inr (.inr (.inr rfl))) (fun _ => rfl)
    (fun _ => rfl) fun _ => rfl) fun _ => ?_
  split
  · split
    · exact guards_quiet_reply _
    · exact Guards.bind (guards_quiet_addStandardCapabilities _) fun _ => guards_quiet_reply _
  · exact guards_quiet_reply _

theorem guards_quiet_handleStartTLS :
    Guards (Quiet cfg L Idle) (fun _ => InStep cfg L) (handleStartTLS o) := by
  unfold handleStartTLS; dsimp only
  repeat' first
    | exact guards_quiet_reply _
    | exact hoare_quiet_modifyS_idle (fun _ => .inr (.inl rfl)) (fun _ => rfl) (fun _ => rfl)
        fun _ => rfl
    | (with_reducible apply Guards.bind Guards.getS); intro _
    | (with_reducible apply Guards.bind (guards_quiet_reply _)); intro _
    | (with_reducible apply Guards.bind (Guards.pure _)); intro _
    | (with_reducible apply Guards.bind (Guards.throwErr fun _ h => Quiet.inStep h)); intro _
    | split

theorem guards_quiet_authFinish (r : Except GoErr String) :
    Guards (Quiet cfg L Idle) (fun _ => InStep cfg L) (authFinish cfg r) := by
  unfold authFinish
  repeat' first
    | exact guards_quiet_reply _
    | exact Guards.bind (hoare_quiet_modifyS_idle (fun _ => .inr (.inr (.inr rfl))) (fun _ => rfl)
        (fun _ => rfl) fun _ => rfl) fun _ => guards_quiet_reply _
    | split

theorem hoare_quiet_authStart (m : Mech) (parts : List String) :
    Hoare (Quiet cfg L Idle) (authStart cfg o m parts) (Kept (InStep cfg L) (Blocked cfg L))
      (fun _ => InStep cfg L) := by
  unfold authStart; dsimp only
  repeat' first
    | exact hoare_quiet_done (guards_quiet_authFinish _)
    | exact hoare_quiet_suspendAuth _ _
    | (with_reducible apply Hoare.bind (Hoare.attempt (Q := fun _ => Quiet cfg L Idle)
        (guards_quiet_writeChallenge _))); intro _
    | split

theorem hoare_quiet_authResume (w : AuthWait) (line : Except GoErr (List Char)) (priv : List Char) :
    Hoare (Quiet cfg L Idle) (authResume cfg w line priv) (Kept (InStep cfg L) (Blocked cfg L))
      (fun _ => InStep cfg L) := by
  unfold authResume; dsimp only
  repeat' first
    | exact hoare_quiet_done (guards_quiet_authFinish _)
    | exact hoare_quiet_suspendAuth _ _
    | (with_reducible apply Hoare.bind (Hoare.attempt (Q := fun _ => Quiet cfg L Idle)
        (guards_quiet_writeChallenge _))); intro _
    | split

theorem hoare_quiet_handleAuth (cmd : Command) :
    Hoare (Quiet cfg L Idle) (handleAuth cfg o cmd) (Kept (InStep cfg L) (Blocked cfg L))
      (fun _ => InStep cfg L) := by
  unfold handleAuth
  refine Hoare.bind Guards.getS fun _ => ?_
  repeat' first
    | exact hoare_quiet_done (guards_quiet_reply _)
    | exact hoare_quiet_authStart o _ _
    | split

theorem guards_quiet_greet : Guards (Quiet cfg L Idle) (fun _ => InStep cfg L) (greet cfg) := by
  unfold greet; dsimp only
  repeat' first
    | exact Guards.pure _
    | exact hoare_quiet_modifyS_idle (fun _ => .inr (.inl rfl)) (fun _ => rfl) (fun _ => rfl)
        fun _ => rfl
    | (with_reducible apply Guards.bind Guards.getS); intro _
    | (with_reducible apply Guards.bind (Guards.pure _)); intro _
    | (with_reducible apply Guards.bind (guards_quiet_reply _)); intro _
    | split

theorem hoare_quiet_handleStart :
    Hoare (Quiet cfg L Idle) (handleStart cfg) (Kept (InStep cfg L) (Blocked cfg L))
      (fun _ => InStep cfg L) :=
  Hoare.bind guards_quiet_greet fun _ => Hoare.bind (hoare_quiet_modifyS_view fun _ => rfl) fun _ =>
    Hoare.pure _ fun _ h => h.1

end

theorem eq_dropLast_of_getLast? {log : List Event} {e : Event} (h : log.getLast? = some e) :
    log = log.dropLast ++ [e] :=
  (List.dropLast_append_getLast? e h).symm

section
variable {cfg : Config} {L : List Event} {l : String} {cmd : Command}

theorem hoare_of_at {α : Type} {P : Conf → Prop} {x : GoM α} {Q : α → Conf → Prop}
    {E : GoErr → Conf → Prop} (h : ∀ c, P c → Hoare (At c.log c.s) x Q E) : Hoare P x Q E :=
  fun c hc => h c hc c ⟨rfl, rfl⟩

theorem hoare_at_inStep_reply {log : List Event} {s : Session} {r : String}
    (h : TxnInv cfg s (log ++ [.reply r]) []) (hS : Since L log) :
    Hoare (At log s) (writeResponse r) (fun _ => InStep cfg L) (fun _ => InStep cfg L) :=
  Hoare.writeResponse_framed fun c _ _ _ _ ⟨hl, hs⟩ =>
    ⟨by rw [hl]; exact h.congr (by rw [hs]; rfl),
      by rw [hl]; exact hS.append fun _ _ => Event.noConfusion⟩

theorem hoare_at_refusal {log : List Event} {s : Session} {r : String}
    (h : TxnInv cfg s log []) (hS : Since L log) (hr : r ≠ "250 OK" ∨ Inert cfg log) :
    Hoare (At log s) (writeResponse r >>= fun _ => pure Flow.done) (Kept (InStep cfg L) W)
      (fun _ => InStep cfg L) :=
  Hoare.bind (hoare_at_inStep_reply (h.reply hr) hS) fun _ => Hoare.pure _ fun _ h => h

theorem hoare_inStep_handleMail (hp : Parses l .mail cmd) :
    Hoare (fun c => InStep cfg L c ∧ c.log.getLast? = some (.line l) ∧ c.s.state = .mail)
      (handleMail cfg cmd) (fun _ => InStep cfg L) (fun _ => InStep cfg L) := by
  refine hoare_of_at fun c h => ?_
  obtain ⟨⟨hI, hS⟩, hL, hs⟩ := h
  unfold handleMail; dsimp only
  refine hoare_at_getS_bind ?_
  have h503 : "503 Bad sequence of commands" ≠ "250 OK" := by decide
  have h501 : "501 Syntax error in parameters" ≠ "250 OK" := by decide
  split
  · exact hoare_at_inStep_reply (hI.reply (.inl h503)) hS
  split
  · exact hoare_at_inStep_reply (hI.reply (.inl h501)) hS
  split
  · exact hoare_at_inStep_reply (hI.reply (.inl h501)) hS
  split
  · exact hoare_at_inStep_reply (hI.reply (.inl (formatErrorResult_ne _ _))) hS
  · exact Hoare.bind (hoare_at_modifyS _) fun _ =>
      hoare_at_inStep_reply (hI.mail_accepted hL hp hs (by simp only [Session.txnView, argMailbox])) hS

theorem hoare_inStep_handleRcpt (hp : Parses l .rcpt cmd) :
    Hoare (fun c => InStep cfg L c ∧ c.log.getLast? = some (.line l) ∧ c.s.state = .rcpt)
      (handleRcpt cfg cmd) (fun _ => InStep cfg L) (fun _ => InStep cfg L) := by
  refine hoare_of_at fun c h => ?_
  obtain ⟨⟨hI, hS⟩, hL, hs⟩ := h
  unfold handleRcpt; dsimp only
  refine hoare_at_getS_bind ?_
  have h503 : "503 Bad sequence of commands" ≠ "250 OK" := by decide
  have h501 : "501 Syntax error in parameters" ≠ "250 OK" := by decide
  repeat' first
    | split
    | exact hoare_at_inStep_reply (hI.reply (.inl h503)) hS
    | exact hoare_at_inStep_reply (hI.reply (.inl h501)) hS
    | exact hoare_at_inStep_reply (hI.reply (.inl (formatErrorResult_ne _ _))) hS
    | exact Hoare.bind (hoare_at_modifyS _) fun _ =>
        hoare_at_inStep_reply (hI.rcpt_accepted hL hp hs rfl) hS

theorem hoare_inStep_handleRset :
    Hoare (fun c => InStep cfg L c ∧ (Idle c.s.state ∨ c.s.state = .rcpt)) handleRset
      (fun _ => InStep cfg L) (fun _ => InStep cfg L) := by
  refine hoare_of_at fun c h => ?_
  obtain ⟨⟨hI, hS⟩, hs⟩ := h
  unfold handleRset
  refine hoare_at_getS_bind ?_
  split
  · exact hoare_at_inStep_reply (hI.reply (.inl (formatErrorResult_ne _ _))) hS
  · exact Hoare.bind (hoare_at_modifyS _) fun _ => hoare_at_inStep_reply (hI.rset_accepted hs rfl) hS

end

end BadSmtp.Server
