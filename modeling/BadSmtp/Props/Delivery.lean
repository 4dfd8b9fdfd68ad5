import BadSmtp.Props.Store

/-! The Store calls of DATA and BDAT, and the invariant every reachable configuration keeps:
every Store call of every run is one `StoreMade` describes, and a successful one ends its
transaction. -/
namespace BadSmtp.Server
open BadSmtp.Go BadSmtp.Smtp

def Grown (L : List Event) (M : Int) (log : List Event) : Prop :=
  ∃ new, log = L ++ new ∧ ∀ m ok, Event.store m ok ∈ new → (m.content.length : Int) ≤ M

theorem Grown.refl (L : List Event) (M : Int) : Grown L M L :=
  ⟨[], by simp, fun _ _ h => by simp at h⟩

theorem Grown.append {L log : List Event} {M : Int} (h : Grown L M log) {e : Event}
    (he : ∀ m ok, e = .store m ok → (m.content.length : Int) ≤ M) : Grown L M (log ++ [e]) := by
  obtain ⟨new, rfl, hn⟩ := h
  refine ⟨new ++ [e], by simp, fun m ok hm => ?_⟩
  rcases List.mem_append.mp hm with hm | hm
  · exact hn m ok hm
  · exact he m ok (List.mem_singleton.mp hm).symm

theorem Since.grown {L log : List Event} (h : Since L log) (M : Int) : Grown L M log :=
  let ⟨new, hl, hn⟩ := h
  ⟨new, hl, fun m ok hm => absurd hm (hn m ok)⟩

theorem framed_grown (L : List Event) (M : Int) : LoopFramed fun c => Grown L M c.log where
  reply _ _ _ _ _ _ _ h := h.append fun _ _ => Event.noConfusion
  flush _ _ _ _ h := h
  line _ _ h := h.append fun _ _ => Event.noConfusion
  detect c h := by rw [detectPipelining_log]; exact h
  switch _ _ h := h

section
variable (cfg : Config)

/-- Inside a step from `L` begun with the SIZE `M`: every Store call since `L` within `M`. -/
def Within (L : List Event) (M : Int) (c : Conf) : Prop :=
  TxnInv cfg c.s c.log [] ∧ Grown L M c.log

def Stepped (L : List Event) (M : Int) (c : Conf) : Prop := Inv cfg c ∧ Grown L M c.log

end

section
variable {cfg : Config} {s s' : Session} {A : List Event} {m : Message} {pend : List Char}

theorem not_noFailedStore_failed : ¬NoFailedStore (A ++ [.store m false]) :=
  fun h => h m (List.mem_append_right _ (List.mem_singleton_self _))

theorem TxnInv.store_failed (h : TxnInv cfg s A pend) (hm : StoreMade cfg A m)
    (hv : s'.txnView = (s.state, s.mailFrom, s.rcptTo, s.dataErrorResult, s.bdatBuffer ++ pend,
      s.advertisedSize))
    (hb : ((s.bdatBuffer ++ pend).length : Int) ≤ maxMessageSize) :
    TxnInv cfg s' (A ++ [.store m false]) [] := by
  simp only [Session.txnView, Prod.mk.injEq] at hv
  obtain ⟨h1, h2, h3, h4, h5, h6⟩ := hv
  refine ⟨h.stores.append cfg fun _ _ he => by cases he; exact hm, h6 ▸ h.adv, h5 ▸ hb,
    fun hi => ⟨h3 ▸ (h.idle (h1 ▸ hi)).1, fun hn => absurd hn not_noFailedStore_failed⟩,
    fun ht => ?_⟩
  obtain ⟨t, hot, hc1, hc2, hc3, pre, hpre, -⟩ := h.txn (h1 ▸ ht)
  refine ⟨t, by rw [openTxn_append_single, hot]; rfl, ?_⟩
  unfold Carries
  rw [h2, h3, h4, h5, List.append_nil]
  exact ⟨hc1, hc2, hc3, pre, hpre, fun hn => absurd hn not_noFailedStore_failed⟩

theorem TxnInv.stored (h : TxnInv cfg s A pend) (hm : StoreMade cfg A m) (hs : s'.state = .mail)
    (hr : s'.rcptTo = []) (ha : s'.advertisedSize = s.advertisedSize)
    (hb : (s'.bdatBuffer.length : Int) ≤ maxMessageSize)
    (he : NoFailedStore A → s'.bdatBuffer = []) : TxnInv cfg s' (A ++ [.store m true]) [] :=
  ⟨h.stores.append cfg fun _ _ e => by cases e; exact hm, ha ▸ h.adv, hb,
    fun _ => ⟨hr, fun hn => he hn.of_append⟩,
    fun ht => absurd ht (Idle.not_inTransaction (.inr (.inr (.inr hs))))⟩

theorem TxnInv.chunk_appended (h : TxnInv cfg s A pend) (hs : s.state = .rcpt ∨ s.state = .bdat)
    (hv : s'.txnView = (.bdat, s.mailFrom, s.rcptTo, s.dataErrorResult, s.bdatBuffer ++ pend,
      s.advertisedSize))
    (hb : ((s.bdatBuffer ++ pend).length : Int) ≤ maxMessageSize) : TxnInv cfg s' A [] := by
  simp only [Session.txnView, Prod.mk.injEq] at hv
  obtain ⟨h1, h2, h3, h4, h5, h6⟩ := hv
  obtain ⟨t, hot, hc1, hc2, hc3, pre, hpre, hn⟩ := h.txn (hs.elim .inl fun h => .inr (.inr h))
  refine ⟨h.stores, h6 ▸ h.adv, h5 ▸ hb, fun hi => absurd (.inr (.inr h1)) hi.not_inTransaction,
    fun _ => ⟨t, hot, ?_⟩⟩
  unfold Carries
  rw [h1, h2, h3, h4, h5, List.append_nil]
  exact ⟨hc1, hc2, hc3, pre, hpre, fun hn' => ⟨(hn hn').1, fun hne => absurd rfl hne⟩⟩

end

theorem allowedIn_cases {v : Verb} {st : State} (h : v.allowedIn st = true) :
    (v = .helo ∨ v = .ehlo ∨ v = .auth ∨ v = .starttls → Idle st) ∧ (v = .mail → st = .mail) ∧
      (v = .rcpt → st = .rcpt) ∧ (v = .rset → Idle st ∨ st = .rcpt) := by
  unfold Idle
  revert h
  cases v <;> cases st <;> decide

section
variable {cfg : Config} {L : List Event} {l : String} {cmd : Command} {Q : Conf → Prop}
  {E : GoErr → Conf → Prop}

theorem hoare_suspend_blocked {P : Conf → Prop} {p : Pc}
    (h : ∀ c, P c → Blocked cfg L { c with pc := p }) :
    Hoare P (suspend p) (Kept Q (Blocked cfg L)) E :=
  Hoare.bind (R := fun _ => Blocked cfg L) h fun _ => Hoare.pure _ fun _ h => h

theorem hoare_inStep_handleData (hp : Parses l .data cmd) :
    Hoare (fun c => InStep cfg L c ∧ c.log.getLast? = some (.line l))
      handleData (Kept (InStep cfg L) (Blocked cfg L)) (fun _ => InStep cfg L) := by
  refine hoare_of_at fun c h => ?_
  obtain ⟨⟨hI, hS⟩, hL⟩ := h
  unfold handleData
  refine hoare_at_getS_bind ?_
  dsimp only
  split
  · exact hoare_at_refusal hI hS (.inl (by decide))
  rename_i hs
  refine Hoare.bind (Guards.pure _) fun _ => ?_
  split
  · exact hoare_at_refusal hI hS (.inl (formatErrorResult_ne _ _))
  rename_i hd
  have hI' : TxnInv cfg { c.s with state := .data } c.log [] := hI.data_started (not_not.mp hs) rfl
  have hw : Hoare (At c.log { c.s with state := .data }) (writeResponse dataGo)
      (fun _ c' => InStep cfg L c' ∧ c'.log = c.log ++ [.reply dataGo] ∧ c'.s.state = .data ∧
        c'.s.dataErrorResult = none)
      (fun _ c' => InStep cfg L c' ∧ c'.log = c.log ++ [.reply dataGo] ∧ c'.s.state = .data ∧
        c'.s.dataErrorResult = none) :=
    Hoare.writeResponse_framed fun c' _ _ _ _ ⟨hl, hs'⟩ => by
      rw [hl, hs']
      exact ⟨⟨(hI'.reply (.inl (by decide))).congr rfl, hS.append fun _ _ => Event.noConfusion⟩,
        rfl, rfl, hd⟩
  refine Hoare.bind (hoare_at_modifyS _) fun _ =>
    Hoare.bind (hw.mono (fun _ _ h => h) fun _ _ h => h.1) fun _ =>
      hoare_suspend_blocked fun c' ⟨⟨hI'', hS''⟩, hl, hst, hde⟩ =>
        ⟨⟨hI'', hst, hde, c.log.dropLast, l, cmd, ?_, hp⟩, hS''⟩
  rw [hl, eq_dropLast_of_getLast? hL]
  simp

theorem bdatRead_of_checks {s : Session} {n : Int} {last : Bool} (hI : TxnInv cfg s L [])
    (hs : s.state = .rcpt ∨ s.state = .bdat) (hd : ¬(s.dataErrorResult.isSome && last) = true)
    (hn : ¬n < 0) (hsize : ¬wrapInt64 (s.bdatBuffer.length + n) > getMaxMessageSize s)
    (halloc : ¬n.toNat > maxAlloc) : BdatRead s n.toNat last := by
  refine ⟨hs, fun hl => by simpa [hl] using hd, ?_⟩
  have hb := hI.buf
  unfold maxAlloc at halloc
  unfold maxMessageSize at hb
  rw [wrapInt64_of_lt (by omega) (by omega)] at hsize
  omega

theorem hoare_inStep_handleBdat (hp : Parses l .bdat cmd) :
    Hoare (fun c => InStep cfg L c ∧ c.log.getLast? = some (.line l))
      (handleBdat cmd) (Kept (InStep cfg L) (Blocked cfg L)) (fun _ => InStep cfg L) := by
  refine hoare_of_at fun c h => ?_
  obtain ⟨⟨hI, hS⟩, hL⟩ := h
  unfold handleBdat
  refine hoare_at_getS_bind ?_
  dsimp only
  split
  · exact hoare_at_refusal hI hS (.inl (by decide))
  rename_i hs
  refine Hoare.bind (Guards.pure _) fun _ => ?_
  split
  · exact hoare_at_refusal hI hS (.inl (by decide))
  rename_i n _
  split
  · exact hoare_at_refusal hI hS (.inl (by decide))
  rename_i hn
  refine Hoare.bind (Guards.pure _) fun _ => ?_
  split
  · exact hoare_at_refusal hI hS (.inl (formatErrorResult_ne _ _))
  rename_i hd
  refine Hoare.bind (Guards.pure _) fun _ => ?_
  split
  · exact hoare_at_refusal hI hS (.inl (ne_ok_of_head (by simp [String.data_append])))
  rename_i hsize
  refine Hoare.bind (Guards.pure _) fun _ => ?_
  split
  · exact hoare_suspend_blocked fun c' ⟨hl, hs'⟩ => ⟨⟨by rw [hl, hs']; exact hI, trivial⟩, hl ▸ hS⟩
  rename_i halloc
  have hr := bdatRead_of_checks hI (by simpa [or_iff_not_imp_left] using hs) hd hn hsize halloc
  refine hoare_suspend_blocked fun c' ⟨hl, hs'⟩ =>
    ⟨⟨?_, ?_, c.log.dropLast, l, cmd, ?_, hp, rfl⟩, hl ▸ hS⟩
  · rw [hl, hs']; exact hI
  · rw [hs']; exact hr
  · rw [hl]; exact eq_dropLast_of_getLast? hL

end

section
variable {cfg : Config} (o : Outcome) {L A : List Event} {M : Int} {l : String} {cmd : Command}
  {s : Session} {W : Conf → Prop}

theorem hoare_at_within_reply {log : List Event} {r : String}
    (h : TxnInv cfg s (log ++ [.reply r]) []) (hg : Grown L M log) :
    Hoare (At log s) (writeResponse r) (fun _ => Within cfg L M) (fun _ => Within cfg L M) :=
  Hoare.writeResponse_framed fun c _ _ _ _ ⟨hl, hs⟩ =>
    ⟨by rw [hl]; exact h.congr (by rw [hs]; rfl),
      by rw [hl]; exact hg.append fun _ _ => Event.noConfusion⟩

theorem storeMade_data (hI : TxnInv cfg s (L ++ [.line l, .reply dataGo]) [])
    (hp : Parses l .data cmd) (hs : s.state = .data) (hd : s.dataErrorResult = none)
    (data : List Char) :
    StoreMade cfg (L ++ [.line l, .reply dataGo] ++ [.body data]) (messageOf s data) := by
  obtain ⟨t, hot, hc1, hc2, hc3, -⟩ := hI.txn (.inr (.inl hs))
  exact ⟨t, by rw [openTxn_append_single, hot]; rfl, hc1.symm, hc2.symm, hc3.symm.trans hd,
    .inl ⟨L, l, cmd, data, by simp, hp, rfl⟩⟩

theorem hoare_finishData (data : List Char)
    (hI : TxnInv cfg s (L ++ [.line l, .reply dataGo]) []) (hp : Parses l .data cmd)
    (hs : s.state = .data) (hd : s.dataErrorResult = none) :
    Hoare (At (L ++ [.line l, .reply dataGo]) s) (do logEvent (.body data); done (finishData o data))
      (Kept (Within cfg (L ++ [.line l, .reply dataGo]) (getMaxMessageSize s)) W)
      (fun _ => Within cfg (L ++ [.line l, .reply dataGo]) (getMaxMessageSize s)) := by
  have hI' : TxnInv cfg s (L ++ [.line l, .reply dataGo] ++ [.body data]) [] :=
    hI.event (fun _ _ => Event.noConfusion) (by rw [openTxn_append_single]; rfl)
  have hg := (Grown.refl (L ++ [.line l, .reply dataGo]) (getMaxMessageSize s)).append
    (e := .body data) fun _ _ => Event.noConfusion
  have hm := storeMade_data hI hp hs hd data
  refine Hoare.bind (hoare_at_logEvent _) fun _ => Hoare.bind ?_ fun _ => Hoare.pure _ fun _ h => h
  unfold finishData
  refine hoare_at_getS_bind ?_
  dsimp only
  split
  · exact Hoare.bind (R := fun _ _ => False)
      (Hoare.throwErr fun c ⟨hl, hc⟩ => ⟨by rw [hl, hc]; exact hI', by rw [hl]; exact hg⟩)
      fun _ _ h => h.elim
  rename_i hsize
  have hg' := fun ok => hg.append (e := .store (messageOf s data) ok)
    fun _ _ he => by cases he; exact Int.not_lt.mp hsize
  refine Hoare.bind (Guards.pure _) fun _ =>
    Hoare.bind (hoare_at_storeMessage o _) fun r => Hoare.pull fun hr => ?_
  subst hr
  split
  · rename_i err herr
    obtain ⟨r, hr, -, he⟩ := handleStorageError_eq err
    rw [he]
    simp only [herr, Option.isNone_some]
    exact hoare_at_within_reply ((hI'.store_failed hm (by simp [Session.txnView])
      (by simpa using hI'.buf)).reply (.inl hr)) (hg' false)
  · rename_i herr
    simp only [herr, Option.isNone_none]
    obtain ⟨t, -, -, -, -, pre, -, hn⟩ := hI'.txn (.inr (.inl hs))
    refine Hoare.bind (hoare_at_modifyS _) fun _ => hoare_at_within_reply ?_ (hg' true)
    refine TxnInv.reply ?_ (.inl (by decide))
    exact hI'.stored hm rfl rfl rfl hI'.buf fun hn' => (hn hn').2 (by rw [hs]; decide)

theorem storeMade_bdat {chunk : List Char} (hI : TxnInv cfg s (L ++ [.line l, .chunk chunk]) chunk)
    (hp : Parses l .bdat cmd) (hlast : bdatLast cmd = true) (hr : BdatRead s chunk.length true) :
    StoreMade cfg (L ++ [.line l, .chunk chunk]) (messageOf s (s.bdatBuffer ++ chunk)) := by
  obtain ⟨t, hot, hc1, hc2, hc3, pre, hpre, hn⟩ := hI.txn (hr.1.elim .inl fun h => .inr (.inr h))
  refine ⟨t, hot, hc1.symm, hc2.symm, hc3.symm.trans (hr.2.1 rfl),
    .inr ⟨L, l, cmd, chunk, rfl, hp, hlast, fun hn' => ?_⟩⟩
  rw [(hn hn').1, List.nil_append] at hpre
  exact congrArg String.mk hpre

theorem hoare_finishBdat {chunk : List Char} {last : Bool}
    (hI : TxnInv cfg s (L ++ [.line l, .chunk chunk]) chunk) (hp : Parses l .bdat cmd)
    (hlast : bdatLast cmd = last) (hr : BdatRead s chunk.length last) :
    Hoare (At (L ++ [.line l, .chunk chunk]) s) (done (finishBdat o chunk last))
      (Kept (Within cfg (L ++ [.line l, .chunk chunk]) (getMaxMessageSize s)) W)
      (fun _ => Within cfg (L ++ [.line l, .chunk chunk]) (getMaxMessageSize s)) := by
  have hsize : ((s.bdatBuffer ++ chunk).length : Int) ≤ getMaxMessageSize s := by
    simpa using hr.2.2
  have hb : ((s.bdatBuffer ++ chunk).length : Int) ≤ maxMessageSize :=
    Int.le_trans hsize (getMaxMessageSize_le hI.adv)
  refine Hoare.bind ?_ fun _ => Hoare.pure _ fun _ h => h
  unfold finishBdat
  refine Hoare.bind (hoare_at_modifyS _) fun _ => ?_
  cases last
  · rw [if_neg Bool.false_ne_true]
    refine Hoare.bind (hoare_at_modifyS _) fun _ => hoare_at_within_reply ?_ (Grown.refl _ _)
    refine TxnInv.reply ?_ (.inr (inert_of_last cfg (by simp)))
    exact hI.chunk_appended hr.1 rfl hb
  rw [if_pos rfl]
  have hm := storeMade_bdat hI hp hlast hr
  have hg := fun ok => (Grown.refl (L ++ [.line l, .chunk chunk]) (getMaxMessageSize s)).append
    (e := .store (messageOf s (s.bdatBuffer ++ chunk)) ok) fun _ _ he => by cases he; exact hsize
  refine hoare_at_getS_bind (Hoare.bind (hoare_at_storeMessage o _) fun r => Hoare.pull fun hr' => ?_)
  subst hr'
  split
  · rename_i err herr
    obtain ⟨r, hr, -, he⟩ := handleStorageError_eq err
    rw [he]
    simp only [herr, Option.isNone_some, messageOf_bdatBuffer]
    refine hoare_at_within_reply ?_ (hg false)
    exact TxnInv.reply (hI.store_failed hm rfl hb) (.inl hr)
  · rename_i herr
    simp only [herr, Option.isNone_none, messageOf_bdatBuffer]
    refine Hoare.bind (hoare_at_modifyS _) fun _ => hoare_at_within_reply ?_ (hg true)
    refine TxnInv.reply ?_ (.inl (by decide))
    exact hI.stored hm rfl rfl rfl (by simp [resetSessionState, maxMessageSize]) fun _ => rfl

end

section
variable {cfg : Config} (o : Outcome) {L : List Event} {M : Int}

theorem InStep.within {c : Conf} (h : InStep cfg L c) : Within cfg L M c := ⟨h.1, h.2.grown M⟩

theorem Blocked.stepped {c : Conf} (h : Blocked cfg L c) : Stepped cfg L M c :=
  ⟨h.1, h.2.grown M⟩

theorem framed_within : LoopFramed (Within cfg L M) := framed_txnInv.and (framed_grown L M)

theorem hoare_inStep_dispatch (line : String) (v : Verb) (cmd : Command)
    (hp : parseCommand line = some cmd) (hv : Verb.ofName cmd.name = some v) :
    Hoare (fun c => InStep cfg L c ∧ c.log.getLast? = some (.line line) ∧ v.allowedIn c.s.state = true)
      (dispatch cfg o v cmd) (Kept (InStep cfg L) (Blocked cfg L)) (fun _ => InStep cfg L) := by
  have hP : Parses line v cmd := ⟨hp, hv⟩
  have quiet : ∀ {q : State → Prop}, v ≠ .mail ∧ v ≠ .rcpt ∧ v ≠ .rset →
      (∀ st, v.allowedIn st = true → q st) → ∀ c,
        InStep cfg L c ∧ c.log.getLast? = some (.line line) ∧ v.allowedIn c.s.state = true →
          Quiet cfg L q c :=
    fun hn hq c h => ⟨h.1, inert_line cfg h.2.1 hP hn, hq _ h.2.2⟩
  have idle := fun st (h : v.allowedIn st = true) => (allowedIn_cases h).1
  have done_ : ∀ {P : Conf → Prop} {x : GoM Unit}, Hoare P x (fun _ => InStep cfg L)
      (fun _ => InStep cfg L) → Hoare P (done x) (Kept (InStep cfg L) (Blocked cfg L))
        (fun _ => InStep cfg L) :=
    fun h => Hoare.bind h fun _ => Hoare.pure _ fun _ h => h
  cases v with
  | helo =>
    exact (hoare_quiet_done (guards_quiet_handleHelo cmd)).pre
      (quiet (by decide) fun st h => idle st h (.inl rfl))
  | ehlo =>
    exact (hoare_quiet_done (guards_quiet_handleHelo cmd)).pre
      (quiet (by decide) fun st h => idle st h (.inr (.inl rfl)))
  | auth =>
    exact (hoare_quiet_handleAuth o cmd).pre
      (quiet (by decide) fun st h => idle st h (.inr (.inr (.inl rfl))))
  | starttls =>
    exact (hoare_quiet_done (guards_quiet_handleStartTLS o)).pre
      (quiet (by decide) fun st h => idle st h (.inr (.inr (.inr rfl))))
  | mail =>
    exact done_ ((hoare_inStep_handleMail hP).pre fun _ h =>
      ⟨h.1, h.2.1, (allowedIn_cases h.2.2).2.1 rfl⟩)
  | rcpt =>
    exact done_ ((hoare_inStep_handleRcpt hP).pre fun _ h =>
      ⟨h.1, h.2.1, (allowedIn_cases h.2.2).2.2.1 rfl⟩)
  | rset =>
    exact done_ (hoare_inStep_handleRset.pre fun _ h => ⟨h.1, (allowedIn_cases h.2.2).2.2.2 rfl⟩)
  | data => exact (hoare_inStep_handleData hP).pre fun _ h => ⟨h.1, h.2.1⟩
  | bdat => exact (hoare_inStep_handleBdat hP).pre fun _ h => ⟨h.1, h.2.1⟩
  | noop =>
    exact (hoare_quiet_done guards_quiet_handleNoop).pre
      (quiet (q := fun _ => True) (by decide) fun _ _ => trivial)
  | vrfy =>
    exact (hoare_quiet_done (guards_quiet_handleVrfy cmd)).pre
      (quiet (q := fun _ => True) (by decide) fun _ _ => trivial)
  | quit =>
    exact Hoare.bind (hoare_quiet_handleQuit.pre
      (quiet (q := fun _ => True) (by decide) fun _ _ => trivial)) fun _ _ h => h.elim

theorem hoare_inStep_runLine (line : List Char) :
    Hoare (InStep cfg L) (runLine cfg o line) (Kept (InStep cfg L) (Blocked cfg L))
      (fun _ => InStep cfg L) :=
  hoare_kept_runLine cfg o (framed_inStep L) (framed_inStep L) (framed_inStep L) (fun _ h => h)
    (fun _ h => h) (hoare_inStep_dispatch o) line

theorem hoare_inStep_resume {R : Conf → Prop} {x : GoM Flow}
    (hx : Hoare R x (Kept (InStep cfg L) (Blocked cfg L)) (fun _ => InStep cfg L)) :
    Hoare R (resume x) (Kept (InStep cfg L) (Blocked cfg L)) (fun _ => InStep cfg L) :=
  hoare_kept_resume (framed_inStep L) (framed_inStep L) (fun _ h => h) true hx

theorem hoare_within_resume {R : Conf → Prop} {x : GoM Flow}
    (hx : Hoare R x (Kept (Within cfg L M) (Stepped cfg L M)) (fun _ => Within cfg L M)) :
    Hoare R (resume x) (Kept (Within cfg L M) (Stepped cfg L M)) (fun _ => Within cfg L M) :=
  hoare_kept_resume framed_within framed_within (fun _ h => h) true hx

theorem stepped_settle {r : Except GoErr Flow × Conf}
    (h : Lands (Kept (Within cfg L M) (Stepped cfg L M)) (fun _ => Within cfg L M) r) :
    Stepped cfg L M (Conf.settle r) := by
  rcases r with ⟨e | fl, c⟩
  · cases e <;> exact ⟨⟨h.1, trivial⟩, h.2⟩
  · cases fl
    · exact ⟨⟨h.1, trivial⟩, h.2⟩
    · exact h

theorem stepped_settle_inStep {r : Except GoErr Flow × Conf}
    (h : Lands (Kept (InStep cfg L) (Blocked cfg L)) (fun _ => InStep cfg L) r) :
    Stepped cfg L M (Conf.settle r) :=
  stepped_settle (h.mono (fun f _ h => by cases f; exacts [h.within, h.stepped]) fun _ _ h => h.within)

/-- Every step keeps the invariant, with its Store calls within the SIZE in force. -/
theorem inv_step {c c' : Conf} (h : Inv cfg c) (hs : step cfg o c = some c') :
    Stepped cfg c.log (getMaxMessageSize c.s) c' := by
  obtain ⟨hI, ha⟩ := h
  unfold step at hs
  split at hs <;> rename_i hpc <;> simp only [Pc.chunk, hpc] at hI <;> unfold AtPayload at ha <;>
    simp only [hpc] at ha
  · cases hs
    exact stepped_settle_inStep (hoare_quiet_handleStart c ⟨⟨hI, Since.refl _⟩, ha.2, ha.1⟩)
  · split at hs
    · cases hs
    · split at hs <;> cases hs
      · exact ⟨⟨hI, trivial⟩, Grown.refl _ _⟩
      · exact ⟨⟨hI, trivial⟩, Grown.refl _ _⟩
      · exact stepped_settle_inStep (hoare_inStep_runLine o _ _ ⟨hI.congr rfl, Since.refl _⟩)
  · split at hs <;> cases hs
    · exact stepped_settle (hoare_within_resume (Hoare.throwErr fun _ h => h) c ⟨hI, Grown.refl _ _⟩)
    · rename_i data buf sock _
      obtain ⟨hst, hd, L', l, cmd, hlog, hp⟩ := ha
      rw [hlog]
      refine stepped_settle (hoare_within_resume (hoare_finishData o
        (s := (c.withReader c.reader buf sock).s) data ?_ hp hst hd) _ ⟨hlog, rfl⟩)
      exact hlog ▸ hI.congr rfl
  · split at hs <;> cases hs
    · exact stepped_settle (hoare_within_resume (Hoare.throwErr fun _ h => h) c ⟨hI, Grown.refl _ _⟩)
    · rename_i n last _ chunk buf sock hread
      obtain ⟨hr, L', l, cmd, hlog, hp, hlast⟩ := ha
      have hI' : TxnInv cfg (c.withReader c.reader buf sock).s c.log [] := hI.congr rfl
      refine ⟨⟨hI'.chunk hr.1, ?_,
        L', l, cmd, show c.log ++ _ = _ by rw [hlog]; simp, hp, hlast⟩,
        (Grown.refl _ _).append fun _ _ => Event.noConfusion⟩
      rw [readFull_length hread]
      exact hr
  · split at hs <;> cases hs
    rename_i buf sock _
    obtain ⟨hr, L', l, cmd, hlog, hp, hlast⟩ := ha
    rw [hlog]
    refine stepped_settle (hoare_within_resume (hoare_finishBdat o
      (s := (c.withReader c.reader buf sock).s) ?_ hp hlast hr) _ ⟨hlog, rfl⟩)
    exact hlog ▸ hI.congr rfl
  · split at hs <;> cases hs
    · exact stepped_settle_inStep (hoare_inStep_resume (hoare_quiet_authResume _ _ _) c
        ⟨⟨hI, Since.refl _⟩, ha.2, ha.1⟩)
    · exact stepped_settle_inStep (hoare_inStep_resume (hoare_quiet_authResume _ _ _) _
        ⟨⟨hI.event (fun _ _ => Event.noConfusion) (by rw [openTxn_append_single]; rfl),
          (Since.refl _).append fun _ _ => Event.noConfusion⟩,
          inert_append cfg fun _ => Event.noConfusion, ha.1⟩)
  all_goals cases hs

end

section
variable {cfg : Config}

theorem inv_init (implicitTls : Bool) (hostname : String) :
    Inv cfg (Conf.init implicitTls hostname) :=
  ⟨⟨fun A _ _ B h => absurd h (by simp [Conf.init]), (by decide : (0 : Int) ≤ advertisedSizeMax),
    (by decide : ((0 : Nat) : Int) ≤ maxMessageSize), fun _ => ⟨rfl, fun _ => rfl⟩,
    fun ht => by rcases ht with h | h | h <;> cases h⟩, .inl rfl, inert_of_last cfg (by simp [Conf.init])⟩

theorem inv_env {c : Conf} (h : Inv cfg c) (e : Env) : Inv cfg (c.env e) := by
  cases e <;> simp only [Conf.env] <;> (try split_ifs) <;> exact h

theorem reach_inv {c : Conf} (h : Reach cfg c) : Inv cfg c := by
  induction h with
  | init t n => exact inv_init t n
  | step o _ hs ih => exact (inv_step o ih hs).1
  | env e _ ih => exact inv_env ih e

end

/-- Every reachable session's envelope is the one its transcript defines. -/
theorem envelope_of_transcript (cfg : Config) {c : Conf} (h : Reach cfg c) :
    (Idle c.s.state → c.s.rcptTo = []) ∧
      (InTransaction c.s.state → ∃ t, openTxn cfg c.log = some t ∧ t.sender = c.s.mailFrom ∧
        t.rcpts = c.s.rcptTo ∧ c.s.dataErrorResult = extractDataError t.sender) := by
  obtain ⟨hI, -⟩ := reach_inv h
  refine ⟨fun hi => (hI.idle hi).1, fun ht => ?_⟩
  obtain ⟨t, ho, h1, h2, h3, -⟩ := hI.txn ht
  exact ⟨t, ho, h1, h2, h3⟩

set_option maxRecDepth 100000 in
theorem rcpt_envelope_of_transcript :
    let c : Conf := session ["EHLO c", "MAIL FROM:<a@x>", "RCPT TO:<b@y>"]
    (Reach plainPort c ∧ openTxn plainPort c.log = some ⟨"a@x", ["b@y"], []⟩) ∧
      ((Idle c.s.state → c.s.rcptTo = []) ∧
        (InTransaction c.s.state → ∃ t, openTxn plainPort c.log = some t ∧ t.sender = c.s.mailFrom ∧
          t.rcpts = c.s.rcptTo ∧ c.s.dataErrorResult = extractDataError t.sender)) :=
  ⟨⟨reach_session _, by decide⟩, envelope_of_transcript plainPort (reach_session _)⟩

end BadSmtp.Server
