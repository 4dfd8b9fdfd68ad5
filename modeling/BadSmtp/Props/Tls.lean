import BadSmtp.Props.Invariant

/-! The session's TLS state: s.conn and s.tlsState change only together, in handleStartTLS
after a successful handshake, so tlsState is set exactly when the connection is the TLS one,
and once set it stays set. -/
namespace BadSmtp.Server
open BadSmtp.Go BadSmtp.Smtp

section
variable {p : Session → Prop}

theorem settle_of_lands {r : Except GoErr Flow × Conf}
    (h : Lands (fun _ c => p c.s) (fun _ c => p c.s) r) : p (Conf.settle r).s := by
  rcases r with ⟨e | fl, c⟩
  · cases e <;> exact h
  · cases fl <;> exact h

theorem env_of_session {c : Conf} (h : p c.s) (e : Env) : p (c.env e).s := by
  cases e <;> simp only [Conf.env] <;> (try split_ifs) <;> exact h

variable (hp : Framed p)
include hp

theorem Framed.resume {x : GoM Flow} (hx : Guards (fun c => p c.s) (fun _ c => p c.s) x)
    {c : Conf} (h : p c.s) : p (Conf.settle (resume x c)).s :=
  settle_of_lands ((Guards.bind (Guards.attempt hx) (Guards.afterHandler hp.loop.guards_flush true))
    c h)

variable (cfg : Config) (o : Outcome)
  (hd : ∀ v cmd, Guards (fun c => p c.s) (fun _ c => p c.s) (dispatch cfg o v cmd))
include hd

theorem Framed.runLine (line : List Char) :
    Guards (fun c => p c.s) (fun _ c => p c.s) (runLine cfg o line) :=
  (hoare_kept_runLine (W := fun c => p c.s) cfg o hp.loop hp.loop hp.loop (fun _ h => h)
    (fun _ h => h) (fun _ v cmd _ _ => ((hd v cmd).pre fun _ h => h.1).mono
      (fun f _ h => by cases f <;> exact h) fun _ _ h => h) line).mono
    (fun f _ h => by cases f <;> exact h) fun _ _ h => h

variable (hr : (∀ data, Guards (fun c => p c.s) (fun _ c => p c.s) (finishData o data)) ∧
    (∀ chunk last, Guards (fun c => p c.s) (fun _ c => p c.s) (finishBdat o chunk last)) ∧
    (∀ w line priv, Guards (fun c => p c.s) (fun _ c => p c.s) (authResume cfg w line priv)))
  (hs : Guards (fun c => p c.s) (fun _ c => p c.s) (handleStart cfg))
include hr hs

/-- A property of the session every handler and read keeps holds after every step. -/
theorem Framed.keeps_step {c c' : Conf} (h : p c.s) (hst : step cfg o c = some c') : p c'.s := by
  unfold step at hst
  split at hst
  · cases hst
    exact settle_of_lands (hs c h)
  · split at hst
    · cases hst
    · split at hst <;> cases hst
      · exact h
      · exact h
      · exact settle_of_lands (hp.runLine cfg o hd _ _ (hp.reader _ _ h))
  · split at hst <;> cases hst
    · exact hp.resume (Guards.throwErr fun _ h => h) h
    · exact hp.resume (Guards.bind (Guards.logEvent fun _ h => h) fun _ =>
        Guards.bind (hr.1 _) fun _ => Guards.pure _) (hp.reader _ _ h)
  · split at hst <;> cases hst
    · exact hp.resume (Guards.throwErr fun _ h => h) h
    · exact hp.reader _ _ h
  · split at hst <;> cases hst
    exact hp.resume (Guards.bind (hr.2.1 _ _) fun _ => Guards.pure _) (hp.reader _ _ h)
  · split at hst <;> cases hst
    · exact hp.resume (hr.2.2 _ _ _) h
    · exact hp.resume (hr.2.2 _ _ _) h
  all_goals cases hst

end

/-- A property of the connection and tlsState. -/
def tlsView (q : Conn → Bool → Prop) (s : Session) : Prop := q s.conn s.tlsState

theorem framed_tlsView (q : Conn → Bool → Prop) : Framed (tlsView q) :=
  ⟨fun _ _ h => h, fun _ _ h => h, fun _ _ h => h⟩

section
variable {q : Conn → Bool → Prop} {E : GoErr → Conf → Prop}

theorem guards_tls_modifyS {f : Session → Session}
    (hf : ∀ s, (f s).conn = s.conn ∧ (f s).tlsState = s.tlsState) :
    Guards (fun c => tlsView q c.s) E (modifyS f) :=
  Guards.modifyS fun c h => by rw [tlsView, (hf c.s).1, (hf c.s).2]; exact h

theorem guards_tls_upgrade {f : Session → Session} (hf : ∀ s, (f s).conn = .tls ∧ (f s).tlsState = true)
    (hq : q .tls true) : Guards (fun c => tlsView q c.s) E (modifyS f) :=
  Guards.modifyS fun c _ => by rw [tlsView, (hf c.s).1, (hf c.s).2]; exact hq

theorem guards_tls_setPc (pc : Pc) : Guards (fun c => tlsView q c.s) E (setPc pc) := fun _ h => h

theorem guards_tls_writeChallenge (r : String) :
    Guards (fun c => tlsView q c.s) (fun _ c => tlsView q c.s) (writeChallenge r) :=
  Guards.bind (Guards.logEvent fun _ h => h) fun _ c h => by
    rw [connWrite_apply]; split <;> exact h

theorem guards_tls_capabilities (parts : List String) : Guards (fun c => tlsView q c.s) E
    (updateS fun s => addStandardCapabilities s parts) :=
  Guards.updateS fun c h => by
    obtain ⟨_, _, he, -⟩ := addStandardCapabilities_fst c.s parts
    rw [he]; exact h

theorem guards_tls_handleHelo (cmd : Command) :
    Guards (fun c => tlsView q c.s) (fun _ c => tlsView q c.s) (handleHelo cmd) := by
  unfold handleHelo handleEhlo; dsimp only
  repeat' first
    | with_reducible exact Guards.getS
    | with_reducible exact (framed_tlsView q).guards_reply _
    | (with_reducible refine guards_tls_modifyS ?_); exact fun _ => ⟨rfl, rfl⟩
    | with_reducible exact guards_tls_capabilities _
    | with_reducible refine Guards.bind ?_ fun _ => ?_
    | split

variable (cfg : Config) (o : Outcome) (hq : q .tls true)
include hq

theorem guards_tls_dispatch (v : Verb) (cmd : Command) :
    Guards (fun c => tlsView q c.s) (fun _ c => tlsView q c.s) (dispatch cfg o v cmd) := by
  cases v <;> simp only [dispatch] <;>
  repeat' first
    | with_reducible exact Guards.pure _ | with_reducible exact Guards.getS
    | with_reducible exact guards_tls_handleHelo _
    | with_reducible exact (framed_tlsView q).guards_reply _
    | with_reducible exact guards_tls_setPc _
    | with_reducible exact Guards.throwErr fun _ h => h
    | with_reducible exact Guards.attempt (guards_tls_writeChallenge _)
    | (with_reducible refine guards_tls_modifyS ?_); exact fun _ => ⟨rfl, rfl⟩
    | (with_reducible refine guards_tls_upgrade ?_ hq); exact fun _ => ⟨rfl, rfl⟩
    | with_reducible refine Guards.bind ?_ fun _ => ?_ | split
    | unfold done | unfold suspend | unfold handleMail | unfold handleRcpt | unfold handleVrfy
    | unfold handleRset | unfold handleNoop | unfold handleQuit | unfold handleStartTLS
    | unfold handleData | unfold handleBdat | unfold handleAuth | unfold authStart
    | unfold authFinish | dsimp only

end

section
variable (cfg : Config) (o : Outcome) {q : Conn → Bool → Prop}

theorem guards_tls_resumed :
    (∀ data, Guards (fun c => tlsView q c.s) (fun _ c => tlsView q c.s) (finishData o data)) ∧
    (∀ chunk last, Guards (fun c => tlsView q c.s) (fun _ c => tlsView q c.s)
      (finishBdat o chunk last)) ∧
    (∀ w line priv, Guards (fun c => tlsView q c.s) (fun _ c => tlsView q c.s)
      (authResume cfg w line priv)) := by
  refine ⟨fun data => ?_, fun chunk last => ?_, fun w line priv => ?_⟩ <;>
    simp only [finishData, finishBdat, authResume, storeMessage, handleStorageError, done,
      suspend, authFinish] <;>
  repeat' first
    | with_reducible exact Guards.pure _ | with_reducible exact Guards.getS
    | with_reducible exact (framed_tlsView q).guards_reply _
    | with_reducible exact guards_tls_setPc _
    | with_reducible exact Guards.throwErr fun _ h => h
    | with_reducible exact Guards.logEvent fun _ h => h
    | with_reducible exact Guards.attempt (guards_tls_writeChallenge _)
    | (with_reducible refine guards_tls_modifyS ?_); exact fun _ => ⟨rfl, rfl⟩
    | with_reducible refine Guards.bind ?_ fun _ => ?_ | split

theorem guards_tls_handleStart :
    Guards (fun c => tlsView q c.s) (fun _ c => tlsView q c.s) (handleStart cfg) := by
  unfold handleStart greet; dsimp only
  repeat' first
    | with_reducible exact Guards.pure _ | with_reducible exact Guards.getS
    | with_reducible exact (framed_tlsView q).guards_reply _
    | (with_reducible refine guards_tls_modifyS ?_); exact fun _ => ⟨rfl, rfl⟩
    | with_reducible refine Guards.bind ?_ fun _ => ?_ | split

end

section
variable {cfg : Config} {q : Conn → Bool → Prop} (hq : q .tls true)
include hq

theorem tlsView_step (o : Outcome) {c c' : Conf} (h : tlsView q c.s)
    (hs : step cfg o c = some c') : tlsView q c'.s :=
  (framed_tlsView q).keeps_step cfg o (guards_tls_dispatch cfg o hq) (guards_tls_resumed cfg o)
    (guards_tls_handleStart cfg) h hs

theorem follows_tlsView {c c' : Conf} (hf : Follows cfg c c') (h : tlsView q c.s) :
    tlsView q c'.s := by
  induction hf with
  | refl => exact h
  | step o _ hs ih => exact tlsView_step hq o ih hs
  | env e _ ih => exact env_of_session ih e

end

theorem reach_tls_agrees {cfg : Config} {c : Conf} (h : Reach cfg c) :
    tlsView (fun k b => b = true ↔ k = .tls) c.s := by
  induction h with
  | init t n => cases t <;> simp [tlsView, Conf.init]
  | step o _ hs ih => exact tlsView_step (q := fun k b => b = true ↔ k = .tls) (by simp) o ih hs
  | env e _ ih => exact env_of_session ih e

/-- tlsState is set exactly when the connection is the TLS one, and stays set. -/
theorem tls_state_agrees_and_stays {cfg : Config} {c c' : Conf} (h : Reach cfg c)
    (hf : Follows cfg c c') :
    (c.s.tlsState = true ↔ c.s.conn = .tls) ∧
      (c.s.tlsState = true → c'.s.tlsState = true ∧ c'.s.conn = .tls) :=
  ⟨reach_tls_agrees h, fun ht => follows_tlsView (q := fun k b => b = true ∧ k = .tls) ⟨rfl, rfl⟩ hf
    ⟨ht, (reach_tls_agrees h).1 ht⟩⟩

set_option maxRecDepth 100000 in
theorem starttls_upgrade_stays :
    let c := session ["EHLO c", "STARTTLS"]
    let c' := lockstep plainPort ⟨none, true, 0, 0⟩ ["EHLO c", "MAIL FROM:<a@x>", "NOOP"] c
    (Reach plainPort c ∧ Follows plainPort c c' ∧ c.s.tlsState = true) ∧
      ((c.s.tlsState = true ↔ c.s.conn = .tls) ∧
        (c.s.tlsState = true → c'.s.tlsState = true ∧ c'.s.conn = .tls)) :=
  ⟨⟨reach_session _, .lockstep _ _ .refl, by decide⟩,
    tls_state_agrees_and_stays (reach_session _) (.lockstep _ _ .refl)⟩

end BadSmtp.Server
