import BadSmtp.Props.Advertised
import BadSmtp.Props.Client

/-! A whole conversation on a port that greets, from the accepted connection to QUIT, with a
client that waits for each answer: the banner, EHLO, deliverable transactions, and QUIT. -/
namespace BadSmtp.Server
open BadSmtp.Go BadSmtp.Smtp

theorem isResponse421_220 (x : String) : isResponse421 ("220 " ++ x) = false :=
  (isResponse421_code (' ' :: x.data) ⟨by decide, by decide⟩ ⟨by decide, by decide, by decide⟩
    (by decide : atoi ['2', '2', '0'] = some 220)).trans (by decide)

theorem isResponse421_ehloReply (lines : List String) : isResponse421 (ehloReply lines) = false := by
  obtain ⟨l, ls, h⟩ := List.exists_cons_of_ne_nil
    (show lines ++ ["250 OK"] ≠ [] from List.append_ne_nil_of_right_ne_nil _ (by simp))
  simp only [ehloReply, List.cons_append, List.nil_append, h, joinCrlf]
  exact (isResponse421_code _ ⟨by decide, by decide⟩ ⟨by decide, by decide, by decide⟩
    (by decide : atoi ['2', '5', '0'] = some 250)).trans (by decide)

theorem writeResponse_of_writable {c : Conf} {r : String} (hp : c.s.pipeliningMode = false)
    (hw : c.writable = true) (h4 : isResponse421 r = false) :
    writeResponse r c = (.ok (), { c with out := c.out ++ [r], log := c.log ++ [.reply r] }) := by
  have hp' : (c.s.pipeliningMode = true) ↔ False := by simp [hp]
  simp only [writeResponse_eq, hp', hw, h4, Bool.false_eq_true, false_and, if_false, if_true,
    List.append_nil]

/-- The banner setupSessionBehaviourAndGreet writes. -/
def banner (cfg : Config) (host : String) : String :=
  "220 " ++ (if host ≠ "" then host else if cfg.tlsHostname ≠ "" then cfg.tlsHostname
    else "badsmtp.test") ++ " ESMTP " ++ serverGreeting

structure Greeted (s₀ s : Session) : Prop where
  state : s.state = .helo
  rcpt : s.rcptTo = []
  buffer : s.bdatBuffer = s₀.bdatBuffer
  keeps : Keeps s₀ s
  quit : s.quitErrorResult = s₀.quitErrorResult

theorem framed_greeted {s₀ : Session} : Framed (Greeted s₀) :=
  ⟨fun _ _ h => ⟨h.1, h.2, h.3, h.4, h.5⟩, fun _ _ h => ⟨h.1, h.2, h.3, h.4, h.5⟩,
    fun _ _ h => ⟨h.1, h.2, h.3, h.4, h.5⟩⟩

def greeted (t : Bool) (host : String) : Session :=
  { (Conf.init t host).s with connReader := some ⟨(Conf.init t host).s.conn, []⟩, state := .helo }

section
variable (cfg : Config) (o : Outcome) (hg : cfg.dropImmediate = false) (hd : cfg.dropDelay = 0)
include hg hd

theorem greet_writes {c : Conf} (hp : c.s.pipeliningMode = false) (hw : c.writable = true) :
    greet cfg c = (.ok (), { c with
      s := { c.s with state := .helo }
      out := c.out ++ [banner cfg c.s.hostname]
      log := c.log ++ [.reply (banner cfg c.s.hostname)] }) := by
  have hb : (cfg.dropImmediate || decide (0 < cfg.dropDelay)) = false := by simp [hg, hd]
  have h4 : isResponse421 (banner cfg c.s.hostname) = false := by
    rw [banner, String.append_assoc, String.append_assoc]
    exact isResponse421_220 _
  simp only [greet, hb, Bool.false_eq_true, if_false, GoM.bind_apply, getS_apply, GoM.pure_apply]
  rw [show ("220 " ++ (if c.s.hostname ≠ "" then c.s.hostname else if cfg.tlsHostname ≠ "" then
    cfg.tlsHostname else "badsmtp.test") ++ " ESMTP " ++ serverGreeting) = banner cfg c.s.hostname
    from rfl, writeResponse_of_writable hp hw h4]
  rfl

theorem run_init_greets (t : Bool) (host : String) :
    run cfg o 2 (Conf.init t host) = { Conf.init t host with
      s := greeted t host
      out := [banner cfg host]
      log := [.reply (banner cfg host)]
      pc := .loop } := by
  refine run_of_step cfg o ?_ (step_listening cfg o ⟨rfl, rfl, rfl, rfl, _, rfl⟩ (.inl rfl)) 1
  simp only [step, handleStart, GoM.bind_apply, greet_writes cfg hg hd (c := Conf.init t host) rfl rfl, modifyS_apply,
    GoM.pure_apply]
  rfl

theorem answering_greeted (t : Bool) (host : String) :
    Answering (Greeted (greeted t host)) [.reply (banner cfg host)] (run cfg o 2 (Conf.init t host)) ∧
      (run cfg o 2 (Conf.init t host)).pc = .loop := by
  rw [run_init_greets cfg o hg hd]
  exact ⟨⟨⟨rfl, rfl, rfl, rfl, ⟨rfl, rfl, rfl, rfl⟩, rfl⟩, rfl, rfl, rfl, rfl, _, rfl⟩, rfl⟩

end

/-- A hostname a client can send with EHLO and that EHLO takes. -/
structure EhloName (h : String) : Prop where
  ne : h.data ≠ []
  blank : ∀ ch ∈ h.data, isSpace ch = false
  short : ("EHLO " ++ h).data.length ≤ maxCommandLength
  helo_error : extractHeloError h = none
  accepted : rejectsEhlo h = false

def ehlo (s₀ : Session) (h : String) : Session × List String :=
  addStandardCapabilities { s₀ with heloName := h, state := .mail } (parseCapabilityLabel (toLower h))

theorem addStandardCapabilities_congr {s s' : Session} (h : s.advertisedSize = s'.advertisedSize)
    (parts : List String) :
    (addStandardCapabilities s parts).1.capabilities = (addStandardCapabilities s' parts).1.capabilities ∧
      (addStandardCapabilities s parts).1.advertisedSize =
        (addStandardCapabilities s' parts).1.advertisedSize ∧
      (addStandardCapabilities s parts).2 = (addStandardCapabilities s' parts).2 := by
  unfold addStandardCapabilities
  split <;> simp [h]

theorem commandLine_ehlo {h : String} (hh : EhloName h) :
    CommandLine ("EHLO " ++ h) ⟨toUpper "EHLO", [h]⟩ :=
  commandLine_of_words (by simp [String.data_append]) (by decide) (by decide) hh.ne hh.blank
    hh.short

section
variable (cfg : Config) (o : Outcome) {s₀ : Session} {L : List Event} {E : GoErr → Conf → Prop}
  {h : String}

theorem answering_capabilities (parts : List String) :
    Hoare (Answering (Between s₀) L) (updateS fun s => addStandardCapabilities s parts)
      (fun r c => Answering (Between (addStandardCapabilities s₀ parts).1) L c ∧
        r = (addStandardCapabilities s₀ parts).2) E := by
  intro c ⟨⟨hl, hs⟩, hL⟩
  obtain ⟨hc, ha, hr⟩ := addStandardCapabilities_congr hs.keeps.2.2.2 parts
  obtain ⟨_, _, he, -⟩ := addStandardCapabilities_fst c.s parts
  obtain ⟨_, _, he₀, -⟩ := addStandardCapabilities_fst s₀ parts
  refine ⟨⟨⟨hl, ?_⟩, hL.sock, hL.eof, hL.broken, hL.closes, ?_⟩, hr⟩
  · rw [he₀] at hc ha ⊢
    rw [he] at hc ha ⊢
    exact ⟨hs.state, hs.rcpt, hs.buffer, ⟨hc, hs.keeps.2.1, hs.keeps.2.2.1, ha⟩, hs.quit⟩
  · show ∃ src, (addStandardCapabilities c.s parts).1.connReader = _
    rw [he]
    exact hL.reader

theorem answering_handleHelo_ehlo (hh : EhloName h) :
    Hoare (Answering (Greeted s₀) L) (handleHelo ⟨toUpper "EHLO", [h]⟩)
      (fun _ => Answering (Between (ehlo s₀ h).1) (L ++ [.reply (ehloReply (ehlo s₀ h).2)])) E := by
  unfold handleHelo
  refine Hoare.getS_bind (R := Greeted s₀) (fun _ h => h.1.2) fun s hs => ?_
  rw [if_neg (by simp [hs.state])]
  dsimp only [List.headD_cons]
  refine Hoare.bind (R := fun _ => Answering (Greeted s₀) L)
    (answering_modifyS (fun _ h => ⟨h.1, h.2, h.3, h.4, h.5⟩) fun _ => rfl) fun _ => ?_
  rw [hh.helo_error]
  refine Hoare.bind (R := fun _ => Answering (Between { s₀ with heloName := h, state := .mail }) L)
    (answering_modifyS (fun _ h => ⟨rfl, h.rcpt, h.buffer, h.keeps, .inr h.quit⟩) fun _ => rfl)
    fun _ => ?_
  rw [if_pos (by decide)]
  unfold handleEhlo
  dsimp only
  rw [if_neg (by simpa [rejectsEhlo] using hh.accepted)]
  refine Hoare.bind (answering_capabilities _) fun r => Hoare.pull fun hr => ?_
  subst hr
  exact answering_reply framed_between (isResponse421_ehloReply _)

theorem lockstep_ehlo (hh : EhloName h) {c : Conf} (hc : Answering (Greeted s₀) L c)
    (hpc : c.pc = .loop) :
    ∃ c', (Answering (Between (ehlo s₀ h).1)
        (L ++ [.line ("EHLO " ++ h), .reply (ehloReply (ehlo s₀ h).2)]) c' ∧ c'.pc = .loop) ∧
      ∀ ls, lockstep cfg o (("EHLO " ++ h) :: ls) c = lockstep cfg o ls c' :=
  lockstep_command cfg o (commandLine_ehlo hh) framed_greeted (v := .ehlo) rfl
    (fun _ hs => by simp [Verb.allowedIn, hs.state]) rfl
    (hoare_after_done (answering_handleHelo_ehlo hh)) hc hpc

theorem answering_setState {p : Session → Prop} (st : State) :
    Hoare (Answering p L) (modifyS fun s => { s with state := st })
      (fun _ => Answering (fun s => s.state = st) L) E :=
  answering_modifyS (fun _ _ => rfl) fun _ => rfl

theorem answering_handleQuit (hq : s₀.quitErrorResult = none) :
    Hoare (Answering (Between s₀) L) handleQuit (fun _ _ => False)
      (fun e c => e = .eof ∧ Answering (fun s => s.state = .quit) (L ++ [.reply "221 Bye"]) c) := by
  unfold handleQuit
  refine Hoare.getS_bind (R := Between s₀) (fun _ h => h.1.2) fun s hs => ?_
  rw [show s.quitErrorResult = none from hs.quit.elim id (·.trans hq)]
  refine Hoare.bind (answering_reply framed_between (by decide)) fun _ => ?_
  exact Hoare.bind (answering_setState .quit) fun _ => Hoare.throwErr fun _ h => ⟨rfl, h⟩

theorem answering_quit_dispatch (hq : s₀.quitErrorResult = none) (cmd : Command) :
    Hoare (Answering (Between s₀) L) (attempt (dispatch cfg o .quit cmd) >>= afterHandler true)
      (fun _ _ => False)
      (fun e c => e = .eof ∧ Answering (fun s => s.state = .quit) (L ++ [.reply "221 Bye"]) c) := by
  refine Hoare.bind (Hoare.attempt (Q := fun r c =>
    Answering (fun s => s.state = .quit) (L ++ [.reply "221 Bye"]) c ∧ r = .error .eof) ?_)
    fun r => Hoare.pull fun hr => ?_
  · exact Hoare.bind (R := fun _ _ => False) ((answering_handleQuit hq).mono (fun _ _ h => h.elim)
      fun _ _ h => ⟨h.2, by rw [h.1]⟩) fun _ _ h => h.elim
  · subst hr
    exact Hoare.bind (R := fun _ _ => False) (Hoare.bind (answering_flush (Framed.state .quit))
      fun _ => Hoare.throwErr fun _ h => ⟨rfl, h⟩) fun _ _ h => h.elim

theorem lockstep_quit (hq : s₀.quitErrorResult = none) {c : Conf}
    (hc : Answering (Between s₀) L c) (hpc : c.pc = .loop) :
    (lockstep cfg o ["QUIT"] c).log = L ++ [.line "QUIT", .reply "221 Bye"] ∧
      (lockstep cfg o ["QUIT"] c).pc = .exited none ∧ (lockstep cfg o ["QUIT"] c).closes = 1 := by
  have hl : CommandLine "QUIT" ⟨toUpper "QUIT", []⟩ :=
    ⟨by decide, by decide, by decide, by decide, by decide⟩
  obtain ⟨c₁, h₁, hs⟩ := step_loop_deliver cfg o framed_between hc hpc hl.newline
  have hx := answering_command_runLine cfg o hl framed_between (v := .quit) rfl
    (fun _ hs => by simp [Verb.allowedIn, hs.state]) rfl (answering_quit_dispatch cfg o hq _) c₁ h₁
  generalize runLine cfg o "QUIT".data c₁ = r at hx hs
  rcases r with ⟨_ | _, c₂⟩
  · obtain ⟨rfl, ⟨hlog, -⟩, hL⟩ := hx
    rw [lockstep, lockstep, show ("QUIT" ++ "\r\n").data = "QUIT".data ++ ['\r', '\n'] from rfl,
      run_of_step cfg o hs rfl 19]
    exact ⟨hlog.trans (by simp), rfl, show c₂.closes + 1 = 1 by rw [hL.closes]⟩
  · exact hx.elim

end

/-- A whole conversation: banner, EHLO, transactions, QUIT, one Close. -/
theorem conversation_delivered (cfg : Config) (o : Outcome) (hst : o.store = none)
    (hg : cfg.dropImmediate = false) (hd : cfg.dropDelay = 0) (t : Bool) (host : String)
    {h : String} (hh : EhloName h) {ms : List Mail}
    (hm : ∀ m ∈ ms, m.Deliverable cfg.lib (ehlo (greeted t host) h).1) :
    (lockstep cfg o (("EHLO " ++ h) :: ms.flatMap Mail.lines ++ ["QUIT"])
        (run cfg o 2 (Conf.init t host))).log =
      [.reply (banner cfg host), .line ("EHLO " ++ h),
          .reply (ehloReply (ehlo (greeted t host) h).2)] ++
        ms.flatMap (Mail.events (ehlo (greeted t host) h).1) ++ [.line "QUIT", .reply "221 Bye"] ∧
    (lockstep cfg o (("EHLO " ++ h) :: ms.flatMap Mail.lines ++ ["QUIT"])
        (run cfg o 2 (Conf.init t host))).pc = .exited none ∧
    (lockstep cfg o (("EHLO " ++ h) :: ms.flatMap Mail.lines ++ ["QUIT"])
        (run cfg o 2 (Conf.init t host))).closes = 1 := by
  obtain ⟨h₀, hpc₀⟩ := answering_greeted cfg o hg hd t host
  obtain ⟨c₁, h₁, e₁⟩ := lockstep_ehlo cfg o hh h₀ hpc₀
  obtain ⟨c₂, h₂, e₂⟩ := lockstep_transactions cfg o hst hm h₁.1 h₁.2
  rw [List.cons_append, e₁, e₂]
  exact lockstep_quit cfg o rfl h₂.1 h₂.2

set_option maxRecDepth 100000 in
theorem plain_conversation_delivered :
    let s₁ := (ehlo (greeted false "") "c").1
    let ms : List Mail := [⟨"a@b.c", ["d@e.f"], .data ["hi".data, ".x".data]⟩,
      ⟨"a@b.c", [], .bdat ["hi".data] "!".data⟩]
    let c := lockstep plainPort ⟨none, true, 0, 0⟩ (("EHLO " ++ "c") :: ms.flatMap Mail.lines ++ ["QUIT"])
      (run plainPort ⟨none, true, 0, 0⟩ 2 (Conf.init false ""))
    (plainPort.dropImmediate = false ∧ plainPort.dropDelay = 0 ∧ EhloName "c" ∧
      ∀ m ∈ ms, m.Deliverable plainPort.lib s₁) ∧
    c.log = [.reply (banner plainPort ""), .line ("EHLO " ++ "c"),
        .reply (ehloReply (ehlo (greeted false "") "c").2)] ++
      ms.flatMap (Mail.events s₁) ++ [.line "QUIT", .reply "221 Bye"] ∧
    c.pc = .exited none ∧ c.closes = 1 :=
  have hh : EhloName "c" := ⟨by decide, by decide, by decide, by decide, by decide⟩
  have hsa : Sendable plainPort.lib (ehlo (greeted false "") "c").1.capabilities.smtputf8 "a@b.c" :=
    ⟨by decide, by decide, by decide, by decide, by decide⟩
  have hm : ∀ m ∈ [(⟨"a@b.c", ["d@e.f"], .data ["hi".data, ".x".data]⟩ : Mail),
      ⟨"a@b.c", [], .bdat ["hi".data] "!".data⟩],
      m.Deliverable plainPort.lib (ehlo (greeted false "") "c").1 := by
    simp only [List.mem_cons, List.mem_singleton, forall_eq_or_imp, forall_eq, List.not_mem_nil,
      false_imp_iff, implies_true, and_true]
    refine ⟨⟨hsa, by decide, by decide, ?_, by decide, by decide⟩,
      ⟨hsa, by decide, by decide, by simp, by decide, by decide⟩⟩
    simp only [List.mem_singleton, forall_eq]
    exact ⟨⟨by decide, by decide, by decide, by decide, by decide⟩, by decide⟩
  ⟨⟨rfl, rfl, hh, hm⟩, conversation_delivered plainPort ⟨none, true, 0, 0⟩ rfl rfl rfl false "" hh hm⟩

end BadSmtp.Server
