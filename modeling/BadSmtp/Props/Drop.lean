import BadSmtp.Props.Listening
import BadSmtp.Props.States

/-! The drop ports: setupSessionBehaviourAndGreet returns before the banner and Handle runs the
command loop as on any port, so the session neither greets nor closes, and in GREETING it
refuses every command but VRFY. -/
namespace BadSmtp.Server
open BadSmtp.Go BadSmtp.Smtp

def NoStore (L : List Event) : Prop := ∀ m ok, Event.store m ok ∉ L

theorem NoStore.append {L : List Event} (h : NoStore L) {e : Event} (he : ∀ m ok, e ≠ .store m ok) :
    NoStore (L ++ [e]) := fun m ok hm => by
  rcases List.mem_append.1 hm with hm | hm
  · exact h m ok hm
  · exact he m ok (List.mem_singleton.1 hm).symm

/-- A drop port's session: in GREETING, and no Store call in its log. -/
def Refusing (c : Conf) : Prop := c.s.state = .greeting ∧ NoStore c.log

theorem loopFramed_refusing : LoopFramed Refusing := by
  refine (Framed.state .greeting).loop.and ⟨fun c _ _ _ _ _ _ h => h.append nofun,
    fun _ _ _ _ h => h, fun _ _ h => h.append nofun, fun c h => ?_, fun _ _ h => h⟩
  show NoStore (detectPipelining c).2.log
  rw [detectPipelining_log]
  exact h

section
variable (cfg : Config) (o : Outcome) (hd : cfg.dropImmediate = true ∨ 0 < cfg.dropDelay)

theorem hoare_refusing_dispatch (v : Verb) (cmd : Command) :
    Hoare (fun c => Refusing c ∧ v.allowedIn c.s.state = true) (dispatch cfg o v cmd)
      (Kept Refusing fun _ => False) (fun _ => Refusing) := by
  cases v
  case vrfy =>
    refine Guards.kept_done ?_ |>.pre fun _ h => h.1
    unfold handleVrfy; dsimp only
    refine Guards.bind Guards.getS fun _ => ?_
    split_ifs <;> exact Guards.writeResponse_framed fun _ _ _ _ _ h => ⟨h.1, h.2.append nofun⟩
  all_goals exact fun c h => absurd h.2 (by rw [h.1.1]; decide)

theorem hoare_refusing_runLine (line : List Char) :
    Hoare Refusing (runLine cfg o line) (Kept Refusing fun _ => False) (fun _ => Refusing) :=
  hoare_kept_runLine cfg o loopFramed_refusing loopFramed_refusing loopFramed_refusing
    (fun _ h => h) (fun _ h => h)
    (fun _ v cmd _ _ => (hoare_refusing_dispatch cfg o v cmd).pre fun _ h => ⟨h.1, h.2.2⟩) line

theorem refusing_settle {r : Except GoErr Flow × Conf}
    (h : Lands (Kept Refusing fun _ => False) (fun _ => Refusing) r) :
    Refusing (Conf.settle r) ∧ ((Conf.settle r).pc = .loop ∨ ∃ e, (Conf.settle r).pc = .exited e) := by
  rcases r with ⟨e | f, c⟩
  · cases e <;> exact ⟨h, .inr ⟨_, rfl⟩⟩
  · cases f
    · exact ⟨h, .inl rfl⟩
    · exact h.elim

include hd

theorem greet_drop : greet cfg = pure () := by
  have hg : (cfg.dropImmediate || decide (0 < cfg.dropDelay)) = true := by
    rcases hd with h | h <;> simp [h]
  simp only [greet, hg, if_true]

theorem handleStart_drop (c : Conf) :
    handleStart cfg c = (.ok .done, { c with s := { c.s with connReader := some ⟨c.s.conn, []⟩ } }) := by
  simp only [handleStart, greet_drop cfg hd]
  rfl

theorem refusing_step {c c' : Conf} (h : Refusing c)
    (hpc : c.pc = .start ∨ c.pc = .loop ∨ ∃ e, c.pc = .exited e) (hs : step cfg o c = some c') :
    Refusing c' ∧ (c'.pc = .loop ∨ ∃ e, c'.pc = .exited e) := by
  rcases hpc with hpc | hpc | ⟨e, hpc⟩ <;> simp only [step, hpc] at hs
  case inl =>
    cases hs
    rw [handleStart_drop cfg hd]
    exact ⟨h, .inl rfl⟩
  case inr.inl =>
    split at hs
    · cases hs
    · split at hs <;> cases hs
      · exact ⟨h, .inr ⟨_, rfl⟩⟩
      · exact ⟨h, .inr ⟨_, rfl⟩⟩
      · exact refusing_settle (hoare_refusing_runLine cfg o _ _ h)
  case inr.inr => cases hs

/-- Every reachable configuration of a drop port's session refuses. -/
theorem reach_refusing {c : Conf} (h : Reach cfg c) :
    Refusing c ∧ (c.pc = .start ∨ c.pc = .loop ∨ ∃ e, c.pc = .exited e) := by
  induction h with
  | init t n => exact ⟨⟨rfl, nofun⟩, .inl rfl⟩
  | step o _ hs ih =>
    obtain ⟨h, hpc⟩ := refusing_step cfg o hd ih.1 ih.2 hs
    exact ⟨h, .inr hpc⟩
  | env e _ ih => cases e <;> simp only [Conf.env] <;> (try split_ifs) <;> exact ih

theorem run_init_drop (t : Bool) (host : String) (n : Nat) :
    run cfg o (n + 1) (Conf.init t host) = { Conf.init t host with
      s := { (Conf.init t host).s with connReader := some ⟨(Conf.init t host).s.conn, []⟩ },
      pc := .loop } := by
  refine run_of_step cfg o ?_ (step_listening cfg o ⟨rfl, rfl, rfl, rfl, _, rfl⟩ (.inl rfl)) n
  simp only [step, Conf.init, handleStart_drop cfg hd]
  rfl

end

theorem allowedIn_greeting {v : Verb} : v.allowedIn .greeting = true ↔ v = .vrfy := by
  cases v <;> decide

/-- A drop port neither greets nor drops, and stays in GREETING. -/
theorem drop_port_stays_in_greeting (cfg : Config)
    (hd : cfg.dropImmediate = true ∨ 0 < cfg.dropDelay) :
    (∀ (o : Outcome) (t : Bool) (host : String) (n : Nat),
      (run cfg o (n + 1) (Conf.init t host)).pc = .loop ∧
        (run cfg o (n + 1) (Conf.init t host)).out = [] ∧
        (run cfg o (n + 1) (Conf.init t host)).closes = 0) ∧
    (∀ c, Reach cfg c → c.s.state = .greeting ∧ ∀ m ok, Event.store m ok ∉ c.log) ∧
    ∀ (o : Outcome) (line : List Char) (cmd : Command) (v : Verb) (c : Conf), Reach cfg c →
      trimSpace line ≠ [] → ¬(trimSpace line).length > maxCommandLength →
      parseCommand ⟨trimSpace line⟩ = some cmd → Verb.ofName cmd.name = some v → v ≠ .vrfy →
      (runLine cfg o line c).2.log =
          c.log ++ [.line ⟨trimSpace line⟩, .reply (refusal cmd .greeting)] ∧
        (runLine cfg o line c).2.s.state = .greeting := by
  refine ⟨fun o t host n => ?_, fun c h => (reach_refusing cfg hd h).1,
    fun o line cmd v c h hne hlen hp hv hn => ?_⟩
  · rw [run_init_drop cfg o hd]
    exact ⟨rfl, rfl, rfl⟩
  · have hst : v.allowedIn .greeting = false := Bool.eq_false_iff.2 (mt allowedIn_greeting.1 hn)
    exact Hoare.snd (hoare_refused_runLine cfg o (L := c.log) hne hlen hp hv hst) (c := c)
      ⟨rfl, (reach_refusing cfg hd h).1.1⟩

set_option maxRecDepth 100000 in
theorem immediate_drop_refuses_quit :
    let cfg : Config := { plainPort with dropImmediate := true }
    let c₀ := run cfg ⟨none, true, 0, 0⟩ 2 (Conf.init false "")
    let c := lockstep cfg ⟨none, true, 0, 0⟩ ["HELO c", "MAIL FROM:<a@b.c>", "QUIT"] c₀
    (cfg.dropImmediate = true ∨ 0 < cfg.dropDelay) ∧
      (c.s.state = .greeting ∧ ∀ m ok, Event.store m ok ∉ c.log) ∧
      ((runLine cfg ⟨none, true, 0, 0⟩ "QUIT".data c₀).2.log =
          c₀.log ++ [.line "QUIT", .reply (refusal ⟨"QUIT", []⟩ .greeting)] ∧
        (runLine cfg ⟨none, true, 0, 0⟩ "QUIT".data c₀).2.s.state = .greeting) ∧
      c.log = [.line "HELO c", .reply "503 Bad sequence - HELO not allowed in GREETING state",
        .line "MAIL FROM:<a@b.c>", .reply "503 Bad sequence - MAIL not allowed in GREETING state",
        .line "QUIT", .reply "503 Bad sequence - QUIT not allowed in GREETING state"] ∧
      c.pc = .loop :=
  have h := drop_port_stays_in_greeting { plainPort with dropImmediate := true } (.inl rfl)
  ⟨.inl rfl, h.2.1 _ (.lockstep _ _ (.run _ _ (.init false ""))),
    h.2.2 _ _ _ .quit _ (.run _ _ (.init false "")) (by decide) (by decide) (by decide) rfl
      (by decide), by decide, by decide⟩

end BadSmtp.Server
