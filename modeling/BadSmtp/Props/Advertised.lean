import BadSmtp.Props.Effects

/-! What EHLO advertises against what the session then does: the SIZE it lists is the limit
getMaxMessageSize returns while that reply is the last capability list produced, and STARTTLS
is listed whatever the TLS state. -/
namespace BadSmtp.Server
open BadSmtp.Go BadSmtp.Smtp

def splitCrlf : List Char → List (List Char)
  | [] => [[]]
  | '\r' :: '\n' :: rest => [] :: splitCrlf rest
  | c :: rest =>
    match splitCrlf rest with
    | l :: ls => (c :: l) :: ls
    | [] => [[c]]

theorem splitCrlf_cons {c : Char} (hc : c ≠ '\r') (l : List Char) {m : List Char}
    {ms : List (List Char)} (h : splitCrlf l = m :: ms) : splitCrlf (c :: l) = (c :: m) :: ms := by
  unfold splitCrlf
  split
  · rename_i h'; cases h'
  · rename_i h'; cases h'; exact absurd rfl hc
  · rename_i h'; cases h'; rw [h]

theorem splitCrlf_of_cr_free : ∀ {l : List Char}, '\r' ∉ l → splitCrlf l = [l]
  | [], _ => rfl
  | c :: l, h => by
    rw [List.mem_cons, not_or] at h
    exact splitCrlf_cons (Ne.symm h.1) l (splitCrlf_of_cr_free h.2)

theorem splitCrlf_append_crlf : ∀ {l : List Char} (rest : List Char), '\r' ∉ l →
    splitCrlf (l ++ '\r' :: '\n' :: rest) = l :: splitCrlf rest
  | [], _, _ => rfl
  | c :: l, rest, h => by
    rw [List.mem_cons, not_or] at h
    exact splitCrlf_cons (Ne.symm h.1) _ (splitCrlf_append_crlf rest h.2)

theorem splitCrlf_joinCrlf (ls : List String) (hne : ls ≠ []) (h : ∀ l ∈ ls, '\r' ∉ l.data) :
    splitCrlf (joinCrlf ls).data = ls.map String.data := by
  induction ls using joinCrlf.induct with
  | case1 => exact absurd rfl hne
  | case2 l => exact splitCrlf_of_cr_free (h l (List.mem_singleton_self l))
  | case3 l ls hls ih =>
    obtain ⟨l', ls', rfl⟩ := List.exists_cons_of_ne_nil hls
    have h' := fun x hx => h x (List.mem_cons_of_mem l hx)
    simp only [joinCrlf, String.data_append, List.append_assoc, List.cons_append, List.nil_append]
    rw [splitCrlf_append_crlf _ (h l (List.mem_cons_self l _)), ih hls h']
    rfl

/-- The reply `r` lists `line` among its lines. -/
def advertises (r line : String) : Prop := line.data ∈ splitCrlf r.data

instance (r line : String) : Decidable (advertises r line) :=
  inferInstanceAs (Decidable (_ ∈ _))

theorem advertises_joinCrlf {ls : List String} (hne : ls ≠ []) (h : ∀ l ∈ ls, '\r' ∉ l.data)
    {line : String} : advertises (joinCrlf ls) line ↔ line ∈ ls := by
  unfold advertises
  rw [splitCrlf_joinCrlf ls hne h, List.mem_map]
  exact ⟨fun ⟨l, hl, he⟩ => String.ext he ▸ hl, fun hl => ⟨line, hl, rfl⟩⟩

theorem not_advertises_of_not_prefix {r line : String} {p : List Char} (hr : '\r' ∉ r.data)
    (hp : p <+: line.data) (h : ¬p <+: r.data) : ¬advertises r line := fun ha => by
  unfold advertises at ha
  rw [splitCrlf_of_cr_free hr, List.mem_singleton] at ha
  exact h (ha ▸ hp)

theorem getErrorMessage_cr_free (n : Nat) : '\r' ∉ (getErrorMessage n).data := by
  unfold getErrorMessage; split <;> decide

theorem getAuthMechanisms_cr_free (parts : List String) : '\r' ∉ (getAuthMechanisms parts).data := by
  unfold getAuthMechanisms; dsimp only
  split_ifs
  · refine List.foldlRecOn (motive := fun b : String => '\r' ∉ b.data) _ _ _ (by decide)
      fun b hb _ _ => ?_
    split_ifs <;> first | decide | exact hb
  · decide

theorem sizeLine_cr_free (v : Int) : '\r' ∉ ("250-SIZE " ++ toString v).data := by
  rw [String.data_append, toString_data_eq_formatInt, List.mem_append, not_or]
  exact ⟨by decide, fun h => by rcases formatInt_chars v _ h with h | h <;> cases h⟩

def capabilityMenu (parts : List String) : List String :=
  ["250-AUTH " ++ getAuthMechanisms parts, "250-8BITMIME",
    "250-SIZE " ++ toString ((parseAndClampSize parts).getD maxMessageSize), "250-PIPELINING",
    "250-STARTTLS", "250-CHUNKING", "250-SMTPUTF8", "250-ENHANCEDSTATUSCODES"]

theorem addStandardCapabilities_lines (s : Session) (parts : List String) :
    (addStandardCapabilities s parts).2 ⊆ capabilityMenu parts := by
  intro l hl
  unfold addStandardCapabilities at hl
  simp only [capabilityMenu, List.mem_cons, List.mem_singleton, List.not_mem_nil, or_false]
  split at hl <;> rename_i hp <;>
    by_cases hn : hasCapability parts "nosize" <;>
    simp only [hn, hp, if_true, if_false, Bool.false_eq_true, List.mem_append,
      List.mem_ite_nil_right, List.mem_singleton, List.not_mem_nil, Option.getD_some,
      Option.getD_none] at hl ⊢ <;>
    aesop

theorem sizeLine_inj {k v : Int} (h : "250-SIZE " ++ toString k = "250-SIZE " ++ toString v) :
    k = v := by
  have := congrArg String.data h
  rw [String.data_append, String.data_append, toString_data_eq_formatInt,
    toString_data_eq_formatInt] at this
  exact formatInt_injective (List.append_cancel_left this)

theorem size_mem_capabilityMenu {k : Int} {parts : List String}
    (h : "250-SIZE " ++ toString k ∈ capabilityMenu parts) :
    k = (parseAndClampSize parts).getD maxMessageSize := by
  simp only [capabilityMenu, List.mem_cons, List.mem_singleton, List.not_mem_nil, or_false] at h
  rcases h with h | h | h | h | h | h | h | h <;>
    first | exact sizeLine_inj h | simp [String.ext_iff, String.data_append] at h

theorem advertisedSize_of_size_mem {s : Session} {parts : List String} {k v : Int}
    (h : "250-SIZE " ++ toString k ∈ (addStandardCapabilities s parts).2)
    (hv : parseAndClampSize parts = some v) :
    (addStandardCapabilities s parts).1.advertisedSize = v := by
  unfold addStandardCapabilities at h ⊢
  by_cases hn : hasCapability parts "nosize" = true <;>
    simp [hn, hv, String.ext_iff, String.data_append] at h ⊢

theorem parseAndClampSize_pos : ∀ {ps : List String} {v : Int}, parseAndClampSize ps = some v →
    0 < v
  | [], _, h => by cases h
  | p :: ps, v, h => by
    unfold parseAndClampSize at h
    split at h
    · split_ifs at h with h1 h2 h3
      · exact parseAndClampSize_pos h
      all_goals cases h
      all_goals simp only [advertisedSizeMin, advertisedSizeMax] at *; omega
    · exact parseAndClampSize_pos h

theorem capabilityMenu_cr_free (parts : List String) : ∀ l ∈ capabilityMenu parts, '\r' ∉ l.data := by
  simp only [capabilityMenu, List.mem_cons, List.mem_singleton, List.not_mem_nil, or_false]
  rintro l (rfl | rfl | rfl | rfl | rfl | rfl | rfl | rfl)
  · rw [String.data_append, List.mem_append, not_or]
    exact ⟨by decide, getAuthMechanisms_cr_free parts⟩
  · decide
  · exact sizeLine_cr_free _
  all_goals decide

/-- The reply of EHLO that lists the capabilities `lines`. -/
def ehloReply (lines : List String) : String := joinCrlf (["250-badsmtp.test"] ++ lines ++ ["250 OK"])

/-- A reply that starts with buildEhloResponse's first line. -/
def isEhloReply (r : String) : Bool := "250-badsmtp.test\r\n".data.isPrefixOf r.data

theorem isEhloReply_ehloReply (lines : List String) : isEhloReply (ehloReply lines) = true := by
  obtain ⟨l, ls, h⟩ := List.exists_cons_of_ne_nil
    (show lines ++ ["250 OK"] ≠ [] from List.append_ne_nil_of_right_ne_nil _ (by simp))
  simp only [ehloReply, isEhloReply, List.cons_append, List.nil_append, h, joinCrlf,
    List.isPrefixOf_iff_prefix]
  exact ⟨(joinCrlf (l :: ls)).data, rfl⟩

theorem advertises_ehloReply {s : Session} {parts : List String} {line : String} :
    advertises (ehloReply (addStandardCapabilities s parts).2) line ↔
      line = "250-badsmtp.test" ∨ line ∈ (addStandardCapabilities s parts).2 ∨ line = "250 OK" := by
  rw [ehloReply, advertises_joinCrlf (by simp)]
  · simp only [List.mem_append, List.mem_singleton, or_assoc]
  · intro l hl
    simp only [List.mem_append, List.mem_singleton] at hl
    rcases hl with (rfl | hl) | rfl
    · decide
    · exact capabilityMenu_cr_free parts l (addStandardCapabilities_lines s parts hl)
    · decide

theorem ehloReply_size {s : Session} {parts : List String} {k : Int}
    (h : advertises (ehloReply (addStandardCapabilities s parts).2) ("250-SIZE " ++ toString k)) :
    k = (parseAndClampSize parts).getD maxMessageSize ∧
      (k ≠ maxMessageSize → getMaxMessageSize (addStandardCapabilities s parts).1 = k) := by
  rcases advertises_ehloReply.1 h with h | h | h
  · simp [String.ext_iff, String.data_append] at h
  · have hk := size_mem_capabilityMenu (addStandardCapabilities_lines s parts h)
    refine ⟨hk, fun hne => ?_⟩
    cases hp : parseAndClampSize parts with
    | none => rw [hp] at hk; exact absurd hk hne
    | some v =>
      rw [hp, Option.getD_some] at hk
      subst hk
      simp only [getMaxMessageSize, advertisedSize_of_size_mem h hp, parseAndClampSize_pos hp,
        if_true]
  · simp [String.ext_iff, String.data_append] at h

theorem formatErrorResult_data (caps : Capabilities) (e : ErrorResult) :
    ∃ rest, (formatErrorResult caps e).data = (toString e.code).data ++ ' ' :: rest := by
  unfold formatErrorResult
  split_ifs <;> exact ⟨_, by simp only [String.data_append, List.append_assoc]; rfl⟩

theorem isEhloReply_formatErrorResult (caps : Capabilities) (e : ErrorResult) :
    isEhloReply (formatErrorResult caps e) = false := by
  obtain ⟨rest, h⟩ := formatErrorResult_data caps e
  rw [isEhloReply, h, Bool.eq_false_iff, ne_eq, List.isPrefixOf_iff_prefix]
  exact not_prefix_digits_space (c := '-') (by decide) (by decide) rfl (toDigits_spec e.code).2.1

theorem not_advertises_size {r : String} (hr : '\r' ∉ r.data) (h : ¬"250-".data <+: r.data)
    (k : Int) : ¬advertises r ("250-SIZE " ++ toString k) :=
  not_advertises_of_not_prefix hr
    (show "250-".data <+: ("250-SIZE " ++ toString k).data from ⟨_, rfl⟩) h

theorem not_advertises_size_heloError (caps : Capabilities) {hostname : String} {e : ErrorResult}
    (he : extractHeloError hostname = some e) (k : Int) :
    ¬advertises (formatErrorResult caps e) ("250-SIZE " ++ toString k) := by
  have hen : e.enhanced = "" := by
    unfold extractHeloError at he
    split at he <;> (try split_ifs at he) <;> cases he <;> rfl
  have hd : (formatErrorResult caps e).data =
      (toString e.code).data ++ ' ' :: (getErrorMessage e.code).data := by
    simp [formatErrorResult, hen, String.data_append]
  refine not_advertises_size ?_ ?_ k <;> rw [hd]
  · rw [List.mem_append, List.mem_cons, not_or, not_or]
    exact ⟨fun h => absurd ((toDigits_spec e.code).2.1 _ h) (by decide), by decide,
      getErrorMessage_cr_free _⟩
  · exact not_prefix_digits_space (c := '-') (by decide) (by decide) rfl (toDigits_spec e.code).2.1

theorem handleHelo_size (cmd : Command) (c : Conf) {r : String} {k : Int}
    (hl : (handleHelo cmd c).2.log = c.log ++ [.reply r])
    (ha : advertises r ("250-SIZE " ++ toString k)) :
    k = (parseAndClampSize (parseCapabilityLabel (toLower (cmd.args.headD "")))).getD
      maxMessageSize := by
  let Ans : Conf → Prop := fun c' => ∀ r, c'.log = c.log ++ [.reply r] →
    advertises r ("250-SIZE " ++ toString k) →
      k = (parseAndClampSize (parseCapabilityLabel (toLower (cmd.args.headD "")))).getD
        maxMessageSize
  have hrefuse : ∀ {r₀ : String}, ¬advertises r₀ ("250-SIZE " ++ toString k) →
      Hoare (fun c' => c'.log = c.log) (writeResponse r₀) (fun _ => Ans) (fun _ => Ans) :=
    fun h₀ => Hoare.writeResponse_framed fun _ _ _ _ _ hc r hr ha => by
      rw [hc, List.append_cancel_left_eq, List.singleton_inj, Event.reply.injEq] at hr
      exact absurd (hr ▸ ha) h₀
  refine Hoare.snd (P := fun c' => c'.log = c.log) (R := Ans) ?_ rfl r hl ha
  unfold handleHelo handleEhlo; dsimp only
  repeat' first
    | (with_reducible apply Hoare.bind Guards.getS); intro _
    | (with_reducible apply Hoare.bind (Guards.modifyS fun _ h => h)); intro _
    | with_reducible exact hrefuse (not_advertises_size (by decide) (by decide) k)
    | with_reducible exact hrefuse (not_advertises_size_heloError _ ‹_› k)
    | split
  refine Hoare.bind (R := fun lines c' => c'.log = c.log ∧ ∃ s, lines =
    (addStandardCapabilities s (parseCapabilityLabel (toLower (cmd.args.headD "")))).2)
    (fun c' hc => ⟨hc, c'.s, rfl⟩) fun lines => Hoare.pull fun ⟨s, hs⟩ => ?_
  exact Hoare.writeResponse_framed fun _ _ _ _ _ hc r hr ha => by
    rw [hc, List.append_cancel_left_eq, List.singleton_inj, Event.reply.injEq] at hr
    rw [← hr, hs] at ha
    exact (ehloReply_size ha).1

def Event.ehloReply? : Event → Option String
  | .reply r => if isEhloReply r then some r else none
  | _ => none

def lastEhloReply (log : List Event) : Option String := (log.filterMap Event.ehloReply?).getLast?

theorem lastEhloReply_append_of_none {log : List Event} {e : Event} (h : e.ehloReply? = none) :
    lastEhloReply (log ++ [e]) = lastEhloReply log := by
  simp [lastEhloReply, List.filterMap_append, h]

theorem lastEhloReply_append_ehlo {log : List Event} {r : String} (h : isEhloReply r = true) :
    lastEhloReply (log ++ [.reply r]) = some r := by
  simp [lastEhloReply, List.filterMap_append, Event.ehloReply?, h]

theorem ehloReply?_reply {r : String} (h : isEhloReply r = false) : (Event.reply r).ehloReply? = none := by
  simp [Event.ehloReply?, h]

theorem isEhloReply_of_head {r : String} (h : r.data.head? = some '5') : isEhloReply r = false := by
  obtain ⟨t, ht⟩ : ∃ t, r.data = '5' :: t := by
    cases hr : r.data with
    | nil => simp [hr] at h
    | cons x t => simp only [hr, List.head?_cons, Option.some.injEq] at h; exact ⟨t, h ▸ rfl⟩
  rw [isEhloReply, ht]; rfl

/-- A SIZE the last capability list took from a size part is getMaxMessageSize. -/
def SizeInForce (c : Conf) : Prop :=
  ∀ r k, lastEhloReply c.log = some r → advertises r ("250-SIZE " ++ toString k) →
    k ≠ maxMessageSize → getMaxMessageSize c.s = k

theorem SizeInForce.of_eq {c c' : Conf} (h : SizeInForce c)
    (hl : lastEhloReply c'.log = lastEhloReply c.log)
    (ha : c'.s.advertisedSize = c.s.advertisedSize) : SizeInForce c' := fun r k hr hk hm => by
  have := h r k (hl ▸ hr) hk hm
  unfold getMaxMessageSize at this ⊢
  rwa [ha]

theorem detectPipelining_advertisedSize (c : Conf) :
    (detectPipelining c).2.s.advertisedSize = c.s.advertisedSize := by
  unfold detectPipelining; split <;> rfl

theorem framed_sizeInForce : LoopFramed SizeInForce where
  reply _ _ _ _ _ _ hr h := h.of_eq (lastEhloReply_append_of_none (ehloReply?_reply
    (isEhloReply_of_head hr))) rfl
  flush _ _ _ _ h := h.of_eq rfl rfl
  line _ _ h := h.of_eq (lastEhloReply_append_of_none rfl) rfl
  detect c h := h.of_eq (by rw [detectPipelining_log]) (detectPipelining_advertisedSize c)
  switch _ _ h := h.of_eq rfl rfl

section
variable {E : GoErr → Conf → Prop}

theorem guards_sif_reply {r : String} (hr : isEhloReply r = false) :
    Guards SizeInForce (fun _ => SizeInForce) (writeResponse r) :=
  Guards.writeResponse_framed fun _ _ _ _ _ h => h.of_eq (lastEhloReply_append_of_none
    (ehloReply?_reply hr)) rfl

theorem guards_sif_modifyS {f : Session → Session}
    (hf : ∀ s, (f s).advertisedSize = s.advertisedSize) : Guards SizeInForce E (modifyS f) :=
  Guards.modifyS fun c h => h.of_eq rfl (hf c.s)

theorem guards_sif_logEvent {e : Event} (he : e.ehloReply? = none) :
    Guards SizeInForce E (logEvent e) :=
  Guards.logEvent fun _ h => h.of_eq (lastEhloReply_append_of_none he) rfl

theorem guards_sif_setPc (p : Pc) : Guards SizeInForce E (setPc p) := fun _ h => h

theorem guards_sif_writeChallenge {r : String} (hr : isEhloReply r = false) :
    Guards SizeInForce (fun _ => SizeInForce) (writeChallenge r) :=
  Guards.bind (guards_sif_logEvent (ehloReply?_reply hr)) fun _ c h => by
    rw [connWrite_apply]; split <;> exact h.of_eq rfl rfl

theorem guards_sif_capabilities (parts : List String) :
    Guards SizeInForce (fun _ => SizeInForce) (updateS (fun s => addStandardCapabilities s parts) >>=
      fun lines => writeResponse (joinCrlf (["250-badsmtp.test"] ++ lines ++ ["250 OK"]))) := by
  intro c _
  rw [GoM.bind_apply, updateS_apply]
  refine Hoare.writeResponse_framed (P := (· = { c with s := (addStandardCapabilities c.s parts).1 }))
    (fun c' q _ _ _ hc r k hr ha hk => ?_) _ rfl
  subst hc
  change lastEhloReply (c.log ++ [.reply (ehloReply (addStandardCapabilities c.s parts).2)]) =
    some r at hr
  rw [lastEhloReply_append_ehlo (isEhloReply_ehloReply _), Option.some.injEq] at hr
  subst hr
  exact (ehloReply_size ha).2 hk

theorem vrfyReply_isEhloReply {ambiguous : String} (h : isEhloReply ambiguous = false)
    (addr : String) : isEhloReply (vrfyReply addr ambiguous) = false := by
  unfold vrfyReply; dsimp only; split_ifs <;> first | rfl | exact h

end

section
variable (cfg : Config) (o : Outcome)

theorem guards_sif_handleHelo (cmd : Command) :
    Guards SizeInForce (fun _ => SizeInForce) (handleHelo cmd) := by
  unfold handleHelo handleEhlo; dsimp only
  repeat' first
    | with_reducible exact Guards.getS
    | with_reducible exact guards_sif_capabilities _
    | (with_reducible refine guards_sif_reply ?_); rfl
    | with_reducible exact guards_sif_reply (isEhloReply_formatErrorResult _ _)
    | (with_reducible refine guards_sif_modifyS ?_) <;> intro _ <;> rfl
    | with_reducible refine Guards.bind ?_ fun _ => ?_
    | split

theorem guards_sif_handleBdat (cmd : Command) :
    Guards SizeInForce (fun _ => SizeInForce) (handleBdat cmd) := by
  unfold handleBdat suspend; dsimp only
  repeat' first
    | with_reducible exact Guards.pure _ | with_reducible exact Guards.getS
    | with_reducible exact guards_sif_reply (isEhloReply_formatErrorResult _ _)
    | (with_reducible refine guards_sif_reply ?_); rfl
    | with_reducible exact guards_sif_setPc _
    | with_reducible refine Guards.bind ?_ fun _ => ?_
    | split

theorem guards_sif_dispatch (v : Verb) (cmd : Command) :
    Guards SizeInForce (fun _ => SizeInForce) (dispatch cfg o v cmd) := by
  cases v <;> simp only [dispatch] <;>
  repeat' first
    | with_reducible exact Guards.pure _ | with_reducible exact Guards.getS
    | with_reducible exact guards_sif_handleHelo _ | with_reducible exact guards_sif_handleBdat _
    | with_reducible exact guards_sif_reply (isEhloReply_formatErrorResult _ _)
    | (with_reducible refine guards_sif_reply (vrfyReply_isEhloReply ?_ _)); rfl
    | (with_reducible refine guards_sif_reply ?_); rfl
    | with_reducible exact guards_sif_setPc _
    | with_reducible exact Guards.throwErr fun _ h => h
    | (with_reducible refine Guards.attempt (guards_sif_writeChallenge ?_)); rfl
    | (with_reducible refine guards_sif_modifyS ?_) <;> intro _ <;> rfl
    | with_reducible refine Guards.bind ?_ fun _ => ?_ | split
    | unfold done | unfold suspend | unfold handleMail | unfold handleRcpt | unfold handleVrfy
    | unfold handleRset | unfold handleNoop | unfold handleQuit | unfold handleStartTLS
    | unfold handleData | unfold handleAuth | unfold authStart
    | unfold authFinish | dsimp only

end

section
variable (cfg : Config) (o : Outcome)

theorem guards_sif_resumed :
    (∀ data, Guards SizeInForce (fun _ => SizeInForce) (finishData o data)) ∧
    (∀ chunk last, Guards SizeInForce (fun _ => SizeInForce) (finishBdat o chunk last)) ∧
    (∀ w line priv, Guards SizeInForce (fun _ => SizeInForce) (authResume cfg w line priv)) := by
  refine ⟨fun data => ?_, fun chunk last => ?_, fun w line priv => ?_⟩ <;>
    simp only [finishData, finishBdat, authResume, storeMessage, handleStorageError, done,
      suspend, authFinish] <;>
  repeat' first
    | with_reducible exact Guards.pure _ | with_reducible exact Guards.getS
    | (with_reducible refine guards_sif_reply ?_); rfl
    | with_reducible exact guards_sif_setPc _
    | with_reducible exact Guards.throwErr fun _ h => h
    | (with_reducible refine guards_sif_logEvent ?_); rfl
    | (with_reducible refine Guards.attempt (guards_sif_writeChallenge ?_)); rfl
    | (with_reducible refine guards_sif_modifyS ?_) <;> intro _ <;> rfl
    | with_reducible refine Guards.bind ?_ fun _ => ?_ | split

theorem guards_sif_handleStart : Guards SizeInForce (fun _ => SizeInForce) (handleStart cfg) := by
  unfold handleStart greet; dsimp only
  repeat' first
    | with_reducible exact Guards.pure _ | with_reducible exact Guards.getS
    | (with_reducible refine guards_sif_reply ?_); rfl
    | (with_reducible refine guards_sif_modifyS ?_) <;> intro _ <;> rfl
    | with_reducible refine Guards.bind ?_ fun _ => ?_ | split

theorem hoare_sif_runLine (line : List Char) :
    Hoare SizeInForce (runLine cfg o line) (Kept SizeInForce SizeInForce) (fun _ => SizeInForce) :=
  hoare_kept_runLine cfg o framed_sizeInForce framed_sizeInForce framed_sizeInForce
    (fun _ h => h) (fun _ h => h) (fun _ v cmd _ _ => ((guards_sif_dispatch cfg o v cmd).pre
      fun _ h => h.1).mono (fun f _ h => by cases f <;> exact h) fun _ _ h => h) line

end

theorem sizeInForce_settle {r : Except GoErr Flow × Conf}
    (h : Lands (Kept SizeInForce SizeInForce) (fun _ => SizeInForce) r) :
    SizeInForce (Conf.settle r) := by
  rcases r with ⟨e | fl, c⟩
  · cases e <;> exact SizeInForce.of_eq h rfl rfl
  · cases fl <;> exact SizeInForce.of_eq h rfl rfl

theorem sizeInForce_resume {x : GoM Flow} (hx : Guards SizeInForce (fun _ => SizeInForce) x)
    {c : Conf} (h : SizeInForce c) : SizeInForce (Conf.settle (resume x c)) :=
  sizeInForce_settle ((Guards.bind (Guards.attempt hx)
    (Guards.afterHandler framed_sizeInForce.guards_flush true) c h).mono
    (fun f _ h => by cases f <;> exact h) fun _ _ h => h)

theorem sizeInForce_step (cfg : Config) (o : Outcome) {c c' : Conf} (h : SizeInForce c)
    (hs : step cfg o c = some c') : SizeInForce c' := by
  have hr := guards_sif_resumed cfg o
  unfold step at hs
  split at hs
  · cases hs
    exact sizeInForce_settle ((guards_sif_handleStart cfg c h).mono
      (fun f _ h => by cases f <;> exact h) fun _ _ h => h)
  · split at hs
    · cases hs
    · split at hs <;> cases hs
      · exact h.of_eq rfl rfl
      · exact h.of_eq rfl rfl
      · exact sizeInForce_settle (hoare_sif_runLine cfg o _ _ (h.of_eq rfl rfl))
  · split at hs <;> cases hs
    · exact sizeInForce_resume (Guards.throwErr fun _ h => h) h
    · exact sizeInForce_resume (Guards.bind (guards_sif_logEvent
        (show (Event.body _).ehloReply? = none from rfl)) fun _ =>
        Guards.bind (hr.1 _) fun _ => Guards.pure _) (h.of_eq rfl rfl)
  · split at hs <;> cases hs
    · exact sizeInForce_resume (Guards.throwErr fun _ h => h) h
    · exact h.of_eq (lastEhloReply_append_of_none rfl) rfl
  · split at hs <;> cases hs
    exact sizeInForce_resume (Guards.bind (hr.2.1 _ _) fun _ => Guards.pure _) (h.of_eq rfl rfl)
  · split at hs <;> cases hs
    · exact sizeInForce_resume (hr.2.2 _ _ _) h
    · exact sizeInForce_resume (hr.2.2 _ _ _) (h.of_eq (lastEhloReply_append_of_none rfl) rfl)
  all_goals cases hs

theorem sizeInForce_env {c : Conf} (h : SizeInForce c) (e : Env) : SizeInForce (c.env e) := by
  cases e <;> simp only [Conf.env] <;> (try split_ifs) <;> exact h.of_eq rfl rfl

theorem reach_sizeInForce {cfg : Config} {c : Conf} (h : Reach cfg c) : SizeInForce c := by
  induction h with
  | init t n => exact fun r _ hr => by simp [lastEhloReply, Conf.init] at hr
  | step o _ hs ih => exact sizeInForce_step _ o ih hs
  | env e _ ih => exact sizeInForce_env ih e

theorem getErrorMessage_not_suffix_started (n : Nat) :
    ¬(getErrorMessage n).data <:+ "554 TLS already started".data := by
  unfold getErrorMessage; split <;> decide

theorem formatErrorResult_ne_started (caps : Capabilities) (e : ErrorResult) :
    formatErrorResult caps e ≠ "554 TLS already started" := fun h => by
  refine getErrorMessage_not_suffix_started e.code (h ▸ ?_)
  unfold formatErrorResult
  split_ifs <;> exact ⟨_, (String.data_append _ _).symm⟩

theorem handleHelo_tlsState (cmd : Command) (c : Conf) :
    (handleHelo cmd c).2.s.tlsState = c.s.tlsState := by
  refine Hoare.snd (P := fun c' => c'.s.tlsState = c.s.tlsState)
    (R := fun c' => c'.s.tlsState = c.s.tlsState) ?_ rfl
  unfold handleHelo handleEhlo; dsimp only
  repeat' first
    | with_reducible exact Guards.getS
    | with_reducible exact Guards.writeResponse_framed fun _ _ _ _ _ h => h
    | (with_reducible apply Guards.bind (Guards.modifyS fun _ h => h)); intro _
    | (with_reducible apply Guards.bind (Guards.updateS fun c h => by
        obtain ⟨caps, adv, he, -⟩ := addStandardCapabilities_fst c.s
          (parseCapabilityLabel (toLower (cmd.args.headD "")))
        rw [he]; exact h)); intro _
    | with_reducible refine Guards.bind ?_ fun _ => ?_
    | split

theorem handleStartTLS_not_started (o : Outcome) {c : Conf} (h : c.s.tlsState = false) :
    ∃ r, r ≠ "554 TLS already started" ∧ (handleStartTLS o c).2.log = c.log ++ [.reply r] := by
  let R : Conf → Prop := fun c' => ∃ r, r ≠ "554 TLS already started" ∧ c'.log = c.log ++ [.reply r]
  refine Hoare.snd (P := At c.log c.s) (R := R) ?_ ⟨rfl, rfl⟩
  unfold handleStartTLS; dsimp only
  refine hoare_at_getS_bind ?_
  split
  · exact Hoare.writeResponse_framed fun _ _ _ _ _ hc => ⟨_, formatErrorResult_ne_started _ _,
      congrArg (· ++ _) hc.1⟩
  · rw [h, if_neg Bool.false_ne_true]
    refine Hoare.bind (R := fun _ => R) (Hoare.writeResponse_framed fun _ _ _ _ _ hc =>
      ⟨"220 Ready to start TLS", by decide, congrArg (· ++ _) hc.1⟩) fun _ => ?_
    split
    · exact Hoare.bind (Hoare.throwErr fun _ h => h) fun _ => Guards.modifyS fun _ h => h
    · exact Hoare.bind (Guards.pure _) fun _ => Guards.modifyS fun _ h => h

/-- EHLO lists the SIZE of its first size part or the default, and enforces the former. -/
theorem ehlo_size_in_force :
    (∀ (cmd : Command) (c : Conf) (r : String) (k : Int),
      (handleHelo cmd c).2.log = c.log ++ [.reply r] → advertises r ("250-SIZE " ++ toString k) →
        k = (parseAndClampSize (parseCapabilityLabel (toLower (cmd.args.headD "")))).getD
          maxMessageSize) ∧
    (∀ (cfg : Config) (c : Conf) (r : String) (k : Int), Reach cfg c →
      lastEhloReply c.log = some r → advertises r ("250-SIZE " ++ toString k) →
        k ≠ maxMessageSize → getMaxMessageSize c.s = k) ∧
    (∀ (o : Outcome) (cmd : Command) (c : Conf), c.s.tlsState = false →
      ∃ r, r ≠ "554 TLS already started" ∧
        (handleStartTLS o (handleHelo cmd c).2).2.log = (handleHelo cmd c).2.log ++ [.reply r]) :=
  ⟨fun cmd c _ _ hl ha => handleHelo_size cmd c hl ha, fun _ _ r k h => reach_sizeInForce h r k,
    fun o cmd c h => handleStartTLS_not_started o ((handleHelo_tlsState cmd c).trans h)⟩

set_option maxRecDepth 100000 in
theorem ehlo_size5000_in_force :
    ((handleHelo ⟨"EHLO", ["size5000.x"]⟩ (session [])).2.log = (session []).log ++
        [.reply (ehloReply (addStandardCapabilities (session []).s
          (parseCapabilityLabel "size5000.x")).2)] ∧
      advertises (ehloReply (addStandardCapabilities (session []).s
        (parseCapabilityLabel "size5000.x")).2) ("250-SIZE " ++ toString (5000 : Int)) ∧
      (5000 : Int) = (parseAndClampSize (parseCapabilityLabel (toLower "size5000.x"))).getD
        maxMessageSize) ∧
    (lastEhloReply (session ["EHLO size5000.x"]).log =
        some ((lastEhloReply (session ["EHLO size5000.x"]).log).getD "") ∧
      advertises ((lastEhloReply (session ["EHLO size5000.x"]).log).getD "")
        ("250-SIZE " ++ toString (5000 : Int)) ∧ (5000 : Int) ≠ maxMessageSize ∧
      getMaxMessageSize (session ["EHLO size5000.x"]).s = 5000) ∧
    ((session []).s.tlsState = false ∧
      ∃ r, r ≠ "554 TLS already started" ∧
        (handleStartTLS ⟨none, true, 0, 0⟩ (handleHelo ⟨"EHLO", ["c"]⟩ (session [])).2).2.log =
          (handleHelo ⟨"EHLO", ["c"]⟩ (session [])).2.log ++ [.reply r]) := by
  have h1 : (handleHelo ⟨"EHLO", ["size5000.x"]⟩ (session [])).2.log = (session []).log ++
      [.reply (ehloReply (addStandardCapabilities (session []).s
        (parseCapabilityLabel "size5000.x")).2)] := by decide
  have h2 : advertises (ehloReply (addStandardCapabilities (session []).s
      (parseCapabilityLabel "size5000.x")).2) ("250-SIZE " ++ toString (5000 : Int)) := by decide
  have h3 : lastEhloReply (session ["EHLO size5000.x"]).log =
      some ((lastEhloReply (session ["EHLO size5000.x"]).log).getD "") := by decide
  have h4 : advertises ((lastEhloReply (session ["EHLO size5000.x"]).log).getD "")
      ("250-SIZE " ++ toString (5000 : Int)) := by decide
  have h5 : (session []).s.tlsState = false := by decide
  have h6 : (5000 : Int) ≠ maxMessageSize := by decide
  exact ⟨⟨h1, h2, ehlo_size_in_force.1 _ _ _ _ h1 h2⟩,
    ⟨h3, h4, h6, ehlo_size_in_force.2.1 _ _ _ _ (reach_session _) h3 h4 h6⟩,
    ⟨h5, ehlo_size_in_force.2.2 _ _ _ h5⟩⟩

def tlsSession (lines : List String) : Conf :=
  lockstep plainPort ⟨none, true, 0, 0⟩ lines (run plainPort ⟨none, true, 0, 0⟩ 2 (Conf.init true ""))

set_option maxRecDepth 100000 in
theorem ehlo_size_counterexamples :
    advertises ((lastEhloReply (session ["EHLO size0.x"]).log).getD "") "250-SIZE 10485760" ∧
      ¬advertises ((lastEhloReply (session ["EHLO size0.x"]).log).getD "") "250-SIZE 1000" ∧
      advertises ((lastEhloReply (tlsSession ["EHLO c"]).log).getD "") "250-STARTTLS" ∧
      (tlsSession ["EHLO c", "STARTTLS"]).log.getLast? = some (.reply "554 TLS already started") ∧
      advertises ((lastEhloReply (session ["EHLO size5000.x", "STARTTLS", "EHLO c"]).log).getD "")
        "250-SIZE 10485760" ∧
      getMaxMessageSize (session ["EHLO size5000.x", "STARTTLS", "EHLO c"]).s = 5000 := by
  decide

end BadSmtp.Server
