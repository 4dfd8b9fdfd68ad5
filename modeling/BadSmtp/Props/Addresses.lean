import BadSmtp.Props.Effects

/-! The address of MAIL FROM against IsValidMailbox: handleMail validates the Address net/mail
extracts, without the quotes of a quoted local part, so an address accepted as written can be
refused once extracted. net/mail stays the `Lib` parameter. -/
namespace BadSmtp.Server
open BadSmtp.Go BadSmtp.Smtp

section
variable {lib : Lib}

theorem parseAddress_of_parsed (raw : String) {a : String} (hne : trimSpace raw.data ≠ [])
    (h : lib.parseAddress ⟨trimSpace raw.data⟩ = some a) : parseAddress lib raw = a := by
  simp [parseAddress, hne, h]

theorem isValidMailbox_of_parsed {m a : String}
    (h : lib.parseAddress ⟨trimSpace m.data⟩ = some a) (u : Bool) :
    isValidMailbox lib m u = checkParsedAddress a u := by
  simp [isValidMailbox, h]

theorem isValidMailbox_of_unparsed {m : String} {at_ : Nat} (u : Bool)
    (h1 : lib.parseAddress ⟨trimSpace m.data⟩ = none)
    (h2 : lib.parseAddress ⟨'<' :: trimSpace m.data ++ ['>']⟩ = none)
    (ha : lastIndex (trimSpace m.data) '@' = some at_) :
    isValidMailbox lib m u =
      (((trimSpace m.data).take at_ ≠ [] && (trimSpace m.data).drop (at_ + 1) ≠ [] &&
        ((trimSpace m.data).take at_).length ≤ 64 &&
        ((trimSpace m.data).drop (at_ + 1)).length ≤ 255 &&
        validateDomain lib ⟨(trimSpace m.data).drop (at_ + 1)⟩) &&
        validateFallbackLocal lib ((trimSpace m.data).take at_) u) := by
  simp only [isValidMailbox, h1, h2, ha, Bool.and_assoc]

theorem validateFallbackLocal_unquoted {loc : List Char} (h : loc.head? ≠ some '"') :
    validateFallbackLocal lib loc false = asciiLocal loc := by
  simp [validateFallbackLocal, h]

theorem validateFallbackLocal_quoted {loc : List Char} (hh : loc.head? = some '"')
    (hl : loc.getLast? = some '"') (hn : 2 ≤ loc.length) (u : Bool) :
    validateFallbackLocal lib loc u = true := by
  simp [validateFallbackLocal, hh, hl, hn]

theorem validLabel_of_lower (hl : ∀ r, 97 ≤ r → r ≤ 122 → lib.isLetter r = true)
    {label : List Nat} (hne : label ≠ []) (hlen : label.length ≤ 63)
    (h : ∀ r ∈ label, 97 ≤ r ∧ r ≤ 122) : lib.validLabel label = true := by
  have hlnm : ∀ r ∈ label, lib.isLNM r = true := fun r hr =>
    by simp [Lib.isLNM, hl r (h r hr).1 (h r hr).2]
  obtain ⟨a, t, rfl⟩ := List.exists_cons_of_ne_nil hne
  have hz := List.getLast_mem (List.cons_ne_nil a t)
  simp only [Lib.validLabel, List.head?_cons, List.getLast?_eq_getLast _ (List.cons_ne_nil a t),
    hlnm _ hz, hlnm a (List.mem_cons_self a t), hlen, List.all_eq_true, Bool.true_and,
    decide_True, Bool.or_eq_true]
  exact fun r hr => .inl (hlnm r hr)

theorem validateDomain_of_lower (hl : ∀ r, 97 ≤ r → r ≤ 122 → lib.isLetter r = true)
    {domain : String} (h : domain.data ≠ [] ∧ domain.data.length ≤ 255 ∧
      ∀ l ∈ (runes domain.data).splitOn '.'.toNat,
        l ≠ [] ∧ l.length ≤ 63 ∧ ∀ r ∈ l, 97 ≤ r ∧ r ≤ 122) :
    validateDomain lib domain = true := by
  simp only [validateDomain, h.1, h.2.1, List.all_eq_true, ne_eq, not_false_eq_true, decide_True,
    Bool.true_and]
  exact fun l hm => validLabel_of_lower hl (h.2.2 l hm).1 (h.2.2 l hm).2.1 (h.2.2 l hm).2.2

end

theorem extractMailboxFromArg_of_parsed {lib : Lib} {arg a : String}
    (hf : "FROM:".data.isPrefixOf (toUpper arg).data = true)
    (ht : trimSpace (trimSpace (arg.data.drop 5)) ≠ [])
    (hp : lib.parseAddress ⟨trimSpace (trimSpace (arg.data.drop 5))⟩ = some a) (ha : a ≠ "") :
    extractMailboxFromArg lib arg = a := by
  simp only [extractMailboxFromArg, hf, if_true]
  rw [parseAddress_of_parsed ⟨trimSpace (arg.data.drop 5)⟩ ht hp, if_pos ha]

section
variable (cfg : Config) (cmd : Command) {c : Conf}

theorem handleMail_of_invalid (hst : c.s.state = .mail)
    (hne : extractMailboxFromArg cfg.lib (cmd.args.headD "") ≠ "")
    (hv : isValidMailbox cfg.lib (extractMailboxFromArg cfg.lib (cmd.args.headD ""))
      c.s.capabilities.smtputf8 = false) :
    (handleMail cfg cmd c).2 = (writeResponse "501 Syntax error in parameters" c).2 := by
  rw [handleMail, GoM.bind_apply, getS_apply]
  dsimp only
  rw [if_neg (by rw [hst]; exact fun h => h rfl), if_neg hne, hv]
  rfl

theorem handleMail_of_valid (hst : c.s.state = .mail)
    (hne : extractMailboxFromArg cfg.lib (cmd.args.headD "") ≠ "")
    (hv : isValidMailbox cfg.lib (extractMailboxFromArg cfg.lib (cmd.args.headD ""))
      c.s.capabilities.smtputf8 = true)
    (he : extractMailFromError (argMailbox cfg cmd) = none) :
    (handleMail cfg cmd c).2.log = c.log ++ [.reply "250 OK"] ∧
      (handleMail cfg cmd c).2.s.mailFrom = argMailbox cfg cmd := by
  rw [handleMail, GoM.bind_apply, getS_apply]
  dsimp only
  rw [if_neg (by rw [hst]; exact fun h => h rfl), if_neg hne, hv, Bool.not_true,
    if_neg Bool.false_ne_true, he]
  dsimp only
  rw [GoM.bind_apply, modifyS_apply]
  dsimp only
  obtain ⟨q, o, w, n, hw⟩ := writeResponse_frame "250 OK" { c with s := _ }
  rw [hw]
  exact ⟨rfl, by dsimp only⟩

end

/-- net/mail's ParseAddress on the quoted addresses below and on dot-atom addresses. -/
def quotedLib : Lib :=
  { asciiLib with
    parseAddress := fun s =>
      if s = "\"me@home\"@example.com" ∨ s = "<\"me@home\"@example.com>" then
        some "me@home@example.com"
      else if s = "<\"\\\"\xC3\xA9\\\".\\\"x\\\"\"@x.com>" then some "\"\xC3\xA9\".\"x\"@x.com"
      else dotAtomAddress s }

def quotedPort : Config := { plainPort with lib := quotedLib }

theorem quotedPort_isLetter (r : Nat) (h1 : 97 ≤ r) (h2 : r ≤ 122) :
    quotedPort.lib.isLetter r = true := by
  simp [quotedPort, quotedLib, asciiLib, h1, h2]

set_option maxRecDepth 10000 in
/-- A quoted local part with an '@' passes IsValidMailbox, then is refused. -/
theorem quoted_local_part_refused_once_extracted (cfg : Config)
    (h1 : cfg.lib.parseAddress "\"me@home\"@example.com" = some "me@home@example.com")
    (h2 : cfg.lib.parseAddress "<\"me@home\"@example.com>" = some "me@home@example.com")
    (h3 : cfg.lib.parseAddress "me@home@example.com" = none)
    (h4 : cfg.lib.parseAddress "<me@home@example.com>" = none) :
    isValidMailbox cfg.lib "\"me@home\"@example.com" false = true ∧
      extractMailboxFromArg cfg.lib "FROM:<\"me@home\"@example.com>" = "me@home@example.com" ∧
      isValidMailbox cfg.lib "me@home@example.com" false = false ∧
      ∀ c : Conf, c.s.state = .mail → c.s.capabilities.smtputf8 = false →
        (handleMail cfg ⟨"MAIL", ["FROM:<\"me@home\"@example.com>"]⟩ c).2 =
          (writeResponse "501 Syntax error in parameters" c).2 := by
  have hv : isValidMailbox cfg.lib "\"me@home\"@example.com" false = true := by
    rw [isValidMailbox_of_parsed h1]
    decide
  have hx : extractMailboxFromArg cfg.lib "FROM:<\"me@home\"@example.com>" =
      "me@home@example.com" :=
    extractMailboxFromArg_of_parsed (by decide) (by decide) h2 (by decide)
  have hr : isValidMailbox cfg.lib "me@home@example.com" false = false := by
    have ha : lastIndex (trimSpace "me@home@example.com".data) '@' = some 7 := by decide
    have hl : asciiLocal ((trimSpace "me@home@example.com".data).take 7) = false := by decide
    rw [isValidMailbox_of_unparsed false h3 h4 ha, validateFallbackLocal_unquoted (by decide), hl,
      Bool.and_false]
  exact ⟨hv, hx, hr, fun c hst hu => handleMail_of_invalid cfg _ hst
    (by simp only [List.headD_cons, hx]; decide) (by simp only [List.headD_cons, hx, hu, hr])⟩

theorem quoted_local_part_refused_at_quotedPort :
    (session ["EHLO nosmtputf8.x"]).s.state = .mail ∧
      (session ["EHLO nosmtputf8.x"]).s.capabilities.smtputf8 = false ∧
      (isValidMailbox quotedPort.lib "\"me@home\"@example.com" false = true ∧
        extractMailboxFromArg quotedPort.lib "FROM:<\"me@home\"@example.com>" =
          "me@home@example.com" ∧
        isValidMailbox quotedPort.lib "me@home@example.com" false = false ∧
        ∀ c : Conf, c.s.state = .mail → c.s.capabilities.smtputf8 = false →
          (handleMail quotedPort ⟨"MAIL", ["FROM:<\"me@home\"@example.com>"]⟩ c).2 =
            (writeResponse "501 Syntax error in parameters" c).2) :=
  ⟨by decide, by decide,
    quoted_local_part_refused_once_extracted quotedPort (by decide) (by decide) (by decide)
      (by decide)⟩

set_option maxRecDepth 10000 in
/-- A quoted non-ASCII local part is recorded without SMTPUTF8. -/
theorem quoted_utf8_local_part_recorded (cfg : Config)
    (h1 : cfg.lib.parseAddress "<\"\\\"\xC3\xA9\\\".\\\"x\\\"\"@x.com>" =
      some "\"\xC3\xA9\".\"x\"@x.com")
    (h2 : cfg.lib.parseAddress "\"\xC3\xA9\".\"x\"@x.com" = none)
    (h3 : cfg.lib.parseAddress "<\"\xC3\xA9\".\"x\"@x.com>" = none)
    (hl : ∀ r, 97 ≤ r → r ≤ 122 → cfg.lib.isLetter r = true) :
    ∀ c : Conf, c.s.state = .mail → c.s.capabilities.smtputf8 = false →
      (handleMail cfg ⟨"MAIL", ["FROM:<\"\\\"\xC3\xA9\\\".\\\"x\\\"\"@x.com>"]⟩ c).2.log =
          c.log ++ [.reply "250 OK"] ∧
        (handleMail cfg ⟨"MAIL", ["FROM:<\"\\\"\xC3\xA9\\\".\\\"x\\\"\"@x.com>"]⟩
          c).2.s.mailFrom = "\"\xC3\xA9\".\"x\"@x.com" ∧
        lastIndex "\"\xC3\xA9\".\"x\"@x.com".data '@' = some 8 ∧
        ¬ ("\"\xC3\xA9\".\"x\"@x.com".data.take 8).all (·.toNat ≤ 127) := by
  intro c hst hu
  have hx : extractMailboxFromArg cfg.lib "FROM:<\"\\\"\xC3\xA9\\\".\\\"x\\\"\"@x.com>" =
      "\"\xC3\xA9\".\"x\"@x.com" :=
    extractMailboxFromArg_of_parsed (by decide) (by decide) h1 (by decide)
  have ha : lastIndex (trimSpace "\"\xC3\xA9\".\"x\"@x.com".data) '@' = some 8 := by decide
  have hv : isValidMailbox cfg.lib "\"\xC3\xA9\".\"x\"@x.com" false = true := by
    rw [isValidMailbox_of_unparsed false h2 h3 ha, validateDomain_of_lower hl (by decide),
      validateFallbackLocal_quoted (by decide) (by decide) (by decide)]
    decide
  have hn : normaliseMailbox "\"\xC3\xA9\".\"x\"@x.com" = "\"\xC3\xA9\".\"x\"@x.com" := by decide
  have hm := handleMail_of_valid cfg
    ⟨"MAIL", ["FROM:<\"\\\"\xC3\xA9\\\".\\\"x\\\"\"@x.com>"]⟩ hst
    (by simp only [List.headD_cons, hx]; decide) (by simp only [List.headD_cons, hx, hu, hv])
    (by simp only [argMailbox, List.headD_cons, hx, hn]; decide)
  refine ⟨hm.1, ?_, by decide, by decide⟩
  simp only [hm.2, argMailbox, List.headD_cons, hx, hn]

theorem quoted_utf8_local_part_recorded_at_quotedPort :
    (session ["EHLO nosmtputf8.x"]).s.state = .mail ∧
      (session ["EHLO nosmtputf8.x"]).s.capabilities.smtputf8 = false ∧
      ((handleMail quotedPort ⟨"MAIL", ["FROM:<\"\\\"\xC3\xA9\\\".\\\"x\\\"\"@x.com>"]⟩
          (session ["EHLO nosmtputf8.x"])).2.log =
          (session ["EHLO nosmtputf8.x"]).log ++ [.reply "250 OK"] ∧
        (handleMail quotedPort ⟨"MAIL", ["FROM:<\"\\\"\xC3\xA9\\\".\\\"x\\\"\"@x.com>"]⟩
          (session ["EHLO nosmtputf8.x"])).2.s.mailFrom = "\"\xC3\xA9\".\"x\"@x.com" ∧
        lastIndex "\"\xC3\xA9\".\"x\"@x.com".data '@' = some 8 ∧
        ¬ ("\"\xC3\xA9\".\"x\"@x.com".data.take 8).all (·.toNat ≤ 127)) :=
  have hs : (session ["EHLO nosmtputf8.x"]).s.state = .mail := by decide
  have hu : (session ["EHLO nosmtputf8.x"]).s.capabilities.smtputf8 = false := by decide
  ⟨hs, hu, quoted_utf8_local_part_recorded quotedPort (by decide) (by decide) (by decide)
    quotedPort_isLetter _ hs hu⟩

end BadSmtp.Server
