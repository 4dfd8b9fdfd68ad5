import Mathlib.Data.List.Nodup

/-! The ports of config.go and server.go: PortValidator, ValidatePortConfiguration, the ports
Start listens on, and AnalysePortBehaviour. Go's int arithmetic is unbounded `Int` here, which
agrees with int64 for ports in 0..65535. -/
namespace BadSmtp.Server

def delayOptions : List Int := [0, 1, 2, 8, 10, 30, 60, 120, 300, 600]

def delayCount : Int := 10

structure PortRange where
  name : String
  start : Int
  end_ : Int
  deriving DecidableEq, Repr

def newPortRange (name : String) (start rangeSize : Int) : PortRange :=
  ⟨name, start, start + rangeSize⟩

def PortRange.contains (pr : PortRange) (port : Int) : Bool := port ≥ pr.start && port ≤ pr.end_

def PortRange.overlapsWith (pr other : PortRange) : Bool :=
  pr.start ≤ other.end_ && other.start ≤ pr.end_

def PortRange.conflictError (pr other : PortRange) : String :=
  "port ranges overlap: " ++ pr.name ++ " (" ++ toString pr.start ++ "-" ++ toString pr.end_ ++
    ") and " ++ other.name ++ " (" ++ toString other.start ++ "-" ++ toString other.end_ ++ ")"

def PortRange.portConflictError (pr : PortRange) (port : Int) (portName : String) : String :=
  portName ++ " port " ++ toString port ++ " conflicts with " ++ pr.name ++ " range (" ++
    toString pr.start ++ "-" ++ toString pr.end_ ++ ")"

/-- PortValidator: its ranges, and its individual ports in the order they were added. -/
structure PortValidator where
  ranges : List PortRange
  ports : List (String × Int)

def validateRangeOverlaps : List PortRange → Option String
  | [] => none
  | r :: rs =>
    match rs.find? r.overlapsWith with
    | some o => some (r.conflictError o)
    | none => validateRangeOverlaps rs

def validatePortRangeConflicts (ranges : List PortRange) : List (String × Int) → Option String
  | [] => none
  | (name, port) :: ps =>
    match ranges.find? (·.contains port) with
    | some pr => some (pr.portConflictError port name)
    | none => validatePortRangeConflicts ranges ps

def validatePortConflicts : List (String × Int) → Option String
  | [] => none
  | (name, port) :: ps =>
    match ps.find? (·.2 = port) with
    | some (name', port') =>
      some (name ++ " port " ++ toString port ++ " conflicts with " ++ name' ++ " port " ++
        toString port')
    | none => validatePortConflicts ps

def PortValidator.validateAll (pv : PortValidator) : Option String :=
  validateRangeOverlaps pv.ranges <|> validatePortRangeConflicts pv.ranges pv.ports <|>
    validatePortConflicts pv.ports

/-- The fields of Config that port validation, Start and AnalysePortBehaviour read. -/
structure ServerConfig where
  port : Int
  greetingDelay : Int
  dropDelay : Int
  dropImmediate : Bool
  greetingDelayPortStart : Int
  dropDelayPortStart : Int
  tlsCertFile : String
  tlsKeyFile : String
  tlsPort : Int
  startTLSPort : Int
  deriving DecidableEq, Repr

def ServerConfig.hasTLS (c : ServerConfig) : Bool := (c.tlsCertFile ≠ "" && c.tlsKeyFile ≠ "") || true

def inWindow (start port : Int) : Prop := start ≤ port ∧ port < start + delayCount

instance (start port : Int) : Decidable (inWindow start port) := inferInstanceAs (Decidable (_ ∧ _))

def ServerConfig.analysePortBehaviour (c : ServerConfig) : ServerConfig :=
  let port := c.port
  let c :=
    if inWindow c.greetingDelayPortStart port then
      { c with greetingDelay := delayOptions.getD (port - c.greetingDelayPortStart).toNat 0 }
    else c
  if inWindow c.dropDelayPortStart port then
    let offset := port - c.dropDelayPortStart
    { c with dropDelay := delayOptions.getD offset.toNat 0,
             dropImmediate := if offset = 0 then true else c.dropImmediate }
  else c

/-- ValidatePortConfiguration. -/
def ServerConfig.validatePortConfiguration (c : ServerConfig) : Option String :=
  let rangeSize := delayCount - 1
  let validator : PortValidator :=
    { ranges := [newPortRange "greeting delay" c.greetingDelayPortStart rangeSize,
                 newPortRange "drop delay" c.dropDelayPortStart rangeSize],
      ports := ("normal", c.port) ::
        if c.hasTLS then [("TLS", c.tlsPort), ("STARTTLS", c.startTLSPort)] else [] }
  match validator.validateAll with
  | some err => some err
  | none =>
    if c.port ≥ c.greetingDelayPortStart ∧ c.port < c.greetingDelayPortStart + 100 ∧
        c.port - c.greetingDelayPortStart ≥ delayCount then
      some ("configured port " ++ toString c.port ++
        " is within greeting delay base but outside supported offsets 0.." ++
        toString (delayCount - 1))
    else if c.port ≥ c.dropDelayPortStart ∧ c.port < c.dropDelayPortStart + 100 ∧
        c.port - c.dropDelayPortStart ≥ delayCount then
      some ("configured port " ++ toString c.port ++
        " is within drop delay base but outside supported offsets 0.." ++
        toString (delayCount - 1))
    else none

def portRangeSize : Int := delayCount

def startPortRangeListeners (startPort count : Int) : List Int :=
  (List.range count.toNat).map fun (i : Nat) => startPort + i

/-- The ports Start listens on, in its order. -/
def ServerConfig.listenPorts (c : ServerConfig) : List Int :=
  c.port :: startPortRangeListeners c.greetingDelayPortStart portRangeSize ++
    startPortRangeListeners c.dropDelayPortStart portRangeSize ++ [c.tlsPort, c.startTLSPort]

theorem validateRangeOverlaps_eq_none {rs : List PortRange} :
    validateRangeOverlaps rs = none ↔ rs.Pairwise fun a b => a.overlapsWith b = false := by
  induction rs with
  | nil => simp [validateRangeOverlaps]
  | cons r rs ih =>
    rw [List.pairwise_cons, ← ih, validateRangeOverlaps]
    cases h : rs.find? r.overlapsWith with
    | some o =>
      simp only [reduceCtorEq, false_iff, not_and]
      exact fun hall => absurd (hall o (List.mem_of_find?_eq_some h)) (by simp [List.find?_some h])
    | none => exact ⟨fun hv => ⟨by simpa using List.find?_eq_none.1 h, hv⟩, And.right⟩

theorem validatePortRangeConflicts_eq_none {rs : List PortRange} {ps : List (String × Int)} :
    validatePortRangeConflicts rs ps = none ↔ ∀ p ∈ ps, ∀ r ∈ rs, r.contains p.2 = false := by
  induction ps with
  | nil => simp [validatePortRangeConflicts]
  | cons p ps ih =>
    obtain ⟨name, port⟩ := p
    rw [List.forall_mem_cons, ← ih, validatePortRangeConflicts]
    cases h : rs.find? (·.contains port) with
    | some r =>
      simp only [reduceCtorEq, false_iff, not_and]
      exact fun hall => absurd (hall r (List.mem_of_find?_eq_some h)) (by simp [List.find?_some h])
    | none => exact ⟨fun hv => ⟨by simpa using List.find?_eq_none.1 h, hv⟩, And.right⟩

theorem validatePortConflicts_eq_none {ps : List (String × Int)} :
    validatePortConflicts ps = none ↔ (ps.map (·.2)).Nodup := by
  induction ps with
  | nil => simp [validatePortConflicts]
  | cons p ps ih =>
    obtain ⟨name, port⟩ := p
    rw [List.map_cons, List.nodup_cons, ← ih, validatePortConflicts]
    cases h : ps.find? (·.2 = port) with
    | some q =>
      have hq : q.2 = port := by simpa using List.find?_some h
      simp only [reduceCtorEq, false_iff, not_and]
      exact fun hn => absurd (List.mem_map.2 ⟨q, List.mem_of_find?_eq_some h, hq⟩) hn
    | none =>
      have hn : port ∉ ps.map (·.2) := fun hm => by
        obtain ⟨q, hq, hq2⟩ := List.mem_map.1 hm
        exact List.find?_eq_none.1 h q hq (by simpa using hq2)
      exact ⟨fun hv => ⟨hn, hv⟩, And.right⟩

def ServerConfig.PortsApart (c : ServerConfig) : Prop :=
  ¬(c.greetingDelayPortStart ≤ c.dropDelayPortStart + 9 ∧
      c.dropDelayPortStart ≤ c.greetingDelayPortStart + 9) ∧
    (∀ p ∈ [c.port, c.tlsPort, c.startTLSPort], ¬inWindow c.greetingDelayPortStart p ∧
      ¬inWindow c.dropDelayPortStart p) ∧
    [c.port, c.tlsPort, c.startTLSPort].Nodup

theorem validateAll_eq_none_iff (c : ServerConfig) :
    (PortValidator.validateAll
      { ranges := [newPortRange "greeting delay" c.greetingDelayPortStart (delayCount - 1),
                   newPortRange "drop delay" c.dropDelayPortStart (delayCount - 1)],
        ports := [("normal", c.port), ("TLS", c.tlsPort), ("STARTTLS", c.startTLSPort)] }) = none ↔
      c.PortsApart := by
  simp only [PortValidator.validateAll, Option.orElse_eq_none, validateRangeOverlaps_eq_none,
    validatePortRangeConflicts_eq_none, validatePortConflicts_eq_none]
  simp [ServerConfig.PortsApart, newPortRange, PortRange.overlapsWith, PortRange.contains,
    inWindow, delayCount]
  omega

theorem validatePortConfiguration_sound {c : ServerConfig} (h : c.validatePortConfiguration = none) :
    ¬(c.greetingDelayPortStart ≤ c.dropDelayPortStart + 9 ∧
        c.dropDelayPortStart ≤ c.greetingDelayPortStart + 9) ∧
      (∀ p ∈ [c.port, c.tlsPort, c.startTLSPort], ¬inWindow c.greetingDelayPortStart p ∧
        ¬inWindow c.dropDelayPortStart p) ∧
      c.port ≠ c.tlsPort ∧ c.port ≠ c.startTLSPort ∧ c.tlsPort ≠ c.startTLSPort := by
  simp only [ServerConfig.validatePortConfiguration, ServerConfig.hasTLS, Bool.or_true,
    if_true] at h
  split at h
  · cases h
  obtain ⟨ho, hp, hn⟩ := (validateAll_eq_none_iff c).1 ‹_›
  simp only [List.nodup_cons, List.mem_cons, List.mem_singleton, List.not_mem_nil, or_false,
    not_or] at hn
  exact ⟨ho, hp, hn.1.1, hn.1.2, hn.2.1⟩

theorem mem_startPortRangeListeners {start count p : Int} :
    p ∈ startPortRangeListeners start count ↔ start ≤ p ∧ p < start + count := by
  simp only [startPortRangeListeners, List.mem_map, List.mem_range]
  constructor
  · rintro ⟨i, hi, rfl⟩; omega
  · intro h; exact ⟨(p - start).toNat, by omega, by omega⟩

theorem startPortRangeListeners_nodup (start count : Int) :
    (startPortRangeListeners start count).Nodup :=
  (List.nodup_range _).map fun _ _ h => by omega

/-- A validated configuration gives every listener its own port. -/
theorem validated_listen_ports_distinct (c : ServerConfig) (h : c.validatePortConfiguration = none) :
    c.listenPorts.Nodup ∧ ∀ p ∈ c.listenPorts,
      let c' := { c with port := p }.analysePortBehaviour
      (¬inWindow c.greetingDelayPortStart p → c'.greetingDelay = c.greetingDelay) ∧
      (¬inWindow c.dropDelayPortStart p →
        c'.dropDelay = c.dropDelay ∧ c'.dropImmediate = c.dropImmediate) ∧
      ¬(inWindow c.greetingDelayPortStart p ∧ inWindow c.dropDelayPortStart p) := by
  obtain ⟨ho, hp, hne⟩ := validatePortConfiguration_sound h
  refine ⟨?_, fun p _ => ⟨fun hg => ?_, fun hd => ?_, ?_⟩⟩
  · simp only [List.mem_cons, List.mem_singleton, List.not_mem_nil, or_false, forall_eq_or_imp,
      forall_eq, inWindow, delayCount] at hp
    simp only [ServerConfig.listenPorts, List.cons_append, List.nodup_cons, List.nodup_append,
      List.mem_append, List.mem_cons, List.mem_singleton, List.not_mem_nil, or_false,
      mem_startPortRangeListeners, startPortRangeListeners_nodup, List.disjoint_cons_right,
      List.disjoint_singleton, List.Disjoint, portRangeSize, delayCount, true_and]
    exact ⟨by omega, fun a h1 h2 => by omega, ⟨hne.2.2, by simp, List.nodup_nil⟩,
      fun a h1 h2 => by omega⟩
  · simp only [ServerConfig.analysePortBehaviour, if_neg hg]
    split <;> rfl
  · simp only [ServerConfig.analysePortBehaviour, if_neg hd]
    split <;> exact ⟨rfl, rfl⟩
  · simp only [inWindow, delayCount] at ho ⊢
    omega

def defaultServerConfig : ServerConfig :=
  ⟨2525, 0, 0, false, 25200, 25600, "", "", 25465, 25587⟩

theorem default_listen_ports_distinct :
    defaultServerConfig.validatePortConfiguration = none ∧
      defaultServerConfig.listenPorts.Nodup :=
  have h : defaultServerConfig.validatePortConfiguration = none := by decide
  ⟨h, (validated_listen_ports_distinct _ h).1⟩

theorem listenPorts_nodup_iff (c : ServerConfig) : c.listenPorts.Nodup ↔ c.PortsApart := by
  simp only [ServerConfig.PortsApart, ServerConfig.listenPorts, List.cons_append, List.nodup_cons,
    List.nodup_append, List.mem_append, List.mem_cons, List.mem_singleton, List.not_mem_nil,
    or_false, mem_startPortRangeListeners, startPortRangeListeners_nodup, List.Disjoint,
    portRangeSize, delayCount, true_and, inWindow, forall_eq_or_imp, forall_eq, List.nodup_nil,
    and_true, not_false_eq_true]
  constructor
  · rintro ⟨h1, h2, h3, h5⟩
    have ht : ¬(_ ∨ _) := fun h => h5 (a := c.tlsPort) h (.inl rfl)
    have hs : ¬(_ ∨ _) := fun h => h5 (a := c.startTLSPort) h (.inr rfl)
    exact ⟨fun ⟨hg, hd⟩ => h2 (a := max c.greetingDelayPortStart c.dropDelayPortStart)
      ⟨by omega, by omega⟩ ⟨by omega, by omega⟩, by omega⟩
  · rintro ⟨hw, ⟨hp, ht, hs⟩, hn⟩
    exact ⟨by omega, fun a h1 h2 => by omega, by omega, fun a h1 h2 => by omega⟩

/-- For ports in 0..65535 the validator refuses no more than it must. -/
theorem validatePortConfiguration_eq_none_iff (c : ServerConfig)
    (_hb : ∀ p ∈ [c.port, c.tlsPort, c.startTLSPort, c.greetingDelayPortStart, c.dropDelayPortStart],
      0 ≤ p ∧ p ≤ 65535) :
    c.validatePortConfiguration = none ↔
      c.listenPorts.Nodup ∧
        ¬(c.greetingDelayPortStart + delayCount ≤ c.port ∧ c.port < c.greetingDelayPortStart + 100) ∧
        ¬(c.dropDelayPortStart + delayCount ≤ c.port ∧ c.port < c.dropDelayPortStart + 100) := by
  simp only [ServerConfig.validatePortConfiguration, ServerConfig.hasTLS, Bool.or_true, if_true]
  rw [listenPorts_nodup_iff, ← validateAll_eq_none_iff]
  split
  · next h => simp [h]
  · next h =>
    have hd : delayCount = 10 := rfl
    simp only [h, true_and]
    split_ifs <;> simp only [reduceCtorEq, false_iff, true_iff, not_and_or, not_le, not_lt] <;> omega

theorem default_ports_validated_iff :
    (∀ p ∈ [defaultServerConfig.port, defaultServerConfig.tlsPort, defaultServerConfig.startTLSPort,
        defaultServerConfig.greetingDelayPortStart, defaultServerConfig.dropDelayPortStart],
      0 ≤ p ∧ p ≤ 65535) ∧
    (defaultServerConfig.validatePortConfiguration = none ↔
      defaultServerConfig.listenPorts.Nodup ∧
        ¬(defaultServerConfig.greetingDelayPortStart + delayCount ≤ defaultServerConfig.port ∧
          defaultServerConfig.port < defaultServerConfig.greetingDelayPortStart + 100) ∧
        ¬(defaultServerConfig.dropDelayPortStart + delayCount ≤ defaultServerConfig.port ∧
          defaultServerConfig.port < defaultServerConfig.dropDelayPortStart + 100)) :=
  have hb : ∀ p ∈ [defaultServerConfig.port, defaultServerConfig.tlsPort,
      defaultServerConfig.startTLSPort, defaultServerConfig.greetingDelayPortStart,
      defaultServerConfig.dropDelayPortStart], 0 ≤ p ∧ p ≤ 65535 := by decide
  ⟨hb, validatePortConfiguration_eq_none_iff _ hb⟩

end BadSmtp.Server
