import Mathlib.Data.List.Induction
import Tollgate.Proofs.Answering
import Tollgate.Proofs.RuleRuns

namespace Tollgate

namespace Guard

-- A log with room for `capacity` incidents, after one more. Without room it stays as it is.
def retained (capacity : Nat) (log : List Incident) (i : Incident) : List Incident :=
  if capacity = 0 then log else log.drop (log.length + 1 - capacity) ++ [i]

theorem retained_closed (log : List Incident) (i : Incident) : retained 0 log i = log := rfl

theorem retained_open {capacity : Nat} (room : 0 < capacity) (log : List Incident) (i : Incident) :
    retained capacity log i = log.drop (log.length + 1 - capacity) ++ [i] :=
  if_neg (by omega)

theorem retained_length {capacity : Nat} (room : 0 < capacity) (log : List Incident)
    (i : Incident) : (retained capacity log i).length ≤ capacity := by
  rw [retained_open room]
  simp only [List.length_append, List.length_drop, List.length_singleton]
  omega

theorem retained_fold_closed (incidents log : List Incident) :
    incidents.foldl (retained 0) log = log := by
  induction incidents with
  | nil => rfl
  | cons i rest ih => exact ih

theorem retained_fold_length {capacity : Nat} (room : 0 < capacity) {incidents : List Incident}
    (some : incidents ≠ []) (log : List Incident) :
    (incidents.foldl (retained capacity) log).length ≤ capacity := by
  rw [← List.dropLast_concat_getLast some, List.foldl_append]
  exact retained_length room _ _

structure Entry where
  capacity : Nat
  incident : Incident
deriving Repr, DecidableEq

def logOf (entries : List Entry) : List Incident :=
  entries.foldl (fun log e => retained e.capacity log e.incident) []

def recordedOf (entries : List Entry) : List Incident :=
  (entries.filter fun e => decide (0 < e.capacity)).map Entry.incident

theorem logOf_snoc (entries : List Entry) (e : Entry) :
    logOf (entries ++ [e]) = retained e.capacity (logOf entries) e.incident := by
  simp [logOf]

theorem logOf_append (entries : List Entry) (capacity : Nat) (incidents : List Incident) :
    logOf (entries ++ incidents.map (Entry.mk capacity)) =
      incidents.foldl (retained capacity) (logOf entries) := by
  simp [logOf, List.foldl_map]

theorem recordedOf_snoc (entries : List Entry) (e : Entry) :
    recordedOf (entries ++ [e]) =
      recordedOf entries ++ if 0 < e.capacity then [e.incident] else [] := by
  unfold recordedOf
  by_cases room : 0 < e.capacity <;> simp [room]

-- The induction takes the entries from their end, where the log grows.
theorem logOf_suffix (entries : List Entry) : logOf entries <:+ recordedOf entries := by
  induction entries using List.reverseRecOn with
  | nil => exact List.suffix_refl []
  | append_singleton earlier e ih =>
    rw [logOf_snoc, recordedOf_snoc]
    by_cases room : 0 < e.capacity
    · rw [retained_open room, if_pos room, List.suffix_append_self_iff]
      exact (List.drop_suffix _ _).trans ih
    · have none : e.capacity = 0 := by omega
      rw [none, retained_closed, if_neg (by omega), List.append_nil]
      exact ih

-- Nothing is lost from a log that always has room for everything.
theorem logOf_whole {entries : List Entry}
    (room : ∀ e ∈ entries, entries.length ≤ e.capacity) :
    logOf entries = entries.map Entry.incident := by
  induction entries using List.reverseRecOn with
  | nil => rfl
  | append_singleton earlier e ih =>
    simp only [List.length_append, List.length_singleton] at room
    have before : logOf earlier = earlier.map Entry.incident := by
      apply ih
      intro other member
      have enough := room other (List.mem_append_left _ member)
      omega
    have enough := room e (List.mem_append_right _ List.mem_cons_self)
    have none : earlier.length + 1 - e.capacity = 0 := by omega
    rw [logOf_snoc, retained_open (by omega), before, List.length_map, none]
    simp

end Guard

inductive GuardRequest
  | validateModule (c : Contract)
  | validateHostCall (function : String) (args : List Value) (isWrite : Bool)
  | checkLimits (phase : LimitPhase) (c : CallContext) (now : Nat)
  | detectThreats (moduleId : String) (data : Table Value)
  | setPolicy (policy : Policy)

inductive GuardReply
  | validated (result : Except Fault ValidationReport)
  | gated (result : Except Fault Unit)
  | checked (result : Except Fault Unit)
  | scanned (scan : Option Scan)
  | done

namespace GuardReply

-- A strict validation ends at its first failure.
def ruleFailures : GuardReply → Nat
  | .validated (.ok report) => report.failures.length
  | .validated (.error _) => 1
  | _ => 0

def isRefused : GuardReply → Bool
  | .gated (.error _) => true
  | _ => false

def isOverrun : GuardReply → Bool
  | .checked (.error _) => true
  | _ => false

def scan? : GuardReply → Option Scan
  | .scanned scan => scan
  | _ => none

end GuardReply

namespace Guard

def answer (g : Guard) : GuardRequest → Guard × GuardReply
  | .validateModule c => ((g.validateModule c).1, .validated (g.validateModule c).2)
  | .validateHostCall function args isWrite =>
    ((g.validateHostCall function args isWrite).1,
      .gated (g.validateHostCall function args isWrite).2)
  | .checkLimits phase c now =>
    ((g.checkLimits phase c now).1, .checked (g.checkLimits phase c now).2)
  | .detectThreats moduleId data =>
    ((g.detectThreats moduleId data).1, .scanned (g.detectThreats moduleId data).2)
  | .setPolicy policy => ({ g with policy := policy }, .done)

def noting (g : Guard) (incidents : List Incident) : Guard :=
  { g with incidents := incidents.foldl (retained g.policy.maxRecentEvents) g.incidents }

theorem record_noting (g : Guard) (kind : String) (severity : Nat) (message : String) :
    g.record kind severity message = g.noting [⟨kind, severity, message⟩] := by
  unfold record noting retained
  by_cases none : g.policy.maxRecentEvents = 0 <;> simp [none]

theorem noting_noting (g : Guard) (first second : List Incident) :
    (g.noting first).noting second = g.noting (first ++ second) := by
  simp [noting]

def rejection (f : RuleFailure) : Incident :=
  ⟨"module_validation_failed", severityScore f.severity, s!"{f.rule}: {f.message}"⟩

def warning (f : RuleFailure) : Incident :=
  ⟨"module_validation_warning", severityScore f.severity, s!"{f.rule}: {f.message}"⟩

def validationIncidents (g : Guard) (c : Contract) : List Incident :=
  if g.policy.enableValidation then
    if g.policy.strictMode then ((g.failuresOf c).take 1).map rejection
    else (g.failuresOf c).map warning
  else []

theorem warnings_noting (failures : List RuleFailure) (g : Guard) :
    failures.foldl (noteFailure "module_validation_warning") g =
      g.noting (failures.map warning) := by
  induction failures generalizing g with
  | nil => rfl
  | cons f rest ih =>
    rw [List.foldl_cons, ih, noteFailure, record_noting, noting_noting]
    rfl

theorem validateModule_noting (g : Guard) (c : Contract) :
    (g.validateModule c).1 =
      (if g.policy.enableValidation then g.countValidation (!(g.failuresOf c).isEmpty)
        else g).noting (g.validationIncidents c) := by
  unfold validationIncidents
  cases enabled : g.policy.enableValidation with
  | false =>
    rw [validateModule_skipped enabled]
    rfl
  | true =>
    cases strict : g.policy.strictMode with
    | false =>
      rw [validateModule_reported enabled (.inl strict)]
      exact warnings_noting _ _
    | true =>
      cases failed : g.failuresOf c with
      | nil =>
        rw [validateModule_reported enabled (.inr failed), failed]
        rfl
      | cons f rest =>
        rw [validateModule_stopped enabled strict failed]
        exact record_noting _ _ _ _

theorem validateModule_failures (g : Guard) (c : Contract) :
    (GuardReply.validated (g.validateModule c).2).ruleFailures =
      (g.validationIncidents c).length := by
  unfold validationIncidents
  cases enabled : g.policy.enableValidation with
  | false =>
    rw [validateModule_skipped enabled]
    rfl
  | true =>
    cases strict : g.policy.strictMode with
    | false =>
      rw [validateModule_reported enabled (.inl strict)]
      simp [GuardReply.ruleFailures, reportOf]
    | true =>
      cases failed : g.failuresOf c with
      | nil =>
        rw [validateModule_reported enabled (.inr failed)]
        simp [GuardReply.ruleFailures, reportOf, failed]
      | cons f rest =>
        rw [validateModule_stopped enabled strict failed]
        rfl

def Refusal.incident (r : Refusal) : Incident := ⟨r.kind, r.severity, r.fault.details.getD ""⟩

theorem validateHostCall_noting (g : Guard) (function : String) (args : List Value)
    (isWrite : Bool) :
    g.validateHostCall function args isWrite =
      match refusal? g.policy function args isWrite with
      | none =>
        ({ g with stats :=
            { g.stats with hostCallsValidated := g.stats.hostCallsValidated + 1 } }, .ok ())
      | some r =>
        (({ g with stats :=
            { g.stats with hostCallViolations := g.stats.hostCallViolations + 1 } } : Guard).noting
          [r.incident], .error r.fault) := by
  unfold validateHostCall
  cases refusal? g.policy function args isWrite with
  | none => rfl
  | some r =>
    dsimp only
    rw [record_noting]
    rfl

def violation? (g : Guard) (phase : LimitPhase) (c : CallContext) (now : Nat) :
    Option (String × Fault) :=
  (g.checkers.filter fun k => k.enabled && k.phase == phase).findSome? fun k =>
    match k.check c g.policy now with
    | .ok () => none
    | .error f => some (k.name, f)

def overrun (violation : String × Fault) : Incident :=
  ⟨"limit_violation", 6, s!"{violation.1}: {violation.2.text}"⟩

theorem checkLimits_noting (g : Guard) (phase : LimitPhase) (c : CallContext) (now : Nat) :
    g.checkLimits phase c now =
      match g.violation? phase c now with
      | none => (g, .ok ())
      | some v =>
        (({ g with stats :=
            { g.stats with limitViolations := g.stats.limitViolations + 1 } } : Guard).noting
          [overrun v], .error (v.2.withContext "checker" (.text v.1))) := by
  change (match g.violation? phase c now with
    | none => _
    | some (name, f) => _) = _
  cases g.violation? phase c now with
  | none => rfl
  | some v =>
    obtain ⟨name, f⟩ := v
    dsimp only
    rw [record_noting]
    rfl

-- The patterns that alert, each by its own score.
def alerting (threshold : Float) (data : Table Value) (patterns : List ThreatPattern) :
    List ThreatPattern :=
  patterns.filter fun p => decide (threshold < p.score data)

def alert (data : Table Value) (p : ThreatPattern) : Incident :=
  ⟨"threat_detected", p.severity, s!"pattern {p.name} scored {scoreText (p.score data)}"⟩

def total (data : Table Value) (start : Float) (patterns : List ThreatPattern) : Float :=
  patterns.foldl (fun sum p => sum + p.score data) start

theorem scorePatterns_noting (threshold : Float) (data : Table Value)
    (patterns : List ThreatPattern) (g : Guard) (scan : Scan) :
    patterns.foldl (scorePattern threshold data) (g, scan) =
      (({ g with stats :=
          { g.stats with
            threatsDetected :=
              g.stats.threatsDetected + (alerting threshold data patterns).length } } :
          Guard).noting ((alerting threshold data patterns).map (alert data)),
        { scan with
          score := total data scan.score patterns
          alerts := scan.alerts ++ (alerting threshold data patterns).map ThreatPattern.name }) := by
  induction patterns generalizing g scan with
  | nil => simp [alerting, total, noting]
  | cons p rest ih =>
    rw [List.foldl_cons]
    by_cases high : threshold < p.score data
    · have more : alerting threshold data (p :: rest) = p :: alerting threshold data rest := by
        simp [alerting, high]
      have first : scorePattern threshold data (g, scan) p =
          (({ g with stats :=
              { g.stats with threatsDetected := g.stats.threatsDetected + 1 } } : Guard).noting
            [alert data p],
            { scan with
              score := scan.score + p.score data
              alerts := scan.alerts ++ [p.name] }) := by
        unfold scorePattern
        dsimp only
        rw [if_pos high, record_noting]
        rfl
      rw [first, ih, more]
      simp [noting, total, Nat.add_assoc, Nat.add_comm]
    · have same : alerting threshold data (p :: rest) = alerting threshold data rest := by
        simp [alerting, high]
      have first : scorePattern threshold data (g, scan) p =
          (g, { scan with score := scan.score + p.score data }) := by
        unfold scorePattern
        dsimp only
        rw [if_neg high]
      rw [first, ih, same]
      rfl

def scanOf (g : Guard) (moduleId : String) (data : Table Value) : Scan where
  id := s!"scan{g.scansMade}"
  moduleId := moduleId
  score := total data 0.0 g.patterns
  alerts := (alerting (Float.ofBits g.policy.alertThreshold) data g.patterns).map
    ThreatPattern.name
  blocked := decide (Float.ofBits g.policy.alertThreshold < total data 0.0 g.patterns)

def blocking (scan : Scan) : List Incident :=
  if scan.blocked then
    [⟨"threat_blocked", 9, s!"module {scan.moduleId} scored {scoreText scan.score}"⟩]
  else []

def scanIncidents (g : Guard) (moduleId : String) (data : Table Value) : List Incident :=
  (alerting (Float.ofBits g.policy.alertThreshold) data g.patterns).map (alert data) ++
    blocking (g.scanOf moduleId data)

def recent (scans : List Scan) (scan : Scan) : List Scan :=
  scans.drop (scans.length + 1 - maxRecentScans) ++ [scan]

theorem detectThreats_off {g : Guard} (off : g.policy.enableThreatDetection = false)
    (moduleId : String) (data : Table Value) : g.detectThreats moduleId data = (g, none) := by
  unfold detectThreats
  rw [off]
  rfl

theorem detectThreats_noting {g : Guard} (on : g.policy.enableThreatDetection = true)
    (moduleId : String) (data : Table Value) :
    g.detectThreats moduleId data =
      (({ g with
          stats :=
            { g.stats with
              threatsDetected :=
                g.stats.threatsDetected + (g.scanOf moduleId data).alerts.length
              threatsBlocked :=
                g.stats.threatsBlocked + (g.scanOf moduleId data).blocked.toNat }
          scans := recent g.scans (g.scanOf moduleId data)
          scansMade := g.scansMade + 1 } : Guard).noting (g.scanIncidents moduleId data),
        some (g.scanOf moduleId data)) := by
  unfold detectThreats
  rw [on]
  simp only [Bool.not_true, Bool.false_eq_true, if_false, scorePatterns_noting]
  by_cases high : Float.ofBits g.policy.alertThreshold < total data 0.0 g.patterns
  · simp only [high, if_true, record_noting]
    simp [noting, scanIncidents, blocking, scanOf, recent, high]
  · simp only [high, if_false]
    simp [noting, scanIncidents, blocking, scanOf, recent, high]

-- The incidents that a request makes a guard report, in order.
def incidentsOf (g : Guard) : GuardRequest → List Incident
  | .validateModule c => g.validationIncidents c
  | .validateHostCall function args isWrite =>
    ((refusal? g.policy function args isWrite).map Refusal.incident).toList
  | .checkLimits phase c now => ((g.violation? phase c now).map overrun).toList
  | .detectThreats moduleId data =>
    if g.policy.enableThreatDetection then g.scanIncidents moduleId data else []
  | .setPolicy _ => []

-- What a request does to the log, the counters and the scans of a guard, by its reply and by the
-- incidents that it reports.
structure Booked (before : Guard) (incidents : List Incident) (reply : GuardReply)
    (after : Guard) : Prop where
  log : after.incidents = incidents.foldl (retained before.policy.maxRecentEvents) before.incidents
  refused : after.stats.hostCallViolations =
    before.stats.hostCallViolations + reply.isRefused.toNat
  overrun : after.stats.limitViolations = before.stats.limitViolations + reply.isOverrun.toNat
  detected : after.stats.threatsDetected =
    before.stats.threatsDetected + sumOf (reply.scan?.toList.map fun s => s.alerts.length)
  blocked : after.stats.threatsBlocked =
    before.stats.threatsBlocked + reply.scan?.toList.countP Scan.blocked
  reported : incidents.length = reply.isRefused.toNat + reply.isOverrun.toNat +
    sumOf (reply.scan?.toList.map fun s => s.alerts.length) +
    reply.scan?.toList.countP Scan.blocked + reply.ruleFailures
  scans : after.scans = reply.scan?.elim before.scans (recent before.scans)

theorem validateModule_booked (g : Guard) (c : Contract) :
    Booked g (g.validationIncidents c) (.validated (g.validateModule c).2)
      (g.validateModule c).1 := by
  have failures := validateModule_failures g c
  rw [validateModule_noting]
  have reported : (g.validationIncidents c).length =
      0 + 0 + 0 + 0 + (GuardReply.validated (g.validateModule c).2).ruleFailures := by
    rw [failures, Nat.zero_add]
  cases g.policy.enableValidation with
  | false => exact ⟨rfl, rfl, rfl, rfl, rfl, reported, rfl⟩
  | true => exact ⟨rfl, rfl, rfl, rfl, rfl, reported, rfl⟩

theorem validateHostCall_booked (g : Guard) (function : String) (args : List Value)
    (isWrite : Bool) :
    Booked g ((refusal? g.policy function args isWrite).map Refusal.incident).toList
      (.gated (g.validateHostCall function args isWrite).2)
      (g.validateHostCall function args isWrite).1 := by
  rw [validateHostCall_noting]
  cases refusal? g.policy function args isWrite with
  | none => exact ⟨rfl, rfl, rfl, rfl, rfl, rfl, rfl⟩
  | some r => exact ⟨rfl, rfl, rfl, rfl, rfl, rfl, rfl⟩

theorem checkLimits_booked (g : Guard) (phase : LimitPhase) (c : CallContext) (now : Nat) :
    Booked g ((g.violation? phase c now).map Guard.overrun).toList
      (.checked (g.checkLimits phase c now).2) (g.checkLimits phase c now).1 := by
  rw [checkLimits_noting]
  cases g.violation? phase c now with
  | none => exact ⟨rfl, rfl, rfl, rfl, rfl, rfl, rfl⟩
  | some v => exact ⟨rfl, rfl, rfl, rfl, rfl, rfl, rfl⟩

theorem scanIncidents_length (g : Guard) (moduleId : String) (data : Table Value) :
    (g.scanIncidents moduleId data).length =
      (g.scanOf moduleId data).alerts.length + (g.scanOf moduleId data).blocked.toNat := by
  unfold scanIncidents blocking
  rw [List.length_append, List.length_map]
  cases (g.scanOf moduleId data).blocked <;> simp [scanOf]

theorem detectThreats_booked (g : Guard) (moduleId : String) (data : Table Value) :
    Booked g (if g.policy.enableThreatDetection then g.scanIncidents moduleId data else [])
      (.scanned (g.detectThreats moduleId data).2) (g.detectThreats moduleId data).1 := by
  cases on : g.policy.enableThreatDetection with
  | false =>
    rw [detectThreats_off on]
    exact ⟨rfl, rfl, rfl, rfl, rfl, rfl, rfl⟩
  | true =>
    rw [detectThreats_noting on]
    have blocked : (g.scanOf moduleId data).blocked.toNat =
        [g.scanOf moduleId data].countP Scan.blocked := by
      rw [List.countP_singleton]
      cases (g.scanOf moduleId data).blocked <;> rfl
    refine ⟨rfl, rfl, rfl, rfl, ?_, ?_, rfl⟩
    · exact congrArg (g.stats.threatsBlocked + ·) blocked
    · rw [if_pos rfl, scanIncidents_length, blocked]
      simp [GuardReply.isRefused, GuardReply.isOverrun, GuardReply.scan?,
        GuardReply.ruleFailures, sumOf_cons, sumOf_nil]

theorem answer_booked (g : Guard) (r : GuardRequest) :
    Booked g (g.incidentsOf r) (g.answer r).2 (g.answer r).1 := by
  cases r with
  | validateModule c => exact g.validateModule_booked c
  | validateHostCall function args isWrite => exact g.validateHostCall_booked function args isWrite
  | checkLimits phase c now => exact g.checkLimits_booked phase c now
  | detectThreats moduleId data => exact g.detectThreats_booked moduleId data
  | setPolicy policy => exact ⟨rfl, rfl, rfl, rfl, rfl, rfl, rfl⟩

abbrev Turn := Guard × GuardRequest

namespace Turn

def after (t : Turn) : Guard := (t.1.answer t.2).1

def reply (t : Turn) : GuardReply := (t.1.answer t.2).2

def incidents (t : Turn) : List Incident := t.1.incidentsOf t.2

end Turn

def entries (turns : List Turn) : List Entry :=
  turns.flatMap fun t => t.incidents.map (Entry.mk t.1.policy.maxRecentEvents)

def scansOf (turns : List Turn) : List Scan := turns.filterMap fun t => t.reply.scan?

theorem entries_snoc (turns : List Turn) (t : Turn) :
    entries (turns ++ [t]) =
      entries turns ++ t.incidents.map (Entry.mk t.1.policy.maxRecentEvents) := by
  simp [entries]

theorem scansOf_snoc (turns : List Turn) (t : Turn) :
    scansOf (turns ++ [t]) = scansOf turns ++ t.reply.scan?.toList := by
  unfold scansOf
  rw [List.filterMap_append]
  cases made : t.reply.scan? <;> simp [made]

-- A guard that has seen nothing yet. Its policy, rules, checkers and patterns are any.
structure Fresh (g : Guard) : Prop where
  stats : g.stats = {}
  incidents : g.incidents = []
  scans : g.scans = []

structure Kept (turns : List Turn) (g : Guard) : Prop where
  last : ∀ t, turns.getLast? = some t → g = t.after
  log : g.incidents = logOf (entries turns)
  refused : g.stats.hostCallViolations = turns.countP fun t => t.reply.isRefused
  overrun : g.stats.limitViolations = turns.countP fun t => t.reply.isOverrun
  detected : g.stats.threatsDetected = sumOf ((scansOf turns).map fun s => s.alerts.length)
  blocked : g.stats.threatsBlocked = (scansOf turns).countP Scan.blocked
  reported : (entries turns).length =
    g.stats.hostCallViolations + g.stats.limitViolations + g.stats.threatsDetected +
      g.stats.threatsBlocked + sumOf (turns.map fun t => t.reply.ruleFailures)
  scans : g.scans = (scansOf turns).drop ((scansOf turns).length - maxRecentScans)

theorem Fresh.kept {g : Guard} (fresh : g.Fresh) : Kept [] g := by
  obtain ⟨stats, incidents, scans⟩ := fresh
  refine ⟨(fun _ none => by cases none), incidents, ?_, ?_, ?_, ?_, ?_, scans⟩
  all_goals
    rw [stats]
    rfl

theorem recent_drop (scans : List Scan) (scan : Scan) :
    recent (scans.drop (scans.length - maxRecentScans)) scan =
      (scans ++ [scan]).drop ((scans ++ [scan]).length - maxRecentScans) := by
  have room : scans.length + 1 - maxRecentScans ≤ scans.length := by
    unfold maxRecentScans
    omega
  have dropped : scans.length - maxRecentScans +
      (scans.length - (scans.length - maxRecentScans) + 1 - maxRecentScans) =
        scans.length + 1 - maxRecentScans := by omega
  unfold recent
  rw [List.length_append, List.length_singleton, List.drop_append_of_le_length room, List.drop_drop,
    List.length_drop, dropped]

theorem Kept.answer {turns : List Turn} {g : Guard} (kept : Kept turns g) (r : GuardRequest) :
    Kept (turns ++ [(g, r)]) (g.answer r).1 := by
  obtain ⟨-, log, refused, overrun, detected, blocked, reported, scans⟩ := kept
  have booked : Booked g (Turn.incidents (g, r)) (Turn.reply (g, r)) (g.answer r).1 :=
    g.answer_booked r
  have counts := booked.reported
  have more : (entries (turns ++ [(g, r)])).length =
      (entries turns).length + (Turn.incidents (g, r)).length := by
    rw [entries_snoc, List.length_append, List.length_map]
  constructor
  · intro t last
    rw [List.getLast?_concat] at last
    cases last
    rfl
  · rw [booked.log, entries_snoc, logOf_append, log]
  · rw [booked.refused, refused, countP_snoc]
  · rw [booked.overrun, overrun, countP_snoc]
  · rw [booked.detected, detected, scansOf_snoc, List.map_append, sumOf_append]
  · rw [booked.blocked, blocked, scansOf_snoc, List.countP_append]
  · rw [more, sumOf_snoc, booked.refused, booked.overrun, booked.detected, booked.blocked]
    omega
  · rw [booked.scans, scansOf_snoc, scans]
    cases Turn.reply (g, r) |>.scan? with
    | none => simp
    | some scan => exact recent_drop (scansOf turns) scan

-- What a run leaves in the log of a guard, in its counters and in its list of scans.
structure LogKept (turns : List Turn) (g : Guard) : Prop where
  -- With room in the log throughout, as many incidents were recorded as the counters tell and rules
  -- failed.
  counted : (∀ t ∈ turns, 0 < t.1.policy.maxRecentEvents) →
    (recordedOf (entries turns)).length =
      g.stats.hostCallViolations + g.stats.limitViolations + g.stats.threatsDetected +
        g.stats.threatsBlocked + sumOf (turns.map fun t => t.reply.ruleFailures)
  refused : g.stats.hostCallViolations = turns.countP fun t => t.reply.isRefused
  overrun : g.stats.limitViolations = turns.countP fun t => t.reply.isOverrun
  detected : g.stats.threatsDetected = sumOf ((scansOf turns).map fun s => s.alerts.length)
  blocked : g.stats.threatsBlocked = (scansOf turns).countP Scan.blocked
  -- The log is what the incidents make of it one by one, and the end of what was recorded. A request
  -- that has just recorded some leaves no more than its policy has room for.
  log : g.incidents = logOf (entries turns)
  suffix : g.incidents <:+ recordedOf (entries turns)
  bounded : ∀ t, turns.getLast? = some t → 0 < t.1.policy.maxRecentEvents → t.incidents ≠ [] →
    g.incidents.length ≤ t.1.policy.maxRecentEvents
  untouched : ∀ t, turns.getLast? = some t → t.1.policy.maxRecentEvents = 0 →
    g.incidents = t.1.incidents
  whole : (∀ t ∈ turns, (entries turns).length ≤ t.1.policy.maxRecentEvents) →
    g.incidents = turns.flatMap fun t => t.incidents
  scans : g.scans <:+ scansOf turns
  scansKept : g.scans.length = min (scansOf turns).length 64

theorem mem_entries {turns : List Turn} {e : Entry} (member : e ∈ entries turns) :
    ∃ t ∈ turns, e.capacity = t.1.policy.maxRecentEvents := by
  obtain ⟨t, turn, mapped⟩ := List.mem_flatMap.mp member
  obtain ⟨incident, -, rfl⟩ := List.mem_map.mp mapped
  exact ⟨t, turn, rfl⟩

theorem recordedOf_room {turns : List Turn}
    (room : ∀ t ∈ turns, 0 < t.1.policy.maxRecentEvents) :
    recordedOf (entries turns) = (entries turns).map Entry.incident := by
  unfold recordedOf
  rw [List.filter_eq_self.mpr]
  intro e member
  obtain ⟨t, turn, same⟩ := mem_entries member
  simp [same, room t turn]

theorem entries_incidents (turns : List Turn) :
    (entries turns).map Entry.incident = turns.flatMap fun t => t.incidents := by
  simp [entries, List.map_flatMap, Function.comp_def]

theorem Kept.logKept {turns : List Turn} {g : Guard} (kept : Kept turns g) : LogKept turns g := by
  refine {
    counted := ?_
    refused := kept.refused
    overrun := kept.overrun
    detected := kept.detected
    blocked := kept.blocked
    log := kept.log
    suffix := kept.log ▸ logOf_suffix (entries turns)
    bounded := ?_
    untouched := ?_
    whole := ?_
    scans := ?_
    scansKept := ?_ }
  · intro room
    rw [recordedOf_room room, List.length_map, kept.reported]
  · intro t last room some
    rw [kept.last t last, Turn.after, (t.1.answer_booked t.2).log]
    exact retained_fold_length room some _
  · intro t last none
    rw [kept.last t last, Turn.after, (t.1.answer_booked t.2).log, none]
    exact retained_fold_closed _ _
  · intro room
    rw [kept.log, logOf_whole, entries_incidents]
    intro e member
    obtain ⟨t, turn, same⟩ := mem_entries member
    rw [same]
    exact room t turn
  · rw [kept.scans]
    exact List.drop_suffix _ _
  · rw [kept.scans, List.length_drop]
    unfold maxRecentScans
    omega

theorem log_kept {g : Guard} (fresh : g.Fresh) (requests : List GuardRequest) :
    LogKept (journal answer g requests) (answering answer g requests).1 := by
  have kept : Kept (journal answer g requests) (answering answer g requests).1 :=
    journal_invariant (fun turns g r _ kept => kept.answer r) fresh.kept
  exact kept.logKept

-- Two refusals, room for one incident only, a refusal, and a scan that is switched off.
def pestered : List GuardRequest :=
  [.validateHostCall "log" [] false, .validateHostCall "log" [] true,
    .setPolicy { deniedHostFunctions := ["log"], maxRecentEvents := 1,
                 enableThreatDetection := false },
    .validateHostCall "log" [] false, .detectThreats "m" .empty]

theorem log_kept_pestered :
    (ofPolicy { deniedHostFunctions := ["log"] }).Fresh ∧
      LogKept (journal answer (ofPolicy { deniedHostFunctions := ["log"] }) pestered)
        (answering answer (ofPolicy { deniedHostFunctions := ["log"] }) pestered).1 ∧
      (∀ t ∈ journal answer (ofPolicy { deniedHostFunctions := ["log"] }) pestered,
        0 < t.1.policy.maxRecentEvents) ∧
      (entries (journal answer (ofPolicy { deniedHostFunctions := ["log"] }) pestered)).length = 3 ∧
      (answering answer (ofPolicy { deniedHostFunctions := ["log"] }) pestered).1.incidents.length =
        1 := by
  have fresh : (ofPolicy { deniedHostFunctions := ["log"] }).Fresh := ⟨rfl, rfl, rfl⟩
  refine ⟨fresh, log_kept fresh pestered, ?_, rfl, rfl⟩
  decide

end Guard

end Tollgate
