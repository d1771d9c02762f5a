import Outbox.Proofs.FirstPublish
import Outbox.Proofs.SettingTexts

/-!
# Which environments are accepted

Settings are accepted from an environment if and only if it passes a list of checks, which are made in a
fixed order.

* `Check`, `checks`     the checks, first one first;
* `FirstFault`          what the first check that fails tells;
* `Makes`               a reader makes some checks in their order, and what it comes to if all pass;
* `Says`                the settings are what the environment says, with the defaults where it says nothing;
* `Safe`                a worker with these settings publishes;
* `ofEnvironment_accepts`   the accepted environments are the valid ones, and what is accepted is safe.
-/

namespace Outbox.Settings

/-! ## checks -/

inductive Check where
  /-- The variable is set and not blank. -/
  | required (name : String)
  /-- The variable says a value of the kind, if it says anything. -/
  | readable (kind : Kind) (name : String)
  | leaseAboveTimeout
  | jitterInRange

def LeaseIs (env : Environment) (lease : Duration) : Prop :=
  Value IsMillis env "OUTBOX_CLAIM_LEASE_MS" (.ofMillis 60000) lease

def TimeoutIs (env : Environment) (timeout : Duration) : Prop :=
  Value IsMillis env "OUTBOX_PUBLISH_TIMEOUT_MS" (.ofMillis 10000) timeout

def JitterIs (env : Environment) (jitter : Float) : Prop :=
  Value Decimal.IsReal env "OUTBOX_BACKOFF_JITTER" 0.1 jitter

def Check.Passes (env : Environment) : Check → Prop
  | .required name => ∃ v, Stated env name v
  | .readable kind name => Readable kind env name
  | .leaseAboveTimeout =>
    ∃ lease timeout, LeaseIs env lease ∧ TimeoutIs env timeout ∧ timeout < lease
  | .jitterInRange => ∃ jitter, JitterIs env jitter ∧ 0.0 ≤ jitter ∧ jitter ≤ 1.0

/-- the fault that a check tells when it fails -/
def Check.Tells (env : Environment) : Check → Fault → Prop
  | .required name, f => f = .missing name
  | .readable kind name, f => Misread kind env name f
  | .leaseAboveTimeout, f =>
    ∃ lease timeout, LeaseIs env lease ∧ TimeoutIs env timeout ∧ f = .leaseTooShort lease timeout
  | .jitterInRange, f => ∃ jitter, JitterIs env jitter ∧ f = .jitterOutOfRange jitter

def relayChecks : List Check :=
  [.readable .count "OUTBOX_POLL_INTERVAL_MS", .readable .count "OUTBOX_BATCH_SIZE",
    .readable .count "OUTBOX_MAX_CONCURRENCY", .readable .count "OUTBOX_PUBLISH_TIMEOUT_MS",
    .readable .completion "OUTBOX_COMPLETION_POLICY", .readable .count "OUTBOX_PURGE_INTERVAL_SECS",
    .readable .count "OUTBOX_RETENTION_HOURS"]

def leaseChecks : List Check := [.readable .count "OUTBOX_CLAIM_LEASE_MS", .leaseAboveTimeout]

def backoffChecks : List Check :=
  [.readable .real "OUTBOX_BACKOFF_JITTER", .jitterInRange, .readable .count "OUTBOX_BACKOFF_INITIAL_MS",
    .readable .count "OUTBOX_BACKOFF_MAX_MS", .readable .real "OUTBOX_BACKOFF_MULTIPLIER"]

def checks : List Check :=
  [.required "DATABASE_URL", .required "PUBSUB_PROJECT_ID"] ++ relayChecks ++ leaseChecks ++
    backoffChecks ++
      [.readable (.natural 0xffffffff) "DATABASE_MAX_CONNECTIONS", .readable .flag "OUTBOX_RUN_MIGRATIONS"]

/-- `f` is what the first check tells that fails -/
def FirstFault (env : Environment) (cs : List Check) (f : Fault) : Prop :=
  ∃ before c after, cs = before ++ c :: after ∧ (∀ d ∈ before, d.Passes env) ∧ ¬ c.Passes env ∧
    c.Tells env f

/-! ## readers that check -/

/-- Either all of the checks pass, and `x` is a value with `P`, or `x` is the first fault. -/
def Makes {α : Type} (env : Environment) (cs : List Check) (x : Except Fault α) (P : α → Prop) : Prop :=
  (∃ a, x = .ok a ∧ (∀ c ∈ cs, c.Passes env) ∧ P a) ∨ ∃ f, x = .error f ∧ FirstFault env cs f

section

variable {α β : Type} {env : Environment} {cs ds : List Check} {x : Except Fault α} {P : α → Prop}
  {g : α → Except Fault β} {Q : β → Prop}

namespace Makes

theorem ok {a : α} (h : P a) : Makes env [] (.ok a) P := Or.inl ⟨a, rfl, nofun, h⟩

theorem one {c : Check} (h : (∃ a, x = .ok a ∧ c.Passes env ∧ P a) ∨
    ∃ f, x = .error f ∧ ¬ c.Passes env ∧ c.Tells env f) : Makes env [c] x P := by
  rcases h with ⟨a, hx, hc, ha⟩ | ⟨f, hx, hc, hf⟩
  · exact Or.inl ⟨a, hx, List.forall_mem_singleton.2 hc, ha⟩
  · exact Or.inr ⟨f, hx, [], c, [], rfl, nofun, hc, hf⟩

/-- The checks of what comes later count only if those before have passed. -/
theorem bind (h : Makes env cs x P) (k : ∀ a, P a → Makes env ds (g a) Q) :
    Makes env (cs ++ ds) (x >>= g) Q := by
  rcases h with ⟨a, rfl, hcs, ha⟩ | ⟨f, rfl, before, c, after, rfl, hbefore, hc⟩
  · rcases k a ha with ⟨b, hb, hds, hq⟩ | ⟨f, hf, before, c, after, rfl, hbefore, hc⟩
    · exact Or.inl ⟨b, hb, List.forall_mem_append.2 ⟨hcs, hds⟩, hq⟩
    · refine Or.inr ⟨f, hf, cs ++ before, c, after, ?_, List.forall_mem_append.2 ⟨hcs, hbefore⟩, hc⟩
      rw [List.append_assoc]
  · refine Or.inr ⟨f, rfl, before, c, after ++ ds, ?_, hbefore, hc⟩
    rw [List.append_assoc, List.cons_append]

end Makes

theorem makes_required (env : Environment) (name : String) :
    Makes env [.required name] (required env name) (Stated env name) := by
  refine .one ?_
  unfold required
  cases hv : value? env name with
  | none =>
    have hnone := value?_eq_none.1 hv
    exact Or.inr ⟨_, rfl, fun ⟨v, hs⟩ => hnone v hs, rfl⟩
  | some v =>
    have hs := value?_eq_some.1 hv
    exact Or.inl ⟨v, rfl, ⟨v, hs⟩, hs⟩

theorem makes_get {read : Reader α} {kind : Kind} {form : Form α} (hr : Reads read kind form)
    (env : Environment) (name : String) (default : α) :
    Makes env [.readable kind name] (get env read name default) fun a =>
      ∀ b, Value form env name default b ↔ b = a :=
  .one (get_cases hr env name default)

theorem makes_optional {read : Reader α} {kind : Kind} {form : Form α} (hr : Reads read kind form)
    (env : Environment) (name : String) :
    Makes env [.readable kind name] (optional env read name) fun o =>
      ∀ b, Value (Given form) env name none b ↔ b = o :=
  .one (given_cases hr env name)

end

/-! ## parts of the settings -/

structure SaysRelay (env : Environment) (c : Relay.Config) : Prop where
  pollInterval : Value IsMillis env "OUTBOX_POLL_INTERVAL_MS" (.ofMillis 1000) c.pollInterval
  batchSize : ∃ n, Value (Decimal.IsNatural 0xffffffffffffffff) env "OUTBOX_BATCH_SIZE" 50 n ∧
    c.batchSize = max n 1
  maxConcurrency : ∃ n, Value (Decimal.IsNatural 0xffffffffffffffff) env "OUTBOX_MAX_CONCURRENCY" 1 n ∧
    c.maxConcurrency = max n 1
  publishTimeout : ∀ d, TimeoutIs env d ↔ d = c.publishTimeout
  completion : Value IsCompletion env "OUTBOX_COMPLETION_POLICY" .retain c.completion
  purgeInterval : Value (IsSecs 1) env "OUTBOX_PURGE_INTERVAL_SECS" (.ofSecs 3600) c.purgeInterval
  retention : Value (Given (IsSecs 3600)) env "OUTBOX_RETENTION_HOURS" none c.retention

theorem makes_relayOf (env : Environment) : Makes env relayChecks (relayOf env) (SaysRelay env) := by
  refine (makes_get millis_reads env _ _).bind fun poll hpoll => ?_
  refine (makes_get (natural_reads _) env _ _).bind fun size hsize => ?_
  refine (makes_get (natural_reads _) env _ _).bind fun concurrency hconcurrency => ?_
  refine (makes_get millis_reads env _ _).bind fun timeout htimeout => ?_
  refine (makes_get completion_reads env _ _).bind fun completion hcompletion => ?_
  refine (makes_get (secs_reads 1) env _ _).bind fun purge hpurge => ?_
  refine (makes_optional (secs_reads 3600) env _).bind fun retention hretention => ?_
  exact .ok
    { pollInterval := (hpoll _).2 rfl
      batchSize := ⟨size, (hsize _).2 rfl, rfl⟩
      maxConcurrency := ⟨concurrency, (hconcurrency _).2 rfl, rfl⟩
      publishTimeout := htimeout
      completion := (hcompletion _).2 rfl
      purgeInterval := (hpurge _).2 rfl
      retention := (hretention _).2 rfl }

theorem makes_leaseOf {env : Environment} {timeout : Duration}
    (htimeout : ∀ d, TimeoutIs env d ↔ d = timeout) :
    Makes env leaseChecks (leaseOf env timeout) fun lease => LeaseIs env lease ∧ timeout < lease := by
  refine (makes_get millis_reads env _ _).bind fun lease hlease => ?_
  have hl : LeaseIs env lease := (hlease _).2 rfl
  have ht : TimeoutIs env timeout := (htimeout _).2 rfl
  refine .one ?_
  by_cases hle : lease ≤ timeout
  · rw [if_pos hle]
    refine Or.inr ⟨_, rfl, ?_, lease, timeout, hl, ht, rfl⟩
    rintro ⟨l, d, hl', hd, hlt⟩
    rw [(hlease l).1 hl', (htimeout d).1 hd] at hlt
    exact absurd hle (Nat.not_le.2 hlt)
  · rw [if_neg hle]
    have hlt : timeout < lease := Nat.not_le.1 hle
    exact Or.inl ⟨lease, rfl, ⟨lease, timeout, hl, ht, hlt⟩, hl, hlt⟩

theorem makes_jitterOf (env : Environment) :
    Makes env [.readable .real "OUTBOX_BACKOFF_JITTER", .jitterInRange] (jitterOf env) fun jitter =>
      JitterIs env jitter ∧ 0.0 ≤ jitter ∧ jitter ≤ 1.0 := by
  refine (makes_get real_reads env _ _).bind fun jitter hjitter => ?_
  have hj : JitterIs env jitter := (hjitter _).2 rfl
  refine .one ?_
  by_cases hrange : 0.0 ≤ jitter ∧ jitter ≤ 1.0
  · have htest : (decide (0.0 ≤ jitter) && decide (jitter ≤ 1.0)) = true := by simpa using hrange
    rw [htest, if_pos rfl]
    exact Or.inl ⟨jitter, rfl, ⟨jitter, hj, hrange⟩, hj, hrange⟩
  · have htest : ¬ (decide (0.0 ≤ jitter) && decide (jitter ≤ 1.0)) = true := by simpa using hrange
    rw [if_neg htest]
    refine Or.inr ⟨_, rfl, ?_, jitter, hj, rfl⟩
    rintro ⟨x, hx, hin⟩
    rw [(hjitter x).1 hx] at hin
    exact hrange hin

/-- A jitter that was accepted is between 0 and 1. -/
def SaysBackoff (env : Environment) (p : Backoff.Policy) : Prop :=
  ∃ initialInterval maxInterval multiplier jitter,
    Value IsMillis env "OUTBOX_BACKOFF_INITIAL_MS" (.ofMillis 1000) initialInterval ∧
      Value IsMillis env "OUTBOX_BACKOFF_MAX_MS" (.ofMillis 300000) maxInterval ∧
        Value Decimal.IsReal env "OUTBOX_BACKOFF_MULTIPLIER" 2.0 multiplier ∧
          (JitterIs env jitter ∧ 0.0 ≤ jitter ∧ jitter ≤ 1.0) ∧
            p = (({ Backoff.Policy.exponential with initialInterval, maxInterval }).withMultiplier
              multiplier).withJitter jitter

theorem makes_backoffOf (env : Environment) : Makes env backoffChecks (backoffOf env) (SaysBackoff env) := by
  refine (makes_jitterOf env).bind fun jitter hjitter => ?_
  refine (makes_get millis_reads env _ _).bind fun initial hinitial => ?_
  refine (makes_get millis_reads env _ _).bind fun maximum hmaximum => ?_
  refine (makes_get real_reads env _ _).bind fun multiplier hmultiplier => ?_
  exact .ok ⟨initial, maximum, multiplier, jitter, (hinitial _).2 rfl, (hmaximum _).2 rfl,
    (hmultiplier _).2 rfl, hjitter, rfl⟩

/-! ## all settings -/

/-- The settings are what the environment says. -/
structure Says (env : Environment) (s : Settings) : Prop where
  databaseUrl : Stated env "DATABASE_URL" s.databaseUrl
  projectId : Stated env "PUBSUB_PROJECT_ID" s.pubsub.projectId
  relay : SaysRelay env s.relay
  claimLease : LeaseIs env s.claimLease
  backoff : SaysBackoff env s.backoff
  databaseMaxConnections :
    Value (Decimal.IsNatural 0xffffffff) env "DATABASE_MAX_CONNECTIONS" 10 s.databaseMaxConnections
  runMigrations : Value IsFlag env "OUTBOX_RUN_MIGRATIONS" true s.runMigrations

/-- A worker with these settings publishes something of every batch, with any store of this lease. -/
structure Safe (s : Settings) : Prop where
  batchSize : 1 ≤ s.relay.batchSize
  maxConcurrency : 1 ≤ s.relay.maxConcurrency
  lease : s.relay.publishTimeout < s.claimLease
  requestTimeout : s.pubsub.requestTimeout = s.relay.publishTimeout
  publishes : ∀ {σ : Type} (b : Relay.Backend σ), b.lease = s.claimLease → Relay.PublishesFirst b s.relay

theorem pubsubOf_spec (env : Environment) (projectId : String) (timeout : Duration) :
    (pubsubOf env projectId timeout).projectId = projectId ∧
      (pubsubOf env projectId timeout).requestTimeout = timeout := by
  unfold pubsubOf
  split <;> exact ⟨rfl, rfl⟩

theorem makes_ofEnvironment (env : Environment) :
    Makes env checks (ofEnvironment env) fun s => Says env s ∧ Safe s := by
  refine (makes_required env _).bind fun url hurl => ?_
  refine (makes_required env _).bind fun projectId hprojectId => ?_
  refine (makes_relayOf env).bind fun relay hrelay => ?_
  refine (makes_leaseOf hrelay.publishTimeout).bind fun lease ⟨hlease, hlt⟩ => ?_
  refine (makes_backoffOf env).bind fun backoff hbackoff => ?_
  refine (makes_get (natural_reads _) env _ _).bind fun connections hconnections => ?_
  refine (makes_get flag_reads env _ _).bind fun migrations hmigrations => ?_
  obtain ⟨hid, htimeout⟩ := pubsubOf_spec env projectId relay.publishTimeout
  rw [← hid] at hprojectId
  obtain ⟨size, _, hsize⟩ := hrelay.batchSize
  obtain ⟨concurrency, _, hconcurrency⟩ := hrelay.maxConcurrency
  refine .ok ⟨?_, ?_⟩
  · exact
      { databaseUrl := hurl
        projectId := hprojectId
        relay := hrelay
        claimLease := hlease
        backoff := hbackoff
        databaseMaxConnections := (hconnections _).2 rfl
        runMigrations := (hmigrations _).2 rfl }
  · exact
      { batchSize := hsize ▸ Nat.le_max_right size 1
        maxConcurrency := hconcurrency ▸ Nat.le_max_right concurrency 1
        lease := hlt
        requestTimeout := htimeout
        publishes := fun b hb => Relay.publishesFirst (hb ▸ hlt) }

/-- **The accepted environments are the valid ones, and what is accepted is safe.**  Settings are read from
an environment if and only if it passes all of the checks; otherwise the fault is that of the first check
that fails.  The settings are what the environment says, with the defaults where it says nothing, and a
worker that has them publishes the first record of every batch while there is time. -/
theorem ofEnvironment_accepts (env : Environment) :
    ((∃ s, ofEnvironment env = .ok s) ↔ ∀ c ∈ checks, c.Passes env) ∧
      (∀ f, ofEnvironment env = .error f → FirstFault env checks f) ∧
        ∀ s, ofEnvironment env = .ok s → Says env s ∧ Safe s := by
  rcases makes_ofEnvironment env with ⟨s, hs, hpass, hgood⟩ | ⟨f, hf, hfault⟩
  · rw [hs]
    refine ⟨⟨fun _ => hpass, fun _ => ⟨s, rfl⟩⟩, nofun, fun s' hs' => ?_⟩
    injection hs' with hs'
    exact hs' ▸ hgood
  · rw [hf]
    refine ⟨⟨nofun, fun hpass => ?_⟩, fun f' hf' => ?_, nofun⟩
    · obtain ⟨before, c, after, hcs, _, hc, _⟩ := hfault
      exact absurd (hpass c (by rw [hcs]; simp)) hc
    · injection hf' with hf'
      exact hf' ▸ hfault

theorem exists_of_isOk {x : Except Fault Settings} (h : x.isOk = true) : ∃ s, x = .ok s := by
  cases x with
  | ok s => exact ⟨s, rfl⟩
  | error f => cases h

theorem exists_of_not_isOk {x : Except Fault Settings} (h : x.isOk = false) : ∃ f, x = .error f := by
  cases x with
  | ok s => cases h
  | error f => exact ⟨f, rfl⟩

/-- Blank variables count as missing, and of two faults the one that is read first is told. -/
theorem ofEnvironment_accepts_blank :
    let vars : List (String × String) :=
      [("DATABASE_URL", "postgres://localhost/outbox"), ("PUBSUB_PROJECT_ID", "demo"),
        ("OUTBOX_BATCH_SIZE", "\u3000"), ("OUTBOX_MAX_CONCURRENCY", "0"),
        ("OUTBOX_CLAIM_LEASE_MS", "\u00a0+10001 "), ("OUTBOX_COMPLETION_POLICY", "DeLeTe"),
        ("OUTBOX_BACKOFF_JITTER", "2.5E-1"), ("OUTBOX_BACKOFF_MULTIPLIER", "-Infinity")]
    let env : Environment := fun name => (vars.find? (·.1 = name)).map Prod.snd
    let faulty : Environment := fun name =>
      if name = "OUTBOX_CLAIM_LEASE_MS" then some "10000"
      else if name = "OUTBOX_BACKOFF_JITTER" then some "nan" else env name
    (((ofEnvironment env).toOption.map fun s =>
          (s.claimLease.millis, s.relay.batchSize, s.relay.maxConcurrency)) = some (10001, 50, 1) ∧
        (match ofEnvironment faulty with
          | .error f => f.message
          | .ok _ => "") =
            "OUTBOX_CLAIM_LEASE_MS (10000ms) must be longer than OUTBOX_PUBLISH_TIMEOUT_MS (10000ms)") ∧
      (∃ s, ofEnvironment env = .ok s ∧ Says env s ∧ Safe s) ∧
        ∃ f, ofEnvironment faulty = .error f ∧ FirstFault faulty checks f :=
  ⟨⟨by decide +kernel, by decide +kernel⟩,
    (exists_of_isOk (by decide +kernel)).imp fun s hs => ⟨hs, (ofEnvironment_accepts _).2.2 s hs⟩,
    (exists_of_not_isOk (by decide +kernel)).imp fun f hf => ⟨hf, (ofEnvironment_accepts _).2.1 f hf⟩⟩

end Outbox.Settings
