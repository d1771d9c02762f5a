import Outbox.Proofs.SettingTexts

/-!
# Secrets stay secret

Two environments that differ only in what their secrets say are told the same fault, or give settings that
differ in nothing but the secrets.

* `secrets`             the variables that hold one;
* `SameButSecrets`      two environments that differ in nothing else;
* `Twins`               two readers come to one fault, or to two values that are related;
* `relayOf_eq`, `leaseOf_eq`, `backoffOf_eq`   these parts of the settings read no secret;
* `pubsubOf_twins`      what the broker is told with another secret;
* `secrets_stay`        what can be seen of the settings does not depend on the secrets.
-/

namespace Outbox.Settings

/-- the variables that hold a secret -/
def secrets : List String := ["DATABASE_URL", "PUBSUB_ACCESS_TOKEN"]

/-- Two environments differ at most in what their secrets say.  A secret that is blank in one of them is
blank in the other. -/
structure SameButSecrets (env env' : Environment) : Prop where
  rest : ∀ name, name ∉ secrets → env name = env' name
  stated : ∀ name ∈ secrets, (∃ v, Stated env name v) ↔ ∃ v, Stated env' name v

/-- Two readers come to the same fault, or to two values with `P`. -/
def Twins {α β : Type} (x : Except Fault α) (y : Except Fault β) (P : α → β → Prop) : Prop :=
  (∃ f, x = .error f ∧ y = .error f) ∨ ∃ a b, x = .ok a ∧ y = .ok b ∧ P a b

namespace Twins

variable {α β γ δ : Type} {x : Except Fault α} {y : Except Fault β} {P : α → β → Prop}
  {g : α → Except Fault γ} {g' : β → Except Fault δ} {Q : γ → δ → Prop}

theorem ok {a : α} {b : β} (h : P a b) : Twins (.ok a) (.ok b) P := Or.inr ⟨a, b, rfl, rfl, h⟩

theorem of_eq {x y : Except Fault α} (h : x = y) : Twins x y Eq := by
  subst h
  cases x with
  | error f => exact Or.inl ⟨f, rfl, rfl⟩
  | ok a => exact ok rfl

theorem bind (h : Twins x y P) (k : ∀ a b, P a b → Twins (g a) (g' b) Q) :
    Twins (x >>= g) (y >>= g') Q := by
  rcases h with ⟨f, rfl, rfl⟩ | ⟨a, b, rfl, rfl, hab⟩
  · exact Or.inl ⟨f, rfl, rfl⟩
  · exact k a b hab

end Twins

theorem isSome_value? {env : Environment} {name : String} :
    (value? env name).isSome = true ↔ ∃ v, Stated env name v := by
  rw [Option.isSome_iff_exists]
  exact exists_congr fun v => value?_eq_some

namespace SameButSecrets

variable {env env' : Environment} {name : String}

/-! ## single values -/

theorem value?_eq (h : SameButSecrets env env') (hn : name ∉ secrets) :
    value? env name = value? env' name := by
  unfold value?
  rw [h.rest name hn]

theorem isSome_value? (h : SameButSecrets env env') (hn : name ∈ secrets) :
    (value? env name).isSome = (value? env' name).isSome := by
  rw [Bool.eq_iff_iff, Settings.isSome_value?, Settings.isSome_value?]
  exact h.stated name hn

theorem optional_eq {α : Type} (h : SameButSecrets env env') (hn : name ∉ secrets) (read : Reader α) :
    optional env read name = optional env' read name := by
  unfold optional
  rw [h.value?_eq hn]

theorem get_eq {α : Type} (h : SameButSecrets env env') (hn : name ∉ secrets) (read : Reader α)
    (default : α) : get env read name default = get env' read name default := by
  unfold get
  rw [h.optional_eq hn]

theorem required_eq (h : SameButSecrets env env') (hn : name ∉ secrets) :
    required env name = required env' name := by
  unfold required
  rw [h.value?_eq hn]

/-- Whether a secret is there may be seen, but nothing else of it. -/
theorem twins_required (h : SameButSecrets env env') (hn : name ∈ secrets) :
    Twins (required env name) (required env' name) fun _ _ => True := by
  have hsome := h.isSome_value? hn
  unfold required
  cases hv : value? env name with
  | none =>
    rw [hv] at hsome
    have hw : value? env' name = none :=
      Option.isNone_iff_eq_none.1 (Option.isSome_eq_false_iff.1 hsome.symm)
    rw [hw]
    exact Or.inl ⟨_, rfl, rfl⟩
  | some v =>
    rw [hv] at hsome
    obtain ⟨w, hw⟩ := Option.isSome_iff_exists.1 hsome.symm
    rw [hw]
    exact .ok trivial

/-! ## parts of the settings -/

theorem relayOf_eq (h : SameButSecrets env env') : relayOf env = relayOf env' := by
  simp (disch := decide) only [relayOf, h.get_eq, h.optional_eq]

theorem leaseOf_eq (h : SameButSecrets env env') (timeout : Duration) :
    leaseOf env timeout = leaseOf env' timeout := by
  simp (disch := decide) only [leaseOf, h.get_eq]

theorem backoffOf_eq (h : SameButSecrets env env') : backoffOf env = backoffOf env' := by
  simp (disch := decide) only [backoffOf, jitterOf, h.get_eq]

/-- Another token makes no other difference, and the text for the log does not tell which one it is. -/
theorem pubsubOf_twins (h : SameButSecrets env env') (projectId : String) (timeout : Duration) :
    pubsubOf env' projectId timeout =
        { pubsubOf env projectId timeout with
          accessToken := (pubsubOf env' projectId timeout).accessToken } ∧
      (pubsubOf env' projectId timeout).accessToken.isSome =
        (pubsubOf env projectId timeout).accessToken.isSome := by
  have hhost : value? env "PUBSUB_EMULATOR_HOST" = value? env' "PUBSUB_EMULATOR_HOST" :=
    h.value?_eq (by decide)
  have hendpoint : value? env "PUBSUB_ENDPOINT" = value? env' "PUBSUB_ENDPOINT" := h.value?_eq (by decide)
  have htoken : (value? env "PUBSUB_ACCESS_TOKEN").isSome = (value? env' "PUBSUB_ACCESS_TOKEN").isSome :=
    h.isSome_value? (by decide)
  unfold pubsubOf
  rw [hhost]
  cases value? env' "PUBSUB_EMULATOR_HOST" with
  | some host => exact ⟨rfl, rfl⟩
  | none =>
    dsimp only
    rw [hendpoint]
    exact ⟨rfl, htoken.symm⟩

end SameButSecrets

/-- The settings differ in nothing but their secrets, and the text for the log is one. -/
structure DifferInSecrets (s s' : Settings) : Prop where
  settings : s' = { s with
    databaseUrl := s'.databaseUrl
    pubsub := { s.pubsub with accessToken := s'.pubsub.accessToken } }
  debugText : s'.pubsub.debugText = s.pubsub.debugText

theorem debugText_eq {c c' : PubSub.Config} (h : c' = { c with accessToken := c'.accessToken })
    (htoken : c'.accessToken.isSome = c.accessToken.isSome) : c'.debugText = c.debugText := by
  unfold PubSub.Config.debugText
  rw [htoken, h]

/-- An emulator is spoken to in plain, and is told no token. -/
theorem pubsubOf_emulator {env : Environment} {host : String} (h : Stated env "PUBSUB_EMULATOR_HOST" host)
    (projectId : String) (timeout : Duration) :
    pubsubOf env projectId timeout = ⟨projectId, "http://" ++ host, none, timeout⟩ := by
  unfold pubsubOf
  rw [value?_eq_some.2 h]
  rfl

/-! ## all settings -/

theorem SameButSecrets.refl (env : Environment) : SameButSecrets env env :=
  ⟨fun _ _ => rfl, fun _ _ => Iff.rfl⟩

theorem twins_ofEnvironment {env env' : Environment} (h : SameButSecrets env env') :
    Twins (ofEnvironment env) (ofEnvironment env') fun s s' =>
      ∃ projectId timeout, s.pubsub = pubsubOf env projectId timeout ∧
        s' = { s with databaseUrl := s'.databaseUrl, pubsub := pubsubOf env' projectId timeout } := by
  refine (h.twins_required (by decide)).bind fun url url' _ => ?_
  refine (Twins.of_eq (h.required_eq (by decide))).bind fun projectId _ hproject => ?_
  refine (Twins.of_eq h.relayOf_eq).bind fun relay _ hrelay => ?_
  subst hproject hrelay
  refine (Twins.of_eq (h.leaseOf_eq _)).bind fun lease _ hlease => ?_
  refine (Twins.of_eq h.backoffOf_eq).bind fun backoff _ hbackoff => ?_
  refine (Twins.of_eq (h.get_eq (by decide) _ _)).bind fun connections _ hconnections => ?_
  refine (Twins.of_eq (h.get_eq (by decide) _ _)).bind fun migrations _ hmigrations => ?_
  subst hlease hbackoff hconnections hmigrations
  have hformat : value? env "LOG_FORMAT" = value? env' "LOG_FORMAT" := h.value?_eq (by decide)
  refine .ok ⟨projectId, relay.publishTimeout, rfl, ?_⟩
  rw [hformat]

/-- **Secrets stay secret.**  Of two environments that differ only in what their secrets say, both are
refused with one fault, and so with one message, or both give settings; these differ at most in the secrets,
and the text of the broker's settings for the log does not differ.  An emulator is reached in plain at the
host that was set, and is told no token, whatever else is set. -/
theorem secrets_stay (env : Environment) :
    (∀ env', SameButSecrets env env' →
      (∃ f, ofEnvironment env = .error f ∧ ofEnvironment env' = .error f) ∨
        ∃ s s', ofEnvironment env = .ok s ∧ ofEnvironment env' = .ok s' ∧ DifferInSecrets s s') ∧
      ∀ host, Stated env "PUBSUB_EMULATOR_HOST" host → ∀ s, ofEnvironment env = .ok s →
        s.pubsub.accessToken = none ∧ s.pubsub.endpoint = "http://" ++ host := by
  refine ⟨fun env' h => ?_, fun host hhost s hs => ?_⟩
  · rcases twins_ofEnvironment h with hf | ⟨s, s', hs, hs', projectId, timeout, hpubsub, heq⟩
    · exact Or.inl hf
    · obtain ⟨htwins, htoken⟩ := h.pubsubOf_twins projectId timeout
      have hpubsub' : s'.pubsub = pubsubOf env' projectId timeout := by rw [heq]
      rw [← hpubsub, ← hpubsub'] at htwins htoken
      refine Or.inr ⟨s, s', hs, hs', ?_, debugText_eq htwins htoken⟩
      rw [← htwins, hpubsub']
      exact heq
  · rcases twins_ofEnvironment (.refl env) with ⟨f, hf, _⟩ | ⟨t, _, ht, _, projectId, timeout, hpubsub, _⟩
    · rw [hs] at hf
      cases hf
    · obtain rfl : s = t := Except.ok.inj (hs.symm.trans ht)
      rw [hpubsub, pubsubOf_emulator hhost]
      exact ⟨rfl, rfl⟩

/-- A batch size that cannot be read is told in the same words beside either secret, and an emulator is told
no token. -/
theorem secrets_stay_faulty :
    let env (url token : String) (vars : List (String × String)) : Environment := fun name =>
      if name = "DATABASE_URL" then some url
      else if name = "PUBSUB_ACCESS_TOKEN" then some token
      else (vars.find? (·.1 = name)).map Prod.snd
    let faulty := [("PUBSUB_PROJECT_ID", "demo"), ("OUTBOX_BATCH_SIZE", "lots")]
    let emulated := [("PUBSUB_PROJECT_ID", "demo"), ("PUBSUB_ENDPOINT", "https://pubsub.test"),
      ("PUBSUB_EMULATOR_HOST", "localhost:8085")]
    let x := env "postgres://relay:one@db/outbox" "token-one"
    let y := env "postgres://relay:two@db/outbox" "token-two"
    (SameButSecrets (x faulty) (y faulty) ∧
        (match ofEnvironment (x faulty) with
          | .error f => f.message
          | .ok _ => "") =
            "invalid value for OUTBOX_BATCH_SIZE (\"lots\"): invalid digit found in string" ∧
        Stated (x emulated) "PUBSUB_EMULATOR_HOST" "localhost:8085" ∧
        (ofEnvironment (x emulated)).isOk = true) ∧
      ((∃ f, ofEnvironment (x faulty) = .error f ∧ ofEnvironment (y faulty) = .error f) ∨
        ∃ s s', ofEnvironment (x faulty) = .ok s ∧ ofEnvironment (y faulty) = .ok s' ∧
          DifferInSecrets s s') ∧
        ∀ s, ofEnvironment (x emulated) = .ok s →
          s.pubsub.accessToken = none ∧ s.pubsub.endpoint = "http://" ++ "localhost:8085" := by
  intro env faulty emulated x y
  have hsame : SameButSecrets (x faulty) (y faulty) := by
    constructor
    · intro name hn
      simp only [secrets, List.mem_cons, List.not_mem_nil, or_false, not_or] at hn
      simp only [x, y, env, if_neg hn.1, if_neg hn.2]
    · simp only [← isSome_value?]
      decide
  have hhost : Stated (x emulated) "PUBSUB_EMULATOR_HOST" "localhost:8085" :=
    value?_eq_some.1 (by decide +kernel)
  exact ⟨⟨hsame, by decide +kernel, hhost, by decide +kernel⟩, (secrets_stay _).1 _ hsame,
    (secrets_stay _).2 _ hhost⟩

end Outbox.Settings
