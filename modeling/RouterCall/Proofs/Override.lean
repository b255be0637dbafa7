import RouterCall.Proofs.Settings

/-!
# Overrides up to the first that fails

An environment may hold a value that a variable cannot have. What is then taken up of the
environment is what stands before that value, and it ends with an error that names the variable.
The settings taken up, what is recorded on the way and how it ends are properties of the environment
alone, `Environment.TakesUp`: no configuration has a say in them. So overriding lays fixed settings
over any configuration, whether it succeeds or not.

That is the whole argument for the results. What is not among the settings taken up stays as it was,
in success and in failure. And laying the same settings over a configuration twice is laying them
over it once, so overriding again repeats what was recorded and how it ended, and changes nothing.

A value of `ROUTER_LOG_JSON` is read in any case, one of `ROUTER_UNKNOWN_COMMAND_NAMES` as it is
spelled. The log level cannot fail here: any text is taken up, and whether it names a level is asked
later.

## Main definitions

* `Environment.TakesUp`: the settings an environment provides, and how taking them up ends

## Main results

* `Environment.exists_takesUp`: every environment provides some settings
* `Config.override_eq`: overriding lays them over a configuration, whatever it is
* `Config.override_override`: overriding again changes nothing
* `Config.override_eq_of_agree`: a layout that cannot be read hides the variables behind it
* `Config.override_settings_outcome_idempotent`: what becomes of each setting, of the outcome, and
  of a second override
-/

namespace RouterCall

/-! ### Laying settings over settings -/

namespace Settings

variable {config : Config}

theorem getD_getD {α : Type} (replaced : Option α) (a : α) :
    replaced.getD (replaced.getD a) = replaced.getD a := by
  cases replaced <;> rfl

/-- Settings laid over a configuration twice are laid over it once. -/
theorem onto_onto (settings : Settings) (config : Config) :
    settings.onto (settings.onto config) = settings.onto config := by
  simp only [onto, getD_getD]

/-- Settings without a word on the log leave it alone, and the same for the policy. -/
theorem onto_validation_of_none {settings : Settings} (h : settings.unknownNames = none) :
    (settings.onto config).validation = config.validation := by
  simp only [onto, h, Option.getD_none]

theorem onto_json_of_none {settings : Settings} (h : settings.json = none) :
    (settings.onto config).logging.json = config.logging.json := by
  simp only [onto, h, Option.getD_none]

end Settings

/-! ### What is taken up of an environment -/

namespace Environment

/-- What is recorded of the log level: that it is replaced. -/
def levelEvents (env : Environment) : List ConfigEvent :=
  (env "ROUTER_LOG_LEVEL").elim [] fun _ => [.levelOverridden]

/-- What is recorded of the treatment of unknown names: that it is about to be replaced. -/
def treatmentEvents (env : Environment) : List ConfigEvent :=
  (env "ROUTER_UNKNOWN_COMMAND_NAMES").elim [] fun _ => [.unknownNamesOverridden]

/-- The settings that an environment provides up to the first value that cannot be read, what is
recorded on the way, and how it ends. -/
inductive TakesUp (env : Environment) :
    Settings → List ConfigEvent → Except ConfigError Unit → Prop
  | layoutRefused {text : String} (given : env "ROUTER_LOG_JSON" = some text)
      (unread : ¬ IsFlag text) :
      TakesUp env { level := env "ROUTER_LOG_LEVEL" } (levelEvents env)
        (.error (.invalidOverride "ROUTER_LOG_JSON" (asciiLower text)))
  | treatmentRefused {text : String}
      (layout : ∀ text, env "ROUTER_LOG_JSON" = some text → IsFlag text)
      (given : env "ROUTER_UNKNOWN_COMMAND_NAMES" = some text) (unread : ¬ IsTreatment text) :
      TakesUp env { Settings.ofEnvironment env with unknownNames := none }
        (levelEvents env ++ treatmentEvents env)
        (.error (.invalidOverride "ROUTER_UNKNOWN_COMMAND_NAMES" text))
  | whole (layout : ∀ text, env "ROUTER_LOG_JSON" = some text → IsFlag text)
      (treatment : ∀ text, env "ROUTER_UNKNOWN_COMMAND_NAMES" = some text → IsTreatment text) :
      TakesUp env (Settings.ofEnvironment env) (levelEvents env ++ treatmentEvents env) (.ok ())

variable {env : Environment}

/-- **Every environment provides some settings**, and it ends in some way. -/
theorem exists_takesUp (env : Environment) :
    ∃ settings events outcome, TakesUp env settings events outcome := by
  by_cases layout : ∀ text, env "ROUTER_LOG_JSON" = some text → IsFlag text
  · by_cases treatment : ∀ text, env "ROUTER_UNKNOWN_COMMAND_NAMES" = some text → IsTreatment text
    · exact ⟨_, _, _, .whole layout treatment⟩
    · push Not at treatment
      obtain ⟨text, given, unread⟩ := treatment
      exact ⟨_, _, _, .treatmentRefused layout given unread⟩
  · push Not at layout
    obtain ⟨text, given, unread⟩ := layout
    exact ⟨_, _, _, .layoutRefused given unread⟩

variable {settings : Settings} {events : List ConfigEvent} {outcome : Except ConfigError Unit}

/-- The log level is taken up in any case. -/
theorem TakesUp.level (taken : TakesUp env settings events outcome) :
    settings.level = env "ROUTER_LOG_LEVEL" := by
  cases taken <;> rfl

/-- A layout that can be read is taken up, also when the treatment is refused. -/
theorem TakesUp.json (taken : TakesUp env settings events outcome)
    (layout : ∀ text, env "ROUTER_LOG_JSON" = some text → IsFlag text) :
    settings.json = (Settings.ofEnvironment env).json := by
  cases taken with
  | layoutRefused given unread => exact absurd (layout _ given) unread
  | treatmentRefused => rfl
  | whole => rfl

/-- Nothing is taken up of a variable that is absent. -/
theorem TakesUp.json_eq_none (taken : TakesUp env settings events outcome)
    (absent : env "ROUTER_LOG_JSON" = none) : settings.json = none := by
  cases taken with
  | layoutRefused => rfl
  | treatmentRefused => simp only [Settings.ofEnvironment, absent, Option.map_none]
  | whole => simp only [Settings.ofEnvironment, absent, Option.map_none]

theorem TakesUp.unknownNames_eq_none (taken : TakesUp env settings events outcome)
    (absent : env "ROUTER_UNKNOWN_COMMAND_NAMES" = none) : settings.unknownNames = none := by
  cases taken with
  | layoutRefused => rfl
  | treatmentRefused => rfl
  | whole => simp only [Settings.ofEnvironment, absent, Option.map_none]

/-- Taking settings up fails for a value only, and says so. -/
theorem TakesUp.kind (taken : TakesUp env settings events outcome) {e : ConfigError}
    (failed : outcome = .error e) : e.kind = .validation := by
  cases taken with
  | layoutRefused => cases failed; rfl
  | treatmentRefused => cases failed; rfl
  | whole => cases failed

end Environment

/-! ### Overriding -/

namespace Config

open Environment (IsFlag IsTreatment TakesUp levelEvents treatmentEvents)

variable {env : Environment}

/-- A variable cannot be read exactly when its text is none of those it may have. -/
theorem eq_none_iff_of_reads {α : Type} {found : Option α} {readable : Prop} {value : α}
    (reads : ∀ {a}, found = some a ↔ readable ∧ value = a) : found = none ↔ ¬ readable := by
  rw [Option.eq_none_iff_forall_ne_some]
  constructor
  · intro none readable
    exact none value (reads.mpr ⟨readable, rfl⟩)
  · intro unread a read
    exact unread (reads.mp read).1

theorem overrideLevel_eq (env : Environment) (config : Config) :
    overrideLevel env config =
      ⟨({ level := env "ROUTER_LOG_LEVEL" } : Settings).onto config, levelEvents env, .ok ()⟩ := by
  rw [overrideLevel.eq_def, Environment.logLevelKey, levelEvents]
  cases env "ROUTER_LOG_LEVEL" <;> rfl

theorem overrideJson_of_refused {text : String} (given : env "ROUTER_LOG_JSON" = some text)
    (unread : ¬ IsFlag text) (config : Config) :
    overrideJson env config =
      ⟨config, [], .error (.invalidOverride "ROUTER_LOG_JSON" (asciiLower text))⟩ := by
  simp only [overrideJson, Environment.logJsonKey, given,
    (eq_none_iff_of_reads Environment.flag?_eq_some_iff).mpr unread]

theorem overrideJson_of_read
    (layout : ∀ text, env "ROUTER_LOG_JSON" = some text → IsFlag text) (config : Config) :
    overrideJson env config =
      .unchanged (({ json := (Settings.ofEnvironment env).json } : Settings).onto config) := by
  rw [overrideJson.eq_def, Environment.logJsonKey, Settings.ofEnvironment]
  cases given : env "ROUTER_LOG_JSON" with
  | none => rfl
  | some text =>
    have read := Environment.flag?_eq_some_iff.mpr ⟨layout text given, rfl⟩
    simp only [read]
    rfl

theorem overrideUnknownNames_of_refused {text : String}
    (given : env "ROUTER_UNKNOWN_COMMAND_NAMES" = some text) (unread : ¬ IsTreatment text)
    (config : Config) :
    overrideUnknownNames env config = ⟨config, treatmentEvents env,
      .error (.invalidOverride "ROUTER_UNKNOWN_COMMAND_NAMES" text)⟩ := by
  simp only [overrideUnknownNames, Environment.unknownNamesKey, treatmentEvents, given,
    (eq_none_iff_of_reads UnknownNames.ofName?_eq_some_iff).mpr unread, Option.elim_some]

theorem overrideUnknownNames_of_read
    (treatment : ∀ text, env "ROUTER_UNKNOWN_COMMAND_NAMES" = some text → IsTreatment text)
    (config : Config) :
    overrideUnknownNames env config =
      ⟨({ unknownNames := (Settings.ofEnvironment env).unknownNames } : Settings).onto config,
        treatmentEvents env, .ok ()⟩ := by
  rw [overrideUnknownNames.eq_def, Environment.unknownNamesKey, Settings.ofEnvironment,
    treatmentEvents]
  cases given : env "ROUTER_UNKNOWN_COMMAND_NAMES" with
  | none => rfl
  | some text =>
    have read := UnknownNames.ofName?_eq_some_iff.mpr ⟨treatment text given, rfl⟩
    simp only [read]
    rfl

/-- **Overriding lays what is taken up of the environment over a configuration**, whatever the
configuration is. -/
theorem override_eq {settings : Settings} {events : List ConfigEvent}
    {outcome : Except ConfigError Unit} (taken : TakesUp env settings events outcome)
    (config : Config) : config.override env = ⟨settings.onto config, events, outcome⟩ := by
  cases taken with
  | layoutRefused given unread =>
    simp only [override, overrideLevel_eq, Overridden.andThen,
      overrideJson_of_refused given unread, List.append_nil]
  | treatmentRefused layout given unread =>
    simp only [override, overrideLevel_eq, Overridden.andThen, overrideJson_of_read layout,
      Overridden.unchanged, overrideUnknownNames_of_refused given unread, List.append_nil]
    rfl
  | whole layout treatment =>
    simp only [override, overrideLevel_eq, Overridden.andThen, overrideJson_of_read layout,
      Overridden.unchanged, overrideUnknownNames_of_read treatment, List.append_nil]
    rfl

/-- **Overriding again changes nothing**: not the configuration, not what is recorded, not how it
ends. -/
theorem override_override (env : Environment) (config : Config) :
    (config.override env).config.override env = config.override env := by
  obtain ⟨settings, events, outcome, taken⟩ := env.exists_takesUp
  rw [override_eq taken config, override_eq taken, Settings.onto_onto]

/-- A layout that cannot be read hides all variables behind it. -/
theorem override_eq_of_agree {env' : Environment} {text : String}
    (given : env "ROUTER_LOG_JSON" = some text) (unread : ¬ IsFlag text)
    (level : env' "ROUTER_LOG_LEVEL" = env "ROUTER_LOG_LEVEL")
    (layout : env' "ROUTER_LOG_JSON" = env "ROUTER_LOG_JSON") (config : Config) :
    config.override env' = config.override env := by
  rw [override_eq (.layoutRefused given unread),
    override_eq (.layoutRefused (layout.trans given) unread), levelEvents, levelEvents, level]

/-- **What becomes of each setting, of the outcome, and of a second override.** The level is the one
of the environment where there is one, also when a later variable cannot be read. A layout that
cannot be read is refused in lower case; then neither the layout nor the policy changes, and no
variable but the two that were looked at has a say in what happens. Otherwise the layout is the one
of the environment, and a treatment that cannot be read is refused as it is spelled and leaves the
policy alone, while one that can be read is the policy. A setting without a variable is as it was,
every refusal is one of a value, and overriding again gives the same. -/
theorem override_settings_outcome_idempotent (env : Environment) (config : Config) :
    (config.override env).config.logging.level =
      (env "ROUTER_LOG_LEVEL").getD config.logging.level ∧
    (∀ text, env "ROUTER_LOG_JSON" = some text → ¬ IsFlag text →
      (config.override env).outcome =
        .error (.invalidOverride "ROUTER_LOG_JSON" (asciiLower text)) ∧
      (config.override env).config.logging.json = config.logging.json ∧
      (config.override env).config.validation = config.validation ∧
      ∀ env' : Environment, env' "ROUTER_LOG_LEVEL" = env "ROUTER_LOG_LEVEL" →
        env' "ROUTER_LOG_JSON" = env "ROUTER_LOG_JSON" →
        config.override env' = config.override env) ∧
    ((∀ text, env "ROUTER_LOG_JSON" = some text → IsFlag text) →
      (config.override env).config.logging.json =
        (Settings.ofEnvironment env).json.getD config.logging.json ∧
      (∀ text, env "ROUTER_UNKNOWN_COMMAND_NAMES" = some text → ¬ IsTreatment text →
        (config.override env).outcome =
          .error (.invalidOverride "ROUTER_UNKNOWN_COMMAND_NAMES" text) ∧
        (config.override env).config.validation = config.validation) ∧
      ((∀ text, env "ROUTER_UNKNOWN_COMMAND_NAMES" = some text → IsTreatment text) →
        (config.override env).outcome = .ok () ∧
        (config.override env).config.validation.unknownNames =
          (Settings.ofEnvironment env).unknownNames.getD config.validation.unknownNames)) ∧
    (env "ROUTER_LOG_JSON" = none →
      (config.override env).config.logging.json = config.logging.json) ∧
    (env "ROUTER_UNKNOWN_COMMAND_NAMES" = none →
      (config.override env).config.validation = config.validation) ∧
    (∀ e, (config.override env).outcome = .error e → e.kind = .validation) ∧
    (config.override env).config.override env = config.override env := by
  obtain ⟨settings, events, outcome, taken⟩ := env.exists_takesUp
  have laid := override_eq taken config
  refine ⟨?level, ?layoutRefused, ?layoutRead, ?noLayout, ?noTreatment, ?kind,
    override_override env config⟩
  case level =>
    rw [laid]
    simp only [Settings.onto, taken.level]
  case layoutRefused =>
    intro text given unread
    have refused := override_eq (.layoutRefused given unread) config
    refine ⟨by rw [refused], by rw [refused]; rfl, by rw [refused]; rfl, ?_⟩
    intro env' level layout
    exact override_eq_of_agree given unread level layout config
  case layoutRead =>
    intro layout
    refine ⟨?_, ?_, ?_⟩
    · rw [laid]
      simp only [Settings.onto, taken.json layout]
    · intro text given unread
      rw [override_eq (.treatmentRefused layout given unread)]
      exact ⟨rfl, rfl⟩
    · intro treatment
      rw [override_eq (.whole layout treatment)]
      exact ⟨rfl, rfl⟩
  case noLayout =>
    intro absent
    rw [laid]
    exact Settings.onto_json_of_none (taken.json_eq_none absent)
  case noTreatment =>
    intro absent
    rw [laid]
    exact Settings.onto_validation_of_none (taken.unknownNames_eq_none absent)
  case kind =>
    intro e failed
    rw [laid] at failed
    exact taken.kind failed

/-- All three variables, with a level that is none. -/
def loudEnvironment (layout treatment : String) : Environment := fun key =>
  if key = "ROUTER_LOG_LEVEL" then some "loud"
  else if key = "ROUTER_LOG_JSON" then some layout
  else if key = "ROUTER_UNKNOWN_COMMAND_NAMES" then some treatment
  else none

theorem override_settings_outcome_idempotent_refused :
    ((permissive.override (loudEnvironment "Maybe" "Reject")).outcome =
        .error (.invalidOverride "ROUTER_LOG_JSON" "maybe") ∧
      (permissive.override (loudEnvironment "Maybe" "Reject")).config =
        (permissive.override (loudEnvironment "Maybe" "reject")).config) ∧
    (permissive.override (loudEnvironment "YES" "Reject")).config.logging.json = true ∧
    (permissive.override (loudEnvironment "YES" "Reject")).outcome =
      .error (.invalidOverride "ROUTER_UNKNOWN_COMMAND_NAMES" "Reject") ∧
    (permissive.override (loudEnvironment "YES" "reject")).config.validation = ⟨.reject⟩ := by
  have read : ∀ text, some "YES" = some text → IsFlag text := by
    rintro _ ⟨⟩
    decide
  have named : ∀ text, some "reject" = some text → IsTreatment text := by
    rintro _ ⟨⟩
    decide
  obtain ⟨outcome, -, -, hidden⟩ :=
    (override_settings_outcome_idempotent (loudEnvironment "Maybe" "Reject") permissive).2.1 "Maybe"
      rfl (by decide)
  obtain ⟨layout, refused, -⟩ :=
    (override_settings_outcome_idempotent (loudEnvironment "YES" "Reject") permissive).2.2.1 read
  obtain ⟨-, -, replaced⟩ :=
    (override_settings_outcome_idempotent (loudEnvironment "YES" "reject") permissive).2.2.1 read
  have others := hidden (loudEnvironment "Maybe" "reject") rfl rfl
  exact ⟨⟨outcome, by rw [others]⟩, layout, (refused "Reject" rfl (by decide)).1,
    congrArg Policy.mk (replaced named).2⟩

end Config

end RouterCall
