import Alerting.Config.Loading
import Alerting.Proofs.Flush.Schedule
import Alerting.Proofs.Pipeline.Routing
import Alerting.Session

/-!
# Starting a session

A validated configuration makes a pipeline with one evaluator for each of its alerts, and
its flush schedule has a first delay. Validation rejects the values that are too small for
the pool of emitters and for the timers, but it bounds none of them from above: a session
with a readable checkpoint starts exactly if its configuration keeps within these bounds.
-/

namespace Alerting

namespace Config

/-- A configuration that was loaded has passed validation. -/
theorem validate_of_load {path : String} {content : FileContent} {config : Config}
    (loaded : load path content = .ok config) : config.validate = .ok () := by
  rw [load.eq_def] at loaded
  split at loaded
  · cases loaded
  · cases loaded
  · split at loaded
    · cases loaded
    · split at loaded
      · cases loaded
      · split at loaded
        · cases loaded
        · rename_i valid
          cases loaded
          exact valid

/-- The frequency of a configuration is its setting, which is not zero. -/
theorem millisecondWord_of_frequency {config : Config} {frequency : FlushFrequency}
    (frequent : config.frequency = .ok frequency) :
    frequency.millisecondWord = config.flushFrequency ∧ config.flushFrequency ≠ 0 := by
  rw [Config.frequency, mapError_eq_ok, FlushFrequency.ofMilliseconds_eq_ok] at frequent
  rcases frequent with ⟨nonzero, duration⟩
  refine ⟨?_, nonzero⟩
  rw [FlushFrequency.millisecondWord, FlushFrequency.milliseconds, duration,
    Duration.milliseconds_ofMilliseconds, UInt64.ofNat_toNat]

/-- The periods that a session sets timers for. -/
def timerPeriods (config : Config) (keepsCheckpoints : Bool) : List Seconds :=
  config.evaluationInterval :: if keepsCheckpoints then config.checkpointInterval.toList else []

/--
Bounds that validation leaves out: how large a queue can be, how many workers a pool can
have, and how late a timer can fire when its clock shows a number of seconds.
-/
structure FitsLimits (config : Config) (keepsCheckpoints : Bool) (clock : Nat) : Prop where
  queueCapacity : config.queueCapacity.toNat ≤ EmitterPool.maxCapacity
  workers : config.workers.toNat ≤ EmitterPool.maxWorkers
  timers : ∀ period ∈ config.timerPeriods keepsCheckpoints, clock + period.toNat ≤ timerLimit

end Config

/-- The schedule of a configuration has a first delay. -/
theorem FlushSchedule.isSome_startAt? {config : Config} {frequency : FlushFrequency}
    (frequent : config.frequency = .ok frequency) (now : Nat) :
    (FlushSchedule.startAt? frequency now).isSome = true := by
  rcases Config.millisecondWord_of_frequency frequent with ⟨word, nonzero⟩
  rw [FlushSchedule.startAt?, Option.isSome_map, firstDelay?, if_neg (word ▸ nonzero)]
  rfl

namespace Pipeline

/-- The alerts of a pipeline are those of its configuration, each once. -/
theorem keys_perm_of_ofConfig {config : Config} (buildable : config.Buildable)
    {pipeline : Pipeline} (built : ofConfig config = .ok pipeline) :
    pipeline.evaluators.keys.Perm (config.alerts.map AlertDefinition.id) := by
  have serves := serves_of_ofConfig buildable.distinct built
  refine (List.perm_ext_iff_of_nodup ?_ buildable.distinct).2 fun id => ?_
  · exact pipeline.evaluators.nodup_keys
  · rw [SortedMap.mem_keys, List.mem_map]
    constructor
    · intro held
      exact serves.defined id held
    · rintro ⟨definition, member, rfl⟩
      have covered := serves.covers definition member
      rcases Option.map_eq_some_iff.1 covered with ⟨evaluator, held, -⟩
      simp [held]

end Pipeline

/-! ## Each step of the start -/

theorem checkTimer_eq_ok {clock : Nat} {period : Seconds} (nonzero : period ≠ 0) :
    checkTimer clock period = .ok () ↔ clock + period.toNat ≤ timerLimit := by
  rw [checkTimer, ← Nat.not_lt]
  split
  · rename_i late
    simp [late]
  · rename_i early
    simp [early]

namespace Session

/-- The timers can be set if their periods fit. -/
theorem checkTimers_eq_ok {config : Config} (positive : config.Positive)
    {keepsCheckpoints : Bool} {clock : Nat} :
    checkTimers config keepsCheckpoints clock = .ok () ↔
      ∀ period ∈ config.timerPeriods keepsCheckpoints, clock + period.toNat ≤ timerLimit := by
  have evaluation : checkTimer clock config.evaluationInterval = .ok () ↔ _ :=
    checkTimer_eq_ok positive.evaluationInterval
  rw [checkTimers, check_bind_eq_ok, Config.timerPeriods, List.forall_mem_cons, ← evaluation]
  cases given : config.checkpointInterval with
  | none => simp
  | some interval =>
    have checkpoints : checkTimer clock interval = .ok () ↔ _ :=
      checkTimer_eq_ok (positive.checkpointInterval interval given)
    cases keepsCheckpoints with
    | false => simp [pure, Except.pure]
    | true => simp [checkpoints]

/-- A pool can be created for a positive capacity, if neither it nor the workers are too many. -/
theorem isSome_create? (workers : Nat) {capacity : UInt64} (positive : capacity ≠ 0) :
    (EmitterPool.create? workers capacity.toNat).isSome = true ↔
      capacity.toNat ≤ EmitterPool.maxCapacity ∧ workers ≤ EmitterPool.maxWorkers := by
  have nonzero : capacity.toNat ≠ 0 := fun zero => positive (UInt64.toNat_inj.1 zero)
  rw [EmitterPool.create?]
  split
  case isTrue unusable =>
    have tooLarge := unusable.resolve_left nonzero
    exact iff_of_false (by simp) fun fits => Nat.not_lt.2 fits.1 tooLarge
  case isFalse usable =>
    have fits : capacity.toNat ≤ EmitterPool.maxCapacity := by
      simpa [nonzero] using usable
    simp [fits]

theorem ofConfig_eq_ok {config : Config} {session : Session} :
    ofConfig config = .ok session ↔ ∃ emitters pipeline,
      EmitterPool.create? config.workers.toNat config.queueCapacity.toNat = some emitters ∧
        Pipeline.ofConfig config = .ok pipeline ∧ session = { pipeline, emitters } := by
  rw [ofConfig]
  cases EmitterPool.create? config.workers.toNat config.queueCapacity.toNat with
  | none => simp
  | some emitters =>
    cases Pipeline.ofConfig config with
    | error _ => simp [Except.mapError, bind, Except.bind]
    | ok pipeline => simp [Except.mapError, bind, Except.bind, eq_comm]

/-- The session after the checkpoint, if one is kept, was restored. -/
def resumed (session : Session) : Option (String × FileContent) → Except LoadError Session
  | none => .ok session
  | some (path, content) => session.resume path content

theorem start_eq (config : Config) (stored : Option (String × FileContent)) (clock : Nat) :
    start config stored clock = (do
      let fresh ← ofConfig config
      let session ← (fresh.resumed stored).mapError .checkpoint
      (checkTimers config stored.isSome clock).mapError .setup
      .ok session) := by
  cases stored <;> rfl

theorem start_eq_ok {config : Config} {stored : Option (String × FileContent)} {clock : Nat}
    {session : Session} :
    start config stored clock = .ok session ↔ ∃ fresh, ofConfig config = .ok fresh ∧
      fresh.resumed stored = .ok session ∧ checkTimers config stored.isSome clock = .ok () := by
  rw [start_eq, bind_eq_ok]
  refine exists_congr fun fresh => and_congr_right fun _ => ?_
  rw [bind_eq_ok]
  simp only [mapError_eq_ok, check_bind_eq_ok, Except.ok.injEq]
  constructor
  · rintro ⟨_, resumed, timers, rfl⟩
    exact ⟨resumed, timers⟩
  · rintro ⟨resumed, timers⟩
    exact ⟨session, resumed, timers, rfl⟩

theorem bind_eq_error {ε α β : Type} {first : Except ε α} {next : α → Except ε β} {error : ε} :
    (first >>= next) = .error error ↔
      first = .error error ∨ ∃ value, first = .ok value ∧ next value = .error error := by
  cases first <;> simp [bind, Except.bind]

theorem mapError_eq_error {ε ζ α : Type} {attempt : Except ε α} {name : ε → ζ} {error : ζ} :
    attempt.mapError name = .error error ↔ ∃ cause, attempt = .error cause ∧ error = name cause := by
  cases attempt <;> simp [Except.mapError, eq_comm]

theorem start_eq_error {config : Config} {stored : Option (String × FileContent)} {clock : Nat}
    {error : StartError} :
    start config stored clock = .error error ↔ ofConfig config = .error error ∨
      ∃ fresh, ofConfig config = .ok fresh ∧
        ((∃ cause, fresh.resumed stored = .error cause ∧ error = .checkpoint cause) ∨
          ∃ session, fresh.resumed stored = .ok session ∧
            ∃ fault, checkTimers config stored.isSome clock = .error fault ∧
              error = .setup fault) := by
  simp only [start_eq, bind_eq_error, mapError_eq_error, mapError_eq_ok, reduceCtorEq, and_false,
    exists_false, or_false]

/-- Only a checkpoint that cannot be loaded cannot be restored. -/
theorem of_resumed_eq_error {fresh : Session} {stored : Option (String × FileContent)}
    {error : LoadError} (failed : fresh.resumed stored = .error error) :
    ∃ path content, stored = some (path, content) ∧
      Checkpoint.load path content = .error error := by
  rcases stored with _ | ⟨path, content⟩
  · cases failed
  · refine ⟨path, content, rfl, ?_⟩
    rw [resumed, resume] at failed
    cases loaded : Checkpoint.load path content with
    | error _ =>
      rw [loaded] at failed
      cases failed
      rfl
    | ok checkpoint =>
      rw [loaded] at failed
      cases checkpoint <;> cases failed

variable {config : Config} {stored : Option (String × FileContent)} {clock : Nat}

/-- What started fits the limits of the pool and of the timers. -/
theorem fitsLimits_of_start (valid : config.validate = .ok ()) {session : Session}
    (started : start config stored clock = .ok session) :
    config.FitsLimits stored.isSome clock := by
  have positive := Config.positive_of_validate valid
  obtain ⟨fresh, made, -, timers⟩ := start_eq_ok.1 started
  obtain ⟨emitters, _, created, -, -⟩ := ofConfig_eq_ok.1 made
  obtain ⟨capacity, workers⟩ :=
    (isSome_create? _ positive.queueCapacity).1 (Option.isSome_of_eq_some created)
  exact ⟨capacity, workers, (checkTimers_eq_ok positive).1 timers⟩

/-- A validated configuration makes a session, unless its queue or its pool is too large. -/
theorem of_ofConfig_eq_error (valid : config.validate = .ok ()) {error : StartError}
    (failed : ofConfig config = .error error) :
    error = .setup .emitterPool ∧ ¬ (config.queueCapacity.toNat ≤ EmitterPool.maxCapacity ∧
      config.workers.toNat ≤ EmitterPool.maxWorkers) := by
  rcases Pipeline.exists_ofConfig (Config.buildable_of_validate valid) with ⟨pipeline, built, -⟩
  have positive := Config.positive_of_validate valid
  cases created : EmitterPool.create? config.workers.toNat config.queueCapacity.toNat with
  | none =>
    rw [ofConfig, created] at failed
    cases failed
    refine ⟨rfl, fun fits => ?_⟩
    have pool := (isSome_create? config.workers.toNat positive.queueCapacity).2 fits
    rw [created] at pool
    cases pool
  | some emitters =>
    rw [ofConfig_eq_ok.2 ⟨emitters, pipeline, created, built, rfl⟩] at failed
    cases failed

/-- A session that does not start has a checkpoint that cannot be loaded, or is out of limits. -/
theorem of_start_eq_error (valid : config.validate = .ok ()) {error : StartError}
    (failed : start config stored clock = .error error) :
    (∃ path content cause, stored = some (path, content) ∧
      Checkpoint.load path content = .error cause ∧ error = .checkpoint cause) ∨
    ∃ fault, error = .setup fault ∧ ¬ config.FitsLimits stored.isSome clock := by
  rcases start_eq_error.1 failed with
    notMade | ⟨fresh, -, ⟨cause, notResumed, rfl⟩ | ⟨session, -, fault, timers, rfl⟩⟩
  · rcases of_ofConfig_eq_error valid notMade with ⟨rfl, tooLarge⟩
    exact .inr ⟨_, rfl, fun fits => tooLarge ⟨fits.queueCapacity, fits.workers⟩⟩
  · rcases of_resumed_eq_error notResumed with ⟨path, content, kept, unreadable⟩
    exact .inl ⟨path, content, cause, kept, unreadable, rfl⟩
  · refine .inr ⟨fault, rfl, fun fits => ?_⟩
    rw [(checkTimers_eq_ok (Config.positive_of_validate valid)).2 fits.timers] at timers
    cases timers

/-- Out of the limits no session starts, even without a checkpoint. -/
theorem exists_fault_of_not_fitsLimits (valid : config.validate = .ok ())
    (outOfLimits : ¬ config.FitsLimits false clock) :
    ∃ fault, start config none clock = .error (.setup fault) := by
  cases started : start config none clock with
  | ok session => exact absurd (fitsLimits_of_start valid started) outOfLimits
  | error error =>
    rcases of_start_eq_error valid started with ⟨_, _, _, kept, -⟩ | ⟨fault, rfl, -⟩
    · cases kept
    · exact ⟨fault, rfl⟩

/-! ## What validation promises -/

/--
A validated configuration makes a pipeline that has one evaluator for each definition, with
the grouping rules of this definition, and a flush schedule. A session with it starts only
within the limits of the queue, the workers and the timers, and within them nothing but a
checkpoint that cannot be loaded stops it.
-/
theorem validated_config_starts_within_limits {config : Config}
    (valid : config.validate = .ok ()) :
    ∃ pipeline, Pipeline.ofConfig config = .ok pipeline ∧
      pipeline.evaluators.keys.Perm (config.alerts.map AlertDefinition.id) ∧
      (∀ definition ∈ config.alerts,
        (∃ evaluator, Evaluator.ofDefinition definition = .ok evaluator ∧
          pipeline.evaluators.get? definition.id = some evaluator) ∧
        pipeline.grouper.rules.get? definition.id = definition.groupBy) ∧
      (∀ now, (FlushSchedule.startAt? pipeline.grouper.frequency now).isSome = true) ∧
      ∀ stored clock,
        (∀ session, start config stored clock = .ok session →
          config.FitsLimits stored.isSome clock) ∧
        ∀ error, start config stored clock = .error error →
          (∃ path content cause, stored = some (path, content) ∧
            Checkpoint.load path content = .error cause ∧ error = .checkpoint cause) ∨
          ∃ fault, error = .setup fault ∧ ¬ config.FitsLimits stored.isSome clock := by
  have buildable := Config.buildable_of_validate valid
  rcases Pipeline.exists_ofConfig buildable with ⟨pipeline, built, -⟩
  rcases Pipeline.grouper_of_ofConfig built with ⟨frequency, frequent, grouper⟩
  refine ⟨pipeline, built, Pipeline.keys_perm_of_ofConfig buildable built, ?_, ?_, ?_⟩
  · intro definition member
    rw [grouper]
    exact ⟨Pipeline.get?_of_mem_alerts buildable.distinct built member,
      buildable.get?_groupingRules member⟩
  · rw [grouper]
    exact FlushSchedule.isSome_startAt? frequent
  · intro stored clock
    exact ⟨fun _ started => fitsLimits_of_start valid started,
      fun _ failed => of_start_eq_error valid failed⟩

/-- A session of one alert and default settings starts while its clock can show the next minute. -/
theorem validated_config_starts_within_limits_grouped :
    let config : Config := { alerts := [{ id := 7, groupBy := some ["host"] }] }
    config.validate = .ok () ∧
      ∀ clock, clock + 60 ≤ timerLimit → ∃ session, start config none clock = .ok session := by
  intro config
  have valid : config.validate = .ok () := toOption_eq_some.1 (by decide +kernel)
  rcases validated_config_starts_within_limits valid with ⟨_, -, -, -, -, starts⟩
  refine ⟨valid, fun clock early => ?_⟩
  have fits : config.FitsLimits false clock :=
    ⟨by decide, by decide, fun period member => (List.mem_singleton.1 member) ▸ early⟩
  cases started : start config none clock with
  | ok session => exact ⟨session, rfl⟩
  | error error =>
    rcases (starts none clock).2 error started with ⟨_, _, _, kept, -⟩ | ⟨_, -, outOfLimits⟩
    · cases kept
    · exact absurd fits outOfLimits

/--
Files that are loaded as configurations although no session starts with them: a queue of
2^61 groups and a list of 2^63 - 1 workers cannot be created, and no timer waits for the
longest interval once its clock has moved.
-/
theorem loaded_config_does_not_start :
    (∃ config,
      Config.load "c.toml" (.bytes (Bytes.ofText
        "[emitter]\nqueue_capacity = 2305843009213693952\n")) = .ok config ∧
      ∀ clock, ∃ fault, start config none clock = .error (.setup fault)) ∧
    (∃ config,
      Config.load "c.toml" (.bytes (Bytes.ofText
        "[emitter]\nworkers = 9223372036854775807\n")) = .ok config ∧
      ∀ clock, ∃ fault, start config none clock = .error (.setup fault)) ∧
    ∃ config,
      Config.load "c.toml" (.bytes (Bytes.ofText
        "[evaluation]\ninterval_secs = 9223372036854775807\n")) = .ok config ∧
      ∀ clock, 0 < clock → ∃ fault, start config none clock = .error (.setup fault) := by
  refine ⟨?_, ?_, ?_⟩
  · let config : Config := { queueCapacity := 2305843009213693952 }
    have loaded : Config.load "c.toml" (.bytes (Bytes.ofText
        "[emitter]\nqueue_capacity = 2305843009213693952\n")) = .ok config :=
      toOption_eq_some.1 (by decide +kernel)
    refine ⟨config, loaded, fun clock => ?_⟩
    apply exists_fault_of_not_fitsLimits (Config.validate_of_load loaded)
    intro fits
    exact absurd fits.queueCapacity (by decide)
  · let config : Config := { workers := 9223372036854775807 }
    have loaded : Config.load "c.toml" (.bytes (Bytes.ofText
        "[emitter]\nworkers = 9223372036854775807\n")) = .ok config :=
      toOption_eq_some.1 (by decide +kernel)
    refine ⟨config, loaded, fun clock => ?_⟩
    apply exists_fault_of_not_fitsLimits (Config.validate_of_load loaded)
    intro fits
    exact absurd fits.workers (by decide)
  · let config : Config := { evaluationInterval := 9223372036854775807 }
    have loaded : Config.load "c.toml" (.bytes (Bytes.ofText
        "[evaluation]\ninterval_secs = 9223372036854775807\n")) = .ok config :=
      toOption_eq_some.1 (by decide +kernel)
    refine ⟨config, loaded, fun clock moved => ?_⟩
    apply exists_fault_of_not_fitsLimits (Config.validate_of_load loaded)
    intro fits
    have early : clock + timerLimit ≤ timerLimit := fits.timers _ List.mem_cons_self
    exact Nat.not_lt.2 early (Nat.lt_add_of_pos_left moved)

end Session

end Alerting
