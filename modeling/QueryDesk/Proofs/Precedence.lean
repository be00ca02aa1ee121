import QueryDesk.Proofs.RunPhases
import QueryDesk.Proofs.TextParts
import QueryDesk.Run.Errand

/-!
# Which setting counts

Command line, settings file, environment and what is usual meet in one run.

* `CommandLine.inForce`   the settings of a file, the environment and the options in their place;
* `CommandLine.Bases`     where the parameters of the connection come from that no option gives;
* `CommandLine.Faulty`    the file, the connection, the delay or the root is no good;
* `Precedence`            what counts, for every file.

**`CommandLine.settings_precedence`**: so it is for every command line, whatever the environment.
-/

namespace QueryDesk

/-- no variable is set -/
def Environment.none : Environment := fun _ => Option.none

namespace CommandLine

/-! ## the command line -/

/-- a command line with the password of the environment, if it has none of its own -/
def withPasswordOf (env : Environment) (options : CommandLine) : CommandLine :=
  { options with password := options.password.or (env passwordVariable) }

/-- of the environment a command line takes the password, and nothing else -/
theorem parse_eq_ok {env : Environment} {arguments : List String} {line : CommandLine}
    (h : parse env arguments = .ok line) :
    ∃ options, parse .none arguments = .ok options ∧ line = options.withPasswordOf env := by
  obtain ⟨⟨s, rest⟩, hscan, h⟩ := exists_of_bind_eq_ok h
  cases rest with
  | none =>
    obtain ⟨s', _, h⟩ := exists_of_bind_eq_ok h
    cases h
  | some word =>
    obtain ⟨command, hcommand, h⟩ := exists_of_bind_eq_ok h
    obtain ⟨s', hsettle, h⟩ := exists_of_bind_eq_ok h
    cases h
    simp only [parse, hscan, hcommand, hsettle, bind, Except.bind, pure, Except.pure]
    refine ⟨_, rfl, ?_⟩
    simp [withPasswordOf, Environment.none]

/-! ## the settings -/

/-- the settings of a file, with the environment and the options in their place -/
def inForce (line : CommandLine) (env : Environment) (s : Settings) : Settings :=
  line.override (s.fillFrom env)

/-! ## the connection -/

/-- what no option gives comes from here, and all of it -/
inductive Bases (line : CommandLine) (s : Settings) : ConnectionParams → Prop where
  | fresh {target user} (ht : line.target = some target) (hu : line.user = some user) :
    Bases line s (.fresh target user)
  | named {base} (ho : line.target = none ∨ line.user = none)
    (hb : s.connections.get? (line.connection.getD "default") = some base) : Bases line s base

section
variable {line : CommandLine} {s : Settings} {params : ConnectionParams}

theorem base_eq_ok_iff : line.base s = .ok params ↔ line.Bases s params := by
  constructor
  · intro h
    unfold base at h
    split at h
    · next ht hu =>
      cases h
      exact .fresh ht hu
    · next hno =>
      split at h
      · next hb =>
        cases h
        refine .named ?_ hb
        cases ht : line.target with
        | none => exact .inl rfl
        | some target =>
          cases hu : line.user with
          | none => exact .inr rfl
          | some user => exact absurd hu (hno target user ht)
      · cases h
  · intro h
    cases h with
    | fresh ht hu => simp only [base, ht, hu]
    | named ho hb =>
      have hb' : s.connection? line.connection = some params := hb
      unfold base
      split
      · next ht hu => simp [ht, hu] at ho
      · rw [hb']

theorem base_fails_iff : (∃ e, line.base s = .error e) ↔
    (line.target = none ∨ line.user = none) ∧
      s.connections.get? (line.connection.getD "default") = none := by
  show _ ↔ _ ∧ s.connection? line.connection = none
  unfold base
  cases ht : line.target <;> cases hu : line.user <;> cases s.connection? line.connection <;> simp

theorem connect_eq_ok_iff : line.connect s = .ok params ↔
    ∃ base, line.Bases s base ∧ params = line.overrideParams base := by
  unfold connect
  constructor
  · intro h
    cases hb : line.base s with
    | error e => rw [hb] at h; cases h
    | ok base =>
      rw [hb] at h
      cases h
      exact ⟨base, base_eq_ok_iff.mp hb, rfl⟩
  · rintro ⟨base, hb, rfl⟩
    rw [base_eq_ok_iff.mpr hb]
    rfl

theorem connect_fails_iff : (∃ e, line.connect s = .error e) ↔
    (line.target = none ∨ line.user = none) ∧
      s.connections.get? (line.connection.getD "default") = none := by
  rw [← base_fails_iff]
  unfold connect
  cases line.base s <;> simp [Except.map]

theorem bases_inForce_iff {env : Environment} :
    (line.withPasswordOf env).Bases ((line.withPasswordOf env).inForce env s) params ↔
      line.Bases s params := by
  constructor
  · intro h
    cases h with
    | fresh ht hu => exact .fresh ht hu
    | named ho hb => exact .named ho hb
  · intro h
    cases h with
    | fresh ht hu => exact .fresh ht hu
    | named ho hb => exact .named ho hb

end

/-! ## faults -/

/-- the file, or the connection, the delay or the root that follow from it, is no good -/
def Faulty (line : CommandLine) (env : Environment) (file : StoredFile) : Prop :=
  (∃ e, Settings.load (line.settingsPath env) file = .error e) ∨
    ∃ s, Settings.load (line.settingsPath env) file = .ok s ∧
      ((∃ e, line.connect (line.inForce env s) = .error e) ∨ (∃ e, line.killDelay = .error e) ∨
        ∃ e, (line.inForce env s).api.root = .error e)

end CommandLine

theorem Http.Client.ofSettings_eq (s : ApiSettings) :
    Http.Client.ofSettings s = s.root.map fun root => ⟨root, s.user, s.password, s.timeout⟩ := by
  unfold Http.Client.ofSettings
  cases s.root <;> rfl

/-- what a plan that is made holds -/
structure Plan.Made (env : Environment) (line : CommandLine) (s : Settings) (plan : Plan) :
    Prop where
  root : (line.inForce env s).api.root = .ok plan.client.root
  user : plan.client.user = (line.inForce env s).api.user
  password : plan.client.password = (line.inForce env s).api.password
  params : line.connect (line.inForce env s) = .ok plan.params

/-- of a file that holds settings -/
theorem Plan.make_of_load {env : Environment} {line : CommandLine} {file : StoredFile}
    {s : Settings} (hload : Settings.load (line.settingsPath env) file = .ok s) :
    Plan.make env line file = (line.connect (line.inForce env s)).bind fun params =>
      line.killDelay.bind fun delay =>
        (line.inForce env s).api.root.map fun root =>
          ⟨⟨root, (line.inForce env s).api.user, (line.inForce env s).api.password,
            (line.inForce env s).api.timeout⟩, params, s.query, line.command, delay⟩ := by
  have hin : line.override (s.fillFrom env) = line.inForce env s := rfl
  simp only [Plan.make, hload, hin, Http.Client.ofSettings_eq, bind, Except.bind]
  cases line.connect (line.inForce env s) with
  | error e => rfl
  | ok params =>
    cases line.killDelay with
    | error e => rfl
    | ok delay => cases (line.inForce env s).api.root <;> rfl

/-- a plan is made unless something is no good -/
theorem Plan.make_cases (env : Environment) (line : CommandLine) (file : StoredFile) :
    (line.Faulty env file ∧ ∃ e, Plan.make env line file = .error e) ∨
      (¬ line.Faulty env file ∧ ∃ s plan, Settings.load (line.settingsPath env) file = .ok s ∧
        Plan.make env line file = .ok plan ∧ Plan.Made env line s plan) := by
  unfold CommandLine.Faulty
  cases hload : Settings.load (line.settingsPath env) file with
  | error e =>
    refine .inl ⟨.inl ⟨e, rfl⟩, e, ?_⟩
    simp only [Plan.make, hload, bind, Except.bind]
  | ok s =>
    rw [Plan.make_of_load hload]
    cases hparams : line.connect (line.inForce env s) with
    | error e => exact .inl ⟨.inr ⟨s, rfl, .inl ⟨e, hparams⟩⟩, e, rfl⟩
    | ok params =>
      cases hdelay : line.killDelay with
      | error e => exact .inl ⟨.inr ⟨s, rfl, .inr (.inl ⟨e, rfl⟩)⟩, e, rfl⟩
      | ok delay =>
        cases hroot : (line.inForce env s).api.root with
        | error e => exact .inl ⟨.inr ⟨s, rfl, .inr (.inr ⟨e, hroot⟩)⟩, e, rfl⟩
        | ok root =>
          refine .inr ⟨?_, s, _, rfl, rfl, ⟨hroot, rfl, rfl, hparams⟩⟩
          rintro (⟨e, he⟩ | ⟨t, ht, hfault⟩)
          · cases he
          · cases ht
            rcases hfault with ⟨e, he⟩ | ⟨e, he⟩ | ⟨e, he⟩
            · rw [hparams] at he; cases he
            · cases he
            · rw [hroot] at he; cases he

/-! ## calls -/

namespace Run

theorem calls_opened (r : Run) (st : Session.Step) : r.calls <+: (r.opened st).calls := by
  unfold opened
  split
  · exact List.prefix_append ..
  · exact List.prefix_refl _
  · exact List.prefix_refl _
  · exact List.prefix_refl _

theorem calls_worked (r : Run) (w : WorksheetId) (tab : TabId) (stopper : Stopper)
    (st : Session.Step) : r.calls <+: (r.worked w tab stopper st).calls := by
  unfold worked
  split
  · exact List.prefix_append ..
  · exact List.prefix_refl _

theorem calls_closed (r : Run) (result : RunResult) (st : Session.Step) :
    r.calls <+: (r.closed result st).calls := by
  unfold closed
  split
  · exact List.prefix_append ..
  · exact List.prefix_refl _

theorem calls_giveUp (r : Run) : r.calls <+: r.giveUp.calls := by
  unfold giveUp
  split
  · split
    · split
      · exact calls_worked ..
      · exact List.prefix_refl _
    · exact List.prefix_refl _
  · exact List.prefix_refl _

theorem calls_stopped (r : Run) (st : Session.Step) : r.calls <+: (r.stopped st).calls := by
  unfold stopped
  split
  · exact List.prefix_append ..
  · next s' _ => exact calls_giveUp { r with session := s', phase := r.phase.withStopper .idle }

/-- a call that was made stays made -/
theorem calls_step (r : Run) (e : Event) : r.calls <+: (r.step e).calls := by
  cases e with
  | exchange x =>
    unfold step
    cases r.phase with
    | opening a => exact r.calls_opened _
    | working w tab a stopper => exact r.calls_worked w tab stopper _
    | closing a result => exact r.calls_closed result _
    | _ => exact List.prefix_refl _
  | proceed =>
    unfold step
    cases r.phase with
    | ready w tab stopper => exact r.calls_worked w tab stopper _
    | returned w tab outcome stopper => exact r.calls_closed _ _
    | _ => exact List.prefix_refl _
  | stopExchange x =>
    unfold step
    dsimp only
    split
    · exact r.calls_stopped _
    · exact List.prefix_refl _
  | awake =>
    unfold step
    dsimp only
    split
    · exact r.calls_stopped _
    · exact List.prefix_refl _

theorem calls_begin (plan : Plan) : (begin plan).calls = [.connect plan.params] := rfl

theorem calls_after (r : Run) (events : List Event) : r.calls <+: (r.after events).calls := by
  induction events generalizing r with
  | nil => exact List.prefix_refl _
  | cons e events ih => exact (r.calls_step e).trans (ih (r.step e))

end Run

namespace Errand

theorem after_refused (e : ConsoleError) (events : List Event) :
    (refused e).after events = .refused e := by
  induction events with
  | nil => rfl
  | cons x events ih => exact ih

theorem after_running (r : Run) (events : List Event) :
    (running r).after events = .running (r.after events) := by
  induction events generalizing r with
  | nil => rfl
  | cons x events ih => exact ih (r.step x)

theorem start_of_error {env : Environment} {line : CommandLine} {file : StoredFile}
    {e : ConsoleError} (h : Plan.make env line file = .error e) :
    start env line file = .refused e := by
  rw [start, h]

theorem start_of_ok {env : Environment} {line : CommandLine} {file : StoredFile} {plan : Plan}
    (h : Plan.make env line file = .ok plan) : start env line file = .running (.begin plan) := by
  rw [start, h]

end Errand

/-! ## what counts -/

/-- the options are those of a command line that is read without an environment -/
structure Precedence (env : Environment) (options line : CommandLine) : Prop where
  /-- an option goes before the file, that before the environment, unless it says what is usual -/
  baseUrl : ∀ s, (line.inForce env s).api.baseUrl =
    options.apiUrl.getD (if s.api.baseUrl ≠ ApiSettings.defaultUrl then s.api.baseUrl
      else (env "CONSOLE_API_URL").getD ApiSettings.defaultUrl)
  user : ∀ s, (line.inForce env s).api.user = s.api.user.or (env "CONSOLE_API_USER")
  password : ∀ s, (line.inForce env s).api.password = s.api.password.or (env "CONSOLE_API_PASSWORD")
  fails : ∀ s, (∃ e, line.connect (line.inForce env s) = .error e) ↔
    (options.target = none ∨ options.user = none) ∧
      s.connections.get? (options.connection.getD "default") = none
  connects : ∀ s params, line.connect (line.inForce env s) = .ok params ↔
    ∃ base, options.Bases s base ∧ params.target = options.target.getD base.target ∧
      params.user = options.user.getD base.user ∧
      params.password = (options.password.or (env "CONSOLE_SQL_PASSWORD")).getD base.password ∧
      params.db = options.db.or base.db ∧ params.timeout = base.timeout
  /-- whatever happens to it, the errand makes no call -/
  refused : ∀ file, line.Faulty env file → ∃ e : ConsoleError, ∀ events names,
    ((Errand.start env line file).after events).calls = [] ∧
      ((Errand.start env line file).after events).report? names = some (.ofFailure e.message)
  /-- the first call is for the connection that is meant, below the root that is meant -/
  carriedOut : ∀ file, ¬ line.Faulty env file → ∃ s plan,
    Settings.load (line.settingsPath env) file = .ok s ∧ Plan.Made env line s plan ∧
      Errand.start env line file = .running (.begin plan) ∧ ∀ events,
        [.connect plan.params] <+: ((Errand.start env line file).after events).calls

namespace CommandLine

/-- **Which setting counts.** -/
theorem settings_precedence (env : Environment) (arguments : List String) (line : CommandLine)
    (h : parse env arguments = .ok line) :
    ∃ options, parse .none arguments = .ok options ∧ Precedence env options line := by
  obtain ⟨options, hoptions, rfl⟩ := parse_eq_ok h
  refine ⟨options, hoptions, ?_, fun _ => rfl, fun _ => rfl, fun _ => connect_fails_iff, ?_, ?_, ?_⟩
  · intro s
    show options.apiUrl.getD _ = options.apiUrl.getD _
    by_cases hurl : s.api.baseUrl = ApiSettings.defaultUrl
    · simp [Settings.fillFrom, ApiSettings.fillFrom, hurl]
    · simp [Settings.fillFrom, ApiSettings.fillFrom, hurl]
  · intro s params
    rw [connect_eq_ok_iff]
    constructor
    · rintro ⟨base, hbase, rfl⟩
      exact ⟨base, bases_inForce_iff.mp hbase, rfl, rfl, rfl, rfl, rfl⟩
    · rintro ⟨base, hbase, htarget, huser, hpassword, hdb, htimeout⟩
      refine ⟨base, bases_inForce_iff.mpr hbase, ?_⟩
      cases params
      cases htarget; cases huser; cases hpassword; cases hdb; cases htimeout
      rfl
  · intro file hfaulty
    rcases Plan.make_cases env (options.withPasswordOf env) file with ⟨_, e, he⟩ | ⟨hno, _⟩
    · refine ⟨e, fun events names => ?_⟩
      rw [Errand.start_of_error he, Errand.after_refused]
      exact ⟨rfl, rfl⟩
    · exact absurd hfaulty hno
  · intro file hsound
    rcases Plan.make_cases env (options.withPasswordOf env) file with
      ⟨hfaulty, _⟩ | ⟨_, s, plan, hload, hplan, hmade⟩
    · exact absurd hfaulty hsound
    · have hstart := Errand.start_of_ok hplan
      refine ⟨s, plan, hload, hmade, hstart, fun events => ?_⟩
      rw [hstart, Errand.after_running, ← Run.calls_begin plan]
      exact Run.calls_after (.begin plan) events

/-- a named connection of the file, with the target of an option and the password of the
environment -/
theorem settings_precedence_of_target :
    let env : Environment := .ofList [("CONSOLE_SQL_PASSWORD", "secret")]
    let line : CommandLine :=
      ⟨none, some "replica", none, some "server2", none, some "secret", none, false,
        .query "SELECT 1" none⟩
    let arguments := ["query-console", "-c", "replica", "--target=server2", "query", "SELECT 1"]
    parse env arguments = .ok line ∧
      ∃ options, parse .none arguments = .ok options ∧ Precedence env options line := by
  intro env line arguments
  have h : parse env arguments = .ok line := by decide +kernel
  exact ⟨h, settings_precedence env arguments line h⟩

end CommandLine

end QueryDesk
