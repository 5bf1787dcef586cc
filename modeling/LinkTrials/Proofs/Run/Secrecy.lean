import LinkTrials.Proofs.Run.Ending
import LinkTrials.Proofs.Settings.Veil

/-!
The password is not disclosed.

Whatever the loggers make of it, a run is the entries that it hands to them and the way it ends: its
account. The clock shows in an account only as the time of the entries and of the report, and the
settings only as they are under the veil. So runs that differ in the password alone have the same
account but for the time, and write the same lines if they have the same clock and session.
-/
namespace LinkTrials

open Log

def Log.Entry.stamped (t : Instant) (e : Entry) : Entry := { e with time := t }

def Report.stamped (t : Instant) (r : Report) : Report := { r with generatedAt := t }

/-- The host with another clock and another identity of the run. -/
def Host.stamped (t : Instant) (session : String) (host : Host) : Host :=
  { host with now := t, session := session }

namespace Evaluator

theorem evaluate_stamped (e : Evaluator) (m : Samples) (now t : Instant) :
    e.evaluate m t = (e.evaluate m now).stamped t := rfl

theorem evaluate_veiled (s : Settings) (first second : PhaseTimeouts) (m : Samples)
    (now : Instant) :
    (Evaluator.mk s.veiled first second).evaluate m now =
      (Evaluator.mk s first second).evaluate m now := rfl

end Evaluator

namespace Run

/-! ### Accounts -/

/-- What a run hands to its logger, and how it ends. -/
structure Account where
  /-- The entries before the name of the run is known. -/
  opening : List Entry
  /-- The name of the run, which is a field of every later entry. -/
  label : Option String
  later : List Entry
  ending : Except (Halt Fault) Report

/-- The logger with the name of the run, if it is known. -/
def named (label : Option String) (l : Logger) : Logger :=
  match label with
  | none => l
  | some label => l.withContext "alias" (.string label)

namespace Account

/-- The lines that a logger writes. -/
def lines (l : Logger) (a : Account) : List String :=
  written l a.opening ++ written (named a.label l) a.later

def stamped (t : Instant) (a : Account) : Account where
  opening := a.opening.map (Entry.stamped t)
  label := a.label
  later := a.later.map (Entry.stamped t)
  ending := a.ending.map (Report.stamped t)

end Account

section Proceedings

variable (l : Logger) (folder : Folder) (path : String)

/-- What is behind the settings of a run: the entries, and how it ends. -/
def proceedings (placing : Json.Placing) (now : Instant) (s : Settings) :
    List Entry × Except Fault Report :=
  match s.review with
  | .error violation => ([], .error violation.toFault)
  | .ok concerns =>
    let opening := concernEntries l now concerns ++ [settingsEntry l now s]
    match loadTrials placing folder path with
    | .error fault => (opening, .error fault)
    | .ok trials =>
      let report := (Evaluator.mk s {} {}).evaluate (.ofTrials trials) now
      (opening ++ trialsEntry l now trials.length path ::
        (trialEntries l now trials ++ l.reportEntries now report), .ok report)

/-- The account of a run with these settings, or of one that has none. -/
def accountOf (build : Build) (now : Instant) :
    Except (Halt Settings.SourceFault) Settings → Account
  | .error (.panic panic) =>
    { opening := [openingEntry l now build]
      label := none
      later := []
      ending := .error (.panic panic) }
  | .error (.fault source) =>
    let fault := source.toFault build.placing
    { opening := [openingEntry l now build]
      label := none
      later := [l.faultEntry now fault]
      ending := .error (.fault fault) }
  | .ok s =>
    let rest := proceedings (named (some s.label) l) folder path build.placing now s
    { opening := [openingEntry l now build]
      label := some s.label
      later := rest.1
      ending := rest.2.mapError .fault }

end Proceedings

/-- The account of a run over the trials in a file. -/
def account (l : Logger) (options : Options) (path : String) (host : Host) : Account :=
  accountOf l host.folder path host.build host.now (Program.settings options host)

/-- The logger of a run. -/
def loggerOf (options : Options) (host : Host) : Logger :=
  .ofRun options.verbose options.debug (options.usesColour host.env) host.session

/-- A report as a run comes to it. -/
def delivered (options : Options) (styled : Bool) (r : Report) : Outcome :=
  ⟨r, r.render options.format styled⟩

theorem evaluateFile_eq (path : String) (options : Options) (host : Host) (styled : Bool)
    (l : Logger) (s : Settings) :
    evaluateFile path options host styled l s =
      (written l (proceedings l host.folder path host.build.placing host.now s).1,
        (proceedings l host.folder path host.build.placing host.now s).2.map
          (delivered options styled)) := by
  rw [evaluateFile, proceedings]
  cases s.review with
  | error violation => rfl
  | ok concerns =>
      dsimp only
      cases loadTrials host.build.placing host.folder path with
      | error fault => rfl
      | ok trials => rfl

/-- A run writes its account and ends as it says. -/
theorem perform_eq_account {options : Options} {path : String} (asked : options.trials = some path)
    (host : Host) :
    let l := loggerOf options host
    (perform options host).log = (account l options path host).lines l ∧
      (perform options host).ending = (account l options path host).ending.map
        (delivered options (Program.styled options host)) := by
  rw [perform, asked]
  dsimp only
  rw [ofFile, account, Program.settings, Program.styled]
  cases Settings.load options host.folder host.env with
  | mk env settled =>
      cases settled with
      | error halt =>
          cases halt with
          | fault fault => exact ⟨rfl, rfl⟩
          | panic panic => exact ⟨(List.append_nil _).symm, rfl⟩
      | ok s =>
          dsimp only [accountOf, Account.lines, named, loggerOf]
          rw [evaluateFile_eq]
          dsimp only
          exact ⟨rfl, mapError_map ..⟩

/-! ### Clocks -/

theorem concernEntries_stamped (l : Logger) (now t : Instant) (concerns : List Concern) :
    (concernEntries l now concerns).map (Entry.stamped t) = concernEntries l t concerns := by
  rw [concernEntries, concernEntries, List.map_map]
  rfl

theorem trialsEntry_stamped (l : Logger) (now t : Instant) (count : Nat) (path : String) :
    trialsEntry l t count path = (trialsEntry l now count path).stamped t := rfl

theorem trialEntries_stamped (l : Logger) (now t : Instant) (trials : List Trial) :
    (trialEntries l now trials).map (Entry.stamped t) = trialEntries l t trials := by
  rw [trialEntries, trialEntries, List.mapIdx_eq_zipIdx_map, List.mapIdx_eq_zipIdx_map,
    List.map_map]
  rfl

theorem reportEntries_stamped (l : Logger) (now t : Instant) (r : Report) :
    (l.reportEntries now r).map (Entry.stamped t) = l.reportEntries t (r.stamped t) := by
  rw [Logger.reportEntries, Logger.reportEntries, List.map_append, List.map_map]
  rfl

theorem proceedings_stamped (l : Logger) (folder : Folder) (path : String)
    (placing : Json.Placing) (now t : Instant) (s : Settings) :
    proceedings l folder path placing t s =
      ((proceedings l folder path placing now s).1.map (Entry.stamped t),
        (proceedings l folder path placing now s).2.map (Report.stamped t)) := by
  rw [proceedings, proceedings]
  cases s.review with
  | error violation => rfl
  | ok concerns =>
      have opening : concernEntries l t concerns ++ [settingsEntry l t s] =
          (concernEntries l now concerns ++ [settingsEntry l now s]).map (Entry.stamped t) := by
        rw [List.map_append, concernEntries_stamped]
        rfl
      dsimp only
      cases loadTrials placing folder path with
      | error fault =>
          dsimp only [Except.map]
          rw [opening]
      | ok trials =>
          dsimp only [Except.map]
          rw [opening, Evaluator.evaluate_stamped _ _ now t, ← trialEntries_stamped l now t,
            ← reportEntries_stamped l now t, trialsEntry_stamped l now t]
          simp only [List.map_append, List.map_cons]

theorem accountOf_stamped (l : Logger) (folder : Folder) (path : String) (build : Build)
    (now t : Instant) (settled : Except (Halt Settings.SourceFault) Settings) :
    accountOf l folder path build t settled =
      (accountOf l folder path build now settled).stamped t := by
  cases settled with
  | error halt => cases halt <;> rfl
  | ok s =>
      rw [accountOf, accountOf, proceedings_stamped _ _ _ _ now t, Account.stamped]
      dsimp only
      rw [mapError_map]
      rfl

/-! ### Passwords -/

theorem proceedings_veiled (l : Logger) (folder : Folder) (path : String)
    (placing : Json.Placing) (now : Instant) (s : Settings) :
    proceedings l folder path placing now s.veiled = proceedings l folder path placing now s := by
  rw [proceedings, proceedings, Settings.review_veiled]
  simp only [settingsEntry, Settings.summary_veiled, Evaluator.evaluate_veiled]

theorem accountOf_veiled (l : Logger) (folder : Folder) (path : String) (build : Build)
    (now : Instant) (settled : Except (Halt Settings.SourceFault) Settings) :
    accountOf l folder path build now (settled.map Settings.veiled) =
      accountOf l folder path build now settled := by
  cases settled with
  | error halt => rfl
  | ok s =>
      have label : s.veiled.label = s.label := rfl
      change accountOf l folder path build now (.ok s.veiled) = _
      rw [accountOf, accountOf, proceedings_veiled, label]

/-- Two hosts that agree but for the clock, the identity of the run and the text of the password,
which is there both times; the folder has no dotfile. -/
structure SharesRest (host host' : Host) : Prop where
  folder : host.folder = host'.folder
  build : host.build = host'.build
  styling : host.styling = host'.styling
  missing : host.folder.contains Settings.dotfilePath = false
  texts : Settings.SharesRest host.env.text? host'.env.text?

variable {host host' : Host}

theorem SharesRest.usesColour (h : SharesRest host host') (options : Options) :
    options.usesColour host.env = options.usesColour host'.env := by
  rw [Options.usesColour, Options.usesColour, h.texts.others "TERM" (by decide),
    h.texts.others "NO_COLOR" (by decide)]

theorem SharesRest.enabled (h : SharesRest host host') :
    host.styling.enabled host.env = host'.styling.enabled host'.env := by
  have switch (name : String) (other : name ≠ Variable.password.name) :
      Styling.switch? host.env name = Styling.switch? host'.env name := by
    rw [Styling.switch?, Styling.switch?, h.texts.others name other]
  rw [h.styling]
  cases host'.styling with
  | always => rfl
  | detect isTerminal =>
      rw [Styling.enabled, Styling.enabled, switch "CLICOLOR_FORCE" (by decide),
        switch "NO_COLOR" (by decide), switch "CLICOLOR" (by decide)]

theorem SharesRest.styled (h : SharesRest host host') (options : Options) :
    Program.styled options host = Program.styled options host' := by
  have missing' : host'.folder.contains Settings.dotfilePath = false := h.folder ▸ h.missing
  rw [Program.styled, Program.styled, Settings.load_of_missing h.missing,
    Settings.load_of_missing missing', h.usesColour, h.enabled]

theorem SharesRest.settings (h : SharesRest host host') (options : Options) :
    (Program.settings options host).map Settings.veiled =
      (Program.settings options host').map Settings.veiled := by
  rw [Program.settings, Program.settings, ← h.folder]
  exact Settings.load_veiled h.missing h.texts options

theorem SharesRest.stamped (h : SharesRest host host') (t : Instant) (session : String) :
    SharesRest (host.stamped t session) (host'.stamped t session) :=
  ⟨h.folder, h.build, h.styling, h.missing, h.texts⟩

theorem SharesRest.account_eq (h : SharesRest host host') (clock : host.now = host'.now)
    (l : Logger) (options : Options) (path : String) :
    account l options path host = account l options path host' := by
  rw [account, account, ← accountOf_veiled, h.settings options, accountOf_veiled, h.folder,
    h.build, clock]

theorem SharesRest.account_stamped_eq (h : SharesRest host host') (l : Logger) (options : Options)
    (path : String) (t : Instant) :
    (account l options path host).stamped t = (account l options path host').stamped t := by
  have same := (h.stamped t "").account_eq rfl l options path
  rw [account, account] at same ⊢
  rw [← accountOf_stamped, ← accountOf_stamped]
  exact same

/-- With the same clock and the same identity, two runs do the same. -/
theorem SharesRest.perform_eq (h : SharesRest host host') (clock : host.now = host'.now)
    (session : host.session = host'.session) (options : Options) :
    (perform options host).log = (perform options host').log ∧
      (perform options host).ending = (perform options host').ending := by
  cases asked : options.trials with
  | none =>
      rw [Run.perform, Run.perform, asked]
      exact ⟨rfl, rfl⟩
  | some path =>
      have logger : loggerOf options host = loggerOf options host' := by
        rw [loggerOf, loggerOf, h.usesColour, session]
      obtain ⟨lines, ending⟩ := perform_eq_account asked host
      obtain ⟨lines', ending'⟩ := perform_eq_account asked host'
      rw [logger, h.account_eq clock] at lines ending
      exact ⟨lines.trans lines'.symm, by rw [ending, ending', h.styled]⟩

/-- The password is not disclosed. Runs with two passwords do the same on one clock, in every line
and in their ends. On clocks of their own, they hand the same entries to any logger and come to the
same report but for the time, and that is all that is written and delivered. What is said about
settings, the verdict and the whole account are those of the settings under the veil. -/
theorem perform_conceals_password (h : SharesRest host host') (options : Options) :
    (∀ t session,
      (perform options (host.stamped t session)).log =
          (perform options (host'.stamped t session)).log ∧
        (perform options (host.stamped t session)).ending =
          (perform options (host'.stamped t session)).ending) ∧
    (∀ l path t,
      (account l options path host).stamped t = (account l options path host').stamped t) ∧
    (∃ styled, ∀ path, options.trials = some path → ∀ x ∈ [host, host'],
        let l := loggerOf options x
        (perform options x).log = (account l options path x).lines l ∧
          (perform options x).ending =
            (account l options path x).ending.map (delivered options styled)) ∧
    ∀ s : Settings,
      s.review = s.veiled.review ∧ s.summary = s.veiled.summary ∧
        (∀ first second m now, (Evaluator.mk s first second).evaluate m now =
          (Evaluator.mk s.veiled first second).evaluate m now) ∧
        ∀ l folder path build now, accountOf l folder path build now (.ok s) =
          accountOf l folder path build now (.ok s.veiled) := by
  refine ⟨fun t session => (h.stamped t session).perform_eq rfl rfl options,
    fun l path t => h.account_stamped_eq l options path t,
    ⟨Program.styled options host, ?_⟩, fun s => ⟨?_, ?_, ?_, ?_⟩⟩
  · intro path asked x member
    have same : Program.styled options x = Program.styled options host := by
      obtain rfl | rfl : x = host ∨ x = host' := by simpa using member
      · rfl
      · exact (h.styled options).symm
    rw [← same]
    exact perform_eq_account asked x
  · exact (Settings.review_veiled s).symm
  · exact (Settings.summary_veiled s).symm
  · intro first second m now
    exact (Evaluator.evaluate_veiled s first second m now).symm
  · intro l folder path build now
    exact (accountOf_veiled l folder path build now (.ok s)).symm

/-- A host on which the password alone is set. -/
def secretive (password : String) : Host :=
  { Program.idle with env := ({} : Environment).set Variable.password.name password }

theorem sharesRest_secretive {password password' : String} (h : password.isEmpty = false)
    (h' : password'.isEmpty = false) : SharesRest (secretive password) (secretive password') where
  folder := rfl
  build := rfl
  styling := rfl
  missing := rfl
  texts :=
    { others := fun name other => by
        rw [secretive, secretive, Environment.text?_set_of_ne _ _ other,
          Environment.text?_set_of_ne _ _ other]
      there := ⟨password, Environment.text?_set .., h⟩
      there' := ⟨password', Environment.text?_set .., h'⟩ }

/-- That there is a password is worth a line of the log, which is the same for two of them. -/
theorem perform_conceals_password_of_two :
    let options : Options := { trials := some "t.json", debug := true }
    (perform options Program.idle).log.length = 4 ∧
      (perform options (secretive "hunter2")).log.length = 5 ∧
      (perform options (secretive "hunter2")).log =
        (perform options (secretive "swordfish")).log := by
  intro options
  have h : SharesRest (secretive "hunter2") (secretive "swordfish") :=
    sharesRest_secretive (by decide) (by decide)
  have here (password : String) :
      (secretive password).stamped .epoch "" = secretive password := rfl
  have lines := ((perform_conceals_password h options).1 .epoch "").1
  rw [here, here] at lines
  exact ⟨by decide +kernel, by decide +kernel, lines⟩

end Run

end LinkTrials
