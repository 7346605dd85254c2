import TagAudit.Command
import TagAudit.Proofs.Config.Resolving
import TagAudit.Proofs.Schema.Building

/-! The exit code of a validation.  It says whether there are settings to run with, and if so
whether errors are enforced and there is one. -/

namespace TagAudit

namespace Report

theorem exitCode_eq (report : Report) (enforced : Bool)
    (counted : report.summary.errors = report.issues.countP (·.severity == .error)) :
    report.exitCode enforced =
      if enforced = true ∧ ∃ issue ∈ report.issues, issue.severity = .error then 1 else 0 := by
  rw [exitCode, counted]
  simp [List.countP_pos_iff]

end Report

namespace Command

variable {env : Environment} {targets : TargetOptions} {fix ci : Bool} {settings : Settings}
  {checker : Checker}

theorem withSettings_of_error {go : Settings → Outcome} {e : ConfigError}
    (failed : Settings.resolve env.disk (overrides targets ci) = .error e) :
    withSettings env targets ci go = fail env [] [] e.message := by
  unfold withSettings
  generalize Settings.resolve env.disk (overrides targets ci) = resolved at failed
  subst failed
  rfl

theorem withSettings_of_ok {go : Settings → Outcome}
    (resolved : Settings.resolve env.disk (overrides targets ci) = .ok settings) :
    withSettings env targets ci go = go settings := by
  unfold withSettings
  generalize Settings.resolve env.disk (overrides targets ci) = result at resolved
  subst resolved
  rfl

def finalReport (env : Environment) (settings : Settings) (targets : TargetOptions) (fix : Bool)
    (checker : Checker) : Report :=
  .ofFiles (checker.checkFiles fix env.disk (selected env.disk settings targets)).1

theorem validate_of_ok (fix : Bool)
    (resolved : Settings.resolve env.disk (overrides targets ci) = .ok settings)
    (built : Checker.ofSchema (Schema.loadOrDefault env.disk settings.schema) = .ok checker) :
    (validate env targets fix ci).exitCode =
        (finalReport env settings targets fix checker).exitCode settings.ci ∧
      (validate env targets fix ci).output =
        reportLines env settings (finalReport env settings targets fix checker) := by
  rw [validate, withSettings_of_ok resolved]
  simp only
  generalize Checker.ofSchema (Schema.loadOrDefault env.disk settings.schema) = result at built
  subst built
  exact ⟨rfl, rfl⟩

/-- The exit code of a validation is 2 when there are no settings to run with, and else 1 when
errors are enforced and the report holds one, and else 0.  The schema and the files that are
checked never make it 2, since the rules of the schema can always be built. -/
theorem exitCode_validate (env : Environment) (targets : TargetOptions) (fix ci : Bool) :
    let outcome := run env (.validate targets fix ci)
    let root := Settings.rootOf env.disk (overrides targets ci)
    let resolved := Settings.resolve env.disk (overrides targets ci)
    (∀ e, resolved = .error e ↔ Config.Hindrance env.disk root e) ∧
    ((outcome.exitCode = 2 ↔ ∃ e, resolved = .error e) ∧
      match resolved with
      | .error _ => outcome.exitCode = 2
      | .ok settings => ∃ loaded checker,
          Config.load env.disk root = .ok loaded ∧
          settings.ci = (ci || (loaded.bind Config.ci).getD false) ∧
          Checker.ofSchema (Schema.loadOrDefault env.disk settings.schema) = .ok checker ∧
          let report := finalReport env settings targets fix checker
          outcome.output = reportLines env settings report ∧
          (outcome.exitCode = if settings.ci = true ∧
            ∃ issue ∈ report.issues, issue.severity = .error then 1 else 0) ∧
          report.summary.errors = report.issues.countP (·.severity = .error) ∧
          report.summary.warnings = report.issues.countP (·.severity = .warning) ∧
          report.summary.infos = report.issues.countP (·.severity = .info)) ∧
    ∀ disk path, ∃ validator,
      Validator.ofSchema (Schema.loadOrDefault disk path) = .ok validator := by
  intro outcome root resolved
  refine ⟨fun e => Settings.resolve_eq_error_iff, ?_, fun disk path => ?_⟩
  · cases found : resolved with
    | error e =>
        have code : outcome.exitCode = 2 := by
          simp only [outcome, run, validate, withSettings_of_error found, fail]
        exact ⟨⟨fun _ => ⟨e, rfl⟩, fun _ => code⟩, code⟩
    | ok settings =>
        obtain ⟨text, read⟩ := Schema.exists_text_of_loadOrDefault env.disk settings.schema
        obtain ⟨checker, built⟩ := Checker.exists_of_read read
        obtain ⟨loaded, config, enforced⟩ := Settings.ci_of_resolve found
        obtain ⟨code, printed⟩ := validate_of_ok fix found built
        rw [Report.exitCode_eq _ _ rfl] at code
        refine ⟨⟨fun two => ?_, nofun⟩,
          loaded, checker, config, enforced, built, printed, code, rfl, rfl, rfl⟩
        rw [show outcome.exitCode = _ from code] at two
        split at two <;> cases two
  · obtain ⟨text, read⟩ := Schema.exists_text_of_loadOrDefault disk path
    exact Validator.exists_of_read read

end Command

end TagAudit
