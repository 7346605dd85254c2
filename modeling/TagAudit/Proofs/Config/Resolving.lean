import TagAudit.Config.Settings
import TagAudit.Proofs.List.Traversal

/-! Why a run may have no settings, and whether it enforces errors when it has them. -/

namespace TagAudit

namespace Config

def file? (disk : Disk) (root : Path) : Option String :=
  fileNames.find? fun name => disk.fileExists (root.join (.ofString name))

def excluded (loaded : Option Config) : List String :=
  (loaded.getD .empty).exclude.getD TargetFilter.defaultExclude

/-- What keeps a repository from having settings: its configuration file cannot be read, it
is no configuration, or one of the patterns to leave out is no pattern. -/
inductive Hindrance (disk : Disk) (root : Path) : ConfigError → Prop
  | unreadable {name : String} {cause : FileError} (found : file? disk root = some name)
      (refused : disk.readText (root.join (.ofString name)) = .error cause) :
      Hindrance disk root (.unreadable (root.join (.ofString name)) cause)
  | malformed {name text : String} {e : ConfigError} (found : file? disk root = some name)
      (read : disk.readText (root.join (.ofString name)) = .ok text)
      (refused : readFile (root.join (.ofString name)) name text = .error e) :
      Hindrance disk root e
  | badExclude {loaded : Option Config} {good rest : List String} {pattern : String}
      {cause : WildcardError} (read : load disk root = .ok loaded)
      (listed : excluded loaded = good ++ pattern :: rest)
      (accepted : ∀ pattern ∈ good, (Wildcard.read pattern.toList).isOk = true)
      (refused : Wildcard.read pattern.toList = .error cause) :
      Hindrance disk root (.badExclude ⟨pattern, cause⟩)

variable {disk : Disk} {root : Path}

theorem load_eq_error_iff {e : ConfigError} :
    load disk root = .error e ↔
      ∃ name, file? disk root = some name ∧
        ((∃ cause, disk.readText (root.join (.ofString name)) = .error cause ∧
            e = .unreadable (root.join (.ofString name)) cause) ∨
          ∃ text, disk.readText (root.join (.ofString name)) = .ok text ∧
            readFile (root.join (.ofString name)) name text = .error e) := by
  cases found : file? disk root with
  | none =>
      rw [load, show fileNames.find? _ = none from found]
      simp
  | some name =>
      rw [load, show fileNames.find? _ = some name from found]
      cases read : disk.readText (root.join (.ofString name)) with
      | error cause => simp [read, eq_comm]
      | ok text =>
          cases made : readFile (root.join (.ofString name)) name text with
          | error cause => simp [read, made, Except.map]
          | ok config => simp [read, made, Except.map]

end Config

namespace TargetFilter

theorem isOk_readExclude (pattern : String) :
    (readExclude pattern).isOk = (Wildcard.read pattern.toList).isOk := by
  rw [readExclude]
  cases Wildcard.read pattern.toList <;> rfl

theorem readExclude_eq_error_iff {pattern : String} {e : ExcludeError} :
    readExclude pattern = .error e ↔
      ∃ cause, Wildcard.read pattern.toList = .error cause ∧ e = ⟨pattern, cause⟩ := by
  rw [readExclude]
  cases Wildcard.read pattern.toList with
  | error cause => simp [Except.mapError, eq_comm]
  | ok wildcard => simp [Except.mapError]

end TargetFilter

namespace Settings

variable {disk : Disk} {overrides : Overrides} {settings : Settings}

theorem merge_eq_error_iff {root : Path} {loaded : Option Config} {e : ConfigError} :
    merge disk overrides root loaded = .error e ↔
      ∃ cause, (Config.excluded loaded).mapM TargetFilter.readExclude = .error cause ∧
        e = .badExclude cause := by
  rw [Config.excluded]
  simp only [merge, TargetFilter.read, bind, Except.bind, pure, Except.pure]
  generalize ((loaded.getD .empty).exclude.getD TargetFilter.defaultExclude).mapM
    TargetFilter.readExclude = read
  cases read with
  | error cause => simp [Except.mapError, eq_comm]
  | ok exclude => simp [Except.mapError]

theorem resolve_eq_error_iff {e : ConfigError} :
    resolve disk overrides = .error e ↔ Config.Hindrance disk (rootOf disk overrides) e := by
  have split : resolve disk overrides = .error e ↔
      Config.load disk (rootOf disk overrides) = .error e ∨
        ∃ loaded, Config.load disk (rootOf disk overrides) = .ok loaded ∧
          merge disk overrides (rootOf disk overrides) loaded = .error e := by
    simp only [resolve, bind, Except.bind]
    cases Config.load disk (rootOf disk overrides) <;> simp
  rw [split]
  constructor
  · rintro (failed | ⟨loaded, read, failed⟩)
    · obtain ⟨name, found, ⟨cause, refused, rfl⟩ | ⟨text, read, refused⟩⟩ :=
        Config.load_eq_error_iff.mp failed
      · exact .unreadable found refused
      · exact .malformed found read refused
    · obtain ⟨wrong, first, rfl⟩ := merge_eq_error_iff.mp failed
      obtain ⟨good, pattern, rest, listed, accepted, last⟩ := (mapM_eq_error_iff _).mp first
      obtain ⟨cause, refused, rfl⟩ := TargetFilter.readExclude_eq_error_iff.mp last
      simp only [TargetFilter.isOk_readExclude] at accepted
      exact .badExclude read listed accepted refused
  · intro hindrance
    cases hindrance with
    | unreadable found refused =>
        exact .inl (Config.load_eq_error_iff.mpr ⟨_, found, .inl ⟨_, refused, rfl⟩⟩)
    | malformed found read refused =>
        exact .inl (Config.load_eq_error_iff.mpr ⟨_, found, .inr ⟨_, read, refused⟩⟩)
    | badExclude read listed accepted refused =>
        refine .inr ⟨_, read, merge_eq_error_iff.mpr ⟨_, ?_, rfl⟩⟩
        simp only [← TargetFilter.isOk_readExclude] at accepted
        exact (mapM_eq_error_iff _).mpr ⟨_, _, _, listed, accepted,
          TargetFilter.readExclude_eq_error_iff.mpr ⟨_, refused, rfl⟩⟩

theorem ci_of_resolve (resolved : resolve disk overrides = .ok settings) :
    ∃ loaded, Config.load disk (rootOf disk overrides) = .ok loaded ∧
      settings.ci = (overrides.ci || (loaded.bind Config.ci).getD false) := by
  simp only [resolve, bind, Except.bind] at resolved
  cases loaded? : Config.load disk (rootOf disk overrides) with
  | error e => simp [loaded?] at resolved
  | ok loaded =>
      refine ⟨loaded, rfl, ?_⟩
      simp only [loaded?, merge, bind, Except.bind, pure, Except.pure] at resolved
      split at resolved
      next => simp at resolved
      next =>
        rw [← Except.ok.inj resolved]
        cases loaded <;> rfl

end Settings

end TagAudit
