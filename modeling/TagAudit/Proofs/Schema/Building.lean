import Mathlib.Data.List.Basic
import TagAudit.Check
import TagAudit.Schema.Loading

/-! Building the rules of a schema that is read from a text. -/

namespace TagAudit

namespace Schema

/-- What the default pattern asks: a letter, then letters, digits, `_` and `:`. -/
def defaultIdentifier : Pattern.Expr :=
  .sequence [
    .assertion .textStart,
    .oneOf ⟨[⟨0x41, 0x5A⟩, ⟨0x61, 0x7A⟩]⟩,
    -- The colon comes right after the digits.
    .repetition (.oneOf ⟨[⟨0x30, 0x3A⟩, ⟨0x41, 0x5A⟩, ⟨0x5F, 0x5F⟩, ⟨0x61, 0x7A⟩]⟩) 0 none,
    .assertion .textEnd]

theorem read_defaultIdentifier :
    Pattern.read RuleSettings.default.validIdentifier.value = .ok defaultIdentifier := by
  cbv

def defaultPattern : NamePattern :=
  ⟨RuleSettings.default.validIdentifier.value, .ofExpr defaultIdentifier⟩

theorem ofText_defaultPattern :
    NamePattern.ofText Schema.default.rules.validIdentifier.value = .ok defaultPattern := by
  rw [NamePattern.ofText, Schema.default, read_defaultIdentifier]
  rfl

theorem read_empty : Schema.read "" = .ok .default := by
  have blank : SchemaDocument.read "" = .ok .empty := rfl
  have settings : SchemaDocument.empty.settings = .default := rfl
  have dimensions : SchemaDocument.empty.dimensionsOf = Schema.defaultDimensions := rfl
  rw [Schema.read, blank]
  simp only [bind, Except.bind, SchemaDocument.schema, settings, dimensions,
    read_defaultIdentifier]
  rfl

/-- The schema of a run was read from a text, be it the empty one. -/
theorem exists_text_of_loadOrDefault (disk : Disk) (path : Option Path) :
    ∃ text, read text = .ok (loadOrDefault disk path) := by
  cases path with
  | none => exact ⟨"", read_empty⟩
  | some path =>
      rw [loadOrDefault]
      cases loaded : load disk path with
      | error e => exact ⟨"", read_empty⟩
      | ok schema =>
          rw [load] at loaded
          cases held : disk.readText path with
          | error e => simp [held] at loaded
          | ok text =>
              refine ⟨text, ?_⟩
              cases made : read text with
              | error e => simp [held, made, Except.mapError] at loaded
              | ok found => simpa [held, made, Except.mapError, Except.toOption] using loaded

end Schema

namespace Validator

variable {schema : Schema}

theorem exists_of_read {text : String} (read : Schema.read text = .ok schema) :
    ∃ validator, ofSchema schema = .ok validator := by
  simp only [Schema.read, bind, Except.bind] at read
  cases document? : SchemaDocument.read text with
  | error e => simp [document?] at read
  | ok document =>
      simp only [document?, SchemaDocument.schema] at read
      cases pattern : Pattern.read document.settings.validIdentifier.value with
      | error e => simp [pattern] at read
      | ok expr =>
          simp only [pattern, Except.ok.injEq] at read
          subst read
          simp only [ofSchema, identifierRules, NamePattern.ofText, pattern, bind, Except.bind,
            pure, Except.pure]
          cases document.settings.validIdentifier.enabled with
          | false => exact ⟨_, rfl⟩
          | true => exact ⟨_, rfl⟩

end Validator

namespace Checker

variable {schema : Schema} {checker : Checker}

theorem ofSchema_cases (built : ofSchema schema = .ok checker) :
    ∃ validator, Validator.ofSchema schema = .ok validator ∧
      checker = ⟨schema.scanOptions, validator⟩ := by
  rw [ofSchema] at built
  cases rules : Validator.ofSchema schema with
  | error e => simp [rules, Except.map] at built
  | ok validator => exact ⟨validator, rfl, by simpa [rules, Except.map] using built.symm⟩

theorem exists_of_read {text : String} (read : Schema.read text = .ok schema) :
    ∃ checker, ofSchema schema = .ok checker := by
  obtain ⟨validator, built⟩ := Validator.exists_of_read read
  exact ⟨⟨schema.scanOptions, validator⟩, by rw [ofSchema, built]; rfl⟩

end Checker

end TagAudit
