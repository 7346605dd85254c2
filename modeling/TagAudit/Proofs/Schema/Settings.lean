import TagAudit.Proofs.Rule.Independence
import TagAudit.Proofs.Schema.RuleKeys
import TagAudit.Proofs.Text.Bytes

/-! What the entries of a document make of the settings: the last entry of a rule decides whether it
is in force, and entries of different rules do not look at each other. -/

namespace TagAudit

/-- What an entry says about the switch of its rule. -/
def RuleEntry.switch? : RuleEntry → Option Bool
  | .flag on => some on
  | .params p => p.enabled
  | .number _ | .text _ => none

namespace SchemaDocument

open Text

variable {document document' : SchemaDocument} {dimensions : Dimensions} {schema : Schema}
  {settings : RuleSettings} {rule other : RuleKey} {key : String} {entry : RuleEntry}
  {entries : List (String × RuleEntry)}

def step (settings : RuleSettings) (entry : String × RuleEntry) : RuleSettings :=
  match ruleOfKey? entry.1 with
  | some rule => apply settings rule entry.2
  | none => settings

theorem settings_eq (document : SchemaDocument) :
    document.settings = document.rules.toList.foldl step .default := by
  refine List.foldl_ext _ _ _ ?_
  rintro settings ⟨key, entry⟩ -
  cases found : ruleOfKey? key <;> simp only [step, found]

theorem step_of_addresses (addresses : Addresses key rule) :
    step settings (key, entry) = apply settings rule entry := by
  rw [step, ruleOfKey?_eq_some_iff.mpr addresses]

/-! Which rules are in force. -/

theorem enabled_apply_self :
    Schema.enabled ⟨dimensions, apply settings rule entry⟩ rule = entry.switch?.getD true := by
  cases rule <;> cases entry <;> rfl

theorem enabled_apply_of_ne (differ : rule ≠ other) :
    Schema.enabled ⟨dimensions, apply settings rule entry⟩ other =
      Schema.enabled ⟨dimensions, settings⟩ other := by
  cases rule <;> cases other <;> first | rfl | exact absurd rfl differ

theorem enabled_step_of_not_addresses (silent : ¬Addresses key rule) :
    Schema.enabled ⟨dimensions, step settings (key, entry)⟩ rule =
      Schema.enabled ⟨dimensions, settings⟩ rule := by
  unfold step
  split
  next addressed found =>
    refine enabled_apply_of_ne fun same => silent ?_
    exact same ▸ ruleOfKey?_eq_some_iff.mp found
  next => rfl

theorem enabled_default : Schema.enabled ⟨dimensions, .default⟩ rule = true := by
  cases rule <;> rfl

theorem enabled_foldl_eq_false_iff (sorted : entries.Pairwise fun a b => a.1 < b.1) :
    Schema.enabled ⟨dimensions, entries.foldl step .default⟩ rule = false ↔
      ∃ entry ∈ entries, Addresses entry.1 rule ∧ entry.2.switch? = some false ∧
        ∀ later ∈ entries, Addresses later.1 rule → entry.1 < later.1 →
          later.2.switch? = some false := by
  induction entries using List.reverseRecOn with
  | nil => simp [enabled_default]
  | append_singleton entries last induction =>
      obtain ⟨before, -, below⟩ := List.pairwise_append.mp sorted
      replace below : ∀ entry ∈ entries, entry.1 < last.1 := by simpa using below
      rw [List.foldl_append, List.foldl_cons, List.foldl_nil]
      by_cases addressed : Addresses last.1 rule
      · rw [step_of_addresses addressed, enabled_apply_self]
        have off : last.2.switch?.getD true = false ↔ last.2.switch? = some false := by
          cases last.2.switch? <;> simp
        rw [off]
        constructor
        · intro decides
          refine ⟨last, by simp, addressed, decides, fun later member _ less => ?_⟩
          rcases List.mem_append.mp member with early | same
          · exact absurd less (lt_asymm (below later early))
          · rwa [List.mem_singleton.mp same]
        · rintro ⟨entry, member, -, decides, after⟩
          rcases List.mem_append.mp member with early | same
          · exact after last (by simp) addressed (below entry early)
          · rwa [← List.mem_singleton.mp same]
      · rw [enabled_step_of_not_addresses addressed, induction before]
        constructor
        · rintro ⟨entry, member, addresses, decides, after⟩
          refine ⟨entry, List.mem_append_left _ member, addresses, decides, ?_⟩
          intro later member' addresses' less
          rcases List.mem_append.mp member' with early | same
          · exact after later early addresses' less
          · exact absurd (List.mem_singleton.mp same ▸ addresses') addressed
        · rintro ⟨entry, member, addresses, decides, after⟩
          rcases List.mem_append.mp member with early | same
          · exact ⟨entry, early, addresses, decides, fun later member' =>
              after later (List.mem_append_left _ member')⟩
          · exact absurd (List.mem_singleton.mp same ▸ addresses) addressed

/-- An entry switches a rule off, and so does every entry for the rule whose key comes after it in
the order of bytes. -/
def SwitchedOff (document : SchemaDocument) (rule : RuleKey) : Prop :=
  ∃ key entry, document.rules[key]? = some entry ∧ Addresses key rule ∧
    entry.switch? = some false ∧
    ∀ key' entry', document.rules[key']? = some entry' → Addresses key' rule →
      bytes key < bytes key' → entry'.switch? = some false

theorem enabled_settings_eq_false_iff :
    Schema.enabled ⟨dimensions, document.settings⟩ rule = false ↔ document.SwitchedOff rule := by
  have sorted : document.rules.toList.Pairwise fun a b => a.1 < b.1 :=
    Std.TreeMap.ordered_keys_toList.imp fun less => compare_lt_iff_lt.mp less
  rw [settings_eq, enabled_foldl_eq_false_iff sorted]
  simp only [SwitchedOff, bytes_lt_iff, Prod.exists, Prod.forall,
    Std.TreeMap.mem_toList_iff_getElem?_eq_some]

theorem eq_of_schema (made : document.schema = .ok schema) :
    schema = ⟨document.dimensionsOf, document.settings⟩ := by
  rw [SchemaDocument.schema] at made
  cases pattern : Pattern.read document.settings.validIdentifier.value with
  | error e => simp [pattern] at made
  | ok expr => simpa [pattern] using made.symm

theorem eq_of_read {text : String} (decoded : SchemaDocument.read text = .ok document)
    (read : Schema.read text = .ok schema) :
    schema = ⟨document.dimensionsOf, document.settings⟩ := by
  simp only [Schema.read, decoded, bind, Except.bind] at read
  exact eq_of_schema read

/-- A rule is out of force in the schema of a text exactly when an entry switches it off and no
later entry for it does anything else. -/
theorem enabled_read_eq_false_iff {text : String}
    (decoded : SchemaDocument.read text = .ok document) (read : Schema.read text = .ok schema)
    (rule : RuleKey) : schema.enabled rule = false ↔ document.SwitchedOff rule := by
  rw [eq_of_read decoded read]
  exact enabled_settings_eq_false_iff

theorem exists_read {text : String}
    (decoded : (SchemaDocument.read text).toOption.map (·.rules.toList) = some entries)
    (plain : (entries.foldl step .default).validIdentifier = RuleSettings.default.validIdentifier) :
    ∃ document schema, SchemaDocument.read text = .ok document ∧ Schema.read text = .ok schema ∧
      document.rules.toList = entries := by
  obtain ⟨document, found, rules⟩ := Option.map_eq_some_iff.mp decoded
  have read : SchemaDocument.read text = .ok document := by
    cases made : SchemaDocument.read text with
    | error e => simp [made, Except.toOption] at found
    | ok document' => simpa [made, Except.toOption] using found
  have pattern := Schema.read_defaultIdentifier
  rw [← plain, ← rules, ← settings_eq] at pattern
  refine ⟨document, ⟨document.dimensionsOf, document.settings⟩, read, ?_, rules⟩
  simp only [Schema.read, read, bind, Except.bind, SchemaDocument.schema, pattern]

theorem enabled_read_eq_false_iff_alias :
    let text := "tag_rules:\n  matching-close: 3\n  unclosed-threshold: false\n"
    ∃ document schema, SchemaDocument.read text = .ok document ∧ Schema.read text = .ok schema ∧
      document.SwitchedOff .matchingClose ∧ schema.enabled .matchingClose = false := by
  intro text
  have decoded : (SchemaDocument.read text).toOption.map (·.rules.toList) =
      some [("matching-close", .number 3), ("unclosed-threshold", .flag false)] := by
    decide +kernel
  obtain ⟨document, schema, read, made, rules⟩ := exists_read decoded rfl
  have off : document.SwitchedOff .matchingClose := by
    refine ⟨"unclosed-threshold", .flag false, ?_, ruleOfKey?_eq_some_iff.mp (by decide), rfl, ?_⟩
    · rw [← Std.TreeMap.mem_toList_iff_getElem?_eq_some, rules]
      simp
    · intro key entry found _ less
      rw [← Std.TreeMap.mem_toList_iff_getElem?_eq_some, rules] at found
      rcases List.mem_cons.mp found with first | last
      · cases first
        exact absurd (bytes_lt_iff.mp less) (by decide)
      · cases List.mem_singleton.mp last
        rfl
  exact ⟨document, schema, read, made, off, (enabled_read_eq_false_iff read made _).mpr off⟩

/-- A rule that is switched off is in force again when its alias gives a number. -/
theorem enabled_of_alias :
    let text := "tag_rules:\n  matching-close: false\n  unclosed-threshold: 10\n"
    ∃ document schema, SchemaDocument.read text = .ok document ∧ Schema.read text = .ok schema ∧
      (∃ key entry, document.rules[key]? = some entry ∧ Addresses key .matchingClose ∧
        entry.switch? = some false) ∧
      (∀ key entry, document.rules[key]? = some entry → Addresses key .matchingClose →
        entry.switch? ≠ some true) ∧
      schema.enabled .matchingClose = true := by
  intro text
  have decoded : (SchemaDocument.read text).toOption.map (·.rules.toList) =
      some [("matching-close", .flag false), ("unclosed-threshold", .number 10)] := by
    decide +kernel
  obtain ⟨document, schema, read, made, rules⟩ := exists_read decoded rfl
  refine ⟨document, schema, read, made, ⟨"matching-close", .flag false, ?_,
    ruleOfKey?_eq_some_iff.mp (by decide), rfl⟩, ?_, ?_⟩
  · rw [← Std.TreeMap.mem_toList_iff_getElem?_eq_some, rules]
    simp
  · intro key entry found _
    rw [← Std.TreeMap.mem_toList_iff_getElem?_eq_some, rules] at found
    rcases List.mem_cons.mp found with first | last
    · cases first
      simp [RuleEntry.switch?]
    · cases List.mem_singleton.mp last
      simp [RuleEntry.switch?]
  · rw [eq_of_read read made, settings_eq, rules]
    rfl

end SchemaDocument

end TagAudit
