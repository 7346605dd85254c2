import Mathlib.Data.List.Forall2
import TagAudit.Proofs.Text.Lowering
import TagAudit.Proofs.Text.Trimming
import TagAudit.Schema.Document

/-! The keys that address a rule: its names in any ASCII case, with underscores for hyphens, between
blanks. -/

namespace TagAudit

/-- The names of a rule, an alias among them.  They are written out once more here, so that
what addresses a rule does not follow from what the reader of a document looks for. -/
def RuleKey.names : RuleKey → List String
  | maxTagsPerFile => ["max-tags-per-file"]
  | matchingClose => ["matching-close", "unclosed-threshold"]
  | validIdentifier => ["valid-identifier", "naming-pattern"]
  | componentRequired => ["component-required"]
  | noDuplicates => ["no-duplicates"]
  | knownDimensionValue => ["known-dimension-value"]

theorem RuleKey.goesBy_iff {rule : RuleKey} {name : String} :
    rule.goesBy name = true ↔ name ∈ rule.names := by
  cases rule <;> simp [goesBy, id, alias?, names, @eq_comm _ name]

theorem RuleKey.eq_of_mem_names {rule other : RuleKey} {name : String}
    (first : name ∈ rule.names) (second : name ∈ other.names) : rule = other := by
  by_contra differ
  have apart : ∀ name ∈ rule.names, name ∉ other.names := by
    revert differ
    cases rule <;> cases other <;> decide
  exact apart name first second

namespace SchemaDocument

open Text

def StandsFor (c d : Char) : Prop :=
  asciiLower c = d ∨ c = '_' ∧ d = '-'

def Spells (key name : String) : Prop :=
  ∃ before spelled after, key.toList = before ++ (spelled ++ after) ∧
    (∀ c ∈ before ++ after, isBlank c) ∧ List.Forall₂ StandsFor spelled name.toList

def Addresses (key : String) (rule : RuleKey) : Prop :=
  ∃ name ∈ rule.names, Spells key name

variable {key name : String} {rule : RuleKey} {c d : Char} {spelled text : List Char}

/-! One character, and the characters between the blanks. -/

theorem asciiLower_of_isBlank (blank : isBlank c) : asciiLower c = c := by
  apply asciiLower_of_small
  rw [Bool.eq_false_iff, ne_eq, isAsciiCapital_iff]
  intro capital
  simp only [isBlank, Bool.or_eq_true, Bool.and_eq_true, decide_eq_true_eq, beq_iff_eq] at blank
  omega

theorem StandsFor.visible (stands : StandsFor c d) (visible : isBlank d = false) :
    isBlank c = false := by
  rcases stands with lower | ⟨rfl, -⟩
  · by_contra blank
    rw [Bool.not_eq_false] at blank
    rw [← lower, asciiLower_of_isBlank blank, blank] at visible
    cases visible
  · decide

theorem standsFor_iff (plain : d ≠ '_') :
    StandsFor c d ↔ (if c = '_' then '-' else asciiLower c) = d := by
  unfold StandsFor
  split
  next underscore =>
    have same : asciiLower '_' = '_' := by decide
    rw [underscore, same, or_iff_right plain.symm, and_iff_right rfl, eq_comm]
  next other => exact or_iff_left fun same => other same.1

theorem forall₂_standsFor_iff (plain : '_' ∉ text) :
    List.Forall₂ StandsFor spelled text ↔
      (spelled.map fun c => if c = '_' then '-' else asciiLower c) = text := by
  induction text generalizing spelled with
  | nil => rw [List.forall₂_nil_right_iff, List.map_eq_nil_iff]
  | cons d text induction =>
      rw [List.mem_cons, not_or] at plain
      cases spelled with
      | nil => simp
      | cons c spelled =>
          rw [List.forall₂_cons, standsFor_iff (Ne.symm plain.1), induction plain.2,
            List.map_cons, List.cons.injEq]

theorem visible_of_forall₂ (spells : List.Forall₂ StandsFor spelled text)
    (visible : ∀ d ∈ text, isBlank d = false) : ∀ c ∈ spelled, isBlank c = false := by
  induction spells with
  | nil => simp
  | cons stands _ induction =>
      rw [List.forall_mem_cons] at visible ⊢
      exact ⟨stands.visible visible.1, induction visible.2⟩

/-! Keys. -/

theorem plain_of_mem_names (named : name ∈ rule.names) :
    '_' ∉ name.toList ∧ ∀ c ∈ name.toList, isBlank c = false := by
  have all : rule.names.all fun name => name.toList.all fun c => c != '_' && !isBlank c := by
    cases rule <;> cbv
  have plain := List.all_eq_true.mp (List.all_eq_true.mp all name named)
  simp only [Bool.and_eq_true, bne_iff_ne, Bool.not_eq_true'] at plain
  exact ⟨fun underscore => (plain _ underscore).1 rfl, fun c member => (plain c member).2⟩

theorem normalizeKey_eq_iff (named : name ∈ rule.names) :
    normalizeKey key = name ↔ Spells key name := by
  obtain ⟨plain, visible⟩ := plain_of_mem_names named
  unfold normalizeKey
  rw [← String.toList_inj, String.toList_ofList, ← forall₂_standsFor_iff plain]
  constructor
  · intro spells
    obtain ⟨before, after, whole, blank⟩ := exists_trim key.toList
    exact ⟨before, _, after, whole, blank, spells⟩
  · rintro ⟨before, spelled, after, whole, blank, spells⟩
    rw [List.forall_mem_append] at blank
    rw [whole, trim, trimStart_of_blanks_append blank.1, ← trim, trim_append_blanks _ blank.2,
      trim_of_visible (visible_of_forall₂ spells visible)]
    exact spells

theorem ruleOfKey?_eq_some_iff_names :
    ruleOfKey? key = some rule ↔ normalizeKey key ∈ rule.names := by
  have listed : rule ∈ RuleKey.all := by cases rule <;> decide
  unfold ruleOfKey?
  constructor
  · intro found
    have named := List.find?_some found
    exact RuleKey.goesBy_iff.mp named
  · intro known
    cases found : RuleKey.all.find? (·.goesBy (normalizeKey key)) with
    | none =>
        exact absurd (RuleKey.goesBy_iff.mpr known) (List.find?_eq_none.mp found rule listed)
    | some other =>
        have named := List.find?_some found
        rw [RuleKey.eq_of_mem_names known (RuleKey.goesBy_iff.mp named)]

/-- A key is taken for a rule when it spells one of the names of the rule. -/
theorem ruleOfKey?_eq_some_iff : ruleOfKey? key = some rule ↔ Addresses key rule := by
  rw [ruleOfKey?_eq_some_iff_names]
  constructor
  · intro named
    exact ⟨_, named, (normalizeKey_eq_iff named).mp rfl⟩
  · rintro ⟨name, named, spells⟩
    rwa [(normalizeKey_eq_iff named).mpr spells]

example : Addresses " Naming_PATTERN\t" .validIdentifier :=
  ruleOfKey?_eq_some_iff.mp (by decide)

end SchemaDocument

end TagAudit
