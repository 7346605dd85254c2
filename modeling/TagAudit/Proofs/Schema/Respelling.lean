import Mathlib.Data.List.Nodup
import TagAudit.Proofs.Schema.Settings

/-! The schema of a document does not depend on how the keys of its rules are spelled, and so not on
the order in which its entries are read. -/

namespace TagAudit.SchemaDocument

variable {document document' : SchemaDocument} {settings : RuleSettings} {rule other : RuleKey}
  {entry entry' : RuleEntry} {key : String} {respell : String → String}

def Single (document : SchemaDocument) : Prop :=
  ∀ key ∈ document.rules, ∀ key' ∈ document.rules, ∀ rule,
    Addresses key rule → Addresses key' rule → key = key'

/-- Every key that addresses a rule is replaced by one that addresses the same rule.  Entries that
address none are free. -/
structure Respells (respell : String → String) (document document' : SchemaDocument) : Prop where
  dimensions : document'.dimensions = document.dimensions
  kept : ∀ key entry rule, document.rules[key]? = some entry → Addresses key rule →
    Addresses (respell key) rule ∧ document'.rules[respell key]? = some entry
  known : ∀ key' entry rule, document'.rules[key']? = some entry → Addresses key' rule →
    ∃ key, document.rules[key]? = some entry ∧ Addresses key rule ∧ respell key = key'

theorem Respells.single (respells : Respells respell document document')
    (single : document.Single) : document'.Single := by
  have origin {key' : String} {rule : RuleKey} (member : key' ∈ document'.rules)
      (addresses : Addresses key' rule) :
      ∃ key ∈ document.rules, Addresses key rule ∧ respell key = key' := by
    rw [← Std.TreeMap.isSome_getElem?_iff_mem, Option.isSome_iff_exists] at member
    obtain ⟨entry, found⟩ := member
    obtain ⟨key, held, same, spelled⟩ := respells.known key' entry rule found addresses
    refine ⟨key, ?_, same, spelled⟩
    rw [← Std.TreeMap.isSome_getElem?_iff_mem, held, Option.isSome_some]
  intro first member second member' rule addresses addresses'
  obtain ⟨key, held, same, rfl⟩ := origin member addresses
  obtain ⟨key', held', same', rfl⟩ := origin member' addresses'
  rw [single key held key' held' rule same same']

/-! The entries that address a rule, each with its rule. -/

def addressed (document : SchemaDocument) : List (RuleKey × RuleEntry) :=
  document.rules.toList.filterMap fun entry => (ruleOfKey? entry.1).map (·, entry.2)

theorem mem_addressed_iff :
    (rule, entry) ∈ document.addressed ↔
      ∃ key, document.rules[key]? = some entry ∧ Addresses key rule := by
  simp only [addressed, List.mem_filterMap, Prod.exists, Option.map_eq_some_iff, Prod.mk.injEq,
    Std.TreeMap.mem_toList_iff_getElem?_eq_some, ← ruleOfKey?_eq_some_iff]
  constructor
  · rintro ⟨key, _, found, _, addresses, rfl, rfl⟩
    exact ⟨key, found, addresses⟩
  · rintro ⟨key, found, addresses⟩
    exact ⟨key, entry, found, rule, addresses, rfl, rfl⟩

theorem Single.nodup_addressed (single : document.Single) :
    (document.addressed.map Prod.fst).Nodup := by
  have held {key : String} {entry : RuleEntry} (member : (key, entry) ∈ document.rules.toList) :
      key ∈ document.rules := by
    rw [Std.TreeMap.mem_toList_iff_getElem?_eq_some] at member
    rw [← Std.TreeMap.isSome_getElem?_iff_mem, member, Option.isSome_some]
  refine List.pairwise_map.mpr (List.pairwise_filterMap.mpr
    (Std.TreeMap.distinct_keys_toList.imp_of_mem ?_))
  rintro ⟨key, entry⟩ ⟨key', entry'⟩ member member' differ ⟨rule, _⟩ made ⟨other, _⟩ made' same
  simp only [Option.map_eq_some_iff, Prod.mk.injEq, ruleOfKey?_eq_some_iff] at made made'
  obtain ⟨_, addresses, rfl, -⟩ := made
  obtain ⟨_, addresses', rfl, -⟩ := made'
  dsimp only at same
  exact differ (compare_eq_iff_eq.mpr
    (single key (held member) key' (held member') _ addresses (same ▸ addresses')))

theorem settings_eq_foldl_addressed (document : SchemaDocument) :
    document.settings = document.addressed.foldl (fun settings a => apply settings a.1 a.2)
      .default := by
  rw [addressed, List.foldl_filterMap, settings_eq]
  refine List.foldl_ext _ _ _ fun settings a _ => ?_
  unfold step
  cases ruleOfKey? a.1 <;> rfl

theorem apply_comm (differ : rule ≠ other) :
    apply (apply settings rule entry) other entry' =
      apply (apply settings other entry') rule entry := by
  cases rule <;> cases other <;> first | rfl | exact absurd rfl differ

theorem Respells.mem_addressed_iff (respells : Respells respell document document') :
    (rule, entry) ∈ document'.addressed ↔ (rule, entry) ∈ document.addressed := by
  rw [SchemaDocument.mem_addressed_iff, SchemaDocument.mem_addressed_iff]
  constructor
  · rintro ⟨key', found, addresses⟩
    obtain ⟨key, held, same, -⟩ := respells.known key' entry rule found addresses
    exact ⟨key, held, same⟩
  · rintro ⟨key, held, addresses⟩
    obtain ⟨same, found⟩ := respells.kept key entry rule held addresses
    exact ⟨respell key, found, same⟩

theorem Respells.settings_eq (respells : Respells respell document document')
    (single : document.Single) : document'.settings = document.settings := by
  -- A respelling moves keys about in the map, so only the members of the two lists agree.
  have distinct := (respells.single single).nodup_addressed
  have perm : document'.addressed.Perm document.addressed := by
    refine (List.perm_ext_iff_of_nodup distinct.of_map single.nodup_addressed.of_map).mpr ?_
    exact fun a => respells.mem_addressed_iff
  rw [settings_eq_foldl_addressed, settings_eq_foldl_addressed]
  refine perm.foldl_eq' (fun a member b member' settings => ?_) _
  by_cases same : a.1 = b.1
  · rw [List.inj_on_of_nodup_map distinct member member' same]
  · exact apply_comm same

/-- Documents that say the same of every rule, under whatever keys, have the same schema, or the
same pattern that is none. -/
theorem schema_respelled (single : document.Single)
    (respells : Respells respell document document') : document'.schema = document.schema := by
  have dimensions : document'.dimensionsOf = document.dimensionsOf := by
    unfold dimensionsOf
    rw [respells.dimensions]
  unfold SchemaDocument.schema
  rw [respells.settings_eq single, dimensions]

/-- The alias, in capitals and behind a blank, comes first in the order of the keys. -/
theorem schema_respelled_alias :
    let document : SchemaDocument :=
      ⟨∅, .ofList [("matching-close", RuleEntry.number 3), ("naming_pattern", .text "(")]⟩
    let document' : SchemaDocument :=
      ⟨∅, .ofList [("frobnicate", RuleEntry.flag true), ("valid-identifier", .text "("),
        (" UNCLOSED_THRESHOLD", .number 3)]⟩
    let respell := fun key =>
      if key = "matching-close" then " UNCLOSED_THRESHOLD" else "valid-identifier"
    document.Single ∧ Respells respell document document' ∧
      document'.schema = document.schema := by
  intro document document' respell
  have entries : document.rules.toList =
      [("matching-close", .number 3), ("naming_pattern", .text "(")] := by
    decide +kernel
  have entries' : document'.rules.toList =
      [(" UNCLOSED_THRESHOLD", .number 3), ("frobnicate", .flag true),
        ("valid-identifier", .text "(")] := by
    decide +kernel
  have close : ruleOfKey? "matching-close" = some .matchingClose := by decide
  have threshold : ruleOfKey? " UNCLOSED_THRESHOLD" = some .matchingClose := by decide
  have naming : ruleOfKey? "naming_pattern" = some .validIdentifier := by decide
  have identifier : ruleOfKey? "valid-identifier" = some .validIdentifier := by decide
  have unknown : ruleOfKey? "frobnicate" = none := by decide
  have single : document.Single := by
    have keys : document.rules.keys = ["matching-close", "naming_pattern"] := by decide +kernel
    intro key member key' member'
    simp only [← Std.TreeMap.mem_keys, keys, List.mem_cons, List.not_mem_nil, or_false]
      at member member'
    intro rule addresses addresses'
    rw [← ruleOfKey?_eq_some_iff] at addresses addresses'
    rcases member with rfl | rfl <;> rcases member' with rfl | rfl <;> simp_all
  have respells : Respells respell document document' := by
    refine ⟨rfl, ?_, ?_⟩
    all_goals
      simp only [← Std.TreeMap.mem_toList_iff_getElem?_eq_some, ← ruleOfKey?_eq_some_iff,
        entries, entries', List.mem_cons, List.not_mem_nil, or_false, Prod.mk.injEq]
    · rintro _ _ rule (⟨rfl, rfl⟩ | ⟨rfl, rfl⟩) addresses
      · simp_all [respell]
      · simp_all [respell]
    · rintro _ _ rule (⟨rfl, rfl⟩ | ⟨rfl, rfl⟩ | ⟨rfl, rfl⟩) addresses
      · exact ⟨"matching-close", by simp_all [respell]⟩
      · simp_all
      · exact ⟨"naming_pattern", by simp_all [respell]⟩
  exact ⟨single, respells, schema_respelled single respells⟩

end TagAudit.SchemaDocument
