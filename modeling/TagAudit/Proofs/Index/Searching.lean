import TagAudit.Proofs.Index.History
import TagAudit.Proofs.Wildcard.Escaping

/-! Looking tags up by their own names and by patterns.  The two ways agree where both apply. -/

namespace TagAudit.TagIndex

open Text Wildcard

variable {index : TagIndex} {text tag : String} {pattern : Wildcard}

theorem queryPattern_eq (index : TagIndex) (text : String) :
    index.queryPattern text = (Wildcard.read text.toList).map fun pattern =>
      (index.tagNames.filter fun tag => pattern.accepts tag.toList).flatMap index.query := by
  unfold queryPattern
  congr 1
  funext pattern
  rw [toList_eq, List.filter_map, List.flatMap_map]
  rfl

theorem flatMap_query_filter (index : TagIndex) (tag : String) :
    (index.tagNames.filter (· = tag)).flatMap index.query = index.query tag := by
  have distinct : index.tagNames.Nodup := index.tagNames_ascending.imp fun less => less.ne
  rw [List.filter_eq]
  by_cases listed : tag ∈ index.tagNames
  · rw [List.count_eq_one_of_mem distinct listed, List.replicate_one, List.flatMap_singleton]
  · rw [List.count_eq_zero.mpr listed, List.replicate_zero, List.flatMap_nil, query,
      Std.TreeMap.getElem?_eq_none (mt Std.TreeMap.mem_keys.mpr listed), Option.getD_none]

theorem queryPattern_of_single (ok : Wildcard.read text.toList = .ok pattern)
    (single : ∀ t, pattern.accepts t ↔ t = tag.toList) :
    index.queryPattern text = .ok (index.query tag) := by
  have names : (index.tagNames.filter fun name => pattern.accepts name.toList) =
      index.tagNames.filter (· = tag) := by
    refine List.filter_congr fun name _ => ?_
    rw [Bool.eq_iff_iff, single, decide_eq_true_eq, String.toList_inj]
  rw [queryPattern_eq, ok, ← flatMap_query_filter, ← names]
  rfl

theorem queryPattern_of_plain (plain : ∀ c ∈ text.toList, isSpecial c = false) :
    index.queryPattern text = .ok (index.query text) := by
  have escaped := escape_eq_self_iff.mpr plain
  have ok := read_escape text.toList
  rw [escaped] at ok
  exact queryPattern_of_single ok fun t => accepts_of_read_escape (escaped.symm ▸ ok)

theorem search_eq_queryPattern (index : TagIndex) (text : String) :
    index.search text = index.queryPattern text := by
  unfold search
  split
  next escaped => rw [queryPattern_of_plain (escape_eq_self_iff.mp escaped)]
  next => rfl

/-- Every text is found under its escaped form, and a text without wildcards under itself, by
pattern too.  A pattern finds the rows of the tags that it matches, in the order of their bytes. -/
theorem search_agrees (index : TagIndex) :
    (∀ tag : String,
      index.search (String.ofList (escape tag.toList)) = .ok (index.query tag)) ∧
    (∀ text : String, (∀ c ∈ text.toList, c ∉ ['?', '*', '[', ']']) →
      index.queryPattern text = .ok (index.query text) ∧
        index.search text = .ok (index.query text)) ∧
    ∀ (text : String) (pattern : Wildcard), Wildcard.read text.toList = .ok pattern →
      ∃ names : List String, (names.Pairwise fun a b => bytes a < bytes b) ∧
        (∀ tag, tag ∈ names ↔ tag ∈ index.tagNames ∧ Matches pattern.tokens tag.toList) ∧
        index.search text = .ok (names.flatMap index.query) := by
  refine ⟨fun tag => ?_, fun text plain => ?_, fun text pattern ok => ?_⟩
  · rw [search_eq_queryPattern]
    have ok := read_escape tag.toList
    exact queryPattern_of_single (by rwa [String.toList_ofList]) fun t => accepts_of_read_escape ok
  · have found : index.queryPattern text = .ok (index.query text) :=
      queryPattern_of_plain fun c member => by simpa [isSpecial, and_assoc] using plain c member
    exact ⟨found, (search_eq_queryPattern index text).trans found⟩
  · refine ⟨index.tagNames.filter fun tag => pattern.accepts tag.toList, ?_, fun tag => ?_, ?_⟩
    · exact (index.tagNames_ascending.imp bytes_lt).filter _
    · rw [List.mem_filter, accepts_iff (read_bounded ok)]
    · rw [search_eq_queryPattern, queryPattern_eq, ok]
      rfl

theorem search_agrees_brackets :
    let o : Occurrence := ⟨"a[*]", "x.md", 1, 1, "", .primary, .bare, 0, none⟩
    let index := empty.insert [o]
    index.search "a[[][*][]]" = .ok [o] ∧
      (∀ c ∈ "a".toList, c ∉ ['?', '*', '[', ']']) ∧ index.queryPattern "a" = .ok [] ∧
      Wildcard.read "a*".toList = .ok ⟨[.literal 'a', .anyText]⟩ ∧
      ∃ names : List String,
        (∀ tag, tag ∈ names ↔
          tag ∈ index.tagNames ∧ Matches [.literal 'a', .anyText] tag.toList) ∧
        index.search "a*" = .ok (names.flatMap index.query) := by
  intro o index
  have row : index.query "a[*]" = [o] := by
    simp only [index, o]
    cbv
  have none : index.query "a" = [] := by
    simp only [index, o]
    cbv
  have spelled : String.ofList (escape "a[*]".toList) = "a[[][*][]]" := by cbv
  have letter : ∀ c ∈ "a".toList, c ∉ ['?', '*', '[', ']'] := by simp
  have read : Wildcard.read "a*".toList = .ok ⟨[.literal 'a', .anyText]⟩ := by cbv
  obtain ⟨escaped, plain, patterns⟩ := search_agrees index
  obtain ⟨names, -, members, found⟩ := patterns "a*" _ read
  refine ⟨?_, letter, ?_, read, names, members, found⟩
  · rw [← row, ← escaped, spelled]
  · rw [← none]
    exact (plain "a" letter).1

end TagAudit.TagIndex
