import TagAudit.Proofs.Target.Spelling
import TagAudit.Proofs.Wildcard.Reading

/-! The pieces between the slashes of a pattern, and those of a pattern behind the root of the
repository. -/

namespace TagAudit

open Text

namespace Target

variable {root pattern : Path} {texts : List (List Char)} {names : List Wildcard}

def dropOpen (pieces : List (List Char)) : List (List Char) :=
  if pieces.getLast? = some [] then pieces.dropLast else pieces

def pieces (path : Path) : List (List Char) :=
  dropOpen (splitOn '/' (if path.isAbsolute then path.text.tail else path.text))

theorem readNames_eq (path : Path) : readNames path = (pieces path).mapM Wildcard.read := rfl

theorem dropOpen_append (above : List (List Char)) {below : List (List Char)} (more : below ≠ []) :
    dropOpen (above ++ below) = above ++ dropOpen below := by
  unfold dropOpen
  rw [List.getLast?_append_of_ne_nil above more, List.dropLast_append_of_ne_nil more]
  split <;> rfl

theorem dropOpen_subset (pieces : List (List Char)) : dropOpen pieces ⊆ pieces := by
  unfold dropOpen
  split
  · exact List.dropLast_subset pieces
  · exact List.Subset.refl pieces

theorem mem_dropOpen {all : List (List Char)} {piece : List Char} (shown : piece ≠ [])
    (member : piece ∈ all) : piece ∈ dropOpen all := by
  unfold dropOpen
  split
  next empty =>
    obtain ⟨above, rfl⟩ := List.getLast?_eq_some_iff.mp empty
    rw [List.dropLast_concat]
    simpa [shown] using member
  next => exact member

theorem mem_pieces {path : Path} {piece : List Char} (member : piece ∈ pieces path) :
    '/' ∉ piece ∧ piece ⊆ path.text := by
  obtain ⟨whole, within⟩ := mem_splitOn (dropOpen_subset _ member)
  refine ⟨whole, fun c inside => ?_⟩
  have inside := within inside
  split at inside
  · exact List.mem_of_mem_tail inside
  · exact inside

theorem isAbsolute_iff {path : Path} : path.isAbsolute ↔ ∃ rest, path.text = '/' :: rest := by
  unfold Path.isAbsolute
  rw [beq_iff_eq, List.head?_eq_some_iff]

theorem pieces_join (absolute : root.isAbsolute) (relative : pattern.isAbsolute = false) :
    pieces (root.join pattern) = pieces root ++ pieces pattern := by
  obtain ⟨rest, starts⟩ := isAbsolute_iff.mp absolute
  have ends : dropOpen (splitOn '/' []) = [] := rfl
  rw [pieces, pieces, pieces, if_pos absolute, if_pos (Path.isAbsolute_join absolute pattern),
    relative, starts, List.tail_cons]
  change _ = _ ++ dropOpen (splitOn '/' pattern.text)
  by_cases slash : root.text.getLast? = some '/'
  · rw [Path.join_text_of_slash relative slash, starts, List.cons_append, List.tail_cons]
    rcases List.eq_nil_or_concat rest with rfl | ⟨above, last, rfl⟩
    · rw [ends]
      rfl
    · rw [starts, List.concat_eq_append, ← List.cons_append, List.getLast?_concat,
        Option.some_inj] at slash
      rw [List.concat_eq_append, slash, List.append_assoc, List.singleton_append, splitOn_append,
        splitOn_append, dropOpen_append _ (splitOn_ne_nil '/' []), ends, List.append_nil,
        dropOpen_append _ (splitOn_ne_nil '/' _)]
  · rw [Path.join_text_of_bare (Path.shown_of_absolute absolute) relative slash, starts,
      List.cons_append, List.tail_cons]
    rcases List.eq_nil_or_concat rest with rfl | ⟨above, last, rfl⟩
    · simp [starts] at slash
    · rw [starts, List.concat_eq_append, ← List.cons_append, List.getLast?_concat,
        Option.some_inj] at slash
      have whole : dropOpen (splitOn '/' (above ++ [last])) = splitOn '/' (above ++ [last]) :=
        if_neg (getLast?_splitOn slash)
      rw [List.concat_eq_append, whole, splitOn_append, dropOpen_append _ (splitOn_ne_nil '/' _)]

theorem filterMap_dropOpen (all : List (List Char)) :
    (dropOpen all).filterMap Component.ofPiece? = all.filterMap Component.ofPiece? := by
  unfold dropOpen
  split
  next empty =>
    obtain ⟨above, rfl⟩ := List.getLast?_eq_some_iff.mp empty
    rw [List.dropLast_concat, List.filterMap_append]
    simp [Component.ofPiece?]
  next => rfl

theorem components_of_absolute (absolute : root.isAbsolute) :
    root.components = .root :: (pieces root).filterMap Component.ofPiece? := by
  obtain ⟨rest, starts⟩ := isAbsolute_iff.mp absolute
  rw [pieces, filterMap_dropOpen, if_pos absolute, starts, List.tail_cons, Path.components_eq,
    starts]
  rfl

theorem inner_of_relative (relative : pattern.isAbsolute = false) :
    Path.inner pattern.text = (pieces pattern).filterMap Component.ofPiece? := by
  rw [pieces, filterMap_dropOpen, relative]
  rfl

/-! Names that are read. -/

theorem whole_of_readNames (read : readNames pattern = .ok names) :
    ∀ name ∈ names, name.Whole := by
  intro name member text literal slash
  obtain ⟨piece, listed, made⟩ := exists_of_mem_mapM read member
  refine (mem_pieces listed).1 (Wildcard.literal_mem_of_read made ?_)
  rw [Wildcard.literal?_eq_some_iff.mp literal]
  exact List.mem_map_of_mem slash

theorem read_of_readNames (absolute : pattern.isAbsolute) (read : readNames pattern = .ok names) :
    ∃ whole, Wildcard.read pattern.text = .ok whole := by
  obtain ⟨rest, starts⟩ := isAbsolute_iff.mp absolute
  rw [Wildcard.exists_read_iff, starts]
  refine .step (.literal (by decide)) (Wildcard.readable_of_pieces fun piece member => ?_)
  by_cases open' : piece = []
  · exact open' ▸ .nil
  · have listed : piece ∈ pieces pattern := by
      unfold pieces
      rw [if_pos absolute, starts, List.tail_cons]
      exact mem_dropOpen open' member
    exact Wildcard.exists_read_iff.mp (exists_of_mapM read listed)

/-! What a pattern spells. -/

open Wildcard

/-- Texts that the names of a pattern take; a slash at its end asks for a directory. -/
def SpelledBy (pattern : Path) (texts : List (List Char)) : Prop :=
  pattern.text.getLast?.any (· ≠ '/') ∧
    ∃ names, readNames pattern = .ok names ∧ Spells names texts

def Plain (path : Path) : Prop :=
  ∀ c ∈ path.text, c ∉ ['?', '*', '[']

def literal (text : List Char) : Wildcard :=
  ⟨text.map .literal⟩

theorem isRecursive_literal (text : List Char) : (literal text).isRecursive = false := by
  simp [literal, isRecursive]

theorem takes_literal_iff {text other : List Char} : (literal text).Takes other ↔ other = text := by
  have whole : (literal text).literal? = some text := literal?_eq_some_iff.mpr rfl
  unfold Takes
  rw [whole]

theorem spells_literal_iff {text : List Char} :
    Spells (literal text :: names) texts ↔ ∃ later, texts = text :: later ∧ Spells names later := by
  constructor
  · intro spells
    cases spells with
    | step _ takes later => exact ⟨_, by rw [takes_literal_iff.mp takes], later⟩
    | directories recursive | again recursive =>
        rw [isRecursive_literal] at recursive
        cases recursive
  · rintro ⟨later, rfl, spells⟩
    exact .step (isRecursive_literal text) (takes_literal_iff.mpr rfl) spells

theorem spells_append_iff {pieces : List (List Char)} :
    Spells (pieces.map literal ++ names) texts ↔
      ∃ rest, texts = pieces ++ rest ∧ Spells names rest := by
  induction pieces generalizing texts with
  | nil => simp
  | cons piece pieces induction =>
      rw [List.map_cons, List.cons_append, spells_literal_iff]
      constructor
      · rintro ⟨later, rfl, spells⟩
        obtain ⟨rest, rfl, last⟩ := induction.mp spells
        exact ⟨rest, rfl, last⟩
      · rintro ⟨rest, rfl, spells⟩
        exact ⟨pieces ++ rest, rfl, induction.mpr ⟨rest, rfl, spells⟩⟩

theorem readNames_of_plain (plain : Plain pattern) :
    readNames pattern = .ok ((pieces pattern).map literal) := by
  rw [readNames_eq, mapM_eq_ok_iff, List.forall₂_map_right_iff, List.forall₂_same]
  intro piece member
  exact read_of_plain fun c inside => plain c ((mem_pieces member).2 inside)

/-- Behind a root without wildcards, a pattern spells what it spells alone. -/
theorem spelledBy_join_iff (absolute : root.isAbsolute) (plain : Plain root)
    (relative : pattern.isAbsolute = false) :
    SpelledBy (root.join pattern) texts ↔
      ∃ rest, texts = pieces root ++ rest ∧ SpelledBy pattern rest := by
  have ends : (root.join pattern).text.getLast?.any (· ≠ '/') =
      pattern.text.getLast?.any (· ≠ '/') := by
    obtain ⟨front, joined, -⟩ := Path.exists_join_text (Path.shown_of_absolute absolute) relative
    rw [joined]
    cases text : pattern.text with
    | nil => simp
    | cons c rest =>
        rw [List.getLast?_append_of_ne_nil front (by simp), List.getLast?_cons_cons]
  have read {names : List Wildcard} : readNames (root.join pattern) = .ok names ↔
      ∃ later, readNames pattern = .ok later ∧ names = (pieces root).map literal ++ later := by
    rw [readNames_eq, pieces_join absolute relative, List.mapM_append, ← readNames_eq,
      ← readNames_eq, readNames_of_plain plain]
    cases readNames pattern <;> simp [bind, Except.bind, pure, Except.pure, eq_comm]
  unfold SpelledBy
  rw [ends]
  constructor
  · rintro ⟨shown, names, joined, spells⟩
    obtain ⟨later, made, rfl⟩ := read.mp joined
    obtain ⟨rest, rfl, last⟩ := spells_append_iff.mp spells
    exact ⟨rest, rfl, shown, later, made, last⟩
  · rintro ⟨rest, rfl, shown, later, made, spells⟩
    exact ⟨shown, _, read.mpr ⟨later, made, rfl⟩, spells_append_iff.mpr ⟨rest, rfl, spells⟩⟩

end Target

end TagAudit
