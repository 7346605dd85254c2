import Mathlib.Data.String.Basic
import TagAudit.Path
import TagAudit.Proofs.Text.Splitting

/-! The steps of joined paths, and the order of paths by their steps. -/

namespace TagAudit

open Text

/-- What a name of a directory entry can be. -/
structure IsName (name : List Char) : Prop where
  shown : name ≠ []
  notCurrent : name ≠ ['.']
  notParent : name ≠ ['.', '.']
  whole : '/' ∉ name

instance (name : List Char) : Decidable (IsName name) :=
  decidable_of_iff (name ≠ [] ∧ name ≠ ['.'] ∧ name ≠ ['.', '.'] ∧ '/' ∉ name)
    ⟨fun ⟨shown, notCurrent, notParent, whole⟩ => ⟨shown, notCurrent, notParent, whole⟩,
      fun ⟨shown, notCurrent, notParent, whole⟩ => ⟨shown, notCurrent, notParent, whole⟩⟩

theorem IsName.ofPiece? {name : List Char} (isName : IsName name) :
    Component.ofPiece? name = some (.name name) := by
  unfold Component.ofPiece?
  simp [isName.shown, isName.notCurrent, isName.notParent]

namespace Path

def inner (text : List Char) : List Component :=
  (splitOn '/' text).filterMap Component.ofPiece?

def lead (text : List Char) : List Component :=
  if text.head? = some '/' then [.root]
  else if text.head? = some '.' ∧ text.tail.head?.all (· = '/') then [.current]
  else []

theorem anatomy_fst (p : Path) : p.anatomy.1 = lead p.text := by
  unfold anatomy
  split
  next rest eq => rw [eq]; rfl
  next eq => rw [eq]; rfl
  next rest eq => rw [eq]; rfl
  next notSlash notDot notDotSlash =>
    unfold lead
    cases text : p.text with
    | nil => rfl
    | cons c rest =>
        rw [if_neg fun same => notSlash rest (by simp_all), if_neg]
        intro ⟨dot, next⟩
        cases rest with
        | nil => exact notDot (by simp_all)
        | cons d rest => exact notDotSlash rest (by simp_all)

theorem filterMap_anatomy (p : Path) :
    p.anatomy.2.filterMap Component.ofPiece? = inner p.text := by
  have dropsSlash (rest : List Char) : inner ('/' :: rest) = inner rest := rfl
  have dropsDot (rest : List Char) : inner ('.' :: '/' :: rest) = inner rest := by
    unfold inner
    rw [show '.' :: '/' :: rest = ['.'] ++ '/' :: rest from rfl, splitOn_append]
    rfl
  unfold anatomy
  split
  next rest eq => rw [eq, dropsSlash]; rfl
  next eq => rw [eq]; rfl
  next rest eq => rw [eq, dropsDot]; rfl
  next => rfl

theorem components_eq (p : Path) : p.components = lead p.text ++ inner p.text := by
  rw [← anatomy_fst, ← filterMap_anatomy]
  rfl

theorem inner_append (a b : List Char) : inner (a ++ '/' :: b) = inner a ++ inner b := by
  unfold inner
  rw [splitOn_append, List.filterMap_append]

theorem inner_of_whole {step : List Char} (whole : '/' ∉ step) :
    inner step = (Component.ofPiece? step).toList := by
  unfold inner
  rw [splitOn_of_not_mem whole]
  cases made : Component.ofPiece? step <;> simp [made]

theorem join_text_of_slash {p q : Path} (relative : q.isAbsolute = false)
    (slash : p.text.getLast? = some '/') : (p.join q).text = p.text ++ q.text := by
  have shown : p.text ≠ [] := by
    intro empty
    simp [empty] at slash
  simp [join, relative, shown, slash]

theorem join_text_of_bare {p q : Path} (shown : p.text ≠ []) (relative : q.isAbsolute = false)
    (bare : p.text.getLast? ≠ some '/') : (p.join q).text = p.text ++ '/' :: q.text := by
  simp [join, relative, shown, bare]

theorem exists_join_text {p q : Path} (shown : p.text ≠ []) (relative : q.isAbsolute = false) :
    ∃ front, (p.join q).text = front ++ '/' :: q.text ∧
      (p.text = front ∨ p.text = front ++ ['/']) := by
  by_cases slash : p.text.getLast? = some '/'
  · obtain ⟨front, ends⟩ := List.getLast?_eq_some_iff.mp slash
    exact ⟨front, by rw [join_text_of_slash relative slash, ends, List.append_assoc,
      List.singleton_append], .inr ends⟩
  · exact ⟨p.text, join_text_of_bare shown relative slash, .inl rfl⟩

theorem lead_append {front : List Char} (shown : front ≠ []) (rest : List Char) :
    lead (front ++ '/' :: rest) = lead front := by
  unfold lead
  cases front with
  | nil => exact absurd rfl shown
  | cons c front => cases front <;> simp

theorem components_join {p q : Path} (shown : p.text ≠ []) (relative : q.isAbsolute = false) :
    (p.join q).components = p.components ++ inner q.text := by
  have ends : inner [] = [] := rfl
  obtain ⟨front, joined, whole | whole⟩ := exists_join_text shown relative
  · rw [components_eq, components_eq, joined, whole, lead_append (whole ▸ shown), inner_append,
      List.append_assoc]
  · rw [components_eq, components_eq, joined, whole, inner_append, inner_append, ends,
      List.append_nil, List.append_assoc]
    cases front with
    | nil => rfl
    | cons c front => rw [lead_append (by simp), lead_append (by simp)]

theorem isAbsolute_of_whole {step : List Char} (whole : '/' ∉ step) :
    (⟨step⟩ : Path).isAbsolute = false := by
  cases step with
  | nil => rfl
  | cons c step =>
      have other : c ≠ '/' := fun same => whole (by simp [same])
      simp [isAbsolute, other]

theorem join_text_ne_nil {p : Path} (shown : p.text ≠ []) {step : List Char}
    (whole : '/' ∉ step) : (p.join ⟨step⟩).text ≠ [] := by
  obtain ⟨front, joined, -⟩ := exists_join_text shown (isAbsolute_of_whole whole)
  simp [joined]

theorem shown_of_absolute {p : Path} (absolute : p.isAbsolute) : p.text ≠ [] := by
  intro empty
  simp [isAbsolute, empty] at absolute

theorem join_of_absolute {p q : Path} (absolute : q.isAbsolute) : p.join q = q := by
  simp [join, absolute]

theorem isAbsolute_join {p : Path} (absolute : p.isAbsolute) (q : Path) :
    (p.join q).isAbsolute := by
  unfold join
  split
  next either => simpa [shown_of_absolute absolute] using either
  next =>
    unfold isAbsolute at absolute ⊢
    cases text : p.text with
    | nil => simp [text] at absolute
    | cons c rest => split <;> simpa [text] using absolute

/-! On along some steps, none of which holds a slash. -/

def into (p : Path) (steps : List (List Char)) : Path :=
  steps.foldl (fun p step => p.join ⟨step⟩) p

variable {p : Path} {steps names : List (List Char)}

@[simp] theorem into_nil (p : Path) : p.into [] = p := rfl

@[simp] theorem into_cons (p : Path) (step : List Char) (steps : List (List Char)) :
    p.into (step :: steps) = (p.join ⟨step⟩).into steps := rfl

theorem into_append (p : Path) (above below : List (List Char)) :
    p.into (above ++ below) = (p.into above).into below :=
  List.foldl_append

theorem isAbsolute_into (absolute : p.isAbsolute) (steps : List (List Char)) :
    (p.into steps).isAbsolute := by
  induction steps generalizing p with
  | nil => exact absolute
  | cons step steps induction => exact induction (isAbsolute_join absolute ⟨step⟩)

theorem components_into (shown : p.text ≠ []) (whole : ∀ step ∈ steps, '/' ∉ step) :
    (p.into steps).components = p.components ++ steps.filterMap Component.ofPiece? := by
  induction steps generalizing p with
  | nil => simp
  | cons step steps induction =>
      rw [List.forall_mem_cons] at whole
      rw [into_cons, induction (join_text_ne_nil shown whole.1) whole.2,
        components_join shown (isAbsolute_of_whole whole.1), inner_of_whole whole.1,
        List.append_assoc]
      cases made : Component.ofPiece? step <;> simp [made]

theorem filterMap_ofPiece? (named : ∀ name ∈ names, IsName name) :
    names.filterMap Component.ofPiece? = names.map .name := by
  induction names with
  | nil => rfl
  | cons name names induction =>
      rw [List.forall_mem_cons] at named
      rw [List.filterMap_cons_some named.1.ofPiece?, induction named.2, List.map_cons]

theorem components_into_names (shown : p.text ≠ []) (named : ∀ name ∈ names, IsName name) :
    (p.into names).components = p.components ++ names.map .name := by
  rw [components_into shown fun name member => (named name member).whole, filterMap_ofPiece? named]

theorem components_join_name (shown : p.text ≠ []) {name : List Char} (isName : IsName name) :
    (p.join ⟨name⟩).components = p.components ++ [.name name] := by
  rw [components_join shown (isAbsolute_of_whole isName.whole), inner_of_whole isName.whole,
    isName.ofPiece?, Option.toList_some]

theorem fileName?_join (shown : p.text ≠ []) {name : List Char} (isName : IsName name) :
    (p.join ⟨name⟩).fileName? = some name := by
  unfold fileName?
  rw [components_join_name shown isName, List.getLast?_concat]

end Path

end TagAudit
