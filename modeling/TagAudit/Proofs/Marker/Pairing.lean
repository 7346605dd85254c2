import Mathlib.Algebra.Group.Nat.Defs
import Mathlib.Data.List.Basic
import TagAudit.Marker.Scan

/-! Looking up the closing token of a name among the places of all closing tokens finds what
a search from the opening token forward finds. -/

namespace TagAudit

/-! Halving. -/

variable {bound : Nat} {below above : List Nat}

private theorem getD_lt_iff (small : ∀ place ∈ below, place < bound)
    (large : ∀ place ∈ above, bound ≤ place) {i : Nat} (inside : i < (below ++ above).length) :
    (below ++ above).toArray.getD i 0 < bound ↔ i < below.length := by
  have entry : (below ++ above).toArray.getD i 0 = (below ++ above)[i] := by
    rw [Array.getD, dif_pos (by simpa using inside)]
    rfl
  rw [entry, List.getElem_append]
  split
  next passed => exact ⟨fun _ => passed, fun _ => small _ (List.getElem_mem passed)⟩
  next reached =>
    rw [List.length_append] at inside
    have beyond := large _ (List.getElem_mem (l := above) (n := i - below.length) (by omega))
    exact ⟨fun smaller => absurd smaller (by omega), fun passed => absurd passed reached⟩

private theorem countBelowBetween_append (small : ∀ place ∈ below, place < bound)
    (large : ∀ place ∈ above, bound ≤ place) {steps first last : Nat}
    (first_le : first ≤ below.length) (le_last : below.length ≤ last)
    (last_le : last ≤ (below ++ above).length) (enough : last - first < 2 ^ steps) :
    countBelowBetween bound (below ++ above).toArray steps first last = below.length := by
  induction steps generalizing first last with
  | zero =>
      simp only [Nat.pow_zero] at enough
      simp only [countBelowBetween]
      omega
  | succ steps induction =>
      rw [Nat.pow_succ] at enough
      simp only [countBelowBetween]
      split
      next left =>
        have middle := getD_lt_iff small large (i := first + (last - first) / 2) (by omega)
        split
        next smaller => exact induction (middle.mp smaller) le_last last_le (by omega)
        next larger =>
          exact induction first_le (Nat.le_of_not_lt (mt middle.mpr larger)) (by omega) (by omega)
      next => omega

/-- Halving finds the end of the places below the bound. -/
theorem countBelow_append (small : ∀ place ∈ below, place < bound)
    (large : ∀ place ∈ above, bound ≤ place) :
    countBelow bound (below ++ above).toArray = below.length := by
  refine countBelowBetween_append small large (Nat.zero_le _) ?_ (by simp) ?_
  · simp
  · exact Nat.lt_log2_self

/-! The places of closing tokens. -/

namespace Token

def closes (name : List Char) (token : Token) : Bool :=
  token.marker.closing && token.marker.name == name

end Token

namespace Closings

private theorem places_add (closings : Closings) (name other : String) (place : Nat) :
    (closings.add other place).places name =
      if other = name then (closings.places name).push place else closings.places name := by
  simp only [places, add, Std.TreeMap.getD_alter, Std.compare_eq_iff_eq]
  split
  next same => simp [same, Std.TreeMap.getD_eq_getD_getElem?]
  next => rfl

private theorem places_addFrom (name : List Char) (tokens : List Token) (closings : Closings)
    (place : Nat) :
    ((addFrom place closings tokens).places (String.ofList name)).toList =
      (closings.places (String.ofList name)).toList ++
        tokens.findIdxs (Token.closes name) place := by
  induction tokens generalizing closings place with
  | nil => simp [addFrom]
  | cons token later induction =>
      rw [addFrom, induction, List.findIdxs_cons]
      by_cases closing : token.marker.closing = true
      · by_cases same : token.marker.name = name
        · simp [Token.closes, places_add, Token.name, closing, same]
        · simp [Token.closes, places_add, Token.name, String.ofList_inj, closing, same]
      · simp [Token.closes, closing]

theorem places_ofTokens (name : List Char) (tokens : List Token) :
    (ofTokens tokens).places (String.ofList name) =
      (tokens.findIdxs (Token.closes name)).toArray := by
  have whole := places_addFrom name tokens ⟨∅⟩ 0
  have empty : places ⟨∅⟩ (String.ofList name) = #[] := by
    simp [places]
  rw [empty, List.nil_append] at whole
  exact Array.toList_inj.mp whole

private theorem head?_findIdxs {p : Token → Bool} (front later : List Token) :
    ((later.findIdxs p front.length)[0]?).bind (fun place => (front ++ later)[place]?) =
      later.find? p := by
  induction later generalizing front with
  | nil => rfl
  | cons token later induction =>
      have step := induction (front ++ [token])
      rw [List.findIdxs_cons, List.find?_cons]
      by_cases found : p token = true
      · simp [found]
      · simpa [found] using step

theorem next?_ofTokens (tokens : List Token) (name : List Char) (place : Nat) :
    ((ofTokens tokens).next? (String.ofList name) place).bind (fun place => tokens[place]?) =
      (tokens.drop place).find? (Token.closes name) := by
  have passed : ∀ entry ∈ (tokens.take place).findIdxs (Token.closes name), entry < place := by
    intro entry member
    have small := List.lt_add_of_mem_findIdxs entry member
    rw [List.length_take] at small
    omega
  have ahead : ∀ entry ∈ (tokens.drop place).findIdxs (Token.closes name)
      (tokens.take place).length, place ≤ entry := by
    intro entry member
    have large := List.ge_of_mem_findIdxs entry member
    have shown : tokens.drop place ≠ [] := by
      intro nothing
      simp [nothing] at member
    have inside : place < tokens.length := by simpa using shown
    rw [List.length_take] at large
    omega
  have split : tokens.findIdxs (Token.closes name) =
      (tokens.take place).findIdxs (Token.closes name) ++
        (tokens.drop place).findIdxs (Token.closes name) (tokens.take place).length := by
    have parts : (tokens.take place ++ tokens.drop place).findIdxs (Token.closes name) 0 = _ :=
      List.findIdxs_append
    rwa [List.take_append_drop, Nat.zero_add] at parts
  have search := head?_findIdxs (p := Token.closes name) (tokens.take place) (tokens.drop place)
  rw [List.take_append_drop] at search
  rw [next?, places_ofTokens, split, countBelow_append passed ahead, List.getElem?_toArray,
    List.getElem?_append_right (Nat.le_refl _), Nat.sub_self, search]

end Closings

namespace ScanOptions

/-- The occurrence of an opening token with `later` behind it: the first of them that closes
its name closes it. -/
def resolve (options : ScanOptions) (file : String) (token : Token) (later : List Token) :
    Occurrence :=
  options.describe file token (later.find? (Token.closes token.marker.name)) later.head?

def resolveAll (options : ScanOptions) (file : String) : List Token → List Occurrence
  | [] => []
  | token :: later =>
      if token.marker.closing then options.resolveAll file later
      else options.resolve file token later :: options.resolveAll file later

private theorem describeFrom_eq (options : ScanOptions) (file : String) (front later : List Token) :
    options.describeFrom file (front ++ later).toArray (.ofTokens (front ++ later)) front.length
        later =
      options.resolveAll file later := by
  induction later generalizing front with
  | nil => rfl
  | cons token later induction =>
      have step := induction (front ++ [token])
      simp only [List.append_assoc, List.singleton_append, List.length_append, List.length_cons,
        List.length_nil, Nat.zero_add] at step
      rw [describeFrom, resolveAll, step]
      split
      next => rfl
      next opens =>
        have found :=
          Closings.next?_ofTokens (front ++ token :: later) token.marker.name front.length
        have itself : token.closes token.marker.name = false := by
          simp [Token.closes, opens]
        rw [List.drop_left, List.find?_cons_of_neg (by simp [itself])] at found
        simp only [List.getElem?_toArray, Token.name, found, resolve]

theorem scan_eq (options : ScanOptions) (file content : String) :
    options.scan file content = options.resolveAll file (tokenize content.toList) :=
  options.describeFrom_eq file [] (tokenize content.toList)

end ScanOptions

end TagAudit
