import TagAudit.Proofs.Disk.Rewriting
import TagAudit.Proofs.Path.Components

/-! Disks on which everything stands in a directory, under a name. -/

namespace TagAudit.Disk

variable {disk : Disk} {place directory : Location} {names : List String} {name : String}
  {kind : FileKind}

/-- What every file system keeps to. -/
structure IsTree (disk : Disk) : Prop where
  named {place : Location} {name : String} {kind : FileKind} :
    disk.kind? (place ++ [name]) = some kind → IsName name.toList
  standsIn {place : Location} {name : String} {kind : FileKind} :
    disk.kind? (place ++ [name]) = some kind → disk.kind? place = some .directory

theorem kind?_nil (disk : Disk) : disk.kind? [] = some .directory := rfl

theorem kind?_of_ne_nil (below : place ≠ []) :
    disk.kind? place = disk.nodes[place]?.map FileNode.kind := by
  simp [kind?, node?, below]

theorem isTree_empty (here : Location) : (empty here).IsTree := by
  have bare {place : Location} {name : String} {kind : FileKind}
      (held : (empty here).kind? (place ++ [name]) = some kind) : False := by
    rw [kind?_of_ne_nil (by simp)] at held
    simp [empty] at held
  exact ⟨fun held => (bare held).elim, fun held => (bare held).elim⟩

theorem kind?_put (below : place ≠ []) (node : FileNode) (other : Location) :
    (disk.put place node).kind? other =
      if other = place then some node.kind else disk.kind? other := by
  rw [kind?, node?_put below]
  split <;> rfl

theorem IsTree.put (tree : disk.IsTree) (directory : Location) (isName : IsName name.toList)
    (inside : disk.kind? directory = some .directory)
    (free : disk.kind? (directory ++ [name]) = none) (node : FileNode) :
    (disk.put (directory ++ [name]) node).IsTree := by
  have below : directory ++ [name] ≠ [] := by simp
  refine ⟨?_, ?_⟩
  · intro place other kind held
    rw [kind?_put below] at held
    split at held
    next same =>
      obtain ⟨-, same⟩ := List.append_inj' same rfl
      cases same
      exact isName
    next => exact tree.named held
  · intro place other kind held
    have apart : disk.kind? place = some .directory → place ≠ directory ++ [name] := by
      intro holds same
      rw [same, free] at holds
      cases holds
    rw [kind?_put below] at held ⊢
    split at held
    next same =>
      obtain ⟨same, -⟩ := List.append_inj' same rfl
      rw [same] at apart ⊢
      rw [if_neg (apart inside), inside]
    next => rw [if_neg (apart (tree.standsIn held)), tree.standsIn held]

theorem IsTree.directory_of_append (tree : disk.IsTree) (below : names ≠ [])
    (held : disk.kind? (place ++ names) = some kind) : disk.kind? place = some .directory := by
  induction names generalizing place with
  | nil => exact absurd rfl below
  | cons name names induction =>
      have held : disk.kind? ((place ++ [name]) ++ names) = some kind := by simpa using held
      cases names with
      | nil => exact tree.standsIn (by simpa using held)
      | cons next names => exact tree.standsIn (induction (by simp) held)

theorem IsTree.named_of_append (tree : disk.IsTree)
    (held : disk.kind? (place ++ names) = some kind) : ∀ name ∈ names, IsName name.toList := by
  intro name member
  obtain ⟨above, below, rfl⟩ := List.append_of_mem member
  have held : disk.kind? ((place ++ above ++ [name]) ++ below) = some kind := by simpa using held
  cases below with
  | nil =>
      rw [List.append_nil] at held
      exact tree.named held
  | cons next below => exact tree.named (tree.directory_of_append (by simp) held)

/-! The entries of directories, and how deep they can be. -/

theorem mem_children_iff :
    (name, kind) ∈ disk.children directory ↔ disk.kind? (directory ++ [name]) = some kind := by
  rw [kind?_of_ne_nil (by simp), children, List.mem_filterMap]
  constructor
  · rintro ⟨⟨place, node⟩, member, entry⟩
    obtain ⟨last, ends, entry⟩ := Option.bind_eq_some_iff.mp entry
    split at entry
    next inside =>
      cases entry
      have whole : directory ++ [name] = place := by
        rw [← inside]
        exact List.dropLast_append_getLast? name ends
      rw [whole, Std.TreeMap.mem_toList_iff_getElem?_eq_some.mp member]
      rfl
    next => cases entry
  · intro held
    obtain ⟨node, found, rfl⟩ := Option.map_eq_some_iff.mp held
    exact ⟨(_, node), Std.TreeMap.mem_toList_iff_getElem?_eq_some.mpr found, by simp⟩

theorem length_le_height (held : disk.kind? place = some kind) : place.length ≤ disk.height := by
  cases place with
  | nil => exact Nat.zero_le _
  | cons name names =>
      rw [kind?_of_ne_nil (by simp)] at held
      obtain ⟨node, found, -⟩ := Option.map_eq_some_iff.mp held
      have member := Std.TreeMap.mem_toList_iff_getElem?_eq_some.mpr found
      have grows (entries : List (Location × FileNode)) (height : Nat) :
          height ≤ entries.foldl (fun height entry => max height entry.1.length) height ∧
            ∀ entry ∈ entries, entry.1.length ≤
              entries.foldl (fun height entry => max height entry.1.length) height := by
        induction entries generalizing height with
        | nil => simp
        | cons first entries induction =>
            obtain ⟨least, each⟩ := induction (max height first.1.length)
            rw [List.forall_mem_cons]
            exact ⟨(le_max_left _ _).trans least, (le_max_right _ _).trans least, each⟩
      unfold height
      rw [Std.TreeMap.foldl_eq_foldl_toList]
      exact (grows _ 0).2 _ member

end TagAudit.Disk
