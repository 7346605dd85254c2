import Mathlib.Algebra.Order.Ring.Nat
import TagAudit.Config.Settings
import TagAudit.Proofs.Disk.Locating
import TagAudit.Proofs.Path.Upward

/-! The root of a repository, which is the nearest marked directory on the way up, and what the
settings of a run take from the place where it starts. -/

namespace TagAudit

namespace Config

variable {disk : Disk} {start root : Path} {way : List Path}

theorem ancestors_of_upward {fuel : Nat} (upward : start.Upward way)
    (short : way.length ≤ fuel + 1) : ancestors fuel start = way := by
  induction upward generalizing fuel with
  | top last =>
      cases fuel with
      | zero => rfl
      | succ fuel => rw [ancestors, last]
  | @step p parent way up further induction =>
      cases fuel with
      | zero =>
          cases further <;> simp at short
      | succ fuel =>
          rw [ancestors, up]
          exact congrArg (p :: ·) (induction (by simpa using short))

/-- Whether a path leads to a directory that holds a configuration file or `.git`. -/
def Marked (disk : Disk) (p : Path) : Prop :=
  ∃ name ∈ ["tagscope.toml", "tagscope.yaml", "tagscope.yml", ".git"],
    disk.fileExists (p.join (.ofString name))

theorem isRoot_iff {p : Path} : isRoot disk p = true ↔ Marked disk p :=
  List.any_eq_true

theorem isRoot_eq_false_iff {p : Path} : isRoot disk p = false ↔ ¬Marked disk p := by
  rw [← Bool.not_eq_true, isRoot_iff]

/-- The first marked path on the way up from `start`. -/
def Nearest (disk : Disk) (start root : Path) : Prop :=
  ∃ front behind, start.Upward (front ++ root :: behind) ∧
    (∀ p ∈ front, ¬Marked disk p) ∧ Marked disk root

theorem find?_eq_some_iff_nearest (upward : start.Upward way) :
    way.find? (isRoot disk) = some root ↔ Nearest disk start root := by
  simp only [List.find?_eq_some_iff_append, Bool.not_eq_true', isRoot_iff, isRoot_eq_false_iff]
  constructor
  · rintro ⟨marked, front, behind, rfl, bare⟩
    exact ⟨front, behind, upward, bare, marked⟩
  · rintro ⟨front, behind, also, bare, marked⟩
    exact ⟨marked, front, behind, upward.unique also, bare⟩

theorem detectRoot_of_upward (absolute : start.isAbsolute) (upward : start.Upward way) :
    detectRoot disk start = (way.find? (isRoot disk)).getD start := by
  obtain ⟨whole, also, dropped⟩ := Path.exists_upward absolute
  obtain rfl := upward.unique also
  have few : way.length ≤ start.text.length + 1 := by
    have same := congrArg List.length dropped
    have steps := Path.length_components_le absolute
    simp only [List.length_map, List.length_reverse, List.length_tail, List.length_inits] at same
    omega
  rw [detectRoot, ancestors_of_upward upward few]

theorem detectRoot_of_nearest (absolute : start.isAbsolute) (nearest : Nearest disk start root) :
    detectRoot disk start = root := by
  obtain ⟨front, behind, upward, rest⟩ := nearest
  have found := (find?_eq_some_iff_nearest upward).mpr ⟨front, behind, upward, rest⟩
  rw [detectRoot_of_upward absolute upward, found, Option.getD_some]

theorem detectRoot_of_marked (marked : Marked disk start) : detectRoot disk start = start := by
  have first : isRoot disk start = true := isRoot_iff.mpr marked
  rw [detectRoot]
  cases start.text.length <;> rw [ancestors, List.find?_cons_of_pos first, Option.getD_some]

/-- What is detected is the nearest marked path, or the start when none is marked. -/
theorem detectRoot_cases (absolute : start.isAbsolute) (upward : start.Upward way) :
    Nearest disk start (detectRoot disk start) ∨
      (∀ p ∈ way, ¬Marked disk p) ∧ detectRoot disk start = start := by
  rw [detectRoot_of_upward absolute upward]
  cases found : way.find? (isRoot disk) with
  | none =>
      refine .inr ⟨fun p member => ?_, rfl⟩
      rw [← isRoot_iff]
      exact List.find?_eq_none.mp found p member
  | some root => exact .inl ((find?_eq_some_iff_nearest upward).mp found)

theorem detectRoot_detectRoot (absolute : start.isAbsolute) :
    detectRoot disk (detectRoot disk start) = detectRoot disk start := by
  obtain ⟨way, upward, -⟩ := Path.exists_upward absolute
  rcases detectRoot_cases absolute upward with ⟨_, _, _, _, marked⟩ | ⟨-, same⟩
  · exact detectRoot_of_marked marked
  · rw [same, same]

theorem isDirectory_of_nearest (tree : disk.IsTree) (absolute : start.isAbsolute)
    (nearest : Nearest disk start root) : disk.isDirectory root := by
  obtain ⟨front, behind, upward, -, name, listed, exists'⟩ := nearest
  have rootAbsolute := upward.isAbsolute absolute root (by simp)
  have whole : ∀ name ∈ ["tagscope.toml", "tagscope.yaml", "tagscope.yml", ".git"],
      '/' ∉ name.toList := by decide
  exact Disk.isDirectory_of_join tree rootAbsolute (whole name listed) exists'

end Config

namespace Settings

open Config

variable {disk : Disk} {overrides other : Overrides} {here there root : Path}

theorem rootOf_of_nearest (located : disk.canonical (.ofString (overrides.repoRoot.getD ".")) =
    .ok here) (nearest : Nearest disk here root) : rootOf disk overrides = root := by
  rw [rootOf, located]
  exact detectRoot_of_nearest (Disk.isAbsolute_of_canonical located) nearest

theorem resolve_congr (schema : overrides.schema = other.schema)
    (json : overrides.json = other.json) (ci : overrides.ci = other.ci)
    (same : rootOf disk overrides = rootOf disk other) :
    resolve disk overrides = resolve disk other := by
  have merged (root : Path) (loaded : Option Config) :
      merge disk overrides root loaded = merge disk other root loaded := by
    rw [merge, merge, schema, json, ci]
  rw [resolve, resolve, same]
  simp only [merged]

end Settings

namespace Config

/-- From every absolute path the nearest marked directory on the way up is detected, or the path
itself where there is none, and nothing else is detected from there; so two runs that start below
the same marked directory have the same settings or none for the same reason. -/
theorem detectRoot_nearest :
    (∀ (disk : Disk) (start : Path), start.isAbsolute →
      ∃ way, start.Upward way ∧
        way.map Path.components = start.components.inits.tail.reverse ∧
        (Nearest disk start (detectRoot disk start) ∨
          (∀ p ∈ way, ¬Marked disk p) ∧ detectRoot disk start = start) ∧
        detectRoot disk (detectRoot disk start) = detectRoot disk start ∧
        ∀ root, Nearest disk start root →
          detectRoot disk start = root ∧ (disk.IsTree → disk.isDirectory root)) ∧
    ∀ (disk : Disk) (overrides other : Overrides) (here there root : Path),
      overrides.schema = other.schema → overrides.json = other.json → overrides.ci = other.ci →
      disk.canonical (.ofString (overrides.repoRoot.getD ".")) = .ok here →
      disk.canonical (.ofString (other.repoRoot.getD ".")) = .ok there →
      Nearest disk here root → Nearest disk there root →
      Settings.resolve disk overrides = Settings.resolve disk other := by
  constructor
  · intro disk start absolute
    obtain ⟨way, upward, dropped⟩ := Path.exists_upward absolute
    refine ⟨way, upward, dropped, detectRoot_cases absolute upward,
      detectRoot_detectRoot absolute, fun root nearest => ⟨?_, fun tree => ?_⟩⟩
    · exact detectRoot_of_nearest absolute nearest
    · exact isDirectory_of_nearest tree absolute nearest
  · intro disk overrides other here there root schema json ci located also nearest nearestToo
    refine Settings.resolve_congr schema json ci ?_
    rw [Settings.rootOf_of_nearest located nearest, Settings.rootOf_of_nearest also nearestToo]

theorem detectRoot_nearest_linked :
    let disk := (((((Disk.empty ["r"]).put ["r"] .directory).put ["r", ".git"] .directory).put
      ["r", "docs"] .directory).put ["notes"] (.link (.ofString "/r/docs")))
    let root := Path.ofString "/r"
    let docs := Path.ofString "/r/docs"
    let overrides : Overrides := ⟨none, none, false, true⟩
    let other : Overrides := ⟨some "/notes", none, false, true⟩
    disk.IsTree ∧ Nearest disk docs root ∧ detectRoot disk docs = root ∧ disk.isDirectory root ∧
      disk.canonical (.ofString (overrides.repoRoot.getD ".")) = .ok root ∧
      disk.canonical (.ofString (other.repoRoot.getD ".")) = .ok docs ∧
      Settings.resolve disk overrides = Settings.resolve disk other := by
  intro disk root docs overrides other
  have tree : disk.IsTree := by
    have here := (Disk.isTree_empty ["r"]).put [] (show IsName "r".toList by decide) rfl rfl
      .directory
    have git := here.put ["r"] (show IsName ".git".toList by decide) rfl rfl .directory
    have docs := git.put ["r"] (show IsName "docs".toList by decide) rfl rfl .directory
    exact docs.put [] (show IsName "notes".toList by decide) rfl rfl _
  have upward : root.Upward [root, .ofString "/"] := .step rfl (.top rfl)
  have marked : Marked disk root := by
    refine ⟨".git", by decide, ?_⟩
    simp only [disk, root]
    rfl
  have bare : ¬Marked disk docs := by
    rw [← isRoot_eq_false_iff]
    simp only [disk, docs]
    rfl
  have fromRoot : Nearest disk root root := ⟨[], [.ofString "/"], upward, by simp, marked⟩
  have fromDocs : Nearest disk docs root :=
    ⟨[docs], [.ofString "/"], .step rfl upward, by simpa using bare, marked⟩
  have located : disk.canonical (.ofString (overrides.repoRoot.getD ".")) = .ok root := by
    simp only [disk, overrides, root]
    rfl
  have linked : disk.canonical (.ofString (other.repoRoot.getD ".")) = .ok docs := by
    simp only [disk, other, docs]
    rfl
  obtain ⟨detected, alike⟩ := detectRoot_nearest
  obtain ⟨_, _, _, _, _, nearest⟩ := detected disk docs (by decide)
  obtain ⟨same, directory⟩ := nearest root fromDocs
  exact ⟨tree, fromDocs, same, directory tree, located, linked,
    alike disk overrides other root docs root rfl rfl rfl located linked fromRoot fromDocs⟩

end Config

end TagAudit
