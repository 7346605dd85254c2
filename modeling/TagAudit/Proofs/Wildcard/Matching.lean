import Mathlib.Data.List.Chain
import TagAudit.Wildcard.Basic

/-! What wildcards match, apart from the order in which the ends of a text are tried, and the
patterns that end in `**`. -/

namespace TagAudit

namespace WildcardToken

def fits : WildcardToken → Char → Bool
  | literal d, c => c == d
  | anyChar, _ => true
  | within ranges, c => Wildcard.inRanges ranges c
  | except ranges, c => !Wildcard.inRanges ranges c
  | anyText, _ | anyDirectories, _ => false

def isSingle : WildcardToken → Bool
  | anyText | anyDirectories => false
  | _ => true

end WildcardToken

namespace Wildcard

open WildcardToken

variable {tokens : List WildcardToken} {t u v : List Char}

/-- Whether `u` is left of `t` behind some directories; the last piece counts as one. -/
def Below (u t : List Char) : Prop :=
  u = [] ∨ ∃ above, t = above ++ '/' :: u

theorem Below.isSuffix (below : Below u t) : u <:+ t := by
  cases below with
  | inl empty => exact empty ▸ List.nil_suffix
  | inr behind =>
      obtain ⟨above, rfl⟩ := behind
      exact ⟨above ++ ['/'], by simp⟩

theorem Below.trans (near : Below u v) (far : Below v t) : Below u t := by
  cases near with
  | inl empty => exact .inl empty
  | inr behind =>
      obtain ⟨above, rfl⟩ := behind
      cases far with
      | inl empty => simp at empty
      | inr further =>
          obtain ⟨top, rfl⟩ := further
          exact .inr ⟨top ++ '/' :: above, by simp⟩

/-- The texts that tokens match, one token after another. -/
inductive Matches : List WildcardToken → List Char → Prop
  | done : Matches [] []
  | single {token : WildcardToken} {tokens : List WildcardToken} {c : Char} {rest : List Char} :
      token.fits c → Matches tokens rest → Matches (token :: tokens) (c :: rest)
  | text {tokens : List WildcardToken} {t rest : List Char} :
      rest <:+ t → Matches tokens rest → Matches (.anyText :: tokens) t
  | directories {tokens : List WildcardToken} {t rest : List Char} :
      rest = t ∨ Below rest t → Matches tokens rest → Matches (.anyDirectories :: tokens) t

theorem matches_single_cons {token : WildcardToken} {c : Char} (single : token.isSingle) :
    Matches (token :: tokens) (c :: t) ↔ token.fits c ∧ Matches tokens t := by
  constructor
  · intro all
    cases all with
    | single fits rest => exact ⟨fits, rest⟩
    | text | directories => simp [isSingle] at single
  · intro all
    exact .single all.1 all.2

theorem not_matches_single_nil {token : WildcardToken} (single : token.isSingle) :
    ¬Matches (token :: tokens) [] := by
  intro all
  cases all with
  | text | directories => simp [isSingle] at single

theorem matches_text_iff :
    Matches (.anyText :: tokens) t ↔ ∃ u, u <:+ t ∧ Matches tokens u := by
  constructor
  · intro all
    cases all with
    | single fits => simp [WildcardToken.fits] at fits
    | text ends rest => exact ⟨_, ends, rest⟩
  · intro ⟨u, ends, rest⟩
    exact .text ends rest

theorem matches_directories_iff :
    Matches (.anyDirectories :: tokens) t ↔ ∃ u, (u = t ∨ Below u t) ∧ Matches tokens u := by
  constructor
  · intro all
    cases all with
    | single fits => simp [WildcardToken.fits] at fits
    | directories ends rest => exact ⟨_, ends, rest⟩
  · intro ⟨u, ends, rest⟩
    exact .directories ends rest

/-! The search for a match gives up early when a text is exhausted.  This is right since a
`**` stands behind a slash, and so what is tried later is tried behind a slash too. -/

/-- Whether each `**` but the first token stands behind a slash, or behind another one. -/
def Bounded (tokens : List WildcardToken) : Prop :=
  tokens.IsChain fun token next =>
    next = .anyDirectories → token = .literal '/' ∨ token = .anyDirectories

theorem Bounded.tail {token : WildcardToken} (bounded : Bounded (token :: tokens)) :
    Bounded tokens :=
  List.IsChain.tail bounded

theorem Bounded.behind {token : WildcardToken}
    (bounded : Bounded (token :: .anyDirectories :: tokens)) :
    token = .literal '/' ∨ token = .anyDirectories :=
  (List.isChain_cons_cons.mp bounded).1 rfl

/-- The ends of a text at which tokens may be tried later. -/
def Later (tokens : List WildcardToken) (u t : List Char) : Prop :=
  if tokens.head? = some .anyDirectories then u = t ∨ Below u t else u <:+ t

theorem Later.of_below (tokens : List WildcardToken) (below : u = t ∨ Below u t) :
    Later tokens u t := by
  unfold Later
  split
  · exact below
  · cases below with
    | inl same => exact same ▸ List.suffix_refl u
    | inr below => exact below.isSuffix

theorem later_iff_isSuffix (other : tokens.head? ≠ some .anyDirectories) :
    Later tokens u t ↔ u <:+ t := by
  rw [Later, if_neg other]

def Outcome.Tells (tokens : List WildcardToken) (t : List Char) : Outcome → Prop
  | .matched => Matches tokens t
  | .mismatch => ¬Matches tokens t
  | .exhausted => ∀ u, Later tokens u t → ¬Matches tokens u

theorem Outcome.tells_of_none {outcome : Outcome}
    (some : outcome = .matched → Matches tokens t)
    (none : outcome ≠ .matched → ∀ u, Later tokens u t → ¬Matches tokens u) :
    outcome.Tells tokens t := by
  cases outcome with
  | matched => exact some rfl
  | mismatch => exact none (by simp) t (.of_below tokens (.inl rfl))
  | exhausted => exact none (by simp)

def Outcome.Finds (tokens : List WildcardToken) (tried : List Char → Prop)
    (outcome : Outcome) : Prop :=
  (outcome = .matched → ∃ u, tried u ∧ Matches tokens u) ∧
    (outcome ≠ .matched → ∀ u, tried u → ¬Matches tokens u)

theorem Outcome.Tells.finds {outcome : Outcome} (tells : outcome.Tells tokens t) :
    outcome.Finds tokens (· = t) := by
  cases outcome with
  | matched => exact ⟨fun _ => ⟨t, rfl, tells⟩, by simp⟩
  | mismatch => exact ⟨by simp, fun _ u same => same ▸ tells⟩
  | exhausted => exact ⟨by simp, fun _ u same => tells u (.of_below tokens (.inl same))⟩

theorem Outcome.Tells.orElse {outcome : Outcome} {other : Unit → Outcome}
    {tried : List Char → Prop} (tells : outcome.Tells tokens t)
    (later : ∀ u, tried u → Later tokens u t) (finds : (other ()).Finds tokens tried) :
    (outcome.orElse other).Finds tokens fun u => u = t ∨ tried u := by
  cases outcome with
  | matched => exact ⟨fun _ => ⟨t, .inl rfl, tells⟩, by simp [Outcome.orElse]⟩
  | mismatch =>
      refine ⟨fun found => ?_, fun missed u tried => ?_⟩
      · obtain ⟨u, tried, all⟩ := finds.1 found
        exact ⟨u, .inr tried, all⟩
      · cases tried with
        | inl same => exact same ▸ tells
        | inr tried => exact finds.2 missed u tried
  | exhausted =>
      refine ⟨by simp [Outcome.orElse], fun _ u tried => tells u ?_⟩
      cases tried with
      | inl same => exact .of_below tokens (.inl same)
      | inr tried => exact later u tried

variable {matchRest : List Char → Outcome}

theorem afterText_finds (tells : ∀ t, (matchRest t).Tells tokens t)
    (other : tokens.head? ≠ some .anyDirectories) (t : List Char) :
    (afterText matchRest t).Finds tokens (· <:+ t) := by
  induction t with
  | nil =>
      simp only [List.suffix_nil]
      exact (tells []).finds
  | cons c t induction =>
      simp only [List.suffix_cons_iff]
      refine (tells (c :: t)).orElse (fun u ends => ?_) induction
      exact (later_iff_isSuffix other).mpr (ends.trans (List.suffix_cons c t))

theorem below_nil_iff : Below u [] ↔ u = [] :=
  ⟨fun below => List.suffix_nil.mp below.isSuffix, .inl⟩

theorem below_cons_iff {c : Char} (other : c ≠ '/') : Below u (c :: t) ↔ Below u t := by
  unfold Below
  refine or_congr_right ⟨fun ⟨above, same⟩ => ?_, fun ⟨above, same⟩ => ⟨c :: above, by simp [same]⟩⟩
  cases above with
  | nil => exact absurd (List.cons.inj same).1 other
  | cons d above => exact ⟨above, (List.cons.inj same).2⟩

theorem below_slash_iff : Below u ('/' :: t) ↔ u = t ∨ Below u t := by
  unfold Below
  constructor
  · intro below
    rcases below with empty | ⟨above, same⟩
    · exact .inr (.inl empty)
    · cases above with
      | nil => exact .inl (List.cons.inj same).2.symm
      | cons d above => exact .inr (.inr ⟨above, (List.cons.inj same).2⟩)
  · intro below
    rcases below with same | empty | ⟨above, same⟩
    · exact .inr ⟨[], by simp [same]⟩
    · exact .inl empty
    · exact .inr ⟨'/' :: above, by simp [same]⟩

theorem afterDirectories_finds (tells : ∀ t, (matchRest t).Tells tokens t) (t : List Char) :
    (afterDirectories matchRest t).Finds tokens (Below · t) := by
  induction t with
  | nil =>
      simp only [below_nil_iff]
      exact (tells []).finds
  | cons c t induction =>
      unfold afterDirectories
      split
      next slash =>
        subst slash
        simp only [below_slash_iff]
        exact (tells t).orElse (fun u below => .of_below tokens (.inr below)) induction
      next other =>
        simp only [below_cons_iff other]
        exact induction

theorem matchTokens_single_cons {token : WildcardToken} (single : token.isSingle) (c : Char) :
    matchTokens (token :: tokens) (c :: t) =
      if token.fits c then matchTokens tokens t else .mismatch := by
  cases token with
  | anyText | anyDirectories => simp [isSingle] at single
  | literal | anyChar | within | except => rfl

theorem matchTokens_single_nil {token : WildcardToken} (single : token.isSingle) :
    matchTokens (token :: tokens) [] = .exhausted := by
  cases token with
  | anyText | anyDirectories => simp [isSingle] at single
  | literal | anyChar | within | except => rfl

/-- The same token takes the character before each of two ends.  Where that is the slash before
`**`, the ends are alike. -/
theorem Later.of_single {token : WildcardToken} (bounded : Bounded (token :: tokens)) {c d : Char}
    (fits : token.fits c) (takes : token.fits d) (ends : d :: u <:+ c :: t) : Later tokens u t := by
  unfold Later
  split
  next leads =>
    obtain ⟨tokens, rfl⟩ := List.head?_eq_some_iff.mp leads
    cases bounded.behind with
    | inl slash =>
        subst slash
        simp only [WildcardToken.fits, beq_iff_eq] at fits takes
        subst fits takes
        exact below_slash_iff.mp (.inr (ends.imp fun _ => Eq.symm))
    | inr directories =>
        subst directories
        cases fits
  next =>
    cases List.suffix_cons_iff.mp ends with
    | inl same => exact (List.cons.inj same).2 ▸ List.suffix_refl u
    | inr ends => exact (List.suffix_cons d u).trans ends

theorem single_tells {token : WildcardToken} (single : token.isSingle)
    (bounded : Bounded (token :: tokens)) (tells : ∀ t, (matchTokens tokens t).Tells tokens t)
    (t : List Char) : (matchTokens (token :: tokens) t).Tells (token :: tokens) t := by
  have other : (token :: tokens).head? ≠ some .anyDirectories := by
    intro same
    rw [Option.some_inj.mp same] at single
    cases single
  cases t with
  | nil =>
      rw [matchTokens_single_nil single]
      intro u ends
      rw [List.suffix_nil.mp ((later_iff_isSuffix other).mp ends)]
      exact not_matches_single_nil single
  | cons c t =>
      have here := tells t
      rw [matchTokens_single_cons single]
      split
      next fits =>
        cases outcome : matchTokens tokens t with
        | matched =>
            rw [outcome] at here
            exact .single fits here
        | mismatch =>
            rw [outcome] at here
            exact fun all => here ((matches_single_cons single).mp all).2
        | exhausted =>
            rw [outcome] at here
            intro u ends all
            cases u with
            | nil => exact not_matches_single_nil single all
            | cons d u =>
                obtain ⟨takes, all⟩ := (matches_single_cons single).mp all
                rw [later_iff_isSuffix other] at ends
                exact here u (.of_single bounded fits takes ends) all
      next misfit => exact fun all => misfit ((matches_single_cons single).mp all).1

theorem matchTokens_tells (bounded : Bounded tokens) (t : List Char) :
    (matchTokens tokens t).Tells tokens t := by
  induction tokens generalizing t with
  | nil =>
      cases t with
      | nil => exact .done
      | cons c t =>
          change ¬Matches [] (c :: t)
          intro all
          cases all
  | cons token tokens induction =>
      have tells := induction bounded.tail
      cases token with
      | anyText =>
          have other : tokens.head? ≠ some .anyDirectories := by
            intro leads
            obtain ⟨tokens, rfl⟩ := List.head?_eq_some_iff.mp leads
            simpa using bounded.behind
          have finds := afterText_finds tells other t
          refine Outcome.tells_of_none (fun found => matches_text_iff.mpr (finds.1 found)) ?_
          intro missed u ends all
          obtain ⟨v, further, all⟩ := matches_text_iff.mp all
          rw [later_iff_isSuffix (by simp)] at ends
          exact finds.2 missed v (further.trans ends) all
      | anyDirectories =>
          have finds : ((matchTokens tokens t).orElse fun () =>
              afterDirectories (matchTokens tokens) t).Finds tokens fun u => u = t ∨ Below u t :=
            (tells t).orElse (fun u below => .of_below tokens (.inr below))
              (afterDirectories_finds tells t)
          refine Outcome.tells_of_none (fun found => matches_directories_iff.mpr (finds.1 found)) ?_
          intro missed u ends all
          obtain ⟨v, further, all⟩ := matches_directories_iff.mp all
          refine finds.2 missed v ?_ all
          rw [Later, if_pos (by simp)] at ends
          rcases further with rfl | further
          · exact ends
          · rcases ends with rfl | ends
            · exact .inr further
            · exact .inr (further.trans ends)
      | literal | anyChar | within | except => exact single_tells rfl bounded tells t

theorem accepts_iff {pattern : Wildcard} (bounded : Bounded pattern.tokens) :
    pattern.accepts t ↔ Matches pattern.tokens t := by
  have tells := matchTokens_tells bounded t
  unfold accepts
  cases outcome : matchTokens pattern.tokens t with
  | matched =>
      rw [outcome] at tells
      exact iff_of_true rfl tells
  | mismatch =>
      rw [outcome] at tells
      exact iff_of_false (by simp) tells
  | exhausted =>
      rw [outcome] at tells
      exact iff_of_false (by simp) (tells t (.of_below _ (.inl rfl)))

end Wildcard

end TagAudit
