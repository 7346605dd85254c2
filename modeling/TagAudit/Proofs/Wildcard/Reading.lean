import Mathlib.Data.List.TakeWhile
import TagAudit.Proofs.List.Traversal
import TagAudit.Proofs.Text.Splitting
import TagAudit.Proofs.Wildcard.Matching

/-! How the text of a pattern is read. -/

namespace TagAudit

namespace Wildcard

open Text

variable {tokens read : List WildcardToken} {token : WildcardToken} {before : Option Char}
  {last : Char} {cs after : List Char} {fuel position : Nat}

/-! One token. -/

/-- The token that a text begins with behind `before`, the character that counts as the last of
it, and what follows it. -/
inductive Begins : Option Char → List Char → WildcardToken → Char → List Char → Prop
  | anyChar {before : Option Char} {rest : List Char} :
      Begins before ('?' :: rest) .anyChar '?' rest
  | anyText {before : Option Char} {rest : List Char} (single : rest.head? ≠ some '*') :
      Begins before ('*' :: rest) .anyText '*' rest
  | directories {before : Option Char} {rest : List Char} (bound : before.all (· = '/'))
      (ends : rest.head?.all (· = '/')) :
      Begins before ('*' :: '*' :: rest) .anyDirectories '/' (rest.drop 1)
  | set {before : Option Char} {rest after : List Char} {token : WildcardToken}
      (bracket : readBracket? rest = some (token, after)) :
      Begins before ('[' :: rest) token ']' after
  | literal {before : Option Char} {rest : List Char} {c : Char} (plain : c ∉ ['?', '*', '[']) :
      Begins before (c :: rest) (.literal c) c rest

def push (token : WildcardToken) (tokens : List WildcardToken) : List WildcardToken :=
  if token = .anyDirectories then pushDirectories tokens else token :: tokens

theorem readSet?_eq_some {ranges : List WildcardRange} (set : readSet? cs = some (ranges, after)) :
    ∃ c inner, cs = c :: inner ++ ']' :: after := by
  cases cs with
  | nil => simp [readSet?] at set
  | cons c rest =>
      simp only [readSet?, Option.map_eq_some_iff, Prod.exists, Prod.mk.injEq] at set
      obtain ⟨inner, _, split, -, rfl⟩ := set
      exact ⟨c, inner, by rw [(splitAt?_eq_some_iff.mp split).1, List.cons_append]⟩

theorem readBracket?_eq_some (bracket : readBracket? cs = some (token, after)) :
    ∃ ranges inner, (token = .within ranges ∨ token = .except ranges) ∧
      cs = inner ++ ']' :: after := by
  unfold readBracket? at bracket
  split at bracket
  all_goals
    simp only [Option.map_eq_some_iff, Prod.exists, Prod.mk.injEq] at bracket
    obtain ⟨ranges, _, set, rfl, rfl⟩ := bracket
    obtain ⟨c, inner, rfl⟩ := readSet?_eq_some set
  · exact ⟨ranges, '!' :: c :: inner, .inr rfl, rfl⟩
  · exact ⟨ranges, c :: inner, .inl rfl, rfl⟩

theorem Begins.isSuffix (begins : Begins before cs token last after) : after <:+ cs.tail := by
  cases begins with
  | anyChar | anyText | literal => exact List.suffix_refl _
  | directories => exact (List.drop_suffix 1 _).trans (List.suffix_cons _ _)
  | set bracket =>
      obtain ⟨ranges, inner, -, rfl⟩ := readBracket?_eq_some bracket
      exact ⟨inner ++ [']'], by simp⟩

theorem starsFault_eq_none_iff {rest : List Char} :
    starsFault before position rest = none ↔
      before.all (· = '/') ∧ rest.head?.all (· = '/') := by
  unfold starsFault
  split
  next other =>
    refine iff_of_false (by simp) fun ⟨bound, _⟩ => ?_
    cases before <;> simp_all
  next bound =>
    have bound : before.all (· = '/') := by cases before <;> simp_all
    rw [and_iff_right bound]
    split
    next => simp
    next => simp
    next notNil notSlash =>
      cases rest with
      | nil => exact absurd rfl notNil
      | cons c rest =>
          refine iff_of_false (by simp) fun slash => notSlash rest ?_
          rw [of_decide_eq_true slash]

theorem readTokens_of_begins (begins : Begins before cs token last after) (fuel : Nat)
    (tokens : List WildcardToken) (position : Nat) :
    ∃ next, readTokens (fuel + 1) tokens before position cs =
      readTokens fuel (push token tokens) (some last) next after := by
  cases begins with
  | anyChar => exact ⟨position + 1, rfl⟩
  | anyText single =>
      have none : after.takeWhile (· == '*') = [] := by
        cases after with
        | nil => rfl
        | cons c after => exact List.takeWhile_cons_of_neg (by simpa using single)
      exact ⟨position + 1, by simp [readTokens, none, push]⟩
  | @directories rest bound ends =>
      have two : rest.takeWhile (· == '*') = [] ∧ rest.dropWhile (· == '*') = rest := by
        cases rest with
        | nil => exact ⟨rfl, rfl⟩
        | cons c rest =>
            have slash : c = '/' := by simpa using ends
            simp [slash]
      have fits : starsFault before position rest = none :=
        starsFault_eq_none_iff.mpr ⟨bound, ends⟩
      exact ⟨position + 3, by simp [readTokens, two, fits, push]⟩
  | @set rest after token bracket =>
      obtain ⟨ranges, _, rfl | rfl, -⟩ := readBracket?_eq_some bracket
      all_goals
        exact ⟨position + (rest.length - after.length + 1), by simp [readTokens, bracket, push]⟩
  | literal plain =>
      simp only [List.mem_cons, List.not_mem_nil, or_false, not_or] at plain
      refine ⟨position + 1, ?_⟩
      rw [readTokens]
      · rfl
      · exact plain.1
      · exact plain.2.1
      · exact plain.2.2

theorem exists_begins {c : Char} {rest : List Char}
    (ok : readTokens (fuel + 1) tokens before position (c :: rest) = .ok read) :
    ∃ token last after, Begins before (c :: rest) token last after := by
  unfold readTokens at ok
  dsimp only at ok
  split at ok
  next => exact ⟨_, _, _, .anyChar⟩
  next =>
    split at ok
    next none =>
      refine ⟨_, _, _, .anyText fun first => ?_⟩
      obtain ⟨rest, rfl⟩ := List.head?_eq_some_iff.mp first
      simp at none
    next single =>
      split at ok
      next => cases ok
      next fits =>
        have whole := List.takeWhile_append_dropWhile (p := (· == '*')) (l := rest)
        obtain ⟨star, stars⟩ := List.length_eq_one_iff.mp single
        have isStar : star = '*' := by
          have member : star ∈ rest.takeWhile (· == '*') := stars ▸ List.mem_singleton_self star
          simpa using List.mem_takeWhile_imp member
        rw [stars, isStar] at whole
        rw [← whole]
        obtain ⟨bound, ends⟩ := starsFault_eq_none_iff.mp fits
        exact ⟨_, _, _, .directories bound ends⟩
    next => cases ok
  next =>
    split at ok
    next bracket => exact ⟨_, _, _, .set bracket⟩
    next => cases ok
  next notAny notStar notSet => exact ⟨_, _, _, .literal (by simp; tauto)⟩

/-- What holds of the tokens when nothing is read, and is kept by each token, holds of what is
read. -/
theorem readTokens_induction {motive : Option Char → List Char → List WildcardToken → Prop}
    (step : ∀ {before cs token last after tokens}, Begins before cs token last after →
      motive before cs tokens → motive (some last) after (push token tokens))
    (ok : readTokens fuel tokens before position cs = .ok read) (enough : cs.length ≤ fuel)
    (start : motive before cs tokens) : ∃ last, motive last [] read.reverse := by
  induction fuel generalizing tokens before position cs with
  | zero =>
      cases ok
      rw [List.eq_nil_of_length_eq_zero (Nat.le_zero.mp enough)] at start
      exact ⟨before, by rwa [List.reverse_reverse]⟩
  | succ fuel induction =>
      cases cs with
      | nil =>
          cases ok
          exact ⟨before, by rwa [List.reverse_reverse]⟩
      | cons c rest =>
          obtain ⟨token, last, after, begins⟩ := exists_begins ok
          obtain ⟨next, same⟩ := readTokens_of_begins begins fuel tokens position
          rw [same] at ok
          have shorter := begins.isSuffix.length_le
          exact induction ok (shorter.trans (Nat.le_of_succ_le_succ enough)) (step begins start)

theorem Begins.mem_of_literal {c : Char} (begins : Begins before cs token last after)
    (same : token = .literal c) : c ∈ cs := by
  cases begins with
  | literal =>
      cases same
      exact List.mem_cons_self
  | set bracket =>
      obtain ⟨_, _, rfl | rfl, -⟩ := readBracket?_eq_some bracket
      all_goals cases same
  | anyChar | anyText | directories => cases same

/-! A pattern that is read puts `**` between slashes only. -/

def EndsComponent (tokens : List WildcardToken) : Prop :=
  ∀ token ∈ tokens.head?, token = .literal '/' ∨ token = .anyDirectories

theorem bounded_reverse_cons {token : WildcardToken} :
    Bounded (token :: tokens).reverse ↔
      (token = .anyDirectories → EndsComponent tokens) ∧ Bounded tokens.reverse := by
  unfold Bounded EndsComponent
  rw [List.isChain_reverse, List.isChain_reverse, List.isChain_cons]
  refine and_congr_left fun _ => ?_
  exact ⟨fun all kind next member => all next member kind, fun all next member kind =>
    all kind next member⟩

theorem bounded_push (ends : token = .anyDirectories → EndsComponent tokens)
    (bounded : Bounded tokens.reverse) : Bounded (push token tokens).reverse := by
  unfold push
  split
  next same =>
    unfold pushDirectories
    split
    · exact bounded
    · exact bounded_reverse_cons.mpr ⟨fun _ => ends same, bounded⟩
  next other => exact bounded_reverse_cons.mpr ⟨fun same => absurd same other, bounded⟩

theorem endsComponent_push (slash : token = .literal '/' ∨ token = .anyDirectories) :
    EndsComponent (push token tokens) := by
  intro first leads
  unfold push pushDirectories at leads
  split at leads
  next =>
    split at leads
    next again =>
      rw [Bool.and_eq_true, beq_iff_eq] at again
      rw [again.2] at leads
      exact .inr (Option.some_inj.mp leads).symm
    next => exact .inr (Option.some_inj.mp leads).symm
  next other =>
    cases leads
    exact slash

/-- Before `**` stands a slash or nothing. -/
theorem Begins.bound (begins : Begins before cs token last after) (same : token = .anyDirectories) :
    before.all (· = '/') := by
  cases begins with
  | directories bound => exact bound
  | set bracket =>
      obtain ⟨_, _, rfl | rfl, -⟩ := readBracket?_eq_some bracket
      all_goals cases same
  | anyChar | anyText | literal => cases same

theorem Begins.slash (begins : Begins before cs token last after) (same : last = '/') :
    token = .literal '/' ∨ token = .anyDirectories := by
  cases begins with
  | anyChar | anyText | set => cases same
  | directories => exact .inr rfl
  | literal => exact .inl (by rw [same])

theorem read_bounded {text : List Char} {pattern : Wildcard}
    (ok : Wildcard.read text = .ok pattern) :
    Bounded pattern.tokens := by
  unfold Wildcard.read at ok
  cases made : readTokens text.length [] none 0 text with
  | error e => simp [made, Except.map] at ok
  | ok tokens =>
      rw [made] at ok
      cases ok
      have all := readTokens_induction
        (motive := fun before _ tokens =>
          Bounded tokens.reverse ∧ (before.all (· = '/') → EndsComponent tokens))
        (fun begins ⟨bounded, ends⟩ =>
          ⟨bounded_push (fun same => ends (begins.bound same)) bounded,
            fun slash => endsComponent_push (begins.slash (of_decide_eq_true slash))⟩)
        made le_rfl ⟨.nil, fun _ _ leads => by cases leads⟩
      obtain ⟨_, bounded, -⟩ := all
      rwa [List.reverse_reverse] at bounded

/-! The characters of a pattern without wildcards. -/

theorem mem_push {other : WildcardToken} (member : other ∈ push token tokens) :
    other = token ∨ other ∈ tokens := by
  unfold push pushDirectories at member
  split at member
  next same =>
    split at member
    · exact .inr member
    · rw [same]
      exact List.mem_cons.mp member
  next => exact List.mem_cons.mp member

theorem literal_mem_of_read {text : List Char} {pattern : Wildcard}
    (ok : Wildcard.read text = .ok pattern) {c : Char} (member : .literal c ∈ pattern.tokens) :
    c ∈ text := by
  unfold Wildcard.read at ok
  cases made : readTokens text.length [] none 0 text with
  | error e => simp [made, Except.map] at ok
  | ok tokens =>
      rw [made] at ok
      cases ok
      have all := readTokens_induction
        (motive := fun _ cs tokens => cs <:+ text ∧ ∀ c, .literal c ∈ tokens → c ∈ text)
        (fun begins ⟨ends, origin⟩ => by
          refine ⟨begins.isSuffix.trans ((List.tail_suffix _).trans ends), fun c member => ?_⟩
          rcases mem_push member with same | earlier
          · exact ends.mem (begins.mem_of_literal same.symm)
          · exact origin c earlier)
        made le_rfl ⟨List.suffix_refl text, by simp⟩
      obtain ⟨_, -, origin⟩ := all
      exact origin c (List.mem_reverse.mpr member)

theorem literal?_eq_some_iff {pattern : Wildcard} {name : List Char} :
    pattern.literal? = some name ↔ pattern.tokens = name.map .literal := by
  obtain ⟨tokens⟩ := pattern
  unfold literal?
  induction tokens generalizing name with
  | nil => cases name <;> simp
  | cons token tokens induction =>
      dsimp only at induction ⊢
      rw [List.mapM_cons]
      cases name with
      | nil => cases token <;> simp [bind, pure, Option.bind_eq_some_iff]
      | cons c name =>
          rw [List.map_cons, List.cons.injEq, ← induction]
          cases token <;> simp [bind, pure, Option.bind_eq_some_iff]
          exact and_comm

/-! Whether a text can be read. -/

inductive Readable : Option Char → List Char → Prop
  | nil {before : Option Char} : Readable before []
  | step {before : Option Char} {cs after : List Char} {token : WildcardToken} {last : Char} :
      Begins before cs token last after → Readable (some last) after → Readable before cs

theorem exists_readTokens_iff (enough : cs.length ≤ fuel) :
    (∃ read, readTokens fuel tokens before position cs = .ok read) ↔ Readable before cs := by
  constructor
  · rintro ⟨read, ok⟩
    induction fuel generalizing tokens before position cs with
    | zero =>
        rw [List.eq_nil_of_length_eq_zero (Nat.le_zero.mp enough)]
        exact .nil
    | succ fuel induction =>
        cases cs with
        | nil => exact .nil
        | cons c rest =>
            obtain ⟨token, last, after, begins⟩ := exists_begins ok
            obtain ⟨next, same⟩ := readTokens_of_begins begins fuel tokens position
            rw [same] at ok
            have shorter := begins.isSuffix.length_le
            exact .step begins (induction (shorter.trans (Nat.le_of_succ_le_succ enough)) ok)
  · intro readable
    induction readable generalizing fuel tokens position with
    | nil => cases fuel <;> exact ⟨_, rfl⟩
    | @step before cs after token last begins later induction =>
        cases cs with
        | nil => cases begins
        | cons c rest =>
            cases fuel with
            | zero => simp at enough
            | succ fuel =>
                have shorter := begins.isSuffix.length_le
                obtain ⟨next, same⟩ := readTokens_of_begins begins fuel tokens position
                rw [same]
                exact induction (shorter.trans (Nat.le_of_succ_le_succ enough))

theorem exists_read_iff {text : List Char} :
    (∃ pattern, Wildcard.read text = .ok pattern) ↔ Readable none text := by
  have whole :
      (∃ tokens, readTokens text.length [] none 0 text = .ok tokens) ↔ Readable none text :=
    exists_readTokens_iff le_rfl
  rw [← whole, Wildcard.read]
  cases readTokens text.length [] none 0 text <;> simp [Except.map]

theorem Begins.mono {before' : Option Char} (begins : Begins before cs token last after)
    (slash : before.all (· = '/') → before'.all (· = '/')) :
    Begins before' cs token last after := by
  cases begins with
  | anyChar => exact .anyChar
  | anyText single => exact .anyText single
  | directories bound ends => exact .directories (slash bound) ends
  | set bracket => exact .set bracket
  | literal plain => exact .literal plain

theorem readSet?_append {ranges : List WildcardRange} (set : readSet? cs = some (ranges, after))
    (more : List Char) : readSet? (cs ++ more) = some (ranges, after ++ more) := by
  cases cs with
  | nil => cases set
  | cons c rest =>
      simp only [readSet?, Option.map_eq_some_iff, Prod.exists, Prod.mk.injEq] at set
      obtain ⟨inner, after', split, rfl, rfl⟩ := set
      obtain ⟨rfl, first⟩ := splitAt?_eq_some_iff.mp split
      have further : splitAt? ']' (inner ++ ']' :: after' ++ more) = some (inner, after' ++ more) :=
        splitAt?_eq_some_iff.mpr ⟨by simp, first⟩
      rw [List.cons_append, readSet?, further]
      rfl

theorem readBracket?_append (bracket : readBracket? cs = some (token, after)) (more : List Char) :
    readBracket? (cs ++ more) = some (token, after ++ more) := by
  unfold readBracket? at bracket
  split at bracket
  next rest =>
    obtain ⟨⟨ranges, _⟩, set, same⟩ := Option.map_eq_some_iff.mp bracket
    cases same
    rw [List.cons_append, readBracket?, readSet?_append set]
    rfl
  next other =>
    obtain ⟨⟨ranges, _⟩, set, same⟩ := Option.map_eq_some_iff.mp bracket
    cases same
    cases cs with
    | nil => cases set
    | cons c rest =>
        rw [readBracket?, readSet?_append set]
        · rfl
        · intro rest' same
          obtain ⟨rfl, -⟩ := List.cons.inj same
          exact other rest rfl

theorem Readable.append {before' : Option Char} {rest : List Char} (readable : Readable before cs)
    (slash : before.all (· = '/') → before'.all (· = '/')) (whole : '/' ∉ cs)
    (later : Readable (some '/') rest) : Readable before' (cs ++ '/' :: rest) := by
  induction readable generalizing before' with
  | nil => exact .step (.literal (by decide)) later
  | @step _ _ after _ _ begins _ induction =>
      have further := fun member => whole (List.mem_of_mem_tail (begins.isSuffix.mem member))
      have goesOn := induction (fun all => all) further
      cases begins with
      | anyChar => exact .step .anyChar goesOn
      | anyText single =>
          refine .step (.anyText ?_) goesOn
          cases after with
          | nil => simp
          | cons c after => exact single
      | @directories rest' bound ends =>
          cases rest' with
          | nil =>
              have directories :
                  Begins before' ('*' :: '*' :: '/' :: rest) .anyDirectories '/' rest :=
                .directories (slash bound) rfl
              exact .step directories later
          | cons c rest' =>
              obtain rfl : c = '/' := by simpa using ends
              simp at whole
      | set bracket => exact .step (.set (readBracket?_append bracket _)) goesOn
      | literal plain => exact .step (.literal plain) goesOn

theorem readable_of_pieces {text : List Char}
    (pieces : ∀ piece ∈ splitOn '/' text, Readable none piece) : Readable (some '/') text := by
  by_cases slash : '/' ∈ text
  · obtain ⟨piece, rest, rfl, whole⟩ := List.eq_append_cons_of_mem slash
    rw [splitOn_append, splitOn_of_not_mem whole, List.forall_mem_append,
      List.forall_mem_singleton] at pieces
    exact pieces.1.append (fun _ => rfl) whole (readable_of_pieces pieces.2)
  · rw [splitOn_of_not_mem slash, List.forall_mem_singleton] at pieces
    cases pieces with
    | nil => exact .nil
    | step begins later => exact .step (begins.mono fun _ => rfl) later
termination_by text.length
decreasing_by
  have whole : text = piece ++ '/' :: rest := by assumption
  rw [whole, List.length_append, List.length_cons]
  omega

/-! Texts in which each character stands for a token by itself. -/

theorem Begins.length_lt (begins : Begins before cs token last after) :
    after.length < cs.length := by
  cases cs with
  | nil => cases begins
  | cons c rest => exact Nat.lt_succ_of_le begins.isSuffix.length_le

variable {text : List Char} {write : Char → List Char} {takes : Char → WildcardToken}

theorem readTokens_flatMap (single : ∀ c, (takes c).isSingle)
    (begins : ∀ c ∈ text, ∀ before rest,
      ∃ last, Begins before (write c ++ rest) (takes c) last rest)
    (enough : (text.flatMap write).length ≤ fuel) :
    readTokens fuel tokens before position (text.flatMap write) =
      .ok (tokens.reverse ++ text.map takes) := by
  induction text generalizing fuel tokens before position with
  | nil => cases fuel <;> simp [readTokens]
  | cons c text induction =>
      rw [List.forall_mem_cons] at begins
      rw [List.flatMap_cons] at enough ⊢
      obtain ⟨last, first⟩ := begins.1 before (text.flatMap write)
      have shorter := first.length_lt
      cases fuel with
      | zero => omega
      | succ fuel =>
          obtain ⟨next, same⟩ := readTokens_of_begins first fuel tokens position
          have pushed : push (takes c) tokens = takes c :: tokens := by
            rw [push, if_neg]
            intro directories
            have isSingle := single c
            rw [directories] at isSingle
            cases isSingle
          rw [same, pushed, induction begins.2 (by omega)]
          simp

theorem read_flatMap (single : ∀ c, (takes c).isSingle)
    (begins : ∀ c ∈ text, ∀ before rest,
      ∃ last, Begins before (write c ++ rest) (takes c) last rest) :
    Wildcard.read (text.flatMap write) = .ok ⟨text.map takes⟩ := by
  rw [Wildcard.read, readTokens_flatMap single begins le_rfl]
  rfl

theorem read_of_plain {text : List Char} (plain : ∀ c ∈ text, c ∉ ['?', '*', '[']) :
    Wildcard.read text = .ok ⟨text.map .literal⟩ := by
  have begins : ∀ c ∈ text, ∀ before rest,
      ∃ last, Begins before ([c] ++ rest) (.literal c) last rest :=
    fun c member _ _ => ⟨c, .literal (plain c member)⟩
  rw [← read_flatMap (fun _ => rfl) begins, List.flatMap_singleton']

end Wildcard

end TagAudit
