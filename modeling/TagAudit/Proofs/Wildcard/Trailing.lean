import TagAudit.Proofs.Wildcard.Reading

/-! Patterns that end in `**`: what they match below a directory, they match all of. -/

namespace TagAudit.Wildcard

variable {tokens : List WildcardToken} {t above tail : List Char}

theorem matches_of_only (only : ∀ token ∈ tokens, token = .anyDirectories) (some : tokens ≠ [])
    (t : List Char) : Matches tokens t := by
  induction tokens generalizing t with
  | nil => exact absurd rfl some
  | cons token tokens induction =>
      rw [List.forall_mem_cons] at only
      rw [only.1]
      refine .directories (.inr (.inl rfl)) ?_
      cases tokens with
      | nil => exact .done
      | cons next tokens => exact induction only.2 (by simp) []

/-- Without a slash to match, a pattern that ends in `**` is nothing else. -/
theorem Matches.only (all : Matches tokens t) (bounded : Bounded tokens)
    (ends : ∀ token ∈ tokens.getLast?, token = .anyDirectories) (whole : '/' ∉ t) :
    ∀ token ∈ tokens, token = .anyDirectories := by
  induction all with
  | done => simp
  | @single token tokens c rest fits all induction =>
      cases tokens with
      | nil =>
          cases ends token rfl
          cases fits
      | cons next tokens =>
          rw [List.mem_cons, not_or] at whole
          have only := induction bounded.tail ends whole.2
          rw [List.forall_mem_cons] at only
          rw [only.1] at bounded
          rcases bounded.behind with rfl | rfl
          · simp [WildcardToken.fits] at fits
            exact absurd fits.symm whole.1
          · cases fits
  | @text tokens t rest isSuffix all induction =>
      cases tokens with
      | nil => simp at ends
      | cons next tokens =>
          have only := induction bounded.tail ends fun member => whole (isSuffix.mem member)
          rw [only next List.mem_cons_self] at bounded
          simpa using bounded.behind
  | @directories tokens t rest left all induction =>
      refine List.forall_mem_cons.mpr ⟨rfl, ?_⟩
      cases tokens with
      | nil => simp
      | cons next tokens =>
          refine induction bounded.tail ends fun member => whole ?_
          rcases left with rfl | below
          · exact member
          · exact below.isSuffix.mem member

theorem cut_cases {front back : List Char} (cut : front ++ back = above ++ '/' :: tail) :
    (∃ more, above = front ++ more ∧ back = more ++ '/' :: tail) ∨
      ∃ more, front = above ++ '/' :: more ∧ tail = more ++ back := by
  rcases List.append_eq_append_iff.mp cut with ⟨more, rfl, same⟩ | ⟨more, rfl, same⟩
  · exact .inl ⟨more, rfl, same⟩
  · cases more with
    | nil => exact .inl ⟨[], by simp, same.symm⟩
    | cons slash more =>
        obtain ⟨rfl, rfl⟩ := List.cons.inj same
        exact .inr ⟨more, rfl, rfl⟩

theorem matches_subtree (all : Matches tokens t) (bounded : Bounded tokens)
    (ends : ∀ token ∈ tokens.getLast?, token = .anyDirectories) (rest : List Char)
    (probe : t = above ++ '/' :: tail) (whole : '/' ∉ tail) :
    Matches tokens (above ++ '/' :: rest) := by
  induction all generalizing above with
  | done => simp at probe
  | @single token tokens c left fits all induction =>
      cases tokens with
      | nil =>
          cases ends token rfl
          cases fits
      | cons next tokens =>
          cases above with
          | nil =>
              obtain ⟨rfl, rfl⟩ := List.cons.inj probe
              exact .single fits (matches_of_only (all.only bounded.tail ends whole) (by simp) rest)
          | cons d above =>
              obtain ⟨rfl, below⟩ := List.cons.inj probe
              exact .single fits (induction bounded.tail ends below)
  | @text tokens t left isSuffix all induction =>
      cases tokens with
      | nil => simp at ends
      | cons next tokens =>
          obtain ⟨skipped, rfl⟩ := isSuffix
          rcases cut_cases probe with ⟨more, rfl, below⟩ | ⟨more, rfl, rfl⟩
          · exact .text ⟨skipped, by simp⟩ (induction bounded.tail ends below)
          · have only := all.only bounded.tail ends fun member =>
              whole (List.mem_append_right more member)
            rw [only next List.mem_cons_self] at bounded
            simpa using bounded.behind
  | @directories tokens t left stop all induction =>
      cases tokens with
      | nil => exact matches_of_only (by simp) (by simp) _
      | cons next tokens =>
          have last (same : left = tail) :
              Matches (.anyDirectories :: next :: tokens) (above ++ '/' :: rest) := by
            have only := all.only bounded.tail ends (same ▸ whole)
            exact matches_of_only (List.forall_mem_cons.mpr ⟨rfl, only⟩) (by simp) _
          rcases stop with rfl | rfl | ⟨skipped, rfl⟩
          · exact .directories (.inl rfl) (induction bounded.tail ends probe)
          · exact .directories (.inr (.inl rfl)) all
          · rcases cut_cases probe with ⟨more, rfl, behind⟩ | ⟨more, rfl, rfl⟩
            · cases more with
              | nil => exact last (List.cons.inj behind).2
              | cons slash more =>
                  obtain ⟨rfl, below⟩ := List.cons.inj behind
                  refine .directories (.inr (.inr ⟨skipped, ?_⟩))
                    (induction bounded.tail ends below)
                  simp
            · exact absurd (List.mem_append_right more List.mem_cons_self) whole

/-- A pattern of whole directories that matches one name below a directory matches all that
is below it. -/
theorem accepts_subtree {pattern : Wildcard} (bounded : Bounded pattern.tokens)
    (ends : pattern.tokens.getLast? = some .anyDirectories)
    (probe : pattern.accepts (above ++ ['/', '_'])) (rest : List Char) :
    pattern.accepts (above ++ '/' :: rest) := by
  rw [accepts_iff bounded] at probe ⊢
  refine matches_subtree probe bounded (fun token last => ?_) rest rfl (by simp)
  rw [ends] at last
  exact (Option.some_inj.mp last).symm

end TagAudit.Wildcard
