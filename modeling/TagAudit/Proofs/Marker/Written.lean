import TagAudit.Marker.Token
import TagAudit.Proofs.Text.Trimming

/-! The written forms of a marker, and that reading finds exactly these. -/

namespace TagAudit

open Text

namespace Marker

inductive Lead : Bool → List Char → Prop
  | opening {gap : List Char} (blank : ∀ c ∈ gap, isGap c = true) :
      Lead false (opener ++ gap ++ keyword)
  | closing {gap more : List Char} (blank : ∀ c ∈ gap, isGap c = true)
      (moreBlank : ∀ c ∈ more, isGap c = true) :
      Lead true (opener ++ gap ++ '/' :: more ++ keyword)

/-- What may stand between the keyword of a marker and its arrow. -/
structure Nameable (name : List Char) : Prop where
  single : '\n' ∉ name
  arrowless : ¬ arrow <:+: name

/-- The texts that a marker is written in. -/
inductive Written : Marker → List Char → Prop
  | intro {closing : Bool} {lead inner : List Char}
      (leads : Lead closing lead) (nameable : Nameable inner) :
      Written ⟨trim inner, closing⟩ (lead ++ inner ++ arrow)

theorem dropLead?_eq_some_iff {lead cs rest : List Char} :
    dropLead? lead cs = some rest ↔ cs = lead ++ rest := by
  fun_induction dropLead? lead cs with
  | case1 cs => simp
  | case2 l lead => simp
  | case3 l lead cs induction => simpa using induction
  | case4 l lead c cs differ => simp [Ne.symm differ]

private theorem isGap_keyword {rest : List Char} :
    (keyword ++ rest).takeWhile isGap = [] := rfl

private theorem takeWhile_gap {gap rest : List Char}
    (blank : ∀ c ∈ gap, isGap c = true) (stops : rest.takeWhile isGap = []) :
    (gap ++ rest).takeWhile isGap = gap := by
  rw [List.takeWhile_append_of_pos blank, stops, List.append_nil]

theorem readLead?_of_lead {closing : Bool} {lead : List Char}
    (leads : Lead closing lead) (rest : List Char) :
    readLead? (lead ++ rest) = some (closing, lead, rest) := by
  cases leads with
  | opening blank =>
      rename_i gap
      have entered : dropLead? opener (opener ++ gap ++ keyword ++ rest) =
          some (gap ++ (keyword ++ rest)) :=
        dropLead?_eq_some_iff.mpr (by simp)
      have passed : (gap ++ (keyword ++ rest)).takeWhile isGap = gap :=
        takeWhile_gap blank isGap_keyword
      have named : dropLead? keyword (keyword ++ rest) = some rest :=
        dropLead?_eq_some_iff.mpr rfl
      simp only [readLead?, entered, Option.bind_eq_bind, Option.bind_some, passed,
        List.drop_left]
      simp [keyword] at named ⊢
      simp [named]
  | closing blank moreBlank =>
      rename_i gap more
      have entered : dropLead? opener (opener ++ gap ++ '/' :: more ++ keyword ++ rest) =
          some (gap ++ '/' :: (more ++ (keyword ++ rest))) :=
        dropLead?_eq_some_iff.mpr (by simp)
      have passed : (gap ++ '/' :: (more ++ (keyword ++ rest))).takeWhile isGap = gap :=
        takeWhile_gap blank rfl
      have morePassed : (more ++ (keyword ++ rest)).takeWhile isGap = more :=
        takeWhile_gap moreBlank isGap_keyword
      have named : dropLead? keyword (keyword ++ rest) = some rest :=
        dropLead?_eq_some_iff.mpr rfl
      simp only [readLead?, entered, Option.bind_eq_bind, Option.bind_some, passed,
        List.drop_left, morePassed, named]
      rfl

private theorem exists_gap (cs : List Char) :
    ∃ gap rest, cs.takeWhile isGap = gap ∧ (∀ c ∈ gap, isGap c = true) ∧ cs = gap ++ rest := by
  obtain ⟨rest, split⟩ := List.takeWhile_prefix (l := cs) isGap
  exact ⟨_, rest, rfl, fun _ member => List.mem_takeWhile_imp member, split.symm⟩

theorem lead_of_readLead? {cs : List Char} {closing : Bool} {lead rest : List Char}
    (read : readLead? cs = some (closing, lead, rest)) :
    Lead closing lead ∧ cs = lead ++ rest := by
  simp only [readLead?, Option.bind_eq_bind, Option.bind_eq_some_iff] at read
  obtain ⟨inner, entered, read⟩ := read
  have split := dropLead?_eq_some_iff.mp entered
  obtain ⟨gap, tail, taken, blank, rfl⟩ := exists_gap inner
  rw [taken, List.drop_left] at read
  split at read
  next inner =>
    obtain ⟨more, tail, taken, moreBlank, rfl⟩ := exists_gap inner
    rw [taken, List.drop_left, Option.bind_eq_some_iff] at read
    obtain ⟨after, named, read⟩ := read
    have tailSplit := dropLead?_eq_some_iff.mp named
    cases read
    exact ⟨.closing blank moreBlank, by simp [split, tailSplit]⟩
  next =>
    rw [Option.bind_eq_some_iff] at read
    obtain ⟨after, named, read⟩ := read
    have tailSplit := dropLead?_eq_some_iff.mp named
    cases read
    exact ⟨.opening blank, by simp [split, tailSplit]⟩

/-! Names end at the first arrow. -/

theorem Nameable.of_infix {name part : List Char} (nameable : Nameable name)
    (within : part <:+: name) : Nameable part where
  single member := nameable.single (within.subset member)
  arrowless inside := nameable.arrowless (inside.trans within)

theorem untilArrow?_of_nameable {name : List Char} (nameable : Nameable name)
    (rest : List Char) : untilArrow? (name ++ arrow ++ rest) = some (name, rest) := by
  induction name with
  | nil => rfl
  | cons c name induction =>
      have step := induction (nameable.of_infix (List.suffix_cons c name).isInfix)
      have other : c ≠ '\n' := by
        rintro rfl
        exact nameable.single (by simp)
      rw [List.cons_append, List.cons_append, untilArrow?, step, if_neg other]
      · rfl
      · intro after dash tail
        -- An arrow that begins here lies in the name, or reaches into the arrow at its end.
        match name, tail with
        | [], tail => simp [arrow] at tail
        | [_], tail => simp [arrow] at tail
        | _ :: _ :: name, tail =>
            simp only [List.cons_append, List.cons.injEq] at tail
            obtain ⟨rfl, rfl, -⟩ := tail
            exact nameable.arrowless ⟨[], name, by simp [dash, arrow]⟩

private theorem not_arrow_infix_cons {c : Char} {name : List Char}
    (begins : ∀ rest, c = '-' → name = '-' :: '>' :: rest → False)
    (arrowless : ¬ arrow <:+: name) : ¬ arrow <:+: c :: name := by
  rw [List.infix_cons_iff]
  rintro (⟨rest, here⟩ | inside)
  · simp only [arrow, List.cons_append, List.nil_append, List.cons.injEq] at here
    exact begins rest here.1.symm here.2.symm
  · exact arrowless inside

theorem nameable_of_untilArrow? {cs name after : List Char}
    (read : untilArrow? cs = some (name, after)) :
    Nameable name ∧ cs = name ++ arrow ++ after := by
  fun_induction untilArrow? cs generalizing name after with
  | case1 => simp at read
  | case2 rest =>
      cases read
      exact ⟨⟨by simp, by simp [arrow]⟩, rfl⟩
  | case3 rest ends => simp at read
  | case4 c rest begins other induction =>
      rw [Option.map_eq_some_iff] at read
      obtain ⟨⟨front, back⟩, tail, same⟩ := read
      cases same
      obtain ⟨nameable, rfl⟩ := induction tail
      refine ⟨⟨?_, not_arrow_infix_cons ?_ nameable.arrowless⟩, rfl⟩
      · simp only [List.mem_cons, not_or]
        exact ⟨fun same => other same.symm, nameable.single⟩
      · rintro later rfl rfl
        exact begins (later ++ arrow ++ after) rfl rfl

/-! Reading finds the written forms, whatever follows them. -/

theorem read?_eq_some_iff {cs : List Char} {m : Marker} {text after : List Char} :
    read? cs = some (m, text, after) ↔ Written m text ∧ cs = text ++ after := by
  constructor
  · intro read
    simp only [read?, Option.bind_eq_bind, Option.bind_eq_some_iff] at read
    obtain ⟨⟨closing, lead, inner⟩, leadRead, ⟨name, rest⟩, nameRead, same⟩ := read
    cases same
    obtain ⟨leads, rfl⟩ := lead_of_readLead? leadRead
    obtain ⟨nameable, rfl⟩ := nameable_of_untilArrow? nameRead
    exact ⟨.intro leads nameable, by simp⟩
  · rintro ⟨⟨leads, nameable⟩, rfl⟩
    simp only [read?, List.append_assoc, readLead?_of_lead leads, Option.bind_eq_bind,
      Option.bind_some]
    rw [← List.append_assoc, untilArrow?_of_nameable nameable after]
    simp

theorem read?_of_written {m : Marker} {text : List Char} (written : Written m text)
    (after : List Char) : read? (text ++ after) = some (m, text, after) :=
  read?_eq_some_iff.mpr ⟨written, rfl⟩

private theorem not_mem_gap {gap : List Char} (blank : ∀ c ∈ gap, isGap c = true) {c : Char}
    (visible : isGap c = false) : c ∉ gap := by
  intro member
  exact absurd (visible.symm.trans (blank c member)) (by decide)

namespace Lead

theorem eq_cons {closing : Bool} {lead : List Char} (leads : Lead closing lead) :
    ∃ rest, lead = '<' :: rest ∧ '<' ∉ rest := by
  cases leads with
  | opening blank =>
      have gapless := not_mem_gap blank (c := '<') rfl
      exact ⟨_, rfl, by simpa [keyword] using gapless⟩
  | closing blank moreBlank =>
      have gapless := not_mem_gap blank (c := '<') rfl
      have moreGapless := not_mem_gap moreBlank (c := '<') rfl
      exact ⟨_, rfl, by simpa [keyword] using ⟨gapless, moreGapless⟩⟩

theorem newline_not_mem {closing : Bool} {lead : List Char} (leads : Lead closing lead) :
    '\n' ∉ lead := by
  cases leads with
  | opening blank =>
      have gapless := not_mem_gap blank (c := '\n') rfl
      simpa [opener, keyword] using gapless
  | closing blank moreBlank =>
      have gapless := not_mem_gap blank (c := '\n') rfl
      have moreGapless := not_mem_gap moreBlank (c := '\n') rfl
      simpa [opener, keyword] using ⟨gapless, moreGapless⟩

end Lead

namespace Written

variable {m : Marker} {text : List Char}

theorem eq_cons (written : Written m text) : ∃ rest, text = '<' :: rest := by
  cases written with
  | intro leads nameable =>
      obtain ⟨rest, rfl, -⟩ := leads.eq_cons
      exact ⟨_, rfl⟩

theorem ne_nil (written : Written m text) : text ≠ [] := by
  obtain ⟨rest, rfl⟩ := written.eq_cons
  simp

theorem newline_not_mem (written : Written m text) : '\n' ∉ text := by
  cases written with
  | intro leads nameable =>
      simp [leads.newline_not_mem, nameable.single, arrow]

theorem trim_name (written : Written m text) : trim m.name = m.name := by
  cases written
  exact trim_trim _

theorem nameable (written : Written m text) : Nameable m.name := by
  cases written with
  | intro leads nameable => exact nameable.of_infix (infix_trim _)

end Written

theorem written_render {m : Marker} (nameable : Nameable m.name) (tight : trim m.name = m.name) :
    Written m m.render := by
  obtain ⟨name, closing⟩ := m
  have leads : Lead closing (opener ++ (if closing then ['/'] else []) ++ keyword) := by
    cases closing with
    | false => exact @Lead.opening [] (by simp)
    | true => exact @Lead.closing [] [] (by simp) (by simp)
  have written := Written.intro leads nameable
  rwa [tight] at written

end Marker

end TagAudit
