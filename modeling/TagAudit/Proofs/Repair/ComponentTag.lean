import TagAudit.Proofs.Marker.TagTree
import TagAudit.Proofs.Marker.Usable
import TagAudit.Proofs.Repair.Header

/-! What a text says once the line of a component tag stands in it: all that it said before, and
the tag.  The line goes between two lines, so no marker is cut by it or runs into it, and it holds
no closing marker, so every opening marker is closed by the same one as before. -/

namespace TagAudit

open Text Marker

section Related

variable {α β γ : Type}

theorem exists_split_of_related {R : α → β → Prop} {front behind : List α} {a : α} {bs : List β}
    (related : List.Forall₂ R (front ++ a :: behind) bs) :
    ∃ before b after, bs = before ++ b :: after ∧ List.Forall₂ R front before ∧ R a b ∧
      List.Forall₂ R behind after := by
  induction front generalizing bs with
  | nil =>
      cases related with
      | cons here later => exact ⟨[], _, _, rfl, .nil, here, later⟩
  | cons first front induction =>
      cases related with
      | @cons _ b _ _ here later =>
          obtain ⟨before, found, after, rfl, begins, between, ends⟩ := induction later
          exact ⟨b :: before, found, after, rfl, .cons here begins, between, ends⟩

theorem related_comp {R : α → β → Prop} {S : β → γ → Prop} {as : List α} {bs : List β}
    {cs : List γ} (first : List.Forall₂ R as bs) (second : List.Forall₂ S bs cs) :
    List.Forall₂ (fun a c => ∃ b, R a b ∧ S b c) as cs := by
  induction first generalizing cs with
  | nil =>
      cases second
      exact .nil
  | cons here _ induction =>
      cases second with
      | cons next later => exact .cons ⟨_, here, next⟩ (induction later)

theorem rel_find? {R : α → β → Prop} {p : α → Bool} {q : β → Bool} {as : List α} {bs : List β}
    (related : List.Forall₂ R as bs) (same : ∀ a b, R a b → p a = q b) :
    Option.Rel R (as.find? p) (bs.find? q) := by
  induction related with
  | nil => exact .none
  | @cons a b _ _ here _ induction =>
      rw [List.find?_cons, List.find?_cons, ← same a b here]
      cases p a with
      | true => exact .some here
      | false => exact induction

end Related

namespace Edit

theorem shifted_lt_shifted (edit : Edit) {m n : Nat} :
    shifted [edit] m < shifted [edit] n ↔ m < n := by
  rcases Nat.lt_or_ge m edit.offset with before | behind <;>
    rcases Nat.lt_or_ge n edit.offset with later | beyond <;>
    simp only [shifted_of_lt, shifted_of_le, *] <;> omega

end Edit

/-! Tokens. -/

/-- A token before and after an edit: the same marker, written in as many bytes, at the place that
the edit moves it to. -/
structure Token.Moved (edit : Edit) (token token' : Token) : Prop where
  marker : token'.marker = token.marker
  start : token'.start = Edit.shifted [edit] token.start
  size : token'.stop - token'.start = token.stop - token.start

variable {edit : Edit} {above rest : List Char}

theorem moved_above (here : edit.offset = byteSize above) (others others' : List Char) :
    List.Forall₂ (Token.Moved edit) ((tokenize above).map (Token.followed others))
      ((tokenize above).map (Token.followed others')) := by
  rw [List.forall₂_map_left_iff, List.forall₂_map_right_iff, List.forall₂_same]
  intro token member
  have before := (sited_of_mem_tokenize member).start_lt
  exact ⟨rfl, (Edit.shifted_of_lt (here ▸ before)).symm, rfl⟩

theorem moved_below (here : edit.offset = byteSize above) :
    List.Forall₂ (Token.Moved edit) ((tokenize rest).map (Token.below above))
      (((tokenize rest).map (Token.below edit.text.toList)).map (Token.below above)) := by
  rw [List.map_map, List.forall₂_map_left_iff, List.forall₂_map_right_iff, List.forall₂_same]
  intro token _
  have behind : edit.offset ≤ (token.below above).start := here ▸ Nat.le_add_right _ _
  refine ⟨rfl, ?_, ?_⟩
  · rw [Edit.shifted_of_le behind]
    simp only [Function.comp_apply, Token.below]
    omega
  · simp only [Function.comp_apply, Token.below]
    omega

/-- Lines with one marker, added between the lines of a text, add their token to its tokens. -/
theorem tokenize_insert (here : edit.offset = byteSize above)
    (apart : Apart above edit.text.toList) (ends : EndsLine above ∨ rest = [])
    (whole : EndsLine edit.text.toList) {added : Token}
    (single : tokenize edit.text.toList = [added]) :
    ∃ front new behind, tokenize (edit.insert (above ++ rest)) = front ++ new :: behind ∧
      new.marker = added.marker ∧
      List.Forall₂ (Token.Moved edit) (tokenize (above ++ rest)) (front ++ behind) := by
  have shown : edit.text.toList ≠ [] := by
    intro empty
    simp [empty, tokenize, Token.readFrom] at single
  have apartBoth : Apart above (edit.text.toList ++ rest) := by
    rcases apart with ends | empty | ⟨more, starts⟩
    · exact .inl ends
    · exact absurd empty shown
    · exact .inr (.inr ⟨more ++ rest, by rw [starts, List.cons_append]⟩)
  have apartRest : Apart above rest := ends.imp_right .inl
  rw [Edit.insert_append here, tokenize_append_of_apart apartBoth, tokenize_append whole, single,
    tokenize_append_of_apart apartRest]
  simp only [List.map_cons, List.map_nil, List.singleton_append]
  exact ⟨_, _, _, rfl, rfl, List.rel_append (moved_above here _ _) (moved_below here)⟩

/-! Occurrences. -/

theorem map_fst_openings (tokens : List Token) :
    (Token.openings tokens).map Prod.fst = tokens.filter (!·.marker.closing) := by
  induction tokens with
  | nil => rfl
  | cons token later induction =>
      rw [Token.openings]
      cases closing : token.marker.closing <;> simp [closing, induction]

namespace Occurrence

/-- The first token behind the opening marker of an occurrence that closes its tag. -/
def closingToken? (o : Occurrence) (content : List Char) : Option Token :=
  (tokenize content).find? fun token => o.openOffset < token.start && token.closes o.tag.toList

/-- The scan has taken `close` for the token that closes an occurrence. -/
structure ClosedBy (o : Occurrence) (content : List Char) (close : Token) : Prop where
  closed : o.closure = .closed
  first : o.closingToken? content = some close
  endLine : o.endLine = lineAt close.start content

structure Moved (edit : Edit) (content edited : List Char) (o o' : Occurrence) : Prop where
  tag : o'.tag = o.tag
  kind : o'.kind = o.kind
  openOffset : o'.openOffset = Edit.shifted [edit] o.openOffset
  closed : o.closure = .closed → ∃ close close', o.ClosedBy content close ∧
    o'.ClosedBy edited close' ∧ close.Moved edit close'

end Occurrence

namespace ScanOptions

variable {options : ScanOptions} {file content : String} {o : Occurrence}

theorem Reads.closingToken?_eq {cs : List Char} {token : Token} {front later : List Token}
    (reads : options.Reads file cs token later o) (split : tokenize cs = front ++ token :: later) :
    o.closingToken? cs = later.find? (Token.closes token.marker.name) := by
  have order := pairwise_tokenize cs
  rw [split, List.pairwise_append, List.pairwise_cons] at order
  obtain ⟨-, ⟨behind, -⟩, before⟩ := order
  have passed (other : Token) (member : other ∈ front ++ [token]) :
      other.start ≤ token.start := by
    rcases List.mem_append.mp member with ahead | same
    · have begins := Token.start_lt_stop (split ▸ List.mem_append_left _ ahead)
      have apart := before other ahead token (.head _)
      omega
    · rw [List.mem_singleton.mp same]
  have none : (front ++ [token]).find? (fun other =>
      o.openOffset < other.start && other.closes o.tag.toList) = none := by
    rw [List.find?_eq_none]
    intro other member
    simp [reads.openOffset, Nat.not_lt.mpr (passed other member)]
  have begins := Token.start_lt_stop (show token ∈ tokenize cs by simp [split])
  rw [Occurrence.closingToken?, split, List.append_cons, List.find?_append, none, Option.none_or,
    ← List.head?_filter, ← List.head?_filter]
  refine congrArg List.head? (List.filter_congr fun other member => ?_)
  have beyond : token.start < other.start := begins.trans_le (behind other member)
  simp [reads.openOffset, beyond, reads.tag, Token.name]

theorem exists_reads_of_mem (member : o ∈ options.scan file content) :
    ∃ front token later, tokenize content.toList = front ++ token :: later ∧
      options.Reads file content.toList token later o := by
  obtain ⟨opening, opens, reads⟩ :=
    exists_right_of_mem (options.forall₂_reads_scan file content).flip member
  obtain ⟨front, split, -⟩ := Token.openings_cases opens
  exact ⟨front, opening.1, opening.2, split, reads⟩

theorem closed_iff (member : o ∈ options.scan file content) :
    o.closure = .closed ↔
      ¬ options.Faceted o.tag.toList ∧ (o.closingToken? content.toList).isSome = true := by
  obtain ⟨front, token, later, split, reads⟩ := exists_reads_of_mem member
  have name : o.tag.toList = token.marker.name := by
    rw [reads.tag, Token.name, String.toList_ofList]
  rw [reads.closed, reads.closingToken?_eq split, List.find?_isSome, name]

theorem exists_closedBy (member : o ∈ options.scan file content) (closed : o.closure = .closed) :
    ∃ close, o.ClosedBy content.toList close := by
  obtain ⟨front, token, later, split, reads⟩ := exists_reads_of_mem member
  obtain ⟨close, ⟨passed, rest, found, closes, none⟩, -, line, -⟩ := reads.ofClosed closed
  refine ⟨close, closed, ?_, line⟩
  rw [reads.closingToken?_eq split, List.find?_eq_some_iff_append]
  exact ⟨closes, passed, rest, found, by simpa using none⟩

theorem kind_iff (member : o ∈ options.scan file content) :
    o.kind = .dimension ↔ options.Faceted o.tag.toList := by
  obtain ⟨front, token, later, split, reads⟩ := exists_reads_of_mem member
  rw [reads.kind, reads.tag, Token.name, String.toList_ofList]

theorem marker_iff (member : o ∈ options.scan file content) :
    o.closure = .marker ↔ options.Faceted o.tag.toList := by
  obtain ⟨front, token, later, split, reads⟩ := exists_reads_of_mem member
  rw [reads.marker, reads.tag, Token.name, String.toList_ofList]

theorem forall₂_openings_scan (options : ScanOptions) (file content : String) :
    List.Forall₂ (fun token o => o.tag = token.name ∧ o.openOffset = token.start)
      ((tokenize content.toList).filter (!·.marker.closing)) (options.scan file content) := by
  rw [← map_fst_openings, List.forall₂_map_left_iff]
  exact (options.forall₂_reads_scan file content).imp fun _ _ reads => ⟨reads.tag, reads.openOffset⟩

variable {edited : String} {o' : Occurrence}

theorem moved_of_related (member : o ∈ options.scan file content)
    (member' : o' ∈ options.scan file edited) (tag : o'.tag = o.tag)
    (openOffset : o'.openOffset = Edit.shifted [edit] o.openOffset)
    (search : Option.Rel (Token.Moved edit) (o.closingToken? content.toList)
      (o'.closingToken? edited.toList)) :
    o.Moved edit content.toList edited.toList o' where
  tag := tag
  kind := by
    have same : o'.kind = .dimension ↔ o.kind = .dimension := by
      rw [kind_iff member', kind_iff member, tag]
    cases kind : o.kind <;> cases kind' : o'.kind <;> simp_all
  openOffset := openOffset
  closed closed := by
    obtain ⟨close, closedBy⟩ := exists_closedBy member closed
    rw [closedBy.first] at search
    generalize found : o'.closingToken? edited.toList = close? at search
    cases search with
    | @some _ close' moved =>
        have closed' : o'.closure = .closed := by
          rw [closed_iff member', tag, found]
          exact ⟨((closed_iff member).mp closed).1, rfl⟩
        obtain ⟨close'', closedBy'⟩ := exists_closedBy member' closed'
        obtain rfl : close' = close'' := Option.some.inj (found.symm.trans closedBy'.first)
        exact ⟨close, close', closedBy, closedBy', moved⟩

/-- An opening marker that is added to the tokens of a text adds its occurrence to those that the
text has, and none of them is closed otherwise than before. -/
theorem scan_of_tokenize (options : ScanOptions) (file : String) {front behind : List Token}
    {new : Token} (split : tokenize edited.toList = front ++ new :: behind)
    (opens : new.marker.closing = false)
    (moved : List.Forall₂ (Token.Moved edit) (tokenize content.toList) (front ++ behind)) :
    ∃ before added after, options.scan file edited = before ++ added :: after ∧
      List.Forall₂ (Occurrence.Moved edit content.toList edited.toList)
        (options.scan file content) (before ++ after) ∧
      added.tag = new.name := by
  have opened := options.forall₂_openings_scan file edited
  rw [split, List.filter_append, List.filter_cons_of_pos (by simp [opens])] at opened
  obtain ⟨before, added, after, whole, above, here, below⟩ := exists_split_of_related opened
  refine ⟨before, added, after, whole, ?_, here.1⟩
  have kept : List.Forall₂ (Token.Moved edit)
      ((tokenize content.toList).filter (!·.marker.closing))
      (front.filter (!·.marker.closing) ++ behind.filter (!·.marker.closing)) := by
    rw [← List.filter_append]
    exact List.rel_filter (fun a b same => by simp [same.marker]) moved
  have chain := related_comp (options.forall₂_openings_scan file content).flip
    (related_comp kept (List.rel_append above below))
  have within (o' : Occurrence) (member : o' ∈ before ++ after) :
      o' ∈ options.scan file edited := by
    rw [whole]
    rcases List.mem_append.mp member with ahead | behind
    · exact List.mem_append_left _ ahead
    · exact List.mem_append_right _ (.tail _ behind)
  have placed := (List.forall₂_and_left _ _).mpr
    ⟨within, ((List.forall₂_and_left _ _).mpr ⟨fun o member => member, chain⟩).flip⟩
  refine placed.flip.imp ?_
  rintro o o' ⟨member', member, token, ⟨tag, offset⟩, token', moves, tag', offset'⟩
  have sameTag : o'.tag = o.tag := by rw [tag, tag', Token.name, Token.name, moves.marker]
  have place : o'.openOffset = Edit.shifted [edit] o.openOffset := by
    rw [offset, offset', moves.start]
  refine moved_of_related member member' sameTag place ?_
  -- The added token closes nothing, so the search passes over it.
  have passes : new.closes o'.tag.toList = false := by simp [Token.closes, opens]
  rw [Occurrence.closingToken?, Occurrence.closingToken?, split, List.find?_append,
    List.find?_cons_of_neg (by simp [passes]), ← List.find?_append]
  refine rel_find? moved fun t t' same => ?_
  rw [Token.closes, Token.closes, same.marker, same.start, place, sameTag]
  simp only [Edit.shifted_lt_shifted]

end ScanOptions

/-! Component tags. -/

structure PlainValue (value : List Char) : Prop where
  shown : value ≠ []
  tight : trim value = value
  single : '\n' ∉ value
  arrowless : ¬ arrow <:+: value

def componentMarker (value : String) : Marker :=
  ⟨"component:".toList ++ value.toList, false⟩

@[simp] theorem componentMarker_name (value : String) :
    (componentMarker value).name = "component:".toList ++ value.toList := rfl

@[simp] theorem componentMarker_closing (value : String) :
    (componentMarker value).closing = false := rfl

theorem arrow_infix_of_append {before cs : List Char} (plain : '-' ∉ before)
    (inside : arrow <:+: before ++ cs) : arrow <:+: cs := by
  induction before with
  | nil => exact inside
  | cons c before induction =>
      simp only [List.mem_cons, not_or] at plain
      rcases List.infix_cons_iff.mp inside with ⟨rest, here⟩ | inside
      · exact absurd (List.cons.inj here).1 plain.1
      · exact induction plain.2 inside

namespace PlainValue

variable {value : String}

theorem nameable (plain : PlainValue value.toList) : Nameable (componentMarker value).name where
  single member := by
    rcases List.mem_append.mp member with before | inside
    · exact absurd before (by decide)
    · exact plain.single inside
  arrowless inside :=
    have named : '-' ∉ "component:".toList := by decide
    plain.arrowless (arrow_infix_of_append named inside)

theorem tight_name (plain : PlainValue value.toList) :
    trim (componentMarker value).name = (componentMarker value).name := by
  have ends : trimEnd value.toList = value.toList :=
    calc
      trimEnd value.toList = trimEnd (trim value.toList) := by rw [plain.tight]
      _ = trim value.toList := trimEnd_trimEnd _
      _ = value.toList := plain.tight
  have shown : trimEnd value.toList ≠ [] := ends.symm ▸ plain.shown
  have starts : trimStart "component:".toList = "component:".toList := by decide
  rw [trim, componentMarker_name, trimStart_append_of_ne_nil (by rw [starts]; decide), starts,
    trimEnd_append_of_ne_nil shown, ends]

theorem splitDimension_eq (plain : PlainValue value.toList) :
    splitDimension ("component:" ++ value) = some ("component", value) := by
  have found : splitAt? ':' ("component:" ++ value).toList =
      some ("component".toList, value.toList) :=
    splitAt?_eq_some_iff.mpr ⟨by simp, by decide⟩
  have shown : value.toList.isEmpty = false := by simpa using plain.shown
  have category : "component".toList.isEmpty = false := by decide
  rw [splitDimension, found]
  simp only [Option.bind_eq_bind, Option.bind_some, shown, category, Bool.or_false,
    Bool.false_eq_true, if_false, String.ofList_toList]

end PlainValue

namespace Repair

theorem tokenize_componentEdit (path : Path) (content : List Char) {value : String}
    (plain : PlainValue value.toList) :
    ∃ added, tokenize (componentEdit path content value).text.toList = [added] ∧
      added.marker = componentMarker value := by
  have written := written_render plain.nameable plain.tight_name
  have opening := (plain_commentOpeningOf path).1
  obtain ⟨lead, leadPlain, split⟩ : ∃ lead, '<' ∉ lead ∧
      (componentEdit path content value).text.toList = lead ++ (componentMarker value).line := by
    simp only [componentEdit, String.toList_ofList, List.append_assoc]
    refine ⟨_ ++ (commentOpeningOf path).toList, ?_, (List.append_assoc _ _ _).symm⟩
    split <;> simpa using opening
  rw [split, tokenize_lead_line leadPlain written]
  exact ⟨_, rfl, rfl⟩

end Repair

open Repair

/-- The line of a component tag adds one opening token to the tokens of a file, and moves the
others only.  So every occurrence stays what it is, and a tag that was closed is closed by the same
token as before; the tag that is added stands alone when components are a dimension. -/
theorem component_tag_added (options : ScanOptions) {issue : Issue} {value : String}
    (asks : issue.repair = some (.insertComponent value)) (plain : PlainValue value.toList)
    (file content : String) :
    ∃ edit edited, repair file content [issue] = .ok ⟨edited, 1⟩ ∧
      plan (Path.ofString file) content.toList (.insertComponent value) = .ok (some edit) ∧
      edited.toList = edit.insert content.toList ∧
      (∃ front new behind, tokenize edited.toList = front ++ new :: behind ∧
        new.marker = ⟨"component:".toList ++ value.toList, false⟩ ∧
        List.Forall₂ (Token.Moved edit) (tokenize content.toList) (front ++ behind)) ∧
      ∃ before added after, options.scan file edited = before ++ added :: after ∧
        List.Forall₂ (Occurrence.Moved edit content.toList edited.toList)
          (options.scan file content) (before ++ after) ∧
        added.tag = "component:" ++ value ∧
        ("component" ∈ options.dimensions →
          added.closure = .marker ∧ added.dimension = some ("component", value)) := by
  have asked : [issue].filterMap Issue.repair = [.insertComponent value] := by
    rw [List.filterMap_cons, asks, List.filterMap_nil]
  have planned := plan_insertComponent (Path.ofString file) content.toList value
  have repaired := repair_of_single asked planned
  obtain ⟨above, rest, whole, header, ends⟩ := headerEnd_split content.toList
  have apart := apart_componentEdit (Path.ofString file) whole header value
  have here : (componentEdit (Path.ofString file) content.toList value).offset = byteSize above :=
    header
  have line := componentEdit_ends (Path.ofString file) content.toList value
  obtain ⟨token, single, marker⟩ := tokenize_componentEdit (Path.ofString file) content.toList plain
  generalize componentEdit (Path.ofString file) content.toList value = edit at *
  obtain ⟨front, new, behind, split, same, moved⟩ :=
    tokenize_insert here apart ends (.inr line) single
  rw [← whole] at split moved
  rw [marker] at same
  have made : Edit.insertAll [edit] content.toList = edit.insert content.toList := by
    simp [Edit.insertAll, Edit.insertFrom, Edit.insert]
  have edited : (String.ofList (edit.insert content.toList)).toList = edit.insert content.toList :=
    String.toList_ofList
  rw [← edited] at split
  have opens : new.marker.closing = false := by rw [same, componentMarker_closing]
  obtain ⟨before, added, after, found, kept, tag⟩ :=
    options.scan_of_tokenize file split opens moved
  have named : added.tag = "component:" ++ value := by
    rw [tag, Token.name, same, componentMarker_name, String.ofList_append, String.ofList_toList,
      String.ofList_toList]
  refine ⟨edit, _, made ▸ repaired, planned, edited, ⟨front, new, behind, split, same, moved⟩,
    before, added, after, found, kept, named, fun known => ?dimension⟩
  case dimension =>
    have member : added ∈ options.scan file (String.ofList (edit.insert content.toList)) := by
      simp [found]
    have faceted : options.Faceted added.tag.toList :=
      ⟨"component".toList, value.toList, by simp [named], by decide, by decide, plain.shown, known⟩
    refine ⟨(ScanOptions.marker_iff member).mpr faceted, ?_⟩
    rw [Occurrence.dimension, (ScanOptions.kind_iff member).mpr faceted, named]
    exact plain.splitDimension_eq

/-- The line goes between an opening marker in a header and the marker that closes it. -/
theorem component_tag_added_header :
    let text := "#!/bin/sh <!--TAG:a-->\nx <!--/TAG:a-->"
    let issue := (Issue.ofFile .warning "component-required" "x.sh" "").withRepair
      (.insertComponent "docs")
    PlainValue "docs".toList ∧
    ∃ edit edited, repair "x.sh" text [issue] = .ok ⟨edited, 1⟩ ∧
      ∃ before added after, ScanOptions.default.scan "x.sh" edited = before ++ added :: after ∧
        List.Forall₂ (Occurrence.Moved edit text.toList edited.toList)
          (ScanOptions.default.scan "x.sh" text) (before ++ after) ∧
        added.closure = .marker ∧ added.dimension = some ("component", "docs") := by
  intro text issue
  have plain : PlainValue "docs".toList := ⟨by decide, by decide, by decide, by decide⟩
  obtain ⟨edit, edited, repaired, -, -, -, before, added, after, split, moved, -, stands⟩ :=
    component_tag_added .default (rfl : issue.repair = some (.insertComponent "docs")) plain "x.sh"
      text
  exact ⟨plain, edit, edited, repaired, before, added, after, split, moved, stands (by decide)⟩

end TagAudit
