import TagAudit.Proofs.Marker.Appending

/-! Documents made of plain text and of nested elements, and that a scan of a document finds its
elements again. -/

namespace TagAudit

open Text Marker

/-! Names and the lines that they stand on. -/

def isLetter (c : Char) : Bool :=
  ('A' ≤ c && c ≤ 'Z') || ('a' ≤ c && c ≤ 'z')

def isNameChar (c : Char) : Bool :=
  isLetter c || ('0' ≤ c && c ≤ '9') || c == '_' || c == ':'

structure PlainName (name : List Char) : Prop where
  head : ∃ c rest, name = c :: rest ∧ isLetter c = true
  all : ∀ c ∈ name, isNameChar c = true

theorem toNat_of_isNameChar {c : Char} (plain : isNameChar c = true) :
    48 ≤ c.toNat ∧ c.toNat ≤ 122 := by
  simp only [isNameChar, isLetter, Bool.or_eq_true, Bool.and_eq_true, decide_eq_true_eq,
    beq_iff_eq, Char.le_def, UInt32.le_iff_toNat_le, Char.toNat_val] at plain
  rcases plain with ((((⟨least, most⟩ | ⟨least, most⟩) | ⟨least, most⟩) | rfl) | rfl)
  · exact ⟨Nat.le_trans (by decide) least, Nat.le_trans most (by decide)⟩
  · exact ⟨Nat.le_trans (by decide) least, Nat.le_trans most (by decide)⟩
  · exact ⟨least, Nat.le_trans most (by decide)⟩
  · decide
  · decide

theorem isBlank_of_isNameChar {c : Char} (plain : isNameChar c = true) : isBlank c = false := by
  obtain ⟨least, most⟩ := toNat_of_isNameChar plain
  simp [isBlank]
  omega

namespace PlainName

variable {name : List Char}

theorem nameable (plain : PlainName name) : Nameable name where
  single member := absurd (plain.all _ member) (by decide)
  arrowless inside := absurd (plain.all '-' (inside.subset (by decide))) (by decide)

theorem trim_eq (plain : PlainName name) : trim name = name :=
  trim_of_visible fun c member => isBlank_of_isNameChar (plain.all c member)

theorem written (plain : PlainName name) (closing : Bool) :
    Written ⟨name, closing⟩ (Marker.render ⟨name, closing⟩) :=
  written_render plain.nameable plain.trim_eq

end PlainName

def Marker.line (m : Marker) : List Char :=
  m.render ++ ['\n']

theorem Marker.endsLine_line (m : Marker) : EndsLine m.line :=
  .inr ⟨m.render, rfl⟩

theorem tokenize_lead_line {lead : List Char} {m : Marker} (plain : '<' ∉ lead)
    (written : Written m m.render) :
    tokenize (lead ++ m.line) =
      [⟨m, byteSize lead, byteSize lead + byteSize m.render, 1 + lead.count '\n', ['\n']⟩] := by
  have feed : tokenize ['\n'] = [] := rfl
  rw [Marker.line, tokenize_written plain written, feed, List.map_nil, byteSize_append]

theorem tokenize_line {m : Marker} (written : Written m m.render) :
    tokenize m.line = [⟨m, 0, byteSize m.render, 1, ['\n']⟩] := by
  simpa using tokenize_lead_line List.not_mem_nil written

/-! Documents. -/

/-- A list of items: blocks of text, and elements that have a name and items of their own. -/
inductive TagTree where
  | nil
  | text (block : List Char) (rest : TagTree)
  | element (name : List Char) (items rest : TagTree)

namespace TagTree

def render : TagTree → List Char
  | nil => []
  | text block rest => block ++ rest.render
  | element name items rest =>
      Marker.line ⟨name, false⟩ ++ (items.render ++ Marker.line ⟨name, true⟩) ++ rest.render

/-- The blocks are whole lines without markers; the names are plain, none is that of a dimension
tag, and no element has a name that is among `ancestors` or names an element around it. -/
inductive WellFormed (options : ScanOptions) : List (List Char) → TagTree → Prop
  | nil {ancestors : List (List Char)} : WellFormed options ancestors nil
  | text {ancestors : List (List Char)} {block : List Char} {rest : TagTree}
      (ends : EndsLine block) (plain : tokenize block = [])
      (later : WellFormed options ancestors rest) :
      WellFormed options ancestors (text block rest)
  | element {ancestors : List (List Char)} {name : List Char} {items rest : TagTree}
      (plain : PlainName name) (primary : ¬ options.isDimension (String.ofList name) = true)
      (fresh : name ∉ ancestors) (within : WellFormed options (name :: ancestors) items)
      (later : WellFormed options ancestors rest) :
      WellFormed options ancestors (element name items rest)

/-- One occurrence for each element, in the order in which they begin, where `passed` stands
above the tree. -/
def occurrences (file : String) (passed : List Char) : TagTree → List Occurrence
  | nil => []
  | text block rest => rest.occurrences file (passed ++ block)
  | element name items rest =>
      let opened := passed ++ Marker.line ⟨name, false⟩
      let covered := opened ++ items.render
      { tag := String.ofList name, file := file, startLine := 1 + passed.count '\n',
        endLine := 1 + covered.count '\n', content := String.ofList (trim items.render),
        kind := .primary, closure := .closed, openOffset := byteSize passed,
        insertOffset := none } ::
      (items.occurrences file opened ++
        rest.occurrences file (covered ++ Marker.line ⟨name, true⟩))

theorem occurrences_append (file : String) (above passed : List Char) (tree : TagTree) :
    tree.occurrences file (above ++ passed) =
      (tree.occurrences file passed).map (Occurrence.below above) := by
  induction tree generalizing passed with
  | nil => rfl
  | text block rest induction => simp [occurrences, induction]
  | element name items rest within later =>
      simp [occurrences, within, later, Occurrence.below, Nat.add_left_comm]

theorem closed_of_mem {file : String} {passed : List Char} {tree : TagTree} {o : Occurrence}
    (member : o ∈ tree.occurrences file passed) : o.closure = .closed := by
  induction tree generalizing passed with
  | nil => cases member
  | text block rest induction => exact induction member
  | element name items rest within later =>
      rcases List.mem_cons.mp member with rfl | member
      · rfl
      · rcases List.mem_append.mp member with member | member
        · exact within member
        · exact later member

theorem resolveAll_append (options : ScanOptions) (file : String) {above : List Char}
    (ends : EndsLine above) {tree : TagTree}
    (read : options.resolveAll file (tokenize above) = tree.occurrences file [])
    (content : List Char) :
    options.resolveAll file (tokenize (above ++ content)) =
      tree.occurrences file [] ++
        (options.resolveAll file (tokenize content)).map (Occurrence.below above) := by
  rw [← read]
  refine options.resolveAll_append_of_settled file ends (fun o member => .inl ?_) content
  rw [read] at member
  exact closed_of_mem member

namespace WellFormed

variable {options : ScanOptions} {ancestors : List (List Char)} {tree : TagTree}

theorem endsLine (wellFormed : tree.WellFormed options ancestors) :
    EndsLine tree.render := by
  induction wellFormed with
  | nil => exact .inl rfl
  | text ends _ _ induction => exact ends.append induction
  | element _ _ _ _ _ within later =>
      exact ((endsLine_line _).append (within.append (endsLine_line _))).append later

/-- No element in a tree has the name of one around it, so no marker has. -/
theorem name_not_mem (wellFormed : tree.WellFormed options ancestors) :
    ∀ token ∈ tokenize tree.render, token.marker.name ∉ ancestors := by
  induction wellFormed with
  | nil => simp [render, tokenize, Token.readFrom]
  | text ends plain _ induction =>
      rw [render, tokenize_append ends, plain]
      simpa [Token.below] using induction
  | @element ancestors name items rest plain _ fresh inner _ within later =>
      have whole := (endsLine_line ⟨name, false⟩).append
        (inner.endsLine.append (endsLine_line ⟨name, true⟩))
      rw [render, tokenize_append whole, tokenize_append (endsLine_line _),
        tokenize_append inner.endsLine, tokenize_line (plain.written false),
        tokenize_line (plain.written true)]
      have apart : ∀ token ∈ tokenize items.render, token.marker.name ∉ ancestors :=
        fun token member among => within token member (.tail _ among)
      simp only [List.map_append, List.map_map, List.map_cons, List.map_nil, List.forall_mem_append,
        List.forall_mem_map, List.forall_mem_singleton, Function.comp_apply]
      exact ⟨⟨fresh, apart, fresh⟩, later⟩

/-- The first marker behind the items of an element that closes its name is its own. -/
theorem find?_closing {name : List Char} (within : tree.WellFormed options (name :: ancestors))
    (plain : PlainName name) :
    (tokenize (tree.render ++ Marker.line ⟨name, true⟩)).find? (Token.closes name) =
      some ⟨⟨name, true⟩, byteSize tree.render,
        byteSize tree.render + byteSize (Marker.render ⟨name, true⟩),
        tree.render.count '\n' + 1, ['\n']⟩ := by
  have inner : ((tokenize tree.render).map
      (Token.followed (Marker.line ⟨name, true⟩))).find? (Token.closes name) = none := by
    rw [List.find?_eq_none]
    intro token member closes
    obtain ⟨origin, found, rfl⟩ := List.mem_map.mp member
    have same : origin.marker.name = name := by
      simpa [Token.closes, Token.followed] using (Bool.and_eq_true_iff.mp closes).2
    exact within.name_not_mem origin found (same ▸ .head _)
  rw [tokenize_append within.endsLine, List.find?_append, inner,
    tokenize_line (plain.written true)]
  simp [Token.below, Token.closes]

theorem resolve_opening (file : String) {name : List Char}
    (within : tree.WellFormed options (name :: ancestors)) (plain : PlainName name)
    (primary : ¬ options.isDimension (String.ofList name) = true) :
    options.resolve file
        ⟨⟨name, false⟩, 0, byteSize (Marker.render ⟨name, false⟩), 1,
          '\n' :: (tree.render ++ Marker.line ⟨name, true⟩)⟩
        ((tokenize (tree.render ++ Marker.line ⟨name, true⟩)).map
          (Token.below (Marker.line ⟨name, false⟩))) =
      { tag := String.ofList name, file := file, startLine := 1,
        endLine := 1 + (Marker.line ⟨name, false⟩ ++ tree.render).count '\n',
        content := String.ofList (trim tree.render), kind := .primary, closure := .closed,
        openOffset := 0, insertOffset := none } := by
  have close := within.find?_closing plain
  have reach : byteSize (Marker.line ⟨name, false⟩) + byteSize tree.render -
      byteSize (Marker.render ⟨name, false⟩) = byteSize ('\n' :: tree.render) := by
    simp only [Marker.line, byteSize_append, byteSize_cons, byteSize_nil]
    omega
  have covered : takeBytes (byteSize ('\n' :: tree.render))
      ('\n' :: (tree.render ++ Marker.line ⟨name, true⟩)) = '\n' :: tree.render :=
    takeBytes_append ('\n' :: tree.render) _
  have feed : ∀ c ∈ ['\n'], isBlank c = true := List.forall_mem_singleton.mpr rfl
  have trimmed : trim ('\n' :: tree.render) = trim tree.render :=
    congrArg trimEnd (trimStart_of_blanks_append feed tree.render)
  have line : (Marker.line ⟨name, false⟩).count '\n' + (tree.render.count '\n' + 1) =
      1 + (Marker.line ⟨name, false⟩ ++ tree.render).count '\n' := by
    rw [List.count_append]
    omega
  have named : (Token.mk ⟨name, false⟩ 0 (byteSize (Marker.render ⟨name, false⟩)) 1
      ('\n' :: (tree.render ++ Marker.line ⟨name, true⟩))).name = String.ofList name := rfl
  have same : Token.closes name ∘ Token.below (Marker.line ⟨name, false⟩) = Token.closes name := rfl
  simp only [ScanOptions.resolve, List.find?_map, same, close, ScanOptions.describe, named,
    if_neg primary, Option.map_some,
    Token.below, reach, covered, trimmed, line]

theorem resolveAll_element (file : String) {name : List Char}
    (within : tree.WellFormed options (name :: ancestors)) (plain : PlainName name)
    (primary : ¬ options.isDimension (String.ofList name) = true)
    (inner : options.resolveAll file (tokenize tree.render) = tree.occurrences file []) :
    options.resolveAll file (tokenize (Marker.line ⟨name, false⟩ ++
        (tree.render ++ Marker.line ⟨name, true⟩))) =
      (TagTree.element name tree .nil).occurrences file [] := by
  have body : options.resolveAll file
      (tokenize (tree.render ++ Marker.line ⟨name, true⟩)) = tree.occurrences file [] := by
    rw [resolveAll_append options file within.endsLine inner, tokenize_line (plain.written true)]
    simp [ScanOptions.resolveAll]
  have behind := occurrences_append file (Marker.line ⟨name, false⟩) [] tree
  rw [tokenize_append (endsLine_line _), tokenize_line (plain.written false), List.map_singleton,
    List.singleton_append, ScanOptions.resolveAll, ScanOptions.resolveAll_below, body]
  simp only [occurrences, List.nil_append, List.append_nil, ← behind]
  exact congrArg (· :: _) (within.resolve_opening file plain primary)

theorem resolveAll_render (wellFormed : tree.WellFormed options ancestors) (file : String) :
    options.resolveAll file (tokenize tree.render) = tree.occurrences file [] := by
  induction wellFormed with
  | nil => rfl
  | @text _ block rest ends plain _ induction =>
      have shifted := occurrences_append file block [] rest
      have empty : options.resolveAll file (tokenize block) = TagTree.nil.occurrences file [] := by
        rw [plain]
        rfl
      rw [render, resolveAll_append options file ends empty, induction, ← shifted,
        List.append_nil]
      rfl
  | @element _ name items rest plain primary _ inner _ within later =>
      have ends := (endsLine_line ⟨name, false⟩).append
        (inner.endsLine.append (endsLine_line ⟨name, true⟩))
      have first := inner.resolveAll_element file plain primary within
      have shifted := occurrences_append file (Marker.line ⟨name, false⟩ ++
        (items.render ++ Marker.line ⟨name, true⟩)) [] rest
      rw [render, resolveAll_append options file ends first, later, ← shifted]
      simp [occurrences]

end WellFormed

/-- Scanning undoes writing: it finds every element of a tree again, closed by its own
marker however the elements nest and repeat. -/
theorem scan_render {options : ScanOptions} {tree : TagTree}
    (wellFormed : tree.WellFormed options []) (file : String) :
    options.scan file (String.ofList tree.render) = tree.occurrences file [] := by
  rw [ScanOptions.scan_eq, String.toList_ofList, wellFormed.resolveAll_render]

theorem scan_render_nested :
    let tree := text "# notes\n".toList
      (element ['a'] (element "b:c".toList nil (text "x\n".toList nil)) (element ['a'] nil nil))
    tree.WellFormed .default [] ∧
    ScanOptions.default.scan "a.md" (String.ofList tree.render) =
      tree.occurrences "a.md" [] ∧
    (ScanOptions.default.scan "a.md" (String.ofList tree.render)).map
        (fun o => (o.tag, o.startLine, o.endLine, o.closure)) =
      [("a", 2, 6, .closed), ("b:c", 3, 4, .closed), ("a", 7, 8, .closed)] := by
  intro tree
  have a : PlainName ['a'] := ⟨⟨'a', [], rfl, rfl⟩, List.all_eq_true.mp rfl⟩
  have bc : PlainName "b:c".toList := ⟨⟨'b', [':', 'c'], rfl, rfl⟩, List.all_eq_true.mp rfl⟩
  have wellFormed : tree.WellFormed .default [] := by
    refine .text (.inr ⟨"# notes".toList, rfl⟩) rfl (.element a ?_ ?_ (.element bc ?_ ?_ .nil
      (.text (.inr ⟨['x'], rfl⟩) rfl .nil)) (.element a ?_ ?_ .nil .nil))
    all_goals decide
  have scanned := scan_render wellFormed "a.md"
  refine ⟨wellFormed, scanned, ?_⟩
  rw [scanned]
  decide

end TagTree

end TagAudit
