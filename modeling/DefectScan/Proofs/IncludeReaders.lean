import DefectScan.Proofs.DocumentOrder
import DefectScan.Proofs.Utf8
import DefectScan.Tree.Extract
import Mathlib.Data.Option.Basic

/-!
# Three readers of an include

An include directive is read off its line, off the path that a syntax tree has for it, and, where
the tree has no path, off the text of its node. The first and the third look for the number sign,
the word and the delimiters, the first of them only at the start of the line; the second takes the
delimiters off a text that is known to have them. Whatever blanks stand between the parts, and
whichever delimiters are used, all three find the header between the delimiters without the blanks
around it, and the same kind of header.
-/

namespace DefectScan

open Text

/-- An include directive by its parts. -/
structure WrittenInclude where
  /-- The blanks before the number sign. -/
  indent : List Char
  /-- The blanks between the number sign and the word. -/
  gap : List Char
  /-- The blanks between the word and the opening delimiter. -/
  space : List Char
  /-- The text between the delimiters. -/
  header : List Char
  /-- Whether the delimiters are angle brackets; otherwise they are quotes. -/
  isSystem : Bool
  /-- Before the number sign stand blanks only. -/
  isBlank_indent : ∀ c ∈ indent, isBlank c = true
  /-- After the number sign stand blanks only. -/
  isBlank_gap : ∀ c ∈ gap, isBlank c = true
  /-- After the word stand blanks only. -/
  isBlank_space : ∀ c ∈ space, isBlank c = true
  /-- There is a header. -/
  header_ne_nil : header ≠ []
  /-- The header has no delimiter in it. -/
  header_plain : ∀ c ∈ header, c ∉ ['<', '>', '"']

namespace WrittenInclude

variable (d : WrittenInclude)

/-- The opening delimiter. -/
def opening : Char := if d.isSystem then '<' else '"'

/-- The closing delimiter. -/
def closing : Char := if d.isSystem then '>' else '"'

/-- Both delimiters. -/
def delimiters : List Char := if d.isSystem then ['<', '>'] else ['"']

/-- The header between its delimiters. -/
def delimited : List Char := d.opening :: (d.header ++ [d.closing])

/-- The directive from its number sign on. -/
def directive : List Char := '#' :: (d.gap ++ ("include".toList ++ (d.space ++ d.delimited)))

/-- The line of the directive. -/
def line : List Char := d.indent ++ d.directive

/-- The kind of the node for a path between these delimiters. -/
def pathKind : String := if d.isSystem then "system_lib_string" else "string_literal"

/-- The include that the directive stands for. -/
def site (position : Position) : Include := ⟨trim d.header, d.isSystem, position⟩

/-! ### Line and text -/

theorem isBlank_opening : isBlank d.opening = false := by
  unfold opening
  split <;> decide

theorem opening_isDelimiter : (d.opening == '<' || d.opening == '"') = true := by
  unfold opening
  split <;> decide

theorem opening_isAngle : (d.opening == '<') = d.isSystem := by
  unfold opening
  cases d.isSystem <;> decide

/-- The header goes as far as the first closing delimiter of either kind. -/
theorem takeWhile_header (rest : List Char) :
    (d.header ++ d.closing :: rest).takeWhile (fun c => c != '>' && c != '"') = d.header := by
  have hheader : ∀ c ∈ d.header, (c != '>' && c != '"') = true := by
    intro c hc
    have hplain := d.header_plain c hc
    simp only [List.mem_cons, List.not_mem_nil, or_false, not_or] at hplain
    simp [hplain]
  have hclosing : (d.closing != '>' && d.closing != '"') = false := by
    unfold closing
    split <;> decide
  rw [List.takeWhile_append_of_pos hheader, List.takeWhile_cons_of_neg (by simp [hclosing]),
    List.append_nil]

/-- After the number sign the word and the delimited header are read, and the blanks around the
header are dropped. -/
theorem includeTarget?_append (rest : List Char) :
    includeTarget? (d.gap ++ ("include".toList ++ (d.space ++ (d.delimited ++ rest)))) =
      some (d.isSystem, trim d.header) := by
  have hletter : isBlank 'i' = false := by decide
  have hword : trimStart (d.gap ++ ("include".toList ++ (d.space ++ (d.delimited ++ rest)))) =
      "include".toList ++ (d.space ++ (d.delimited ++ rest)) := by
    rw [trimStart_append d.isBlank_gap]
    exact trimStart_eq_self (by simp [hletter])
  have hafter : after? "include".toList ("include".toList ++ (d.space ++ (d.delimited ++ rest))) =
      some (d.space ++ (d.delimited ++ rest)) := after?_eq_some_iff.2 rfl
  have hopening : trimStart (d.space ++ (d.delimited ++ rest)) =
      d.opening :: (d.header ++ d.closing :: rest) := by
    rw [trimStart_append d.isBlank_space, delimited, List.cons_append, List.append_assoc,
      List.singleton_append]
    exact trimStart_eq_self (by simp [d.isBlank_opening])
  have hdelimiter : (guard (d.opening == '<' || d.opening == '"') : Option Unit) = some () :=
    (Option.guard_eq_some' _).2 d.opening_isDelimiter
  have hheader : (guard (!d.header.isEmpty &&
      decide (d.header.length < (d.header ++ d.closing :: rest).length)) : Option Unit) =
      some () := by
    rw [Option.guard_eq_some']
    simp [d.header_ne_nil]
  simp only [includeTarget?, hword, hafter, hopening, d.takeWhile_header, hdelimiter, hheader,
    Option.bind_eq_bind, Option.bind_some, Option.pure_def]
  rw [d.opening_isAngle]

/-- The reader of a line finds the directive at its start. -/
theorem include?_of_line {line : CodeLine} {rest : List Char} (h : line.raw = d.line ++ rest) :
    line.include? = some (d.site ⟨line.row, 0⟩) := by
  have hsign : isBlank '#' = false := by decide
  have hafter : afterBlanks? '#' line.raw =
      some (d.gap ++ ("include".toList ++ (d.space ++ (d.delimited ++ rest)))) := by
    rw [h, WrittenInclude.line, directive, List.append_assoc, afterBlanks?,
      trimStart_append d.isBlank_indent, trimStart_eq_self (by simp [hsign])]
    simp only [List.cons_append, List.append_assoc, if_true]
  rw [CodeLine.include?, hafter]
  simp only [Option.bind_eq_bind, Option.bind_some, d.includeTarget?_append, site, Option.pure_def]

end WrittenInclude

/-- What has no number sign in it is passed over by the search for a directive. -/
theorem findSome?_placesFrom_append (column : Nat) (before : Option Char) {front : List Char}
    (hfront : '#' ∉ front) (text : List Char) :
    ∃ column' before', (placesFrom column before (front ++ text)).findSome?
        (fun p => (after? ['#'] p.after).bind includeTarget?) =
      (placesFrom column' before' text).findSome?
        fun p => (after? ['#'] p.after).bind includeTarget? := by
  induction front generalizing column before with
  | nil => exact ⟨column, before, rfl⟩
  | cons c front ih =>
    rw [List.mem_cons, not_or] at hfront
    obtain ⟨column', before', hrest⟩ := ih (column + 1) (some c) hfront.2
    refine ⟨column', before', ?_⟩
    rw [← hrest, List.cons_append, placesFrom, List.findSome?_cons]
    simp [after?, hfront.1]

/-- The reader of a directive's text finds the first number sign. -/
theorem WrittenInclude.writtenInclude?_append (d : WrittenInclude) {front : List Char}
    (hfront : '#' ∉ front) (rest : List Char) :
    SyntaxTree.writtenInclude? (front ++ (d.directive ++ rest)) =
      some (d.isSystem, trim d.header) := by
  obtain ⟨column, before, hskip⟩ :=
    findSome?_placesFrom_append 0 none hfront (d.directive ++ rest)
  rw [SyntaxTree.writtenInclude?, places, hskip, directive, List.cons_append, placesFrom,
    List.findSome?_cons]
  have htarget := d.includeTarget?_append rest
  simp only [after?, if_true, Option.bind_some, List.append_assoc, htarget]

/-! ### Path -/

/-- Delimiters around a text without delimiters are taken off. -/
theorem Text.trimOf_delimited {chars s : List Char} {a b : Char} (ha : a ∈ chars) (hb : b ∈ chars)
    (hs : ∀ c ∈ s, c ∉ chars) : trimOf chars (a :: (s ++ [b])) = s := by
  have hback : s.reverse.dropWhile chars.contains = s.reverse := by
    cases hr : s.reverse with
    | nil => rfl
    | cons c r =>
      have hc : c ∈ s := List.mem_reverse.1 (hr ▸ List.mem_cons_self)
      exact List.dropWhile_cons_of_neg (by simpa using hs c hc)
  have hfront : (s ++ [b]).dropWhile chars.contains = if s = [] then [] else s ++ [b] := by
    cases s with
    | nil => simp [hb]
    | cons c s =>
      have hc : c ∉ chars := hs c List.mem_cons_self
      simp [hc]
  rw [trimOf, List.dropWhile_cons_of_pos (by simpa using ha), hfront]
  split
  · next hnil => rw [hnil]; rfl
  · rw [List.reverse_append, List.reverse_singleton, List.singleton_append,
      List.dropWhile_cons_of_pos (by simpa using hb), hback, List.reverse_reverse]

theorem WrittenInclude.trimOf_delimited (d : WrittenInclude) :
    trimOf d.delimiters d.delimited = d.header := by
  have hopening : d.opening ∈ d.delimiters := by
    unfold opening delimiters
    split <;> decide
  have hclosing : d.closing ∈ d.delimiters := by
    unfold closing delimiters
    split <;> decide
  have hdelimiters : d.delimiters ⊆ ['<', '>', '"'] := by
    unfold delimiters
    split <;> decide
  exact Text.trimOf_delimited hopening hclosing fun c hc hmem =>
    d.header_plain c hc (hdelimiters hmem)

namespace SyntaxTree

variable {tree : SyntaxTree} {n path : Node}

theorem text_of_bytesOf {s : List Char} (h : tree.bytesOf n = utf8 s) : tree.text n = s := by
  rw [text, h, ofUtf8Lossy_utf8]

theorem name_of_bytesOf {s : List Char} (h : tree.bytesOf n = utf8 s) : tree.name n = .ok s := by
  rw [name, h, ofUtf8_utf8]

/-- The includes of a file around that of one node. -/
theorem includes_of_split {before after : List Node} {i : Include}
    (hnodes : tree.includeNodes = before ++ n :: after) (hn : tree.include? n = some (.ok i)) :
    tree.includes = do
      return (← tree.includesAt before) ++ i :: (← tree.includesAt after) := by
  rw [includes, includesAt, hnodes, List.filterMap_append, List.filterMap_cons_some hn,
    collect_append]
  refine bind_congr fun above => ?_
  rw [collect, includesAt]
  cases collect (after.filterMap tree.include?) <;> rfl

/-- The path of an include gives the directive's header. -/
theorem include?_of_path (d : WrittenInclude) (hpath : n.child? "path" = some path)
    (hkind : path.kind = d.pathKind) (hbytes : tree.bytesOf path = utf8 d.delimited) :
    tree.include? n = some (.ok (d.site (tree.position n))) := by
  have hheader : tree.includedHeader? n = some (.ok (d.isSystem, trim d.header)) := by
    rw [includedHeader?, hpath, ← d.trimOf_delimited]
    simp only [hkind, name_of_bytesOf hbytes, WrittenInclude.pathKind, WrittenInclude.delimiters]
    cases d.isSystem with
    | true => rfl
    | false => rfl
  rw [include?, hheader]
  rfl

/-- The text of an include without a path gives the directive's header. -/
theorem include?_of_text (d : WrittenInclude) (hpath : n.child? "path" = none)
    {front rest : List Char} (hfront : '#' ∉ front)
    (hbytes : tree.bytesOf n = utf8 (front ++ (d.directive ++ rest))) :
    tree.include? n = some (.ok (d.site (tree.position n))) := by
  rw [include?, includedHeader?, hpath]
  dsimp only
  rw [text_of_bytesOf hbytes, d.writtenInclude?_append hfront]
  rfl

end SyntaxTree

/-- A directive is read alike off its line, off the path of its node and off the text of its
node. -/
theorem include_readers_agree (d : WrittenInclude) :
    (∀ (before after : List CodeLine) (line : CodeLine) (rest : List Char),
        line.raw = d.line ++ rest →
          includesIn (before ++ line :: after) =
            includesIn before ++ d.site ⟨line.row, 0⟩ :: includesIn after) ∧
      (∀ (tree : SyntaxTree) (before after : List Node) (n path : Node),
        tree.includeNodes = before ++ n :: after → n.child? "path" = some path →
          path.kind = d.pathKind → tree.bytesOf path = utf8 d.delimited →
            tree.includes = do
              return (← tree.includesAt before) ++
                d.site (tree.position n) :: (← tree.includesAt after)) ∧
      ∀ (tree : SyntaxTree) (before after : List Node) (n : Node) (front rest : List Char),
        tree.includeNodes = before ++ n :: after → n.child? "path" = none → '#' ∉ front →
          tree.bytesOf n = utf8 (front ++ (d.directive ++ rest)) →
            tree.includes = do
              return (← tree.includesAt before) ++
                d.site (tree.position n) :: (← tree.includesAt after) := by
  refine ⟨fun before after line rest hraw => ?_, fun tree before after n path hnodes hpath hkind
    hbytes => ?_, fun tree before after n front rest hnodes hpath hfront hbytes => ?_⟩
  · rw [includesIn, includesIn, List.filterMap_append,
      List.filterMap_cons_some (d.include?_of_line hraw)]
    rfl
  · exact SyntaxTree.includes_of_split hnodes (SyntaxTree.include?_of_path d hpath hkind hbytes)
  · exact SyntaxTree.includes_of_split hnodes (SyntaxTree.include?_of_text d hpath hfront hbytes)

/-- `# include` and a header with blanks around it between angle brackets, indented. -/
private def spacedInclude : WrittenInclude where
  indent := [' ', '\t']
  gap := [' ']
  space := []
  header := [' ', 'é', '.', 'h', ' ']
  isSystem := true
  isBlank_indent := List.all_eq_true.1 (by decide)
  isBlank_gap := List.all_eq_true.1 (by decide)
  isBlank_space := List.forall_mem_nil _
  header_ne_nil := List.cons_ne_nil _ _
  header_plain := by simp

private def includeWithPath : Node :=
  .mk { kind := "preproc_include", start := 0, stop := 18 }
    [.mk { kind := "system_lib_string", field := some "path", start := 9, stop := 17 } []]

private def includeWithoutPath : Node :=
  .mk { kind := "preproc_include", start := 18, stop := 38 } []

/-- A tree over the directive and the indented directive, each on its line. -/
private def spacedTree : SyntaxTree where
  root := .mk { kind := "translation_unit", start := 0, stop := 38 }
    [includeWithPath, includeWithoutPath]
  bytes := (utf8 "# include< é.h >\n \t# include< é.h >\n".toList).toArray
  lines := splitLines "# include< é.h >\n \t# include< é.h >\n".toList

/-- On a line, by its path and without one the directive is read as the system header `é.h`. -/
theorem include_readers_agree_spaced :
    let line : CodeLine := ⟨4, " \t# include< é.h > // x".toList, []⟩
    let found (position : Position) : Include := ⟨"é.h".toList, true, position⟩
    spacedInclude.line = " \t# include< é.h >".toList ∧
      includesIn [line] = [found ⟨4, 0⟩] ∧
      (∃ below, spacedTree.includes = .ok (found ⟨0, 0⟩ :: below)) ∧
      ∃ above, spacedTree.includes = .ok (above ++ [found ⟨1, 0⟩]) := by
  intro line found
  have hnodes : spacedTree.includeNodes = [includeWithPath, includeWithoutPath] := by
    rw [SyntaxTree.includeNodes, Node.walk_eq_preorder]
    rfl
  have hheader : trim spacedInclude.header = "é.h".toList := by decide
  have hsite (position : Position) : spacedInclude.site position = found position := by
    rw [WrittenInclude.site, hheader]
    rfl
  obtain ⟨hline, hpath, htext⟩ := include_readers_agree spacedInclude
  have hfirst := hpath spacedTree [] [includeWithoutPath] includeWithPath _ hnodes rfl rfl
    (by decide +kernel)
  have hlast := htext spacedTree [includeWithPath] [] includeWithoutPath spacedInclude.indent ['\n']
    hnodes rfl (by decide) (by decide +kernel)
  have hfirstPosition : spacedTree.position includeWithPath = ⟨0, 0⟩ := by decide +kernel
  have hlastPosition : spacedTree.position includeWithoutPath = ⟨1, 0⟩ := by decide +kernel
  refine ⟨by decide, ?_, ?_, ?_⟩
  · have hread := hline [] [] line " // x".toList (by decide)
    rw [hsite] at hread
    exact hread
  · have hbelow : spacedTree.includesAt [includeWithoutPath] = .ok [found ⟨1, 0⟩] := by
      decide +kernel
    rw [hbelow, hsite, hfirstPosition] at hfirst
    exact ⟨_, hfirst⟩
  · have habove : spacedTree.includesAt [includeWithPath] = .ok [found ⟨0, 0⟩] := by
      decide +kernel
    rw [habove, hsite, hlastPosition] at hlast
    exact ⟨_, hlast⟩

end DefectScan
