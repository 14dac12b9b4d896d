import DefectScan.Proofs.ArgumentLists
import DefectScan.Proofs.Decomment

/-!
# Argument lists in the code view

The scanner of a file and the cutting of an argument list follow literals independently. Behind an
opening parenthesis of code they go in step: as long as there is no comment, the code view is the
line with its literals masked, and masking the literals of a text changes neither where it is cut
nor where the list ends. So a list may be cut in the line or in its code view, and the arguments
differ only in what their literals hold.
-/

namespace DefectScan

open Text

/-! ### Masked literals -/

/-- The quote that a character is, if it is one. -/
def Quote.of? (c : Char) : Option Quote :=
  if c = '"' then some .double else if c = '\'' then some .single else none

theorem Quote.char_of_of? {c : Char} {quote : Quote} (h : Quote.of? c = some quote) :
    c = quote.char := by
  unfold Quote.of? at h
  split at h
  · cases h
    assumption
  · split at h
    · cases h
      assumption
    · cases h

theorem Quote.of?_eq_none_iff {c : Char} : Quote.of? c = none ↔ c ≠ '"' ∧ c ≠ '\'' := by
  by_cases hdouble : c = '"'
  · simp [Quote.of?, hdouble]
  · by_cases hsingle : c = '\'' <;> simp [Quote.of?, hdouble, hsingle]

theorem Quote.space_ne_char (quote : Quote) : ' ' ≠ quote.char := by
  cases quote <;> decide

/-- The text with spaces in place of what its literals hold, where `opened` is the quote of the
literal that is open. -/
def maskLiterals : (opened : Option Quote) → List Char → List Char
  | _, [] => []
  | none, c :: s => c :: maskLiterals (Quote.of? c) s
  | some quote, c :: s =>
    if c = '\\' then
      match s with
      | [] => [' ']
      | _ :: s => ' ' :: ' ' :: maskLiterals (some quote) s
    else if c = quote.char then c :: maskLiterals none s
    else ' ' :: maskLiterals (some quote) s

@[simp] theorem maskLiterals_nil (opened : Option Quote) : maskLiterals opened [] = [] := by
  cases opened <;> rfl

@[simp] theorem maskLiterals_none_cons (c : Char) (s : List Char) :
    maskLiterals none (c :: s) = c :: maskLiterals (Quote.of? c) s := rfl

section Inside

variable (quote : Quote) (s : List Char)

@[simp] theorem maskLiterals_pair (c : Char) :
    maskLiterals (some quote) ('\\' :: c :: s) = ' ' :: ' ' :: maskLiterals (some quote) s := rfl

@[simp] theorem maskLiterals_escape : maskLiterals (some quote) ['\\'] = [' '] := rfl

/-- What masking does at a character that takes no other with it. -/
theorem maskLiterals_cons {c : Char} (h : c ≠ '\\') :
    maskLiterals (some quote) (c :: s) =
      if c = quote.char then c :: maskLiterals none s else ' ' :: maskLiterals (some quote) s := by
  cases s <;> exact if_neg h

@[simp] theorem maskLiterals_close :
    maskLiterals (some quote) (quote.char :: s) = quote.char :: maskLiterals none s := by
  rw [maskLiterals_cons quote s quote.char_ne_backslash, if_pos rfl]

theorem maskLiterals_char {c : Char} (hescape : c ≠ '\\') (hquote : c ≠ quote.char) :
    maskLiterals (some quote) (c :: s) = ' ' :: maskLiterals (some quote) s := by
  rw [maskLiterals_cons quote s hescape, if_neg hquote]

end Inside

/-! ### Masking and trimming -/

theorem Quote.of?_of_isBlank {c : Char} (h : isBlank c = true) : Quote.of? c = none := by
  rw [Quote.of?_eq_none_iff]
  constructor
  · rintro rfl
    exact absurd h (by decide)
  · rintro rfl
    exact absurd h (by decide)

/-- Masking puts spaces, and else leaves what is there. -/
theorem isBlank_of_mem_maskLiterals {opened : Option Quote} {s : List Char}
    (h : ∀ c ∈ s, isBlank c = true) : ∀ c ∈ maskLiterals opened s, isBlank c = true := by
  fun_induction maskLiterals opened s with
  | case1 => simp
  | case2 c s ih =>
    obtain ⟨hc, hs⟩ := List.forall_mem_cons.1 h
    exact List.forall_mem_cons.2 ⟨hc, ih hs⟩
  | case3 quote => simp [isBlank_space]
  | case4 quote d s ih =>
    obtain ⟨-, hs⟩ := List.forall_mem_cons.1 h
    obtain ⟨-, hs⟩ := List.forall_mem_cons.1 hs
    exact List.forall_mem_cons.2 ⟨isBlank_space, List.forall_mem_cons.2 ⟨isBlank_space, ih hs⟩⟩
  | case5 quote s _ ih =>
    obtain ⟨hc, hs⟩ := List.forall_mem_cons.1 h
    exact List.forall_mem_cons.2 ⟨hc, ih hs⟩
  | case6 quote c s _ _ ih =>
    obtain ⟨-, hs⟩ := List.forall_mem_cons.1 h
    exact List.forall_mem_cons.2 ⟨isBlank_space, ih hs⟩

/-- What is blank with masked literals holds no literal. -/
theorem isBlank_of_maskLiterals {s : List Char}
    (h : ∀ c ∈ maskLiterals none s, isBlank c = true) : ∀ c ∈ s, isBlank c = true := by
  induction s with
  | nil => simp
  | cons c s ih =>
    obtain ⟨hc, hs⟩ := List.forall_mem_cons.1 h
    rw [Quote.of?_of_isBlank hc] at hs
    exact List.forall_mem_cons.2 ⟨hc, ih hs⟩

/-- Blanks in front of a text open no literal. -/
theorem maskLiterals_append_left {front : List Char} (h : ∀ c ∈ front, isBlank c = true)
    (s : List Char) : maskLiterals none (front ++ s) = front ++ maskLiterals none s := by
  induction front with
  | nil => rfl
  | cons c front ih =>
    obtain ⟨hc, hfront⟩ := List.forall_mem_cons.1 h
    rw [List.cons_append, maskLiterals_none_cons, Quote.of?_of_isBlank hc, ih hfront]
    rfl

/-- Blanks behind a text stay blank, be they in a literal or not. -/
theorem exists_maskLiterals_append_right (opened : Option Quote) (s : List Char) {back : List Char}
    (h : ∀ c ∈ back, isBlank c = true) :
    ∃ blanks, maskLiterals opened (s ++ back) = maskLiterals opened s ++ blanks ∧
      ∀ c ∈ blanks, isBlank c = true := by
  fun_induction maskLiterals opened s with
  | case1 opened =>
    exact ⟨maskLiterals opened back, rfl, isBlank_of_mem_maskLiterals h⟩
  | case2 c s ih =>
    obtain ⟨blanks, hs, hblanks⟩ := ih
    exact ⟨blanks, by simp [hs], hblanks⟩
  | case3 quote =>
    cases back with
    | nil => exact ⟨[], by simp, by simp⟩
    | cons d back =>
      obtain ⟨-, hback⟩ := List.forall_mem_cons.1 h
      exact ⟨' ' :: maskLiterals (some quote) back, by simp,
        List.forall_mem_cons.2 ⟨isBlank_space, isBlank_of_mem_maskLiterals hback⟩⟩
  | case4 quote d s ih =>
    obtain ⟨blanks, hs, hblanks⟩ := ih
    exact ⟨blanks, by simp [hs], hblanks⟩
  | case5 quote s _ ih =>
    obtain ⟨blanks, hs, hblanks⟩ := ih
    exact ⟨blanks, by simp [hs], hblanks⟩
  | case6 quote c s hescape hquote ih =>
    obtain ⟨blanks, hs, hblanks⟩ := ih
    exact ⟨blanks, by simp [maskLiterals_char quote _ hescape hquote, hs], hblanks⟩

/-- Masking and trimming can be done in either order. -/
theorem trim_maskLiterals (s : List Char) :
    trim (maskLiterals none s) = trim (maskLiterals none (trim s)) := by
  obtain ⟨front, back, hs, hfront, hback⟩ := exists_eq_append_trim s
  obtain ⟨blanks, hmask, hblanks⟩ := exists_maskLiterals_append_right none (trim s) hback
  have htrim := congrArg (fun t => trim (maskLiterals none t)) hs
  rwa [maskLiterals_append_left hfront, hmask, trim_append_append hfront hblanks] at htrim

theorem trim_maskLiterals_eq_nil_iff (s : List Char) :
    trim (maskLiterals none s) = [] ↔ trim s = [] := by
  rw [trim_eq_nil_iff, trim_eq_nil_iff]
  exact ⟨isBlank_of_maskLiterals, isBlank_of_mem_maskLiterals⟩

/-! ### Masking and cutting -/

/-- The pieces with their literals masked. -/
def Pieces.masked (opened : Option Quote) (p : Pieces) : Pieces :=
  ⟨maskLiterals opened p.first, p.others.map (maskLiterals .none), p.used⟩

/-- Masking does not change where a text is cut. -/
theorem pieces_maskLiterals (opened : Option Quote) (s : List Char) (depth : Nat) :
    pieces depth (opened.map Quote.char) (maskLiterals opened s) =
      (pieces depth (opened.map Quote.char) s).masked opened := by
  fun_induction maskLiterals opened s generalizing depth with
  | case1 opened => simp [pieces, Pieces.masked, Pieces.none]
  | case2 c s ih =>
    cases hquote : Quote.of? c with
    | some quote =>
      rw [hquote] at ih
      obtain rfl := Quote.char_of_of? hquote
      rw [Option.map_none, pieces_quote, pieces_quote, ← Option.map_some, ih]
      simp [Pieces.masked, Pieces.cons, hquote]
    | none =>
      rw [hquote] at ih
      obtain ⟨hdouble, hsingle⟩ := Quote.of?_eq_none_iff.1 hquote
      simp only [Option.map_none] at ih ⊢
      simp only [pieces_cons, hdouble, hsingle, or_self, if_false]
      split
      · simp [ih, Pieces.masked, Pieces.cons, hquote]
      · split
        · rfl
        · split
          · simp [ih, Pieces.masked, Pieces.cons, hquote]
          · split
            · simp [ih, Pieces.masked, Pieces.comma]
            · simp [ih, Pieces.masked, Pieces.cons, hquote]
  | case3 quote =>
    have hspace := quote.space_ne_char
    simp [pieces, Pieces.masked, Pieces.none, Pieces.cons, hspace]
  | case4 quote d s ih =>
    have hspace := quote.space_ne_char
    rw [Option.map_some, pieces_quoted_char depth _ hspace (by decide),
      pieces_quoted_char depth _ hspace (by decide), pieces_quoted_pair, ← Option.map_some, ih]
    simp [Pieces.masked, Pieces.cons]
  | case5 quote s _ ih =>
    rw [Option.map_some, pieces_quoted_close, pieces_quoted_close, ← Option.map_none, ih]
    simp [Pieces.masked, Pieces.cons]
  | case6 quote c s hescape hquote ih =>
    have hspace := quote.space_ne_char
    rw [Option.map_some, pieces_quoted_char depth _ hspace (by decide),
      pieces_quoted_char depth _ hquote hescape, ← Option.map_some, ih]
    simp [Pieces.masked, Pieces.cons, maskLiterals_char quote _ hescape hquote]

/-- The arguments of masked pieces are the arguments with their literals masked. -/
theorem arguments_masked (p : Pieces) :
    (p.masked none).arguments = p.arguments.map fun part => trim (maskLiterals none part) := by
  have hall : ((p.masked none).first :: (p.masked none).others).map trim =
      ((p.first :: p.others).map trim).map fun part => trim (maskLiterals none part) := by
    simp only [Pieces.masked, ← List.map_cons, List.map_map]
    exact List.map_congr_left fun s _ => trim_maskLiterals s
  have hlast : ((((p.first :: p.others).map trim).map
      fun part => trim (maskLiterals none part)).getLast? = some []) ↔
      ((p.first :: p.others).map trim).getLast? = some [] := by
    rw [List.getLast?_map, List.getLast?_map]
    simp [trim_maskLiterals_eq_nil_iff, trim_trim]
  rw [Pieces.arguments, Pieces.arguments, hall]
  simp only [hlast]
  split
  · rw [List.map_dropLast]
  · rfl

/-! ### The code view -/

/-- The state of a scanner that is in code or in a literal. -/
def Lexical.ofQuote : Option Quote → Lexical
  | none => .code
  | some quote => .literal quote

namespace Lexical

/-- In code, where no comment opens, the next character opens a literal or nothing. -/
theorem move_code_ofQuote {c : Char} {s : List Char}
    (h : Region.comment ∉ (code.regions (c :: s)).1) :
    code.move c s.head? = .one .code (ofQuote (Quote.of? c)) := by
  cases hmove : code.move c s.head? with
  | one region next =>
    simp only [move] at hmove
    split at hmove
    · cases hmove
    · split at hmove
      · cases hmove
      · rw [← hmove, Quote.of?]
        split
        · rfl
        · split <;> rfl
  | two region next =>
    rcases move_settled_of_two hmove with ⟨rfl, -, -, hsome⟩ | ⟨rfl, -, -, halone⟩
    · obtain ⟨d, hd⟩ := Option.isSome_iff_exists.1 hsome
      obtain ⟨s, rfl⟩ := List.head?_eq_some_iff.1 hd
      rw [regions_of_two (by simpa using hmove)] at h
      simp at h
    · have hpair := halone none
      grind [move]

/-- A backslash in a literal takes any next character with it. -/
theorem move_backslash_ofQuote (quote : Quote) (following : Option Char) :
    (ofQuote (some quote)).move '\\' following = .two .literal (ofQuote (some quote)) := by
  simp [ofQuote, move]

/-- Without comments the scanner follows nothing but literals. -/
theorem view_eq_maskLiterals (opened : Option Quote) {s : List Char}
    (h : Region.comment ∉ ((ofQuote opened).regions s).1) :
    (ofQuote opened).view s = maskLiterals opened s := by
  fun_induction maskLiterals opened s with
  | case1 opened => rfl
  | case2 c s ih =>
    have hmove : (ofQuote none).move c s.head? = .one .code (ofQuote (Quote.of? c)) :=
      move_code_ofQuote h
    rw [regions_of_one hmove] at h
    rw [view_of_one hmove, ih (by simpa using h)]
    rfl
  | case3 quote =>
    rw [view_of_two_nil (move_backslash_ofQuote quote none)]
    rfl
  | case4 quote d s ih =>
    have hmove := move_backslash_ofQuote quote (some d)
    rw [regions_of_two hmove] at h
    rw [view_of_two hmove, ih (by simpa using h)]
    rfl
  | case5 quote s hescape ih =>
    have hmove : (ofQuote (some quote)).move quote.char s.head? = .one .code (ofQuote none) := by
      simp [ofQuote, move, quote.char_ne_backslash]
    rw [regions_of_one hmove] at h
    rw [view_of_one hmove, ih (by simpa using h)]
    rfl
  | case6 quote c s hescape hquote ih =>
    have hmove : (ofQuote (some quote)).move c s.head? =
        .one .literal (ofQuote (some quote)) := by
      simp [ofQuote, move, hescape, hquote]
    rw [regions_of_one hmove] at h
    rw [view_of_one hmove, ih (by simpa using h)]
    rfl

/-- The code view shows a parenthesis only where it is code. -/
theorem eq_code_of_show_eq_paren {region : Region} {c : Char} (h : region.show c = '(') :
    region = .code ∧ c = '(' := by
  cases region with
  | code => exact ⟨rfl, h⟩
  | comment => cases h
  | literal => cases h

/-- A parenthesis that is code leaves the scanner in code. -/
theorem move_paren {state next : Lexical} {following : Option Char}
    (h : state.move '(' following = .one .code next) : next = .code := by
  cases state with
  | code => simpa [move, eq_comm] using h
  | lineComment => cases h
  | blockComment => simp [move] at h
  | literal quote => cases quote <;> simp [move, Quote.char] at h

/-- Characters that are taken in pairs are not code. -/
theorem show_ne_paren_of_two {state next : Lexical} {region : Region} {c : Char}
    {following : Option Char} (h : state.move c following = .two region next) (d : Char) :
    region.show d ≠ '(' := by
  intro hd
  obtain ⟨rfl, -⟩ := eq_code_of_show_eq_paren hd
  rcases move_settled_of_two h with ⟨hregion, -⟩ | ⟨hregion, -⟩ <;> cases hregion

/-- Behind a parenthesis that the code view shows, the scanner reads the rest of the line as code
that starts there. -/
theorem drop_regions_of_view_eq_paren (state : Lexical) {raw : List Char} {k : Nat}
    (h : (state.view raw)[k]? = some '(') :
    (state.regions raw).1.drop (k + 1) = (code.regions (raw.drop (k + 1))).1 := by
  induction state, raw using regions.induct generalizing k with
  | case1 state => simp [view, regions] at h
  | case2 state c s region next hmove ih =>
    rw [view_of_one hmove] at h
    rw [regions_of_one hmove]
    cases k with
    | zero =>
      obtain ⟨rfl, rfl⟩ := eq_code_of_show_eq_paren (by simpa using h)
      simp [move_paren hmove]
    | succ k => simpa using ih (by simpa using h)
  | case3 state c region next hmove =>
    rw [view_of_two_nil hmove] at h
    cases k with
    | zero => exact absurd (by simpa using h) (show_ne_paren_of_two hmove c)
    | succ k => simp at h
  | case4 state c region next d s hmove ih =>
    rw [view_of_two hmove] at h
    rw [regions_of_two hmove]
    cases k with
    | zero => exact absurd (by simpa using h) (show_ne_paren_of_two hmove c)
    | succ k =>
      cases k with
      | zero => exact absurd (by simpa using h) (show_ne_paren_of_two hmove d)
      | succ k => simpa using ih (by simpa using h)

/-- Behind such a parenthesis, in a line without further comments, the code view is the line with
its literals masked. -/
theorem drop_view_eq_maskLiterals (state : Lexical) {raw : List Char} {k : Nat}
    (hk : (state.view raw)[k]? = some '(')
    (hcomment : Region.comment ∉ (state.regions raw).1.drop (k + 1)) :
    (state.view raw).drop (k + 1) = maskLiterals none (raw.drop (k + 1)) := by
  have hregions := drop_regions_of_view_eq_paren state hk
  calc
    (state.view raw).drop (k + 1) = code.view (raw.drop (k + 1)) := by
      rw [view, view, List.drop_zipWith, hregions]
    _ = maskLiterals none (raw.drop (k + 1)) := by
      rw [hregions] at hcomment
      exact view_eq_maskLiterals none hcomment

end Lexical

/-! ### Cutting a line and its code view -/

/-- The regions of the characters of a line of the file. -/
def CodeLine.regionsIn (lines : List (List Char)) (line : CodeLine) : List Region :=
  ((Lexical.code.afterLines (lines.take line.row)).regions line.raw).1

/-- An argument list with no comment after it ends at one index in a line and its code view, with
equal arguments but for literals. -/
theorem splitArguments_code_eq_masked {lines : List (List Char)} {line : CodeLine}
    (hline : line ∈ scanLines lines) {k : Nat} (hk : line.code[k]? = some '(')
    (hcomment : Region.comment ∉ (line.regionsIn lines).drop k) :
    splitArguments line.code (k + 1) =
      ((splitArguments line.raw (k + 1)).1.map fun part => trim (maskLiterals none part),
        (splitArguments line.raw (k + 1)).2) := by
  have hbehind : Region.comment ∉ (line.regionsIn lines).drop (k + 1) := by
    intro hmem
    rw [← List.drop_drop] at hmem
    exact hcomment (List.mem_of_mem_drop hmem)
  have hcode := code_of_mem_scanLines hline
  rw [hcode] at hk
  have hmask := Lexical.drop_view_eq_maskLiterals _ hk hbehind
  have hpieces := pieces_maskLiterals none (line.raw.drop (k + 1)) 0
  rw [splitArguments, splitArguments, hcode, hmask]
  simp only [Option.map_none] at hpieces
  rw [hpieces, arguments_masked]
  rfl

/-- The line begins in a literal of the line before and ends in one that is never closed. -/
theorem splitArguments_code_eq_masked_continued :
    let raw := "(\", /* ( */ f(\"x, \\\"y)\", '\"', \"/* \\".toList
    let code := " \",         f(\"       \", ' ', \"    ".toList
    let lines := ["s = \"a\\".toList, raw]
    ⟨1, raw, code⟩ ∈ scanLines lines ∧ code[13]? = some '(' ∧
      Region.comment ∉ (CodeLine.regionsIn lines ⟨1, raw, code⟩).drop 13 ∧
      splitArguments raw 14 =
        (["\"x, \\\"y)\"".toList, "'\"'".toList, "\"/* \\".toList], 35) ∧
      splitArguments code 14 =
        (["\"       \"".toList, "' '".toList, "\"".toList], 35) := by
  intro raw code lines
  have hline : ⟨1, raw, code⟩ ∈ scanLines lines := by decide +kernel
  have hparen : code[13]? = some '(' := by decide +kernel
  have hcomment : Region.comment ∉ (CodeLine.regionsIn lines ⟨1, raw, code⟩).drop 13 := by
    decide +kernel
  have hraw : splitArguments raw 14 =
      (["\"x, \\\"y)\"".toList, "'\"'".toList, "\"/* \\".toList], 35) := by
    decide +kernel
  have hmask : ["\"x, \\\"y)\"".toList, "'\"'".toList, "\"/* \\".toList].map
      (fun part => trim (maskLiterals none part)) =
        ["\"       \"".toList, "' '".toList, "\"".toList] := by
    decide +kernel
  have hcode := splitArguments_code_eq_masked hline hparen hcomment
  rw [hraw, hmask] at hcode
  exact ⟨hline, hparen, hcomment, hraw, hcode⟩

end DefectScan
