import DefectScan.Proofs.CodeView

/-!
# The lexical structure of a file

A file is read as one text, its lines joined by line feeds. The text falls into lexemes: single
characters of code, comments and literals. What may stand inside a lexeme and what may follow it
is said without a scanner, in `Lexeme.Fits`. Every text falls into lexemes, and however it does,
the code view shows the code and the quotes and blanks all else.
-/

namespace DefectScan

/-- The text of a file with the given lines. -/
def fileText (lines : List (List Char)) : List Char := ['\n'].intercalate lines

/-- The inside of a literal, closed or not: a backslash takes the next character with it, and a line
ends only after one. -/
inductive LiteralBody (quote : Quote) : List Char → Prop where
  | nil : LiteralBody quote []
  | char {c : Char} {s : List Char} (hquote : c ≠ quote.char) (hescape : c ≠ '\\')
      (hline : c ≠ '\n') : LiteralBody quote s → LiteralBody quote (c :: s)
  | pair {c : Char} {s : List Char} (hline : c ≠ '\n') :
      LiteralBody quote s → LiteralBody quote ('\\' :: c :: s)
  | continued {s : List Char} : LiteralBody quote s → LiteralBody quote ('\\' :: '\n' :: s)
  | pairContinued {s : List Char} :
      LiteralBody quote s → LiteralBody quote ('\\' :: '\\' :: '\n' :: s)

/-- A piece of the text of a file. -/
inductive Lexeme where
  /-- A character of code, or a line feed between two lines of code. -/
  | plain (c : Char)
  /-- A comment that runs to the end of its line. -/
  | lineComment (body : List Char)
  /-- A comment between delimiters. -/
  | blockComment (body : List Char)
  /-- A comment that is never closed. -/
  | openComment (body : List Char)
  /-- A string or character between quotes. -/
  | literal (quote : Quote) (body : List Char)
  /-- A literal that breaks off at the end of a line or of the file. -/
  | cutLiteral (quote : Quote) (body : List Char)
  deriving DecidableEq, Repr

/-- All characters but the line feeds replaced by spaces. -/
def blanked (s : List Char) : List Char := s.map fun c => if c = '\n' then '\n' else ' '

/-- Whether a text is empty or begins with a line feed. -/
def AtLineEnd (rest : List Char) : Prop := rest = [] ∨ rest.head? = some '\n'

namespace Lexeme

/-- The characters of a lexeme. -/
def text : Lexeme → List Char
  | plain c => [c]
  | lineComment body => '/' :: '/' :: body
  | blockComment body => '/' :: '*' :: (body ++ ['*', '/'])
  | openComment body => '/' :: '*' :: body
  | literal quote body => quote.char :: (body ++ [quote.char])
  | cutLiteral quote body => quote.char :: body

/-- A lexeme as the code view shows it: code and quotes as they are, comments with their
delimiters and the insides of literals as spaces. -/
def shown : Lexeme → List Char
  | plain c => [c]
  | literal quote body => quote.char :: (blanked body ++ [quote.char])
  | cutLiteral quote body => quote.char :: blanked body
  | comment => blanked comment.text

/-- What a lexeme may hold, and what may follow it. At the end of the file a cut literal may end
with a lone backslash. -/
def Fits : Lexeme → (rest : List Char) → Prop
  | plain c, rest =>
    c ≠ '"' ∧ c ≠ '\'' ∧ ¬(c = '/' ∧ (rest.head? = some '/' ∨ rest.head? = some '*'))
  | lineComment body, rest => '\n' ∉ body ∧ AtLineEnd rest
  | blockComment body, _ => ¬['*', '/'] <:+: body
  | openComment body, rest => ¬['*', '/'] <:+: body ∧ rest = []
  | literal quote body, _ => LiteralBody quote body
  | cutLiteral quote body, rest =>
    (rest = [] ∧ (LiteralBody quote body ∨
      ∃ inner, body = inner ++ ['\\'] ∧ LiteralBody quote inner)) ∨
    (rest.head? = some '\n' ∧ LiteralBody quote body ∧ body.getLast? ≠ some '\\')

end Lexeme

/-- A text that falls into the given lexemes. -/
inductive Lexed : List Lexeme → List Char → Prop where
  | nil : Lexed [] []
  | cons {lexeme : Lexeme} {lexemes : List Lexeme} {rest : List Char} :
      lexeme.Fits rest → Lexed lexemes rest → Lexed (lexeme :: lexemes) (lexeme.text ++ rest)

/-! ### Every text falls into lexemes -/

private theorem exists_first_close {s : List Char} (h : ['*', '/'] <:+: s) :
    ∃ body rest, s = body ++ '*' :: '/' :: rest ∧ ¬['*', '/'] <:+: body := by
  induction s with
  | nil => simp at h
  | cons c s ih =>
    by_cases hc : ['*', '/'] <+: c :: s
    · obtain ⟨rest, hrest⟩ := hc
      exact ⟨[], rest, hrest.symm, by simp⟩
    · have hs : ['*', '/'] <:+: s := (List.infix_cons_iff.1 h).resolve_left hc
      obtain ⟨body, rest, rfl, hbody⟩ := ih hs
      refine ⟨c :: body, rest, rfl, ?_⟩
      intro hin
      rcases List.infix_cons_iff.1 hin with hin | hin
      · exact hc (hin.trans (by simp))
      · exact hbody hin

/-- How a text goes on inside a literal: to its closing quote, to the end of an uncontinued line or
of the file. -/
inductive LiteralRun (quote : Quote) : List Char → Prop where
  | closed {body rest : List Char} :
      LiteralBody quote body → LiteralRun quote (body ++ quote.char :: rest)
  | cut {body rest : List Char} (hlast : body.getLast? ≠ some '\\') :
      LiteralBody quote body → LiteralRun quote (body ++ '\n' :: rest)
  | ended {body : List Char} : LiteralBody quote body → LiteralRun quote body
  | escaped {inner : List Char} : LiteralBody quote inner → LiteralRun quote (inner ++ ['\\'])

/-- A piece of the inside can be put in front, unless it brings a backslash to the end of a
line. -/
private theorem LiteralRun.append {quote : Quote} (piece : List Char) {s : List Char}
    (hpiece : ∀ body, LiteralBody quote body → LiteralBody quote (piece ++ body))
    (hlast : s.head? = some '\n' → piece.getLast? ≠ some '\\') (h : LiteralRun quote s) :
    LiteralRun quote (piece ++ s) := by
  cases h with
  | closed hbody =>
    rw [← List.append_assoc]
    exact .closed (hpiece _ hbody)
  | @cut body rest hl hbody =>
    rw [← List.append_assoc]
    refine .cut ?_ (hpiece _ hbody)
    cases body with
    | nil => simpa using hlast rfl
    | cons c body => simpa [List.getLast?_append] using hl
  | ended hbody => exact .ended (hpiece _ hbody)
  | escaped hinner =>
    rw [← List.append_assoc]
    exact .escaped (hpiece _ hinner)

/-- Whatever follows an opening quote goes on as a literal. -/
theorem literalRun (quote : Quote) (s : List Char) : LiteralRun quote s := by
  induction hn : s.length using Nat.strongRecOn generalizing s with
  | ind n ih =>
    cases s with
    | nil => exact .ended .nil
    | cons c s =>
      have hs : ∀ t : List Char, t.length ≤ s.length → LiteralRun quote t :=
        fun t ht => ih t.length (by simp at hn; omega) t rfl
      by_cases hquote : c = quote.char
      · subst c
        exact .closed .nil
      by_cases hline : c = '\n'
      · subst c
        exact .cut (by simp) .nil
      by_cases hescape : c = '\\'
      · subst c
        cases s with
        | nil => exact .escaped .nil
        | cons d s =>
          by_cases hd : d = '\n'
          · subst d
            exact LiteralRun.append ['\\', '\n'] (fun _ => .continued) (by simp) (hs s (by simp))
          · by_cases hnext : d = '\\' ∧ s.head? = some '\n'
            · obtain ⟨rfl, hhead⟩ := hnext
              obtain ⟨t, rfl⟩ := List.head?_eq_some_iff.1 hhead
              exact LiteralRun.append ['\\', '\\', '\n'] (fun _ => .pairContinued) (by simp)
                (hs t (by simp only [List.length_cons]; omega))
            · have hlast : s.head? = some '\n' → ['\\', d].getLast? ≠ some '\\' := by
                intro hhead he
                exact hnext ⟨by simpa using he, hhead⟩
              exact LiteralRun.append ['\\', d] (fun _ => .pair hd) hlast (hs s (by simp))
      · exact LiteralRun.append [c] (fun _ => .char hquote hescape hline) (by simp [hescape])
          (hs s (Nat.le_refl _))

private theorem exists_atLineEnd (s : List Char) :
    ∃ body rest, s = body ++ rest ∧ '\n' ∉ body ∧ AtLineEnd rest := by
  induction s with
  | nil => exact ⟨[], [], rfl, by simp, .inl rfl⟩
  | cons c s ih =>
    by_cases hc : c = '\n'
    · subst c
      exact ⟨[], '\n' :: s, rfl, by simp, .inr rfl⟩
    · obtain ⟨body, rest, rfl, hbody, hrest⟩ := ih
      exact ⟨c :: body, rest, rfl, by simp [hbody, Ne.symm hc], hrest⟩

/-- Every text begins with a lexeme that fits the rest of it. -/
theorem exists_first_lexeme (c : Char) (s : List Char) :
    ∃ lexeme rest, c :: s = Lexeme.text lexeme ++ rest ∧ lexeme.Fits rest := by
  by_cases hline : c = '/' ∧ s.head? = some '/'
  · obtain ⟨rfl, hhead⟩ := hline
    obtain ⟨t, rfl⟩ := List.head?_eq_some_iff.1 hhead
    obtain ⟨body, rest, rfl, hbody, hrest⟩ := exists_atLineEnd t
    exact ⟨.lineComment body, rest, rfl, hbody, hrest⟩
  by_cases hblock : c = '/' ∧ s.head? = some '*'
  · obtain ⟨rfl, hhead⟩ := hblock
    obtain ⟨t, rfl⟩ := List.head?_eq_some_iff.1 hhead
    by_cases hclose : ['*', '/'] <:+: t
    · obtain ⟨body, rest, rfl, hbody⟩ := exists_first_close hclose
      exact ⟨.blockComment body, rest, by simp [Lexeme.text], hbody⟩
    · exact ⟨.openComment t, [], by simp [Lexeme.text], hclose, rfl⟩
  by_cases hquote : ∃ quote : Quote, c = quote.char
  · obtain ⟨quote, rfl⟩ := hquote
    cases literalRun quote s with
    | @closed body rest hbody => exact ⟨.literal quote body, rest, by simp [Lexeme.text], hbody⟩
    | @cut body rest hlast hbody =>
      exact ⟨.cutLiteral quote body, _, rfl, .inr ⟨rfl, hbody, hlast⟩⟩
    | ended hbody => exact ⟨.cutLiteral quote s, [], by simp [Lexeme.text], .inl ⟨rfl, .inl hbody⟩⟩
    | @escaped inner hinner =>
      exact ⟨.cutLiteral quote _, [], by simp [Lexeme.text],
        .inl ⟨rfl, .inr ⟨inner, rfl, hinner⟩⟩⟩
  · refine ⟨.plain c, s, rfl, ?_, ?_, ?_⟩
    · exact fun h => hquote ⟨.double, h⟩
    · exact fun h => hquote ⟨.single, h⟩
    · rintro ⟨hc, hhead | hhead⟩
      · exact hline ⟨hc, hhead⟩
      · exact hblock ⟨hc, hhead⟩

/-- A lexeme has at least one character. -/
theorem Lexeme.length_text_pos (lexeme : Lexeme) : 0 < lexeme.text.length := by
  cases lexeme <;> simp [text]

/-- Every text falls into lexemes. -/
theorem exists_lexed (s : List Char) : ∃ lexemes, Lexed lexemes s := by
  induction hn : s.length using Nat.strongRecOn generalizing s with
  | ind n ih =>
    cases s with
    | nil => exact ⟨[], .nil⟩
    | cons c s =>
      obtain ⟨lexeme, rest, hsplit, hfits⟩ := exists_first_lexeme c s
      have hlength : rest.length < n := by
        have hpos := lexeme.length_text_pos
        rw [← hn, hsplit, List.length_append]
        omega
      obtain ⟨lexemes, hlexed⟩ := ih rest.length hlength rest rfl
      exact ⟨lexeme :: lexemes, hsplit ▸ .cons hfits hlexed⟩

/-! ### The code view of a text -/

namespace Lexical

/-- The code view of a text of several lines that goes on in a state after the given character of
the same line. -/
def viewText : Lexical → (last : Option Char) → List Char → List Char
  | _, _, [] => []
  | state, last, c :: s =>
    if c = '\n' then '\n' :: viewText (state.endLine last.toList) none s
    else
      match state.move c s.head? with
      | .one region next => region.show c :: viewText next (some c) s
      | .two region next =>
        region.show c ::
          match s with
          | [] => []
          | d :: s =>
            if d = '\n' then '\n' :: viewText (next.endLine [c]) none s
            else region.show d :: viewText next (some d) s

@[simp] theorem viewText_nil (state : Lexical) (last : Option Char) :
    state.viewText last [] = [] := rfl

/-- The code view of a text, by its first character. -/
theorem viewText_cons (state : Lexical) (last : Option Char) (c : Char) (s : List Char) :
    state.viewText last (c :: s) =
      if c = '\n' then '\n' :: viewText (state.endLine last.toList) none s
      else
        match state.move c s.head? with
        | .one region next => region.show c :: viewText next (some c) s
        | .two region next =>
          region.show c ::
            match s with
            | [] => []
            | d :: s =>
              if d = '\n' then '\n' :: viewText (next.endLine [c]) none s
              else region.show d :: viewText next (some d) s := by
  rw [viewText]

/-- The end of a line is nothing that a move looks for. -/
theorem move_head?_append (state : Lexical) (c : Char) (s : List Char) {rest : List Char}
    (hrest : AtLineEnd rest) : state.move c (s ++ rest).head? = state.move c s.head? := by
  cases s with
  | cons d s => rfl
  | nil =>
    rcases hrest with rfl | hhead
    · rfl
    · cases state <;> simp [move, hhead]

/-- Up to the end of a line the view of the text is the view of the line. -/
theorem viewText_append (state : Lexical) (last : Option Char) {s rest : List Char}
    (hs : '\n' ∉ s) (hrest : AtLineEnd rest) :
    state.viewText last (s ++ rest) =
      state.view s ++ (state.regions s).2.viewText (s.getLast?.or last) rest := by
  fun_induction regions state s generalizing last with
  | case1 state => simp [view, regions]
  | case2 state c s region next hmove tail ih =>
    obtain ⟨hc, hs⟩ : '\n' ≠ c ∧ '\n' ∉ s := by simpa using hs
    have hlast : (c :: s).getLast?.or last = s.getLast?.or (some c) := by
      cases s <;> simp [List.getLast?_cons]
    rw [view_of_one hmove, hlast, List.cons_append, viewText_cons, if_neg (Ne.symm hc),
      move_head?_append _ _ _ hrest, hmove]
    simp only [List.cons_append]
    rw [ih (some c) hs]
  | case3 state c region next hmove =>
    have hc : '\n' ≠ c := by simpa using hs
    rw [view_of_two_nil hmove, List.cons_append, viewText_cons, if_neg (Ne.symm hc),
      move_head?_append _ _ _ hrest, hmove]
    cases rest with
    | nil => rfl
    | cons d rest =>
      have hd : d = '\n' := by simpa [AtLineEnd] using hrest
      subst d
      simp [viewText_cons]
  | case4 state c region next d s tail hmove ih =>
    obtain ⟨hc, hd, hs⟩ : '\n' ≠ c ∧ '\n' ≠ d ∧ '\n' ∉ s := by simpa using hs
    have hlast : (c :: d :: s).getLast?.or last = s.getLast?.or (some d) := by
      cases s <;> simp [List.getLast?_cons]
    rw [view_of_two hmove, hlast, List.cons_append, viewText_cons, if_neg (Ne.symm hc),
      move_head?_append _ _ _ hrest, hmove]
    simp only [List.cons_append, if_neg (Ne.symm hd)]
    rw [ih (some d) hs]

private theorem getLast?_toList (last : Option Char) : last.toList.getLast? = last := by
  cases last <;> rfl

/-- Of the character before, only whether it is a backslash counts. -/
theorem viewText_congr (state : Lexical) {last last' : Option Char}
    (h : last = some '\\' ↔ last' = some '\\') (s : List Char) :
    state.viewText last s = state.viewText last' s := by
  cases s with
  | nil => rfl
  | cons c s =>
    have hend : state.endLine last.toList = state.endLine last'.toList := by
      cases state <;> simp [endLine, getLast?_toList, h]
    rw [viewText_cons, viewText_cons, hend]

end Lexical

@[simp] theorem fileText_singleton (l : List Char) : fileText [l] = l := by
  simp [fileText, List.intercalate]

@[simp] theorem fileText_cons_cons (l m : List Char) (lines : List (List Char)) :
    fileText (l :: m :: lines) = l ++ '\n' :: fileText (m :: lines) := by
  simp [fileText, List.intercalate]

/-- The view of the text of a file is the text of the code views of its lines. -/
theorem viewText_fileText (state : Lexical) (row : Nat) {lines : List (List Char)}
    (h : ∀ raw ∈ lines, '\n' ∉ raw) :
    state.viewText none (fileText lines) =
      fileText ((scanFrom state row lines).map CodeLine.code) := by
  induction lines generalizing state row with
  | nil => rfl
  | cons raw lines ih =>
    have hraw : '\n' ∉ raw := h raw List.mem_cons_self
    have hlines : ∀ l ∈ lines, '\n' ∉ l := fun l hl => h l (List.mem_cons_of_mem _ hl)
    cases lines with
    | nil =>
      have hview := state.viewText_append none hraw (.inl rfl)
      simpa [scanFrom] using hview
    | cons next lines =>
      have hview := state.viewText_append none hraw
        (show AtLineEnd ('\n' :: fileText (next :: lines)) from .inr rfl)
      have hend : (state.regions raw).2.endLine (raw.getLast?.or none).toList =
          state.afterLine raw := by
        rw [Lexical.afterLine, Option.or_none]
        cases (state.regions raw).2 <;> simp [Lexical.endLine, Lexical.getLast?_toList]
      rw [fileText_cons_cons, hview, Lexical.viewText_cons, if_pos rfl, hend,
        ih (state.afterLine raw) (row + 1) hlines]
      simp [scanFrom_cons]

/-! ### Lexemes in the code view -/

@[simp] theorem blanked_nil : blanked [] = [] := rfl

@[simp] theorem blanked_cons (c : Char) (s : List Char) :
    blanked (c :: s) = (if c = '\n' then '\n' else ' ') :: blanked s := rfl

@[simp] theorem blanked_append (s t : List Char) : blanked (s ++ t) = blanked s ++ blanked t := by
  simp [blanked]

theorem Quote.char_ne_lineFeed (quote : Quote) : quote.char ≠ '\n' := by
  cases quote <;> decide

theorem Quote.char_ne_backslash (quote : Quote) : quote.char ≠ '\\' := by
  cases quote <;> decide

namespace Lexical

/-- In code nothing of the line before matters. -/
theorem viewText_code (last : Option Char) (s : List Char) :
    code.viewText last s = code.viewText none s := by
  cases s with
  | nil => rfl
  | cons c s => simp [viewText_cons, endLine]

/-- A line comment is blanked to the end of its line, where code goes on. -/
theorem viewText_lineComment (last : Option Char) {body rest : List Char} (hbody : '\n' ∉ body)
    (hrest : AtLineEnd rest) :
    lineComment.viewText last (body ++ rest) = blanked body ++ code.viewText none rest := by
  induction body generalizing last with
  | nil =>
    cases rest with
    | nil => rfl
    | cons c rest =>
      have hc : c = '\n' := by simpa [AtLineEnd] using hrest
      subst c
      simp [viewText_cons, endLine]
  | cons c body ih =>
    obtain ⟨hc, hbody⟩ : '\n' ≠ c ∧ '\n' ∉ body := by simpa using hbody
    simp [viewText_cons, Ne.symm hc, move, Region.show, ih (some c) hbody]

/-- The inside of a block comment is blanked, and the comment goes on. -/
theorem viewText_blockComment (last : Option Char) {body rest : List Char}
    (hbody : ¬['*', '/'] <:+: body) (hrest : rest.head? ≠ some '/') :
    ∃ last', blockComment.viewText last (body ++ rest) =
      blanked body ++ blockComment.viewText last' rest := by
  induction body generalizing last with
  | nil => exact ⟨last, rfl⟩
  | cons c body ih =>
    have htail : ¬['*', '/'] <:+: body := fun h => hbody (List.infix_cons h)
    by_cases hc : c = '\n'
    · subst c
      obtain ⟨last', hview⟩ := ih none htail
      exact ⟨last', by simp [viewText_cons, endLine, hview]⟩
    · have hopen : ¬(c = '*' ∧ (body ++ rest).head? = some '/') := by
        rintro ⟨rfl, hhead⟩
        cases body with
        | nil => exact hrest hhead
        | cons d body =>
          have hd : d = '/' := by simpa using hhead
          subst d
          exact hbody ⟨[], body, rfl⟩
      obtain ⟨last', hview⟩ := ih (some c) htail
      refine ⟨last', ?_⟩
      rw [List.cons_append, viewText_cons, if_neg hc, move, if_neg hopen]
      simp [Region.show, hc, hview]

/-- The inside of a literal is blanked, and the literal goes on. -/
theorem viewText_literalBody {quote : Quote} {body : List Char} (hbody : LiteralBody quote body)
    (last : Option Char) (rest : List Char) :
    (literal quote).viewText last (body ++ rest) =
      blanked body ++ (literal quote).viewText (body.getLast?.or last) rest := by
  induction hbody generalizing last with
  | nil => simp
  | @char c s hquote hescape hline _ ih =>
    have hlast : (c :: s).getLast?.or last = s.getLast?.or (some c) := by
      cases s <;> simp [List.getLast?_cons]
    rw [hlast, List.cons_append, viewText_cons, if_neg hline, move, if_neg hescape, if_neg hquote]
    simp [Region.show, hline, ih]
  | @pair c s hline _ ih =>
    have hlast : ('\\' :: c :: s).getLast?.or last = s.getLast?.or (some c) := by
      cases s <;> simp [List.getLast?_cons]
    rw [hlast]
    simp [viewText_cons, move, Region.show, hline, ih]
  | @continued s _ ih =>
    have hlast : s.getLast?.or none = some '\\' ↔
        ('\\' :: '\n' :: s).getLast?.or last = some '\\' := by
      cases s <;> simp [List.getLast?_cons]
    rw [← viewText_congr _ hlast]
    simp [viewText_cons, move, endLine, Region.show, ih]
  | @pairContinued s _ ih =>
    have hlast : s.getLast?.or none = some '\\' ↔
        ('\\' :: '\\' :: '\n' :: s).getLast?.or last = some '\\' := by
      cases s <;> simp [List.getLast?_cons]
    rw [← viewText_congr _ hlast]
    simp [viewText_cons, move, endLine, Region.show, ih]

/-- A quote in code opens its literal. -/
theorem viewText_quote (last : Option Char) (quote : Quote) (s : List Char) :
    code.viewText last (quote.char :: s) =
      quote.char :: (literal quote).viewText (some quote.char) s := by
  cases quote <;> simp [viewText_cons, move, Quote.char, Region.show]

/-- The closing quote of a literal leads back to code. -/
theorem viewText_closingQuote (last : Option Char) (quote : Quote) (s : List Char) :
    (literal quote).viewText last (quote.char :: s) = quote.char :: code.viewText none s := by
  rw [viewText_cons, if_neg quote.char_ne_lineFeed, move, if_neg quote.char_ne_backslash,
    if_pos rfl]
  simp [Region.show, viewText_code (some quote.char)]

/-- Where a line ends without a backslash, a literal breaks off and code goes on. -/
theorem viewText_cutLiteral {last : Option Char} (hlast : last ≠ some '\\') (quote : Quote)
    {rest : List Char} (hrest : rest.head? = some '\n') :
    (literal quote).viewText last rest = code.viewText none rest := by
  obtain ⟨t, rfl⟩ := List.head?_eq_some_iff.1 hrest
  simp [viewText_cons, endLine, getLast?_toList, hlast]

/-- The code view shows a lexeme as it should and goes on in code. -/
theorem viewText_lexeme (last : Option Char) {lexeme : Lexeme} {rest : List Char}
    (h : lexeme.Fits rest) :
    code.viewText last (lexeme.text ++ rest) = lexeme.shown ++ code.viewText none rest := by
  cases lexeme with
  | plain c =>
    obtain ⟨hdouble, hsingle, hcomment⟩ := h
    by_cases hc : c = '\n'
    · subst c
      simp [Lexeme.text, Lexeme.shown, viewText_cons, endLine]
    · have hline : ¬(c = '/' ∧ rest.head? = some '/') := fun hh => hcomment ⟨hh.1, .inl hh.2⟩
      have hblock : ¬(c = '/' ∧ rest.head? = some '*') := fun hh => hcomment ⟨hh.1, .inr hh.2⟩
      simp only [Lexeme.text, Lexeme.shown, List.cons_append, List.nil_append]
      rw [viewText_cons, if_neg hc, move, if_neg hline, if_neg hblock, if_neg hdouble,
        if_neg hsingle]
      simp [Region.show, viewText_code (some c)]
  | lineComment body =>
    obtain ⟨hbody, hrest⟩ := h
    have hview := viewText_lineComment (some '/') hbody hrest
    simp [Lexeme.text, Lexeme.shown, viewText_cons, move, Region.show, hview]
  | blockComment body =>
    obtain ⟨last', hview⟩ :=
      viewText_blockComment (some '*') h (show ('*' :: '/' :: rest).head? ≠ some '/' by simp)
    simp [Lexeme.text, Lexeme.shown, viewText_cons, move, Region.show, hview,
      viewText_code (some '/')]
  | openComment body =>
    obtain ⟨hbody, rfl⟩ := h
    obtain ⟨last', hview⟩ :=
      viewText_blockComment (some '*') hbody (show ([] : List Char).head? ≠ some '/' by simp)
    rw [List.append_nil] at hview
    simp [Lexeme.text, Lexeme.shown, viewText_cons, move, Region.show, hview]
  | literal quote body =>
    simp only [Lexeme.text, Lexeme.shown, List.cons_append, List.append_assoc, List.nil_append]
    rw [viewText_quote, viewText_literalBody h, viewText_closingQuote]
  | cutLiteral quote body =>
    simp only [Lexeme.text, Lexeme.shown, List.cons_append]
    rw [viewText_quote]
    rcases h with ⟨rfl, hbody | ⟨inner, rfl, hinner⟩⟩ | ⟨hrest, hbody, hlast⟩
    · rw [viewText_literalBody hbody]
      rfl
    · rw [List.append_assoc, viewText_literalBody hinner]
      simp [viewText_cons, move, Region.show]
    · have hne : body.getLast?.or (some quote.char) ≠ some '\\' := by
        cases hb : body.getLast? with
        | none => simpa using quote.char_ne_backslash
        | some c => simpa [hb] using hlast
      rw [viewText_literalBody hbody, viewText_cutLiteral hne quote hrest]

end Lexical

/-- However a text falls into lexemes, its code view is theirs. -/
theorem Lexed.viewText_eq {lexemes : List Lexeme} {s : List Char} (h : Lexed lexemes s) :
    Lexical.code.viewText none s = lexemes.flatMap Lexeme.shown := by
  induction h with
  | nil => rfl
  | cons hfits _ ih => rw [Lexical.viewText_lexeme none hfits, ih, List.flatMap_cons]

/-- However a file falls into lexemes, the code views show code and delimiting quotes, and spaces in
place of comments and literals. -/
theorem scanLines_shows_lexemes (lines : List (List Char)) (hlines : ∀ raw ∈ lines, '\n' ∉ raw) :
    (scanLines lines).length = lines.length ∧
      (∀ k raw, lines[k]? = some raw →
        ∃ code, (scanLines lines)[k]? = some ⟨k, raw, code⟩ ∧ code.length = raw.length ∧
          code = (Lexical.code.afterLines (lines.take k)).view raw) ∧
      (∃ lexemes, Lexed lexemes (fileText lines)) ∧
      (∀ lexemes, Lexed lexemes (fileText lines) →
        fileText ((scanLines lines).map CodeLine.code) = lexemes.flatMap Lexeme.shown) ∧
      ∀ k raw, lines[k]? = some raw → raw.getLast? ≠ some '\\' →
        Lexical.code.afterLines (lines.take (k + 1)) = .code ∨
          Lexical.code.afterLines (lines.take (k + 1)) = .blockComment := by
  refine ⟨length_scanFrom .code 0 lines, ?_, exists_lexed _, ?_, ?_⟩
  · intro k raw hk
    have hline := getElem?_scanFrom .code 0 hk
    rw [Nat.zero_add] at hline
    exact ⟨_, hline, Lexical.length_view _ raw, rfl⟩
  · intro lexemes hlexed
    rw [← hlexed.viewText_eq, viewText_fileText .code 0 hlines, scanLines]
  · intro k raw hk hlast
    have htake : lines.take (k + 1) = lines.take k ++ [raw] := by
      rw [List.take_add_one, hk, Option.toList_some]
    rw [htake, Lexical.afterLines_append]
    exact Lexical.afterLine_of_getLast?_ne _ hlast

/-- A literal that a backslash carries over the end of its line, with an opening comment delimiter
inside, before a comment. -/
theorem scanLines_shows_lexemes_continued :
    Lexed [.literal .double "a\\\n/*".toList, .plain 'b', .lineComment "'".toList]
        (fileText ["\"a\\".toList, "/*\"b//'".toList]) ∧
      fileText ((scanLines ["\"a\\".toList, "/*\"b//'".toList]).map CodeLine.code) =
        "\"  \n  \"b   ".toList := by
  have hbody : LiteralBody .double "a\\\n/*".toList :=
    .char (by decide) (by decide) (by decide) (.continued
      (.char (by decide) (by decide) (by decide) (.char (by decide) (by decide) (by decide) .nil)))
  have hplain : (Lexeme.plain 'b').Fits ("//'".toList) := by
    simp [Lexeme.Fits]
  have hcomment : (Lexeme.lineComment "'".toList).Fits [] := ⟨by decide, .inl rfl⟩
  have hlexed : Lexed [.literal .double "a\\\n/*".toList, .plain 'b', .lineComment "'".toList]
      (fileText ["\"a\\".toList, "/*\"b//'".toList]) :=
    .cons (show Lexeme.Fits (.literal _ _) "b//'".toList from hbody)
      (.cons hplain (.cons hcomment .nil))
  have hall := scanLines_shows_lexemes ["\"a\\".toList, "/*\"b//'".toList] (by decide)
  exact ⟨hlexed, hall.2.2.2.1 _ hlexed⟩

end DefectScan
