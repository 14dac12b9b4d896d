import DefectScan.Proofs.TextLines
import DefectScan.Text.Page

/-!
# The beginning of a wrapped text

A text that begins with words of plain characters which fit on a line of the page begins so when it
is wrapped, whatever comes behind them. So a message is found by its first words.
-/

namespace DefectScan.Text

/-! ### Plain words -/

/-- A printable character of the common range. -/
def isPlain (c : Char) : Bool := ' ' ≤ c && c ≤ '~'

section Plain

variable {c : Char} {s : List Char}

theorem charWidth_of_isPlain (h : isPlain c = true) : charWidth c = 1 := if_pos h

theorem ne_of_isPlain (h : isPlain c = true) : c ≠ joiner ∧ c ≠ formSelector := by
  constructor <;> rintro rfl <;> exact absurd h (by decide)

theorem isUnprinted_of_isPlain (h : isPlain c = true) : isUnprinted c = false := by
  simp only [isUnprinted, Bool.or_eq_false_iff, beq_eq_false_iff_ne]
  refine ⟨⟨⟨⟨?_, ?_⟩, ?_⟩, ?_⟩, ?_⟩ <;> rintro rfl <;> exact absurd h (by decide)

/-- Plain characters take a column each. -/
theorem width_of_isPlain (h : ∀ c ∈ s, isPlain c = true) : width s = s.length := by
  have hsum : (s.map charWidth).foldr (· + ·) 0 = s.length := by
    induction s with
    | nil => rfl
    | cons c s ih =>
      rw [List.forall_mem_cons] at h
      rw [List.map_cons, List.foldr_cons, charWidth_of_isPlain h.1, ih h.2, List.length_cons,
        Nat.add_comm]
  rw [width_eq_sum s ⟨fun hm => (ne_of_isPlain (h _ hm)).1 rfl,
    fun hm => (ne_of_isPlain (h _ hm)).2 rfl⟩, hsum]

end Plain

/-- A word of plain characters. -/
structure IsPlainWord (word : List Char) : Prop where
  /-- It is not empty. -/
  ne_nil : word ≠ []
  /-- Its characters are plain. -/
  plain : ∀ c ∈ word, isPlain c = true
  /-- None of them is blank. -/
  no_blank : ∀ c ∈ word, isBlank c = false

theorem isPlainWord_iff {word : List Char} :
    IsPlainWord word ↔ word ≠ [] ∧ (word.all fun c => isPlain c && !isBlank c) = true := by
  simp only [List.all_eq_true, Bool.and_eq_true, Bool.not_eq_true']
  constructor
  · exact fun h => ⟨h.ne_nil, fun c hc => ⟨h.plain c hc, h.no_blank c hc⟩⟩
  · exact fun ⟨hne, hall⟩ => ⟨hne, fun c hc => (hall c hc).1, fun c hc => (hall c hc).2⟩

instance (word : List Char) : Decidable (IsPlainWord word) :=
  decidable_of_iff _ isPlainWord_iff.symm

theorem IsPlainWord.concat {word : List Char} (hword : IsPlainWord word) {c : Char}
    (hplain : isPlain c = true) (hblank : isBlank c = false) : IsPlainWord (word ++ [c]) where
  ne_nil := List.append_ne_nil_of_right_ne_nil _ (List.cons_ne_nil _ _)
  plain := List.forall_mem_append.2 ⟨hword.plain, List.forall_mem_singleton.2 hplain⟩
  no_blank := List.forall_mem_append.2 ⟨hword.no_blank, List.forall_mem_singleton.2 hblank⟩

/-- The words with a space behind each of them. -/
def headed (words : List (List Char)) : List Char := words.flatMap (· ++ [' '])

theorem isPlain_of_mem_headed {words : List (List Char)} (hwords : ∀ w ∈ words, IsPlainWord w)
    {c : Char} (hc : c ∈ headed words) : isPlain c = true := by
  obtain ⟨w, hw, hc⟩ := List.mem_flatMap.1 hc
  rcases List.mem_append.1 hc with hc | hc
  · exact (hwords w hw).plain c hc
  · exact List.mem_singleton.1 hc ▸ rfl

/-! ### Words laid out -/

/-- The first word of a text, with the blanks behind it. -/
theorem spacedWords_append {word : List Char} (hword : IsPlainWord word) (s : List Char) :
    spacedWords (word ++ ' ' :: s) =
      (word ++ ' ' :: s.takeWhile isBlank) :: spacedWords (s.dropWhile isBlank) := by
  have hnot : ∀ c ∈ word, (!isBlank c) = true := fun c hc => by rw [hword.no_blank c hc]; rfl
  obtain ⟨c, cs, rfl⟩ := List.exists_cons_of_ne_nil hword.ne_nil
  have hfirst : isBlank c = false := hword.no_blank c (List.mem_cons_self ..)
  have hlead : (c :: cs ++ ' ' :: s).takeWhile isBlank = [] :=
    List.takeWhile_cons_of_neg (by simp [hfirst])
  have hbody : (c :: cs ++ ' ' :: s).dropWhile isBlank = c :: cs ++ ' ' :: s :=
    List.dropWhile_cons_of_neg (by simp [hfirst])
  have htake : (c :: cs ++ ' ' :: s).takeWhile (!isBlank ·) = c :: cs := by
    rw [List.takeWhile_append_of_pos hnot, List.takeWhile_cons_of_neg (by decide), List.append_nil]
  have hdrop : (c :: cs ++ ' ' :: s).dropWhile (!isBlank ·) = ' ' :: s := by
    rw [List.dropWhile_append_of_pos hnot, List.dropWhile_cons_of_neg (by decide)]
  rw [spacedWords, dif_neg (by rw [hbody]; simp)]
  simp only [hlead, hbody, htake, hdrop, List.nil_append]
  rw [List.takeWhile_cons_of_pos isBlank_space, List.dropWhile_cons_of_pos isBlank_space]

theorem chop_ne_nil (page : Nat) (piece : List Char) (used : Nat) (gs : List Cluster) :
    chop page piece used gs ≠ [] := by
  fun_induction chop page piece used gs with
  | case1 => exact List.cons_ne_nil _ _
  | case2 => exact List.cons_ne_nil _ _
  | case3 _ _ _ _ _ ih => exact ih

/-- The first line of a layout. -/
def Layout.first (l : Layout) : List Char := (l.line :: l.done).getLast (List.cons_ne_nil _ _)

section Layout

variable {page : Nat} {l : Layout} {start : List Char}

/-- A word goes on the line if it fits, and else the line is ended. -/
theorem Layout.add_cases (page : Nat) (l : Layout) (word : List Char) :
    (l.used + width (trimEnd word) ≤ page ∧
      l.add page word = { l with line := l.line ++ word, used := l.used + width word }) ∨
    ∃ before line used, l.add page word = ⟨before ++ l.endLine, line, used⟩ := by
  by_cases hfits : l.used + width (trimEnd word) ≤ page
  · exact .inl ⟨hfits, if_pos hfits⟩
  · right
    by_cases hwide : width (trimEnd word) > page
    · cases hpieces : (chop page [] 0 (clusters word)).reverse with
      | nil => exact absurd (List.reverse_eq_nil_iff.1 hpieces) (chop_ne_nil _ _ _ _)
      | cons last before =>
        refine ⟨before, last, width last, ?_⟩
        simp only [Layout.add, if_neg hfits, if_pos hwide, hpieces]
    · refine ⟨[], word, width word, ?_⟩
      simp only [Layout.add, if_neg hfits, if_neg hwide, List.nil_append]

/-- The line that is not empty stays the first one when it is ended. -/
theorem Layout.first_of_endLine (h : l.first ≠ []) (before : List (List Char)) (line : List Char)
    (used : Nat) : (⟨before ++ l.endLine, line, used⟩ : Layout).first = l.first := by
  have hend : l.endLine = l.line :: l.done := by
    refine if_neg fun hempty => h ?_
    obtain ⟨hdone, hline⟩ := Bool.and_eq_true_iff.1 hempty
    simp only [first, List.isEmpty_iff.1 hdone, List.isEmpty_iff.1 hline, List.getLast_singleton]
  simp only [first, hend, ← List.cons_append]
  exact List.getLast_append_of_ne_nil _ (List.cons_ne_nil _ _)

/-- The first line begins as it did when more words are laid out. -/
theorem Layout.prefix_first_add (hstart : start ≠ []) (h : start <+: l.first) (word : List Char) :
    start <+: (l.add page word).first := by
  rcases l.add_cases page word with ⟨-, hadd⟩ | ⟨before, line, used, hadd⟩
  · rw [hadd]
    unfold first at h ⊢
    cases hdone : l.done with
    | nil =>
      simp only [hdone, List.getLast_singleton] at h ⊢
      exact h.trans (List.prefix_append _ _)
    | cons d ds => simpa only [hdone, List.getLast_cons_cons] using h
  · have hne : l.first ≠ [] := fun hnil => hstart (List.prefix_nil.1 (hnil ▸ h))
    rwa [hadd, Layout.first_of_endLine hne]

theorem Layout.prefix_first_foldl (hstart : start ≠ []) (h : start <+: l.first)
    (words : List (List Char)) : start <+: (words.foldl (Layout.add page) l).first := by
  induction words generalizing l with
  | nil => exact h
  | cons word words ih => exact ih (prefix_first_add hstart h word)

/-- A plain word that fits is put on the line. -/
theorem IsPlainWord.add_blanks {word blanks : List Char} (hword : IsPlainWord word)
    (hblanks : ∀ c ∈ blanks, isBlank c = true) (hfits : l.used + word.length ≤ page) :
    l.add page (word ++ ' ' :: blanks) =
      { l with
        line := l.line ++ (word ++ ' ' :: blanks)
        used := l.used + width (word ++ ' ' :: blanks) } := by
  have hlast : word.getLast?.any isBlank = false := by
    rw [List.getLast?_eq_some_getLast hword.ne_nil]
    exact hword.no_blank _ (List.getLast_mem _)
  have htrim : trimEnd (word ++ ' ' :: blanks) = word := by
    rw [trimEnd_append (List.forall_mem_cons.2 ⟨isBlank_space, hblanks⟩), trimEnd_eq_self hlast]
  exact if_pos (by rwa [htrim, width_of_isPlain hword.plain])

/-- Plain words that fit on a line together are put on it. -/
theorem headed_prefix_first {words : List (List Char)} (hwords : ∀ w ∈ words, IsPlainWord w)
    (line : List Char) (hfits : line.length + (headed words).length ≤ page)
    (hne : line ++ headed words ≠ []) (rest : List Char) :
    line ++ headed words <+: ((spacedWords (headed words ++ rest)).foldl (Layout.add page)
      { line := line, used := line.length }).first := by
  induction words generalizing line with
  | nil =>
    refine Layout.prefix_first_foldl hne ?_ _
    simp [Layout.first, headed]
  | cons word words ih =>
    rw [List.forall_mem_cons] at hwords
    have hheaded : headed (word :: words) = word ++ ' ' :: headed words := by simp [headed]
    rw [hheaded] at hfits hne ⊢
    rw [List.append_assoc, List.cons_append, spacedWords_append hwords.1, List.foldl_cons,
      hwords.1.add_blanks (List.all_eq_true.1 List.all_takeWhile) (by simp at hfits ⊢; omega)]
    cases words with
    | nil =>
      refine Layout.prefix_first_foldl hne ?_ _
      simp [Layout.first, headed]
    | cons next words =>
      obtain ⟨d, ds, hnext⟩ := List.exists_cons_of_ne_nil (hwords.2 next (by simp)).ne_nil
      have hblank : isBlank d = false := (hwords.2 next (by simp)).no_blank d (by simp [hnext])
      have htake : (headed (next :: words) ++ rest).takeWhile isBlank = [] := by
        simp [headed, hnext, hblank]
      have hdrop : (headed (next :: words) ++ rest).dropWhile isBlank =
          headed (next :: words) ++ rest := by
        simp [headed, hnext, hblank]
      have hspaced : ∀ c ∈ word ++ [' '], isPlain c = true := by
        rw [List.forall_mem_append, List.forall_mem_singleton]
        exact ⟨hwords.1.plain, rfl⟩
      have hline : line ++ (word ++ ' ' :: headed (next :: words)) =
          line ++ (word ++ [' ']) ++ headed (next :: words) := by simp
      rw [hline] at hne ⊢
      rw [htake, hdrop, width_of_isPlain hspaced, ← List.length_append]
      exact ih hwords.2 _ (by simpa [Nat.add_assoc, Nat.add_comm, Nat.add_left_comm] using hfits)
        hne

end Layout

/-! ### Lines cut to the page -/

section Crop

variable {start rest : List Char}

/-- A plain character begins a cluster. -/
theorem clustersFrom_cons {c : Char} (hc : isPlain c = true) (g : Cluster) (last : Option Char)
    (s : List Char) :
    clustersFrom g last (c :: s) = g :: clustersFrom { chars := [c], columns := 1 } (some c) s := by
  obtain ⟨hjoiner, hselector⟩ := ne_of_isPlain hc
  rw [clustersFrom.eq_def]
  simp only [if_neg hjoiner, if_neg hselector, charWidth_of_isPlain hc, Nat.one_ne_zero, if_false]

theorem takeColumns_cons {g : Cluster} {columns : Nat} (h : g.columns ≤ columns)
    (gs : List Cluster) :
    takeColumns columns (g :: gs) = g.chars ++ takeColumns (columns - g.columns) gs := if_pos h

/-- What begins with a plain character, or is empty. -/
def BeginsPlain (s : List Char) : Prop := ∀ c ∈ s.head?, isPlain c = true

/-- Plain characters are kept when a text is cut to columns that hold them. -/
theorem prefix_takeColumns (hstart : ∀ c ∈ start, isPlain c = true) (hrest : BeginsPlain rest)
    {g : Cluster} {last : Option Char} {columns : Nat}
    (hfits : g.columns + start.length ≤ columns) :
    g.chars ++ start <+: takeColumns columns (clustersFrom g last (start ++ rest)) := by
  induction start generalizing g last columns with
  | nil =>
    rw [List.append_nil, List.nil_append]
    cases rest with
    | nil =>
      rw [clustersFrom, takeColumns_cons (Nat.le_of_add_right_le hfits)]
      exact List.prefix_append _ _
    | cons c rest =>
      rw [clustersFrom_cons (hrest c rfl), takeColumns_cons (Nat.le_of_add_right_le hfits)]
      exact List.prefix_append _ _
  | cons c start ih =>
    rw [List.forall_mem_cons] at hstart
    rw [List.length_cons] at hfits
    rw [List.cons_append, clustersFrom_cons hstart.1, takeColumns_cons (by omega)]
    have hrest : 1 + start.length ≤ columns - g.columns := by omega
    exact (List.prefix_append_right_inj _).2 (ih (g := ⟨[c], 1⟩) hstart.2 hrest)

theorem prefix_cropColumns (hstart : ∀ c ∈ start, isPlain c = true) (hrest : BeginsPlain rest)
    {columns : Nat} (hfits : start.length ≤ columns) :
    start <+: cropColumns columns (start ++ rest) := by
  rw [cropColumns]
  split
  · exact List.prefix_append _ _
  · cases start with
    | nil => exact List.nil_prefix
    | cons c start =>
      rw [List.forall_mem_cons] at hstart
      refine prefix_takeColumns (g := ⟨[c], charWidth c⟩) hstart.2 hrest ?_
      rw [charWidth_of_isPlain hstart.1, Nat.add_comm]
      exact hfits

/-- What ends with no blank is kept when blanks are taken off the end of a line. -/
theorem exists_cropBlanks (hstart : start.getLast?.any isBlank = false) (page : Nat) :
    ∃ n, cropBlanks page (start ++ rest) = start ++ rest.take n := by
  have hreverse : start.reverse.takeWhile isBlank = [] := by
    cases hlast : start.reverse with
    | nil => rfl
    | cons c s =>
      rw [← List.head?_reverse, hlast] at hstart
      exact List.takeWhile_cons_of_neg (by simpa using hstart)
  have hblanks : ((start ++ rest).reverse.takeWhile isBlank).length ≤ rest.length := by
    rw [List.reverse_append, List.takeWhile_append]
    split
    · simp [hreverse]
    · simpa using (List.takeWhile_prefix isBlank (l := rest.reverse)).length_le
  obtain ⟨n, hn⟩ := Nat.exists_eq_add_of_le (show start.length ≤ (start ++ rest).length -
      min ((start ++ rest).reverse.takeWhile isBlank).length ((start ++ rest).length - page) by
    have hlength : (start ++ rest).length = start.length + rest.length := List.length_append
    omega)
  exact ⟨n, by rw [cropBlanks, hn, List.take_length_add_append]⟩

end Crop

/-! ### Wrapped texts -/

section Wrap

variable {words : List (List Char)} {last : List Char} {page : Nat}

/-- Plain words that fit on the page together begin the first line that is laid out. -/
theorem exists_laidOut (hwords : ∀ w ∈ words, IsPlainWord w) (hne : headed words ≠ [])
    (hfits : (headed words).length ≤ page) (rest : List Char) :
    ∃ line others, laidOut page (headed words ++ rest) = line :: others ∧
      headed words <+: line := by
  rw [laidOut]
  split
  · exact ⟨_, [], rfl, List.prefix_append _ _⟩
  · have hfirst := headed_prefix_first hwords [] (by simpa using hfits) (by simpa using hne) rest
    have hlines (l : Layout) : (l.line :: l.done).reverse =
        l.first :: ((l.line :: l.done).dropLast).reverse := by
      rw [Layout.first, ← List.reverse_concat, List.dropLast_concat_getLast]
    exact ⟨_, _, hlines _, hfirst⟩

/-- Plain words that fit on the page together begin the first line of a wrapped line. -/
theorem exists_wrapLine (hwords : ∀ w ∈ words ++ [last], IsPlainWord w)
    (hfits : (headed (words ++ [last])).length ≤ page) (rest : List Char) :
    ∃ first others, wrapLine page (headed (words ++ [last]) ++ rest) = first :: others ∧
      headed words ++ last <+: first := by
  have hlast : IsPlainWord last := hwords last (by simp)
  have hstart : headed (words ++ [last]) = (headed words ++ last) ++ [' '] := by simp [headed]
  have hend : (headed words ++ last).getLast?.any isBlank = false := by
    rw [List.getLast?_append, List.getLast?_eq_some_getLast hlast.ne_nil]
    exact hlast.no_blank _ (List.getLast_mem _)
  have hplain : ∀ c ∈ headed (words ++ [last]), isPlain c = true :=
    fun c => isPlain_of_mem_headed hwords
  obtain ⟨line, others, hlines, rest', rfl⟩ := exists_laidOut hwords (by simp [hstart]) hfits rest
  have hcrop : ∃ n, cropBlanks page (headed words ++ last ++ ' ' :: rest') =
      headed words ++ last ++ (' ' :: rest').take n := exists_cropBlanks hend page
  obtain ⟨n, hcrop⟩ := hcrop
  refine ⟨_, _, by rw [wrapLine, hlines, List.map_cons], ?_⟩
  rw [hstart, List.append_assoc, List.singleton_append, hcrop]
  rw [hstart] at hplain hfits
  refine prefix_cropColumns (fun c hc => hplain c (List.mem_append_left _ hc)) ?_ ?_
  · intro c hc
    cases n with
    | zero => cases hc
    | succ n => exact Option.some.inj hc ▸ rfl
  · rw [List.length_append] at hfits
    exact Nat.le_of_add_right_le hfits

/-- A text without a colon keeps its characters before what follows. -/
theorem pictograms_append {s : List Char} (hs : ':' ∉ s) (rest : List Char) :
    pictograms (s ++ rest) = s ++ pictograms rest := by
  induction s with
  | nil => rfl
  | cons c s ih =>
    obtain ⟨hc, hs⟩ : c ≠ ':' ∧ ':' ∉ s := by simpa [eq_comm] using hs
    rw [List.cons_append, pictograms, if_neg hc, ih hs]
    rfl

/-- A colon before a blank names no pictogram. -/
theorem pictograms_colon {c : Char} (hc : isBlank c = true) (rest : List Char) :
    pictograms (':' :: c :: rest) = ':' :: pictograms (c :: rest) := by
  have hname : ((c :: rest).takeWhile fun a => a != ':' && !isBlank a) = [] :=
    List.takeWhile_cons_of_neg (by simp [hc])
  rw [pictograms, if_pos rfl]
  simp only [hname]
  split
  · next h =>
    rw [hname] at h
    obtain ⟨rfl, -⟩ := List.cons.inj h
    cases hc
  · rfl

theorem reverse_prefix_expandTabsFrom (column : Nat) (part s : List Char) :
    part.reverse <+: expandTabsFrom column part s := by
  induction s generalizing part with
  | nil => exact List.prefix_rfl
  | cons c s ih =>
    rw [expandTabsFrom]
    split
    · rw [List.append_assoc, List.reverse_cons, List.append_assoc]
      exact List.prefix_append _ _
    · exact (List.prefix_append _ [c]).trans (List.reverse_cons ▸ ih (c :: part))

/-- What stands before the first tab stays as it is. -/
theorem prefix_expandTabs {s : List Char} (hs : '\t' ∉ s) (rest : List Char) :
    s <+: expandTabs (s ++ rest) := by
  have hfrom (part : List Char) :
      expandTabsFrom 0 part (s ++ rest) = expandTabsFrom 0 (s.reverse ++ part) rest := by
    induction s generalizing part with
    | nil => rfl
    | cons c s ih =>
      obtain ⟨hc, hs⟩ : c ≠ '\t' ∧ '\t' ∉ s := by simpa [eq_comm] using hs
      rw [List.cons_append, expandTabsFrom, if_neg hc, ih hs]
      simp
  have hprefix := reverse_prefix_expandTabsFrom 0 (s.reverse ++ []) rest
  rwa [← hfrom, List.append_nil, List.reverse_reverse] at hprefix

/-- A text that begins with plain words and a colon, which fit on the page, begins so when it is
wrapped. -/
theorem exists_wrapped (hwords : ∀ w ∈ words ++ [last], IsPlainWord w ∧ ':' ∉ w)
    (hfits : (headed (words ++ [last ++ [':']])).length ≤ pageWidth) (message : List Char) :
    ∃ first others,
      wrapped (headed words ++ last ++ ':' :: ' ' :: message) = first :: others ∧
        headed words ++ last ++ [':'] <+: first := by
  rw [List.forall_mem_append, List.forall_mem_singleton] at hwords
  have hheading : ∀ w ∈ words ++ [last ++ [':']], IsPlainWord w :=
    List.forall_mem_append.2 ⟨fun w hw => (hwords.1 w hw).1,
      List.forall_mem_singleton.2 (hwords.2.1.concat rfl rfl)⟩
  have hplain : ∀ c ∈ headed (words ++ [last ++ [':']]), isPlain c = true :=
    fun c => isPlain_of_mem_headed hheading
  have hnot {c : Char} (hc : isPlain c = false) : c ∉ headed (words ++ [last ++ [':']]) := by
    intro hmem
    rw [hplain c hmem] at hc
    cases hc
  have hcolon : ':' ∉ headed words ++ last := by
    simpa [headed, hwords.2.2] using fun w hw => (hwords.1 w hw).2
  have hpictograms : pictograms (headed words ++ last ++ ':' :: ' ' :: message) =
      headed (words ++ [last ++ [':']]) ++ pictograms message := by
    rw [pictograms_append hcolon, pictograms_colon isBlank_space, pictograms, if_neg (by decide)]
    simp [headed]
  have hkept : (headed (words ++ [last ++ [':']])).filter (!isUnprinted ·) =
      headed (words ++ [last ++ [':']]) := by
    refine List.filter_eq_self.2 fun c hc => ?_
    rw [isUnprinted_of_isPlain (hplain c hc)]
    rfl
  have hend : (headed (words ++ [last ++ [':']])).getLast? ≠ some '\r' := by simp [headed]
  let printed := splitLines ((pictograms message).filter (!isUnprinted ·))
  obtain ⟨rest, hrest⟩ := prefix_expandTabs (hnot rfl) (printed.headD [])
  have hwrapped : wrapped (headed words ++ last ++ ':' :: ' ' :: message) =
      wrapLine pageWidth (headed (words ++ [last ++ [':']]) ++ rest) ++
        (printed.tail.map expandTabs).flatMap (wrapLine pageWidth) := by
    rw [wrapped, printedLines, hpictograms, List.filter_append, hkept,
      splitLines_append (hnot rfl) (fun h => absurd h hend), List.map_cons, List.flatMap_cons,
      ← hrest]
  obtain ⟨first, others, hlines, hfirst⟩ := exists_wrapLine hheading hfits rest
  refine ⟨first, others ++ (printed.tail.map expandTabs).flatMap (wrapLine pageWidth), ?_, ?_⟩
  · rw [hwrapped, hlines, List.cons_append]
  · rwa [List.append_assoc]

end Wrap

end DefectScan.Text
