import DefectScan.Directory
import Mathlib.Data.List.Sort

/-!
# The report of a directory

The names of a directory come in any order and only those of source files count. Sorted, they are
determined by which of them there are, so the report does not depend on the order of the listing:
it is the reports of the files that can be read, each by itself, in the order of their paths. A
change to one entry changes the part of the report that is about it and nothing else. All this
needs that the system tells what stands at each source name; where it does not, there is no report
at all.
-/

namespace DefectScan

/-! ### Sorted names -/

/-- Whether a name in a directory is that of a source file. -/
def Snapshot.isSource (files : Snapshot) (directory : Path) (n : String) : Bool :=
  sourceSuffixes.contains (suffixOf n) && (files (directory.child n)).isFile

theorem Snapshot.isSource_congr {files files' : Snapshot} {directory : Path} {n : String}
    (h : files' (directory.child n) = files (directory.child n)) :
    files'.isSource directory n = files.isSource directory n := by
  rw [isSource, isSource, h]

section Sources

variable {files files' : Snapshot} {directory : Path} {names names' : List String}

theorem mem_selectSources {n : String} :
    n ∈ selectSources files directory sourceSuffixes names ↔
      n ∈ names ∧ files.isSource directory n = true := by
  rw [selectSources, List.mem_mergeSort, List.mem_filter]
  rfl

/-- The selected names are in increasing order. -/
theorem pairwise_selectSources (h : names.Nodup) :
    (selectSources files directory sourceSuffixes names).Pairwise (· < ·) := by
  have hsorted : (selectSources files directory sourceSuffixes names).Pairwise
      fun a b => decide (a ≤ b) = true := by
    refine List.pairwise_mergeSort ?_ ?_ _
    · intro a b c hab hbc
      exact decide_eq_true (String.le_trans (of_decide_eq_true hab) (of_decide_eq_true hbc))
    · intro a b
      simpa using String.le_total a b
  have hnodup : (selectSources files directory sourceSuffixes names).Nodup :=
    (List.mergeSort_perm _ _).nodup_iff.2 (h.filter _)
  refine (hsorted.and hnodup).imp ?_
  rintro a b ⟨hle, hne⟩
  exact Std.lt_of_le_of_ne (of_decide_eq_true hle) hne

/-- Names in increasing order are those before a given one, that one if it is there, and those
after it. -/
theorem eq_filter_append_of_pairwise_lt {l : List String} (h : l.Pairwise (· < ·)) (n : String) :
    l = l.filter (· < n) ++ ((if n ∈ l then [n] else []) ++ l.filter (n < ·)) := by
  refine h.eq_of_mem_iff ?_ ?_
  · have hone : (if n ∈ l then [n] else []).Pairwise (· < ·) := by
      split
      · exact List.pairwise_singleton _ _
      · exact List.Pairwise.nil
    refine List.pairwise_append.2 ⟨h.filter _, List.pairwise_append.2 ⟨hone, h.filter _, ?_⟩, ?_⟩
    · grind
    · grind
  · intro m
    rcases Std.lt_trichotomy m n with hlt | rfl | hgt
    · grind
    · grind
    · grind

/-- Where two listings agree, they select the same names, whatever their order. -/
theorem filter_selectSources_eq {p : String → Bool} (hnames : names.Nodup) (hnames' : names'.Nodup)
    (hlisted : ∀ n, p n = true → (n ∈ names' ↔ n ∈ names))
    (hsame : ∀ n ∈ names, p n = true → files' (directory.child n) = files (directory.child n)) :
    (selectSources files' directory sourceSuffixes names').filter p =
      (selectSources files directory sourceSuffixes names).filter p := by
  refine ((pairwise_selectSources hnames').filter p).eq_of_mem_iff
    ((pairwise_selectSources hnames).filter p) fun n => ?_
  rw [List.mem_filter, List.mem_filter, mem_selectSources, mem_selectSources]
  refine and_congr_left fun hp => ?_
  rw [hlisted n hp]
  exact and_congr_right fun hn => by rw [Snapshot.isSource_congr (hsame n hn hp)]

/-- The paths of names in increasing order are in increasing order. -/
theorem pairwise_map_child {l : List String} (h : l.Pairwise (· < ·)) :
    (l.map directory.child).Pairwise fun p q => p.names < q.names := by
  refine List.pairwise_map.2 (h.imp fun {m n} hlt => ?_)
  exact List.append_left_lt (List.cons_lt_cons_iff.2 (.inl hlt))

end Sources

/-! ### Reports of single files -/

theorem Logged.value_gather (f : α → Logged (List β)) (as : List α) :
    (Logged.gather f as).value = as.flatMap fun a => (f a).value := by
  induction as with
  | nil => rfl
  | cons a as ih =>
    rw [List.flatMap_cons, ← ih]
    rfl

theorem Logged.gather_congr {f g : α → Logged (List β)} {as : List α}
    (h : ∀ a ∈ as, f a = g a) : Logged.gather f as = Logged.gather g as := by
  induction as with
  | nil => rfl
  | cons a as ih =>
    rw [List.forall_mem_cons] at h
    rw [gather, gather, h.1, ih h.2]

/-- What is read at a path depends only on what stands there. -/
theorem Snapshot.loadSource_congr {files files' : Snapshot} {path : Path}
    (h : files' path = files path) : files'.loadSource path = files.loadSource path := by
  rw [loadSource, loadSource, readText, readText, h]

namespace Analyzer

/-- The report of the file at a path by itself; a file that cannot be read has none. -/
def fileReport (a : Analyzer) (files : Snapshot) (path : Path) : List Issue :=
  match files.loadSource path with
  | .ok source => (a.analyze source).value
  | .error _ => []

theorem fileReport_congr (a : Analyzer) {files files' : Snapshot} {path : Path}
    (h : files' path = files path) : a.fileReport files' path = a.fileReport files path := by
  rw [fileReport, fileReport, Snapshot.loadSource_congr h]

/-- The reports of files, one after the other, are those of each by itself. -/
theorem value_analyzeFiles (a : Analyzer) (files : Snapshot) (paths : List Path) :
    (a.analyzeFiles files paths).value = paths.flatMap (a.fileReport files) := by
  rw [analyzeFiles, Logged.value_gather]
  refine List.flatMap_congr fun path _ => ?_
  rw [fileReport]
  cases files.loadSource path <;> rfl

/-- Files that cannot be read add nothing to the reports. -/
theorem flatMap_fileReport_filter (a : Analyzer) (files : Snapshot) (paths : List Path) :
    (paths.filter fun path => (files.loadSource path).isOk).flatMap (a.fileReport files) =
      paths.flatMap (a.fileReport files) := by
  induction paths with
  | nil => rfl
  | cons path paths ih =>
    rw [List.filter_cons, List.flatMap_cons, ← ih]
    cases hload : files.loadSource path with
    | ok source => rfl
    | error fault =>
      have hnone : a.fileReport files path = [] := by rw [fileReport, hload]
      rw [hnone]
      rfl

/-- The reports of files depend only on what stands at their paths. -/
theorem analyzeFiles_congr (a : Analyzer) {files files' : Snapshot} {paths : List Path}
    (h : ∀ path ∈ paths, files' path = files path) :
    a.analyzeFiles files' paths = a.analyzeFiles files paths :=
  Logged.gather_congr fun path hpath => by rw [Snapshot.loadSource_congr (h path hpath)]

end Analyzer

/-! ### Listings -/

namespace Snapshot

/-- A directory lists the given names, each of them once. -/
structure Lists (files : Snapshot) (directory : Path) (names : List String) : Prop where
  /-- Those are its names. -/
  listed : files directory = .directory names
  /-- No name comes twice. -/
  nodup : names.Nodup

/-- The system tells what stands at each source name of a listing. -/
def ReachesSources (files : Snapshot) (directory : Path) (names : List String) : Prop :=
  ∀ n ∈ names, suffixOf n ∈ sourceSuffixes → (files (directory.child n)).fault? = none

instance (files : Snapshot) (directory : Path) (names : List String) :
    Decidable (files.ReachesSources directory names) :=
  List.decidableBAll _ names

variable {files : Snapshot} {directory : Path} {names : List String}

theorem nameError?_eq_some_iff {n : String} {error : DirectoryError} :
    files.nameError? directory sourceSuffixes n = some error ↔
      suffixOf n ∈ sourceSuffixes ∧ ∃ fault, (files (directory.child n)).fault? = some fault ∧
        error = .unreachable (directory.child n) fault := by
  rw [nameError?, lookError?]
  split
  · next hsuffix =>
    rw [Option.map_eq_some_iff, and_iff_right (List.contains_iff_mem.1 hsuffix)]
    exact exists_congr fun fault => and_congr_right fun _ => eq_comm
  · next hsuffix =>
    have hsuffix : suffixOf n ∉ sourceSuffixes := fun hmem =>
      hsuffix (List.contains_iff_mem.2 hmem)
    simp only [reduceCtorEq, hsuffix, false_and]

theorem reachesSources_iff :
    files.ReachesSources directory names ↔
      names.findSome? (files.nameError? directory sourceSuffixes) = none := by
  rw [List.findSome?_eq_none_iff]
  refine forall₂_congr fun n _ => ⟨fun hreach => ?_, fun hnone hsuffix => ?_⟩
  · refine Option.eq_none_iff_forall_ne_some.2 fun error herror => ?_
    obtain ⟨hsuffix, fault, hfault, -⟩ := nameError?_eq_some_iff.1 herror
    rw [hreach hsuffix] at hfault
    cases hfault
  · refine Option.eq_none_iff_forall_ne_some.2 fun fault hfault => ?_
    have herror := nameError?_eq_some_iff.2 ⟨hsuffix, fault, hfault, rfl⟩
    rw [hnone] at herror
    cases herror

theorem Lists.sourceFiles_eq (h : files.Lists directory names)
    (hreach : files.ReachesSources directory names) :
    files.sourceFiles directory =
      .ok ((selectSources files directory sourceSuffixes names).map directory.child) := by
  simp only [sourceFiles, h.listed, reachesSources_iff.1 hreach]

theorem Lists.sourceFiles_eq_error (h : files.Lists directory names) {error : DirectoryError}
    (herror : names.findSome? (files.nameError? directory sourceSuffixes) = some error) :
    files.sourceFiles directory = .error error := by
  simp only [sourceFiles, h.listed, herror]

end Snapshot

namespace Analyzer

section Directory

variable {files files' : Snapshot} {directory : Path} {names names' : List String}

/-- The report of a directory is that of its source files. -/
theorem analyzeDirectory_eq (a : Analyzer) (h : files.Lists directory names)
    (hreach : files.ReachesSources directory names) :
    a.analyzeDirectory files directory =
      (a.analyzeFiles files
        ((selectSources files directory sourceSuffixes names).map directory.child)).map .ok := by
  rw [analyzeDirectory, h.sourceFiles_eq hreach]
  rfl

/-- When the system does not tell what stands at some source name, there is no report but the
fault of such a name. -/
theorem analyzeDirectory_eq_error (a : Analyzer) (h : files.Lists directory names)
    (hreach : ¬ files.ReachesSources directory names) :
    ∃ n ∈ names, suffixOf n ∈ sourceSuffixes ∧
      ∃ fault, (files (directory.child n)).fault? = some fault ∧
        a.analyzeDirectory files directory =
          .silent (.error (.unreachable (directory.child n) fault)) := by
  obtain ⟨error, herror⟩ :=
    Option.ne_none_iff_exists'.1 fun hnone => hreach (Snapshot.reachesSources_iff.2 hnone)
  obtain ⟨n, hn, hname⟩ := List.exists_of_findSome?_eq_some herror
  obtain ⟨hsuffix, fault, hfault, rfl⟩ := Snapshot.nameError?_eq_some_iff.1 hname
  refine ⟨n, hn, hsuffix, fault, hfault, ?_⟩
  rw [analyzeDirectory, h.sourceFiles_eq_error herror]
  rfl

/-- The report of a directory, name by name. -/
theorem value_analyzeDirectory (a : Analyzer) (h : files.Lists directory names)
    (hreach : files.ReachesSources directory names) :
    (a.analyzeDirectory files directory).value =
      .ok ((selectSources files directory sourceSuffixes names).flatMap fun n =>
        a.fileReport files (directory.child n)) := by
  rw [a.analyzeDirectory_eq h hreach, ← List.flatMap_map, ← value_analyzeFiles]
  rfl

/-- The order in which a directory lists its names makes no difference to its report. -/
theorem analyzeDirectory_of_perm (a : Analyzer) (h : files.Lists directory names)
    (h' : files'.Lists directory names') (hperm : names'.Perm names)
    (hsame : ∀ n ∈ names, files' (directory.child n) = files (directory.child n)) :
    (a.analyzeDirectory files' directory).map Except.toOption =
      (a.analyzeDirectory files directory).map Except.toOption := by
  have hreach_iff : files'.ReachesSources directory names' ↔
      files.ReachesSources directory names := by
    refine forall_congr' fun n => ?_
    rw [hperm.mem_iff]
    exact forall_congr' fun hn => by rw [hsame n hn]
  have hsources : (selectSources files' directory sourceSuffixes names').filter (fun _ => true) =
      (selectSources files directory sourceSuffixes names).filter fun _ => true :=
    filter_selectSources_eq h.nodup h'.nodup (fun _ _ => hperm.mem_iff) fun n hn _ => hsame n hn
  rw [List.filter_true, List.filter_true] at hsources
  by_cases hreach : files.ReachesSources directory names
  · rw [a.analyzeDirectory_eq h hreach, a.analyzeDirectory_eq h' (hreach_iff.2 hreach), hsources]
    congr 2
    refine a.analyzeFiles_congr fun path hpath => ?_
    obtain ⟨n, hn, rfl⟩ := List.mem_map.1 hpath
    exact hsame n (mem_selectSources.1 hn).1
  · obtain ⟨_, _, _, _, _, herror⟩ := a.analyzeDirectory_eq_error h hreach
    obtain ⟨_, _, _, _, _, herror'⟩ :=
      a.analyzeDirectory_eq_error h' fun hreach' => hreach (hreach_iff.1 hreach')
    rw [herror, herror']
    rfl

/-- The part of the report of a directory that is about the given name. -/
def segment (a : Analyzer) (files : Snapshot) (directory : Path) (names : List String)
    (n : String) : List Issue :=
  if n ∈ names ∧ files.isSource directory n = true then a.fileReport files (directory.child n)
  else []

/-- The part about a name stands between the parts about the names before and after it. -/
theorem value_analyzeDirectory_eq_append (a : Analyzer) (h : files.Lists directory names)
    (hreach : files.ReachesSources directory names) (n : String) :
    let sources := selectSources files directory sourceSuffixes names
    let report (m : String) := a.fileReport files (directory.child m)
    (a.analyzeDirectory files directory).value =
      .ok ((sources.filter (· < n)).flatMap report ++ a.segment files directory names n ++
        (sources.filter (n < ·)).flatMap report) := by
  intro sources report
  have hsources : sources.Pairwise (· < ·) := pairwise_selectSources h.nodup
  have hsegment : (if n ∈ sources then [n] else []).flatMap report =
      a.segment files directory names n := by
    simp only [sources, mem_selectSources, segment]
    split <;> simp [report]
  have hsplit : sources.flatMap report = (sources.filter (· < n)).flatMap report ++
      a.segment files directory names n ++ (sources.filter (n < ·)).flatMap report := by
    conv_lhs => rw [eq_filter_append_of_pairwise_lt hsources n]
    rw [List.flatMap_append, List.flatMap_append, hsegment, List.append_assoc]
  rw [a.value_analyzeDirectory h hreach, hsplit]

/-- The names on one side of a changed entry keep their reports. -/
theorem flatMap_filter_selectSources_eq (a : Analyzer) (hnames : names.Nodup)
    (hnames' : names'.Nodup) {n : String} (hlisted : ∀ m, m ≠ n → (m ∈ names' ↔ m ∈ names))
    (hsame : ∀ m ∈ names, m ≠ n → files' (directory.child m) = files (directory.child m))
    {p : String → Bool} (hp : ∀ m, p m = true → m ≠ n) :
    ((selectSources files' directory sourceSuffixes names').filter p).flatMap
        (fun m => a.fileReport files' (directory.child m)) =
      ((selectSources files directory sourceSuffixes names).filter p).flatMap
        fun m => a.fileReport files (directory.child m) := by
  rw [filter_selectSources_eq hnames hnames' (fun m hpm => hlisted m (hp m hpm))
    fun m hm hpm => hsame m hm (hp m hpm)]
  refine List.flatMap_congr fun m hm => ?_
  obtain ⟨hm, hpm⟩ := List.mem_filter.1 hm
  exact a.fileReport_congr (hsame m (mem_selectSources.1 hm).1 (hp m hpm))

end Directory

end Analyzer

/-- The paths of the source files of a listing that can be read, in increasing order. -/
structure Snapshot.ReadableSources (files : Snapshot) (directory : Path) (names : List String)
    (paths : List Path) : Prop where
  /-- The paths increase. -/
  increasing : paths.Pairwise fun p q => p.names < q.names
  /-- They are those of the files with the right suffix that can be read. -/
  mem_iff : ∀ path, path ∈ paths ↔
    ∃ n ∈ names, path = directory.child n ∧ files.isSource directory n = true ∧
      ∃ source, files.loadSource path = .ok source

theorem Snapshot.Lists.readableSources {files : Snapshot} {directory : Path} {names : List String}
    (h : files.Lists directory names) :
    files.ReadableSources directory names
      (((selectSources files directory sourceSuffixes names).map directory.child).filter
        fun path => (files.loadSource path).isOk) where
  increasing := (pairwise_map_child (pairwise_selectSources h.nodup)).filter _
  mem_iff path := by
    have hok : (files.loadSource path).isOk = true ↔
        ∃ source, files.loadSource path = .ok source := by
      cases files.loadSource path <;> simp [Except.isOk, Except.toBool]
    simp only [List.mem_filter, List.mem_map, mem_selectSources, hok]
    constructor
    · rintro ⟨⟨n, ⟨hn, hsource⟩, rfl⟩, hload⟩
      exact ⟨n, hn, rfl, hsource, hload⟩
    · rintro ⟨n, hn, rfl, hsource, hload⟩
      exact ⟨⟨n, ⟨hn, hsource⟩, rfl⟩, hload⟩

/-- The report of a directory is that of its readable source files by path, unless the system hides
what stands at a source name. -/
theorem analyzeDirectory_eq_fileReports (a : Analyzer) {files : Snapshot} {directory : Path}
    {names : List String} (h : files.Lists directory names) :
    (∀ files' names', files'.Lists directory names' → names'.Perm names →
      (∀ n ∈ names, files' (directory.child n) = files (directory.child n)) →
        (a.analyzeDirectory files' directory).map Except.toOption =
          (a.analyzeDirectory files directory).map Except.toOption) ∧
    ((∃ error, (a.analyzeDirectory files directory).value = .error error) ↔
      ¬ files.ReachesSources directory names) ∧
    (∀ error, (a.analyzeDirectory files directory).value = .error error →
      ∃ n ∈ names, suffixOf n ∈ sourceSuffixes ∧
        ∃ fault, (files (directory.child n)).fault? = some fault ∧
          error = .unreachable (directory.child n) fault) ∧
    (files.ReachesSources directory names →
      (∃ paths, files.ReadableSources directory names paths ∧
        (a.analyzeDirectory files directory).value = .ok (paths.flatMap (a.fileReport files))) ∧
      ∀ n files' names', files'.Lists directory names' →
        files'.ReachesSources directory names' →
        (∀ m, m ≠ n → (m ∈ names' ↔ m ∈ names)) →
        (∀ m ∈ names, m ≠ n → files' (directory.child m) = files (directory.child m)) →
          ∃ before after : List Issue,
            (a.analyzeDirectory files directory).value =
              .ok (before ++ a.segment files directory names n ++ after) ∧
            (a.analyzeDirectory files' directory).value =
              .ok (before ++ a.segment files' directory names' n ++ after)) := by
  have hfails (error : DirectoryError)
      (herror : (a.analyzeDirectory files directory).value = .error error) :
      ¬ files.ReachesSources directory names := by
    intro hreach
    rw [a.value_analyzeDirectory h hreach] at herror
    cases herror
  refine ⟨fun files' names' h' => a.analyzeDirectory_of_perm h h', ⟨?_, ?_⟩, ?_,
    fun hreach => ⟨?_, ?_⟩⟩
  · rintro ⟨error, herror⟩
    exact hfails error herror
  · intro hreach
    obtain ⟨n, -, -, fault, -, heq⟩ := a.analyzeDirectory_eq_error h hreach
    exact ⟨.unreachable (directory.child n) fault, by rw [heq]; rfl⟩
  · intro error herror
    obtain ⟨n, hn, hsuffix, fault, hfault, heq⟩ :=
      a.analyzeDirectory_eq_error h (hfails error herror)
    refine ⟨n, hn, hsuffix, fault, hfault, ?_⟩
    rw [heq] at herror
    exact (Except.error.inj herror).symm
  · refine ⟨_, h.readableSources, ?_⟩
    rw [a.flatMap_fileReport_filter, List.flatMap_map, a.value_analyzeDirectory h hreach]
  · intro n files' names' h' hreach' hlisted hsame
    have hbefore := a.flatMap_filter_selectSources_eq h.nodup h'.nodup hlisted hsame
      (p := (· < n)) fun m hm => Std.ne_of_lt (of_decide_eq_true hm)
    have hafter := a.flatMap_filter_selectSources_eq h.nodup h'.nodup hlisted hsame
      (p := (n < ·)) fun m hm => (Std.ne_of_lt (of_decide_eq_true hm)).symm
    refine ⟨_, _, a.value_analyzeDirectory_eq_append h hreach n, ?_⟩
    rw [a.value_analyzeDirectory_eq_append h' hreach' n, hbefore, hafter]

/-- The analysis by the scope check. -/
private def heuristic : Analyzer := { mode := .heuristic }

/-- A file whose function reads `x` without a value. -/
private def unsetFile : FileTree :=
  .file (Text.utf8 "int f(void) \x7b\n    int x;\n    return x;\n\x7d\n".toList)

/-- The files of a directory `d` with the given entries, where some other places stand at the
given names in it. -/
private def inDirectory (entries : List (String × FileTree)) (places : List (String × Place)) :
    Snapshot := fun path =>
  (places.find? fun p => path = ⟨"", ["d", p.1]⟩).elim
    ((FileTree.directory [("d", .directory entries)]).snapshot path) Prod.snd

/-- One source file is no text and another is locked. Mending the first adds its part, and a barred
directory has no report. -/
theorem analyzeDirectory_eq_fileReports_damaged :
    let directory : Path := ⟨"", ["d"]⟩
    let locked := [("c.c", Place.locked "[Errno 13] Permission denied: 'd/c.c'")]
    let files := inDirectory
      [("a.c", unsetFile), ("b.c", .file [0xff]), ("c.c", unsetFile), ("notes.txt", unsetFile)]
      locked
    let relisted := inDirectory
      [("notes.txt", unsetFile), ("c.c", unsetFile), ("b.c", .file [0xff]), ("a.c", unsetFile)]
      locked
    let mended := inDirectory
      [("b.c", unsetFile), ("a.c", unsetFile), ("c.c", unsetFile), ("notes.txt", unsetFile)]
      locked
    let barred := inDirectory [("a.c", unsetFile), ("notes.txt", unsetFile)]
      [("a.c", .unreachable ⟨13, "Permission denied"⟩),
        ("notes.txt", .unreachable ⟨13, "Permission denied"⟩)]
    let names := ["a.c", "b.c", "c.c", "notes.txt"]
    files.Lists directory names ∧ files.ReachesSources directory names ∧
      (heuristic.fileReport files (directory.child "a.c")).map Issue.line = [3] ∧
      heuristic.fileReport files (directory.child "b.c") = [] ∧
      heuristic.fileReport files (directory.child "c.c") = [] ∧
      (heuristic.analyzeDirectory relisted directory).map Except.toOption =
        (heuristic.analyzeDirectory files directory).map Except.toOption ∧
      (∃ paths, files.ReadableSources directory names paths ∧
        (heuristic.analyzeDirectory files directory).value =
          .ok (paths.flatMap (heuristic.fileReport files))) ∧
      (∃ before after : List Issue,
        (heuristic.analyzeDirectory files directory).value = .ok (before ++ [] ++ after) ∧
        (heuristic.analyzeDirectory mended directory).value =
          .ok (before ++ heuristic.fileReport mended (directory.child "b.c") ++ after)) ∧
      ∃ error, (heuristic.analyzeDirectory barred directory).value = .error error := by
  intro directory locked files relisted mended barred names
  have hlists : files.Lists directory names := ⟨by decide +kernel, by decide⟩
  have hreach : files.ReachesSources directory names := by decide +kernel
  have hrelisted : relisted.Lists directory ["notes.txt", "c.c", "b.c", "a.c"] :=
    ⟨by decide +kernel, by decide⟩
  have hmended : mended.Lists directory ["b.c", "a.c", "c.c", "notes.txt"] :=
    ⟨by decide +kernel, by decide⟩
  have hbarred : barred.Lists directory ["a.c", "notes.txt"] := ⟨by decide +kernel, by decide⟩
  obtain ⟨horder, -, -, hreport⟩ := analyzeDirectory_eq_fileReports heuristic hlists
  obtain ⟨hpaths, hlocal⟩ := hreport hreach
  have hown : heuristic.segment files directory names "b.c" = [] := by decide +kernel
  have hown' : heuristic.segment mended directory ["b.c", "a.c", "c.c", "notes.txt"] "b.c" =
      heuristic.fileReport mended (directory.child "b.c") := by decide +kernel
  refine ⟨hlists, hreach, by decide +kernel, by decide +kernel, by decide +kernel, ?_, hpaths, ?_,
    ?_⟩
  · exact horder relisted _ hrelisted (by decide) (by decide +kernel)
  · have hparts := hlocal "b.c" mended _ hmended (by decide +kernel) (by grind) (by decide +kernel)
    rwa [hown, hown'] at hparts
  · exact (analyzeDirectory_eq_fileReports heuristic hbarred).2.1.2 (by decide +kernel)

/-- A name of 251 bytes. -/
private def longName : String := String.ofList (List.replicate 251 'd')

/-- The directory of that name, reached on a path of 4076 bytes. -/
private def longDirectory : Path :=
  ⟨"", (List.replicate 15 [longName, ".."]).flatten ++ [longName]⟩

/-- The files of that directory. -/
private def longFiles : Snapshot :=
  (FileTree.directory
    [(longName, .directory [("a.c", unsetFile), ("abcdefghijklmnopq.c", .file [])])]).snapshot

/-- A source name one byte too long can be listed but not looked at, and the report of the other
file is lost. -/
theorem report_lost_to_overlong_path :
    longFiles.Lists longDirectory ["a.c", "abcdefghijklmnopq.c"] ∧
      (heuristic.fileReport longFiles (longDirectory.child "a.c")).map Issue.line = [3] ∧
      (longDirectory.child "abcdefghijklmnopq.c").text.utf8ByteSize = 4096 ∧
      (heuristic.analyzeDirectory longFiles longDirectory).value =
        .error (.unreachable (longDirectory.child "abcdefghijklmnopq.c") .nameTooLong) := by
  have hlists : longFiles.Lists longDirectory ["a.c", "abcdefghijklmnopq.c"] :=
    ⟨by decide +kernel, by decide⟩
  have hnull : (longDirectory.child "a.c").hasNull = false := by
    have hchars : longName.toList = List.replicate 251 'd' := String.toList_ofList
    have hname : longName.toList.contains '\x00' = false := by
      rw [hchars, List.contains_replicate]
      rfl
    simp only [Path.hasNull, Path.child, longDirectory, List.any_append, List.any_flatten,
      List.any_replicate, List.any_cons, List.any_nil, hname]
    decide +kernel
  have hreport :
      (heuristic.fileReport longFiles (longDirectory.child "a.c")).map Issue.line = [3] := by
    rw [Analyzer.fileReport, Snapshot.loadSource, Snapshot.readText, hnull]
    decide +kernel
  have hsize : (longDirectory.child "abcdefghijklmnopq.c").text.utf8ByteSize = 4096 := by
    decide +kernel
  have hfault : (longFiles (longDirectory.child "abcdefghijklmnopq.c")).fault? =
      some .nameTooLong := by
    have hover : FileTree.pathLimit <
        (longDirectory.child "abcdefghijklmnopq.c").text.utf8ByteSize := by
      rw [hsize]
      decide
    rw [longFiles, FileTree.snapshot, if_pos hover]
    rfl
  have hother : longFiles.nameError? longDirectory sourceSuffixes "a.c" = none := by decide +kernel
  have hname : longFiles.nameError? longDirectory sourceSuffixes "abcdefghijklmnopq.c" =
      some (.unreachable (longDirectory.child "abcdefghijklmnopq.c") .nameTooLong) :=
    Snapshot.nameError?_eq_some_iff.2 ⟨by decide, _, hfault, rfl⟩
  have hfirst : ["a.c", "abcdefghijklmnopq.c"].findSome?
      (longFiles.nameError? longDirectory sourceSuffixes) =
        some (.unreachable (longDirectory.child "abcdefghijklmnopq.c") .nameTooLong) := by
    rw [List.findSome?_cons, hother, List.findSome?_cons, hname]
  refine ⟨hlists, hreport, hsize, ?_⟩
  rw [Analyzer.analyzeDirectory, hlists.sourceFiles_eq_error hfirst]
  rfl

end DefectScan
