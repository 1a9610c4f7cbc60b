import Calculator.Settings.Load
import Mathlib.Data.List.Induction
import Mathlib.Data.List.Infix

/-!
# The search for a settings file

A search starts at the location that its start resolves to, whether or not anything is there, and
goes up from there. What it comes to is said without going anywhere: among the directories on the
way from the top to that location, the deepest that holds a settings file is the nearest one.

Two things keep a search from its answer. The system refuses to look up a name or a path that is too
long, and any name in a directory that may not be searched; the search ends with that fault, unless
a settings file lies deeper. And a start with the null character is no path at all.
-/

namespace Calculator

/-! ## Pieces of a list -/

namespace Text

variable {α : Type} {divides : α → Bool} {x : α} {xs : List α}

/-- What does not divide a list is in one of its pieces. -/
theorem mem_piecesBy (divides : α → Bool) (hx : divides x = false) :
    (∃ piece ∈ piecesBy divides xs, x ∈ piece) ↔ x ∈ xs := by
  induction xs with
  | nil => simp [piecesBy]
  | cons y ys ih =>
    rw [piecesBy]
    split
    · rename_i hy
      have hne : x ≠ y := fun heq => by rw [heq, hy] at hx; cases hx
      simp [ih, hne]
    · cases hpieces : piecesBy divides ys with
      | nil =>
        rw [hpieces] at ih
        simp [← ih]
      | cons piece pieces =>
        rw [hpieces] at ih
        simp only [List.mem_cons, exists_eq_or_imp] at ih ⊢
        rw [or_assoc, ih]

/-- A list that nothing divides is one piece. -/
theorem piecesBy_of_none (h : ∀ x ∈ xs, divides x = false) : piecesBy divides xs = [xs] := by
  induction xs with
  | nil => rfl
  | cons x xs ih =>
    obtain ⟨hx, hxs⟩ := List.forall_mem_cons.mp h
    rw [piecesBy, hx, ih hxs]
    rfl

end Text

/-! ## Where a path leads -/

namespace Path

/-- The names of a path, as they are written, lead from one location to another: an empty name and a
single point lead nowhere else, and two points lead one step up. -/
inductive LeadsTo : Location → List String → Location → Prop
  | here (l : Location) : LeadsTo l [] l
  | stay {l m : Location} {name : String} {names : List String} (hname : name = "" ∨ name = ".")
      (h : LeadsTo l names m) : LeadsTo l (name :: names) m
  | up {l m : Location} {names : List String} (h : LeadsTo l.dropLast names m) :
      LeadsTo l (".." :: names) m
  | down {l m : Location} {name : String} {names : List String}
      (hname : name ∉ ["", ".", ".."]) (h : LeadsTo (l ++ [name]) names m) :
      LeadsTo l (name :: names) m

/-- A name that can be looked up in a directory, if it is not too long. -/
def IsName (name : String) : Prop := name ≠ ".." ∧ '\x00' ∉ name.toList

instance (name : String) : Decidable (IsName name) :=
  inferInstanceAs (Decidable (name ≠ ".." ∧ '\x00' ∉ name.toList))

/-- Names without points lead down. -/
theorem foldl_follow {l names : List String} (h : ".." ∉ names) :
    names.foldl follow l = l ++ names := by
  induction names generalizing l with
  | nil => rw [List.foldl_nil, List.append_nil]
  | cons name names ih =>
    rw [List.mem_cons, not_or] at h
    rw [List.foldl_cons, follow, if_neg (Ne.symm h.1), ih h.2, List.append_assoc]
    rfl

/-- Names lead to where following them comes, once those that lead nowhere are dropped. -/
theorem leadsTo_iff {l m : Location} {names : List String} :
    LeadsTo l names m ↔
      (names.filter fun part => part ≠ "" && part ≠ ".").foldl follow l = m := by
  constructor
  · intro h
    induction h with
    | here l => rfl
    | stay hname _ ih => rcases hname with rfl | rfl <;> exact ih
    | up _ ih => exact ih
    | @down l m name names hname _ ih =>
      simp only [List.mem_cons, List.not_mem_nil, or_false, not_or] at hname
      obtain ⟨hempty, hpoint, hpoints⟩ := hname
      simpa [hempty, hpoint, follow, hpoints] using ih
  · intro h
    induction names generalizing l with
    | nil =>
      cases h
      exact .here l
    | cons name names ih =>
      by_cases hstay : name = "" ∨ name = "."
      · refine .stay hstay (ih ?_)
        rcases hstay with rfl | rfl <;> exact h
      · obtain ⟨hempty, hpoint⟩ := not_or.mp hstay
        simp only [List.filter_cons, hempty, hpoint, ne_eq, not_false_eq_true, decide_true,
          Bool.and_self, if_true, List.foldl_cons] at h
        by_cases hup : name = ".."
        · subst hup
          exact .up (ih h)
        · rw [follow, if_neg hup] at h
          exact .down (by simp [hempty, hpoint, hup]) (ih h)

theorem LeadsTo.isName {l m : Location} {names : List String} (h : LeadsTo l names m)
    (hl : ∀ name ∈ l, IsName name) (hnames : ∀ name ∈ names, '\x00' ∉ name.toList) :
    ∀ name ∈ m, IsName name := by
  induction h with
  | here l => exact hl
  | stay _ _ ih => exact ih hl (List.forall_mem_cons.mp hnames).2
  | up _ ih =>
    exact ih (fun name hname => hl name (List.dropLast_subset _ hname))
      (List.forall_mem_cons.mp hnames).2
  | @down l m name names hname _ ih =>
    obtain ⟨hnull, hnames⟩ := List.forall_mem_cons.mp hnames
    refine ih (List.forall_mem_append.mpr ⟨hl, List.forall_mem_singleton.mpr ⟨?_, hnull⟩⟩) hnames
    rintro rfl
    exact hname (by simp)

theorem names_of_no_slash {s : String} (h : '/' ∉ s.toList) : names s = [s] := by
  have hnone : ∀ c ∈ s.toList, decide (c = '/') = false :=
    fun c hc => decide_eq_false fun heq => h (heq ▸ hc)
  rw [names, Text.piecesAt, Text.piecesBy_of_none hnone, List.map_singleton, String.ofList_toList]

/-- A path holds the null character exactly if the text of it does. -/
theorem hasNull_ofText (s : String) : (ofText s).hasNull = true ↔ '\x00' ∈ s.toList := by
  rw [← Text.mem_piecesBy (· = '/') (by decide)]
  simp only [hasNull, ofText, names, List.any_eq_true, List.mem_filter, List.mem_map]
  constructor
  · rintro ⟨name, ⟨⟨piece, hpiece, rfl⟩, -⟩, hnull⟩
    exact ⟨piece, hpiece, by simpa using hnull⟩
  · rintro ⟨piece, hpiece, hnull⟩
    refine ⟨String.ofList piece, ⟨⟨piece, hpiece, rfl⟩, ?_⟩, by simpa using hnull⟩
    have hne : ∀ t : String, '\x00' ∉ t.toList → String.ofList piece ≠ t := by
      rintro t ht rfl
      exact ht (by simpa using hnull)
    simp [hne "" (by decide), hne "." (by decide)]

theorem isAbsolute_ofText (s : String) :
    (ofText s).isAbsolute = true ↔ s.toList.head? = some '/' := by
  show decide (rootOf s.toList ≠ "") = true ↔ _
  rw [decide_eq_true_eq]
  cases s.toList with
  | nil => simp [rootOf]
  | cons c cs =>
    by_cases hc : c = '/'
    · simp only [rootOf, hc, List.takeWhile_cons, decide_true, if_true, List.length_cons]
      split <;> simp_all
    · simp [rootOf, hc]

/-- A text resolves to the location that its names lead to, from the top if a slash stands in front
and from the working directory otherwise. -/
theorem resolve_ofText {s : String} {workingDirectory l : Location} (h : ".." ∉ workingDirectory) :
    (ofText s).resolve workingDirectory = l ↔
      LeadsTo (if s.toList.head? = some '/' then [] else workingDirectory) (names s) l := by
  rw [leadsTo_iff, resolve, fromTop]
  by_cases habsolute : s.toList.head? = some '/'
  · rw [if_pos ((isAbsolute_ofText s).mpr habsolute), if_pos habsolute]
    rfl
  · rw [if_neg (mt (isAbsolute_ofText s).mp habsolute), if_neg habsolute, List.foldl_append,
      foldl_follow h]
    rfl

end Path

/-! ## What the system looks up -/

namespace FileTree

variable {ε : Type}

/-- A directory that is reached through directories. -/
def IsDirectory (t : FileTree ε) (d : Location) : Prop :=
  ∀ above, above <+: d → ∃ refusal, t.find? above = some (.directory refusal)

/-- A regular file of a name lies in a directory. -/
def HoldsFile (t : FileTree ε) (d : Location) (name : String) : Prop :=
  t.IsDirectory d ∧ ∃ content, t.find? (d ++ [name]) = some (.file content)

theorem isDirectory_iff {t : FileTree ε} {l : Location} :
    t.isDirectory l = true ↔ ∃ refusal, t.find? l = some (.directory refusal) := by
  rw [isDirectory]
  split
  · rename_i refusal hdirectory
    exact ⟨fun _ => ⟨refusal, hdirectory⟩, fun _ => rfl⟩
  · rename_i hother
    exact ⟨nofun, fun ⟨refusal, hdirectory⟩ => absurd hdirectory (hother refusal)⟩

theorem isFile_iff {t : FileTree ε} {l : Location} :
    t.isFile l = true ↔ ∃ content, t.find? l = some (.file content) := by
  rw [isFile]
  split
  · rename_i content hfile
    exact ⟨fun _ => ⟨content, hfile⟩, fun _ => rfl⟩
  · rename_i hother
    exact ⟨nofun, fun ⟨content, hfile⟩ => absurd hfile (hother content)⟩

instance (t : FileTree ε) (d : Location) : Decidable (t.IsDirectory d) :=
  decidable_of_iff (∀ above ∈ d.inits, t.isDirectory above = true)
    (forall_congr' fun above => by rw [List.mem_inits, isDirectory_iff])

instance (t : FileTree ε) (d : Location) (name : String) : Decidable (t.HoldsFile d name) :=
  decidable_of_iff (t.IsDirectory d ∧ t.isFile (d ++ [name]) = true) (and_congr_right' isFile_iff)

/-- On the way from a location along names the system refuses to look one up: all names are refused
in a directory that is closed, and in an open one those that are too long. Up to there, the names
lead through open directories. -/
inductive RefusesAlong (t : FileTree ε) : Location → List String → FileFault ε → Prop
  | closed {l : Location} {name : String} {names : List String} {fault : ε}
      (hl : t.find? l = some (.directory (some fault))) :
      RefusesAlong t l (name :: names) (.system fault)
  | long {l : Location} {name : String} {names : List String} (hl : t.find? l = some .directory)
      (hname : Path.maxNameBytes < name.utf8ByteSize) : RefusesAlong t l (name :: names) .nameTooLong
  | further {l : Location} {name : String} {names : List String} {fault : FileFault ε}
      (hl : t.find? l = some .directory) (hname : name.utf8ByteSize ≤ Path.maxNameBytes)
      (h : RefusesAlong t (l ++ [name]) names fault) : RefusesAlong t l (name :: names) fault

/-- The system refuses to look a location up: the path to it is too long, or a name on the way. -/
inductive Refuses (t : FileTree ε) (l : Location) : FileFault ε → Prop
  | path (hlong : Path.maxBytes < (Path.ofLocation l).text.utf8ByteSize) : Refuses t l .nameTooLong
  | lookup {fault : FileFault ε}
      (hshort : (Path.ofLocation l).text.utf8ByteSize ≤ Path.maxBytes)
      (h : t.RefusesAlong [] l fault) : Refuses t l fault

section Follow

variable {t : FileTree ε} {l d : Location} {name : String} {names : List String}
  {fault fault' : FileFault ε}

theorem RefusesAlong.unique (h : t.RefusesAlong l names fault)
    (h' : t.RefusesAlong l names fault') : fault = fault' := by
  induction h with
  | closed hl =>
    cases h' with
    | closed hl' =>
      cases hl.symm.trans hl'
      rfl
    | long hl' => cases hl.symm.trans hl'
    | further hl' => cases hl.symm.trans hl'
  | long hl hname =>
    cases h' with
    | closed hl' => cases hl.symm.trans hl'
    | long => rfl
    | further _ hname' => exact absurd hname' (Nat.not_le.mpr hname)
  | further hl hname _ ih =>
    cases h' with
    | closed hl' => cases hl.symm.trans hl'
    | long _ hname' => exact absurd hname (Nat.not_le.mpr hname')
    | further _ _ h' => exact ih h'

theorem Refuses.unique (h : t.Refuses l fault) (h' : t.Refuses l fault') : fault = fault' := by
  cases h with
  | path hlong =>
    cases h' with
    | path => rfl
    | lookup hshort => exact absurd hshort (Nat.not_le.mpr hlong)
  | lookup hshort h =>
    cases h' with
    | path hlong => exact absurd hshort (Nat.not_le.mpr hlong)
    | lookup _ h' => exact h.unique h'

/-- A name is refused for its length or by the system. -/
theorem RefusesAlong.cases (h : t.RefusesAlong l names fault) :
    fault = .nameTooLong ∨ ∃ own, fault = .system own := by
  induction h with
  | closed => exact .inr ⟨_, rfl⟩
  | long => exact .inl rfl
  | further _ _ _ ih => exact ih

/-- From a location along names there are directories only, the last name apart. -/
def Leads (t : FileTree ε) (l : Location) (names : List String) : Prop :=
  ∀ d name, d ++ [name] <+: names → ∃ refusal, t.find? (l ++ d) = some (.directory refusal)

theorem concat_prefix_cons {x : String} :
    d ++ [name] <+: x :: names ↔
      d = [] ∧ name = x ∨ ∃ d', d = x :: d' ∧ d' ++ [name] <+: names := by
  cases d with
  | nil => simp [List.cons_prefix_cons]
  | cons y d => simp [List.cons_prefix_cons, and_assoc, eq_comm]

theorem leads_cons {x : String} : t.Leads l (x :: names) ↔
    (∃ refusal, t.find? l = some (.directory refusal)) ∧ t.Leads (l ++ [x]) names := by
  constructor
  · intro h
    refine ⟨by simpa using h [] x (by simp), fun d name hd => ?_⟩
    simpa using h (x :: d) name (concat_prefix_cons.mpr (.inr ⟨d, rfl, hd⟩))
  · rintro ⟨hl, h⟩ d name hd
    rcases concat_prefix_cons.mp hd with ⟨rfl, rfl⟩ | ⟨d, rfl, hd'⟩
    · simpa using hl
    · simpa using h d name hd'

/-- Following names ends where one is refused. -/
theorem follow_of_refusesAlong (hup : ".." ∉ names) (h : t.RefusesAlong l names fault) :
    t.follow l names = .error fault := by
  induction h with
  | closed hl => simp only [follow, hl, refusalOf]
  | long hl hname => simp only [follow, hl, refusalOf, if_pos hname]
  | @further l name names fault hl hname _ ih =>
    rw [List.mem_cons, not_or] at hup
    simp only [follow, hl, refusalOf, if_neg (Nat.not_lt.mpr hname), Path.follow,
      if_neg (Ne.symm hup.1), ih hup.2]

/-- With none refused, following names comes to their end where directories lead there, and to
nothing otherwise. -/
theorem follow_of_not_refusesAlong (hup : ".." ∉ names)
    (h : ∀ fault, ¬ t.RefusesAlong l names fault) :
    (t.Leads l names ∧ t.follow l names = .ok (l ++ names)) ∨
      ¬ t.Leads l names ∧
        (t.follow l names = .error .notFound ∨ t.follow l names = .error .notDirectory) := by
  induction names generalizing l with
  | nil => exact .inl ⟨fun d name hd => absurd hd (by simp), by rw [follow, List.append_nil]⟩
  | cons x names ih =>
    rw [List.mem_cons, not_or] at hup
    cases hl : t.find? l with
    | none => exact .inr ⟨fun hleads => by simpa [hl] using (leads_cons.mp hleads).1, .inl (by
        rw [follow, hl])⟩
    | some node =>
      cases node with
      | file content => exact .inr ⟨fun hleads => by simpa [hl] using (leads_cons.mp hleads).1,
          .inr (by rw [follow, hl])⟩
      | directory refusal =>
        cases refusal with
        | some fault => exact absurd (.closed hl) (h _)
        | none =>
          by_cases hname : Path.maxNameBytes < x.utf8ByteSize
          · exact absurd (.long hl hname) (h _)
          · have hstep : t.follow l (x :: names) = t.follow (l ++ [x]) names := by
              simp only [follow, hl, refusalOf, if_neg hname, Path.follow, if_neg (Ne.symm hup.1)]
            have hleads : t.Leads l (x :: names) ↔ t.Leads (l ++ [x]) names := by
              rw [leads_cons, and_iff_right ⟨none, hl⟩]
            rw [hstep, hleads, show l ++ x :: names = l ++ [x] ++ names by simp]
            exact ih hup.2 fun fault hfault => h fault (.further hl (Nat.not_lt.mp hname) hfault)

end Follow

/-- A path that is short, with short names and through open directories, is never refused. -/
theorem not_refuses_of_open {t : FileTree ε} {l : Location}
    (hpath : (Path.ofLocation l).text.utf8ByteSize ≤ Path.maxBytes)
    (hnames : ∀ name ∈ l, name.utf8ByteSize ≤ Path.maxNameBytes)
    (hopen : ∀ d fault, t.find? d ≠ some (.directory (some fault))) (fault : FileFault ε) :
    ¬ t.Refuses l fault := by
  have hnone : ∀ {m : Location} {names : List String} {fault : FileFault ε},
      (∀ name ∈ names, name.utf8ByteSize ≤ Path.maxNameBytes) →
        ¬ t.RefusesAlong m names fault := by
    intro m names fault hnames h
    induction h with
    | closed hl => exact hopen _ _ hl
    | long _ hname => exact absurd (hnames _ List.mem_cons_self) (Nat.not_le.mpr hname)
    | further _ _ _ ih => exact ih fun name hname => hnames name (List.mem_cons_of_mem _ hname)
  rintro (hlong | ⟨-, h⟩)
  · exact absurd hpath (Nat.not_le.mpr hlong)
  · exact hnone hnames h

/-! ## One place of a search -/

section Place

variable {t : FileTree ε} {d : Location} {name : String} {fault : FileFault ε}

/-- A path of names from the top is followed as it is written, unless it is too long. -/
theorem locate_ofLocation {l wd : Location} (hl : ∀ name ∈ l, Path.IsName name) :
    t.locate wd (.ofLocation l) =
      if Path.maxBytes < (Path.ofLocation l).text.utf8ByteSize then .error .nameTooLong
      else t.follow [] l := by
  have hnull : (Path.ofLocation l).hasNull = false := by
    rw [Path.hasNull, List.any_eq_false]
    intro name hname
    simpa using (hl name hname).2
  rw [locate, hnull]
  rfl

theorem leads_concat : t.Leads [] (d ++ [name]) ↔ t.IsDirectory d := by
  constructor
  · intro h above habove
    obtain ⟨rest, rfl⟩ := habove
    cases rest with
    | nil => exact h above name (by simp)
    | cons x rest => exact h above x ⟨rest ++ [name], by simp⟩
  · intro h above x habove
    rcases List.prefix_concat_iff.mp habove with heq | hprefix
    · exact (List.append_inj' heq rfl).1 ▸ h d (List.prefix_refl d)
    · exact h above ((List.prefix_append above [x]).trans hprefix)

theorem leadsToFile_of_refuses {l : Location} (hl : ∀ name ∈ l, Path.IsName name)
    (h : t.Refuses l fault) : t.leadsToFile [] (.ofLocation l) = .error fault := by
  have hup : ".." ∉ l := fun hmem => (hl _ hmem).1 rfl
  rw [leadsToFile, locate_ofLocation hl]
  cases h with
  | path hlong => rw [if_pos hlong]
  | lookup hshort h =>
    rw [if_neg (Nat.not_lt.mpr hshort), follow_of_refusesAlong hup h]
    rcases h.cases with rfl | ⟨own, rfl⟩ <;> rfl

/-- With no refusal, it is told whether a file is there. -/
theorem leadsToFile_of_not_refuses (hl : ∀ x ∈ d ++ [name], Path.IsName x)
    (hr : ∀ fault, ¬ t.Refuses (d ++ [name]) fault) :
    t.leadsToFile [] (.ofLocation (d ++ [name])) = .ok (decide (t.HoldsFile d name)) := by
  have hup : ".." ∉ d ++ [name] := fun hmem => (hl _ hmem).1 rfl
  have hshort : ¬ Path.maxBytes < (Path.ofLocation (d ++ [name])).text.utf8ByteSize :=
    fun hlong => hr _ (.path hlong)
  have halong : ∀ fault, ¬ t.RefusesAlong [] (d ++ [name]) fault :=
    fun fault h => hr fault (.lookup (Nat.not_lt.mp hshort) h)
  rw [leadsToFile, locate_ofLocation hl, if_neg hshort]
  rcases follow_of_not_refusesAlong hup halong with ⟨hleads, hfollow⟩ | ⟨hleads, hfollow⟩
  · have hdirectory : t.IsDirectory d := leads_concat.mp hleads
    rw [hfollow, List.nil_append]
    refine congrArg Except.ok (Bool.eq_iff_iff.mpr ?_)
    rw [decide_eq_true_eq, HoldsFile, and_iff_right hdirectory, isFile_iff]
  · have hnot : ¬ t.HoldsFile d name := fun h => hleads (leads_concat.mpr h.1)
    rw [decide_eq_false hnot]
    rcases hfollow with hfollow | hfollow <;> rw [hfollow]

end Place

end FileTree

/-! ## The nearest location -/

/-- The deepest location on the way to a base at which something holds. -/
structure Nearest (P : Location → Prop) (base d : Location) : Prop where
  above : d <+: base
  holds : P d
  deepest : ∀ e, e <+: base → P e → e <+: d

namespace Nearest

variable {P : Location → Prop} {base d e : Location}

theorem unique (hd : Nearest P base d) (he : Nearest P base e) : d = e :=
  (he.deepest d hd.above hd.holds).eq_of_length_le (hd.deepest e he.above he.holds).length_le

theorem congr {Q : Location → Prop} (h : ∀ e, e <+: base → (P e ↔ Q e)) :
    Nearest P base d ↔ Nearest Q base d := by
  constructor
  · rintro ⟨habove, hholds, hdeepest⟩
    exact ⟨habove, (h d habove).mp hholds, fun e he hq => hdeepest e he ((h e he).mpr hq)⟩
  · rintro ⟨habove, hholds, hdeepest⟩
    exact ⟨habove, (h d habove).mpr hholds, fun e he hp => hdeepest e he ((h e he).mp hp)⟩

theorem at_base (h : P base) : Nearest P base d ↔ d = base := by
  have hbase : Nearest P base base := ⟨List.prefix_refl base, h, fun _ he _ => he⟩
  constructor
  · exact fun hd => hd.unique hbase
  · rintro rfl
    exact hbase

/-- What does not hold at a location is looked for above it. -/
theorem concat {name : String} (h : ¬ P (base ++ [name])) :
    Nearest P (base ++ [name]) d ↔ Nearest P base d := by
  constructor
  · rintro ⟨habove, hholds, hdeepest⟩
    rcases List.prefix_concat_iff.mp habove with rfl | habove
    · exact absurd hholds h
    · exact ⟨habove, hholds, fun e he => hdeepest e (he.trans (List.prefix_append base [name]))⟩
  · rintro ⟨habove, hholds, hdeepest⟩
    refine ⟨habove.trans (List.prefix_append base [name]), hholds, fun e he hp => ?_⟩
    rcases List.prefix_concat_iff.mp he with rfl | he
    · exact absurd hp h
    · exact hdeepest e he hp

end Nearest

namespace Settings

/-! ## A search from a location -/

section Searched

variable {ε : Type}

/-- A settings file lies in a directory. -/
def HoldsSettings (files : FileTree ε) (d : Location) : Prop := files.HoldsFile d fileName

instance (files : FileTree ε) (d : Location) : Decidable (HoldsSettings files d) :=
  inferInstanceAs (Decidable (files.HoldsFile d fileName))

/-- The place of a settings file in a directory is refused with a fault. -/
def RefusesPlace (files : FileTree ε) (d : Location) (fault : FileFault ε) : Prop :=
  files.Refuses (d ++ [fileName]) fault

/-- The place of a settings file in a directory is refused. -/
def Refused (files : FileTree ε) (d : Location) : Prop := ∃ fault, RefusesPlace files d fault

/-- What a search comes to that starts at a base: the file in the deepest directory that holds one,
or nothing. The deepest place that is refused ends it, unless a file lies deeper. -/
structure Searched (files : FileTree ε) (base : Location)
    (outcome : Except (FileFault ε) (Option Location)) : Prop where
  found : ∀ l, outcome = .ok (some l) ↔
    ∃ d, Nearest (HoldsSettings files) base d ∧ l = d ++ [fileName] ∧
      ∀ e, e <+: base → d <+: e → ¬ Refused files e
  missing : outcome = .ok none ↔
    ∀ d, d <+: base → ¬ HoldsSettings files d ∧ ¬ Refused files d
  refused : ∀ fault, outcome = .error fault ↔
    ∃ e, Nearest (Refused files) base e ∧ RefusesPlace files e fault ∧
      ∀ d, d <+: base → HoldsSettings files d → d <+: e

theorem upward_concat (l : Location) (name : String) :
    upward (l ++ [name]) = (l ++ [name]) :: upward l := by
  unfold upward
  rw [List.length_append, List.length_singleton, List.range_succ_eq_map, List.map_cons,
    List.map_map]
  congr 1
  · exact List.take_of_length_le (by simp)
  · refine List.map_congr_left fun i _ => ?_
    rw [Function.comp_apply, Nat.succ_eq_add_one, Nat.add_sub_add_right,
      List.take_append_of_le_length (Nat.sub_le _ _)]

theorem places_concat (l : Location) (name : String) :
    places (l ++ [name]) = (l ++ [name] ++ [fileName]) :: places l := by
  rw [places, upward_concat]
  rfl

theorem isName_fileName : Path.IsName fileName := ⟨by decide, by decide⟩

variable {files : FileTree ε} {base : Location}
  {outcome : Except (FileFault ε) (Option Location)}

theorem searched_of_refuses {fault : FileFault ε} (h : RefusesPlace files base fault) :
    Searched files base (.error fault) := by
  have hbase : Refused files base := ⟨fault, h⟩
  refine ⟨fun l => ⟨nofun, ?_⟩, ⟨nofun, ?_⟩, fun fault' => ⟨?_, ?_⟩⟩
  · rintro ⟨d, hd, -, hfree⟩
    exact absurd hbase (hfree base (List.prefix_refl base) hd.above)
  · intro hnone
    exact absurd hbase (hnone base (List.prefix_refl base)).2
  · intro heq
    cases heq
    exact ⟨base, (Nearest.at_base hbase).mpr rfl, h, fun _ hd _ => hd⟩
  · rintro ⟨e, he, hfault, -⟩
    obtain rfl := (Nearest.at_base hbase).mp he
    rw [h.unique hfault]

theorem searched_of_holds (h : HoldsSettings files base) (hr : ¬ Refused files base) :
    Searched files base (.ok (some (base ++ [fileName]))) := by
  have hlast : ∀ e, e <+: base → base <+: e → e = base :=
    fun e he hbase => he.eq_of_length_le hbase.length_le
  refine ⟨fun l => ⟨?_, ?_⟩, ⟨nofun, ?_⟩, fun fault => ⟨nofun, ?_⟩⟩
  · intro heq
    cases heq
    exact ⟨base, (Nearest.at_base h).mpr rfl, rfl, fun e he hbase => hlast e he hbase ▸ hr⟩
  · rintro ⟨d, hd, rfl, -⟩
    rw [(Nearest.at_base h).mp hd]
  · intro hnone
    exact absurd h (hnone base (List.prefix_refl base)).1
  · rintro ⟨e, he, -, hbelow⟩
    exact absurd (hlast e he.above (hbelow base (List.prefix_refl base) h) ▸ he.holds) hr

/-- With nothing at the top, nothing is found there. -/
theorem searched_nil (h : ¬ HoldsSettings files []) (hr : ¬ Refused files []) :
    Searched files [] (.ok none) := by
  refine ⟨fun l => ⟨nofun, ?_⟩, ⟨fun _ d hd => ?_, fun _ => rfl⟩, fun fault => ⟨nofun, ?_⟩⟩
  · rintro ⟨d, hd, -⟩
    exact absurd (List.prefix_nil.mp hd.above ▸ hd.holds) h
  · rw [List.prefix_nil.mp hd]
    exact ⟨h, hr⟩
  · rintro ⟨e, he, -⟩
    exact absurd (List.prefix_nil.mp he.above ▸ he.holds) hr

/-- With nothing at a location, the search goes on above it. -/
theorem Searched.concat {name : String} (hs : Searched files base outcome)
    (h : ¬ HoldsSettings files (base ++ [name])) (hr : ¬ Refused files (base ++ [name])) :
    Searched files (base ++ [name]) outcome := by
  have hup : ∀ e, e <+: base → e <+: base ++ [name] :=
    fun e he => he.trans (List.prefix_append base [name])
  refine ⟨fun l => (hs.found l).trans ?_, hs.missing.trans ?_, fun fault =>
    (hs.refused fault).trans ?_⟩
  · refine exists_congr fun d => and_congr (Nearest.concat h).symm (and_congr_right fun _ => ?_)
    refine ⟨fun hfree e he hd => ?_, fun hfree e he => hfree e (hup e he)⟩
    rcases List.prefix_concat_iff.mp he with rfl | he
    · exact hr
    · exact hfree e he hd
  · refine ⟨fun hnone d hd => ?_, fun hnone d hd => hnone d (hup d hd)⟩
    rcases List.prefix_concat_iff.mp hd with rfl | hd
    · exact ⟨h, hr⟩
    · exact hnone d hd
  · refine exists_congr fun e => and_congr (Nearest.concat hr).symm (and_congr_right fun _ => ?_)
    refine ⟨fun hbelow d hd hholds => ?_, fun hbelow d hd => hbelow d (hup d hd)⟩
    rcases List.prefix_concat_iff.mp hd with rfl | hd
    · exact absurd hholds h
    · exact hbelow d hd hholds

/-- A search comes to one thing only, which is told from the directories on its way. -/
theorem Searched.unique {files' : FileTree ε}
    {outcome' : Except (FileFault ε) (Option Location)} (hs : Searched files base outcome)
    (hs' : Searched files' base outcome')
    (hholds : ∀ d, d <+: base → (HoldsSettings files d ↔ HoldsSettings files' d))
    (hrefuses : ∀ d, d <+: base → ∀ fault,
      RefusesPlace files d fault ↔ RefusesPlace files' d fault) : outcome = outcome' := by
  have hrefused : ∀ d, d <+: base → (Refused files d ↔ Refused files' d) :=
    fun d hd => exists_congr (hrefuses d hd)
  cases houtcome : outcome with
  | ok found =>
    cases found with
    | some l =>
      obtain ⟨d, hd, hl, hfree⟩ := (hs.found l).mp houtcome
      exact ((hs'.found l).mpr ⟨d, (Nearest.congr hholds).mp hd, hl, fun e he hde =>
        mt (hrefused e he).mpr (hfree e he hde)⟩).symm
    | none =>
      refine (hs'.missing.mpr fun d hd => ?_).symm
      have hnone := hs.missing.mp houtcome d hd
      exact ⟨mt (hholds d hd).mpr hnone.1, mt (hrefused d hd).mpr hnone.2⟩
  | error fault =>
    obtain ⟨e, he, hfault, hbelow⟩ := (hs.refused fault).mp houtcome
    exact ((hs'.refused fault).mpr ⟨e, (Nearest.congr hrefused).mp he,
      (hrefuses e he.above fault).mp hfault, fun d hd hd' =>
        hbelow d hd ((hholds d hd).mpr hd')⟩).symm

/-- One place of a search settles it, or it goes on. -/
theorem firstFile_cons (ls : List Location) (hbase : ∀ name ∈ base, Path.IsName name) :
    (∃ fault, RefusesPlace files base fault ∧
        firstFile files ((base ++ [fileName]) :: ls) = .error fault) ∨
      (¬ Refused files base ∧ HoldsSettings files base ∧
        firstFile files ((base ++ [fileName]) :: ls) = .ok (some (base ++ [fileName]))) ∨
      ¬ Refused files base ∧ ¬ HoldsSettings files base ∧
        firstFile files ((base ++ [fileName]) :: ls) = firstFile files ls := by
  have hnames : ∀ name ∈ base ++ [fileName], Path.IsName name :=
    List.forall_mem_append.mpr ⟨hbase, List.forall_mem_singleton.mpr isName_fileName⟩
  by_cases hr : Refused files base
  · obtain ⟨fault, hfault⟩ := hr
    refine .inl ⟨fault, hfault, ?_⟩
    rw [firstFile, FileTree.leadsToFile_of_refuses hnames hfault]
  · have hplace : files.leadsToFile [] (.ofLocation (base ++ [fileName])) =
        .ok (decide (HoldsSettings files base)) :=
      FileTree.leadsToFile_of_not_refuses hnames (not_exists.mp hr)
    by_cases hh : HoldsSettings files base
    · refine .inr (.inl ⟨hr, hh, ?_⟩)
      rw [firstFile, hplace, decide_eq_true hh]
    · refine .inr (.inr ⟨hr, hh, ?_⟩)
      rw [firstFile, hplace, decide_eq_false hh]

/-- The search goes up from a location, one directory at a time. -/
theorem searched_firstFile (hbase : ∀ name ∈ base, Path.IsName name) :
    Searched files base (firstFile files (places base)) := by
  induction base using List.reverseRecOn with
  | nil =>
    rcases firstFile_cons [] hbase with ⟨fault, hr, heq⟩ | ⟨hr, hh, heq⟩ | ⟨hr, hh, heq⟩
    · exact heq ▸ searched_of_refuses hr
    · exact heq ▸ searched_of_holds hh hr
    · exact heq ▸ searched_nil hh hr
  | append_singleton base name ih =>
    rw [places_concat]
    rcases firstFile_cons (places base) hbase with ⟨fault, hr, heq⟩ | ⟨hr, hh, heq⟩ | ⟨hr, hh, heq⟩
    · exact heq ▸ searched_of_refuses hr
    · exact heq ▸ searched_of_holds hh hr
    · exact heq ▸ (ih (List.forall_mem_append.mp hbase).1).concat hh hr

end Searched

/-! ## A search from a start -/

/-- A start holds no character that would end it as a path. -/
def NullFree (start : Option String) : Prop := ∀ s, start = some s → '\x00' ∉ s.toList

/-- A start resolves to a location, whether or not anything is there. Without a start it is the
working directory. -/
def StartsAt (workingDirectory : Location) (start : Option String) (base : Location) : Prop :=
  match start with
  | none => base = workingDirectory
  | some s =>
    Path.LeadsTo (if s.toList.head? = some '/' then [] else workingDirectory) (Path.names s) base

section Start

variable {workingDirectory base : Location} {start : Option String}

theorem any_hasNull : (start.map Path.ofText).any Path.hasNull = true ↔ ¬ NullFree start := by
  cases start with
  | none => simp [NullFree]
  | some s => simp [NullFree, Path.hasNull_ofText]

theorem startsAt_iff (hwd : ∀ name ∈ workingDirectory, Path.IsName name) :
    StartsAt workingDirectory start base ↔
      base = startOf workingDirectory (start.map Path.ofText) := by
  cases start with
  | none => rfl
  | some s =>
    rw [StartsAt, ← Path.resolve_ofText fun hmem => (hwd _ hmem).1 rfl]
    exact eq_comm

/-- Names can be looked up on the way to the base of a search. -/
theorem StartsAt.isName (h : StartsAt workingDirectory start base) (hnull : NullFree start)
    (hwd : ∀ name ∈ workingDirectory, Path.IsName name) : ∀ name ∈ base, Path.IsName name := by
  cases start with
  | none =>
    cases h
    exact hwd
  | some s =>
    refine Path.LeadsTo.isName h ?_ ?_
    · split
      · exact nofun
      · exact hwd
    · intro name hname hmem
      obtain ⟨piece, hpiece, rfl⟩ := List.mem_map.mp hname
      refine hnull s rfl ((Text.mem_piecesBy (· = '/') (by decide)).mp ?_)
      exact ⟨piece, hpiece, by simpa using hmem⟩

/-- A start that resolves to a base is searched from there. -/
theorem StartsAt.searched {ε : Type} {files : FileTree ε} (h : StartsAt workingDirectory start base)
    (hnull : NullFree start) (hnames : ∀ name ∈ workingDirectory, Path.IsName name)
    (hdirectory : files.IsDirectory workingDirectory) :
    Searched files base (find files workingDirectory (start.map Path.ofText)) := by
  have hwd : files.isDirectory workingDirectory = true :=
    FileTree.isDirectory_iff.mpr (hdirectory workingDirectory (List.prefix_refl _))
  rw [find, if_neg (mt any_hasNull.mp (not_not_intro hnull)), hwd, Bool.not_true, Bool.and_false,
    if_neg Bool.false_ne_true, ← (startsAt_iff hnames).mp h]
  exact searched_firstFile (h.isName hnull hnames)

end Start

/-- **A search gives the nearest settings file**, whatever faults the system has. Every start resolves
to one location, and what the search comes to is told from there: it gives the file in the deepest
directory that holds one, or nothing if there is none, unless a place at or below that directory is
refused. Only a start that is no path has no such outcome. Two searches from one location come to
the same if the same directories hold settings files and the same places are refused. -/
theorem find_nearest {ε : Type} (files : FileTree ε) (workingDirectory : Location)
    (start : Option String) (hnames : ∀ name ∈ workingDirectory, Path.IsName name)
    (hdirectory : files.IsDirectory workingDirectory) :
    (¬ NullFree start →
      find files workingDirectory (start.map Path.ofText) = .error .nullCharacter) ∧
    (NullFree start → ∃ base, (∀ l, StartsAt workingDirectory start l ↔ l = base) ∧
      Searched files base (find files workingDirectory (start.map Path.ofText)) ∧
      ∀ (files' : FileTree ε) workingDirectory' start',
        (∀ name ∈ workingDirectory', Path.IsName name) → files'.IsDirectory workingDirectory' →
        NullFree start' → StartsAt workingDirectory' start' base →
        (∀ d, d <+: base → (HoldsSettings files d ↔ HoldsSettings files' d) ∧
          ∀ fault, RefusesPlace files d fault ↔ RefusesPlace files' d fault) →
        find files workingDirectory (start.map Path.ofText) =
          find files' workingDirectory' (start'.map Path.ofText)) := by
  constructor
  · intro hnull
    exact if_pos (any_hasNull.mpr hnull)
  · intro hnull
    have hstart : StartsAt workingDirectory start
        (startOf workingDirectory (start.map Path.ofText)) := (startsAt_iff hnames).mpr rfl
    have hsearched := hstart.searched hnull hnames hdirectory
    refine ⟨_, fun l => startsAt_iff hnames, hsearched, ?_⟩
    intro files' workingDirectory' start' hnames' hdirectory' hnull' hstart' hsame
    exact hsearched.unique (hstart'.searched hnull' hnames' hdirectory')
      (fun d hd => (hsame d hd).1) fun d hd => (hsame d hd).2

/-- A start that is missing, in a directory where a directory has the name of a settings file. -/
theorem find_nearest_from_missing :
    let files : FileTree :=
      ⟨[(["work", fileName], .file []), (["work", "sub", fileName], .directory)]⟩
    find files ["work"] (some (.ofText "sub/./gone/../missing")) =
      .ok (some ["work", fileName]) := by
  intro files
  obtain ⟨base, hbase, hsearched, -⟩ :=
    (find_nearest files ["work"] (some "sub/./gone/../missing") (by decide) (by decide)).2 (by
      rintro s heq
      cases heq
      decide)
  have hstart : StartsAt ["work"] (some "sub/./gone/../missing") ["work", "sub", "missing"] :=
    (startsAt_iff (by decide)).mpr (by decide +kernel)
  obtain rfl := (hbase _).mp hstart
  have hdeepest : ∀ e ∈ ["work", "sub", "missing"].inits,
      HoldsSettings files e → e <+: ["work"] := by decide
  have hshort : ∀ e ∈ ["work", "sub", "missing"].inits,
      (Path.ofLocation (e ++ [fileName])).text.utf8ByteSize ≤ Path.maxBytes ∧
        ∀ name ∈ e ++ [fileName], name.utf8ByteSize ≤ Path.maxNameBytes := by decide +kernel
  refine (hsearched.found _).mpr ⟨["work"], ⟨by decide, by decide, ?_⟩, rfl, fun e he _ => ?_⟩
  · exact fun e he => hdeepest e ((List.mem_inits e _).mpr he)
  · obtain ⟨hpath, hnames⟩ := hshort e ((List.mem_inits e _).mpr he)
    rintro ⟨fault, hfault⟩
    exact FileTree.not_refuses_of_open hpath hnames (fun d fault => fault.elim) fault hfault

/-- A name with a character too many is refused, although a settings file lies above it, and so is
every name in a directory that may not be searched. A start with the null character is no path. -/
theorem not_found_from_long_name :
    let long := String.ofList (List.replicate 256 'a')
    let files : FileTree := ⟨[([fileName], .file [])]⟩
    let shut : FileTree String :=
      ⟨[([fileName], .file []), (["shut"], .directory (some "Permission denied"))]⟩
    HoldsSettings files [] ∧ StartsAt [] (some long) [long] ∧
      find files [] (some (.ofText long)) = .error .nameTooLong ∧
      HoldsSettings shut [] ∧
      find shut [] (some (.ofText "shut")) = .error (.system "Permission denied") ∧
      find files [] (some (.ofText "a\x00")) = .error .nullCharacter := by
  intro long files shut
  have hchars : ∀ c ∈ long.toList, c = 'a' := by
    rw [String.toList_ofList]
    exact fun c => List.eq_of_mem_replicate
  have hlong : 255 < long.utf8ByteSize := by decide +kernel
  generalize long = name at hchars hlong
  have hstart : StartsAt [] (some name) [name] := by
    rw [StartsAt, ite_self, Path.names_of_no_slash fun hmem => absurd (hchars _ hmem) (by decide)]
    refine .down (fun hmem => ?_) (.here _)
    have hshort : ∀ point ∈ ["", ".", ".."], point.utf8ByteSize ≤ 255 := by decide
    exact absurd (hshort name hmem) (Nat.not_le.mpr hlong)
  have hnull : NullFree (some name) := by
    rintro _ ⟨rfl⟩ hmem
    exact absurd (hchars _ hmem) (by decide)
  refine ⟨by decide, hstart, ?_, by decide, by decide +kernel, by decide +kernel⟩
  have hrefused : RefusesPlace files [name] .nameTooLong := by
    by_cases hpath : Path.maxBytes < (Path.ofLocation ([name] ++ [fileName])).text.utf8ByteSize
    · exact .path hpath
    · exact .lookup (Nat.not_lt.mp hpath) (.long (by decide) hlong)
  exact ((hstart.searched hnull (by decide) (by decide)).refused _).mpr
    ⟨[name], (Nearest.at_base ⟨_, hrefused⟩).mpr rfl, hrefused, fun _ hd _ => hd⟩

end Settings

end Calculator
