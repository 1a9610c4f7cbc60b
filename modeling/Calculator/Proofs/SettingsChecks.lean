import Calculator.Proofs.Rendering

/-!
# What settings must satisfy

Eight requirements are put to a document: three sections must be tables, and five settings must be
values of their kinds. A level that is given from outside waives the last of them. A document gives
settings exactly if it meets all of them, and otherwise the first one that it does not meet is
reported with the value that was found, as long as that value can be shown. Nothing else in the
document plays a part.

Showing the value is where a report fails. An integer of more than 4300 digits cannot be written,
and neither can a value whose lists and tables are nested too deeply; a document may hold both, and
where one of them stands in place of a setting, what is wrong with the settings is not said.
-/

namespace Calculator

open Toml

/-! ## Values that can be shown -/

namespace Toml.Value

mutual

/-- The levels of a value: one for the value, and those of the deepest value in it. -/
def levels : Value → Nat
  | array items => levelsOfItems items + 1
  | table entries => levelsOfEntries entries + 1
  | _ => 1

/-- The levels of the deepest item of a list. -/
def levelsOfItems : List Value → Nat
  | [] => 0
  | v :: vs => max v.levels (levelsOfItems vs)

/-- The levels of the deepest value of a table. -/
def levelsOfEntries : List (String × Value) → Nat
  | [] => 0
  | (_, v) :: entries => max v.levels (levelsOfEntries entries)

end

mutual

/-- The integers in a value, from left to right. -/
def integers : Value → List Int
  | integer n => [n]
  | array items => integersOfItems items
  | table entries => integersOfEntries entries
  | _ => []

/-- The integers in the items of a list. -/
def integersOfItems : List Value → List Int
  | [] => []
  | v :: vs => v.integers ++ integersOfItems vs

/-- The integers in the values of a table. -/
def integersOfEntries : List (String × Value) → List Int
  | [] => []
  | (_, v) :: entries => v.integers ++ integersOfEntries entries

end

/-- A value that messages can show: it is not nested too deeply, and its integers can be written. -/
structure Showable (limits : Limits) (v : Value) : Prop where
  levels : v.levels ≤ limits.shown
  integers : ∀ n ∈ v.integers, n.natAbs < 10 ^ Number.maxDigits

/-- The first value and those behind it, each on its own. -/
theorem forall_mem_append_and {p : Int → Prop} {xs ys : List Int} {a b limit : Nat} :
    (max a b ≤ limit ∧ ∀ n ∈ xs ++ ys, p n) ↔
      (a ≤ limit ∧ ∀ n ∈ xs, p n) ∧ (b ≤ limit ∧ ∀ n ∈ ys, p n) := by
  rw [Nat.max_le, List.forall_mem_append]
  exact and_and_and_comm

mutual

/-- Nothing keeps messages from showing a value exactly if it is within the levels and its integers
can be written. -/
theorem showFault?_eq_none (limit : Nat) (v : Value) :
    v.showFault? limit = none ↔
      v.levels ≤ limit ∧ ∀ n ∈ v.integers, n.natAbs < 10 ^ Number.maxDigits := by
  by_cases hlimit : limit = 0
  · -- there is no level left, and every value takes one
    subst hlimit
    cases v <;> simp [showFault?, levels]
  · cases v with
    | array items =>
      rw [showFault?, if_neg hlimit, itemsFault?_eq_none (limit - 1) items, levels, integers,
        Nat.le_sub_one_iff_lt (by omega), Nat.succ_le_iff]
    | table entries =>
      rw [showFault?, if_neg hlimit, entriesFault?_eq_none (limit - 1) entries, levels, integers,
        Nat.le_sub_one_iff_lt (by omega), Nat.succ_le_iff]
    | integer n =>
      have hone : 1 ≤ limit := by omega
      by_cases hwritable : n.natAbs < 10 ^ Number.maxDigits <;>
        simp [showFault?, levels, integers, hlimit, hone, Number.isWritable, hwritable]
    | _ =>
      have hone : 1 ≤ limit := by omega
      simp [showFault?, levels, integers, hlimit, hone]

theorem itemsFault?_eq_none (limit : Nat) (vs : List Value) :
    itemsFault? limit vs = none ↔
      levelsOfItems vs ≤ limit ∧ ∀ n ∈ integersOfItems vs, n.natAbs < 10 ^ Number.maxDigits := by
  cases vs with
  | nil => simp [itemsFault?, levelsOfItems, integersOfItems]
  | cons v vs =>
    rw [levelsOfItems, integersOfItems, forall_mem_append_and, ← showFault?_eq_none limit v,
      ← itemsFault?_eq_none limit vs, itemsFault?]
    cases v.showFault? limit <;> simp

theorem entriesFault?_eq_none (limit : Nat) (entries : List (String × Value)) :
    entriesFault? limit entries = none ↔
      levelsOfEntries entries ≤ limit ∧
        ∀ n ∈ integersOfEntries entries, n.natAbs < 10 ^ Number.maxDigits := by
  match entries with
  | [] => simp [entriesFault?, levelsOfEntries, integersOfEntries]
  | (_, v) :: entries =>
    rw [levelsOfEntries, integersOfEntries, forall_mem_append_and, ← showFault?_eq_none limit v,
      ← entriesFault?_eq_none limit entries, entriesFault?]
    cases v.showFault? limit <;> simp

end

theorem showable_iff (limits : Limits) (v : Value) :
    v.Showable limits ↔ v.showFault? limits.shown = none := by
  rw [showFault?_eq_none]
  constructor
  · rintro ⟨hlevels, hintegers⟩
    exact ⟨hlevels, hintegers⟩
  · rintro ⟨hlevels, hintegers⟩
    exact ⟨hlevels, hintegers⟩

end Toml.Value

namespace Settings

/-! ## Requirements -/

/-- The value of a setting: that of its name in its section. There is none unless the section is a
table. -/
def settingIn (t : Table) (title key : String) : Option Value :=
  match t.get? title with
  | some (.table inner) => Table.get? inner key
  | _ => none

/-- What the value in one place of a document must be. -/
structure Requirement where
  /-- The value that is there. -/
  found : Table → Option Value
  /-- The place, as messages name it. -/
  place : String
  demand : String
  Admits : Value → Prop

namespace Requirement

/-- A section must be a table. -/
def ofSection (title : String) : Requirement where
  found := fun t => t.get? title
  place := "[" ++ title ++ "]"
  demand := "a table"
  Admits := fun v => ∃ entries, v = .table entries

/-- A setting must be a value of its kind. -/
def ofSetting (title key demand : String) (admits : Value → Prop) : Requirement where
  found := fun t => settingIn t title key
  place := title ++ "." ++ key
  demand := demand
  Admits := admits

def mode : Requirement :=
  ofSetting "evaluation" "mode" "one of tree, eager" fun v =>
    v = .string "tree" ∨ v = .string "eager"

def displayThreshold : Requirement :=
  ofSetting "output" "display_threshold" "a positive integer" fun v => ∃ n, v = .integer n ∧ 1 ≤ n

def precision : Requirement :=
  ofSetting "output" "precision" "a non-negative integer" fun v => ∃ n, v = .integer n ∧ 0 ≤ n

def groupThousands : Requirement :=
  ofSetting "output" "group_thousands" "true or false" fun v => ∃ b, v = .boolean b

def level : Requirement :=
  ofSetting "logging" "level" "a string" fun v => ∃ s, v = .string s

/-- What is absent is right. -/
def Holds (r : Requirement) (t : Table) : Prop := ∀ v, r.found t = some v → r.Admits v

/-- What is said of a value that is wrong. -/
def message (r : Requirement) (found : Value) : String :=
  r.place ++ " must be " ++ r.demand ++ ", got " ++ found.display

/-- A report that a value is wrong: it names the requirement and shows the value, if that can be
shown. Otherwise it says nothing of the settings. -/
structure Reported (limits : Limits) (r : Requirement) (found : Value) (fault : LoadFault) :
    Prop where
  shown : found.Showable limits →
    ∀ source, fault.message? source = some (source ++ ": " ++ r.message found)
  notShown : ¬ found.Showable limits → fault = .notShowable ∨ fault = .document .tooDeep

end Requirement

/-- The level from outside, if there is one. -/
def levelOutside (override : Option String) : Option String := override.filter (· ≠ "")

/-- The requirements in the order in which they are checked. A level from outside waives the one of
the document. -/
def requirements (override : Option String) : List Requirement :=
  [.ofSection "evaluation", .ofSection "output", .ofSection "logging", .mode, .displayThreshold,
    .precision, .groupThousands] ++
      match levelOutside override with
      | some _ => []
      | none => [.level]

/-- The first requirement that a document does not meet, with the value that is wrong. -/
inductive FirstViolated (t : Table) : List Requirement → Requirement → Value → Prop
  | here {r rs found} :
    r.found t = some found → ¬ r.Admits found → FirstViolated t (r :: rs) r found
  | later {r rs q found} :
    r.Holds t → FirstViolated t rs q found → FirstViolated t (r :: rs) q found

/-- Settings that a document gives: each is the value of the document, or its default, and the level
is in upper case. -/
structure GivenBy (s : Settings) (t : Table) (override : Option String) : Prop where
  mode : (settingIn t "evaluation" "mode").getD (.string "tree") = .string s.mode.text
  displayThreshold :
    (settingIn t "output" "display_threshold").getD (.integer 1000) =
      .integer s.output.displayThreshold
  precision : (settingIn t "output" "precision").getD (.integer 2) = .integer s.output.precision
  groupThousands :
    (settingIn t "output" "group_thousands").getD (.boolean true) =
      .boolean s.output.groupThousands
  level :
    match levelOutside override with
    | some name => s.level = Text.uppercase name
    | none =>
      ∃ name, (settingIn t "logging" "level").getD (.string "WARNING") = .string name ∧
        s.level = Text.uppercase name

/-- The sections, by their titles. -/
def sectionTitles : List String := ["evaluation", "output", "logging"]

/-- The settings, by their sections and names. -/
def settingNames : List (String × String) :=
  [("evaluation", "mode"), ("output", "display_threshold"), ("output", "precision"),
    ("output", "group_thousands"), ("logging", "level")]

/-- Documents whose sections are right and hold the same settings. What else they hold may
differ. -/
structure SameSettings (t t' : Table) : Prop where
  sections : ∀ title ∈ sectionTitles, (Requirement.ofSection title).Holds t
  sections' : ∀ title ∈ sectionTitles, (Requirement.ofSection title).Holds t'
  settings : ∀ name ∈ settingNames, settingIn t name.1 name.2 = settingIn t' name.1 name.2

/-! ## One check -/

/-- A computation checks requirements: it goes through if they all hold, and its error reports the
first that does not. -/
def Checks {α : Type} (t : Table) (rs : List Requirement) (c : Except SettingsError α) : Prop :=
  match c with
  | .ok _ => ∀ r ∈ rs, r.Holds t
  | .error e => ∃ r, FirstViolated t rs r e.found ∧ e.message = r.message e.found

section Checks

variable {α β : Type} {t : Table} {r : Requirement} {rs : List Requirement}
  {c : Except SettingsError α} {next : α → Except SettingsError β}

theorem Checks.done {x : α} : Checks t [] (.ok x : Except SettingsError α) := by
  intro q hq
  cases hq

theorem Checks.ok {x : α} (h : r.Holds t) : Checks t [r] (.ok x : Except SettingsError α) := by
  intro q hq
  rw [List.mem_singleton.mp hq]
  exact h

theorem Checks.error {e : SettingsError} (hfound : r.found t = some e.found)
    (hadmits : ¬ r.Admits e.found) (hmessage : e.message = r.message e.found) :
    Checks t [r] (.error e : Except SettingsError α) :=
  ⟨r, .here hfound hadmits, hmessage⟩

/-- A check in front of other ones. -/
theorem Checks.bind (hc : Checks t [r] c) (hnext : ∀ x, c = .ok x → Checks t rs (next x)) :
    Checks t (r :: rs) (c >>= next) := by
  cases c with
  | error e =>
    obtain ⟨q, hq, hmessage⟩ := hc
    refine ⟨q, ?_, hmessage⟩
    cases hq with
    | here hfound hadmits => exact .here hfound hadmits
    | later _ hrest => cases hrest
  | ok x =>
    have hr : r.Holds t := hc r (List.mem_singleton_self r)
    have hrest := hnext x rfl
    show Checks t (r :: rs) (next x)
    cases hx : next x with
    | error e =>
      rw [hx] at hrest
      obtain ⟨q, hq, hmessage⟩ := hrest
      exact ⟨q, .later hr hq, hmessage⟩
    | ok y =>
      rw [hx] at hrest
      exact List.forall_mem_cons.mpr ⟨hr, hrest⟩

theorem FirstViolated.not_holds {found : Value} (h : FirstViolated t rs r found) :
    r ∈ rs ∧ ¬ r.Holds t := by
  induction h with
  | here hfound hadmits => exact ⟨List.mem_cons_self, fun h => hadmits (h _ hfound)⟩
  | later _ _ ih => exact ⟨List.mem_cons_of_mem _ ih.1, ih.2⟩

/-- There is one first requirement that is not met, with one value. -/
theorem FirstViolated.unique {q : Requirement} {found found' : Value}
    (h : FirstViolated t rs r found) (h' : FirstViolated t rs q found') :
    r = q ∧ found = found' := by
  induction h with
  | here hfound hadmits =>
    cases h' with
    | here hfound' _ =>
      rw [hfound] at hfound'
      exact ⟨rfl, Option.some.inj hfound'⟩
    | later hholds _ => exact absurd (hholds _ hfound) hadmits
  | later hholds _ ih =>
    cases h' with
    | here hfound' hadmits' => exact absurd (hholds _ hfound') hadmits'
    | later _ hrest => exact ih hrest

/-- What checks requirements goes through exactly if they hold. -/
theorem Checks.exists_ok_iff (h : Checks t rs c) : (∃ x, c = .ok x) ↔ ∀ r ∈ rs, r.Holds t := by
  cases c with
  | ok x =>
    constructor
    · intro _
      exact h
    · intro _
      exact ⟨x, rfl⟩
  | error e =>
    obtain ⟨r, hviolated, -⟩ := h
    obtain ⟨hmem, hnot⟩ := hviolated.not_holds
    constructor
    · rintro ⟨x, hx⟩
      cases hx
    · intro hall
      exact absurd (hall r hmem) hnot

end Checks

theorem Requirement.holds_of_absent {r : Requirement} {t : Table} (h : r.found t = none) :
    r.Holds t := by
  intro v hv
  rw [h] at hv
  cases hv

theorem Requirement.holds_of_admits {r : Requirement} {t : Table} {found : Value}
    (h : r.found t = some found) (hadmits : r.Admits found) : r.Holds t := by
  intro v hv
  rw [h] at hv
  cases hv
  exact hadmits

/-- Sections are checked to be tables. -/
theorem checks_sectionOf (t : Table) (title : String) :
    Checks t [.ofSection title] (sectionOf t title) := by
  unfold sectionOf
  split
  case h_1 habsent => exact .ok (Requirement.holds_of_absent habsent)
  case h_2 inner hinner => exact .ok (Requirement.holds_of_admits hinner ⟨inner, rfl⟩)
  case h_3 found hother hfound =>
    refine .error hfound ?_ ?_
    · rintro ⟨entries, rfl⟩
      exact hother entries rfl
    · show "[" ++ title ++ "] must be a table, got " ++ found.display =
        "[" ++ title ++ "]" ++ " must be " ++ "a table" ++ ", got " ++ found.display
      have hwords : "] must be a table, got " = "]" ++ " must be " ++ "a table" ++ ", got " := by
        simp
      rw [hwords]
      simp only [String.append_assoc]

/-- The settings of a section that was checked are those of the document. -/
theorem get?_of_sectionOf {t inner : Table} {title : String} (h : sectionOf t title = .ok inner)
    (key : String) : Table.get? inner key = settingIn t title key := by
  unfold sectionOf at h
  unfold settingIn
  split at h
  case h_1 habsent =>
    cases h
    rw [habsent]
    rfl
  case h_2 hinner =>
    cases h
    rw [hinner]
  case h_3 => cases h

/-- A setting is checked to be a value that is read. -/
theorem checks_settingOf {α : Type} {t inner : Table} {title key demand : String}
    {admits : Value → Prop} {default : α} {read : Value → Option α} {error : Value → SettingsError}
    (hsection : sectionOf t title = .ok inner)
    (hread : ∀ v, admits v ↔ ∃ x, read v = some x)
    (herror : ∀ v, (error v).found = v ∧
      (error v).message = (Requirement.ofSetting title key demand admits).message v) :
    Checks t [.ofSetting title key demand admits] (settingOf inner key default read error) := by
  unfold settingOf
  rw [get?_of_sectionOf hsection]
  cases hfound : settingIn t title key with
  | none => exact .ok (Requirement.holds_of_absent hfound)
  | some found =>
    obtain ⟨hsame, hmessage⟩ := herror found
    cases hx : read found with
    | none =>
      simp only [hx]
      refine .error (hsame.symm ▸ hfound) ?_ (hsame.symm ▸ hmessage)
      intro hadmits
      obtain ⟨x, hsome⟩ := (hread _).mp hadmits
      rw [hsame, hx] at hsome
      cases hsome
    | some x =>
      simp only [hx]
      exact .ok (Requirement.holds_of_admits hfound ((hread found).mpr ⟨x, hx⟩))

/-! ## What the readers take -/

theorem modeOf?_eq_some {found : Value} {m : Mode} :
    modeOf? found = some m ↔ found = .string m.text := by
  cases found with
  | string s =>
    show Mode.ofText? s = some m ↔ _
    constructor
    · intro h
      have hm := List.find?_some h
      rw [of_decide_eq_true hm]
    · intro h
      cases h
      cases m <;> rfl
  | _ => simp [modeOf?]

theorem booleanOf?_eq_some {found : Value} {b : Bool} :
    booleanOf? found = some b ↔ found = .boolean b := by
  cases found <;> simp [booleanOf?]

theorem stringOf?_eq_some {found : Value} {s : String} :
    stringOf? found = some s ↔ found = .string s := by
  cases found <;> simp [stringOf?]

/-- The words for modes are those that name one. -/
theorem exists_modeOf? (found : Value) :
    (found = .string "tree" ∨ found = .string "eager") ↔ ∃ m, modeOf? found = some m := by
  simp only [modeOf?_eq_some]
  constructor
  · rintro (rfl | rfl)
    · exact ⟨.tree, rfl⟩
    · exact ⟨.eager, rfl⟩
  · rintro ⟨m, rfl⟩
    cases m with
    | tree => exact .inl rfl
    | eager => exact .inr rfl

/-- The level from outside, and otherwise that of the document. -/
theorem levelOf_eq (logging : Table) (override : Option String) :
    levelOf logging override =
      match levelOutside override with
      | some name => .ok name
      | none => settingOf logging "level" "WARNING" stringOf? .level := by
  unfold levelOf levelOutside
  cases override with
  | none => rfl
  | some name =>
    by_cases hempty : name = ""
    · subst hempty
      rfl
    · simp [hempty, Option.filter]

/-! ## All checks -/

/-- The requirements are checked one after another, in their order. -/
theorem checks_ofTable (t : Table) (override : Option String) :
    Checks t (requirements override) (ofTable t override) := by
  refine (checks_sectionOf t "evaluation").bind fun evaluation hevaluation => ?_
  refine (checks_sectionOf t "output").bind fun output houtput => ?_
  refine (checks_sectionOf t "logging").bind fun logging hlogging => ?_
  -- every setting is looked up in a section that was checked
  refine (checks_settingOf hevaluation exists_modeOf? fun _ => ⟨rfl, rfl⟩).bind fun mode _ => ?_
  refine (checks_settingOf houtput (fun v => by simp only [integerOf?_eq_some])
    fun _ => ⟨rfl, rfl⟩).bind fun displayThreshold _ => ?_
  refine (checks_settingOf houtput (fun v => by simp only [integerOf?_eq_some])
    fun _ => ⟨rfl, rfl⟩).bind fun precision _ => ?_
  refine (checks_settingOf houtput (fun v => by simp only [booleanOf?_eq_some])
    fun _ => ⟨rfl, rfl⟩).bind fun groupThousands _ => ?_
  rw [levelOf_eq]
  cases levelOutside override with
  | some name => exact .done
  | none =>
    exact (checks_settingOf hlogging (fun v => by simp only [stringOf?_eq_some])
      fun _ => ⟨rfl, rfl⟩).bind fun level _ => .done

/-- A setting that was read is the value of the document, or its default. -/
theorem getD_of_settingOf {α : Type} {t inner : Table} {title key : String} {default x : α}
    {read : Value → Option α} {error : Value → SettingsError} (write : α → Value)
    (hwrite : ∀ v x, read v = some x → v = write x) (hsection : sectionOf t title = .ok inner)
    (h : settingOf inner key default read error = .ok x) :
    (settingIn t title key).getD (write default) = write x := by
  rw [← get?_of_sectionOf hsection]
  rcases settingOf_eq_ok.mp h with ⟨habsent, rfl⟩ | ⟨found, hfound, hread⟩
  · rw [habsent]
    rfl
  · rw [hfound]
    exact hwrite found x hread

/-- Settings that a document gives are its own, or the defaults. -/
theorem givenBy_of_ofTable {t : Table} {override : Option String} {s : Settings}
    (h : ofTable t override = .ok s) : s.GivenBy t override := by
  simp only [ofTable, bind_eq_ok] at h
  obtain ⟨evaluation, hevaluation, output, houtput, logging, hlogging, mode, hmode, threshold,
    hthreshold, precision, hprecision, groupThousands, hgroup, level, hlevel, h⟩ := h
  cases h
  refine ⟨?_, ?_, ?_, ?_, ?_⟩
  · exact getD_of_settingOf (fun m => .string m.text) (fun _ _ => modeOf?_eq_some.mp) hevaluation
      hmode
  · exact getD_of_settingOf .integer (fun _ _ h => (integerOf?_eq_some.mp h).1) houtput hthreshold
  · exact getD_of_settingOf .integer (fun _ _ h => (integerOf?_eq_some.mp h).1) houtput hprecision
  · exact getD_of_settingOf .boolean (fun _ _ => booleanOf?_eq_some.mp) houtput hgroup
  · rw [levelOf_eq] at hlevel
    cases houtside : levelOutside override with
    | some name =>
      rw [houtside] at hlevel
      cases hlevel
      rfl
    | none =>
      rw [houtside] at hlevel
      exact ⟨level,
        getD_of_settingOf .string (fun _ _ => stringOf?_eq_some.mp) hlogging hlevel, rfl⟩

/-! ## What plays no part -/

theorem exists_sectionOf {t : Table} {title : String} (h : (Requirement.ofSection title).Holds t) :
    ∃ inner, sectionOf t title = .ok inner := by
  rw [(checks_sectionOf t title).exists_ok_iff]
  intro r hr
  rw [List.mem_singleton.mp hr]
  exact h

theorem SameSettings.get?_eq {t t' inner inner' : Table} (h : SameSettings t t')
    {title : String} (key : String) (hname : (title, key) ∈ settingNames)
    (hinner : sectionOf t title = .ok inner) (hinner' : sectionOf t' title = .ok inner') :
    Table.get? inner key = Table.get? inner' key := by
  rw [get?_of_sectionOf hinner, get?_of_sectionOf hinner']
  exact h.settings (title, key) hname

theorem settingOf_congr {α : Type} {t t' : Table} {key : String} (h : t.get? key = t'.get? key)
    (default : α) (read : Value → Option α) (error : Value → SettingsError) :
    settingOf t key default read error = settingOf t' key default read error := by
  unfold settingOf
  rw [h]

/-- Documents that hold the same settings give the same settings, or the same error. -/
theorem ofTable_congr {t t' : Table} (h : SameSettings t t') (override : Option String) :
    ofTable t override = ofTable t' override := by
  have hsections : ∀ title ∈ sectionTitles,
      ∃ inner inner', sectionOf t title = .ok inner ∧ sectionOf t' title = .ok inner' := by
    intro title htitle
    obtain ⟨inner, hinner⟩ := exists_sectionOf (h.sections title htitle)
    obtain ⟨inner', hinner'⟩ := exists_sectionOf (h.sections' title htitle)
    exact ⟨inner, inner', hinner, hinner'⟩
  obtain ⟨evaluation, evaluation', he, he'⟩ := hsections "evaluation" (by simp [sectionTitles])
  obtain ⟨output, output', ho, ho'⟩ := hsections "output" (by simp [sectionTitles])
  obtain ⟨logging, logging', hl, hl'⟩ := hsections "logging" (by simp [sectionTitles])
  have hmode := h.get?_eq "mode" (by simp [settingNames]) he he'
  have hthreshold := h.get?_eq "display_threshold" (by simp [settingNames]) ho ho'
  have hprecision := h.get?_eq "precision" (by simp [settingNames]) ho ho'
  have hgroup := h.get?_eq "group_thousands" (by simp [settingNames]) ho ho'
  have hlevel := h.get?_eq "level" (by simp [settingNames]) hl hl'
  unfold ofTable
  rw [he, he', ho, ho', hl, hl']
  simp only [levelOf_eq, settingOf_congr hmode, settingOf_congr hthreshold,
    settingOf_congr hprecision, settingOf_congr hgroup, settingOf_congr hlevel, bind, Except.bind]

/-! ## The settings of a document -/

/-- What is found wrong is reported, if it can be shown. -/
theorem reported_ofSettings {limits : Limits} {r : Requirement} {e : SettingsError}
    (hmessage : e.message = r.message e.found) :
    r.Reported limits e.found (.ofSettings limits e) := by
  unfold LoadFault.ofSettings
  constructor
  · intro hshowable source
    rw [(e.found.showable_iff limits).mp hshowable]
    show some (source ++ ": " ++ e.message) = _
    rw [hmessage]
  · intro hnot
    cases hfault : e.found.showFault? limits.shown with
    | none => exact absurd ((e.found.showable_iff limits).mpr hfault) hnot
    | some fault =>
      cases fault with
      | integerTooLong => exact .inl rfl
      | tooDeep => exact .inr rfl

/-- A document that gives no settings has a first requirement that it does not meet. -/
theorem reported_ofDocument {limits : Limits} {t : Table} {override : Option String}
    {fault : LoadFault} (h : ofDocument t override limits = .error fault) :
    ∃ r found, FirstViolated t (requirements override) r found ∧
      r.Reported limits found fault := by
  have hchecks := checks_ofTable t override
  unfold ofDocument at h
  cases htable : ofTable t override with
  | ok s =>
    rw [htable] at h
    cases h
  | error e =>
    rw [htable] at h hchecks
    cases h
    obtain ⟨r, hviolated, hmessage⟩ := hchecks
    exact ⟨r, e.found, hviolated, reported_ofSettings hmessage⟩

/-- What loading a document comes to. -/
structure Validated (limits : Limits) (t : Table) (override : Option String)
    (outcome : Except LoadFault Settings) : Prop where
  accepted : (∃ s, outcome = .ok s) ↔ ∀ r ∈ requirements override, r.Holds t
  given : ∀ s, outcome = .ok s → s.GivenBy t override
  refused : ∀ fault, outcome = .error fault →
    ∃ r found, FirstViolated t (requirements override) r found ∧ r.Reported limits found fault

/-- **A document gives settings exactly if it meets all requirements.** Each setting is then the one
of the document, or its default. Otherwise the first requirement that is not met is reported, with
the value that was found if that value can be shown. Documents that hold the same settings have the
same outcome, and a file is as good as the document in it. How deeply values may be nested to be
shown is for the system to say. -/
theorem ofDocument_validates (limits : Limits) (t : Table) (override : Option String) :
    Validated limits t override (ofDocument t override limits) ∧
      (∀ t', SameSettings t t' → ofDocument t override limits = ofDocument t' override limits) ∧
      ∀ content, documentIn content limits = .ok t →
        load content override limits = ofDocument t override limits := by
  have hchecks := checks_ofTable t override
  refine ⟨⟨?_, ?_, ?_⟩, ?_, ?_⟩
  · rw [← hchecks.exists_ok_iff]
    simp only [ofDocument, mapError_eq_ok]
  · intro s hs
    exact givenBy_of_ofTable (mapError_eq_ok.mp hs)
  · exact fun fault => reported_ofDocument
  · intro t' hsame
    unfold ofDocument
    rw [ofTable_congr hsame]
  · intro content hcontent
    unfold load
    rw [hcontent]

/-- A level that is a number is reported, unless another one is given from outside. -/
theorem ofDocument_validates_level :
    (∃ s, ofDocument [("logging", .table [("level", .integer 3)])] (some "debug") = .ok s ∧
        s.level = "DEBUG") ∧
      ∃ fault, ofDocument [("logging", .table [("level", .integer 3)])] none = .error fault ∧
        fault.message? "calcparse.toml" =
          some "calcparse.toml: logging.level must be a string, got 3" := by
  have habsent : ∀ r : Requirement, r.found [("logging", .table [("level", .integer 3)])] = none →
      r.Holds [("logging", .table [("level", .integer 3)])] :=
    fun _ => Requirement.holds_of_absent
  have hlogging : (Requirement.ofSection "logging").Holds
      [("logging", .table [("level", .integer 3)])] :=
    Requirement.holds_of_admits rfl ⟨_, rfl⟩
  constructor
  · obtain ⟨hvalid, -, -⟩ :=
      ofDocument_validates {} [("logging", .table [("level", .integer 3)])] (some "debug")
    obtain ⟨s, hs⟩ := hvalid.accepted.mpr (by
      show ∀ r ∈ [_, _, _, _, _, _, _], Requirement.Holds r _
      simp only [List.forall_mem_cons]
      exact ⟨habsent _ rfl, habsent _ rfl, hlogging, habsent _ rfl, habsent _ rfl, habsent _ rfl,
        habsent _ rfl, nofun⟩)
    exact ⟨s, hs, (hvalid.given s hs).level.trans (by decide +kernel)⟩
  · obtain ⟨hvalid, -, -⟩ :=
      ofDocument_validates {} [("logging", .table [("level", .integer 3)])] none
    have hlevel : FirstViolated [("logging", .table [("level", .integer 3)])] (requirements none)
        .level (.integer 3) := by
      refine .later (habsent _ rfl) (.later (habsent _ rfl) (.later hlogging ?_))
      refine .later (habsent _ rfl) (.later (habsent _ rfl) ?_)
      refine .later (habsent _ rfl) (.later (habsent _ rfl) (.here rfl ?_))
      rintro ⟨s, hs⟩
      cases hs
    cases houtcome : ofDocument [("logging", .table [("level", .integer 3)])] none with
    | ok s =>
      have hall := hvalid.accepted.mp ⟨s, houtcome⟩
      exact absurd (hall _ hlevel.not_holds.1) hlevel.not_holds.2
    | error fault =>
      obtain ⟨r, found, hviolated, hreported⟩ := hvalid.refused fault houtcome
      obtain ⟨rfl, rfl⟩ := hlevel.unique hviolated
      have hshowable : (Value.integer 3).Showable {} := ⟨by decide, by decide +kernel⟩
      exact ⟨fault, rfl, hreported.shown hshowable "calcparse.toml"⟩

/-- An integer with a digit too many stands in place of a truth value: that it is none is not
said. -/
theorem not_reported_of_long_integer :
    ¬ Requirement.groupThousands.Holds
        [("output", .table [("group_thousands", .integer (10 ^ Number.maxDigits))])] ∧
      ofDocument [("output", .table [("group_thousands", .integer (10 ^ Number.maxDigits))])] none =
        .error .notShowable ∧
      ∀ source, LoadFault.notShowable.message? source = none := by
  have hdocument : ∀ n : Int,
      ofDocument [("output", .table [("group_thousands", .integer n)])] none =
        .error (.ofSettings {} (.groupThousands (.integer n))) := by
    intro n
    rfl
  have hlong : Number.isWritable (10 ^ Number.maxDigits) = false := by
    simp [Number.isWritable, Int.natAbs_pow]
  refine ⟨?_, ?_, ?_⟩
  · intro h
    obtain ⟨b, hb⟩ := h _ rfl
    cases hb
  · rw [hdocument, LoadFault.ofSettings, SettingsError.found, Value.showFault?,
      if_neg (by decide), hlong]
    rfl
  · intro source
    rfl

end Settings

end Calculator
