import Calculator.Proofs.DocumentFaults
import Calculator.Proofs.SettingsChecks
import Calculator.Proofs.Utf8
import Calculator.Release

/-!
# Files, whatever they hold

Two things are read from files that anyone may have written: the settings, and the release of a
project. For most contents all that comes of it is foreseen: settings or something to say of what is
wrong with them, and a release even where the file is no document.

Some contents are not foreseen, and their fault goes through to whoever wants the settings or the
release. There are three reasons for it: the bytes are no text, the text holds a whole number with
too many digits, or its brackets may take more frames than the system has. Bytes that are no text go
through every time. A fourth content is foreseen by the release only: settings whose first wrong
value cannot be shown.

How many frames there are, and how many levels of a value can be shown, is for the system to say.
-/

namespace Calculator

open Text.Utf8 (encodedText)

section Outcomes

variable (limits : Toml.Limits) (content : List UInt8) (override : Option String)

/-- There are settings, or something to say of what is wrong with them. -/
def SettingsForeseen : Prop :=
  (∃ s, Settings.load (.ok content) override limits = .ok s) ∨
    ∃ fault, Settings.load (.ok content) override limits = .error fault ∧
      ∀ source, (fault.message? source).isSome

/-- There is a release: of the file, else the recorded one, else that of an unknown release. -/
def ReleaseForeseen : Prop :=
  ∀ name recorded, ∃ found, Release.ofFile name (.ok content) limits = .ok found ∧
    Release.lookup name (.ok content) recorded limits =
      .ok (found.getD (recorded.getD Release.unknown))

/-- The first setting that is wrong has a value that cannot be shown, and nothing is said of it. -/
structure Unshown (fault : LoadFault) : Prop where
  settings : Settings.load (.ok content) override limits = .error fault
  unsaid : ∀ source, fault.message? source = none
  wrong : ∃ t r found, documentOf content limits = .ok t ∧
    Settings.FirstViolated t (Settings.requirements override) r found ∧ ¬ found.Showable limits

/-- A fault of a file of which nothing is said: neither settings nor a release come of it. -/
structure Escapes (fault : DocumentFault) : Prop where
  settings : Settings.load (.ok content) override limits = .error (.document fault)
  unsaid : ∀ source, (LoadFault.document fault).message? source = none
  release : ∀ name recorded, Release.ofFile name (.ok content) limits = .error fault ∧
    Release.lookup name (.ok content) recorded limits = .error fault

/-- What in a file is the reason that a fault of it is not foreseen. -/
inductive Reason : DocumentFault → Prop
  | notUtf8 (h : ∀ cs, content ≠ encodedText cs) : Reason .notUtf8
  | tooDeep {cs : List Char} (h : content = encodedText cs)
      (hframes : limits.frames < Toml.framesOfAll (Text.lineFeeds cs)) : Reason .tooDeep
  | integerTooLong {cs : List Char} {n : Nat} (h : content = encodedText cs)
      (hlong : Number.maxDigits < n) (hdigits : Toml.HoldsDigits (Text.lineFeeds cs) n) :
      Reason (.integerTooLong n)

end Outcomes

section Content

variable {limits : Toml.Limits} {content : List UInt8} {override : Option String}

/-! ## Documents -/

theorem load_of_document {t : Toml.Table} (h : documentOf content limits = .ok t) :
    Settings.load (.ok content) override limits = Settings.ofDocument t override limits := by
  rw [Settings.load, documentIn, h]

theorem load_of_fault {fault : DocumentFault} (h : documentOf content limits = .error fault) :
    Settings.load (.ok content) override limits = .error (.document fault) := by
  rw [Settings.load, documentIn, h]

/-- A document says what is wrong with its settings if the wrong value can be shown. -/
theorem settingsForeseen_of_document {t : Toml.Table} (h : documentOf content limits = .ok t) :
    SettingsForeseen limits content override ∨ ∃ fault, Unshown limits content override fault := by
  have hload : Settings.load (.ok content) override limits = _ := load_of_document h
  cases hsettings : Settings.ofDocument t override limits with
  | ok s => exact .inl (.inl ⟨s, hload.trans hsettings⟩)
  | error fault =>
    obtain ⟨r, found, hviolated, hreported⟩ := Settings.reported_ofDocument hsettings
    by_cases hshowable : found.Showable limits
    · refine .inl (.inr ⟨fault, hload.trans hsettings, fun source => ?_⟩)
      rw [hreported.shown hshowable source]
      rfl
    · refine .inr ⟨fault, hload.trans hsettings, ?_, t, r, found, h, hviolated, hshowable⟩
      rcases hreported.notShown hshowable with rfl | rfl
      · exact fun source => rfl
      · exact fun source => rfl

/-- A release comes of what is found, or of its absence. -/
theorem releaseForeseen_of_ofFile (found : String → Option String)
    (h : ∀ name, Release.ofFile name (.ok content) limits = .ok (found name)) :
    ReleaseForeseen limits content := by
  intro name recorded
  refine ⟨found name, h name, ?_⟩
  rw [Release.lookup, h]
  cases found name <;> rfl

theorem releaseForeseen_of_document {t : Toml.Table} (h : documentOf content limits = .ok t) :
    ReleaseForeseen limits content := by
  refine releaseForeseen_of_ofFile (fun name => Release.ofTable name t) fun name => ?_
  rw [Release.ofFile, documentIn, h]

/-- A text that breaks the rules of the format gives no release of its own. -/
theorem releaseForeseen_of_invalid (h : documentOf content limits = .error .invalid) :
    ReleaseForeseen limits content := by
  refine releaseForeseen_of_ofFile (fun _ => none) fun name => ?_
  rw [Release.ofFile, documentIn, h]

/-- Every reason lets its fault through. -/
theorem Reason.escapes {fault : DocumentFault} (hreason : Reason limits content fault)
    (h : documentOf content limits = .error fault) : Escapes limits content override fault := by
  have hrelease : ∀ name, Release.ofFile name (.ok content) limits = .error fault := by
    intro name
    rw [Release.ofFile, documentIn, h]
    cases hreason <;> rfl
  refine ⟨load_of_fault h, ?_, fun name recorded => ⟨hrelease name, ?_⟩⟩
  · cases hreason <;> exact fun source => rfl
  · rw [Release.lookup, hrelease]

/-! ## Contents -/

theorem documentOf_encodedText (cs : List Char) :
    documentOf (encodedText cs) limits =
      (Toml.read limits.frames (Text.lineFeeds cs)).mapError .ofToml := by
  rw [documentOf, Text.Utf8.decode?_encodedText]

theorem documentOf_eq_notUtf8 : documentOf content limits = .error .notUtf8 ↔
    ∀ cs, content ≠ encodedText cs := by
  constructor
  · rintro h cs rfl
    rw [documentOf_encodedText] at h
    cases hread : Toml.read limits.frames (Text.lineFeeds cs) with
    | ok t =>
      rw [hread] at h
      cases h
    | error e =>
      rw [hread] at h
      cases e <;> cases h
  · intro h
    cases hchars : Text.Utf8.decode? content with
    | none => rw [documentOf, hchars]
    | some cs => exact absurd (Text.Utf8.decode?_eq_some.mp hchars) (h cs)

/-- A file that is no document breaks the rules of the format, or there is a reason in it. -/
theorem reason_of_documentOf {fault : DocumentFault} (h : documentOf content limits = .error fault) :
    fault = .invalid ∨ Reason limits content fault := by
  by_cases htext : ∀ cs, content ≠ encodedText cs
  · rw [documentOf_eq_notUtf8.mpr htext] at h
    cases h
    exact .inr (.notUtf8 htext)
  · obtain ⟨cs, hcs⟩ := not_forall_not.mp htext
    rw [hcs, documentOf_encodedText] at h
    cases hread : Toml.read limits.frames (Text.lineFeeds cs) with
    | ok t =>
      rw [hread] at h
      cases h
    | error e =>
      have haccounts := Toml.accounts_of_read hread
      rw [hread] at h
      cases h
      cases e with
      | invalid => exact .inl rfl
      | tooDeep => exact .inr (.tooDeep hcs haccounts)
      | integerTooLong n => exact .inr (.integerTooLong hcs haccounts.1 haccounts.2)

/-- **What comes of a file is foreseen, or the file holds a reason that it is not.** A fault with such
a reason goes through to whoever reads the settings or the release, and bytes that are no text are
one every time. Settings with a wrong value that cannot be shown are foreseen for the release
alone. -/
theorem foreseen_or_escapes (limits : Toml.Limits) (content : List UInt8)
    (override : Option String) :
    (ReleaseForeseen limits content ∧
        (SettingsForeseen limits content override ∨ ∃ fault, Unshown limits content override fault) ∨
      ∃ fault, Reason limits content fault ∧ Escapes limits content override fault) ∧
    (Escapes limits content override .notUtf8 ↔ ∀ cs, content ≠ encodedText cs) := by
  constructor
  · cases hdocument : documentOf content limits with
    | ok t =>
      exact .inl ⟨releaseForeseen_of_document hdocument, settingsForeseen_of_document hdocument⟩
    | error fault =>
      rcases reason_of_documentOf hdocument with rfl | hreason
      · exact .inl ⟨releaseForeseen_of_invalid hdocument,
          .inl (.inr ⟨_, load_of_fault hdocument, fun source => rfl⟩)⟩
      · exact .inr ⟨fault, hreason, hreason.escapes hdocument⟩
  · constructor
    · intro hescapes
      have hdocument : documentOf content limits = .error .notUtf8 := by
        have hfile := (hescapes.release "" none).1
        rw [Release.ofFile, documentIn] at hfile
        split at hfile <;> simp_all
      exact documentOf_eq_notUtf8.mp hdocument
    · intro htext
      exact (Reason.notUtf8 htext).escapes (documentOf_eq_notUtf8.mpr htext)

/-- A byte that no text holds goes through, whatever the limits are: there is nothing to say, and no
release. -/
theorem escapes_of_stray_byte :
    (∀ cs, [0xff] ≠ encodedText cs) ∧
      ∀ limits, ¬ SettingsForeseen limits [0xff] none ∧ ¬ ReleaseForeseen limits [0xff] ∧
        Release.lookup Release.projectName (.ok [0xff]) (some Release.installed) limits =
          .error .notUtf8 := by
  have hchars : Text.Utf8.decode? [0xff] = none := by decide
  have hdocument : ∀ limits, documentOf [0xff] limits = .error .notUtf8 := by
    intro limits
    rw [documentOf, hchars]
  have htext := documentOf_eq_notUtf8.mp (hdocument {})
  refine ⟨htext, fun limits => ?_⟩
  have hescapes : Escapes limits [0xff] none .notUtf8 :=
    (Reason.notUtf8 htext).escapes (hdocument limits)
  refine ⟨?_, ?_, (hescapes.release _ _).2⟩
  · rintro (⟨s, hs⟩ | ⟨fault, hfault, hsaid⟩)
    · rw [hescapes.settings] at hs
      cases hs
    · rw [hescapes.settings] at hfault
      cases hfault
      have hsome := hsaid ""
      rw [hescapes.unsaid] at hsome
      cases hsome
  · intro hrelease
    obtain ⟨found, hfound, -⟩ := hrelease "" none
    rw [(hescapes.release "" none).1] at hfound
    cases hfound

end Content

end Calculator
