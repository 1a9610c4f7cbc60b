import Calculator.Proofs.Inorder
import Calculator.Settings.Load
import Mathlib.Algebra.Order.Ring.Int

/-!
# Rendering with settings that were checked

Settings that are loaded have been checked: the display threshold is positive and the precision is
not negative. The line with a result is put together from three parts, each of which may fail. The
size and the text of a tree fail only at nodes that no text gives, so they exist for every tree that
was parsed. The number is refused where its precision is not the count of places that a machine
integer of 32 bits can hold, and of the two ends of that range the check knows the lower one only:
settings with a precision of `2 ^ 31` or more are loaded, and nothing is rendered with them. Which
fault it is depends on how much too large the precision is.
-/

namespace Calculator

/-! ## What loaded settings satisfy -/

section Except

variable {ε ε' α β : Type}

theorem bind_eq_ok {r : Except ε α} {next : α → Except ε β} {y : β} :
    r >>= next = .ok y ↔ ∃ x, r = .ok x ∧ next x = .ok y := by
  cases r with
  | error e =>
    constructor
    · intro h
      cases h
    · rintro ⟨x, hx, -⟩
      cases hx
  | ok x =>
    constructor
    · intro h
      exact ⟨x, rfl, h⟩
    · rintro ⟨x', hx, h⟩
      cases hx
      exact h

theorem mapError_eq_ok {f : ε → ε'} {r : Except ε α} {x : α} :
    r.mapError f = .ok x ↔ r = .ok x := by
  cases r <;> simp [Except.mapError]

end Except

/-- What is checked of the way results are presented. -/
structure OutputSettings.Checked (output : OutputSettings) : Prop where
  displayThreshold : 1 ≤ output.displayThreshold
  precision : 0 ≤ output.precision

namespace Settings

/-- The settings of some file, or those that hold without a file. -/
def Loaded (settings : Settings) : Prop :=
  (∃ content override limits, load content override limits = .ok settings) ∨
    ∃ override limits, withoutDocument override limits = .ok settings

/-- A setting is its default where it is absent, and otherwise what was read from its value. -/
theorem settingOf_eq_ok {α : Type} {t : Toml.Table} {name : String} {default x : α}
    {read : Toml.Value → Option α} {error : Toml.Value → SettingsError} :
    settingOf t name default read error = .ok x ↔
      t.get? name = none ∧ x = default ∨
        ∃ found, t.get? name = some found ∧ read found = some x := by
  unfold settingOf
  cases t.get? name with
  | none => simp [eq_comm]
  | some found => cases hread : read found <;> simp [hread]

theorem integerOf?_eq_some {least n : Int} {found : Toml.Value} :
    integerOf? least found = some n ↔ found = .integer n ∧ least ≤ n := by
  cases found with
  | integer m =>
    by_cases hle : least ≤ m
    · rw [integerOf?, if_pos hle, Option.some.injEq, Toml.Value.integer.injEq]
      constructor
      · rintro rfl
        exact ⟨rfl, hle⟩
      · exact And.left
    · rw [integerOf?, if_neg hle, Toml.Value.integer.injEq]
      constructor
      · intro h
        cases h
      · rintro ⟨rfl, h⟩
        exact absurd h hle
  | _ => simp [integerOf?]

/-- An integer setting is as large as it must be, if its default is. -/
theorem le_of_settingOf {t : Toml.Table} {name : String} {least default n : Int}
    {error : Toml.Value → SettingsError} (hdefault : least ≤ default)
    (h : settingOf t name default (integerOf? least) error = .ok n) : least ≤ n := by
  rcases settingOf_eq_ok.mp h with ⟨-, rfl⟩ | ⟨found, -, hread⟩
  · exact hdefault
  · exact (integerOf?_eq_some.mp hread).2

/-- Every table that gives settings gives checked ones. -/
theorem checked_of_ofTable {t : Toml.Table} {override : Option String} {settings : Settings}
    (h : ofTable t override = .ok settings) : settings.output.Checked := by
  simp only [ofTable, bind_eq_ok] at h
  obtain ⟨_, -, _, -, _, -, _, -, threshold, hthreshold, precision, hprecision, _, -, _, -, h⟩ := h
  cases h
  exact ⟨le_of_settingOf (by decide) hthreshold, le_of_settingOf (by decide) hprecision⟩

theorem Loaded.checked {settings : Settings} (h : settings.Loaded) : settings.output.Checked := by
  rcases h with ⟨content, override, limits, h⟩ | ⟨override, limits, h⟩
  · unfold load at h
    split at h
    · cases h
    · exact checked_of_ofTable (mapError_eq_ok.mp h)
  · exact checked_of_ofTable (mapError_eq_ok.mp h)

end Settings

/-! ## The parts of the line -/

namespace Expr

/-- A tree of operators and numbers has a text, whatever its numbers are. -/
theorem exists_format {e : Expr} (h : e.Supported) : ∃ text, e.format = .ok text := by
  obtain ⟨p, hp, -⟩ := exists_phrase_of (P := fun _ => True) (Q := fun _ _ => True)
    (fun _ _ => trivial) (fun _ _ _ _ => trivial) (fun _ _ _ _ _ _ _ => trivial) h
    (fun _ _ => trivial)
  exact ⟨p.text, format_of_phrase hp⟩

/-- What parsing gives, in either way. -/
def Accepted (e : Expr) : Prop :=
  (∃ s, parse s = .ok e) ∨ ∃ ops s, parseEagerly ops s = .ok e

theorem Accepted.supported {e : Expr} (h : e.Accepted) : e.Supported := by
  rcases h with ⟨s, h⟩ | ⟨ops, s, h⟩
  · exact (spells_iff.mp (spells_of_parse h)).supported.1
  · -- eager mode leaves a single number
    unfold parseEagerly at h
    split at h
    · cases h
      trivial
    · cases h

end Expr

/-- Precisions that are counts of places: not negative, and within 32 bits. -/
theorem placesOf_eq_ok {precision : Int} (h : 0 ≤ precision) (hlt : precision < 2 ^ 31) :
    placesOf precision = .ok precision.toNat := by
  unfold placesOf
  rw [if_neg (by omega), if_neg (by omega), if_neg (by omega)]

/-- Larger ones are refused, each for its reason. -/
theorem placesOf_eq_error {precision : Int} (h : 2 ^ 31 ≤ precision) :
    placesOf precision =
      .error (if precision < 2 ^ 63 then .tooBig else refusalOf precision .unreadable) := by
  unfold placesOf
  rw [if_neg (by omega)]
  split
  · rw [if_neg (by omega)]
  · rw [if_pos (by omega), if_pos (by omega)]

/-! ## The line -/

/-- The line is put together from a number, a size and a text. -/
theorem renderResult_eq_ok {e : Expr} {value : Binary64} {output : OutputSettings} {size : Nat}
    {text number : String} (hsize : e.size = .ok size) (htext : e.format = .ok text)
    (hnumber : formatNumber value output.precision output.groupThousands = .ok number) :
    renderResult e value output = .ok
      (if size ≤ output.displayThreshold then "Eval(" ++ text ++ ") = " ++ number
        else "Eval() = " ++ number) := by
  unfold renderResult
  rw [hnumber, hsize]
  by_cases hshown : size ≤ output.displayThreshold
  · simp only [hshown, if_true, htext]
  · simp only [hshown, if_false]

/-- **Checked settings render, up to the precision that they do not check.** With settings that were
loaded, every tree that was parsed has a size and a text, and every number is shown with it as the
display threshold says, if the precision is within 32 bits. With a larger one nothing is shown. -/
theorem renderResult_of_loaded (settings : Settings) (e : Expr) (value : Binary64)
    (hloaded : settings.Loaded) (haccepted : e.Accepted) :
    ∃ size text, e.size = .ok size ∧ e.format = .ok text ∧
      (settings.output.precision < 2 ^ 31 →
        ∃ number,
          formatNumber value settings.output.precision settings.output.groupThousands =
            .ok number ∧
          renderResult e value settings.output = .ok
            (if size ≤ settings.output.displayThreshold then "Eval(" ++ text ++ ") = " ++ number
              else "Eval() = " ++ number)) ∧
      (2 ^ 31 ≤ settings.output.precision →
        renderResult e value settings.output =
          .error (.precision (if settings.output.precision < 2 ^ 63 then .tooBig
            else refusalOf settings.output.precision .unreadable))) := by
  have hchecked := hloaded.checked
  have hsupported := haccepted.supported
  have hsize := Expr.size_eq hsupported
  obtain ⟨text, htext⟩ := Expr.exists_format hsupported
  refine ⟨_, text, hsize, htext, ?_, ?_⟩
  · intro hlt
    have hnumber : formatNumber value settings.output.precision settings.output.groupThousands =
        .ok (value.fixedText settings.output.precision.toNat settings.output.groupThousands) := by
      rw [formatNumber, placesOf_eq_ok hchecked.precision hlt]
    exact ⟨_, hnumber, renderResult_eq_ok hsize htext hnumber⟩
  · intro hle
    unfold renderResult formatNumber
    rw [placesOf_eq_error hle]

/-- With the largest precision of 32 bits, infinity is still shown behind `1+2`. -/
theorem renderResult_of_loaded_largest :
    Settings.load (.ok ("[output]\nprecision = 2147483647\n".toList.map fun c => c.val.toUInt8))
        none = .ok { output := { precision := 2147483647 } } ∧
      renderResult
        (.binary (.known .add) (.literal ⟨0x3FF0000000000000⟩) (.literal ⟨0x4000000000000000⟩))
        ⟨0x7FF0000000000000⟩ { precision := 2147483647 } = .ok "Eval(1.00 + 2.00) = inf" := by
  have hload : Settings.load
      (.ok ("[output]\nprecision = 2147483647\n".toList.map fun c => c.val.toUInt8)) none =
        .ok { output := { precision := 2147483647 } } := rfl
  have hparse : parse (.text "1+2".toList) = .ok
      (.binary (.known .add) (.literal ⟨0x3FF0000000000000⟩) (.literal ⟨0x4000000000000000⟩)) := by
    decide +kernel
  obtain ⟨size, text, hsize, htext, hrenders, -⟩ := renderResult_of_loaded
    { output := { precision := 2147483647 } } _ ⟨0x7FF0000000000000⟩ (.inl ⟨_, _, _, hload⟩)
    (.inl ⟨_, hparse⟩)
  obtain ⟨number, hnumber, hline⟩ := hrenders (by decide)
  rw [Expr.size, Expr.walk_eq_fold] at hsize
  rw [Expr.format, Expr.walk_eq_fold] at htext
  cases hsize
  cases htext
  cases hnumber
  exact ⟨hload, hline.trans (by decide +kernel)⟩

/-- One more is loaded as well, and then no number is shown behind `1`, not even infinity, whose
text has no places. -/
theorem not_renderResult_of_loaded_larger :
    Settings.load (.ok ("[output]\nprecision = 2147483648\n".toList.map fun c => c.val.toUInt8))
        none = .ok { output := { precision := 2147483648 } } ∧
      parse (.text "1".toList) = .ok (.literal ⟨0x3FF0000000000000⟩) ∧
      ∀ value, renderResult (.literal ⟨0x3FF0000000000000⟩) value { precision := 2147483648 } =
        .error (.precision .tooBig) := by
  refine ⟨rfl, by decide +kernel, ?_⟩
  intro value
  rfl

end Calculator
