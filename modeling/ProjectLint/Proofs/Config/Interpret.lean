import ProjectLint.Config.Interpret
import ProjectLint.Proofs.Config.Value
import ProjectLint.Proofs.Fallible
import ProjectLint.Proofs.Number.Binary64

/-!
# Configurations that have settings

A setting takes the value that it is given if this is of its kind, and its default otherwise. Every
mapping has settings but one whose limit of a run is too great for a number of seconds.

## Main definitions

* `Config.TakesText`, `Config.TakesTexts`, `Config.TakesLimit`, `Config.TakesSwitch`: what settings
  of each kind take.

## Main results

* `takesText_text`, `takesTexts_texts`, `takesLimit_of_timeout`, `takesSwitch_switch`: the
  conversions.
* `timeout_eq_error_iff`: the limits that are too great.
* `ofEntries_eq_error_iff`: the mappings that have no settings.
-/

namespace ProjectLint.Config

open Text

variable {es : Entries} {f : SettingsFault}

/-! ### What settings take -/

/-- A setting that is a text takes the text that it is given, unless this is empty, and its default
from anything else. -/
inductive TakesText (default : List Letter) : Option Value → List Letter → Prop
  | text {v : Value} {ls : List Letter} (h : v.IsText ls) (hne : ls ≠ []) :
    TakesText default (some v) ls
  | default {v? : Option Value} (h : ∀ v ls, v? = some v → v.IsText ls → ls = []) :
    TakesText default v? default

/-- A setting that is a list of texts takes a list that holds nothing else, also an empty one, and
its default from anything else. -/
inductive TakesTexts (default : List (List Letter)) : Option Value → List (List Letter) → Prop
  | texts {vs : List Value} {texts : List (List Letter)} (h : List.Forall₂ Value.IsText vs texts) :
    TakesTexts default (some (.list vs)) texts
  | default {v? : Option Value}
    (h : ∀ vs texts, v? = some (.list vs) → ¬List.Forall₂ Value.IsText vs texts) :
    TakesTexts default v? default

/-- A limit takes a number above zero, in double precision, and is none otherwise. -/
inductive TakesLimit : Option Value → Option Binary64 → Prop
  | whole {n : Int} {x : Binary64} (hn : 0 < n) (hx : Binary64.ofInt? n = some x) :
    TakesLimit (some (.int n)) (some x)
  | float {x : Binary64} (hx : x.isPositive = true) : TakesLimit (some (.float x)) (some x)
  | none {v? : Option Value} (hint : ∀ n, v? = some (.int n) → n ≤ 0)
    (hfloat : ∀ x, v? = some (.float x) → x.isPositive = false) : TakesLimit v? none

/-- A switch takes a truth value, and is off otherwise. -/
inductive TakesSwitch : Option Value → Bool → Prop
  | switch (b : Bool) : TakesSwitch (some (.bool b)) b
  | default {v? : Option Value} (h : ∀ b, v? ≠ some (.bool b)) : TakesSwitch v? false

theorem takesText_text (default : List Letter) (v? : Option Value) :
    TakesText default v? (text default v?) := by
  rw [text]
  split
  · next l ls h =>
    obtain ⟨v, rfl, hv⟩ := Option.bind_eq_some_iff.mp h
    exact .text (Value.isText_iff.mpr hv) (List.cons_ne_nil l ls)
  · next hempty =>
    refine .default fun v ls hv hls => ?_
    rw [hv, Option.bind_some, Value.isText_iff.mp hls] at hempty
    cases ls with
    | nil => rfl
    | cons l ls => exact absurd rfl (hempty l ls)

theorem asTexts?_eq_some_iff {vs : List Value} {texts : List (List Letter)} :
    asTexts? vs = some texts ↔ List.Forall₂ Value.IsText vs texts := by
  induction vs generalizing texts with
  | nil => simp [asTexts?, eq_comm]
  | cons v vs ih =>
    simp only [asTexts?, List.forall₂_cons_left_iff, Value.isText_iff, ← ih]
    cases v.letters? <;> cases asTexts? vs <;> simp [eq_comm]

theorem takesTexts_texts (default : List (List Letter)) (v? : Option Value) :
    TakesTexts default v? (texts default v?) := by
  rw [texts.eq_def]
  split
  · next vs =>
    cases htexts : asTexts? vs with
    | some texts => exact .texts (asTexts?_eq_some_iff.mp htexts)
    | none =>
      refine .default fun vs' texts hvs h => ?_
      obtain rfl := Value.list.inj (Option.some.inj hvs)
      rw [asTexts?_eq_some_iff.mpr h] at htexts
      cases htexts
  · next hother => exact .default fun vs _ hvs _ => hother vs hvs

theorem takesLimit_of_timeout {v? : Option Value} {limit : Option Binary64}
    (h : timeout v? = .ok limit) : TakesLimit v? limit := by
  rw [timeout.eq_def] at h
  split at h
  · next n =>
    split at h
    · next hn =>
      split at h
      · next x hx =>
        cases h
        exact .whole hn hx
      · cases h
    · next hn =>
      cases h
      refine .none (fun m hm => ?_) (fun x hx => nomatch hx)
      cases hm
      exact Int.not_lt.mp hn
  · next x =>
    cases h
    split
    · next hx => exact .float hx
    · next hx =>
      refine .none (fun n hn => nomatch hn) fun y hy => ?_
      cases hy
      simpa using hx
  · next hint hfloat =>
    cases h
    exact .none (fun n hn => absurd hn (hint n)) fun x hx => absurd hx (hfloat x)

theorem takesSwitch_switch (v? : Option Value) : TakesSwitch v? (switch v?) := by
  rw [switch.eq_def]
  split
  · exact .switch _
  · next hother => exact .default hother

/-! ### Mappings without settings -/

theorem ofInt?_eq_none_iff_of_pos {n : Int} (hn : 0 < n) :
    Binary64.ofInt? n = none ↔ (Binary64.limit : Int) ≤ n := by
  rw [Binary64.ofInt?_eq_none_iff]
  omega

/-- A limit is too great if it is a whole number that is out of range. -/
theorem timeout_eq_error_iff {v : Option Value} :
    timeout v = .error f ↔ ∃ n, v = some (.int n) ∧ (Binary64.limit : Int) ≤ n := by
  have hlimit : 0 < Binary64.limit := (Nat.zero_le _).trans_lt Binary64.twoTo_1023_lt_limit
  rcases v with _ | v
  · simp [timeout]
  · cases v with
    | int n =>
      by_cases hn : 0 < n
      · have hrange := ofInt?_eq_none_iff_of_pos hn
        cases hdouble : Binary64.ofInt? n <;> cases f <;> simp_all [timeout]
      · have hrange : ¬(Binary64.limit : Int) ≤ n := by omega
        simp [timeout, hn, hrange]
    | _ => simp [timeout]

/-- **A mapping has no settings only if its limit of a run is too great.** -/
theorem ofEntries_eq_error_iff :
    Loaded.ofEntries es = .error f ↔
      ∃ n, (sectionEntries es "linter").field? "timeout" = some (.int n) ∧
        (Binary64.limit : Int) ≤ n := by
  rw [Loaded.ofEntries, bind_eq_error_iff, timeout_eq_error_iff]
  simp [pure, Except.pure]

end ProjectLint.Config
