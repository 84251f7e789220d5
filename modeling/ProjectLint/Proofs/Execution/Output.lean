import ProjectLint.Proofs.Execution.Child
import ProjectLint.Proofs.Report.Refusal
import ProjectLint.Proofs.Text.Utf8

/-!
# What a run leaves

A run has a result if the system is asked for a child and starts it, and the child ends by itself,
in time and without being stopped. The result has what the child has printed, whatever bytes it is
made of; a line of it can still be one for which there is no report.

## Main definitions

* `Execution.Garbles`: a child prints a number that has too many digits.

## Main results

* `ending_eq_ended_iff`: when a run has a result.
* `garbles_iff`: when its output has no report.
* `decode_ascii`: what is printed in ASCII is read as it is.
-/

namespace ProjectLint.Execution

/-- A child ends by itself, and its output has a line whose longest reading has a number with too
many digits. -/
def Garbles (limit : Option Limit) (behaviour : Behaviour) : Prop :=
  ∃ child, behaviour = .starts child ∧ Finishes limit .none child ∧
    ∃ cs ∈ Text.lines (decode child.output).toList, ∃ r : Report.Reading,
      r.IsLongest (Report.Line.core cs) ∧ r.Overlong

variable {request : Request} {limit : Option Limit} {interruption : Interruption}
  {behaviour : Behaviour} {result : Result}

/-- A run has a result exactly when the child starts and ends by itself. -/
theorem ending_eq_ended_iff :
    (run request limit interruption behaviour).ending = some (.ended result) ↔
      request.Fit ∧ ∃ child, behaviour = .starts child ∧ Finishes limit interruption child ∧
        result = child.result request.capture := by
  rw [ending_eq_iff]
  constructor
  · intro h
    cases h with
    | finished child h hchild => exact ⟨h, child, rfl, hchild, rfl⟩
  · rintro ⟨h, child, rfl, hchild, rfl⟩
    exact .finished child h hchild

/-- The output of a run whose output is read is refused exactly when the child garbles it. -/
theorem garbles_iff (hfit : request.Fit) (hcapture : request.capture = true) :
    Garbles limit behaviour ↔
      ∃ result, (run request limit .none behaviour).ending = some (.ended result) ∧
        ∃ e, Report.ofOutput result.output = .error e := by
  simp only [ending_eq_ended_iff, hfit, true_and, Report.ofOutput_eq_error_iff, Garbles]
  constructor
  · rintro ⟨child, hstarts, hfinishes, hline⟩
    exact ⟨_, ⟨child, hstarts, hfinishes, rfl⟩, by simpa [Child.result, hcapture] using hline⟩
  · rintro ⟨_, ⟨child, hstarts, hfinishes, rfl⟩, hline⟩
    exact ⟨child, hstarts, hfinishes, by simpa [Child.result, hcapture] using hline⟩

/-! ### Output in ASCII -/

/-- What is printed in ASCII is read as it is. -/
theorem decode_ascii {cs : List Char} (h : ∀ c ∈ cs, c.toNat < 0x80) :
    decode (cs.map fun c => UInt8.ofNat c.toNat) = String.ofList cs := by
  have hbyte : ∀ c ∈ cs, (UInt8.ofNat c.toNat).toNat = c.toNat := fun c hc =>
    UInt8.toNat_ofNat_of_lt' (Nat.lt_trans (h c hc) (by decide))
  have hascii : ∀ b ∈ cs.map fun c => UInt8.ofNat c.toNat, b < 0x80 := by
    simp only [List.mem_map, forall_exists_index, and_imp, forall_apply_eq_imp_iff₂]
    intro c hc
    rw [UInt8.lt_iff_toNat_lt, hbyte c hc]
    exact h c hc
  have hsame : ∀ c ∈ cs, Char.ofNat (UInt8.ofNat c.toNat).toNat = c := by
    intro c hc
    rw [hbyte c hc, Char.ofNat_toNat]
  rw [decode, Text.Utf8.lossy_ascii hascii, List.map_map]
  exact congrArg String.ofList ((List.map_congr_left hsame).trans (List.map_id cs))

end ProjectLint.Execution
