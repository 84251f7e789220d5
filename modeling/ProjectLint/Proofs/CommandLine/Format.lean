import ProjectLint.CommandLine.Arguments
import ProjectLint.Proofs.Fallible

/-!
# Command lines that differ in the format

The format of a check is chosen by an option of its own. Two command lines that differ in nothing
but the value of this option ask for the same check, each in its own format.

## Main definitions

* `SameButFormat`: two command lines with the same words but for the values of the format's option.
* `Marked.SameBut`: the same for words whose marks are known.
* `Words.SameBut`: what was given is the same but for the format.

## Main results

* `Grammar.readWords_sameBut`: reading keeps words the same but for the format.
* `Arguments.read_sameBut`: the other command line asks for the same check.
-/

namespace ProjectLint.CommandLine

/-- The spellings of the option that chooses a format. -/
def formatSpellings : List String := ["--f", "--fo", "--for", "--form", "--forma", "--format"]

/-- The option with its value in one word. -/
def joinedFormat (s : String) (f : Format) : String := s ++ "=" ++ f.name

/-- Two command lines with the same words but for the values of the option that chooses a format.
Words after the separator are no options. -/
inductive SameButFormat : List String → List String → Prop
  | nil : SameButFormat [] []
  | cons {word : String} (hword : word ≠ "--") {words words' : List String}
    (h : SameButFormat words words') : SameButFormat (word :: words) (word :: words')
  | separator (words : List String) : SameButFormat ("--" :: words) ("--" :: words)
  | value {s : String} (hs : s ∈ formatSpellings) (f f' : Format) {words words' : List String}
    (h : SameButFormat words words') : SameButFormat (s :: f.name :: words) (s :: f'.name :: words')
  | joined {s : String} (hs : s ∈ formatSpellings) (f f' : Format) {words words' : List String}
    (h : SameButFormat words words') :
    SameButFormat (joinedFormat s f :: words) (joinedFormat s f' :: words')

/-- What the option that chooses a format is marked as: a grammar knows it or not. -/
def formatMark (known : Bool) (attached : Option (List Char)) : Mark :=
  .option (if known then some ⟨formatSwitch, "--format", attached⟩ else none)

/-- Marked words that are the same but for the values of the option that chooses a format. Words
among which there is no option are the same. -/
inductive Marked.SameBut (known : Bool) : List (String × Mark) → List (String × Mark) → Prop
  | rest {ms : List (String × Mark)} (h : Grammar.hasOption ms = false) : SameBut known ms ms
  | cons {word : String} {m : Mark} (hword : word ≠ "--") (hm : m ≠ .separator)
    {ms ms' : List (String × Mark)} (h : SameBut known ms ms') :
    SameBut known ((word, m) :: ms) ((word, m) :: ms')
  | value {s : String} (hs : s ∈ formatSpellings) (f f' : Format) {ms ms' : List (String × Mark)}
    (h : SameBut known ms ms') :
    SameBut known ((s, formatMark known none) :: (f.name, .argument) :: ms)
      ((s, formatMark known none) :: (f'.name, .argument) :: ms')
  | joined {s : String} (hs : s ∈ formatSpellings) (f f' : Format) {ms ms' : List (String × Mark)}
    (h : SameBut known ms ms') :
    SameBut known ((joinedFormat s f, formatMark known (some f.name.toList)) :: ms)
      ((joinedFormat s f', formatMark known (some f'.name.toList)) :: ms')

/-- A grammar knows the option that chooses a format, or does not. -/
structure Grammar.Knows (g : Grammar) (known : Bool) : Prop where
  mark : ∀ s ∈ formatSpellings, g.mark s = .ok (formatMark known none)
  mark_joined : ∀ s ∈ formatSpellings, ∀ f, g.mark (joinedFormat s f) =
    .ok (formatMark known (some (Format.name f).toList))

theorem mainGrammar_knows : mainGrammar.Knows false where
  mark := by decide +kernel
  mark_joined := by
    intro s hs f
    revert s
    cases f <;> decide +kernel

theorem lintGrammar_knows : lintGrammar.Knows true where
  mark := by decide +kernel
  mark_joined := by
    intro s hs f
    revert s
    cases f <;> decide +kernel

variable {g : Grammar} {known : Bool} {words words' : List String} {ms ms' : List (String × Mark)}
  {w w' r : Words}

theorem SameButFormat.refl : ∀ words, SameButFormat words words
  | [] => .nil
  | word :: words => by
    by_cases hword : word = "--"
    · exact hword ▸ .separator words
    · exact .cons hword (refl words)

/-- A word that does not begin with a hyphen stands on both command lines. -/
theorem SameButFormat.of_cons {word : String} (hword : word.toList.head? ≠ some '-')
    (h : SameButFormat (word :: words) words') :
    ∃ rest, words' = word :: rest ∧ SameButFormat words rest := by
  have hspelling : ∀ s ∈ formatSpellings, s.toList.head? = some '-' ∧
      ∀ f, (joinedFormat s f).toList.head? = some '-' := by
    intro s hs
    refine ⟨?_, fun f => ?_⟩
    · revert s
      decide
    · revert s
      cases f <;> decide +kernel
  generalize hall : word :: words = all at h
  cases h with
  | nil => cases hall
  | cons _ h =>
    cases hall
    exact ⟨_, rfl, h⟩
  | separator words =>
    cases hall
    exact absurd rfl hword
  | value hs =>
    cases hall
    exact absurd (hspelling _ hs).1 hword
  | joined hs f =>
    cases hall
    exact absurd ((hspelling _ hs).2 f) hword

theorem SameButFormat.length_eq (h : SameButFormat words words') :
    words.length = words'.length := by
  induction h with
  | nil => rfl
  | cons _ _ ih => simpa using ih
  | separator => rfl
  | value _ _ _ _ ih => simpa using ih
  | joined _ _ _ _ ih => simpa using ih

theorem SameButFormat.eq_nil_iff (h : SameButFormat words words') : words = [] ↔ words' = [] := by
  cases h <;> simp

/-! ### Marks -/

theorem Grammar.mark_ne_separator {word : String} {m : Mark} (h : g.mark word = .ok m) :
    m ≠ .separator := by
  rintro rfl
  simp only [mark] at h
  split at h
  · cases h
  split at h
  · cases h
  split at h
  · cases h
  split at h
  · cases h
  · split at h <;> cases h
  · cases h

theorem Grammar.mark_name (g : Grammar) (f : Format) : g.mark f.name = .ok .argument := by
  cases f <;> simp [mark, Format.name]

theorem Grammar.marks_cons {word : String} (hword : word ≠ "--") (words : List String) :
    g.marks (word :: words) =
      (g.mark word >>= fun m => g.marks words >>= fun ms => .ok ((word, m) :: ms)) := by
  rw [marks, if_neg hword]
  rfl

theorem ne_separator_of_mem {s : String} (hs : s ∈ formatSpellings) : s ≠ "--" := by
  rintro rfl
  revert hs
  decide

theorem joinedFormat_ne_separator {s : String} (hs : s ∈ formatSpellings) (f : Format) :
    joinedFormat s f ≠ "--" := by
  revert s
  cases f <;> decide +kernel

theorem name_ne_separator (f : Format) : f.name ≠ "--" := by
  cases f <;> decide

/-- Words that are the same but for the format are marked in the same way. -/
theorem Grammar.marks_sameBut (hg : g.Knows known) (h : SameButFormat words words') :
    ∀ ms, g.marks words = .ok ms →
      ∃ ms', g.marks words' = .ok ms' ∧ Marked.SameBut known ms ms' := by
  induction h with
  | nil =>
    rintro ms ⟨⟩
    exact ⟨[], rfl, .rest rfl⟩
  | cons hword h ih =>
    intro ms hms
    simp only [marks_cons hword, bind_eq_ok_iff] at hms ⊢
    obtain ⟨m, hm, ms, hms, ⟨⟩⟩ := hms
    obtain ⟨ms', hms', hsame⟩ := ih ms hms
    exact ⟨_, ⟨m, hm, ms', hms', rfl⟩, .cons hword (mark_ne_separator hm) hsame⟩
  | separator words =>
    rintro ms ⟨⟩
    exact ⟨_, rfl, .rest (by simp [hasOption])⟩
  | value hs f f' h ih =>
    intro ms hms
    simp only [marks_cons (ne_separator_of_mem hs), marks_cons (name_ne_separator _), mark_name,
      hg.mark _ hs, bind_eq_ok_iff] at hms ⊢
    obtain ⟨_, ⟨⟩, _, ⟨_, ⟨⟩, ms, hms, ⟨⟩⟩, ⟨⟩⟩ := hms
    obtain ⟨ms', hms', hsame⟩ := ih ms hms
    exact ⟨_, ⟨_, rfl, _, ⟨_, rfl, ms', hms', rfl⟩, rfl⟩, .value hs f f' hsame⟩
  | joined hs f f' h ih =>
    intro ms hms
    simp only [marks_cons (joinedFormat_ne_separator hs _), hg.mark_joined _ hs,
      bind_eq_ok_iff] at hms ⊢
    obtain ⟨_, ⟨⟩, ms, hms, ⟨⟩⟩ := hms
    obtain ⟨ms', hms', hsame⟩ := ih ms hms
    exact ⟨_, ⟨_, rfl, ms', hms', rfl⟩, .joined hs f f' hsame⟩

/-! ### Marked words -/

namespace Marked.SameBut

theorem map_fst (h : SameBut known ms ms') : SameButFormat (ms.map (·.1)) (ms'.map (·.1)) := by
  induction h with
  | rest => exact .refl _
  | cons hword _ _ ih => exact .cons hword ih
  | value hs f f' _ ih => exact .value hs f f' ih
  | joined hs f f' _ ih => exact .joined hs f f' ih

theorem hasOption_eq (h : SameBut known ms ms') :
    Grammar.hasOption ms = Grammar.hasOption ms' := by
  induction h with
  | rest => rfl
  | cons _ _ _ ih =>
    rw [Grammar.hasOption, List.any_cons, ← Grammar.hasOption, ih]
    rfl
  | value => rfl
  | joined => rfl

/-- The separators at the front do not differ. -/
theorem dropWhile_isSeparator (h : SameBut known ms ms') :
    SameBut known (ms.dropWhile Grammar.isSeparator) (ms'.dropWhile Grammar.isSeparator) := by
  cases h with
  | rest hms =>
    refine .rest ?_
    rw [Grammar.hasOption, List.any_eq_false] at hms ⊢
    exact fun m hm => hms m ((List.dropWhile_sublist _).subset hm)
  | cons hword hm h =>
    rw [List.dropWhile_cons_of_neg (by simpa [Grammar.isSeparator] using hm),
      List.dropWhile_cons_of_neg (by simpa [Grammar.isSeparator] using hm)]
    exact .cons hword hm h
  | value hs f f' h => exact .value hs f f' h
  | joined hs f f' h => exact .joined hs f f' h

/-- An argument at the front stands on both command lines. -/
theorem front_cases (h : SameBut known ms ms') :
    (∃ v rest rest', ms = (v, .argument) :: rest ∧ ms' = (v, .argument) :: rest' ∧
      SameBut known rest rest') ∨
    (∀ v rest, ms ≠ (v, .argument) :: rest) ∧ ∀ v rest, ms' ≠ (v, .argument) :: rest := by
  cases h with
  | rest hnone =>
    rcases ms with _ | ⟨⟨v, m⟩, rest⟩
    · exact .inr ⟨by simp, by simp⟩
    · cases m with
      | argument =>
        exact .inl ⟨v, rest, rest, rfl, rfl, .rest (by simpa [Grammar.hasOption] using hnone)⟩
      | separator => exact .inr ⟨by simp, by simp⟩
      | option found => exact .inr ⟨by simp, by simp⟩
  | @cons v m _ _ rest rest' h =>
    cases m with
    | argument => exact .inl ⟨v, rest, rest', rfl, rfl, h⟩
    | separator => exact .inr ⟨by simp, by simp⟩
    | option found => exact .inr ⟨by simp, by simp⟩
  | value => exact .inr ⟨by simp [formatMark], by simp [formatMark]⟩
  | joined => exact .inr ⟨by simp [formatMark], by simp [formatMark]⟩

theorem eq_nil (h : SameBut known [] ms') : ms' = [] := by
  cases h
  rfl

end Marked.SameBut

/-! ### What was given -/

/-- What was given on two command lines is the same but for the format, and there is no word without
a meaning. A command gets the words after its name, and otherwise the arguments are the same. -/
structure Words.SameBut (g : Grammar) (w w' : Words) : Prop where
  flags : w.flags = w'.flags
  values : ∀ field, field ≠ "format" → w.value? field = w'.value? field
  arguments : SameButFormat w.arguments w'.arguments
  arguments_eq : g.shape ≠ .command → w.arguments = w'.arguments
  extras : w.extras = []
  extras' : w'.extras = []

theorem Words.SameBut.empty (g : Grammar) : Words.SameBut g .empty .empty :=
  ⟨rfl, fun _ _ => rfl, .nil, fun _ => rfl, rfl, rfl⟩

theorem Words.value?_cons (w : Words) (name field : String) (v : Given) :
    ({ w with values := (name, v) :: w.values } : Words).value? field =
      if field = name then some v else w.value? field := by
  simp only [value?, List.lookup_cons]
  split <;> simp_all

/-- What was given, and then a format. -/
def Words.withFormat (w : Words) (f : Format) : Words :=
  { w with values := ("format", .text f.name) :: w.values }

theorem Words.SameBut.withFormat (h : Words.SameBut g w w') (f f' : Format) :
    Words.SameBut g (w.withFormat f) (w'.withFormat f') :=
  { h with
    values := fun field hfield => by
      rw [Words.withFormat, Words.withFormat, value?_cons, value?_cons, h.values field hfield]
      simp only [if_neg hfield] }

namespace Grammar

theorem apply_sameBut (hw : Words.SameBut g w w') (o : Switch) (value : Option String)
    (h : g.apply w o value = .ok r) :
    ∃ r', g.apply w' o value = .ok r' ∧ Words.SameBut g r r' := by
  unfold apply at h ⊢
  split at h
  · obtain rfl := Except.ok.inj h
    exact ⟨_, rfl, { hw with flags := congrArg (o.field :: ·) hw.flags }⟩
  · cases h
  · cases h
  · next choices v _ =>
    split at h
    · next hchoice =>
      obtain rfl := Except.ok.inj h
      rw [if_pos hchoice]
      refine ⟨_, rfl, { hw with values := fun field hfield => ?_ }⟩
      rw [Words.value?_cons, Words.value?_cons, hw.values field hfield]
    · cases h

theorem applyAll_sameBut (os : List Switch) {w w' : Words} (hw : Words.SameBut g w w')
    (h : g.applyAll w os = .ok r) : ∃ r', g.applyAll w' os = .ok r' ∧ Words.SameBut g r r' := by
  induction os generalizing w w' with
  | nil =>
    obtain rfl := Except.ok.inj h
    exact ⟨w', rfl, hw⟩
  | cons o os ih =>
    simp only [applyAll, bind_eq_ok_iff] at h ⊢
    obtain ⟨u, hu, h⟩ := h
    obtain ⟨u', hu', hsame⟩ := apply_sameBut hw o none hu
    obtain ⟨r', hr', hr⟩ := ih hsame h
    exact ⟨r', ⟨u', hu', hr'⟩, hr⟩

theorem lastValue_sameBut (hms : Marked.SameBut known ms ms') {o : Switch}
    {attached : Option (List Char)} {value : Option String} {rest : List (String × Mark)}
    (h : g.lastValue o attached ms = .ok (value, rest)) :
    ∃ rest', g.lastValue o attached ms' = .ok (value, rest') ∧ Marked.SameBut known rest rest' := by
  unfold lastValue at h ⊢
  split at h
  · next ho =>
    rw [if_pos ho]
    split at h
    · cases h
      exact ⟨ms', rfl, hms⟩
    · cases h
      cases hms with
      | rest hnone => exact ⟨_, rfl, .rest (by simpa [hasOption] using hnone)⟩
      | cons _ _ hrest => exact ⟨_, rfl, hrest⟩
    · cases h
  · next ho =>
    rw [if_neg ho]
    cases h
    exact ⟨ms', rfl, hms⟩

/-- An option does the same on both command lines. -/
theorem readOption_sameBut (hw : Words.SameBut g w w') (hms : Marked.SameBut known ms ms')
    {m : Match} {rest : List (String × Mark)} (h : g.readOption w m ms = .ok (r, rest)) :
    ∃ r' rest', g.readOption w' m ms' = .ok (r', rest') ∧ Words.SameBut g r r' ∧
      Marked.SameBut known rest rest' := by
  simp only [readOption, bind_eq_ok_iff] at h ⊢
  obtain ⟨⟨flags, last, attached⟩, hoptions, ⟨value, left⟩, hvalue, u, hu, v, hv, ⟨⟩⟩ := h
  obtain ⟨left', hvalue', hleft⟩ := lastValue_sameBut hms hvalue
  obtain ⟨u', hu', husame⟩ := applyAll_sameBut flags hw hu
  obtain ⟨v', hv', hvsame⟩ := apply_sameBut husame last value hv
  exact ⟨v', left', ⟨_, hoptions, _, hvalue', u', hu', v', hv', rfl⟩, hvsame, hleft⟩

/-- The option that chooses a format, with its value. -/
theorem readOption_format (g : Grammar) (w : Words) (f : Format) (ms : List (String × Mark)) :
    g.readOption w ⟨formatSwitch, "--format", none⟩ ((f.name, .argument) :: ms) =
        .ok (w.withFormat f, ms) ∧
      g.readOption w ⟨formatSwitch, "--format", some f.name.toList⟩ ms =
        .ok (w.withFormat f, ms) := by
  have happly : g.apply w formatSwitch (some f.name) = .ok (w.withFormat f) := by
    cases f <;> rfl
  constructor
  · change g.apply w formatSwitch (some f.name) >>= (fun w => .ok (w, ms)) = _
    rw [happly]
    rfl
  · change g.apply w formatSwitch (some (String.ofList f.name.toList)) >>=
      (fun w => .ok (w, ms)) = _
    rw [String.ofList_toList, happly]
    rfl

/-- A word without a meaning is not forgotten. -/
theorem extras_of_apply {o : Switch} {value : Option String} (h : g.apply w o value = .ok r) :
    r.extras = w.extras := by
  unfold apply at h
  split at h
  · cases h; rfl
  · cases h
  · cases h
  · split at h
    · cases h; rfl
    · cases h

theorem extras_of_applyAll {os : List Switch} (h : g.applyAll w os = .ok r) :
    r.extras = w.extras := by
  induction os generalizing w with
  | nil => cases h; rfl
  | cons o os ih =>
    obtain ⟨u, hu, h⟩ := bind_eq_ok_iff.mp h
    exact (ih h).trans (extras_of_apply hu)

theorem extras_of_readOption {m : Match} {rest : List (String × Mark)}
    (h : g.readOption w m ms = .ok (r, rest)) : r.extras = w.extras := by
  simp only [readOption, bind_eq_ok_iff] at h
  obtain ⟨_, -, _, -, u, hu, v, hv, ⟨⟩⟩ := h
  exact (extras_of_apply hv).trans (extras_of_applyAll hu)

theorem extras_readLast (h : (g.readLast w ms).extras = []) : w.extras = [] := by
  unfold readLast at h
  split at h <;> exact (List.append_eq_nil_iff.mp h).1

/-- A word without a meaning is not forgotten. -/
theorem extras_of_readWords {fuel : Nat} (h : g.readWords fuel w ms = .ok r) (hr : r.extras = []) :
    w.extras = [] := by
  induction fuel generalizing w ms with
  | zero =>
    obtain rfl := Except.ok.inj h
    exact extras_readLast hr
  | succ fuel ih =>
    unfold readWords at h
    split at h
    · obtain rfl := Except.ok.inj h
      exact extras_readLast hr
    · split at h
      · split at h
        · exact (List.append_eq_nil_iff.mp (ih h)).1
        · obtain ⟨⟨u, rest⟩, hu, h⟩ := bind_eq_ok_iff.mp h
          exact (extras_of_readOption hu).symm.trans (ih h)
      · split at h
        · have hw := ih h
          exact hw
        · exact (List.append_eq_nil_iff.mp (ih h)).1

/-- An argument is taken on both command lines or on neither, and the words after it are the same
but for the format. -/
theorem takeArguments_cases (hw : Words.SameBut g w w') (hms : Marked.SameBut known ms ms') :
    g.takeArguments w ms = none ∧ g.takeArguments w' ms' = none ∨
      ∃ arguments rest arguments' rest', g.takeArguments w ms = some (arguments, rest) ∧
        g.takeArguments w' ms' = some (arguments', rest') ∧ SameButFormat arguments arguments' ∧
        (g.shape ≠ .command → arguments = arguments') ∧ Marked.SameBut known rest rest' := by
  by_cases hnone : w.arguments = []
  · have hnone' : w'.arguments = [] := hw.arguments.eq_nil_iff.mp hnone
    simp only [takeArguments, hnone, hnone', ne_eq, not_true_eq_false, if_false]
    rcases hms.dropWhile_isSeparator.front_cases with
      ⟨v, rest, rest', hdrop, hdrop', hrest⟩ | ⟨hdrop, hdrop'⟩
    · rw [hdrop, hdrop']
      cases hshape : g.shape with
      | nothing => exact .inl ⟨rfl, rfl⟩
      | single field =>
        exact .inr ⟨_, _, _, _, rfl, rfl, .refl _, fun _ => rfl, hrest.dropWhile_isSeparator⟩
      | command =>
        exact .inr ⟨_, _, _, _, rfl, rfl, hms.map_fst, fun h => absurd rfl h, .rest rfl⟩
    · left
      constructor
      · split
        · next h => exact absurd h (hdrop _ _)
        · next h => exact absurd h (hdrop _ _)
        · rfl
      · split
        · next h => exact absurd h (hdrop' _ _)
        · next h => exact absurd h (hdrop' _ _)
        · rfl
  · have hnone' : w'.arguments ≠ [] := mt hw.arguments.eq_nil_iff.mpr hnone
    simp only [takeArguments, hnone, hnone', ne_eq, not_false_eq_true, if_true]
    exact .inl ⟨trivial, trivial⟩

theorem readLast_sameBut (hw : Words.SameBut g w w') (hms : Marked.SameBut known ms ms')
    (h : (g.readLast w ms).extras = []) :
    Words.SameBut g (g.readLast w ms) (g.readLast w' ms') := by
  rcases takeArguments_cases hw hms with
    ⟨htake, htake'⟩ | ⟨arguments, rest, arguments', rest', htake, htake', hsame, heq, hrest⟩
  · simp only [readLast, htake] at h
    obtain rfl : ms = [] := List.map_eq_nil_iff.mp (List.append_eq_nil_iff.mp h).2
    obtain rfl := hms.eq_nil
    simp only [readLast, htake, htake']
    exact { hw with
      extras := h
      extras' := by rw [hw.extras']; rfl }
  · simp only [readLast, htake] at h
    obtain rfl : rest = [] := List.map_eq_nil_iff.mp (List.append_eq_nil_iff.mp h).2
    obtain rfl := hrest.eq_nil
    simp only [readLast, htake, htake']
    exact { hw with
      arguments := hsame
      arguments_eq := heq
      extras := h
      extras' := by rw [hw.extras']; rfl }

/-- **Reading keeps words the same but for the format.** -/
theorem readWords_sameBut {fuel : Nat} (hw : Words.SameBut g w w')
    (hms : Marked.SameBut known ms ms') (h : g.readWords fuel w ms = .ok r) (hr : r.extras = []) :
    ∃ r', g.readWords fuel w' ms' = .ok r' ∧ Words.SameBut g r r' := by
  -- What was given so far and the words that are left stay the same but for the format. A word
  -- without a meaning would be among the extras at the end, so no step meets one.
  induction fuel generalizing w w' ms ms' with
  | zero =>
    obtain rfl := Except.ok.inj h
    exact ⟨_, rfl, readLast_sameBut hw hms hr⟩
  | succ fuel ih =>
    unfold readWords at h ⊢
    rw [← hms.hasOption_eq]
    split at h
    · next hlast =>
      obtain rfl := Except.ok.inj h
      rw [if_pos hlast]
      exact ⟨_, rfl, readLast_sameBut hw hms hr⟩
    · next hlast =>
      rw [if_neg hlast]
      cases hms with
      | rest hnone => simp [hnone] at hlast
      | @cons word m hword hm ms ms' hms =>
        cases m with
        | separator => exact absurd rfl hm
        | option found =>
          cases found with
          | none => exact absurd (extras_of_readWords h hr) (by simp)
          | some m =>
            obtain ⟨⟨u, rest⟩, hu, h⟩ := bind_eq_ok_iff.mp h
            obtain ⟨u', rest', hu', hsame, hrest⟩ := readOption_sameBut hw hms hu
            obtain ⟨r', hr', hread⟩ := ih hsame hrest h
            exact ⟨r', bind_eq_ok_iff.mpr ⟨_, hu', hr'⟩, hread⟩
        | argument =>
          have hall : Marked.SameBut known ((word, .argument) :: ms) ((word, .argument) :: ms') :=
            .cons hword hm hms
          rcases takeArguments_cases hw hall with
            ⟨htake, -⟩ | ⟨arguments, rest, arguments', rest', htake, htake', hsame, heq, hrest⟩
          · simp only [htake] at h
            exact absurd (extras_of_readWords h hr) (by simp [List.takeWhile_cons, isPlain])
          · simp only [htake] at h
            simp only [htake']
            have htaken : Words.SameBut g { w with arguments := arguments }
                { w' with arguments := arguments' } :=
              { hw with arguments := hsame, arguments_eq := heq }
            exact ih htaken hrest h
      | @value s hs f f' ms ms' hms =>
        cases known with
        | false => exact absurd (extras_of_readWords h hr) (by simp)
        | true =>
          obtain ⟨⟨u, rest⟩, hu, h⟩ := bind_eq_ok_iff.mp h
          obtain ⟨rfl, rfl⟩ := Prod.mk.inj (Except.ok.inj
            ((readOption_format g w f ms).1.symm.trans hu))
          obtain ⟨r', hr', hread⟩ := ih (hw.withFormat f f') hms h
          exact ⟨r', bind_eq_ok_iff.mpr ⟨_, (readOption_format g w' f' ms').1, hr'⟩, hread⟩
      | @joined s hs f f' ms ms' hms =>
        cases known with
        | false => exact absurd (extras_of_readWords h hr) (by simp)
        | true =>
          obtain ⟨⟨u, rest⟩, hu, h⟩ := bind_eq_ok_iff.mp h
          obtain ⟨rfl, rfl⟩ := Prod.mk.inj (Except.ok.inj
            ((readOption_format g w f ms).2.symm.trans hu))
          obtain ⟨r', hr', hread⟩ := ih (hw.withFormat f f') hms h
          exact ⟨r', bind_eq_ok_iff.mpr ⟨_, (readOption_format g w' f' ms').2, hr'⟩, hread⟩

theorem read_sameBut (hg : g.Knows known) (h : SameButFormat words words')
    (hread : g.read words = .ok r) (hr : r.extras = []) :
    ∃ r', g.read words' = .ok r' ∧ Words.SameBut g r r' := by
  simp only [read, bind_eq_ok_iff] at hread ⊢
  obtain ⟨ms, hms, u, hu, hread⟩ := hread
  obtain ⟨ms', hms', hsame⟩ := marks_sameBut hg h ms hms
  have hur : u = r := by
    split at hread
    · split at hread
      · cases hread
      · exact Except.ok.inj hread
    · exact Except.ok.inj hread
  subst hur
  obtain ⟨u', hu', hwords⟩ := readWords_sameBut (.empty g) hsame hu hr
  rw [h.length_eq] at hu'
  refine ⟨u', ⟨ms', hms', u', hu', ?_⟩, hwords⟩
  cases hshape : g.shape with
  | nothing => rfl
  | single field =>
    simp only [hshape] at hread ⊢
    split at hread
    · cases hread
    · next hnone =>
      rw [if_neg (mt hwords.arguments.eq_nil_iff.mpr hnone)]
      rfl
  | command => rfl

end Grammar

/-! ### Commands -/

theorem refuseExtras_eq_ok {extras : List String} (h : refuseExtras extras = .ok ()) :
    extras = [] := by
  rw [refuseExtras] at h
  split at h
  · assumption
  · cases h

theorem verbosityOf_eq (h : w.flags = w'.flags) : verbosityOf w = verbosityOf w' := by
  simp only [verbosityOf, Words.has, h]

/-- The name of a command does not differ, and after it the same check is asked for. -/
theorem Command.read_sameBut {name : String} {project : ProjectOptions} {file : String}
    {format : Option Format} (h : SameButFormat (name :: words) words')
    (hread : Command.read name words = .ok (.lint project file format, [])) :
    ∃ rest format', words' = name :: rest ∧
      Command.read name rest = .ok (.lint project file format', []) := by
  unfold Command.read at hread
  split at hread
  · obtain ⟨w, hw, hread⟩ := bind_eq_ok_iff.mp hread
    obtain ⟨rest, rfl, hrest⟩ := h.of_cons (by decide)
    obtain ⟨⟨rfl, rfl, -⟩, hextras⟩ : (ProjectOptions.ofWords w = project ∧ w.file = file ∧
        w.format = format) ∧ w.extras = [] := by
      simpa [pure, Except.pure] using hread
    obtain ⟨w', hw', hsame⟩ := lintGrammar.read_sameBut lintGrammar_knows hrest hw hextras
    refine ⟨rest, w'.format, rfl, bind_eq_ok_iff.mpr ⟨w', hw', ?_⟩⟩
    have hproject : ProjectOptions.ofWords w' = .ofWords w := by
      simp only [ProjectOptions.ofWords, hsame.values "root" (by decide),
        hsame.values "runtime" (by decide), hsame.values "config" (by decide)]
    have hfile : w'.file = w.file := by
      rw [Words.file, ← hsame.arguments_eq (by decide), ← Words.file]
    rw [hproject, hfile, hsame.extras']
    rfl
  · simp only [bind_eq_ok_iff] at hread
    obtain ⟨w, -, ⟨⟩⟩ := hread
  · simp only [bind_eq_ok_iff] at hread
    obtain ⟨w, -, ⟨⟩⟩ := hread
  · cases hread

/-- **Command lines that differ in the format ask for the same check.** -/
theorem Arguments.read_sameBut {arguments : Arguments} {project : ProjectOptions} {file : String}
    {format : Option Format} (h : SameButFormat words words')
    (hread : Arguments.read words = .ok arguments)
    (hcommand : arguments.command = some (.lint project file format)) :
    ∃ format', Arguments.read words' =
      .ok { arguments with command := some (.lint project file format') } := by
  simp only [Arguments.read, bind_eq_ok_iff] at hread ⊢
  obtain ⟨w, hw, hread⟩ := hread
  rcases hwords : w.arguments with _ | ⟨name, rest⟩
  · simp only [hwords, bind_eq_ok_iff] at hread
    obtain ⟨_, -, ⟨⟩⟩ := hread
    cases hcommand
  · simp only [hwords, bind_eq_ok_iff] at hread
    obtain ⟨⟨command, extras⟩, hcommand', ⟨⟩, hextras, hread⟩ := hread
    cases hread
    obtain rfl : command = .lint project file format := Option.some.inj hcommand
    obtain ⟨hmain, rfl⟩ := List.append_eq_nil_iff.mp (refuseExtras_eq_ok hextras)
    obtain ⟨w', hw', hsame⟩ := mainGrammar.read_sameBut mainGrammar_knows h hw hmain
    have harguments := hsame.arguments
    rw [hwords] at harguments
    obtain ⟨rest', format', hwords', hcommand''⟩ := Command.read_sameBut harguments hcommand'
    refine ⟨format', w', hw', ?_⟩
    have hversion : w'.has "version" = w.has "version" := by
      rw [Words.has, ← hsame.flags, ← Words.has]
    simp only [hwords', hcommand'', bind_eq_ok_iff]
    rw [hsame.extras', hversion, ← verbosityOf_eq hsame.flags]
    exact ⟨_, rfl, (), rfl, rfl⟩

end ProjectLint.CommandLine
