import ProjectLint.Proofs.Config.Result

/-!
# Files that are no layers

A file is a layer if it can be opened, its bytes are a text, the text is a document, the document is
empty or a mapping whose scalars have values, all variables to which it refers can be looked up, and
all mistakes in the mapping can be told. Otherwise there is a first thing that is wrong with it.

## Main definitions

* `Config.HasText`: a file can be opened and its bytes are a text.
* `Config.Spoiled`: what is wrong with a file.
* `Config.Unforeseen`: the faults that loading does not expect of a file.

## Main results

* `usable_eq_error_iff`: a file is no layer exactly when something is wrong with it.
-/

namespace ProjectLint.Config

/-- A file can be opened and its bytes are a text. Line breaks are read as line feeds. -/
def HasText (w : World) (path : String) (text : List Char) : Prop :=
  ∃ bytes cs, w.read path = .ok bytes ∧ Text.Utf8.strict bytes = .ok cs ∧ normalizeBreaks cs = text

/-- What is wrong with a file that is no layer. -/
inductive Spoiled (w : World) (path : String) : LoadFault → Prop
  /-- It cannot be opened. -/
  | unopened {f : FileFault} (h : w.read path = .error f) : Spoiled w path (.file f)
  /-- Its bytes are no text. -/
  | undecodable {bytes : List UInt8} {f : Text.Utf8.Fault} (h : w.read path = .ok bytes)
    (hf : Text.Utf8.strict bytes = .error f) : Spoiled w path (.undecodable f)
  /-- Its text is no document, or a scalar of the document has no value. -/
  | unread {text : List Char} {f : Yaml.Fault} (h : HasText w path text)
    (hf : Yaml.read text = .error f) : Spoiled w path (.yaml f)
  /-- Its document holds something else than a mapping. -/
  | notMapping {text : List Char} {data : Yaml.Data} (h : HasText w path text)
    (hdata : Yaml.read text = .ok data) (hnull : data.isNull = false)
    (hmapping : data.isMapping = false) :
    Spoiled w path (.notMapping (data.typeName data.root))
  /-- Its mapping holds itself. -/
  | endless {text : List Char} {data : Yaml.Data} {f : Yaml.Fault} (h : HasText w path text)
    (hdata : Yaml.read text = .ok data) (hmapping : data.isMapping = true)
    (hf : data.value = .error f) : Spoiled w path (.yaml f)
  /-- A reference in its mapping has a name that cannot be handed to the system, and it is the first
  one of this kind. -/
  | unencodable {es : Entries} {before after : List Reference} {r : Reference}
    {f : Text.Letter.EncodeFault} (h : fileEntries w path = .ok es)
    (hreferences : (Value.map es).references = before ++ r :: after)
    (hbefore : ∀ r' ∈ before, r'.Encodable) (hf : Text.Letter.encode r.name = .error f) :
    Spoiled w path (.unencodable f)
  /-- A mistake in its mapping cannot be told. -/
  | unchecked {es : Entries} {f : CheckFault} (h : expanded w path = .ok es)
    (hf : warnings path (.map es) = .error f) : Spoiled w path (.unchecked f)

/-- A fault that loading does not expect of a file: its bytes are no text, a scalar of it has no
value, a variable cannot be looked up, or one of its keys cannot be told. -/
inductive Unforeseen : LoadFault → Prop
  | undecodable (f : Text.Utf8.Fault) : Unforeseen (.undecodable f)
  | unencodable (f : Text.Letter.EncodeFault) : Unforeseen (.unencodable f)
  | valueless {f : Yaml.Fault} (h : f ≠ .malformed) : Unforeseen (.yaml f)
  | unchecked (f : CheckFault) : Unforeseen (.unchecked f)

variable {w : World} {path : String} {e : LoadFault}

/-- What is written in a file is what is expanded. -/
theorem expanded_eq_error_iff : expanded w path = .error e ↔ fileEntries w path = .error e ∨
    ∃ es f, fileEntries w path = .ok es ∧
      (Entries.expand w.environment es).run.value = .error f ∧ .unencodable f = e := by
  rw [expanded, value_readEntries, bind_eq_error_iff]
  simp only [mapError_eq_error_iff, exists_and_left]

theorem fileEntries_of_hasText {text : List Char} (h : HasText w path text) :
    fileEntries w path = documentEntries text := by
  obtain ⟨bytes, cs, hbytes, hcs, rfl⟩ := h
  rw [fileEntries, hbytes]
  simp only [Except.mapError, bind, Except.bind, hcs]

theorem isNull_of_isMapping {data : Yaml.Data} (h : data.isMapping = true) :
    data.isNull = false := by
  rw [Yaml.Data.isMapping] at h
  rw [Yaml.Data.isNull]
  split at h
  · cases h
  · next id hroot => rw [hroot]

theorem documentEntries_of_unread {text : List Char} {f : Yaml.Fault}
    (h : Yaml.read text = .error f) : documentEntries text = .error (.yaml f) := by
  rw [documentEntries, h]
  rfl

theorem documentEntries_of_read {text : List Char} {data : Yaml.Data}
    (h : Yaml.read text = .ok data) :
    documentEntries text =
      if data.isNull then .ok []
      else if data.isMapping then (data.value.mapError LoadFault.yaml).map Value.entries
      else .error (.notMapping (data.typeName data.root)) := by
  rw [documentEntries, h]
  rfl

theorem documentEntries_eq_error_iff {text : List Char} :
    documentEntries text = .error e ↔ (∃ f, Yaml.read text = .error f ∧ .yaml f = e) ∨
      ∃ data, Yaml.read text = .ok data ∧ data.isNull = false ∧
        ((data.isMapping = false ∧ .notMapping (data.typeName data.root) = e) ∨
          data.isMapping = true ∧ ∃ f, data.value = .error f ∧ .yaml f = e) := by
  cases hread : Yaml.read text with
  | error f => simp [documentEntries_of_unread hread]
  | ok data =>
    rw [documentEntries_of_read hread]
    cases hnull : data.isNull with
    | true => simp [hnull]
    | false =>
      cases hmapping : data.isMapping with
      | false => simp [hnull, hmapping]
      | true =>
        cases hvalue : data.value <;> simp [hnull, hmapping, hvalue, Except.mapError, Except.map]

namespace Spoiled

/-- Something is wrong with a file that has no entries. -/
theorem of_fileEntries (h : fileEntries w path = .error e) : Spoiled w path e := by
  rw [fileEntries, bind_eq_error_iff] at h
  rcases h with h | ⟨bytes, hbytes, h⟩
  · obtain ⟨f, hf, rfl⟩ := mapError_eq_error_iff.mp h
    exact .unopened hf
  · have hbytes := mapError_eq_ok_iff.mp hbytes
    rcases bind_eq_error_iff.mp h with h | ⟨cs, hcs, h⟩
    · obtain ⟨f, hf, rfl⟩ := mapError_eq_error_iff.mp h
      exact .undecodable hbytes hf
    · have htext : HasText w path (normalizeBreaks cs) :=
        ⟨bytes, cs, hbytes, mapError_eq_ok_iff.mp hcs, rfl⟩
      rcases documentEntries_eq_error_iff.mp h with ⟨f, hf, rfl⟩ | ⟨data, hdata, hnull, h⟩
      · exact .unread htext hf
      · rcases h with ⟨hmapping, rfl⟩ | ⟨hmapping, f, hf, rfl⟩
        · exact .notMapping htext hdata hnull hmapping
        · exact .endless htext hdata hmapping hf

/-- Something is wrong with a file whose references cannot all be replaced. -/
theorem of_expanded (h : expanded w path = .error e) : Spoiled w path e := by
  rcases expanded_eq_error_iff.mp h with h | ⟨es, f, hes, hf, rfl⟩
  · exact of_fileEntries h
  · obtain ⟨before, r, after, hreferences, hbefore, hr⟩ :=
      (Entries.value_expand_eq_error_iff _).mp hf
    exact .unencodable hes hreferences hbefore hr

/-- A file with which something is wrong is no layer. -/
theorem usable_eq (h : Spoiled w path e) : usable w path = .error e := by
  have hexpanded (h : fileEntries w path = .error e) : usable w path = .error e :=
    usable_eq_error_of_expanded (expanded_eq_error_iff.mpr (.inl h))
  cases h with
  | unopened h =>
    refine hexpanded ?_
    rw [fileEntries, h]
    rfl
  | undecodable h hf =>
    refine hexpanded ?_
    rw [fileEntries, h]
    simp only [Except.mapError, bind, Except.bind, hf]
  | unread h hf =>
    refine hexpanded ((fileEntries_of_hasText h).trans ?_)
    exact documentEntries_of_unread hf
  | notMapping h hdata hnull hmapping =>
    refine hexpanded ((fileEntries_of_hasText h).trans ?_)
    exact documentEntries_eq_error_iff.mpr (Or.inr ⟨_, hdata, hnull, Or.inl ⟨hmapping, rfl⟩⟩)
  | endless h hdata hmapping hf =>
    refine hexpanded ((fileEntries_of_hasText h).trans ?_)
    exact documentEntries_eq_error_iff.mpr
      (Or.inr ⟨_, hdata, isNull_of_isMapping hmapping, Or.inr ⟨hmapping, _, hf, rfl⟩⟩)
  | unencodable h hreferences hbefore hf =>
    refine usable_eq_error_of_expanded (expanded_eq_error_iff.mpr (.inr ⟨_, _, h, ?_, rfl⟩))
    exact (Entries.value_expand_eq_error_iff _).mpr ⟨_, _, _, hreferences, hbefore, hf⟩
  | unchecked h hf =>
    rw [usable, h]
    simp only [Except.mapError, bind, Except.bind, hf]

end Spoiled

/-- **A file is no layer exactly when something is wrong with it.** -/
theorem usable_eq_error_iff : usable w path = .error e ↔ Spoiled w path e := by
  refine ⟨fun h => ?_, Spoiled.usable_eq⟩
  rcases bind_eq_error_iff.mp h with h | ⟨es, hes, h⟩
  · exact .of_expanded h
  · rcases bind_eq_error_iff.mp h with h | ⟨ws, -, h⟩
    · obtain ⟨f, hf, rfl⟩ := mapError_eq_error_iff.mp h
      exact .unchecked hes hf
    · cases h

end ProjectLint.Config
