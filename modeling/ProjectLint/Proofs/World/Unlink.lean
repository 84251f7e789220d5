import ProjectLint.World.Basic

/-!
# A world without one of its files

When a regular file is taken away, the only paths that notice are those that lead to it. A path that
goes on behind the file leads nowhere before and after, and the two refusals are the same answer to
every question about the path.

## Main definitions

* `FileSystem.unlink`: the files without the one at a place.
* `World.unlink`: the world without the file to which a path leads.

## Main results

* `FileSystem.walk_unlink`: what becomes of a walk.
* `World.ask_unlink`, `World.contains_unlink_self`: the answers to questions about a path.
* `World.read_unlink`: what can be read from a path that leads elsewhere.
* `World.getLast?_of_place`: a path leads to a place with its own name.
-/

namespace ProjectLint

/-! ### Files -/

namespace FileSystem

/-- The file system without the node at a place. What stands at other places stays. -/
def unlink (fs : FileSystem) (place : Place) : FileSystem :=
  { fs with nodes := fs.nodes.filter fun entry => entry.1 ≠ place }

variable {fs : FileSystem} {place other start : Place} {node : Node} {names : List String}
  {name : String}

@[simp] theorem longestName?_unlink (fs : FileSystem) (place : Place) :
    (fs.unlink place).longestName? = fs.longestName? := rfl

@[simp] theorem longestPath?_unlink (fs : FileSystem) (place : Place) :
    (fs.unlink place).longestPath? = fs.longestPath? := rfl

theorem node?_unlink_self (h : place ≠ []) : (fs.unlink place).node? place = none := by
  rw [unlink, node?.eq_2 _ _ h, List.lookup_eq_none_iff]
  intro entry hentry
  have hne : entry.1 ≠ place := by simpa using (List.mem_filter.mp hentry).2
  simpa using hne.symm

theorem node?_unlink_of_ne (h : other ≠ place) :
    (fs.unlink place).node? other = fs.node? other := by
  by_cases hroot : other = []
  · rw [hroot, node?_nil, node?_nil]
  · rw [node?.eq_2 _ _ hroot, node?.eq_2 _ _ hroot, unlink]
    induction fs.nodes with
    | nil => rfl
    | cons entry nodes ih =>
      by_cases hentry : entry.1 = place
      · have hother : (other == entry.1) = false := by simpa [hentry] using h
        rw [List.filter_cons_of_neg (by simpa using hentry), List.lookup_cons, hother, ih]
      · rw [List.filter_cons_of_pos (by simpa using hentry), List.lookup_cons, List.lookup_cons, ih]

/-- The root is a directory, so a regular file stands elsewhere. -/
theorem ne_nil_of_isRegular (h : fs.node? place = some node) (hnode : node.isRegular = true) :
    place ≠ [] := by
  rintro rfl
  obtain rfl : Node.directory = node := by simpa using h
  simp [Node.isRegular] at hnode

/-- A walk goes the same way without a file, unless it comes to the file: then it finds nothing,
where it led to the file before or could not go on behind it. -/
theorem walk_unlink (h : fs.node? place = some node) (hnode : node.isRegular = true)
    (names : List String) (start : Place) :
    (fs.unlink place).walk start names = fs.walk start names ∨
      (fs.unlink place).walk start names = .error .notFound ∧
        (fs.walk start names = .ok place ∨ fs.walk start names = .error .notDirectory) := by
  have hgone : (fs.unlink place).node? place = none :=
    node?_unlink_self (ne_nil_of_isRegular h hnode)
  have hstop (name : String) (names : List String) :
      fs.walk place (name :: names) = .error .notDirectory := by
    cases node <;> simp_all [walk, Node.isRegular]
  induction names generalizing start with
  | nil => exact Or.inl rfl
  | cons name names ih =>
    by_cases hstart : start = place
    · subst hstart
      refine Or.inr ⟨?_, Or.inr (hstop name names)⟩
      rw [walk, hgone]
    · rw [walk, walk, node?_unlink_of_ne hstart]
      cases hhere : fs.node? start with
      | none => exact Or.inl rfl
      | some here =>
        cases here with
        | directory =>
          dsimp only
          split
          · exact ih start
          · split
            · exact ih start.dropLast
            · rw [longestName?_unlink]
              split
              · exact Or.inl rfl
              · by_cases hnext : start ++ [name] = place
                · rw [hnext, hgone, h]
                  refine Or.inr ⟨rfl, ?_⟩
                  cases names with
                  | nil => cases node <;> simp_all [Node.isRegular]
                  | cons next names =>
                    have hnext := hstop next names
                    cases node <;> simp_all [Node.isRegular]
                · rw [node?_unlink_of_ne hnext]
                  cases fs.node? (start ++ [name]) with
                  | none => exact Or.inl rfl
                  | some next =>
                    cases next with
                    | denied => exact Or.inl rfl
                    | _ => exact ih (start ++ [name])
        | _ => exact Or.inl rfl

/-- A walk whose last step goes to a name ends at a place of this name. -/
theorem getLast?_of_walk (hname : name ∉ ["", ".", ".."])
    (h : fs.walk start (names ++ [name]) = .ok place) : place.getLast? = some name := by
  induction names generalizing start with
  | nil =>
    simp only [List.mem_cons, List.not_mem_nil, or_false, not_or] at hname
    simp only [List.nil_append, walk, hname.1, hname.2.1, hname.2.2, or_self, if_false] at h
    split at h
    · cases h
    · cases h
    · split at h
      · cases h
      · split at h
        · cases h
        · cases h
        · obtain rfl : start ++ [name] = place := by simpa using h
          exact List.getLast?_concat
    · cases h
  | cons first names ih =>
    rw [List.cons_append, walk] at h
    split at h
    · cases h
    · cases h
    · split at h
      · exact ih h
      · split at h
        · exact ih h
        · split at h
          · cases h
          · split at h
            · cases h
            · cases h
            · exact ih h
    · cases h

end FileSystem

/-! ### Worlds -/

namespace World

/-- The world without the file to which a path leads. -/
def unlink (w : World) (path : String) : World :=
  match w.place path with
  | .ok place => { w with files := w.files.unlink place }
  | .error _ => w

variable {w : World} {path file : String} {place : Place}

@[simp] theorem environment_unlink (w : World) (path : String) :
    (w.unlink path).environment = w.environment := by
  rw [unlink]
  split <;> rfl

@[simp] theorem userDirectory?_unlink (w : World) (path : String) :
    (w.unlink path).files.userDirectory? = w.files.userDirectory? := by
  rw [unlink]
  split <;> rfl

@[simp] theorem start_unlink (w : World) (file path : String) :
    (w.unlink file).start path = w.start path := by
  rw [unlink]
  split <;> rfl

/-- A regular file stands at a place to which its path leads. -/
theorem exists_place_of_isFile (h : w.isFile path = .ok true) :
    ∃ place node, w.place path = .ok place ∧ w.files.node? place = some node ∧
      w.status path = .ok node ∧ node.isRegular = true := by
  have hstatus : ∃ node, w.status path = .ok node ∧ node.isRegular = true := by
    rw [isFile, ask] at h
    split at h
    · next node hnode => exact ⟨node, hnode, by simpa using h⟩
    · simp at h
    · split at h <;> simp at h
  obtain ⟨node, hstatus, hregular⟩ := hstatus
  have hfound := hstatus
  rw [status] at hfound
  split at hfound
  · cases hfound
  · split at hfound
    · cases hfound
    · next place hplace =>
      split at hfound
      · cases hfound
      · cases hfound
      · next other _ hother =>
        obtain rfl : other = node := by simpa using hfound
        exact ⟨place, other, hplace, hother, hstatus, hregular⟩

/-- Paths that lead to the same regular file find the same node. -/
theorem status_of_place_eq (hfile : w.isFile file = .ok true) (hnul : '\x00' ∉ path.toList)
    (h : w.place path = w.place file) : w.status path = w.status file := by
  obtain ⟨place, node, hplace, hnode, hstatus, hregular⟩ := exists_place_of_isFile hfile
  rw [hstatus, status, if_neg hnul, h, hplace]
  cases node <;> simp_all [Node.isRegular]

theorem contains_of_isFile (h : w.isFile path = .ok true) : w.contains path = .ok true := by
  obtain ⟨-, node, -, -, hstatus, -⟩ := exists_place_of_isFile h
  rw [contains, ask, hstatus]

theorem status_of_place_eq_error {cause : SystemError.Cause} (hnul : '\x00' ∉ path.toList)
    (h : w.place path = .error cause) : w.status path = .error (.refused ⟨cause, path⟩) := by
  rw [status, if_neg hnul, h]

theorem status_of_node?_eq_none (hnul : '\x00' ∉ path.toList) (h : w.place path = .ok place)
    (hnode : w.files.node? place = none) :
    w.status path = .error (.refused ⟨.notFound, path⟩) := by
  rw [status, if_neg hnul, h]
  simp only [hnode]

/-- A path leads to the same place without a file, unless it comes to the file. -/
theorem place_unlink {node : Node} (hplace : w.place file = .ok place)
    (hnode : w.files.node? place = some node) (hregular : node.isRegular = true) (path : String) :
    (w.unlink file).place path = w.place path ∨
      (w.unlink file).place path = .error .notFound ∧
        (w.place path = .ok place ∨ w.place path = .error .notDirectory) := by
  have hfiles : (w.unlink file).files = w.files.unlink place := by
    rw [unlink, hplace]
  rw [World.place, World.place, start_unlink, hfiles, FileSystem.longestPath?_unlink]
  split
  · exact Or.inl rfl
  · split
    · exact Or.inl rfl
    · exact FileSystem.walk_unlink hnode hregular _ _

/-- A path that leads to the file finds nothing without it. -/
theorem status_unlink_self (hfile : w.isFile file = .ok true) (hnul : '\x00' ∉ path.toList)
    (h : w.place path = w.place file) :
    (w.unlink file).status path = .error (.refused ⟨.notFound, path⟩) := by
  obtain ⟨place, node, hplace, hnode, -, hregular⟩ := exists_place_of_isFile hfile
  rcases place_unlink hplace hnode hregular path with hsame | ⟨hgone, -⟩
  · refine status_of_node?_eq_none hnul (hsame.trans (h.trans hplace)) ?_
    rw [unlink, hplace]
    exact FileSystem.node?_unlink_self (FileSystem.ne_nil_of_isRegular hnode hregular)
  · exact status_of_place_eq_error hnul hgone

/-- Any other path finds without the file what it found with it, or as little: what it sought behind
the file is refused in another way. -/
theorem status_unlink_of_ne (hfile : w.isFile file = .ok true) (h : w.place path ≠ w.place file) :
    (w.unlink file).status path = w.status path ∨
      (w.unlink file).status path = .error (.refused ⟨.notFound, path⟩) ∧
        w.status path = .error (.refused ⟨.notDirectory, path⟩) := by
  by_cases hnul : '\x00' ∈ path.toList
  · left
    rw [status, status, if_pos hnul, if_pos hnul]
  · obtain ⟨place, node, hplace, hnode, -, hregular⟩ := exists_place_of_isFile hfile
    have hfiles : (w.unlink file).files = w.files.unlink place := by
      rw [unlink, hplace]
    rcases place_unlink hplace hnode hregular path with hsame | ⟨hgone, hpath | hpath⟩
    · left
      rw [status, status, if_neg hnul, if_neg hnul, hsame]
      cases hpath : w.place path with
      | error cause => rfl
      | ok other =>
        have hother : other ≠ place := by
          rintro rfl
          exact h (hpath.trans hplace.symm)
        simp only [hfiles, FileSystem.node?_unlink_of_ne hother]
    · exact absurd (hpath.trans hplace.symm) h
    · exact Or.inr ⟨status_of_place_eq_error hnul hgone, status_of_place_eq_error hnul hpath⟩

/-- Questions about a path that leads elsewhere have the same answers without the file. -/
theorem ask_unlink (hfile : w.isFile file = .ok true) (h : w.place path ≠ w.place file)
    (question : Node → Bool) : (w.unlink file).ask question path = w.ask question path := by
  rw [ask, ask]
  rcases status_unlink_of_ne hfile h with hsame | ⟨hgone, hbehind⟩
  · rw [hsame]
  · simp [hgone, hbehind]

/-- Without the file a path to it leads nowhere. -/
theorem contains_unlink_self (hfile : w.isFile file = .ok true) (h : w.place path = w.place file) :
    (w.unlink file).contains path = .ok false := by
  rw [contains, ask]
  by_cases hnul : '\x00' ∈ path.toList
  · rw [status, if_pos hnul]
  · simp [status_unlink_self hfile hnul h]

theorem isFile_unlink_self (hfile : w.isFile file = .ok true) :
    (w.unlink file).isFile file = .ok false := by
  obtain ⟨-, node, -, -, hstatus, -⟩ := exists_place_of_isFile hfile
  have hnul : '\x00' ∉ file.toList := by
    intro hnul
    rw [status, if_pos hnul] at hstatus
    cases hstatus
  rw [isFile, ask]
  simp [status_unlink_self hfile hnul rfl]

theorem exists_status_of_contains (h : w.contains path = .ok true) :
    ∃ node, w.status path = .ok node := by
  rw [contains, ask] at h
  split at h
  · next node hnode => exact ⟨node, hnode⟩
  · simp at h
  · split at h <;> simp at h

/-- What a path leads to can be read without the file as it can be read with it. -/
theorem read_unlink (hfile : w.isFile file = .ok true) (h : w.place path ≠ w.place file)
    (hpath : w.contains path = .ok true) : (w.unlink file).read path = w.read path := by
  obtain ⟨node, hnode⟩ := exists_status_of_contains hpath
  rcases status_unlink_of_ne hfile h with hsame | ⟨-, hbehind⟩
  · rw [read, read, hsame]
  · simp [hnode] at hbehind

/-! ### Names -/

/-- The last name of a text that goes on with a name, at the front or behind a slash. -/
theorem exists_names_append {before name : String} (hname : '/' ∉ name.toList)
    (hbefore : before = "" ∨ ∃ directory : String, before = directory ++ "/") :
    ∃ others, names (before ++ name) = others ++ [name] := by
  rcases hbefore with rfl | ⟨directory, rfl⟩
  · exact ⟨[], by simp [names, List.splitOn_eq_singleton hname]⟩
  · refine ⟨names directory, ?_⟩
    have hcut : (directory ++ "/" ++ name).toList.splitOn '/' =
        directory.toList.splitOn '/' ++ name.toList.splitOn '/' := by
      rw [String.toList_append, String.toList_append, List.append_assoc]
      exact List.splitOnP_append_cons _ _ (beq_self_eq_true '/')
    rw [names, hcut, List.splitOn_eq_singleton hname, List.map_append, names]
    simp

/-- The text of a path ends with the name of its last part. -/
theorem exists_names_text_concat (anchor : Anchor) (parts : List String) {name : String}
    (hname : '/' ∉ name.toList) :
    ∃ others, names (Path.text ⟨anchor, parts ++ [name]⟩) = others ++ [name] := by
  have hjoined : ∃ before, "/".intercalate (parts ++ [name]) = before ++ name ∧
      (before = "" ∨ ∃ directory : String, before = directory ++ "/") := by
    induction parts with
    | nil => exact ⟨"", by simp, Or.inl rfl⟩
    | cons part parts ih =>
      obtain ⟨before, hbefore, hends⟩ := ih
      obtain ⟨next, rest, hrest⟩ := List.exists_cons_of_ne_nil (l := parts ++ [name]) (by simp)
      refine ⟨part ++ "/" ++ before, ?_, Or.inr ?_⟩
      · rw [List.cons_append, hrest, String.intercalate_cons_cons, ← hrest, hbefore,
          ← String.append_assoc]
      · rcases hends with rfl | ⟨directory, rfl⟩
        · exact ⟨part, by simp⟩
        · exact ⟨part ++ "/" ++ directory, by simp [String.append_assoc]⟩
  obtain ⟨before, hbefore, hends⟩ := hjoined
  rw [Path.text, if_neg (by simp), hbefore, ← String.append_assoc]
  refine exists_names_append hname ?_
  rcases hends with rfl | ⟨directory, rfl⟩
  · cases anchor with
    | relative => exact Or.inl rfl
    | root => exact Or.inr ⟨"", rfl⟩
    | doubleRoot => exact Or.inr ⟨"/", rfl⟩
  · exact Or.inr ⟨anchor.text ++ directory, by rw [String.append_assoc]⟩

/-- A path whose last part is a name leads to a place of this name. -/
theorem getLast?_of_place {w : World} {anchor : Anchor} {parts : List String} {name : String}
    {place : Place} (hname : name ∉ ["", ".", ".."]) (hslash : '/' ∉ name.toList)
    (h : w.place (Path.text ⟨anchor, parts ++ [name]⟩) = .ok place) :
    place.getLast? = some name := by
  obtain ⟨others, hothers⟩ := exists_names_text_concat anchor parts hslash
  rw [World.place, hothers] at h
  split at h
  · cases h
  · split at h
    · cases h
    · exact FileSystem.getLast?_of_walk hname h

end World

end ProjectLint
