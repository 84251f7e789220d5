import ProjectLint.Proofs.Text.Json
import ProjectLint.Report.Json

/-!
# Reading a document of problems

The document of problems, read as JSON, is one object. Its list has an object for every problem, in
order, with the kind, the message and the place of the problem.

## Main definitions

* `Problem.entry`: the object of a problem.
* `problemsDocument`: the object of problems.

## Main results

* `Problem.value?_laidOut`: the characters of a problem are read as its object.
* `read?_problemsJson`: the document of problems is read as their object.
-/

namespace ProjectLint

open Text Text.Json

/-- The object of a place. -/
def Position.entry (p : Position) : Json := .object [("line", .whole p.line), ("ch", .whole p.ch)]

/-- The object of a problem. -/
def Problem.entry (p : Problem) : Json :=
  .object [("type", .text p.type), ("message", .text p.message), ("pos", p.position.entry)]

/-- The object of problems. -/
def problemsDocument (ps : List Problem) : Json :=
  .object [("errors", .list (ps.map Problem.entry))]

/-- The characters of a place's object, in front of a text. -/
def Position.laidOut (p : Position) (rest : List Char) : List Char :=
  ' ' :: '\x7b' ::
    indent 8 (quote "line" (':' :: ' ' :: (Nat.toDigits 10 p.line ++ ',' ::
    indent 8 (quote "ch" (':' :: ' ' :: (Nat.toDigits 10 p.ch ++
    indent 6 ('\x7d' :: rest)))))))

/-- The characters of a problem's object, in front of a text. -/
def Problem.laidOut (p : Problem) (rest : List Char) : List Char :=
  List.replicate 4 ' ' ++ '\x7b' ::
    indent 6 (quote "type" (':' :: ' ' :: quote p.type (',' ::
    indent 6 (quote "message" (':' :: ' ' :: quote p.message (',' ::
    indent 6 (quote "pos" (':' :: p.position.laidOut (indent 4 ('\x7d' :: rest))))))))))

theorem Position.value?_laidOut (p : Position) (fuel : Nat) (rest : List Char) :
    value? (fuel + 4) (p.laidOut rest) = some (p.entry, rest) := by
  refine value?_object rfl ?_
  refine fields?_cons (skip_indent _ _) rfl (value?_whole (skip_toDigits _ _) (by simp)) rfl ?_
  exact fields?_last (skip_indent _ _) rfl (value?_whole (skip_toDigits _ _) (by simp [indent])) rfl

theorem Problem.value?_laidOut (p : Problem) (fuel : Nat) (rest : List Char) :
    value? (fuel + 8) (p.laidOut rest) = some (p.entry, rest) := by
  refine value?_object (skip_replicate 4 _) ?_
  refine fields?_cons (skip_indent _ _) rfl (value?_text rfl) rfl ?_
  refine fields?_cons (skip_indent _ _) rfl (value?_text rfl) rfl ?_
  exact fields?_last (skip_indent _ _) rfl (p.position.value?_laidOut _ _) rfl

theorem Problem.toList_json (p : Problem) (rest : List Char) :
    p.json.toList ++ rest = p.laidOut rest := by
  -- No letter of a field's name is escaped.
  have hname {s : String} (h : s.toList.all (fun c => JsonString.escape c = [c]) = true)
      (rest : List Char) : quote s rest = '"' :: (s.toList ++ '"' :: rest) := by
    have hplain : ∀ c ∈ s.toList, JsonString.escape c = [c] := by simpa using h
    rw [quote, List.flatMap, List.map_congr_left hplain, ← List.flatMap, List.flatMap_singleton']
  have htype := @hname "type" (by decide)
  have hmessage := @hname "message" (by decide)
  have hpos := @hname "pos" (by decide)
  have hline := @hname "line" (by decide)
  have hch := @hname "ch" (by decide)
  simp only [Problem.laidOut, Position.laidOut, htype, hmessage, hpos, hline, hch,
    ← toList_jsonString_append]
  simp [Problem.json, Problem.jsonLines, indent, Nat.toString_eq_repr]

/-- The objects of problems, separated by commas, are read as the items of a list. -/
theorem items?_problems (p : Problem) (ps : List Problem) (fuel : Nat) (rest : List Char) :
    items? (fuel + ps.length + 9)
        ((",\n".intercalate ((p :: ps).map Problem.json)).toList ++ indent 2 (']' :: rest)) =
      some ((p :: ps).map Problem.entry, rest) := by
  have hcomma : ",\n".toList = [',', '\n'] := rfl
  have hskip (cs : List Char) : skip ('\n' :: cs) = skip cs := rfl
  induction ps generalizing p with
  | nil =>
    rw [List.map_singleton, String.intercalate_singleton, p.toList_json]
    exact items?_last (p.value?_laidOut fuel _) (skip_indent _ _)
  | cons q qs ih =>
    rw [List.map_cons, List.map_cons, String.intercalate_cons_cons, String.toList_append,
      String.toList_append, List.append_assoc, List.append_assoc, p.toList_json, hcomma,
      List.cons_append, List.cons_append, List.nil_append]
    refine items?_cons (p.value?_laidOut (fuel + qs.length + 1) _) rfl ?_
    rw [← items?_skip, hskip, items?_skip]
    exact ih q

theorem length_le_length_intercalate (s : String) : ∀ ss : List String,
    ss.length ≤ (",\n".intercalate (s :: ss)).length
  | [] => Nat.zero_le _
  | t :: ts => by
    have ih := length_le_length_intercalate t ts
    rw [String.intercalate_cons_cons, String.length_append, String.length_append, List.length_cons]
    have hcomma : ",\n".length = 2 := rfl
    omega

/-- A document is what its object is, followed by blanks. -/
theorem read?_eq_some {s : String} {v : Json} {rest : List Char} {fuel : Nat}
    (hfuel : fuel ≤ s.length + 1) (hv : ∀ n, value? (n + fuel) s.toList = some (v, rest))
    (hrest : skip rest = []) : Json.read? s = some v := by
  obtain ⟨n, hn⟩ := Nat.exists_eq_add_of_le' hfuel
  simp [Json.read?, hn, hv n, hrest]

/-- **The document of problems is read as their object**, whatever blanks follow. -/
theorem read?_problemsJson (ps : List Problem) (blanks : List Char) (h : skip blanks = []) :
    Json.read? (problemsJson ps ++ String.ofList blanks) = some (problemsDocument ps) := by
  have hname (cs : List Char) : '"' :: ("errors".toList ++ '"' :: cs) = quote "errors" cs := by
    rw [quote]
    congr
  cases ps with
  | nil =>
    have hjson : (problemsJson [] ++ String.ofList blanks).toList =
        '\x7b' :: indent 2 (quote "errors"
          (':' :: ' ' :: '[' :: ']' :: '\n' :: '\x7d' :: blanks)) := by
      rw [problemsJson, if_pos rfl, ← hname]
      simp [indent]
    have hlength : 2 ≤ (problemsJson [] ++ String.ofList blanks).length := by
      rw [← String.length_toList, hjson]
      simp [indent]
    refine read?_eq_some (Nat.succ_le_succ hlength) (fun n => ?_) h
    rw [hjson]
    refine value?_object rfl ?_
    exact fields?_last (skip_indent _ _) rfl (value?_list_nil rfl rfl) rfl
  | cons p ps =>
    have hjson : (problemsJson (p :: ps) ++ String.ofList blanks).toList =
        '\x7b' :: indent 2 (quote "errors" (':' :: ' ' :: '[' :: '\n' ::
          ((",\n".intercalate ((p :: ps).map Problem.json)).toList ++
            indent 2 (']' :: '\n' :: '\x7d' :: blanks)))) := by
      rw [problemsJson, if_neg (List.cons_ne_nil _ _), ← hname]
      simp [indent]
    have hlength : ps.length + 11 ≤ (problemsJson (p :: ps) ++ String.ofList blanks).length := by
      have hitems := length_le_length_intercalate p.json (ps.map Problem.json)
      have hopen : "\x7b\n  \"errors\": [\n".length = 16 := rfl
      rw [List.length_map] at hitems
      rw [problemsJson, if_neg (List.cons_ne_nil _ _), String.length_append, String.length_append,
        String.length_append, hopen, List.map_cons]
      omega
    refine read?_eq_some (Nat.succ_le_succ hlength) (fun n => ?_) h
    rw [hjson]
    refine value?_object rfl ?_
    exact fields?_last (skip_indent _ _) rfl
      (value?_list rfl (items?_problems p ps n ('\n' :: '\x7d' :: blanks))) rfl

end ProjectLint
