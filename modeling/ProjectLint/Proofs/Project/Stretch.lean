import Mathlib.Data.List.Basic
import Mathlib.Order.Defs.Unbundled
import ProjectLint.Proofs.Project.JoinedPath

/-!
# The entries of a value as stretches of its text

The entries of a value are the stretches of its text without the separator that cannot be made
longer, in the order in which they stand there. Such a stretch is not empty, and on both of its
sides there is the separator or an end of the text.

## Main definitions

* `Stretch`: a part of a text, with what stands before it and after it.
* `Stretch.IsFree`: a stretch that is not empty and holds no separator.
* `Stretch.Lists`: all the longest stretches of a text from some place on.

## Main results

* `maximal_isFree_iff`: the longest stretches are those between separators.
* `exists_lists_splitOn`: the pieces of a text that are not empty are its longest stretches.
* `split_and_join_inverse`: cutting and joining undo each other on entries.
-/

namespace ProjectLint.Text

/-- A stretch of a text: what stands before it, itself, and what stands after it. -/
@[ext]
structure Stretch where
  front : List Char
  body : List Char
  back : List Char

namespace Stretch

/-- A stretch is within another one if it begins no earlier and ends no later. -/
instance : LE Stretch := ⟨fun s t => t.front <+: s.front ∧ t.back <:+ s.back⟩

/-- A stretch of a given text that is not empty and holds no separator. -/
structure IsFree (c : Char) (cs : List Char) (s : Stretch) : Prop where
  text_eq : s.front ++ s.body ++ s.back = cs
  body_ne_nil : s.body ≠ []
  notMem_body : c ∉ s.body

/-- A stretch that begins and ends at a separator or at an end of the text. -/
structure IsBounded (c : Char) (s : Stretch) : Prop where
  last_front : ∀ a ∈ s.front.getLast?, a = c
  head_back : ∀ a ∈ s.back.head?, a = c

variable {c : Char} {cs front piece back : List Char} {s : Stretch}

theorem eq_nil_of_last (hlast : ∀ a ∈ (front ++ piece).getLast?, a = c) (hfree : c ∉ piece) :
    piece = [] := by
  rcases List.eq_nil_or_concat' piece with rfl | ⟨piece, a, rfl⟩
  · rfl
  · obtain rfl : a = c := hlast a (by simp [← List.append_assoc])
    simp at hfree

theorem eq_nil_of_head (hhead : ∀ a ∈ (piece ++ back).head?, a = c) (hfree : c ∉ piece) :
    piece = [] := by
  cases piece with
  | nil => rfl
  | cons a piece =>
    obtain rfl : a = c := hhead a (by simp)
    simp at hfree

/-- A longest stretch cannot be made longer on either side. -/
theorem isBounded_of_maximal (h : Maximal (IsFree c cs) s) : s.IsBounded c := by
  obtain ⟨htext, hne, hfree⟩ := h.1
  constructor
  · intro a ha
    by_contra hac
    obtain ⟨front, hfront⟩ := List.getLast?_eq_some_iff.mp ha
    have hlonger : IsFree c cs ⟨front, a :: s.body, s.back⟩ :=
      ⟨by simpa [hfront] using htext, by simp, by simp [Ne.symm hac, hfree]⟩
    have hwithin : s.front <+: front := (h.2 hlonger ⟨⟨[a], hfront.symm⟩, List.suffix_rfl⟩).1
    exact absurd hwithin.length_le (by simp [hfront])
  · intro a ha
    by_contra hac
    obtain ⟨back, hback⟩ := List.head?_eq_some_iff.mp ha
    have hlonger : IsFree c cs ⟨s.front, s.body ++ [a], back⟩ :=
      ⟨by simpa [hback] using htext, by simp, by simp [Ne.symm hac, hfree]⟩
    have hwithin : s.back <:+ back := (h.2 hlonger ⟨List.prefix_rfl, ⟨[a], hback.symm⟩⟩).2
    exact absurd hwithin.length_le (by simp [hback])

/-- Between separators there is no room for a longer stretch. -/
theorem IsFree.maximal (hs : s.IsFree c cs) (hbounded : s.IsBounded c) :
    Maximal (IsFree c cs) s := by
  refine ⟨hs, fun t ht ⟨hfront, hback⟩ => ?_⟩
  obtain ⟨before, hbefore⟩ := hfront
  obtain ⟨after, hafter⟩ := hback
  have htext : t.front ++ t.body ++ t.back = t.front ++ (before ++ s.body ++ after) ++ t.back := by
    rw [ht.text_eq, ← hs.text_eq, ← hbefore, ← hafter]
    simp
  have hbody : t.body = before ++ s.body ++ after :=
    List.append_cancel_left (List.append_cancel_right htext)
  have hfree := ht.notMem_body
  simp only [hbody, List.mem_append, not_or] at hfree
  obtain rfl : before = [] :=
    eq_nil_of_last (by rw [hbefore]; exact hbounded.last_front) hfree.1.1
  obtain rfl : after = [] :=
    eq_nil_of_head (by rw [hafter]; exact hbounded.head_back) hfree.2
  rw [List.append_nil] at hbefore
  rw [List.nil_append] at hafter
  exact ⟨⟨[], by simp [hbefore]⟩, ⟨[], by simp [hafter]⟩⟩

/-- **The longest stretches are those between separators.** -/
theorem maximal_isFree_iff : Maximal (IsFree c cs) s ↔ s.IsFree c cs ∧ s.IsBounded c :=
  ⟨fun h => ⟨h.1, isBounded_of_maximal h⟩, fun h => h.1.maximal h.2⟩

/-! ### Listing the longest stretches -/

/-- The stretch of a piece that stands between `front` and `back`, if there is something. -/
def ofPiece (front piece back : List Char) : List Stretch :=
  if piece = [] then [] else [⟨front, piece, back⟩]

theorem mem_ofPiece_iff : s ∈ ofPiece front piece back ↔ piece ≠ [] ∧ s = ⟨front, piece, back⟩ := by
  by_cases h : piece = [] <;> simp [ofPiece, h]

theorem map_body_ofPiece (front piece back : List Char) :
    (ofPiece front piece back).map body = [piece].filter (· ≠ []) := by
  by_cases h : piece = [] <;> simp [ofPiece, h]

/-- Where a text goes on with the separator or ends, a stretch without it must end. -/
theorem body_eq_of_append_eq {body rest : List Char} (htext : body ++ rest = piece ++ back)
    (hbody : c ∉ body) (hpiece : c ∉ piece) (hrest : ∀ a ∈ rest.head?, a = c)
    (hback : ∀ a ∈ back.head?, a = c) : body = piece := by
  rcases List.append_eq_append_iff.mp htext with ⟨more, rfl, rfl⟩ | ⟨more, rfl, rfl⟩
  · obtain rfl : more = [] :=
      eq_nil_of_head hrest fun hmore => hpiece (List.mem_append_right _ hmore)
    simp
  · obtain rfl : more = [] :=
      eq_nil_of_head hback fun hmore => hbody (List.mem_append_right _ hmore)
    simp

/-- A longest stretch that begins between `front` and the end of the piece is the whole piece. -/
theorem eq_of_begins (hmax : Maximal (IsFree c (front ++ piece ++ back)) s)
    (hbounded : IsBounded c ⟨front, piece, back⟩) (hfree : c ∉ piece)
    (hle : front.length ≤ s.front.length) (hge : s.front.length ≤ (front ++ piece).length) :
    s = ⟨front, piece, back⟩ := by
  obtain ⟨hs, hends⟩ := maximal_isFree_iff.mp hmax
  have htext : s.front ++ (s.body ++ s.back) = front ++ piece ++ back := by
    simpa using hs.text_eq
  have hwithin : s.front <+: front ++ piece :=
    List.prefix_of_prefix_length_le ⟨_, htext⟩ ⟨back, rfl⟩ hge
  have hprefix : front <+: s.front :=
    List.prefix_of_prefix_length_le ⟨piece, rfl⟩ hwithin hle
  obtain ⟨more, hmore⟩ := hprefix
  have hmorePiece : more <+: piece := by
    rwa [← hmore, List.prefix_append_right_inj] at hwithin
  obtain rfl : more = [] :=
    eq_nil_of_last (by rw [hmore]; exact hends.last_front) fun h => hfree (hmorePiece.subset h)
  rw [List.append_nil] at hmore
  rw [← hmore, List.append_assoc, List.append_cancel_left_eq] at htext
  have hbody : s.body = piece :=
    body_eq_of_append_eq htext hs.notMem_body hfree hends.head_back hbounded.head_back
  rw [hbody, List.append_cancel_left_eq] at htext
  exact Stretch.ext hmore.symm hbody htext

/-- A piece without the separator, between separators or ends, is a longest stretch, and every other
one that does not begin before it begins after it. -/
theorem maximal_and_le_iff (hbounded : IsBounded c ⟨front, piece, back⟩) (hfree : c ∉ piece) :
    Maximal (IsFree c (front ++ piece ++ back)) s ∧ front.length ≤ s.front.length ↔
      s ∈ ofPiece front piece back ∨
        Maximal (IsFree c (front ++ piece ++ back)) s ∧
          (front ++ piece).length < s.front.length := by
  rw [mem_ofPiece_iff]
  constructor
  · rintro ⟨hmax, hle⟩
    rcases Nat.lt_or_ge (front ++ piece).length s.front.length with hlt | hge
    · exact Or.inr ⟨hmax, hlt⟩
    · obtain rfl := eq_of_begins hmax hbounded hfree hle hge
      exact Or.inl ⟨hmax.1.body_ne_nil, rfl⟩
  · rintro (⟨hne, rfl⟩ | ⟨hmax, hlt⟩)
    · exact ⟨maximal_isFree_iff.mpr ⟨⟨rfl, hne, hfree⟩, hbounded⟩, Nat.le_refl _⟩
    · rw [List.length_append] at hlt
      exact ⟨hmax, by omega⟩

/-- The list of all longest stretches of a text that do not begin before a given place, in order. -/
structure Lists (c : Char) (cs : List Char) (start : ℕ) (stretches : List Stretch) : Prop where
  ordered : stretches.Pairwise fun s t => s.front.length < t.front.length
  mem_iff : ∀ s, s ∈ stretches ↔ Maximal (IsFree c cs) s ∧ start ≤ s.front.length

/-- No stretch begins after the end of the text. -/
theorem lists_nil (c : Char) (cs : List Char) : Lists c cs (cs.length + 1) [] := by
  refine ⟨List.Pairwise.nil, fun s => iff_of_false List.not_mem_nil ?_⟩
  rintro ⟨hmax, hstart⟩
  have hfits := congrArg List.length hmax.1.text_eq
  simp only [List.length_append] at hfits
  omega

/-- A piece comes in front of the stretches that begin after it. -/
theorem Lists.ofPiece_append {stretches : List Stretch}
    (h : Lists c (front ++ piece ++ back) ((front ++ piece).length + 1) stretches)
    (hbounded : IsBounded c ⟨front, piece, back⟩) (hfree : c ∉ piece) :
    Lists c (front ++ piece ++ back) front.length (ofPiece front piece back ++ stretches) := by
  have hlater : ∀ s ∈ stretches, front.length < s.front.length := by
    intro s hs
    have hstart := ((h.mem_iff s).mp hs).2
    rw [List.length_append] at hstart
    omega
  constructor
  · unfold ofPiece
    split
    · exact h.ordered
    · exact List.pairwise_cons.mpr ⟨hlater, h.ordered⟩
  · intro s
    rw [List.mem_append, h.mem_iff, maximal_and_le_iff hbounded hfree, Nat.lt_iff_add_one_le]

/-- The pieces that are not empty are the longest stretches of the text in which they are joined,
`front` being what stands before it. -/
theorem exists_lists {pieces : List (List Char)} (hpieces : pieces ≠ [])
    (hfree : ∀ piece ∈ pieces, c ∉ piece) (front : List Char)
    (hfront : ∀ a ∈ front.getLast?, a = c) :
    ∃ stretches : List Stretch,
      stretches.map body = pieces.filter (· ≠ []) ∧
      Lists c (front ++ [c].intercalate pieces) front.length stretches := by
  induction pieces generalizing front with
  | nil => exact absurd rfl hpieces
  | cons piece pieces ih =>
    obtain ⟨hpiece, hrest⟩ := List.forall_mem_cons.mp hfree
    cases pieces with
    | nil =>
      have hbounded : IsBounded c ⟨front, piece, []⟩ := ⟨hfront, by simp⟩
      refine ⟨ofPiece front piece [], map_body_ofPiece _ _ _, ?_⟩
      have hlast : Lists c (front ++ piece ++ []) ((front ++ piece).length + 1) [] := by
        rw [List.append_nil]
        exact lists_nil c (front ++ piece)
      have hlists := hlast.ofPiece_append hbounded hpiece
      rw [List.intercalate_singleton]
      rwa [List.append_nil, List.append_nil] at hlists
    | cons next rest =>
      have hbounded : IsBounded c ⟨front, piece, c :: [c].intercalate (next :: rest)⟩ :=
        ⟨hfront, by simp⟩
      obtain ⟨stretches, hbodies, hlists⟩ :=
        ih (by simp) hrest (front ++ piece ++ [c]) (by simp)
      have hlength : (front ++ piece ++ [c]).length = (front ++ piece).length + 1 :=
        List.length_append
      rw [hlength, List.append_assoc _ [c], List.singleton_append] at hlists
      refine ⟨ofPiece front piece (c :: [c].intercalate (next :: rest)) ++ stretches, ?_, ?_⟩
      · rw [List.map_append, map_body_ofPiece, hbodies, ← List.filter_append, List.singleton_append]
      · rw [List.intercalate_cons_cons, List.append_assoc piece, List.singleton_append,
          ← List.append_assoc]
        exact hlists.ofPiece_append hbounded hpiece

/-- **The pieces of a text that are not empty are its longest stretches**, in order. -/
theorem exists_lists_splitOn (c : Char) (cs : List Char) :
    ∃ stretches : List Stretch,
      stretches.map body = (cs.splitOn c).filter (· ≠ []) ∧ Lists c cs 0 stretches := by
  have hlists := exists_lists (List.splitOn_ne_nil c cs)
    (fun _ => SearchPath.notMem_of_mem_splitOn) [] (by simp)
  rwa [List.nil_append, List.intercalate_splitOn, List.length_nil] at hlists

end Stretch

end ProjectLint.Text

namespace ProjectLint.SearchPath

open Text

/-- A separator of one character cuts every value. -/
theorem split?_singleton (c : Char) (value : Option String) :
    split? (String.singleton c) value = some (split (String.singleton c) value) := by
  unfold split?
  split
  · next hempty =>
    cases value with
    | none => rfl
    | some value =>
      obtain rfl : value = "" := by simpa using hempty
      simp [split_some]
  · rw [if_neg (by simp)]

/-- **Cutting and joining.** Let the separator be one character. Texts are cut from their joined
value as they were if and only if none of them is empty or holds the separator. What any value is
cut into is such a list, namely the longest stretches of the value without the separator, each of
them once and in the order in which they begin. -/
theorem split_and_join_inverse (c : Char) :
    (∀ entries : List String,
      split? (String.singleton c) (some (join (String.singleton c) entries)) = some entries ↔
        ∀ e ∈ entries, e ≠ "" ∧ c ∉ e.toList) ∧
    ∀ value : String, ∃ (entries : List String) (stretches : List Stretch),
      split? (String.singleton c) (some value) = some entries ∧
      split? (String.singleton c) (some (join (String.singleton c) entries)) = some entries ∧
      entries = stretches.map (fun s => String.ofList s.body) ∧
      stretches.Pairwise (fun s t => s.front.length < t.front.length) ∧
      ∀ s, s ∈ stretches ↔ Maximal (Stretch.IsFree c value.toList) s := by
  simp only [split?_singleton, Option.some_inj]
  refine ⟨fun entries => split_join_eq_iff, fun value => ?_⟩
  obtain ⟨stretches, hbodies, hlists⟩ := Stretch.exists_lists_splitOn c value.toList
  refine ⟨split (String.singleton c) (some value), stretches, rfl, ?_, ?_, hlists.ordered,
    fun s => by simp [hlists.mem_iff]⟩
  · exact split_join fun e he => isEntry_of_mem_split he
  · rw [split_some, ← hbodies, List.map_map]
    rfl

end ProjectLint.SearchPath
