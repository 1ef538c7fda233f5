import Mathlib.Data.List.Infix
import Mathlib.Data.List.TakeWhile

/-!
# Greedy patterns

Regular expressions without alternation: a list of pieces, each a repeated
character class that may be captured, matched up to the end of the text. Each
piece takes the longest run that lets the rest match, from left to right, and the
search takes the leftmost start. For such patterns this is the match that
leftmost-longest rules choose, since all matches from one start end with the text.
-/

namespace Foundation.GreedyPattern

set_option autoImplicit false

/-- `test{least,most}`; `most = none` stands for no upper bound. -/
structure Piece where
  test : Char → Bool
  least : Nat
  most : Option Nat
  captured : Bool

namespace Piece

def one (test : Char → Bool) : Piece := { test, least := 1, most := some 1, captured := false }

def literal (text : List Char) : List Piece := text.map fun char => one (· = char)

/-- `.*` -/
def anything : Piece := { test := fun _ => true, least := 0, most := none, captured := false }

def group (test : Char → Bool) (least most : Nat) : Piece :=
  { test, least, most := some most, captured := true }

def allows (piece : Piece) (length : Nat) : Bool :=
  piece.least ≤ length ∧ ∀ most ∈ piece.most, length ≤ most

/-- The characters at the front of a text that the piece could take. -/
def reach (piece : Piece) (text : List Char) : Nat := (text.takeWhile piece.test).length

end Piece

def longest {Result : Type*} (attempt : Nat → Option Result) : Nat → Option Result
  | 0 => attempt 0
  | bound + 1 => (attempt (bound + 1)).or (longest attempt bound)

def matchHere : List Piece → List Char → Option (List (List Char))
  | [], text => if text = [] then some [] else none
  | piece :: pattern, text =>
      longest (fun length =>
        if piece.allows length then
          (matchHere pattern (text.drop length)).map fun groups =>
            if piece.captured then text.take length :: groups else groups
        else none) (piece.reach text)

def search (pattern : List Piece) : List Char → Option (List (List Char))
  | [] => matchHere pattern []
  | char :: rest => (matchHere pattern (char :: rest)).or (search pattern rest)

section Longest

variable {Result : Type*} {attempt : Nat → Option Result} {bound : Nat}

theorem longest_eq_some {length : Nat} {result : Result} (inside : length ≤ bound)
    (here : attempt length = some result)
    (longer : ∀ other, length < other → other ≤ bound → attempt other = none) :
    longest attempt bound = some result := by
  induction bound with
  | zero =>
      obtain rfl := Nat.le_zero.mp inside
      exact here
  | succ bound ih =>
      rw [longest]
      by_cases last : length = bound + 1
      · rw [← last, here, Option.some_or]
      · rw [longer (bound + 1) (by omega) (le_refl _), Option.none_or]
        exact ih (by omega) fun other above below => longer other above (by omega)

theorem longest_eq_none (fails : ∀ length, length ≤ bound → attempt length = none) :
    longest attempt bound = none := by
  induction bound with
  | zero => exact fails 0 (le_refl 0)
  | succ bound ih =>
      rw [longest, fails (bound + 1) (le_refl _), Option.none_or]
      exact ih fun length below => fails length (by omega)

theorem exists_of_longest {result : Result} (found : longest attempt bound = some result) :
    ∃ length, length ≤ bound ∧ attempt length = some result := by
  induction bound with
  | zero => exact ⟨0, le_refl 0, found⟩
  | succ bound ih =>
      rw [longest] at found
      cases here : attempt (bound + 1) with
      | some other =>
          rw [here, Option.some_or] at found
          exact ⟨bound + 1, le_refl _, here.trans found⟩
      | none =>
          rw [here, Option.none_or] at found
          obtain ⟨length, below, shorter⟩ := ih found
          exact ⟨length, by omega, shorter⟩

end Longest

variable {piece : Piece} {pattern : List Piece} {text : List Char}
  {groups : List (List Char)}

section OnePiece

/-- The rest matches after `front`, and after no longer run that the piece allows. -/
theorem match_piece {front back : List Char} (inside : front.length ≤ piece.reach (front ++ back))
    (allowed : piece.allows front.length = true) (here : matchHere pattern back = some groups)
    (longer : ∀ length, front.length < length → length ≤ piece.reach (front ++ back) →
      piece.allows length = true → matchHere pattern ((front ++ back).drop length) = none) :
    matchHere (piece :: pattern) (front ++ back) =
      some (if piece.captured then front :: groups else groups) := by
  rw [matchHere]
  refine longest_eq_some inside ?_ fun length above below => ?_
  · rw [if_pos allowed, List.drop_left, List.take_left, here, Option.map_some]
  · by_cases allows : piece.allows length = true
    · rw [if_pos allows, longer length above below allows, Option.map_none]
    · rw [if_neg allows]

theorem match_piece_none (fails : ∀ length, length ≤ piece.reach text →
    piece.allows length = true → matchHere pattern (text.drop length) = none) :
    matchHere (piece :: pattern) text = none := by
  rw [matchHere]
  apply longest_eq_none
  intro length below
  by_cases allows : piece.allows length = true
  · rw [if_pos allows, fails length below allows, Option.map_none]
  · rw [if_neg allows]

theorem parts_of_match_piece (found : matchHere (piece :: pattern) text = some groups) :
    ∃ length groups', length ≤ piece.reach text ∧ piece.allows length = true ∧
      matchHere pattern (text.drop length) = some groups' ∧
        groups = if piece.captured then text.take length :: groups' else groups' := by
  rw [matchHere] at found
  obtain ⟨length, below, here⟩ := exists_of_longest found
  by_cases allows : piece.allows length = true
  · rw [if_pos allows] at here
    obtain ⟨groups', rest, same⟩ := Option.map_eq_some_iff.mp here
    exact ⟨length, groups', below, allows, rest, same.symm⟩
  · rw [if_neg allows] at here
    cases here

theorem exists_of_match_piece (found : matchHere (piece :: pattern) text = some groups) :
    ∃ length groups', length ≤ piece.reach text ∧ piece.allows length = true ∧
      matchHere pattern (text.drop length) = some groups' := by
  obtain ⟨length, groups', below, allows, rest, -⟩ := parts_of_match_piece found
  exact ⟨length, groups', below, allows, rest⟩

theorem reach_of_all (piece : Piece) {front : List Char} (back : List Char)
    (all : ∀ char ∈ front, piece.test char = true) :
    piece.reach (front ++ back) = front.length + piece.reach back := by
  rw [Piece.reach, Piece.reach, List.takeWhile_append_of_pos all, List.length_append]

end OnePiece

section Literals

theorem allows_one {test : Char → Bool} {length : Nat} :
    (Piece.one test).allows length = true ↔ length = 1 := by
  simp only [Piece.allows, Piece.one, Option.mem_def, Option.some.injEq, forall_eq',
    decide_eq_true_eq]
  omega

theorem match_one_nil (test : Char → Bool) : matchHere (Piece.one test :: pattern) [] = none := by
  apply match_piece_none
  intro length below allowed
  rw [allows_one.mp allowed] at below
  exact absurd below (by simp [Piece.reach])

theorem match_one_cons (test : Char → Bool) (char : Char) (rest : List Char) :
    matchHere (Piece.one test :: pattern) (char :: rest) =
      if test char then matchHere pattern rest else none := by
  by_cases passes : test char = true
  · rw [if_pos passes]
    cases here : matchHere pattern rest with
    | none =>
        apply match_piece_none
        intro length _ allowed
        rw [allows_one.mp allowed]
        exact here
    | some groups =>
        have reached : (Piece.one test).reach ([char] ++ rest) =
            1 + (Piece.one test).reach rest := by
          apply reach_of_all _ rest
          intro other member
          rw [List.mem_singleton.mp member]
          exact passes
        have inside : [char].length ≤ (Piece.one test).reach ([char] ++ rest) := by
          rw [reached]
          exact Nat.le_add_right _ _
        apply match_piece inside (allows_one.mpr rfl) here
        intro length above _ allowed
        rw [allows_one.mp allowed] at above
        exact absurd above (lt_irrefl 1)
  · rw [if_neg passes]
    apply match_piece_none
    intro length below allowed
    rw [allows_one.mp allowed] at below
    exact absurd below (by simp [Piece.reach, Piece.one, passes])

theorem match_literal (word rest : List Char) :
    matchHere (Piece.literal word ++ pattern) (word ++ rest) = matchHere pattern rest := by
  induction word with
  | nil => rfl
  | cons char word ih =>
      change matchHere (Piece.one (· = char) :: (Piece.literal word ++ pattern))
        (char :: (word ++ rest)) = _
      rw [match_one_cons, if_pos (decide_eq_true rfl), ih]

theorem literal_of_match {word : List Char}
    (found : matchHere (Piece.literal word ++ pattern) text = some groups) :
    ∃ rest, text = word ++ rest ∧ matchHere pattern rest = some groups := by
  induction word generalizing text with
  | nil => exact ⟨text, rfl, found⟩
  | cons char word ih =>
      change matchHere (Piece.one (· = char) :: (Piece.literal word ++ pattern)) text = _ at found
      cases text with
      | nil =>
          rw [match_one_nil] at found
          cases found
      | cons first text =>
          rw [match_one_cons] at found
          split_ifs at found with same
          obtain ⟨rest, rfl, here⟩ := ih found
          exact ⟨rest, by rw [of_decide_eq_true same]; rfl, here⟩

/-- A word does not match after its first character has occurred for the last time. -/
theorem match_literal_none (char : Char) (word back : List Char) {tail : List Char}
    (absent : char ∉ back)
    (suffix : tail <:+ char :: back) (proper : tail ≠ char :: back) :
    matchHere (Piece.literal (char :: word) ++ pattern) tail = none := by
  cases found : matchHere (Piece.literal (char :: word) ++ pattern) tail with
  | none => rfl
  | some groups =>
      obtain ⟨rest, rfl, -⟩ := literal_of_match found
      have later := (List.suffix_cons_iff.mp suffix).resolve_left proper
      exact absurd (later.mem (by simp)) absent

end Literals

section Groups

/-- A group takes a whole run of its class when that is not too long. -/
theorem match_group {test : Char → Bool} {least most : Nat} {front back : List Char}
    (all : ∀ char ∈ front, test char = true) (stops : ∀ char ∈ back.head?, test char = false)
    (bounds : least ≤ front.length ∧ front.length ≤ most)
    (here : matchHere pattern back = some groups) :
    matchHere (Piece.group test least most :: pattern) (front ++ back) =
      some (front :: groups) := by
  have stopped : (Piece.group test least most).reach back = 0 := by
    cases back with
    | nil => rfl
    | cons char back => simp [Piece.reach, Piece.group, stops char (by simp)]
  have reached : (Piece.group test least most).reach (front ++ back) = front.length := by
    rw [reach_of_all _ back all, stopped, Nat.add_zero]
  refine match_piece reached.ge (by simpa [Piece.allows, Piece.group] using bounds) here
    fun length above below => ?_
  omega

/-- A group takes no more than it may. -/
theorem match_group_most {test : Char → Bool} {least most : Nat} {front back : List Char}
    (all : ∀ char ∈ front, test char = true) (bounds : least ≤ most ∧ front.length = most)
    (here : matchHere pattern back = some groups) :
    matchHere (Piece.group test least most :: pattern) (front ++ back) =
      some (front :: groups) := by
  refine match_piece ?_ (by simp [Piece.allows, Piece.group, bounds]) here
    fun length above _ allowed => ?_
  · rw [reach_of_all _ back all]
    exact Nat.le_add_right _ _
  · simp only [Piece.allows, Piece.group, Option.mem_def, Option.some.injEq, forall_eq',
      decide_eq_true_eq] at allowed
    omega

theorem match_group_none {test : Char → Bool} {least most : Nat} (positive : 0 < least)
    (stops : ∀ char ∈ text.head?, test char = false) :
    matchHere (Piece.group test least most :: pattern) text = none := by
  have stopped : (Piece.group test least most).reach text = 0 := by
    cases text with
    | nil => rfl
    | cons char text => simp [Piece.reach, Piece.group, stops char (by simp)]
  apply match_piece_none
  intro length below allowed
  have enough : least ≤ length := (of_decide_eq_true allowed).1
  omega

theorem reach_anything (text : List Char) : Piece.anything.reach text = text.length := by
  have all : Piece.anything.reach (text ++ []) = text.length + Piece.anything.reach [] :=
    reach_of_all _ [] fun _ _ => rfl
  rwa [List.append_nil] at all

theorem match_anything_to_end : matchHere [Piece.anything] text = some [] := by
  have whole : matchHere [Piece.anything] (text ++ []) = some [] := by
    refine match_piece (by rw [List.append_nil, reach_anything]) (by rfl) rfl
      fun length above below => ?_
    rw [List.append_nil, reach_anything] at below
    omega
  rwa [List.append_nil] at whole

/-- `.*` stops at the last place from which the rest matches. -/
theorem match_anything_last {front back : List Char}
    (here : matchHere pattern back = some groups)
    (later : ∀ tail, tail <:+ back → tail ≠ back → matchHere pattern tail = none) :
    matchHere (Piece.anything :: pattern) (front ++ back) = some groups := by
  refine match_piece (by rw [reach_anything, List.length_append]; omega) (by rfl) here
    fun length above below _ => ?_
  rw [reach_anything] at below
  rw [List.drop_append, List.drop_of_length_le above.le, List.nil_append]
  apply later _ (List.drop_suffix _ _)
  intro same
  have shorter := congrArg List.length same
  rw [List.length_drop] at shorter
  rw [List.length_append] at below
  omega

end Groups

section Searching

theorem search_here (here : matchHere pattern text = some groups) :
    search pattern text = some groups := by
  cases text with
  | nil => exact here
  | cons char rest => rw [search, here, Option.some_or]

theorem search_skip {char : Char} {rest : List Char}
    (fails : matchHere pattern (char :: rest) = none) :
    search pattern (char :: rest) = search pattern rest := by
  rw [search, fails, Option.none_or]

theorem suffix_of_search (found : search pattern text = some groups) :
    ∃ tail, tail <:+ text ∧ matchHere pattern tail = some groups := by
  induction text with
  | nil => exact ⟨[], List.suffix_refl _, found⟩
  | cons char rest ih =>
      cases here : matchHere pattern (char :: rest) with
      | some groups' =>
          rw [search, here, Option.some_or] at found
          exact ⟨char :: rest, List.suffix_refl _, here.trans found⟩
      | none =>
          rw [search_skip here] at found
          obtain ⟨tail, suffix, matched⟩ := ih found
          exact ⟨tail, suffix.trans (List.suffix_cons char rest), matched⟩

/-- What a pattern matches ends in something its last pieces match. -/
theorem suffix_of_match (front pattern : List Piece)
    (found : matchHere (front ++ pattern) text = some groups) :
    ∃ tail groups', tail <:+ text ∧ matchHere pattern tail = some groups' := by
  induction front generalizing text groups with
  | nil => exact ⟨text, groups, List.suffix_refl _, found⟩
  | cons piece front ih =>
      obtain ⟨length, groups', -, -, rest⟩ := exists_of_match_piece found
      obtain ⟨tail, groups'', suffix, matched⟩ := ih rest
      exact ⟨tail, groups'', suffix.trans (List.drop_suffix _ _), matched⟩

theorem captured_literal (word : List Char) :
    (Piece.literal word).filter (·.captured) = [] := by
  refine List.filter_eq_nil_iff.mpr ?_
  intro piece member
  obtain ⟨char, -, rfl⟩ := List.mem_map.mp member
  exact Bool.false_ne_true

/-- The captured pieces and the groups correspond, and each group is one its piece may take. -/
theorem groups_of_match (found : matchHere pattern text = some groups) :
    List.Forall₂ (fun piece group => (∀ char ∈ group, piece.test char = true) ∧
      piece.allows group.length = true) (pattern.filter (·.captured)) groups := by
  induction pattern generalizing text groups with
  | nil =>
      rw [matchHere] at found
      split_ifs at found
      cases found
      exact .nil
  | cons piece pattern ih =>
      obtain ⟨length, later, below, allows, rest, rfl⟩ := parts_of_match_piece found
      cases captured : piece.captured with
      | false =>
          rw [List.filter_cons_of_neg (by rw [captured]; decide), if_neg Bool.false_ne_true]
          exact ih rest
      | true =>
          have inside : length ≤ text.length :=
            below.trans (List.takeWhile_prefix piece.test).length_le
          rw [List.filter_cons_of_pos captured, if_pos rfl]
          refine .cons ⟨?_, ?_⟩ (ih rest)
          · intro char member
            have run : text.take length <+: text.takeWhile piece.test := by
              refine List.prefix_of_prefix_length_le (List.take_prefix length text)
                (List.takeWhile_prefix piece.test) ?_
              rw [List.length_take]
              exact (Nat.min_le_left _ _).trans below
            exact List.mem_takeWhile_imp (run.subset member)
          · rwa [List.length_take, Nat.min_eq_left inside]

end Searching

end Foundation.GreedyPattern
