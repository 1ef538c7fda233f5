import Mathlib.Data.List.Basic
import Mathlib.Tactic.SplitIfs

/-!
# Lines through a buffer

A reader hands out a text piece by piece. A piece ends behind the first newline, or where
the buffer is full, so that a line which is too long comes in several pieces. Texts whose
lines all fit are read line by line.
-/

namespace Foundation.LineReader

set_option autoImplicit false

variable {Letter : Type*} [DecidableEq Letter] (newline : Letter) (size : Nat)

/-- The pieces of the rest of a text. `room` letters still go into the piece that has been
begun. -/
def piecesFrom : Nat → List Letter → List (List Letter)
  | _, [] => []
  | room, letter :: rest =>
      if letter = newline ∨ room ≤ 1 then [letter] :: piecesFrom size rest
      else
        match piecesFrom (room - 1) rest with
        | [] => [[letter]]
        | piece :: pieces => (letter :: piece) :: pieces

/-- A buffer of `size` letters holds one piece. -/
def pieces (text : List Letter) : List (List Letter) := piecesFrom newline size size text

variable {newline size}

theorem pieces_from_line {body : List Letter} (inside : newline ∉ body) {room : Nat}
    (fits : body.length < room) (rest : List Letter) :
    piecesFrom newline size room (body ++ newline :: rest) =
      (body ++ [newline]) :: pieces newline size rest := by
  induction body generalizing room with
  | nil => rw [List.nil_append, piecesFrom, if_pos (Or.inl rfl), pieces, List.nil_append]
  | cons letter body ih =>
      rw [List.mem_cons, not_or] at inside
      rw [List.length_cons] at fits
      have more : ¬(letter = newline ∨ room ≤ 1) := by
        rintro (same | full)
        · exact inside.1 same.symm
        · omega
      rw [List.cons_append, piecesFrom, if_neg more, ih inside.2 (by omega)]
      rfl

theorem pieces_line {body : List Letter} (inside : newline ∉ body)
    (fits : body.length < size) (rest : List Letter) :
    pieces newline size (body ++ newline :: rest) =
      (body ++ [newline]) :: pieces newline size rest :=
  pieces_from_line inside fits rest

/-- A text made of lines that fit is read line by line. -/
theorem pieces_lines {bodies : List (List Letter)} (inside : ∀ body ∈ bodies, newline ∉ body)
    (fits : ∀ body ∈ bodies, body.length < size) :
    pieces newline size (bodies.flatMap (· ++ [newline])) = bodies.map (· ++ [newline]) := by
  induction bodies with
  | nil => rfl
  | cons body bodies ih =>
      have later := ih (fun other member => inside other (List.mem_cons_of_mem body member))
        (fun other member => fits other (List.mem_cons_of_mem body member))
      rw [List.flatMap_cons, List.append_assoc, List.singleton_append,
        pieces_line (inside body List.mem_cons_self) (fits body List.mem_cons_self), later]
      rfl

end Foundation.LineReader
