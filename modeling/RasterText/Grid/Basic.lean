set_option autoImplicit false

/-!
Words with the dimensions that they are laid out in, and the cut of a list into lines. Dimensions
are words of 32 bits themselves, so a greater count is only known modulo `2 ^ 32`.
-/

namespace RasterText

structure Grid where
  words : List UInt32
  width : UInt32
  height : UInt32
  deriving DecidableEq, Repr

def cutSucc {α : Type} (n : Nat) : List α → List (List α)
  | [] => []
  | a :: rest => (a :: rest.take n) :: cutSucc n (rest.drop n)
termination_by l => l.length
decreasing_by simp only [List.length_drop, List.length_cons]; omega

/-- Cuts a list into pieces of `n` elements; the last piece may be shorter. No list can be cut
into pieces of no element, so for `n = 0` there is none. -/
def cut {α : Type} : Nat → List α → List (List α)
  | 0, _ => []
  | n + 1, l => cutSucc n l

theorem flatten_cutSucc {α : Type} (n : Nat) (l : List α) : (cutSucc n l).flatten = l := by
  fun_induction cutSucc n l with
  | case1 => rfl
  | case2 a rest ih => simp [ih, List.take_append_drop]

theorem flatten_cut {α : Type} {n : Nat} (h : 0 < n) (l : List α) : (cut n l).flatten = l := by
  cases n with
  | zero => omega
  | succ n => exact flatten_cutSucc n l

end RasterText
