/-
  Blank characters and what is left when the ends of a text are stripped of them.
  `trim` removes every leading and trailing character with the Unicode property White_Space.
-/

namespace Slipway.Text

/-- The characters with the Unicode property White_Space. -/
def isBlank (c : Char) : Bool :=
  let n := c.toNat
  (9 ≤ n && n ≤ 13) || n == 0x20 || n == 0x85 || n == 0xA0 || n == 0x1680 ||
    (0x2000 ≤ n && n ≤ 0x200A) || n == 0x2028 || n == 0x2029 || n == 0x202F || n == 0x205F ||
    n == 0x3000

/-- Drops the characters at the end that satisfy `p`. -/
def stripEnd (p : Char → Bool) (cs : List Char) : List Char :=
  (cs.reverse.dropWhile p).reverse

/-- Drops the characters at both ends that satisfy `p`. -/
def strip (p : Char → Bool) (cs : List Char) : List Char :=
  stripEnd p (cs.dropWhile p)

def trim (s : String) : String :=
  String.ofList (strip isBlank s.toList)

/-- A text of blanks only carries nothing. -/
def nonBlank? (s : String) : Option String :=
  let t := trim s
  if t = "" then none else some t

@[simp] theorem stripEnd_nil (p : Char → Bool) : stripEnd p [] = [] := rfl

@[simp] theorem strip_nil (p : Char → Bool) : strip p [] = [] := rfl

theorem stripEnd_append_of_all {p : Char → Bool} (cs ds : List Char) (h : ∀ d ∈ ds, p d = true) :
    stripEnd p (cs ++ ds) = stripEnd p cs := by
  simp only [stripEnd, List.reverse_append]
  rw [List.dropWhile_append_of_pos (by simpa using h)]

end Slipway.Text
