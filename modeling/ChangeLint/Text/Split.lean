/-
Cutting a text at a separator.

`pieces sep` cuts at one character, `cut a as` at each leftmost occurrence of the text `a :: as`, without overlap. Joining the
pieces with the separator gives the text back.
-/
namespace ChangeLint.Text

/-- one more character at the front of the first piece -/
def pushFront (c : Char) : List (List Char) → List (List Char)
  | [] => [[c]]
  | p :: ps => (c :: p) :: ps

/-- the pieces between the occurrences of a character: one more than there are occurrences -/
def pieces (sep : Char) : List Char → List (List Char)
  | [] => [[]]
  | c :: cs => if c = sep then [] :: pieces sep cs else pushFront c (pieces sep cs)

/-- the pieces between the leftmost occurrences of the text `a :: as` -/
def cut (a : Char) (as : List Char) : List Char → List (List Char)
  | [] => [[]]
  | c :: cs =>
    if c = a ∧ as.isPrefixOf cs then [] :: cut a as (cs.drop as.length)
    else pushFront c (cut a as cs)
termination_by cs => cs.length
decreasing_by all_goals simp only [List.length_drop, List.length_cons]; omega

/-- the text before the last occurrence of `sep` and the text after it, if there is one -/
def splitLast? (sep : List Char) (cs : List Char) : Option (List Char × List Char) :=
  match cs with
  | [] => none
  | c :: rest =>
    match splitLast? sep rest with
    | some (before, after) => some (c :: before, after)
    | none => if sep.isPrefixOf cs then some ([], cs.drop sep.length) else none

/-- a text without a given beginning, or unchanged when it does not begin so -/
def dropPrefix (pre cs : List Char) : List Char :=
  if pre.isPrefixOf cs then cs.drop pre.length else cs

/-- true when `t` occurs somewhere in the text -/
def occurs (t : List Char) : List Char → Bool
  | [] => t.isEmpty
  | c :: cs => t.isPrefixOf (c :: cs) || occurs t cs

/-- a text in which every line ends in a line feed -/
def plainLines : List Char → List Char
  | '\r' :: '\n' :: cs => '\n' :: plainLines cs
  | '\r' :: cs => '\n' :: plainLines cs
  | c :: cs => c :: plainLines cs
  | [] => []

/-- a text without carriage returns is as it is -/
theorem plainLines_of_not_mem {cs : List Char} (h : '\r' ∉ cs) : plainLines cs = cs := by
  fun_induction plainLines cs with
  | case1 cs ih => simp at h
  | case2 cs _ ih => simp at h
  | case3 c cs _ _ ih => rw [ih fun hcs => h (List.mem_cons_of_mem c hcs)]
  | case4 => rfl

end ChangeLint.Text
