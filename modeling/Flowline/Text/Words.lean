/-!
# Trimming, words and substrings

Text is worked on as a list of characters. `trim` removes a class of characters from both ends,
`words` gives the maximal runs outside the class, `joinWith` puts pieces together again, and
`replaceAll` and `indexOf?` find substrings from left to right.
-/

namespace Flowline.Text

def trimStart (p : Char → Bool) (cs : List Char) : List Char := cs.dropWhile p

def trimEnd (p : Char → Bool) (cs : List Char) : List Char := (cs.reverse.dropWhile p).reverse

def trim (p : Char → Bool) (cs : List Char) : List Char := trimEnd p (trimStart p cs)

/-- The maximal runs of characters outside a class. -/
def words (p : Char → Bool) (cs : List Char) : List (List Char) :=
  (cs.splitOnP p).filter fun w => !w.isEmpty

/-- The pieces put together with a separator between each two. -/
def joinWith (sep : List Char) : List (List Char) → List Char
  | [] => []
  | [w] => w
  | w :: ws => w ++ sep ++ joinWith sep ws

/-- Replaces, from left to right and without overlap, every occurrence of `old`. The counter is the
number of characters of the last occurrence that are still to be passed over. -/
def replaceFrom (old new : List Char) : Nat → List Char → List Char
  | _, [] => []
  | k + 1, _ :: cs => replaceFrom old new k cs
  | 0, c :: cs =>
    if old.isPrefixOf (c :: cs) then new ++ replaceFrom old new (old.length - 1) cs
    else c :: replaceFrom old new 0 cs

/-- Every occurrence of `old`, which is not empty, replaced by `new`. -/
def replaceAll (old new cs : List Char) : List Char := replaceFrom old new 0 cs

/-- How many characters precede the first occurrence of `part`. -/
def indexOf? (part : List Char) : List Char → Option Nat
  | [] => if part.isEmpty then some 0 else none
  | c :: cs => if part.isPrefixOf (c :: cs) then some 0 else (indexOf? part cs).map (· + 1)

def contains (part cs : List Char) : Bool := (indexOf? part cs).isSome

theorem trimEnd_nil (p : Char → Bool) : trimEnd p [] = [] := rfl

theorem words_nil (p : Char → Bool) : words p [] = [] := by
  simp [words, List.splitOnP_nil]

/-- A character of the class at the front belongs to no word. -/
theorem words_cons_of_pos {p : Char → Bool} {c : Char} (h : p c = true) (cs : List Char) :
    words p (c :: cs) = words p cs := by
  simp [words, List.splitOnP_cons_eq_if_modifyHead, h]

end Flowline.Text
