/-!
# Blank characters and trimming

A **blank** is a character of the Unicode `White_Space` property: the ASCII controls from
tab to carriage return, the space, the next-line control, the no-break space and the
spaces of the general punctuation and ideographic blocks. Names, methods and settings are
compared after their blanks at both ends are cut off, so `" off　"` reads as `off`.

* `TopicBridge.Text.isBlank` – membership in the property;
* `TopicBridge.Text.trimBlank` – the text without its leading and trailing blanks;
* `TopicBridge.Text.trimRightChar` – the text without a trailing run of one character.
-/

namespace TopicBridge.Text

/-- A character is blank when it has the Unicode `White_Space` property. -/
def isBlank (c : Char) : Bool :=
  let n := c.toNat
  (0x09 ≤ n && n ≤ 0x0D) || n == 0x20 || n == 0x85 || n == 0xA0 || n == 0x1680 ||
  (0x2000 ≤ n && n ≤ 0x200A) || n == 0x2028 || n == 0x2029 || n == 0x202F ||
  n == 0x205F || n == 0x3000

/-- The characters left after dropping the blanks at the front. -/
def dropBlanks (cs : List Char) : List Char := cs.dropWhile isBlank

/-- The characters without blanks at either end. -/
def trimBlankList (cs : List Char) : List Char :=
  (dropBlanks (dropBlanks cs).reverse).reverse

/-- The text without blanks at either end. -/
def trimBlank (s : String) : String := String.ofList (trimBlankList s.toList)

/-- The text without the run of `c` at its end. -/
def trimRightChar (s : String) (c : Char) : String :=
  String.ofList (s.toList.reverse.dropWhile (· == c)).reverse

/-- Whether the text is empty once its blanks are cut off. -/
def isBlankText (s : String) : Bool := s.toList.all isBlank

/-! ### Small facts -/

example : isBlank (Char.ofNat 0x3000) = true := by decide

example : isBlank (Char.ofNat 0x200B) = false := by decide

end TopicBridge.Text
