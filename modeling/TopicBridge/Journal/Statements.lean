import TopicBridge.Text.Blank

/-!
# Migration scripts

A migration script is split into statements at every `;`. Within a statement, lines whose
text starts with `--` after leading blanks are dropped; the remaining lines are joined
again and blanks around the statement are cut. Empty statements are skipped. A `;` inside a
literal is not treated specially.

* `TopicBridge.Journal.splitChar` – the pieces of a text between the occurrences of a
  character;
* `TopicBridge.Journal.splitStatements`.
-/

namespace TopicBridge.Journal

open TopicBridge.Text

/-- The pieces of a text between the occurrences of a character, in order: one piece more
than there are occurrences, so the empty text is one empty piece. -/
def splitChar (s : String) (c : Char) : List String := (s.toList.splitOn c).map String.ofList

/-- Whether a line is a comment line. -/
def isCommentLine (line : String) : Bool := (trimBlank line).startsWith "--"

/-- One statement with its comment lines dropped and its blanks cut. -/
def cleanStatement (raw : String) : String :=
  trimBlank ("\n".intercalate ((splitChar raw '\n').filter fun l => !isCommentLine l))

/-- The statements of a script, in order. -/
def splitStatements (script : String) : List String :=
  ((splitChar script ';').map cleanStatement).filter fun s => !s.isEmpty

end TopicBridge.Journal
