import Zettel.Row
import Zettel.Text.Infix
import Zettel.Text.Lowercase

/-!
# Content of notes

The graph holds no content. Search asks for it note by note, and for that of protected notes only
while they can be decrypted. The markup of formatted text is not searched.
-/

namespace Zettel.Search

/-! ## Where content comes from -/

/-- Why the content of a note could not be decrypted. -/
structure DecryptionError where
  id : NoteId
  reason : String
  deriving DecidableEq, Repr

/-- The wording of the error. -/
def DecryptionError.message (e : DecryptionError) : String :=
  "cannot decrypt note " ++ e.id ++ ": " ++ e.reason

/-- The access to protected content. -/
structure Decryptor where
  isAvailable : Bool
  decrypt : NoteId → Except DecryptionError String

/-- Where the content of notes comes from. -/
structure ContentSources where
  /-- The content of unprotected notes, if it can be had. -/
  plain : Option (NoteId → Option String) := none
  decryptor : Option Decryptor := none

/-- The content of a note of this type is text. -/
def isScannable (noteType : String) : Bool := noteType = "text" || noteType = "code"

/-! ## Markup -/

/-- Drops everything between angle brackets, and the brackets. After a bracket that is not closed,
everything stays. -/
def stripTags (cs : List Char) : List Char :=
  match cs with
  | [] => []
  | c :: rest =>
    if c = '<' then
      if rest.contains '>' then stripTags ((rest.dropWhile (· ≠ '>')).drop 1) else c :: rest
    else c :: stripTags rest
termination_by cs.length
decreasing_by
  · have : (rest.dropWhile (· ≠ '>')).length ≤ rest.length :=
      (List.dropWhile_sublist _).length_le
    simp only [List.length_drop, List.length_cons]
    omega
  · simp

/-- The entity of a space that does not break. -/
def nonBreakingSpace : String := "&nbsp;"

/-- Formatted text without its markup. -/
def stripHtml (s : String) : String :=
  String.ofList (Text.replaceL nonBreakingSpace.toList [' '] (stripTags s.toList))

/-- The text that content is searched for: in small letters, and without markup if it is formatted
text. -/
def searchable (noteType mime content : String) : String :=
  let content := Text.lowercase content
  if noteType = "text" && mime = "text/html" then stripHtml content else content

example : stripHtml "<p>a&nbsp;<b>b</b> < c" = "a b < c" := by decide +kernel

end Zettel.Search
