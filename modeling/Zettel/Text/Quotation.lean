/-!
# Quotation in messages

Messages set off texts that they quote. The texts are shown as they are, so a text may itself hold
the marks.
-/

namespace Zettel.Text

/-- A text between quotation marks. -/
def quoted (s : String) : String := "\"" ++ s ++ "\""

/-- A text between grave accents. -/
def codeQuoted (s : String) : String := "`" ++ s ++ "`"

end Zettel.Text
