import Zettel.Graph.Views
import Zettel.Pattern.Reader
import Zettel.Text.CaseVariants
import Zettel.Text.Property

/-!
# Highlighted titles

While a query is being typed, results show where its words occur: in the title of the path, and in
the attributes of the note, which follow the title. Occurrences stand between braces until all words
have been looked for, and the braces become tags in the end. Tags and entities are left alone.

Main statement: `chars_parted`, a text is made up of its parts.
-/

namespace Zettel.Search

/-! ## Words -/

/-- The characters that are not looked for. -/
def markChars : List Char := ['<', '{', '}']

/-- The word `v` is looked for before `w`: the longer first, and of equally long ones the lesser. -/
def precedes (v w : String) : Bool :=
  w.length < v.length || (w.length = v.length && v < w)

/-- Drops the words that are equal to the one before. -/
def dropRepeated : List String → List String
  | [] => []
  | w :: ws => w :: (dropRepeated ws).dropWhile (· = w)

/-- The words to look for, in their order. -/
def highlightWords (words : List String) : List String :=
  let plain := words.map fun w => String.ofList (w.toList.filter (!markChars.contains ·))
  dropRepeated (sortBy precedes (plain.filter (!·.isEmpty)))

/-! ## Markup -/

/-- The length of an entity's body that `cs` begins with, up to the semicolon. -/
def entityBody? (cs : List Char) : Option Nat :=
  let name := cs.takeWhile Text.isWordChar
  if name ≠ [] ∧ (cs.drop name.length).head? = some ';' then some (name.length + 1) else none

/-- The length of the tag or entity that `cs` begins with. -/
def markupLength? : List Char → Option Nat
  | '<' :: rest => if rest.contains '>' then some ((rest.takeWhile (· ≠ '>')).length + 2) else none
  | '&' :: '#' :: rest => (entityBody? rest).map (· + 2)
  | '&' :: rest => (entityBody? rest).map (· + 1)
  | _ => none

/-- A title, parted at its markup. The texts in between may be empty. -/
inductive Parted
  /-- There is no more markup. -/
  | last (text : List Char)
  | before (text markup : List Char) (rest : Parted)
  deriving DecidableEq, Repr

namespace Parted

/-- The characters of the title. -/
def chars : Parted → List Char
  | last text => text
  | before text markup rest => text ++ (markup ++ rest.chars)

/-- The tags and entities. -/
def markups : Parted → List (List Char)
  | last _ => []
  | before _ markup rest => markup :: rest.markups

/-- The texts around them. -/
def texts : Parted → List (List Char)
  | last text => [text]
  | before text _ rest => text :: rest.texts

/-- Changes the texts. -/
def mapTexts (f : List Char → List Char) : Parted → Parted
  | last text => last (f text)
  | before text markup rest => before (f text) markup (rest.mapTexts f)

/-- Puts a character of text in front. -/
def addChar (c : Char) : Parted → Parted
  | last text => last (c :: text)
  | before text markup rest => before (c :: text) markup rest

end Parted

/-- Parts a title at its markup. -/
def parted (cs : List Char) : Parted :=
  match cs with
  | [] => .last []
  | c :: rest =>
    match markupLength? (c :: rest) with
    | some n => .before [] (c :: rest.take (n - 1)) (parted (rest.drop (n - 1)))
    | none => (parted rest).addChar c
termination_by cs.length
decreasing_by
  · simp only [List.length_drop, List.length_cons]
    omega
  · simp

/-! ## Occurrences -/

/-- The text `cs` begins with the word, except for case. -/
def beginsIgnoringCase : List Char → List Char → Bool
  | [], _ => true
  | _ :: _, [] => false
  | w :: word, c :: cs => Text.sameIgnoringCase w c && beginsIgnoringCase word cs

/-- Puts every occurrence of the word, from the left, between braces. An empty word occurs before
every character and at the end. -/
def wrapAll (word cs : List Char) : List Char :=
  match cs with
  | [] => if word = [] then ['{', '}'] else []
  | c :: rest =>
    if word = [] then '{' :: '}' :: c :: wrapAll word rest
    else if beginsIgnoringCase word (c :: rest) then
      '{' :: (c :: rest.take (word.length - 1)) ++
        '}' :: wrapAll word (rest.drop (word.length - 1))
    else c :: wrapAll word rest
termination_by cs.length
decreasing_by
  · simp
  · simp only [List.length_drop, List.length_cons]
    omega
  · simp

/-- Puts every occurrence of the word outside markup between braces. -/
def wrapOutsideMarkup (word title : List Char) : List Char :=
  ((parted title).mapTexts (wrapAll word)).chars

/-- The title with every occurrence of the words between braces. -/
def wrapWords (words : List String) (title : List Char) : List Char :=
  words.foldl (fun title word => wrapOutsideMarkup word.toList title) title

/-- The characters that have a meaning in patterns. -/
def patternChars : List Char := "\\.+*?()|[]\x7b\x7d^$#&-~".toList

/-- The word as a pattern, in which no character has a meaning. -/
def wordPattern (word : String) : String :=
  "(" ++ String.ofList (word.toList.flatMap fun c =>
    if patternChars.contains c then ['\\', c] else [c]) ++ ")"

/-- The word can be looked for: its pattern is not too large. -/
def canBeSought (word : String) : Bool := (Pattern.read (wordPattern word)).isOk

/-- What a brace is shown as. -/
def braceTag : Char → List Char
  | '{' => "<b>".toList
  | '}' => "</b>".toList
  | c => [c]

/-- A title with every word highlighted that can be looked for. -/
def highlightTitle (words : List String) (title : String) : String :=
  String.ofList ((wrapWords (words.filter canBeSought) title.toList).flatMap braceTag)

/-! ## Attributes -/

/-- A character as it is written in formatted text. -/
def escapeChar : Char → List Char
  | '&' => "&amp;".toList
  | '<' => "&lt;".toList
  | '>' => "&gt;".toList
  | '"' => "&quot;".toList
  | '\'' => "&#039;".toList
  | c => [c]

/-- A text as it is written in formatted text. -/
def escapeHtml (s : String) : String := String.ofList (s.toList.flatMap escapeChar)

/-- A value that is no single word stands between quotation marks. -/
def shownValue (value : String) : String :=
  if value.toList.all fun c => Text.isWordChar c || c = '-' then value else "\"" ++ value ++ "\""

/-- An attribute as it is shown. -/
def shownAttribute (a : Attribute) : String :=
  match a.kind with
  | .relation => "@" ++ escapeHtml a.name ++ "=…"
  | .label =>
    "#" ++ escapeHtml a.name ++
      (if a.value.isEmpty then "" else "=" ++ escapeHtml (shownValue a.value))

/-- Some word occurs in the name or the value of the attribute. -/
def isMentioned (words : List String) (a : Attribute) : Bool :=
  let value := Text.lowercase a.value
  words.any fun word => Text.occurs word a.name || Text.occurs word value

/-- What follows the title for some attributes. -/
def snippets (attributes : List Attribute) : String :=
  String.join (attributes.map fun a => " <small>" ++ shownAttribute a ++ "</small>")

/-- The highlighted title of the note `n`, which is shown as `title`. -/
def highlighted (g : Graph) (words : List String) (n : NoteId) (title : String) :
    Reading String := do
  let mentioned := (← g.effective n).filter (isMentioned words)
  return highlightTitle words (title ++ snippets mentioned)

/-! ## Parts -/

theorem markupLength?_pos {cs : List Char} {n : Nat} (h : markupLength? cs = some n) : 0 < n := by
  unfold markupLength? at h
  split at h
  · split at h
    · cases h; omega
    · cases h
  · obtain ⟨m, -, rfl⟩ := Option.map_eq_some_iff.1 h; omega
  · obtain ⟨m, -, rfl⟩ := Option.map_eq_some_iff.1 h; omega
  · cases h

namespace Parted

theorem chars_addChar (c : Char) (p : Parted) : (p.addChar c).chars = c :: p.chars := by
  cases p <;> rfl

theorem markups_mapTexts (f : List Char → List Char) (p : Parted) :
    (p.mapTexts f).markups = p.markups := by
  induction p with
  | last text => rfl
  | before text markup rest ih => rw [mapTexts, markups, markups, ih]

theorem texts_mapTexts (f : List Char → List Char) (p : Parted) :
    (p.mapTexts f).texts = p.texts.map f := by
  induction p with
  | last text => rfl
  | before text markup rest ih => rw [mapTexts, texts, texts, ih, List.map_cons]

end Parted

/-- A text is made up of its parts. -/
theorem chars_parted (cs : List Char) : (parted cs).chars = cs := by
  fun_induction parted cs with
  | case1 => rfl
  | case2 c rest n _ ih =>
    rw [Parted.chars, ih, List.nil_append, List.cons_append, List.take_append_drop]
  | case3 c rest _ ih => rw [Parted.chars_addChar, ih]

example : String.ofList ((wrapWords ["small", "amp"]
      "Small &amp; Amp <small>#amp</small>".toList).flatMap braceTag) =
    "<b>Small</b> &amp; <b>Amp</b> <small>#<b>amp</b></small>" := by decide +kernel

end Zettel.Search
