import ProjectSurvey.Terminal.EmojiTable
import ProjectSurvey.Text.Blank
import ProjectSurvey.Text.Case

/-! Emoji by name: a name between colons in a text becomes the emoji of that name. -/

namespace ProjectSurvey.Terminal

/-- The colours of skin by name, each with the character that asks for it. -/
def skinTones : List (Text × Char) := [("light", '🏻'), ("medium-light", '🏼'), ("medium", '🏽'),
  ("medium-dark", '🏾'), ("dark", '🏿')]

def emojiEntries (table : List (Text × String)) : List (Text × List Text) :=
  table.map fun (emoji, names) => (emoji, Text.words names.toList)

/-- The names of emoji, each with its emoji. -/
def emojiNames : List (Text × Text) :=
  let plain := (emojiEntries emojiTable).flatMap fun (emoji, names) =>
    names.map fun name => (name, emoji)
  let toned := (emojiEntries tonedEmojiTable).flatMap fun (emoji, names) =>
    skinTones.flatMap fun (tone, mark) =>
      let coloured := emoji.map fun c => if c = '~' then mark else c
      names.map fun name => (name ++ "_" ++ tone ++ "_skin_tone", coloured)
  plain ++ toned

/-- The endings of a name that ask for a way to show the emoji, each with the character that does
so. -/
def emojiVariants : List (Text × Char) :=
  [("-emoji", Char.ofNat 0xFE0F), ("-text", Char.ofNat 0xFE0E)]

def emojiOf? (code : Text) : Option Text :=
  let find (name : Text) : Option Text :=
    (emojiNames.find? (·.1 == Text.lower name)).map (·.2)
  match emojiVariants.find? fun variant => variant.1.isSuffixOf code with
  | some (ending, mark) =>
    (find (code.take (code.length - ending.length))).map fun emoji => emoji ++ [mark]
  | none => find code

/-- What stands between a colon and the next one, if no blank comes before that; `rest` begins after
the colon. -/
def codeAt? (rest : Text) : Option Text :=
  let code := rest.takeWhile fun c => c != ':' && !isBlank c
  if (rest.drop code.length).head? = some ':' then some code else none

/-- A text with emoji for their names, after `skipped` characters that belong to a code that has been
read. A code of no emoji stays, and both its colons are spent. -/
def withEmojiAfter (skipped : Nat) : Text → Text
  | [] => []
  | c :: rest =>
    match skipped with
    | more + 1 => withEmojiAfter more rest
    | 0 =>
      match if c = ':' then codeAt? rest else none with
      | some code =>
        (emojiOf? code).getD (':' :: code ++ [':']) ++ withEmojiAfter (code.length + 1) rest
      | none => c :: withEmojiAfter 0 rest

def withEmoji (text : Text) : Text :=
  withEmojiAfter 0 text

end ProjectSurvey.Terminal
