import SlideDeck.Text.Basic

/-!
Words of a shell command line: a text is written so that the shell reads it back as one word.
-/

namespace SlideDeck.Text

def isShellSafe (c : Char) : Bool :=
  c.isAlphanum || ['_', '@', '%', '+', '=', ':', ',', '.', '/', '-'].contains c

/-- The text as one shell word: bare when it is not empty and safe throughout, else in single
quotes, with each single quote of its own put in double quotes between two quoted stretches. -/
def shellWord (t : Text) : Text :=
  if t = [] then "''"
  else if t.all isShellSafe then t
  else '\'' :: t.flatMap (fun c => if c = '\'' then "'\"'\"'" else [c]) ++ ['\'']

end SlideDeck.Text
