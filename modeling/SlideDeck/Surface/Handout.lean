import SlideDeck.Host.HugeText
import SlideDeck.Surface.Export

/-!
Handouts: a deck as plain text, with rules for headings and page breaks and a frame of ASCII
characters around output.
-/

namespace SlideDeck

inductive TitleLine where
  | title
  | author
  | date
deriving DecidableEq, Repr

def TitleLine.all : List TitleLine := [title, author, date]

def TitleLine.see (seen : List TitleLine) (l : TitleLine) : List TitleLine :=
  if seen.contains l then seen else l :: seen

def TitleLine.complete (seen : List TitleLine) : Bool := all.all seen.contains

structure Handout where
  out : Output
  width : Int := 80
  framed : Bool := false
  font : Text := HugeText.standardFont
  seen : List TitleLine := []

namespace Handout

open Export

instance : Export Handout where
  kind := .handout
  output h := h.out
  setOutput out h := { h with out := out }

def emit (line : Text) : Act Handout Unit := do
  write (if (← Act.surface).framed then ("| " : Text) ++ line else line)

def emitText (lead : (width length : Int) → Int) (t : Option Text) : Act Handout Unit := do
  let width := (← Act.surface).width
  (plainLines width t).forM fun line => do
    let blanks ← Act.copies (lead width line.length) ' '
    emit (blanks ++ line)

def flushLeft (_width _length : Int) : Int := 0

def centered (width length : Int) : Int := (width - length) / 2

def flushRight (width length : Int) : Int := width - length

def openFrame : Act Handout Unit := do
  write (("." : Text) ++ Text.rule 27 '-')
  Act.modifySurface fun h => { h with framed := true }

def closeFrame : Act Handout Unit := do
  write (("`" : Text) ++ Text.rule 27 '-')
  Act.modifySurface fun h => { h with framed := false }

def writeTitleLine (l : TitleLine) (label : Text) (t : Option Text) : Act Handout Unit := do
  write (Text.concat [label, ": ", stripMarkup (t.getD [])])
  Act.modifySurface fun h => { h with seen := TitleLine.see h.seen l }
  if TitleLine.complete (← Act.surface).seen then write "\n"

def perform : Op → Act Handout Unit
  | .newPage => write (Text.rule 44 '-')
  | .printLine t => emitText flushLeft t
  | .heading t => do
    write []
    writeAll (plainLines (← Act.surface).width t)
    write (Text.rule 36 '~')
  | .horizontalLine => write (Text.rule 44 '*')
  | .center t => emitText centered t
  | .right t => emitText flushRight t
  | .beginOutput | .beginShellOutput => openFrame
  | .endOutput | .endShellOutput => closeFrame
  | .setHugeFont name => Act.modifySurface fun h => { h with font := name }
  | .huge t => do
    let h ← Act.surface
    let rows ← HugeText.render t h.font (if h.framed then h.width - 2 else h.width)
    rows.forM fun row => emitText flushLeft (some row)
  | .title t => writeTitleLine .title "Title" t
  | .author t => writeTitleLine .author "Author" t
  | .date t => writeTitleLine .date "Date" t
  | _ => pure ()

instance : Surface Handout where
  perform := perform

end Handout

end SlideDeck
