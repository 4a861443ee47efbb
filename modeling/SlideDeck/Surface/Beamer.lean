import SlideDeck.Surface.Handout

/-!
Beamer: a deck as the source of LaTeX slides, one frame for each page, with the text of the page in
a verbatim block. The document, a frame and a verbatim block are begun when the first text needs
them.
-/

namespace SlideDeck

structure Beamer where
  out : Output
  width : Int := 50
  frameOpen : Bool := false
  verbatimOpen : Bool := false
  begun : Bool := false
  seen : List TitleLine := []

namespace Beamer

open Export

instance : Export Beamer where
  kind := .beamer
  output b := b.out
  setOutput out b := { b with out := out }

def braced (t : Text) : Text := '\x7b' :: t ++ ['\x7d']

def command (name t : Text) : Text := '\\' :: name ++ braced t

def beginLine (name : Text) : Text := command "begin" name

def endLine (name : Text) : Text := command "end" name

def preamble : Text := Text.join ("\n" : Text) [
  "% Generated by termpp",
  command "documentclass" "beamer",
  "",
  "\\mode<presentation>",
  "\x7b",
  ("  " : Text) ++ command "usetheme" "Montpellier",
  ("  " : Text) ++ command "setbeamercovered" "transparent",
  "\x7d",
  "",
  ("\\usepackage[utf8]" : Text) ++ braced "inputenc",
  command "usepackage" "times",
  ("\\usepackage[T1]" : Text) ++ braced "fontenc",
  ""]

def frameLine : Text := beginLine "frame" ++ ("[fragile]" : Text)

def titlePage : Text :=
  Text.join ("\n" : Text) [beginLine "frame", "  \\titlepage", endLine "frame"]

def beginDocument : Act Beamer Unit := do
  if !(← Act.surface).begun then
    write (beginLine "document")
    Act.modifySurface fun b => { b with begun := true }

def openFrame : Act Beamer Unit := do
  beginDocument
  if !(← Act.surface).frameOpen then
    write frameLine
    Act.modifySurface fun b => { b with frameOpen := true }
  if !(← Act.surface).verbatimOpen then
    write (beginLine "verbatim")
    Act.modifySurface fun b => { b with verbatimOpen := true }

def closeFrame : Act Beamer Unit := do
  if (← Act.surface).verbatimOpen then
    write (endLine "verbatim")
    Act.modifySurface fun b => { b with verbatimOpen := false }
  if (← Act.surface).frameOpen then
    write (endLine "frame")
    Act.modifySurface fun b => { b with frameOpen := false }

def writeText (t : Option Text) : Act Beamer Unit := do
  openFrame
  writeAll (plainLines (← Act.surface).width t)

/-- Writes a line of the title page; the title page follows once all of them have been seen. -/
def writeTitleLine (l : TitleLine) (line : Text) : Act Beamer Unit := do
  write line
  Act.modifySurface fun b => { b with seen := TitleLine.see b.seen l }
  if TitleLine.complete (← Act.surface).seen then
    beginDocument
    write titlePage

def perform : Op → Act Beamer Unit
  | .newPage => closeFrame
  | .printLine t | .center t | .right t => writeText t
  | .heading t => do
    closeFrame
    write (command "section" (stripMarkup (t.getD [])))
  | .title t =>
    let title := stripMarkup (t.getD [])
    writeTitleLine .title (("\\title[" : Text) ++ title ++ ("]" : Text) ++ braced title)
  | .author t => writeTitleLine .author (command "author" (stripMarkup (t.getD [])))
  | .date t => writeTitleLine .date (command "date" (stripMarkup (t.getD [])))
  | _ => pure ()

instance : Surface Beamer where
  perform := perform

def openDocument : Act Beamer Unit := do
  openOutput
  write preamble

def closeDocument : Act Beamer Unit := do
  if ← isOpen then
    closeFrame
    beginDocument
    write (endLine "document")
    closeOutput

end Beamer

end SlideDeck
