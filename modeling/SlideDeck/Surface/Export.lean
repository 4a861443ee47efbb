import SlideDeck.Layout.Wrap
import SlideDeck.Surface.Basic

/-!
Exports: surfaces that write a deck to a file. Each has an output that lines are written to while it
is open. The file is empty from the opening on, grows as the pieces written to it come through
(`Progress`), and has its content when the output is closed. When an output is opened again, its
file is emptied, and what had not come through until then is written there after all.
-/

namespace SlideDeck

/-- How far the pieces written to an output have come on their way to its file. They are gathered
to a chunk; the chunk passes to the block that the file is written by, and the block to the file. -/
structure Progress where
  filed : Nat := 0
  passed : Nat := 0
  block : Nat := 0
  chunk : Nat := 0
deriving DecidableEq, Repr

namespace Progress

def chunkSize : Nat := 8192

def blockSize : Nat := 4096

/-- Passes the chunk on, after which `count` pieces are past it. When it does not fit beside what is
in the block, the block goes to the file; a chunk larger than a block goes there too. -/
def pass (p : Progress) (count : Nat) : Progress :=
  if p.block + p.chunk ≤ blockSize then
    { p with passed := count, block := p.block + p.chunk, chunk := 0 }
  else if p.chunk ≤ blockSize then
    { filed := p.passed, passed := count, block := p.chunk }
  else { filed := count, passed := count }

/-- Gathers one more piece of some bytes after `count` others. A chunk that has no room for it
passes on first, and a chunk that it fills passes on at once. -/
def gather (p : Progress) (count bytes : Nat) : Progress :=
  let p := if p.chunk + bytes ≤ chunkSize then p else p.pass count
  let p := { p with chunk := p.chunk + bytes }
  if p.chunk < chunkSize then p else p.pass (count + 1)

end Progress

structure Output where
  path : Text
  place : Option Place := none
  /-- What was written since the output was opened last, each piece a line or more. -/
  written : Array Text := #[]
  progress : Progress := {}

namespace Output

def text (pieces : List Text) : Text := pieces.flatMap (· ++ ['\n'])

/-- The content of the file, once the output is closed. -/
def content (o : Output) : Text := text o.written.toList

/-- What has come through to the file. -/
def filed (o : Output) : List UInt8 :=
  Text.Utf8.encode (text (o.written.toList.take o.progress.filed))

/-- What has been written and has not come through. -/
def pending (o : Output) : List UInt8 :=
  Text.Utf8.encode (text (o.written.toList.drop o.progress.filed))

/-- The files after the rest has come through. -/
def flush (o : Output) (fs : Files) : Files :=
  match o.place with
  | some place => fs.writeAt place o.filed.length o.pending
  | none => fs

def push (o : Output) (t : Text) : Output :=
  { o with
    written := o.written.push t
    progress := o.progress.gather o.written.size ((Text.Utf8.encode t).length + 1) }

end Output

class Export (σ : Type) where
  kind : ExportKind
  output : σ → Output
  setOutput : Output → σ → σ

namespace Export

variable {σ : Type} [Export σ]

def openOutput : Act σ Unit := do
  let s ← get
  let out := output s.surface
  match s.host.files.create out.path with
  | .ok (place, files) =>
    set { s with
      host := { s.host with files := out.flush files },
      surface := setOutput { path := out.path, place := some place } s.surface }
  | .error fault => throw (Fault.ofOpening fault)

def closeOutput : Act σ Unit :=
  modify fun s =>
    let out := output s.surface
    if out.place.isNone then s
    else
      { s with
        host := { s.host with files := out.flush s.host.files },
        surface := setOutput { out with place := none } s.surface }

def isOpen : Act σ Bool := return (output (← Act.surface)).place.isSome

/-- Writes a piece of text and a newline. The file grows by the pieces that come through. -/
def write (t : Text) : Act σ Unit := do
  let out := output (← Act.surface)
  match out.place with
  | none => throw (.notOpen (kind σ))
  | some place =>
    let after := out.push t
    Act.modifySurface (setOutput after)
    let before := out.progress.filed
    if before < after.progress.filed then
      let fresh := Output.text (after.written.extract before after.progress.filed).toList
      modify fun s =>
        let files := s.host.files.writeAt place out.filed.length (Text.Utf8.encode fresh)
        { s with host := { s.host with files := files } }

def writeAll (ts : List Text) : Act σ Unit := ts.forM write

def plainLines (width : Int) (t : Option Text) : List Text :=
  Layout.wrapText width (stripMarkup (t.getD []))

end Export

structure Plain where
  out : Output
  width : Int

namespace Plain

instance : Export Plain where
  kind := .plain
  output p := p.out
  setOutput out p := { p with out := out }

def perform (op : Op) : Act Plain Unit := do
  let width := (← Act.surface).width
  match op with
  | .printLine t | .heading t | .center t | .right t => Export.writeAll (Export.plainLines width t)
  | _ => pure ()

instance : Surface Plain where
  perform := perform

end Plain

end SlideDeck
