import SlideDeck.Surface.Screen.Prompt

/-!
The screen: a deck shown on a full-screen terminal, from the moment the terminal is taken over to
the moment it is left.
-/

namespace SlideDeck.Screen

open Act

instance : Console Screen where
  perform := perform
  drawStatus := drawStatus
  clear := do
    call .clear
    call .refresh
  showHelp := showHelp
  askPageNumber := askPageNumber
  storeScreen := store
  restoreScreen := restore
  updateSize := learnSize

def start (h : Host) (typeDelay slideDelay : Delay) (font : Text) : Screen :=
  { typeDelay := typeDelay, slideDelay := slideDelay, font := font, rows := h.rows,
    columns := h.columns }

def openTerminal : Act Screen Unit := do
  tolerant (call (.showCursor 0))
  call .startColor
  call .useDefaultColors
  call (.functionKeys true)
  setBackground (some "black")
  applyStyle (← surface).style

def closeTerminal : Act Screen Unit := do
  if (← surface).closed then return
  modifySurface fun s => { s with closed := true }
  tolerant (call (.setAttributes .normal))

end SlideDeck.Screen
