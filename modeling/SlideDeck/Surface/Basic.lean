import SlideDeck.Host.Basic

/-!
Surfaces. Every surface can perform what a line of a deck asks. One that has a screen also draws a
status line and can be cleared, which other surfaces take without doing anything. A console has a
screen and a keyboard besides.
-/

namespace SlideDeck

class Surface (σ : Type) where
  perform : Op → Act σ Unit
  drawStatus (number count : Int) (ended : Bool) (title : Option Text) : Act σ Unit := pure ()
  clear : Act σ Unit := pure ()

class Console (σ : Type) extends Surface σ where
  showHelp : Act σ Unit
  /-- Asks for a page by its number; the answer counts pages from 0. -/
  askPageNumber (titles : List Text) (current : Int) : Act σ (Option Int)
  storeScreen : Act σ Window
  restoreScreen (saved : Window) : Act σ Unit
  updateSize : Act σ Unit

end SlideDeck
