import SlideDeck.Proofs.Interactive.Steps
import SlideDeck.Proofs.Navigation.Invariant

/-!
# Pages in the deck

The index of a navigator is always that of a page of its deck, the page that it reads. What is done
to the stage leaves that alone, also when the stage meets a fault.
-/

namespace SlideDeck

namespace Navigator

def InDeck (n : Navigator) : Prop := n.pages[n.index]? = some n.reader.page

theorem InDeck.index_lt {n : Navigator} (h : n.InDeck) : n.index < n.pages.length :=
  (List.getElem?_eq_some_iff.1 h).1

theorem InDeck.turnTo {n : Navigator} {index : Nat} (hindex : index < n.pages.length) :
    (n.turnTo index).InDeck := by
  rw [turnTo_eq hindex]
  exact List.getElem?_eq_getElem hindex

theorem InDeck.of_still {n : Navigator} (h : n.InDeck) {f : Navigator → Navigator}
    (hf : Still f) : (f n).InDeck := by
  rw [InDeck, hf.pages, hf.index, hf.page]
  exact h

theorem inDeck_start {deck : Deck} {index : Int} {n : Navigator} (h : start deck index = .ok n) :
    n.InDeck := by
  have hn := consistent_start h
  rw [InDeck, hn.pages]
  exact hn.page

end Navigator

namespace Present

variable {σ α : Type}

/-- From a page of the deck, an action ends on a page of the deck, in a value or in a fault. -/
def StaysInDeck : Present σ α → Prop := Outcome.Keeps fun p => p.nav.InDeck

theorem lift_staysInDeck (act : Act σ α) : StaysInDeck (liftM act : Present σ α) := by
  intro p hp
  rw [state_lift]
  exact hp

/-- Turning to a page leads to one that the deck has, and no other step changes the page. -/
theorem steps_inDeck [Surface σ] : Steps (fun p : Presentation σ => p.nav.InDeck) Outcome.Any where
  index_lt _ hp := hp.index_lt
  dispatch _ _ _ _ := Outcome.keeps_iff_ends.1 (lift_staysInDeck _)
  perform _ _ := Outcome.keeps_iff_ends.1 (lift_staysInDeck _)
  status _ _ _ _ := Outcome.keeps_iff_ends.1 (lift_staysInDeck _)
  clear := Outcome.keeps_iff_ends.1 (lift_staysInDeck _)
  change hf := .modify fun _ hp => hp.of_still hf
  turnTo _ _ _ hindex := .turnTo hindex

end Present

end SlideDeck
