import SlideDeck.Main
import SlideDeck.Proofs.Deck.Pages
import SlideDeck.Proofs.Export.Environments
import SlideDeck.Proofs.Export.Frames
import SlideDeck.Proofs.Export.Inserted
import SlideDeck.Proofs.Interactive.Interludes
import SlideDeck.Proofs.Interactive.Reload
import SlideDeck.Proofs.Layout.Segments
import SlideDeck.Proofs.Layout.Stable
import SlideDeck.Proofs.Layout.Wider
import SlideDeck.Proofs.Markup.RoundTrip
import SlideDeck.Proofs.Navigation.Invariant
import SlideDeck.Proofs.Navigation.Stretches
import SlideDeck.Proofs.Program.Status
import SlideDeck.Proofs.Recording.Rounds
import SlideDeck.Proofs.Recording.SameDeck
import SlideDeck.Proofs.Screen.Borders
import SlideDeck.Proofs.Screen.Edges
import SlideDeck.Proofs.Screen.InPlace
import SlideDeck.Proofs.Screen.NextPage
import SlideDeck.Proofs.Screen.Operations
import SlideDeck.Surface.Recorder
import SlideDeck.Proofs.Screen.Animations
import SlideDeck.Proofs.Export.HugeText
import SlideDeck.Proofs.Export.LineWidth
import SlideDeck.Proofs.Export.TitlePage
import SlideDeck.Proofs.Screen.KeptStyle
import SlideDeck.Proofs.Screen.PageNumber
import SlideDeck.Proofs.Recording.Include
import SlideDeck.Proofs.Export.Unopened
import SlideDeck.Proofs.Text.LineEnds
import SlideDeck.Proofs.Fonts
import SlideDeck.Proofs.Deck.Markers
import SlideDeck.Proofs.Screen.StatusLine
