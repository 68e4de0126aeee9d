import Twisty.Main
import Twisty.Proofs.CommandLine.Messages
import Twisty.Proofs.CommandLine.Spreading
import Twisty.Proofs.CommandLine.Strictness
import Twisty.Proofs.Notation.Cancellation
import Twisty.Proofs.Notation.Expansion
import Twisty.Proofs.Notation.Larger
import Twisty.Proofs.Notation.Names
import Twisty.Proofs.Notation.Resizing
import Twisty.Proofs.Notation.Suffix
import Twisty.Proofs.Notation.Table
import Twisty.Proofs.Notation.Wide
import Twisty.Proofs.Preferences.Precedence
import Twisty.Proofs.Preferences.Reload
import Twisty.Proofs.Puzzle.SizeText
import Twisty.Proofs.Sequencer.Atomicity
import Twisty.Proofs.Sequencer.Empty
import Twisty.Proofs.Sequencer.Positions
import Twisty.Proofs.Sequencer.Submission
