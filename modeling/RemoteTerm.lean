import RemoteTerm.Frame.Wire
import RemoteTerm.Main
import RemoteTerm.Surface.Console
import RemoteTerm.View.Stage
import RemoteTerm.View.Status.Wire
import RemoteTerm.Proofs.Text.Case
import RemoteTerm.Proofs.Address
import RemoteTerm.Proofs.Key.Encoding
import RemoteTerm.Proofs.Key.Names
import RemoteTerm.Proofs.Keyboard.Text
import RemoteTerm.Proofs.Keyboard.Routing
import RemoteTerm.Proofs.Session.Step
import RemoteTerm.Proofs.View.Perform
import RemoteTerm.Proofs.View.Turn
import RemoteTerm.Proofs.View.Line
import RemoteTerm.Proofs.View.Resources
import RemoteTerm.Proofs.World
import RemoteTerm.Proofs.World.Turns
import RemoteTerm.Proofs.View.Marks
import RemoteTerm.Proofs.World.Log
import RemoteTerm.Proofs.World.Retry
import RemoteTerm.Proofs.Exchange.Waiting
import RemoteTerm.Proofs.World.Delivery
import RemoteTerm.Proofs.View.Latch
import RemoteTerm.Proofs.World.Spending
import RemoteTerm.Proofs.World.Stage
import RemoteTerm.Proofs.World.Play
import RemoteTerm.Proofs.Session.Attempts
import RemoteTerm.Proofs.Session.Teardown
import RemoteTerm.Proofs.Session.Sizes
import RemoteTerm.Proofs.Session.Backoff
import RemoteTerm.Proofs.View.History
import RemoteTerm.Proofs.View.Transcript
import RemoteTerm.Proofs.View.Agreement
import RemoteTerm.Proofs.View.Arming
import RemoteTerm.Proofs.View.Publishing
import RemoteTerm.Proofs.View.Scrolling
import RemoteTerm.Proofs.View.Settling
import RemoteTerm.Proofs.World.Channels
import RemoteTerm.Proofs.Exchange.Output
import RemoteTerm.Proofs.World.Agreement
import RemoteTerm.Proofs.World.Output
import RemoteTerm.Proofs.World.Closing
import RemoteTerm.Proofs.World.Settling
import RemoteTerm.Proofs.Touch.Spacing
import RemoteTerm.Proofs.Touch.Ledger
import RemoteTerm.Proofs.Touch.Deadline
import RemoteTerm.Proofs.Config.Resolve
import RemoteTerm.Proofs.Config.Accepted
import RemoteTerm.Proofs.Config.Known
import RemoteTerm.Proofs.Config.Filled
import RemoteTerm.Proofs.Frame.Decode
import RemoteTerm.Proofs.Frame.Render
import RemoteTerm.Proofs.View.Clipboard
import RemoteTerm.Proofs.View.Usable
import RemoteTerm.Proofs.Surface.Console
import RemoteTerm.Proofs.View.Undisturbed
import RemoteTerm.Proofs.View.Status.Wire
