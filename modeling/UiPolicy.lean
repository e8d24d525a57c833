import UiPolicy.Main
import UiPolicy.Proofs.Arguments.Enclosed
import UiPolicy.Proofs.Coding
import UiPolicy.Proofs.Command.Split
import UiPolicy.Proofs.Config.Load
import UiPolicy.Proofs.Context.Limit
import UiPolicy.Proofs.Element.Positions
import UiPolicy.Proofs.Engine.Independence
import UiPolicy.Proofs.Engine.LiveValue
import UiPolicy.Proofs.Menu.Calls
import UiPolicy.Proofs.Policy.Stable
import UiPolicy.Proofs.Session.Attributes
import UiPolicy.Proofs.Session.Flags
import UiPolicy.Proofs.Session.Live
import UiPolicy.Proofs.Session.Load
import UiPolicy.Proofs.Session.Menus
import UiPolicy.Proofs.Session.Submissions
import UiPolicy.Proofs.Engine.Typed
import UiPolicy.Proofs.Engine.Update
import UiPolicy.Proofs.Engine.Written
