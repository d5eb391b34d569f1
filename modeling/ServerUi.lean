import ServerUi.Builder.Custom
import ServerUi.Main
import ServerUi.Proofs.Action.Dispatch
import ServerUi.Proofs.Console.Printed
import ServerUi.Proofs.Document.Load
import ServerUi.Proofs.Image.Shown
import ServerUi.Proofs.Render.Congruence
import ServerUi.Proofs.Render.Faithful
import ServerUi.Proofs.Render.Frame
import ServerUi.Proofs.Render.Independence
import ServerUi.Proofs.Render.Restyled
import ServerUi.Proofs.Render.Trace
import ServerUi.Proofs.Render.Views
import ServerUi.Proofs.Session.Cells
import ServerUi.Proofs.Session.Choice
import ServerUi.Proofs.Session.Distinct
import ServerUi.Proofs.Session.Independence
import ServerUi.Proofs.Session.Origin
import ServerUi.Proofs.Session.Press
import ServerUi.Proofs.Session.Subscribers
import ServerUi.Proofs.Settings.Load
import ServerUi.Proofs.Style.Packed
import ServerUi.Proofs.Style.Total
import ServerUi.Proofs.Builder.Records
import ServerUi.Proofs.Render.Failures
import ServerUi.Proofs.Render.Reported
