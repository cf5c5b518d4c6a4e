import CodeNavigator.Http.Router
import CodeNavigator.Main
import CodeNavigator.Navigator.Table
import CodeNavigator.Proofs.Definition.Classification
import CodeNavigator.Proofs.Definition.Position
import CodeNavigator.Proofs.Definition.Rejection
import CodeNavigator.Proofs.Definition.RoundTrip
import CodeNavigator.Proofs.Engine.Surfaces
import CodeNavigator.Proofs.Gate.Endings
import CodeNavigator.Proofs.Gate.FollowUp
import CodeNavigator.Proofs.Gate.Promise
import CodeNavigator.Proofs.Gate.Undoing
import CodeNavigator.Proofs.Json.NumberToken
import CodeNavigator.Proofs.Json.RoundTrip
import CodeNavigator.Proofs.Json.StringToken
import CodeNavigator.Proofs.Navigator.Printing
import CodeNavigator.Proofs.Navigator.Sameness
import CodeNavigator.Proofs.Oracle.Command
import CodeNavigator.Proofs.Refresher.Freshness
import CodeNavigator.Proofs.Workspace.BuildTargets
import CodeNavigator.Proofs.Workspace.Canonical
