import Blueprints.Request
import Blueprints.Proofs.Flow.Dag
import Blueprints.Proofs.Source.Topological
import Blueprints.Proofs.Source.Compiled
import Blueprints.Proofs.Settings.ReadBack
import Blueprints.Proofs.Schema.Filling
import Blueprints.Proofs.Library.Options
import Blueprints.Proofs.Settings.Precedence
import Blueprints.Proofs.Text.Identifier
import Blueprints.Proofs.Api.Grouping
import Blueprints.Proofs.Store.Secrets
