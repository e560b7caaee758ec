import Navarkos.GoInt
import Navarkos.Cluster
import Navarkos.Rules
import Navarkos.Controller
import Navarkos.Stats
import Navarkos.Pass
import Navarkos.Runs
import Navarkos.Interleaving
import Navarkos.Lifecycle
import Navarkos.Scaling
import Navarkos.ListingOrder
import Navarkos.Safety
