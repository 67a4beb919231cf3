import BeeTron.Values
import BeeTron.Headers
import BeeTron.HeaderExchange
import BeeTron.IndexStore
import BeeTron.CacheMigration
import BeeTron.SwapState
import BeeTron.SwapReceiveCheque
import BeeTron.SwapInterleaving
import BeeTron.SwapQueries
import BeeTron.SwapPayments
import BeeTron.SwapSettlements
import BeeTron.ReplicaPutter
import BeeTron.TopologyMock
import BeeTron.Steward
