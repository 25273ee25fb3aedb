import FlexRic.Theorems.Net.Calls
import FlexRic.Theorems.Net.Subscriptions
import FlexRic.Theorems.XApp.SyncAnswers
import FlexRic.Theorems.Ric.Routing
import FlexRic.Theorems.Ric.NodeSets
import FlexRic.Theorems.Agent.AsyncQueue
import FlexRic.Theorems.Agent.AsyncDeletes
import FlexRic.Theorems.Agent.Setup
import FlexRic.Theorems.XApp.Registration
import FlexRic.Theorems.Ds.BiMap
import FlexRic.Theorems.Ds.AssocIteration
import FlexRic.Theorems.Ds.TaskManager
import FlexRic.Theorems.Sm.Kpm.TransferSyntax
import FlexRic.Theorems.E2ap.RoundTrip
import FlexRic.Theorems.Sm.Tc.Control
import FlexRic.Theorems.Sm.Tc.Indication
import FlexRic.Theorems.XApp.Delivery
import FlexRic.Theorems.Sm.Rc.Subscription
import FlexRic.Theorems.Sm.Rc.Ctrl
import FlexRic.Theorems.Sm.Rc.Copy
import FlexRic.Theorems.Sm.Rc.Eq
import FlexRic.Theorems.Sm.FuncDef
import FlexRic.Theorems.E2ap.SetupRoundTrip
import FlexRic.Theorems.Sm.Slice.Untrusted
import FlexRic.Theorems.Comparators
import FlexRic.Theorems.Ric.PubSub
import FlexRic.Theorems.Sm.Slice.Eq
import FlexRic.Theorems.Sm.Mac.Ind
import FlexRic.Theorems.Util.Conversions
import FlexRic.Theorems.Ds.AssocReg
import FlexRic.Theorems.Ric.Broadcasts
import FlexRic.Theorems.Ue.RoundTrip
import FlexRic.Theorems.Ue.Eq
import FlexRic.Theorems.Sm.Kpm.RoundTrip
import FlexRic.Theorems.Sm.Kpm.Eq
import FlexRic.Theorems.Sm.Tc.Eq
import FlexRic.Theorems.Sm.Untrusted
import FlexRic.Theorems.Ric.SetupAnswer
import FlexRic.Theorems.Ds.SeqRing
import FlexRic.Theorems.Ds.SeqArr
import FlexRic.Theorems.Ds.AssocHtOpen
import FlexRic.Theorems.IApp.StringParser
import FlexRic.Theorems.Sm.Kpm.Buffers
import FlexRic.Theorems.E2ap.MessageEq
