import TucServer.Main
import TucServer.Registry.World
import TucServer.Proofs.CommandLine
import TucServer.Proofs.Template.Rendering
import TucServer.Proofs.Template.Nested
import TucServer.Proofs.Template.Nesting
import TucServer.Proofs.Template.TabStops
import TucServer.Proofs.Template.Trees
import TucServer.Proofs.Registry.Reversal
import TucServer.Proofs.Completion.Clients
import TucServer.Proofs.Completion.Merge
import TucServer.Proofs.Server.Debugging
import TucServer.Proofs.Server.Synchronisation
import TucServer.Proofs.Server.Transcript
import TucServer.Proofs.Registry.Numbers
import TucServer.Proofs.Server.Handles
import TucServer.Proofs.Template.Descent.Safety
