import WatchParty.Config.Reader
import WatchParty.Outbox
import WatchParty.Scenario.Run
import WatchParty.Proofs.Server.Sound
import WatchParty.Proofs.Server.Calls
import WatchParty.Proofs.Handler.Requests
import WatchParty.Proofs.Interleaving
import WatchParty.Proofs.Membership
import WatchParty.Proofs.Rejection
import WatchParty.Proofs.Convergence
import WatchParty.Proofs.Script
import WatchParty.Proofs.Movement
import WatchParty.Proofs.Closing
import WatchParty.Proofs.Pace
import WatchParty.Proofs.Playback
import WatchParty.Proofs.Delivery
import WatchParty.Proofs.Server.Told
import WatchParty.Proofs.Handler.Along
import WatchParty.Proofs.Isolation
import WatchParty.Proofs.Server.Within
import WatchParty.Proofs.Absence
import WatchParty.Proofs.Handler.Heedless
import WatchParty.Proofs.Client
import WatchParty.Proofs.Position
import WatchParty.Proofs.Sighting
import WatchParty.Proofs.Replies
import WatchParty.Proofs.Joining
import WatchParty.Proofs.Destruction
import WatchParty.Proofs.Displacement
import WatchParty.Proofs.Announcement
import WatchParty.Proofs.Server.Coincide
import WatchParty.Proofs.Transfer
import WatchParty.Proofs.Commuting
import WatchParty.Proofs.Settling
import WatchParty.Proofs.Framing
import WatchParty.Proofs.View
import WatchParty.Proofs.Text.Percent
import WatchParty.Proofs.Page
import WatchParty.Proofs.Phase
import WatchParty.Proofs.Naming
