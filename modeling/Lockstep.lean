import Lockstep.Main
import Lockstep.Proofs.Exchange.Lossless
import Lockstep.Proofs.Exchange.RelayedSafety
import Lockstep.Proofs.Exchange.Simulation
import Lockstep.Proofs.Session.Answers
import Lockstep.Proofs.Session.Publication
import Lockstep.Proofs.Session.Schedule
import Lockstep.Proofs.Packet.Language
import Lockstep.Proofs.Lock
import Lockstep.Proofs.Packet.RoundTrip
import Lockstep.Proofs.Session.Locking
import Lockstep.Proofs.Server.Basic
import Lockstep.Proofs.Session.Detached
import Lockstep.Proofs.Server.Isolation
import Lockstep.Proofs.Server.Spelling
import Lockstep.Proofs.Exchange.RelayedEnd
import Lockstep.Proofs.Fault.Playing
import Lockstep.Proofs.Store.Quota
import Lockstep.Proofs.Exchange.Relabelled
import Lockstep.Proofs.Session.Lifecycle
import Lockstep.Proofs.LockHistory
import Lockstep.Proofs.Session.Silence
import Lockstep.Proofs.Session.Host
import Lockstep.Proofs.Server.Staging
import Lockstep.Proofs.Fault.Script
import Lockstep.Proofs.Session.Acknowledging
import Lockstep.Proofs.Session.Accepting
import Lockstep.Proofs.Store.Handles
import Lockstep.Proofs.Packet.Views
import Lockstep.Proofs.Session.Linger
import Lockstep.Proofs.Session.BackOff
import Lockstep.Proofs.Fault.Rule
import Lockstep.Proofs.Session.Admission
import Lockstep.Proofs.Store.Replacing
import Lockstep.Proofs.Store.Confinement
import Lockstep.Proofs.Packet.Pieces
import Lockstep.Proofs.Fault.Damage
