import CompositeObjects.Configuration.Path
import CompositeObjects.Main
import CompositeObjects.CommandLine.Commands
import CompositeObjects.Proofs.MissingTypes
import CompositeObjects.Proofs.Exposure
import CompositeObjects.Proofs.Acceptance
import CompositeObjects.Proofs.DeclarationOrder
import CompositeObjects.Proofs.Renewal
import CompositeObjects.Proofs.Healing
import CompositeObjects.Proofs.Enrichment
import CompositeObjects.Proofs.Reload
import CompositeObjects.Proofs.Registration
import CompositeObjects.Proofs.FrameHook
import CompositeObjects.Proofs.EarlyLookups
import CompositeObjects.Proofs.Persistence
import CompositeObjects.Proofs.Renamed
import CompositeObjects.Proofs.Leftovers
import CompositeObjects.Proofs.RepeatedLoad
import CompositeObjects.Proofs.OwnTrees
import CompositeObjects.Proofs.Verdict
import CompositeObjects.Proofs.ContentEdits
import CompositeObjects.Proofs.HotReload
import CompositeObjects.Proofs.MethodCalls
import CompositeObjects.Proofs.CallDepth
import CompositeObjects.Proofs.HeaderComment
import CompositeObjects.Proofs.Literals
import CompositeObjects.Proofs.Warnings
import CompositeObjects.Proofs.Declarations
import CompositeObjects.Proofs.Inspection
import CompositeObjects.Proofs.Pairs
import CompositeObjects.Proofs.KindsInUse
import CompositeObjects.Proofs.PropertyCodec
