import DynamicMessage.AddressBook
import DynamicMessage.Main
import DynamicMessage.Message.Extensions
import DynamicMessage.Path
import DynamicMessage.Proofs.Wire.Boundary
import DynamicMessage.Proofs.Wire.Cutting
import DynamicMessage.Proofs.Wire.Delimiting
import DynamicMessage.Proofs.Wire.Wrapping
import DynamicMessage.Proofs.Wire.Tiling
import DynamicMessage.Proofs.Program
import DynamicMessage.Proofs.Typing
import DynamicMessage.Proofs.Refusals
import DynamicMessage.Proofs.HiddenRows.Unobservable
import DynamicMessage.Proofs.Message.Invariant
import DynamicMessage.Proofs.Unknown.Calls
import DynamicMessage.Proofs.Unknown.Pieces
import DynamicMessage.Proofs.Message.Oneof
import DynamicMessage.Proofs.Message.Rebuild
import DynamicMessage.Proofs.Message.LastWrite
import DynamicMessage.Proofs.Message.DefaultValues
import DynamicMessage.Proofs.Message.Acceptance
import DynamicMessage.Proofs.Unknown.Acceptance
import DynamicMessage.Proofs.Wire.Opacity
import DynamicMessage.Proofs.Message.Independence
import DynamicMessage.Proofs.Message.Filling
import DynamicMessage.Proofs.Message.Registration
import DynamicMessage.Proofs.Schema.Lookups
import DynamicMessage.Proofs.Vector.Replay
import DynamicMessage.Proofs.Views
import DynamicMessage.Proofs.Map.Replay
import DynamicMessage.Proofs.Hex
import DynamicMessage.Proofs.CommandLine.Listing
import DynamicMessage.Proofs.Wire.Codec
import DynamicMessage.Proofs.Casing.Styles
