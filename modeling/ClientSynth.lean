import ClientSynth.Main
import ClientSynth.Proofs.Audited
import ClientSynth.Proofs.Bindings
import ClientSynth.Proofs.CallingConvention
import ClientSynth.Proofs.ClientCalls
import ClientSynth.Proofs.Collisions
import ClientSynth.Proofs.Delivery
import ClientSynth.Proofs.DiagnosticTable
import ClientSynth.Proofs.DocComments
import ClientSynth.Proofs.Duplicates
import ClientSynth.Proofs.HeadComments
import ClientSynth.Proofs.ImportLines
import ClientSynth.Proofs.Interfaces
import ClientSynth.Proofs.KeyOrder
import ClientSynth.Proofs.KnownTypes
import ClientSynth.Proofs.Loading
import ClientSynth.Proofs.Order
import ClientSynth.Proofs.Precedence
import ClientSynth.Proofs.QueryKeys
import ClientSynth.Proofs.Rebuilding
import ClientSynth.Proofs.ReportedOnce
import ClientSynth.Proofs.SafeNames
import ClientSynth.Proofs.SameStatus
import ClientSynth.Proofs.Shapes
import ClientSynth.Proofs.SharedKeys
import ClientSynth.Proofs.Store
import ClientSynth.Proofs.TemplateLiterals
import ClientSynth.Proofs.TypesAudit
import ClientSynth.Proofs.UsableNames
